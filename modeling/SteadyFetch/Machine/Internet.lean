import SteadyFetch.Http.Fetch
import SteadyFetch.Text.Numeral
import Std.Async.DNS
import Std.Async.TCP

set_option autoImplicit false

/-! # The Internet

Requests go over TCP connections of the machine. The response is what the other side sends until it
closes the connection. -/

namespace SteadyFetch.Internet

open Std.Net Std.Async

/-- Where the host of a request listens. -/
structure Listener where
  /-- A name, or an address without brackets. -/
  host : String
  port : UInt16

/-- Splits a host at the colon before its port. -/
def splitPort (host : List Char) : List Char × Option Nat :=
  let behind := (host.reverse.takeWhile fun c => c != ':' && c != ']').reverse
  let before := host.take (host.length - behind.length)
  if before.getLast? = some ':' then (before.dropLast, Numeral.below? 65536 behind)
  else (host, none)

/-- The listener of a target; the port of the scheme if it names none. -/
def Listener.of (request : HttpRequest) : Listener :=
  let (host, port) := splitPort request.host
  let bare := host.filter fun c => c != '[' && c != ']'
  ⟨String.ofList bare, (port.getD 80).toUInt16⟩

/-- An address with a port. -/
def socketAddress (port : UInt16) : IPAddr → SocketAddress
  | .v4 address => .v4 ⟨address, port⟩
  | .v6 address => .v6 ⟨address, port⟩

/-- Connects to the first address that answers. -/
def connectAny (port : UInt16) : List IPAddr → IO (Option TCP.Socket.Client)
  | [] => return none
  | address :: others => do
    let socket ← TCP.Socket.Client.mk
    try
      (socket.connect (socketAddress port address)).block
      return some socket
    catch _ => connectAny port others

/-- The octets of one receipt. -/
def pieceSize : UInt64 := 65536

/-- Receives until the connection is closed; `got` holds what came so far, latest first. -/
partial def receive (socket : TCP.Socket.Client) (got : List Bytes) : IO Reception := do
  try
    match ← (socket.recv? pieceSize).block with
    | none => return ⟨got.reverse.flatten, none⟩
    | some piece => receive socket (piece.toList :: got)
  catch _ => return ⟨got.reverse.flatten, some .receiveFailed⟩

/-- A reception without a connection. -/
def refused (code : TransferCode) : Reception := ⟨[], some code⟩

/-- Sends a request and receives the response. -/
def converse (socket : TCP.Socket.Client) (request : HttpRequest) : IO Reception := do
  try
    (socket.send ⟨request.octets.toArray⟩).block
  catch _ => return refused .sendFailed
  receive socket []

/-- Makes a request over a connection of its own. -/
def exchange (request : HttpRequest) : IO Reception := do
  if request.target.scheme != "http".toList then return refused .unsupported
  let listener := Listener.of request
  let addresses ← try
      (DNS.getAddrInfo listener.host s!"{listener.port}").block
    catch _ => pure #[]
  if addresses.isEmpty then return refused .couldNotResolveHost
  match ← connectAny listener.port addresses.toList with
  | none => return refused .couldNotConnect
  | some socket => converse socket request

/-- The network of the machine. -/
def network : Network IO where
  exchange := exchange

end SteadyFetch.Internet
