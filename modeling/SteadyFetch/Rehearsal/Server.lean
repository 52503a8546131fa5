import SteadyFetch.Rehearsal

set_option autoImplicit false

/-! # A rehearsed server

What a server writes to the wire for one request, and a server that replies in turn. -/

namespace SteadyFetch

/-- A reply of a server. -/
structure Reply where
  /-- Interim heads, without the empty lines after them. -/
  interim : List Bytes
  /-- Status and reason. -/
  status : Bytes
  headers : List Bytes
  body : Bytes
  /-- Whether the length of the body is announced. -/
  announced : Bool
  /-- The octets of the body after which the connection is closed. -/
  cut : Option Nat

namespace Reply

/-- A line with its line break. -/
def lineOf (bs : Bytes) : Bytes := bs ++ Utf8.encode "\r\n"

/-- The lines of the head. -/
def lines (r : Reply) : List Bytes :=
  (Utf8.encode "HTTP/1.1 " ++ r.status) :: r.headers
    ++ (if r.announced then [Utf8.encode s!"Content-Length: {r.body.length}"] else [])
    ++ [Utf8.encode "Connection: close"]

/-- The part of the body that is sent. -/
def sent (r : Reply) : Bytes :=
  match r.cut with
  | some n => r.body.take n
  | none => r.body

/-- The reply on the wire. -/
def octets (r : Reply) : Bytes :=
  r.interim.flatMap (fun head => lineOf (lineOf head))
    ++ lineOf (r.lines.flatMap lineOf) ++ r.sent

/-- The reply of a server that has no other. -/
def notImplemented : Reply where
  interim := []
  status := Utf8.encode "501 Not Implemented"
  headers := []
  body := Utf8.encode "script exhausted"
  announced := true
  cut := none

end Reply

namespace Rehearsal

/-- Takes a request and gives the next reply. -/
def replyNext (request : HttpRequest) (r : Rehearsal) : Reception × Rehearsal :=
  let r := { r with requests := request :: r.requests }
  match r.replies with
  | [] => (⟨Reply.notImplemented.octets, none⟩, r)
  | reply :: rest => (reply, { r with replies := rest })

/-- A network on which one server replies to every request. -/
def network : Network (StateM Rehearsal) where
  exchange := replyNext

end Rehearsal

end SteadyFetch
