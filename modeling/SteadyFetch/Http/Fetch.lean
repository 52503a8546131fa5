import SteadyFetch.Http.Redirect
import SteadyFetch.Http.Wire
import SteadyFetch.Text.Base64

set_option autoImplicit false

/-! # Fetching

A request is sent, its response read, and redirects followed with the same headers, one connection
each. What all responses reported is one transfer. -/

namespace SteadyFetch

/-- A request for a target. -/
structure HttpRequest where
  target : Target
  headers : List (String × String)
  deriving DecidableEq

namespace HttpRequest

/-- The first line of a request. -/
def firstLine (r : HttpRequest) : String :=
  String.ofList ("GET ".toList ++ r.target.requestText ++ " HTTP/1.1".toList)

/-- The header lines of the request; a header without a value is not sent. -/
def headerLines (r : HttpRequest) : List String :=
  (r.headers.filter fun h => !(trimText h.2).isEmpty).map fun (name, value) => s!"{name}: {value}"

/-- The host that a request names. -/
def host (r : HttpRequest) : List Char :=
  (r.target.authority.reverse.takeWhile (· != '@')).reverse

/-- The user in whose name a request is made, with a password after a colon. -/
def credentials (r : HttpRequest) : Option Bytes :=
  match (r.target.authority.take (r.target.authority.length - r.host.length)).dropLast with
  | [] => none
  | user => some (Percent.decode (if user.contains ':' then user else user ++ [':']))

/-- The lines of the head: the target, the connection, which serves this request alone, and the
    headers of the request. -/
def lines (r : HttpRequest) : List String :=
  let authorization := r.credentials.map fun c => s!"Authorization: Basic {Base64.encode c}"
  r.firstLine :: s!"Host: {String.ofList r.host}" :: "Accept: */*" :: "Connection: close"
    :: (authorization.toList ++ r.headerLines)

/-- The request on the wire. -/
def octets (r : HttpRequest) : Bytes :=
  Utf8.encode (String.join (r.lines.map (· ++ "\r\n")) ++ "\r\n")

end HttpRequest

/-- Sends requests, each over a connection of its own, in a context `m` of effects. -/
structure Network (m : Type → Type) where
  exchange : HttpRequest → m Reception

namespace Network

variable {m : Type → Type} [Monad m]

/-- The most redirects that are followed. -/
def maxRedirects : Nat := 30

/-- Sends a request and follows redirects, at most so many; `before` is what earlier responses
    reported. -/
def follow (network : Network m) (headers : List (String × String)) (before : List TransferEvent)
    (left : Nat) (target : Target) : m Transfer := do
  let response := Wire.read (← network.exchange ⟨target, headers⟩)
  let events := before ++ response.events
  match response.redirect with
  | none => return ⟨events, response.failure, response.status⟩
  | some location =>
    match left with
    | 0 => return ⟨events, some .tooManyRedirects, response.status⟩
    | left + 1 =>
      match target.redirected location with
      | .error code => return ⟨events, some code, response.status⟩
      | .ok target => network.follow headers events left target

/-- Fetches a target. -/
def fetch (network : Network m) (request : HttpRequest) : m Transfer :=
  network.follow request.headers [] maxRedirects request.target

end Network

end SteadyFetch
