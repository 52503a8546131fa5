import SteadyFetch.Channel.Opener
import SteadyFetch.Http.Fetch
import SteadyFetch.Http.MediaRequest
import SteadyFetch.Http.Verdict

set_option autoImplicit false

/-! # Opening objects over HTTP

An open makes the request, waits for the head of its response, and judges it. A body that holds the
octets asked for becomes a stream; the body of a refusal becomes the message of the fault. -/

namespace SteadyFetch

/-- The octets of an error message that are kept. -/
def maxErrorBody : Nat := 4096

/-- Collects the body of a refusal behind what came of it so far: chunk by chunk, up to the end of the
    transfer, or until there is enough of it for a message. -/
def collectRefusal (got : Bytes) : List Frame → Bytes
  | [] => got
  | .body bs :: rest =>
    if maxErrorBody ≤ (got ++ bs).length then (got ++ bs).take maxErrorBody
    else collectRefusal (got ++ bs) rest
  | .done _ :: _ => got
  | .head _ _ :: rest => collectRefusal got rest

/-- The message in the body of a refusal. -/
def errorBody (frames : List Frame) : String :=
  trimText (Utf8.decodeLossy (collectRefusal [] frames))

/-- Opens a response by its frames. -/
def openFrames (range : ByteRange) (frames : List Frame) : Except Fault (Opened BodyStream) :=
  match frames with
  | .head status lines :: rest =>
    match judge range status lines with
    | .content => .ok ⟨.ofFrames rest, generationOf? lines⟩
    | .pastEnd => .ok ⟨.empty, generationOf? lines⟩
    | .misplaced message => .error (.status status message)
    | .failed => .error (.status status (errorBody rest))
  | .done (some code) :: _ => .error (.transfer code)
  | .done none :: _ => .error (.other "transfer produced no response head")
  | .body _ :: _ => .error (.other "transfer produced no response head")
  | [] => .error (.other "transfer thread exited before responding")

/-- The request for the media of an object at an endpoint. -/
def mediaRequest (endpoint : Url) (r : ReadRequest) (pin : Option Int) :
    Except Fault HttpRequest := do
  let url ← r.mediaUrl endpoint pin
  return ⟨.ofUrl url, ← r.mediaHeaders⟩

/-- Opens objects at an endpoint of the service. -/
def httpOpener {m : Type → Type} [Monad m] (network : Network m) (endpoint : Url) :
    Opener m BodyStream where
  openAt r pin := do
    match mediaRequest endpoint r pin with
    | .error fault => return .error fault
    | .ok request => return openFrames r.range (← network.fetch request).frames
  read stream sizes := return stream.readInto sizes

end SteadyFetch
