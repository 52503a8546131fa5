import SteadyFetch.Fault
import SteadyFetch.Object.Request
import SteadyFetch.Url

set_option autoImplicit false

/-! # Media requests

How a read request is put to the service: the URL of the object's media, in which bucket and name are
one segment each, and the headers for range and key. Nothing that a caller chooses can end a segment,
a query parameter or a header. -/

namespace SteadyFetch

namespace ReadRequest

/-- The segments below the endpoint's path. -/
def mediaSegments (r : ReadRequest) : List String :=
  ["storage", "v1", "b", r.object.bucket, "o", r.object.name]

/-- A parameter that is only sent where it has a value. -/
def parameter (name : String) (value : Option Int) : List (String × String) :=
  value.toList.map fun n => (name, toString n)

/-- The query parameters. A generation that the object names wins over the pinned one. -/
def mediaParameters (r : ReadRequest) (pin : Option Int) : List (String × String) :=
  ("alt", "media")
    :: parameter "generation" (r.object.generation <|> pin)
    ++ parameter "ifGenerationMatch" r.options.ifGenerationMatch
    ++ parameter "ifGenerationNotMatch" r.options.ifGenerationNotMatch
    ++ parameter "ifMetagenerationMatch" r.options.ifMetagenerationMatch
    ++ parameter "ifMetagenerationNotMatch" r.options.ifMetagenerationNotMatch
    ++ r.options.userProject.toList.map fun project => ("userProject", project)

/-- The URL of the object's media at an endpoint. -/
def mediaUrl (r : ReadRequest) (endpoint : Url) (pin : Option Int) : Except Fault Url :=
  match endpoint.pushSegments? r.mediaSegments with
  | none => .error (.other s!"endpoint {endpoint.text} cannot be a base URL")
  | some url => .ok (url.appendPairs (r.mediaParameters pin))

/-- Headers that hand over an encryption key; a text that is no base64 makes none. -/
def keyHeaders (key : EncryptionKey) : Except Fault (List (String × String)) :=
  match key.digest with
  | .error e => .error (.other s!"invalid encryption key: {e.message}")
  | .ok digest => .ok [("x-goog-encryption-algorithm", "AES256"),
      ("x-goog-encryption-key", key.base64), ("x-goog-encryption-key-sha256", digest)]

/-- The headers of one open. -/
def mediaHeaders (r : ReadRequest) : Except Fault (List (String × String)) := do
  let range := r.range.header?.toList.map fun value => ("Range", value)
  match r.options.encryptionKey with
  | none => return range
  | some key => return range ++ (← keyHeaders key)

end ReadRequest

end SteadyFetch
