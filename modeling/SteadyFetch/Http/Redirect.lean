import SteadyFetch.Fault.TransferCode
import SteadyFetch.Text.Blank
import SteadyFetch.Url.Parse

set_option autoImplicit false

/-! # Redirects

Where a request goes next when a response sends it elsewhere. The new place is a URL of its own, or
stands relative to the present one: after the scheme, the host, the last slash of the path, or the
path. What a request line cannot hold is encoded. -/

namespace SteadyFetch

/-- Where a request is sent, as it stands on the wire. -/
structure Target where
  scheme : List Char
  /-- User, host and port. -/
  authority : List Char
  /-- Empty, or with a slash at its start. -/
  path : List Char
  query : Option (List Char)
  deriving DecidableEq

namespace Target

/-- The target of a URL. -/
def ofUrl (u : Url) : Target where
  scheme := u.scheme
  authority := u.authorityText.drop 2
  path := u.pathText
  query := u.query

/-- What the request line names. -/
def requestText (t : Target) : List Char :=
  (if t.path.isEmpty then ['/'] else t.path) ++ Url.marked '?' t.query

/-- The octets of a place that stand for themselves. -/
def isPlain (c : Char) : Bool := 0x20 < c.toNat && c.toNat < 0x7F

/-- An octet as `%` and two lower-case digits. -/
def lowerTriple (c : Char) : List Char := ['%', hexDigit (c.toNat / 16), hexDigit (c.toNat % 16)]

/-- Encodes what a request line cannot hold; a space is `%20` before the query and `+` in it. -/
def encodePlace (inQuery : Bool) : List Char → List Char
  | [] => []
  | c :: cs =>
    let rest := encodePlace (inQuery || c == '?') cs
    if c = ' ' then (if inQuery then '+' :: rest else '%' :: '2' :: '0' :: rest)
    else if isPlain c then c :: rest
    else lowerTriple c ++ rest

/-- A path without dots. -/
def cleanPath (path : List Char) : List Char :=
  match path with
  | '/' :: rest => Url.segmentsText (Url.resolveDots [] (Url.splitPath false rest))
  | _ => path

/-- The target with another path and query, whose text is encoded; a fragment does not count. -/
def withPlace (t : Target) (place : List Char) : Target :=
  let place := place.takeWhile (· != '#')
  let path := cleanPath (place.takeWhile (· != '?'))
  let query := match place.dropWhile (· != '?') with
    | _ :: query => some query
    | [] => none
  { t with path, query }

/-- Whether a character ends an authority. -/
def endsHost (c : Char) : Bool := c == '/' || c == '?' || c == '#'

/-- The target that an authority and what follows it name. -/
def ofHost (scheme : List Char) (cs : List Char) : Except TransferCode Target :=
  let authority := cs.takeWhile fun c => !endsHost c
  if authority.isEmpty then .error .malformedAddress
  else
    .ok (withPlace ⟨scheme, authority, [], none⟩ (encodePlace false (cs.drop authority.length)))

/-- A scheme and what follows its colon. -/
def splitScheme? (cs : List Char) : Option (List Char × List Char) :=
  let scheme := cs.takeWhile fun c => c.isAlphanum || c == '+' || c == '-' || c == '.'
  match scheme, cs.drop scheme.length with
  | c :: _, ':' :: rest => if c.isAlpha then some (lowerAscii scheme, rest) else none
  | _, _ => none

/-- Whether requests of a scheme can be made. -/
def isServed (scheme : List Char) : Bool := scheme == "http".toList || scheme == "https".toList

/-- The target of a whole URL after its scheme: one to three slashes, then the host. -/
def ofWhole (location scheme rest : List Char) : Except TransferCode Target :=
  let slashes := (rest.takeWhile (· == '/')).length
  if location.any fun c => c.toNat < 0x20 || c.toNat == 0x7F then .error .malformedAddress
  else if !isServed scheme then .error .unsupported
  else if slashes = 0 ∨ 3 < slashes then .error .malformedAddress
  else ofHost scheme (rest.drop slashes)

/-- The part of a path up to its last slash. -/
def directoryOf (path : List Char) : List Char := (path.reverse.dropWhile (· != '/')).reverse

/-- Where a response with the given location sends a request. -/
def redirected (t : Target) (location : List Char) : Except TransferCode Target :=
  match splitScheme? location with
  | some (scheme, rest) => ofWhole location scheme rest
  | none =>
    match location with
    | '/' :: '/' :: rest => ofHost t.scheme rest
    | '/' :: _ => .ok (t.withPlace (encodePlace false location))
    | '#' :: _ => .ok t
    | '?' :: _ => .ok (t.withPlace (t.path ++ encodePlace false location))
    | _ => .ok (t.withPlace (directoryOf t.path ++ encodePlace false location))

end Target

end SteadyFetch
