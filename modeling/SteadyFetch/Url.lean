import SteadyFetch.Url.Form
import SteadyFetch.Url.Percent

set_option autoImplicit false

/-! # URLs

A URL by its parts, as it is after parsing: scheme and host in lower case, a default port left out,
dots in the path resolved, everything encoded that has to be. A path is a list of segments, each
after a slash, unless it does not start with one; then it is a text without structure. -/

namespace SteadyFetch

/-- The path of a URL. -/
inductive UrlPath where
  /-- Segments, each after a slash. -/
  | rooted (segments : List (List Char))
  /-- A text that does not start with a slash. -/
  | rootless (text : List Char)
  deriving DecidableEq

/-- A URL by its parts. -/
structure Url where
  scheme : List Char
  /-- User name and perhaps password, with the `@` after them. -/
  userinfo : List Char
  /-- The host; none where the URL has no authority, empty where it has one without a host. -/
  host : Option (List Char)
  port : Option Nat
  path : UrlPath
  query : Option (List Char)
  fragment : Option (List Char)
  deriving DecidableEq

/-- Why a text is no URL. -/
inductive UrlError where
  | relativeWithoutBase
  | emptyHost
  | invalidPort
  | invalidIpv4Address
  | invalidIpv6Address
  | invalidDomainCharacter
  | invalidDomainName
  deriving DecidableEq, Repr

/-- The wording of each cause. -/
def UrlError.message : UrlError → String
  | .relativeWithoutBase => "relative URL without a base"
  | .emptyHost => "empty host"
  | .invalidPort => "invalid port number"
  | .invalidIpv4Address => "invalid IPv4 address"
  | .invalidIpv6Address => "invalid IPv6 address"
  | .invalidDomainCharacter => "invalid domain character"
  | .invalidDomainName => "invalid international domain name"

namespace Url

/-- Schemes whose URLs have an authority and a hierarchical path. -/
def specialSchemes : List String := ["http", "https", "ws", "wss", "ftp", "file"]

/-- Whether a scheme is special. -/
def isSpecialScheme (scheme : List Char) : Bool := specialSchemes.any fun s => s.toList == scheme

/-- The port that a scheme implies. -/
def defaultPort? (scheme : List Char) : Option Nat :=
  if scheme = "http".toList ∨ scheme = "ws".toList then some 80
  else if scheme = "https".toList ∨ scheme = "wss".toList then some 443
  else if scheme = "ftp".toList then some 21
  else none

/-- The segments of a path, each after a slash. -/
def segmentsText (segments : List (List Char)) : List Char := segments.flatMap ('/' :: ·)

/-- The authority with the slashes before it, or nothing. A path that would look like an authority
    is kept apart by a dot. -/
def authorityText (u : Url) : List Char :=
  match u.host with
  | some host =>
    let port := match u.port with
      | some port => ':' :: (toString port).toList
      | none => []
    '/' :: '/' :: u.userinfo ++ host ++ port
  | none =>
    match u.path with
    | .rooted ([] :: _ :: _) => ['/', '.']
    | _ => []

/-- Path and query: what a request asks the host for. -/
def pathText (u : Url) : List Char :=
  match u.path with
  | .rooted segments => segmentsText segments
  | .rootless text => text

/-- A query or a fragment after its mark, if there is one. -/
def marked (mark : Char) : Option (List Char) → List Char
  | some text => mark :: text
  | none => []

/-- The URL as text. -/
def chars (u : Url) : List Char :=
  u.scheme ++ ':' :: u.authorityText ++ u.pathText ++ marked '?' u.query ++ marked '#' u.fragment

/-- The URL as text. -/
def text (u : Url) : String := String.ofList u.chars

/-! ## Extending -/

/-- Whether a segment, encoded or not, means the directory itself. -/
def isSingleDot (segment : List Char) : Bool :=
  ["." , "%2e", "%2E"].any fun s => s.toList == segment

/-- Whether a segment, encoded or not, means the directory above. -/
def isDoubleDot (segment : List Char) : Bool :=
  ["..", "%2e%2e", "%2e%2E", "%2E%2e", "%2E%2E", "%2e.", "%2E.", ".%2e", ".%2E"].any fun s =>
    s.toList == segment

/-- Appends the last segment of a path, resolving dots. -/
def closePath (segments : List (List Char)) (last : List Char) : List (List Char) :=
  if isDoubleDot last then segments.dropLast ++ [[]]
  else if isSingleDot last then segments ++ [[]]
  else segments ++ [last]

/-- Whether a character is dropped wherever it stands in a URL. -/
def isDropped (c : Char) : Bool := c == '\t' || c == '\n' || c == '\r'

/-- The segments without an empty one at the end, unless that is the only one. -/
def dropEmptyEnd (segments : List (List Char)) : List (List Char) :=
  if 2 ≤ segments.length && segments.getLast? == some [] then segments.dropLast else segments

/-- Appends a text as one segment. The names of the directory itself and of the one above are left
    out; a path that consists of one empty segment is replaced. -/
def pushSegment (special : Bool) (segments : List (List Char)) (name : List Char) :
    List (List Char) :=
  if name = ['.'] ∨ name = ['.', '.'] then segments
  else
    let set := if special then Percent.specialSegmentSet else Percent.segmentSet
    let before := if segments = [[]] then [] else segments
    closePath before (Percent.encode set (name.filter fun c => !isDropped c))

/-- Appends texts to the path, each as one segment. None for a path that does not start with a
    slash. -/
def pushSegments? (u : Url) (names : List String) : Option Url :=
  match u.path with
  | .rootless _ => none
  | .rooted segments =>
    let special := isSpecialScheme u.scheme
    let extended := names.foldl (fun segments name => pushSegment special segments name.toList)
      (dropEmptyEnd segments)
    some { u with path := .rooted extended }

/-- Appends pairs to the query. -/
def appendPairs (u : Url) (pairs : List (String × String)) : Url :=
  { u with query := some (Form.appendPairs (u.query.getD []) pairs) }

end Url

end SteadyFetch
