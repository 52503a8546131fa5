import SteadyFetch.Url
import SteadyFetch.Url.Address
import SteadyFetch.Url.DomainName

set_option autoImplicit false

/-! # Reading URLs

Reads an absolute URL. Controls and spaces around it and tabs and line breaks anywhere in it are
dropped first. What follows the scheme depends on it: special schemes have an authority however many
slashes are written, others only after two slashes. -/

namespace SteadyFetch.Url

/-! ## Hosts -/

/-- Characters that no host of a scheme that is not special holds. -/
def forbiddenHost : List Char :=
  ['\x00', '\t', '\n', '\r', ' ', '#', '/', ':', '<', '>', '?', '@', '[', '\\', ']', '^', '|']

/-- The inside of an address in brackets. -/
def bracketed (cs : List Char) : Except UrlError (List Char) := do
  if cs.getLast? ≠ some ']' then throw .invalidIpv6Address
  match Address.ipv6? (cs.dropLast.drop 1) with
  | some pieces => return (s!"[{Address.ipv6Text pieces}]").toList
  | none => throw .invalidIpv6Address

/-- The host of a special scheme: an address, or a domain name in its ASCII form. -/
def specialHost (cs : List Char) : Except UrlError (List Char) := do
  if cs.head? = some '[' then bracketed cs
  else
    match DomainName.toAscii? (Percent.decode cs) with
    | none => throw .invalidDomainName
    | some [] => throw .emptyHost
    | some domain =>
      if Address.endsInNumber domain then
        match Address.ipv4? domain with
        | some n => return (Address.ipv4Text n).toList
        | none => throw .invalidIpv4Address
      else return domain

/-- The host of a scheme that is not special: an address in brackets, or any text. -/
def plainHost (cs : List Char) : Except UrlError (List Char) := do
  if cs.head? = some '[' then bracketed cs
  else if cs.any forbiddenHost.contains then throw .invalidDomainCharacter
  else return Percent.encode [] cs

/-- Splits before the first character that ends a host; colons in brackets do not. -/
def spanHost (special : Bool) (inBrackets : Bool) : List Char → List Char × List Char
  | [] => ([], [])
  | c :: cs =>
    if c = '/' ∨ c = '?' ∨ c = '#' ∨ (special ∧ c = '\\') ∨ (c = ':' ∧ inBrackets = false) then
      ([], c :: cs)
    else
      let inBrackets := if c = '[' then true else if c = ']' then false else inBrackets
      let (host, rest) := spanHost special inBrackets cs
      (c :: host, rest)

/-! ## Authorities -/

/-- Whether a character ends an authority. -/
def endsAuthority (special : Bool) (c : Char) : Bool :=
  c == '/' || c == '?' || c == '#' || (special && c == '\\')

/-- User name and perhaps password, with the `@` after them; a colon before an empty password goes. -/
def userinfoText (cs : List Char) : List Char :=
  let name := cs.takeWhile (· != ':')
  let password := (cs.drop name.length).drop 1
  let encode := Percent.encode Percent.userinfoSet
  if name.isEmpty && password.isEmpty then []
  else if password.isEmpty then encode name ++ ['@']
  else encode name ++ ':' :: encode password ++ ['@']

/-- Splits a text after its last `@` up to the end of the authority: what stands before it, if there
    is one, and what follows. -/
def spanUserinfo (special : Bool) (cs : List Char) : Option (List Char) × List Char :=
  let authority := cs.takeWhile fun c => !endsAuthority special c
  if authority.contains '@' then
    let host := (authority.reverse.takeWhile (· != '@')).reverse
    let userinfo := authority.take (authority.length - host.length - 1)
    (some userinfo, cs.drop (userinfo.length + 1))
  else (none, cs)

/-- A port after its colon; none if it is the scheme's own or missing. -/
def readPort (scheme : List Char) (cs : List Char) : Except UrlError (Option Nat × List Char) := do
  let ds := cs.takeWhile Char.isDigit
  let rest := cs.drop ds.length
  let port : Nat := ds.foldl (fun n c => n * 10 + (c.toNat - 48)) 0
  if 65535 < port then throw .invalidPort
  match rest with
  | [] => pure ()
  | c :: _ => if c = '/' ∨ c = '\\' ∨ c = '?' ∨ c = '#' then pure () else throw .invalidPort
  if ds.isEmpty || some port == defaultPort? scheme then return (none, rest)
  else return (some port, rest)

/-- What an authority says. -/
structure Authority where
  userinfo : List Char
  host : List Char
  port : Option Nat

/-- Reads an authority. -/
def readAuthority (scheme : List Char) (cs : List Char) :
    Except UrlError (Authority × List Char) := do
  let special := isSpecialScheme scheme
  let (user, rest) := spanUserinfo special cs
  if user = some [] then
    match rest with
    | c :: _ => if endsAuthority special c then throw .emptyHost
    | [] => pure ()
  let userinfo := userinfoText (user.getD [])
  let (hostText, rest) := spanHost special false rest
  if special && hostText.isEmpty then throw .emptyHost
  let host ← if special then specialHost hostText else plainHost hostText
  if host.isEmpty && rest.head? == some ':' then throw .emptyHost
  let (port, rest) ← match rest with
    | ':' :: rest => readPort scheme rest
    | _ => pure (none, rest)
  if host.isEmpty && !userinfo.isEmpty then throw .emptyHost
  return (⟨userinfo, host, port⟩, rest)

/-! ## Paths, queries, fragments -/

/-- Whether a character ends a segment. -/
def endsSegment (special : Bool) (c : Char) : Bool := c == '/' || (special && c == '\\')

/-- The pieces of a path between slashes; as many as there are slashes, and one. -/
def splitPath (special : Bool) : List Char → List (List Char)
  | [] => [[]]
  | c :: cs =>
    match splitPath special cs with
    | piece :: pieces =>
      if endsSegment special c then [] :: piece :: pieces else (c :: piece) :: pieces
    | [] => [[c]]

/-- Appends the segments of a path, resolving dots. -/
def resolveDots (done : List (List Char)) : List (List Char) → List (List Char)
  | [] => done
  | [last] => closePath done last
  | segment :: rest =>
    if isDoubleDot segment then resolveDots done.dropLast rest
    else if isSingleDot segment then resolveDots done rest
    else resolveDots (done ++ [segment]) rest

/-- The segments of a path. -/
def readSegments (special : Bool) (cs : List Char) : List (List Char) :=
  resolveDots [] ((splitPath special cs).map (Percent.encode Percent.pathSet))

/-- Splits before the query and the fragment. -/
def spanPath (cs : List Char) : List Char × List Char :=
  (cs.takeWhile fun c => c != '?' && c != '#', cs.dropWhile fun c => c != '?' && c != '#')

/-- Query and fragment. -/
def readTail (special : Bool) (cs : List Char) : Option (List Char) × Option (List Char) :=
  let querySet := if special then Percent.specialQuerySet else Percent.querySet
  let fragment (cs : List Char) : Option (List Char) :=
    match cs with
    | '#' :: rest => some (Percent.encode Percent.fragmentSet rest)
    | _ => none
  match cs with
  | '?' :: rest =>
    (some (Percent.encode querySet (rest.takeWhile (· != '#'))),
      fragment (rest.dropWhile (· != '#')))
  | _ => (none, fragment cs)

/-- The path of a URL with an authority: special schemes always have one. -/
def readPathAfterHost (special : Bool) (cs : List Char) : List (List Char) :=
  match cs with
  | [] => if special then [[]] else []
  | c :: rest => if endsSegment special c then readSegments special rest
    else readSegments special cs

/-! ## File URLs -/

/-- Whether a segment is a drive letter with a colon or a bar. -/
def isDriveLetter (cs : List Char) : Bool :=
  match cs with
  | [c, mark] => c.isAlpha && (mark == ':' || mark == '|')
  | _ => false

/-- The segments of a file path: a drive letter at its start gets a colon and stays in place, and
    empty segments at the start go. -/
def fileSegments (cs : List Char) : List (List Char) :=
  let pieces := (splitPath true cs).map (Percent.encode Percent.pathSet)
  let segments := match pieces with
    | first :: rest =>
      match first with
      | c :: ':' :: d :: more =>
        if c.isAlpha then [c, ':'] :: resolveDots [] ((d :: more) :: rest)
        else resolveDots [] pieces
      | c :: _ =>
        if isDriveLetter first then
          if rest.isEmpty then [[c, ':']] else [c, ':'] :: resolveDots [] rest
        else resolveDots [] pieces
      | [] => resolveDots [] pieces
    | [] => [[]]
  let trimmed := segments.dropWhile List.isEmpty
  if trimmed.isEmpty then [[]] else trimmed

/-- The host of a file URL and what follows it: a drive letter is no host, and `localhost` is left
    out. -/
def fileHost (cs : List Char) : Except UrlError (List Char × List Char) := do
  let isEnd (c : Char) : Bool := c == '/' || c == '\\' || c == '?' || c == '#'
  let host := cs.takeWhile fun c => !isEnd c
  if isDriveLetter host then return ([], cs)
  let rest := cs.drop host.length
  if host.isEmpty then return ([], rest)
  let host ← specialHost host
  return (if host = "localhost".toList then [] else host, rest)

/-- A file URL after its scheme. -/
def readFile (cs : List Char) : Except UrlError Url := do
  let isSlash (c : Char) : Bool := c == '/' || c == '\\'
  let (host, rest) ← match cs with
    | a :: b :: rest =>
      if isSlash a && isSlash b then fileHost rest else pure ([], cs)
    | _ => pure ([], cs)
  let (path, tail) := spanPath rest
  let path := match path with
    | c :: rest => if isSlash c then rest else path
    | [] => []
  let (query, fragment) := readTail true tail
  return ⟨"file".toList, [], some host, none, .rooted (fileSegments path), query, fragment⟩

/-! ## Whole URLs -/

/-- A scheme, in lower case, and what follows its colon. -/
def readScheme? (cs : List Char) : Option (List Char × List Char) :=
  let isPart (c : Char) : Bool := c.isAlphanum || c == '+' || c == '-' || c == '.'
  let scheme := cs.takeWhile isPart
  match scheme, cs.drop scheme.length with
  | c :: _, ':' :: rest => if c.isAlpha then some (scheme.map Char.toLower, rest) else none
  | _, _ => none

/-- A URL with an authority, from the authority on. -/
def readHierarchical (scheme : List Char) (cs : List Char) : Except UrlError Url := do
  let special := isSpecialScheme scheme
  let (authority, rest) ← readAuthority scheme cs
  let (path, tail) := spanPath rest
  let (query, fragment) := readTail special tail
  return ⟨scheme, authority.userinfo, some authority.host, authority.port,
    .rooted (readPathAfterHost special path), query, fragment⟩

/-- A URL without an authority, from its path on. -/
def readPlain (scheme : List Char) (cs : List Char) : Url :=
  let (path, tail) := spanPath cs
  let (query, fragment) := readTail false tail
  let path := match path with
    | '/' :: rest => UrlPath.rooted (readSegments false rest)
    | _ => .rootless (Percent.encode [] path)
  ⟨scheme, [], none, none, path, query, fragment⟩

/-- Drops what does not count: controls and spaces at both ends, tabs and line breaks anywhere. -/
def clean (cs : List Char) : List Char :=
  let isEdge (c : Char) : Bool := c.toNat ≤ 0x20
  (((cs.dropWhile isEdge).reverse.dropWhile isEdge).reverse).filter fun c => !isDropped c

/-- Reads an absolute URL. -/
def parse (s : String) : Except UrlError Url := do
  match readScheme? (clean s.toList) with
  | none => throw .relativeWithoutBase
  | some (scheme, rest) =>
    if scheme = "file".toList then readFile rest
    else if isSpecialScheme scheme then
      readHierarchical scheme (rest.dropWhile fun c => c == '/' || c == '\\')
    else
      match rest with
      | '/' :: '/' :: rest => readHierarchical scheme rest
      | _ => return readPlain scheme rest

end SteadyFetch.Url
