import SteadyFetch.Text.Canonical
import SteadyFetch.Text.Direction
import SteadyFetch.Text.Joining
import SteadyFetch.Text.Utf8
import SteadyFetch.Url.DomainName.Excluded
import SteadyFetch.Url.DomainName.Folding
import SteadyFetch.Url.Punycode

set_option autoImplicit false

/-! # Domain names

A domain name is folded (case and compatibility forms go), composed, and cut into labels at its full
stops. A label beyond ASCII is written in Punycode after the mark `xn--`; a label that comes with the
mark has to be what such a label is written as. Labels that run from right to left obey a rule of their
own, and so do the characters that join or keep apart their neighbours. -/

namespace SteadyFetch.DomainName

/-! ## Characters -/

/-- Characters of ASCII that no domain name of a URL holds, beside controls and the space. -/
def forbidden : List Char :=
  ['%', '#', '/', ':', '<', '>', '?', '@', '[', '\\', ']', '^', '|']

/-- Whether a character lies in ASCII. -/
def isAscii (c : Char) : Bool := c.toNat < 0x80

/-- Whether a character of ASCII may stand in a domain name. -/
def isAllowed (c : Char) : Bool :=
  0x20 < c.toNat && c.toNat < 0x7F && !forbidden.contains c

/-- The folded form of one character of a canonical decomposition. -/
def foldPart (c : Char) : List Char :=
  if isAscii c then [c.toLower] else (foldedForms.chars? c).getD [c]

/-- The folded form of a character, or none if no domain name holds it. -/
def fold? (c : Char) : Option (List Char) :=
  if isAscii c then some [c.toLower]
  else if noDomainName.contains c then none
  else if unseenInDomainName.contains c then some []
  else
    match foldedForms.chars? c with
    | some folded => some folded
    | none => some ((Canonical.decomposeChar c).flatMap foldPart)

/-- Whether a character stands for itself. -/
def isFolded (c : Char) : Bool :=
  isAscii c || (fold? c).any fun folded => Canonical.normalize folded == [c]

/-- A text folded and composed, or none if it holds a character that no domain name holds. -/
def folded? (cs : List Char) : Option (List Char) :=
  if cs.all isAscii then some (cs.map Char.toLower)
  else (cs.mapM fold?).map fun parts => Canonical.normalize parts.flatten

/-! ## Joiners -/

/-- The character that keeps its neighbours apart, and the one that joins them. -/
def nonJoiner : Char := Char.ofNat 0x200C
def joiner : Char := Char.ofNat 0x200D

/-- Whether a character suppresses the vowel of the letter before it. -/
def isVirama (c : Char) : Bool := Canonical.combiningClass c == 9

/-- Whether a joiner between two texts, the first one reversed, has an effect. -/
def joinerFits (c : Char) (before after : List Char) : Bool :=
  before.head?.any isVirama
    || (c == nonJoiner && (before.dropWhile isTransparent).head?.any joinsOnward
      && (after.dropWhile isTransparent).head?.any joinsBack)

/-- Whether all joiners of a text have an effect; `before` is the text before it, reversed. -/
def joinersFit (before : List Char) : List Char → Bool
  | [] => true
  | c :: cs =>
    ((c != nonJoiner && c != joiner) || joinerFits c before cs) && joinersFit (c :: before) cs

/-! ## Direction -/

/-- Whether a text holds characters that run from right to left. -/
def turns (label : List Char) : Bool :=
  label.any fun c => !isAscii c && Direction.of c matches .rightToLeft | .arabicNumber

/-- Whether a label keeps one direction throughout, so that it reads the same in any surroundings: it
    starts with a letter of that direction, holds none of the other one and ends with a letter or a
    number, marks aside; numbers of both kinds do not mix from right to left. -/
def keepsDirection (label : List Char) : Bool :=
  let directions := label.map Direction.of
  let final := (directions.reverse.dropWhile (· == .mark)).head?
  match directions with
  | [] => true
  | .leftToRight :: _ =>
    directions.all (· matches .leftToRight | .europeanNumber | .neutral | .mark)
      && final.any (· matches .leftToRight | .europeanNumber)
  | .rightToLeft :: _ =>
    !directions.contains .leftToRight
      && final.any (· matches .rightToLeft | .europeanNumber | .arabicNumber)
      && !(directions.contains .europeanNumber && directions.contains .arabicNumber)
  | _ => false

/-! ## Labels -/

/-- What a label in Punycode starts with. -/
def mark : List Char := "xn--".toList

/-- The longest label beyond ASCII, and the longest Punycode, that is taken. -/
def longestLabel : Nat := 1000
def longestPunycode : Nat := 2000

/-- Whether a label beyond ASCII is well formed. -/
def isLabel (label : List Char) : Bool :=
  !(label.head?.any isMark) && joinersFit [] label

/-- The label that a Punycode stands for. It is folded and composed, and not all of it is ASCII. -/
def marked? (punycode : List Char) : Option (List Char) := do
  let label ← if punycode.length ≤ longestPunycode then Punycode.decode? punycode else none
  if label.all isAscii = false ∧ label.all isFolded ∧ Canonical.normalize label = label then
    return label
  else none

/-- The label that is meant by a folded one. -/
def meant? (label : List Char) : Option (List Char) := do
  let meant ←
    if mark.isPrefixOf label then
      if label.all isAscii then marked? (label.drop mark.length) else none
    else some label
  if meant.all isAscii ∨ isLabel meant then return meant else none

/-- The ASCII form of a label. -/
def labelAscii? (label : List Char) : Option (List Char) :=
  if label.all isAscii then some label
  else if label.length ≤ longestLabel then some (mark ++ Punycode.encode label)
  else none

/-- The ASCII form of a domain name. -/
def toAscii? (bs : Bytes) : Option (List Char) := do
  let text ← Utf8.decode? bs
  let folded ← folded? text.toList
  let labels ← (folded.splitOn '.').mapM meant?
  if folded.all (fun c => !isAscii c || isAllowed c)
      ∧ (!labels.any turns || labels.all keepsDirection) then
    return ['.'].intercalate (← labels.mapM labelAscii?)
  else none

end SteadyFetch.DomainName
