set_option autoImplicit false

/-! # Blank characters

The Unicode property `White_Space`, and trimming and splitting by it. -/

namespace SteadyFetch

/-- Whether a character has the property `White_Space`. -/
def isBlank (c : Char) : Bool :=
  let n := c.toNat
  (0x09 ≤ n && n ≤ 0x0D) || n == 0x20 || n == 0x85 || n == 0xA0 || n == 0x1680
    || (0x2000 ≤ n && n ≤ 0x200A) || n == 0x2028 || n == 0x2029 || n == 0x202F || n == 0x205F
    || n == 0x3000

/-- Drops the blanks in front. -/
def trimStart (cs : List Char) : List Char := cs.dropWhile isBlank

/-- Drops the blanks at the end. -/
def trimEnd (cs : List Char) : List Char := (cs.reverse.dropWhile isBlank).reverse

/-- Drops the blanks at both ends. -/
def trim (cs : List Char) : List Char := trimEnd (trimStart cs)

/-- Drops the blanks at both ends of a text. -/
def trimText (s : String) : String := String.ofList (trim s.toList)

/-- The pieces of a text between runs of blanks; `word` holds the piece under way, reversed. -/
def wordsFrom (word : List Char) : List Char → List (List Char)
  | [] => if word.isEmpty then [] else [word.reverse]
  | c :: cs =>
    if isBlank c then
      if word.isEmpty then wordsFrom [] cs else word.reverse :: wordsFrom [] cs
    else wordsFrom (c :: word) cs

/-- The non-empty pieces of a text between runs of blanks. -/
def words (cs : List Char) : List (List Char) := wordsFrom [] cs

/-- Splits at the first occurrence of a character, which belongs to neither part. -/
def splitOnce (sep : Char) (cs : List Char) : Option (List Char × List Char) :=
  match cs.dropWhile (· != sep) with
  | [] => none
  | _ :: rest => some (cs.takeWhile (· != sep), rest)

/-- Letters of ASCII in lower case; every other character as it is. -/
def lowerAscii (cs : List Char) : List Char := cs.map Char.toLower

end SteadyFetch
