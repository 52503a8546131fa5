import SteadyFetch.Bytes
import SteadyFetch.Text.Blank
import SteadyFetch.Text.CharSet

set_option autoImplicit false

/-! # Maps from characters to code points

A map that gives some characters a short list of numbers, mostly code points. It is kept as blocks of
consecutive characters and written as text: `C0: 41+300 - 41+302` starts a block at U+00C0, gives the
first of its characters two numbers, the second nothing and the third two others. -/

namespace SteadyFetch

/-- Consecutive characters from `first` on, each with its numbers, if it has any. -/
structure CharBlock where
  first : Nat
  images : Array (Option (List Nat))

/-- A map from characters to lists of numbers, as blocks in increasing order. -/
structure CharMap where
  blocks : Array CharBlock
  starts : Array Nat

namespace CharMap

/-- The value of a hexadecimal numeral. -/
def hexNumeral (cs : List Char) : Nat :=
  cs.foldl (fun n c => n * 16 + (hexValue? c).getD 0) 0

/-- The numbers that a word gives to one character. -/
def image (word : List Char) : Option (List Nat) :=
  if word = ['-'] then none else some ((word.splitOn '+').map hexNumeral)

/-- Reads one word: the start of a block, or the numbers of the next character. The block under way
    comes first. -/
def addWord : List CharBlock → List Char → List CharBlock
  | blocks, word =>
    if word.getLast? = some ':' then ⟨hexNumeral word.dropLast, #[]⟩ :: blocks
    else
      match blocks with
      | [] => []
      | block :: rest => { block with images := block.images.push (image word) } :: rest

/-- The map that a text writes. -/
def ofText (text : String) : CharMap :=
  let blocks := ((words text.toList).foldl addWord []).reverse.toArray
  ⟨blocks, blocks.map (·.first)⟩

/-- The numbers of a character. -/
def find? (m : CharMap) (c : Char) : Option (List Nat) := do
  let index := CharSet.countFrom m.starts c.toNat 0 m.starts.size
  let block ← m.blocks[index - 1]?
  if block.first ≤ c.toNat then (← block.images[c.toNat - block.first]?) else none

/-- The numbers of a character, as characters. -/
def chars? (m : CharMap) (c : Char) : Option (List Char) := (m.find? c).map (·.map Char.ofNat)

end CharMap

end SteadyFetch
