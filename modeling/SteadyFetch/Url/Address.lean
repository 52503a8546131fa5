import SteadyFetch.Bytes

set_option autoImplicit false

/-! # Network addresses as hosts

IPv4 addresses in the many notations that URLs allow (one to four numbers, decimal, octal or
hexadecimal), and IPv6 addresses, with the text that each is written back as. -/

namespace SteadyFetch.Address

/-! ## IPv4 -/

/-- Splits at every occurrence of a character; as many pieces as there are occurrences, and one. -/
def splitAll (sep : Char) : List Char → List (List Char)
  | [] => [[]]
  | c :: cs =>
    match splitAll sep cs with
    | piece :: pieces => if c = sep then [] :: piece :: pieces else (c :: piece) :: pieces
    | [] => [[c]]

/-- The value of digits to a base, or none if there is another character. -/
def based? (base : Nat) (cs : List Char) : Option Nat :=
  cs.foldlM (fun n c => do
    let d ← hexValue? c
    if d < base then return n * base + d else none) 0

/-- A number of an IPv4 address: hexadecimal after `0x`, octal after `0`, else decimal. -/
def ipv4Number? (cs : List Char) : Option Nat :=
  match cs with
  | [] => none
  | '0' :: 'x' :: rest => based? 16 rest
  | '0' :: 'X' :: rest => based? 16 rest
  | '0' :: d :: rest => based? 8 (d :: rest)
  | _ => based? 10 cs

/-- The pieces of a host, without the empty one after a final dot. -/
def hostPieces (cs : List Char) : List (List Char) :=
  let pieces := splitAll '.' cs
  if pieces.length > 1 && pieces.getLast? == some [] then pieces.dropLast else pieces

/-- Whether a host ends in a number and so must be an IPv4 address. -/
def endsInNumber (cs : List Char) : Bool :=
  match (hostPieces cs).getLast? with
  | none => false
  | some last => (!last.isEmpty && last.all Char.isDigit) || (ipv4Number? last).isSome

/-- The address in an IPv4 notation: the last number fills all octets that are left. -/
def ipv4? (cs : List Char) : Option Nat := do
  let numbers ← (hostPieces cs).mapM ipv4Number?
  if numbers.length > 4 then none
  let last ← numbers.getLast?
  let before := numbers.dropLast
  if before.any (255 < ·) then none
  let free := 4 - before.length
  if Nat.pow 256 free ≤ last then none
  return before.foldl (fun n d => n * 256 + d) 0 * Nat.pow 256 free + last

/-- An IPv4 address as four decimal numbers. -/
def ipv4Text (n : Nat) : String :=
  s!"{n / 16777216 % 256}.{n / 65536 % 256}.{n / 256 % 256}.{n % 256}"

/-! ## IPv6 -/

/-- A decimal number below 256 without leading zeros, and what follows. -/
def octet? (cs : List Char) : Option (Nat × List Char) :=
  let ds := cs.takeWhile Char.isDigit
  if ds.isEmpty || (ds.length > 1 && ds.head? == some '0') || ds.length > 3 then none
  else
    let n := ds.foldl (fun n c => n * 10 + (c.toNat - 48)) 0
    if n < 256 then some (n, cs.drop ds.length) else none

/-- The last two pieces as an IPv4 address of four numbers. -/
def embedded? (cs : List Char) : Option (List Nat) := do
  let dot? (cs : List Char) : Option (List Char) :=
    match cs with
    | '.' :: rest => some rest
    | _ => none
  let (a, cs) ← octet? cs
  let (b, cs) ← octet? (← dot? cs)
  let (c, cs) ← octet? (← dot? cs)
  let (d, cs) ← octet? (← dot? cs)
  if cs.isEmpty then return [a * 256 + b, c * 256 + d] else none

/-- Reads pieces; `front` holds those before the gap, `back`, if the gap was met, those after it. The
    gap counts as a piece. -/
def pieces? : Nat → List Char → (front : List Nat) → (back : Option (List Nat)) →
    Option (List Nat × Option (List Nat))
  | 0, _, _, _ => none
  | _ + 1, [], front, back => some (front, back)
  | n + 1, cs, front, back =>
    let count := front.length + match back with
      | some back => back.length + 1
      | none => 0
    let add (values : List Nat) : List Nat × Option (List Nat) :=
      match back with
      | some back => (front, some (back ++ values))
      | none => (front ++ values, none)
    if count = 8 then none
    else
      match cs with
      | ':' :: rest => if back.isSome then none else pieces? n rest front (some [])
      | _ =>
        let ds := (cs.take 4).takeWhile fun c => (hexValue? c).isSome
        let value := ds.foldl (fun n c => n * 16 + (hexValue? c).getD 0) 0
        match cs.drop ds.length with
        | [] => some (add [value])
        | '.' :: _ =>
          if ds.isEmpty || 6 < count then none else (embedded? cs).map add
        | ':' :: rest =>
          if rest.isEmpty then none
          else
            let (front, back) := add [value]
            pieces? n rest front back
        | _ => none

/-- The eight pieces of an IPv6 address. -/
def ipv6? (cs : List Char) : Option (List Nat) := do
  if cs.length < 2 then none
  let (front, back) ← match cs with
    | ':' :: ':' :: rest => pieces? (cs.length + 1) rest [] (some [])
    | ':' :: _ => none
    | _ => pieces? (cs.length + 1) cs [] none
  match back with
  | none => if front.length = 8 then return front else none
  | some back => return front ++ List.replicate (8 - front.length - back.length) 0 ++ back

/-- The longest run of zeros, if it has at least two: where it starts, and its length. -/
def longestZeros (pieces : List Nat) : Option (Nat × Nat) :=
  let runs := (List.range pieces.length).map fun i =>
    (i, ((pieces.drop i).takeWhile (· == 0)).length)
  let best := runs.foldl (fun best run => if best.2 < run.2 then run else best) (0, 0)
  if 2 ≤ best.2 then some best else none

/-- A number in hexadecimal without leading zeros. -/
def hexText (n : Nat) : String :=
  let ds := [hexDigit (n / 4096 % 16), hexDigit (n / 256 % 16), hexDigit (n / 16 % 16)].dropWhile
    (· == '0')
  String.ofList (ds ++ [hexDigit (n % 16)])

/-- An IPv6 address with its longest run of zeros left out. -/
def ipv6Text (pieces : List Nat) : String :=
  let join (ps : List Nat) : String := ":".intercalate (ps.map hexText)
  match longestZeros pieces with
  | none => join pieces
  | some (start, length) =>
    s!"{join (pieces.take start)}::{join (pieces.drop (start + length))}"

end SteadyFetch.Address
