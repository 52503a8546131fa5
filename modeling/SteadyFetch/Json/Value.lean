import SteadyFetch.Bytes

set_option autoImplicit false

/-! # JSON values and their text

The values that JSON text denotes, as far as this program tells them apart: a number is an integer
or something else, and a string is a text unless its escapes name half of a surrogate pair. Members
keep their order, and none is dropped. -/

namespace SteadyFetch

/-- A JSON value. -/
inductive Json where
  | null
  | bool (value : Bool)
  /-- A number: its value if it is written as an integer other than `-0`. -/
  | number (value : Option Int)
  /-- A string: its text, unless it holds half of a surrogate pair. -/
  | string (text : Option String)
  | array (items : List Json)
  | object (members : List (Option String × Json))

namespace Json

/-! ## Writing -/

/-- A character inside a string: quotes, backslashes and control characters are escaped. -/
def escapeChar (c : Char) : List Char :=
  if c = '"' then ['\\', '"']
  else if c = '\\' then ['\\', '\\']
  else if c = '\x08' then ['\\', 'b']
  else if c = '\x0c' then ['\\', 'f']
  else if c = '\n' then ['\\', 'n']
  else if c = '\r' then ['\\', 'r']
  else if c = '\t' then ['\\', 't']
  else if c.toNat < 0x20 then
    ['\\', 'u', '0', '0', hexDigit (c.toNat / 16), hexDigit (c.toNat % 16)]
  else [c]

/-- A text as a string. -/
def quoteChars (s : String) : List Char := '"' :: s.toList.flatMap escapeChar ++ ['"']

/-- A text as a string. -/
def quote (s : String) : String := String.ofList (quoteChars s)

end Json

end SteadyFetch
