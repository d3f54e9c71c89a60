import BoundSql.Decimal
/-!
# Json/Printer — documents and their compact text

A document keeps the members of an object in their order, repeated names too, and keeps integers apart from decimals.
In its text there is no space between tokens, and members come in their order.  In a string the quote, the backslash and
the characters below U+0020 are escaped, five of these by a letter, and nothing else is.
-/
namespace BoundSql

/-- A JSON document.  A decimal carries its sign apart, so that zero has two. -/
inductive Json where
  | null
  | boolean (b : Bool)
  | integer (n : Int)
  | decimal (negative : Bool) (d : Decimal)
  | string (s : String)
  | array (items : List Json)
  | object (members : List (String × Json))

namespace Json

/-- Decimals are positional while the exponent of the leading digit is from -5 to 15, and have a fraction then. -/
def decimalLayout : Decimal.Layout where
  positional := some (-5, 15)
  pointZero := true

/-- The letter that stands for a character after a backslash. -/
def escapeLetter : Char → Option Char
  | '"' => some '"'
  | '\\' => some '\\'
  | '\x08' => some 'b'
  | '\t' => some 't'
  | '\n' => some 'n'
  | '\x0c' => some 'f'
  | '\r' => some 'r'
  | _ => none

def escape (c : Char) : List Char :=
  match escapeLetter c with
  | some letter => ['\\', letter]
  | none =>
    if c.toNat < 0x20 then
      ['\\', 'u', '0', '0', Nat.digitChar (c.toNat / 16), Nat.digitChar (c.toNat % 16)]
    else [c]

def writeString (s : String) : List Char := '"' :: s.toList.flatMap escape ++ ['"']

mutual

def write : Json → List Char
  | null => "null".toList
  | boolean b => if b then "true".toList else "false".toList
  | integer n => Decimal.ofInt n
  | decimal negative d => Decimal.minusSign negative ++ decimalLayout.write d
  | string s => writeString s
  | array items => '[' :: (writeItems items ++ [']'])
  | object members => '\x7b' :: (writeMembers members ++ ['\x7d'])

def writeItems : List Json → List Char
  | [] => []
  | [item] => write item
  | item :: next :: rest => write item ++ ',' :: writeItems (next :: rest)

def writeMembers : List (String × Json) → List Char
  | [] => []
  | [(name, value)] => writeString name ++ ':' :: write value
  | (name, value) :: next :: rest => writeString name ++ ':' :: (write value ++ ',' :: writeMembers (next :: rest))

end

def render (j : Json) : String := String.ofList j.write

end Json
end BoundSql
