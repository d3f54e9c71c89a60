import BoundSql.Decimal
import BoundSql.Value
/-!
# Value/Literal — a value as a SQL literal

The form is meant for people who read logs; statements never hold it, their values are bound.  Reals are written
positionally with the fewest digits that read back.  Texts stand between single quotes, and a quote inside one is
written twice.  Bytes are pairs of hexadecimal digits after an `X`, upper-case and the high half first.
-/
namespace BoundSql

namespace Text

def quoteMark : Char := '\''

def doubleQuotes (s : List Char) : List Char :=
  s.flatMap fun c => if c = quoteMark then [quoteMark, quoteMark] else [c]

def quoted (s : List Char) : List Char := quoteMark :: doubleQuotes s ++ [quoteMark]

/-- The upper-case hexadecimal digit of a number below sixteen. -/
def hexDigit (n : Nat) : Char := (Nat.digitChar n).toUpper

def hexByte (b : UInt8) : List Char := [hexDigit (b.toNat / 16), hexDigit (b.toNat % 16)]

def hex (bytes : List UInt8) : List Char := bytes.flatMap hexByte

end Text

namespace Value

/-- Reals in literals have no exponent and no needless fraction. -/
def literalLayout : Decimal.Layout where
  positional := none
  pointZero := false

/-- A real in a literal.  Of two equally near decimals the greater is written. -/
def realLiteral (x : Binary64) : List Char :=
  match x.unpack with
  | .nan => "NaN".toList
  | .infinite negative => Decimal.minusSign negative ++ "inf".toList
  | .finite negative m q narrow => Decimal.minusSign negative ++ literalLayout.write (Decimal.shortest .up m q narrow)

def literalChars : Value → List Char
  | null => "NULL".toList
  | integer i => Decimal.ofInt i.toInt
  | real x => realLiteral x
  | text s => Text.quoted s.toList
  | blob bytes => 'X' :: Text.quoted (Text.hex bytes)

def literal (v : Value) : String := String.ofList v.literalChars

end Value
end BoundSql
