import BoundSql.Binary64
/-!
# Value — what a marker stands for and what a column holds

The domain is closed: null, an integer, a real, a text, or bytes; nothing nests.  `=` is identity, bit for bit; `==`
compares reals as numbers and everything else by identity, and never equates values of two kinds.
-/
namespace BoundSql

/-- A bound parameter or the content of a column. -/
inductive Value where
  | null
  | integer (i : Int64)
  | real (x : Binary64)
  | text (s : String)
  | blob (bytes : List UInt8)
deriving DecidableEq, BEq, Inhabited

namespace Value

def isNull : Value → Bool
  | null => true
  | _ => false

def text? : Value → Option String
  | text s => some s
  | _ => none

def integer? : Value → Option Int64
  | integer i => some i
  | _ => none

/-- The number of a value that is one: a real itself, an integer rounded to the nearest real. -/
def number? : Value → Option Binary64
  | integer i => some (.ofInt64 i)
  | real x => some x
  | _ => none

def bytes? : Value → Option (List UInt8)
  | blob bytes => some bytes
  | _ => none

def kindName : Value → String
  | null => "null"
  | integer _ => "integer"
  | real _ => "real"
  | text _ => "text"
  | blob _ => "blob"

end Value

/-- Types whose elements can be bound. -/
class ToValue (α : Type) where
  toValue : α → Value

export ToValue (toValue)

instance : ToValue Value := ⟨id⟩
instance : ToValue String := ⟨.text⟩
instance : ToValue Int64 := ⟨.integer⟩
instance : ToValue Int32 := ⟨fun i => .integer i.toInt64⟩
instance : ToValue UInt32 := ⟨fun n => .integer (.ofNat n.toNat)⟩
instance : ToValue Binary64 := ⟨.real⟩
instance : ToValue Binary32 := ⟨fun x => .real (.ofBinary32 x)⟩
instance : ToValue (List UInt8) := ⟨.blob⟩

/-- Truth values are kept as the integers zero and one. -/
instance : ToValue Bool := ⟨fun b => .integer (if b then 1 else 0)⟩

/-- What is absent is null. -/
instance {α : Type} [ToValue α] : ToValue (Option α) := ⟨fun a => (a.map toValue).getD .null⟩

end BoundSql
