import BoundSql.Value
/-!
# Row — ordered columns

A row is a list of named values.  The order is the order in which the columns were added, and a name may occur more than
once; looking a name up finds its first column.
-/
namespace BoundSql

structure Column where
  name : String
  value : Value
deriving DecidableEq, BEq

structure Row where
  columns : List Column := []
deriving DecidableEq, BEq, Inhabited

namespace Row

def empty : Row := ⟨[]⟩

def push (r : Row) (name : String) (value : Value) : Row := ⟨r.columns ++ [⟨name, value⟩]⟩

def ofPairs (pairs : List (String × Value)) : Row := ⟨pairs.map fun p => ⟨p.1, p.2⟩⟩

def toPairs (r : Row) : List (String × Value) := r.columns.map fun c => (c.name, c.value)

def names (r : Row) : List String := r.columns.map Column.name

def values (r : Row) : List Value := r.columns.map Column.value

def size (r : Row) : Nat := r.columns.length

def isEmpty (r : Row) : Bool := r.columns.isEmpty

/-- The value of the first column with the name. -/
def get? (r : Row) (name : String) : Option Value := (r.columns.find? (·.name == name)).map Column.value

def contains (r : Row) (name : String) : Bool := (r.get? name).isSome

/-- The values that the row holds under the names, null where it has none. -/
def valuesUnder (r : Row) (names : List String) : List Value := names.map fun name => (r.get? name).getD .null

end Row
end BoundSql
