import BoundSql.Fragment
import BoundSql.Row
/-!
# Filter — conditions on rows

A clause is a column that equals a value, or SQL of its own around a marker.  A conjunction joins clauses by `AND`; a
filter is one conjunction, or several joined by `OR`, each between parentheses.  Conjunctions without a clause take no
part in an `OR`, so a filter has text exactly when it has a clause.
-/
namespace BoundSql

/-- A condition with one value.  The key is SQL with a marker, or the name of a column that equals the value. -/
structure Clause where
  key : String
  value : Value
deriving DecidableEq, BEq

def Clause.isRaw (c : Clause) : Bool := c.key.toList.contains Fragment.marker

def Clause.fragment (c : Clause) : Fragment :=
  if c.isRaw then ⟨c.key, [c.value]⟩ else .verbatim (c.key ++ " = ") ++ .bound c.value

structure Conjunction where
  clauses : List Clause := []
deriving DecidableEq, BEq

namespace Conjunction

def empty : Conjunction := ⟨[]⟩

def and (c : Conjunction) (key : String) (value : Value) : Conjunction := ⟨c.clauses ++ [⟨key, value⟩]⟩

def ofPairs (pairs : List (String × Value)) : Conjunction := ⟨pairs.map fun p => ⟨p.1, p.2⟩⟩

def ofRow (r : Row) : Conjunction := ⟨r.columns.map fun c => ⟨c.name, c.value⟩⟩

def size (c : Conjunction) : Nat := c.clauses.length

def isEmpty (c : Conjunction) : Bool := c.clauses.isEmpty

def fragment (c : Conjunction) : Fragment := .join " AND " (c.clauses.map Clause.fragment)

end Conjunction

/-- A condition on rows: one conjunction, or the disjunction of several. -/
inductive Filter where
  | all (c : Conjunction)
  | any (cs : List Conjunction)
deriving DecidableEq, BEq

namespace Filter

def clauseCount : Filter → Nat
  | all c => c.size
  | any cs => (cs.flatMap Conjunction.clauses).length

def fragment : Filter → Fragment
  | all c => c.fragment
  | any cs => .join " OR " ((cs.filter fun c => !c.isEmpty).map fun c => c.fragment.parenthesized)

/-- A clause of a statement that holds a filter, if there is one and it has a clause. -/
def clause (keyword : String) : Option Filter → Fragment
  | none => .empty
  | some f => f.fragment.clause keyword

end Filter
end BoundSql
