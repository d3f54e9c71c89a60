import BoundSql.Value
/-!
# Fragment — SQL text with the values of its markers

A fragment is a piece of SQL and the values bound to its markers, in the order of the markers.  Fragments are appended
and joined; both do to the text and to the values what their names say, so the two stay in step.  A statement is a
fragment closed by a semicolon, and one that changes rows gives the changed rows back.
-/
namespace BoundSql

/-- A piece of SQL with the values for its markers, from left to right. -/
@[ext]
structure Fragment where
  sql : String
  values : List Value
deriving DecidableEq, BEq

namespace Fragment

/-- The character that stands for a bound value. -/
def marker : Char := '?'

def empty : Fragment := ⟨"", []⟩

/-- Text that binds nothing. -/
def verbatim (sql : String) : Fragment := ⟨sql, []⟩

def bound (v : Value) : Fragment := ⟨String.ofList [marker], [v]⟩

def isEmpty (f : Fragment) : Bool := f.sql.isEmpty

def markerCount (f : Fragment) : Nat := f.sql.toList.count marker

instance : Append Fragment := ⟨fun f g => ⟨f.sql ++ g.sql, f.values ++ g.values⟩⟩

def join (separator : String) (fs : List Fragment) : Fragment :=
  ⟨separator.intercalate (fs.map sql), fs.flatMap values⟩

def parenthesized (f : Fragment) : Fragment := verbatim "(" ++ f ++ verbatim ")"

/-- A clause of a statement: the keyword, then the fragment.  A fragment without text makes no clause. -/
def clause (keyword : String) (f : Fragment) : Fragment :=
  if f.isEmpty then empty else verbatim (" " ++ keyword ++ " ") ++ f

/-! Appending acts on the text and on the values apart, is associative, and has the empty fragment for its unit. -/

@[simp] theorem sql_append (f g : Fragment) : (f ++ g).sql = f.sql ++ g.sql := rfl

@[simp] theorem values_append (f g : Fragment) : (f ++ g).values = f.values ++ g.values := rfl

@[simp] theorem empty_append (f : Fragment) : empty ++ f = f := by
  ext1 <;> simp [empty]

@[simp] theorem append_empty (f : Fragment) : f ++ empty = f := by
  ext1 <;> simp [empty]

theorem append_assoc (f g h : Fragment) : f ++ g ++ h = f ++ (g ++ h) := by
  ext1 <;> simp [String.append_assoc]

@[simp] theorem sql_verbatim (s : String) : (verbatim s).sql = s := rfl

@[simp] theorem values_verbatim (s : String) : (verbatim s).values = [] := rfl

@[simp] theorem sql_join (s : String) (fs : List Fragment) : (join s fs).sql = s.intercalate (fs.map sql) := rfl

@[simp] theorem values_join (s : String) (fs : List Fragment) : (join s fs).values = fs.flatMap values := rfl

/-! Joining follows the list: nothing, one fragment alone, or a fragment and a separator before the rest. -/

@[simp] theorem join_nil (s : String) : join s [] = empty := by
  ext1 <;> simp [empty]

@[simp] theorem join_singleton (s : String) (f : Fragment) : join s [f] = f := by
  ext1 <;> simp

theorem join_cons_cons (s : String) (f g : Fragment) (fs : List Fragment) :
    join s (f :: g :: fs) = f ++ verbatim s ++ join s (g :: fs) := by
  ext1 <;> simp

end Fragment

abbrev Statement := Fragment

namespace Statement

def terminator : Fragment := .verbatim ";"

/-- The end of a statement that gives the rows back that it changed. -/
def returningRows : Fragment := .verbatim " RETURNING *" ++ terminator

end Statement
end BoundSql
