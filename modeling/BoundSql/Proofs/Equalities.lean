import BoundSql.Proofs.Occurrences
import BoundSql.Proofs.Statements
import Mathlib.Algebra.Order.BigOperators.Group.List
import Mathlib.Algebra.Order.Ring.Nat
/-!
# Equalities — a row as a condition and as assignments

Both ways a column gives one part with one value, and the parts come in the order of the columns.  Assignments make an
equality of every column; a condition takes a name with a marker in it for SQL of its own, which stands alone.  So the
texts have the same equalities exactly when no name of the row has a marker (`Row.condition_matches_assignments_iff`).
-/
namespace BoundSql

open Fragment (marker)

def equalityText (name : String) : String := name ++ " = ?"

def keyText (name : String) : String := if marker ∈ name.toList then name else equalityText name

theorem Clause.text_eq_keyText (c : Clause) : c.text = keyText c.key := by
  unfold text keyText
  by_cases h : marker ∈ c.key.toList
  · rw [if_pos h, if_pos (c.isRaw_iff.2 h)]
  · rw [if_neg h, if_neg (fun hraw => h (c.isRaw_iff.1 hraw))]
    rfl

/-- A name that stands alone lacks the marker of its equality. -/
theorem occurrences_equalityText (name : String) : occurrences marker (equalityText name) =
    occurrences marker (keyText name) + if marker ∈ name.toList then 1 else 0 := by
  have hmark : occurrences marker " = ?" = 1 := by decide
  unfold keyText
  split
  · rw [equalityText, occurrences_append, hmark]
  · rfl

/-- **Names make the same equalities and keys exactly when none has a marker.**  The texts are told apart by the number
of their markers. -/
theorem intercalate_keyText_eq_iff {s : String} (hs : marker ∉ s.toList) (names : List String) :
    s.intercalate (names.map keyText) = s.intercalate (names.map equalityText) ↔
      ∀ name ∈ names, marker ∉ name.toList := by
  constructor
  · intro heq name hname hmarked
    have hcount : (names.map (occurrences marker ∘ keyText)).sum = (names.map (occurrences marker ∘ equalityText)).sum := by
      have h := congrArg (occurrences marker) heq
      rwa [occurrences_intercalate (occurrences_eq_zero_iff.2 hs), occurrences_intercalate (occurrences_eq_zero_iff.2 hs),
        List.map_map, List.map_map] at h
    have hlt : (names.map (occurrences marker ∘ keyText)).sum < (names.map (occurrences marker ∘ equalityText)).sum := by
      apply List.sum_lt_sum
      · intro n _
        have h := occurrences_equalityText n
        simp only [Function.comp_apply]
        omega
      · refine ⟨name, hname, ?_⟩
        have h := occurrences_equalityText name
        rw [if_pos hmarked] at h
        simp only [Function.comp_apply]
        omega
    omega
  · intro h
    congr 1
    exact List.map_congr_left (fun name hname => if_neg (h name hname))

namespace Row

def condition (r : Row) : Fragment := (Conjunction.ofRow r).fragment

theorem sql_condition (r : Row) : r.condition.sql = " AND ".intercalate (r.names.map keyText) := by
  unfold condition Conjunction.ofRow names
  rw [Conjunction.sql_fragment, List.map_map, List.map_map]
  congr 1
  exact List.map_congr_left (fun c _ => Clause.text_eq_keyText _)

theorem values_condition (r : Row) : r.condition.values = r.values := by
  unfold condition Conjunction.ofRow
  rw [Conjunction.values_fragment, List.map_map]
  rfl

/-- **When a row means the same as a condition and as assignments.**  The values are those of its columns, both times.
Assignments are an equality for each column, whatever its name.  A condition has the same equalities, except that a name
with a marker stands alone; so it has an equality for each column exactly when no name has a marker. -/
theorem condition_matches_assignments_iff (r : Row) :
    r.condition.values = r.values ∧ r.assignments.values = r.values ∧
    r.assignments.sql = ", ".intercalate (r.names.map (· ++ " = ?")) ∧
    r.condition.sql = " AND ".intercalate
      (r.names.map fun name => if marker ∈ name.toList then name else name ++ " = ?") ∧
    (r.condition.sql = " AND ".intercalate (r.names.map (· ++ " = ?")) ↔ ∀ name ∈ r.names, marker ∉ name.toList) := by
  refine ⟨r.values_condition, r.values_assignments, r.sql_assignments, r.sql_condition, ?_⟩
  rw [r.sql_condition]
  exact intercalate_keyText_eq_iff (by decide) r.names

/-- **A quoted name with a question mark is no equality in a condition.**  Its value is bound to nothing, as the mark is
within the quotes. -/
theorem condition_of_marked_name :
    let row : Row := ⟨[⟨"\"paid?\"", .integer 1⟩]⟩
    row.condition = ⟨"\"paid?\"", [.integer 1]⟩ ∧ row.assignments = ⟨"\"paid?\" = ?", [.integer 1]⟩ ∧
    row.condition.sql ≠ " AND ".intercalate (row.names.map (· ++ " = ?")) := by
  decide

end Row
end BoundSql
