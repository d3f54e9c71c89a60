import BoundSql.Command
import BoundSql.Proofs.Clauses
/-!
# Statements — when a command has one, and its parts

Inserting a row and updating are refused only when nothing is given to write (`Insert.one_eq_ok_iff`,
`Update.statement_eq_ok_iff`).  What is given has text, so the clause of an update that assigns is never left out.
What is inserted or assigned is bound in the order in which it is given (`Insert.values_statement`,
`Row.values_assignments`), and only names and markers stand in the text (`Insert.sql_statement`, `Row.sql_assignments`).
-/
namespace BoundSql

open Fragment (verbatim)

namespace Row

theorem isEmpty_iff (r : Row) : r.isEmpty = true ↔ r.columns = [] := List.isEmpty_iff

theorem isEmpty_assignments (r : Row) : r.assignments.isEmpty = r.isEmpty := by
  refine (Fragment.isEmpty_join _ _ (fun f hf => ?_)).trans ?_
  · obtain ⟨c, -, rfl⟩ := List.mem_map.1 hf
    rw [Fragment.isEmpty_append]
    exact Bool.and_false _
  · rw [List.isEmpty_map]
    rfl

end Row

theorem Insert.one_eq_ok_iff (table : String) (row : Row) (s : Statement) :
    one table row = .ok s ↔ row.columns ≠ [] ∧ s = statement table row.names [row.values] := by
  rw [ne_eq, ← row.isEmpty_iff]
  unfold one
  by_cases h : row.isEmpty = true
  · simp [h]
  · simp only [h, Bool.false_eq_true, ↓reduceIte, not_false_eq_true, true_and, Except.ok.injEq]
    exact eq_comm

theorem Update.statement_eq_ok_iff (table : String) (changes : Row) (filter : Option Filter) (s : Statement) :
    statement table changes filter = .ok s ↔ changes.columns ≠ [] ∧
      s = verbatim ("UPDATE " ++ table ++ " SET ") ++ changes.assignments ++ Filter.clause "WHERE" filter
        ++ Statement.returningRows := by
  rw [ne_eq, ← changes.isEmpty_iff]
  unfold statement
  by_cases h : changes.isEmpty = true
  · simp [h]
  · have hset : verbatim ("UPDATE " ++ table) ++ changes.assignments.clause "SET" =
        verbatim ("UPDATE " ++ table ++ " SET ") ++ changes.assignments := by
      rw [Fragment.clause, changes.isEmpty_assignments, if_neg h, ← Fragment.append_assoc]
      congr 1
    simp only [h, Bool.false_eq_true, ↓reduceIte, not_false_eq_true, true_and, Except.ok.injEq, hset]
    exact eq_comm

/-! ## Texts and values -/

theorem Fragment.map_sql_bound (values : List Value) :
    (values.map bound).map sql = List.replicate values.length "?" := by
  rw [List.map_map]
  exact List.map_const'

namespace Insert

theorem sql_tuple (values : List Value) :
    (tuple values).sql = "(" ++ ",".intercalate (List.replicate values.length "?") ++ ")" := by
  show "(" ++ ",".intercalate ((values.map Fragment.bound).map Fragment.sql) ++ ")" = _
  rw [Fragment.map_sql_bound]

theorem values_tuple (values : List Value) : (tuple values).values = values := by
  show [] ++ (values.map Fragment.bound).flatMap Fragment.values ++ [] = values
  rw [List.nil_append, List.append_nil, List.flatMap_map]
  exact List.flatMap_singleton' values

theorem sql_statement (table : String) (names : List String) (tuples : List (List Value)) :
    (statement table names tuples).sql = "INSERT INTO " ++ table ++ " (" ++ ",".intercalate names ++ ") VALUES "
      ++ ",".intercalate (tuples.map fun t => (tuple t).sql) ++ " RETURNING *;" := by
  simp only [statement, Statement.returningRows, Statement.terminator, Fragment.sql_append, Fragment.sql_verbatim,
    Fragment.sql_join, List.map_map]
  rfl

theorem values_statement (table : String) (names : List String) (tuples : List (List Value)) :
    (statement table names tuples).values = tuples.flatten := by
  have htuples : (tuples.map tuple).flatMap Fragment.values = tuples.flatten := by
    simp only [List.flatMap_map, values_tuple]
    exact List.flatMap_id'
  show [] ++ (tuples.map tuple).flatMap Fragment.values ++ [] = _
  rw [htuples, List.nil_append, List.append_nil]

end Insert

namespace Row

theorem length_values (r : Row) : r.values.length = r.names.length := by
  rw [values, names, List.length_map, List.length_map]

theorem sql_assignments (r : Row) : r.assignments.sql = ", ".intercalate (r.names.map (· ++ " = ?")) := by
  unfold assignments names
  rw [Fragment.sql_join, List.map_map, List.map_map]
  congr 1
  refine List.map_congr_left (fun c _ => ?_)
  simp [Fragment.bound, Fragment.marker, String.append_assoc]

theorem values_assignments (r : Row) : r.assignments.values = r.values := by
  unfold assignments
  rw [Fragment.values_join, List.flatMap_map, values, List.map_eq_flatMap]
  rfl

end Row

end BoundSql
