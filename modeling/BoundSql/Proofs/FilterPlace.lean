import BoundSql.Proofs.Statements
/-!
# FilterPlace — where a filter stands in a statement

A filter that has a clause is written into the statement at its place, with its values between those before and behind
it; one that has none leaves the statement as it is without a filter (`HoldsFilter`).  So it is for each filter that a
command can have (`Command.filter_never_lost`).
-/
namespace BoundSql

open Fragment (verbatim)

/-- No clause is in a conjunction without one, or in any number of these. -/
theorem Filter.clauses_eq_nil_iff (f : Filter) :
    f.clauses = [] ↔ f = .all .empty ∨ ∃ n, f = .any (List.replicate n .empty) := by
  cases f with
  | all c =>
    obtain ⟨ds⟩ := c
    constructor
    · intro h
      exact .inl (congrArg (fun l => all ⟨l⟩) h)
    · rintro (h | ⟨n, h⟩) <;> cases h
      rfl
  | any cs =>
    constructor
    · intro h
      have hall : ∀ c ∈ cs, c = .empty := by
        intro c hc
        have hnil : c.clauses = [] := List.flatMap_eq_nil_iff.1 h c hc
        exact congrArg Conjunction.mk hnil
      exact .inr ⟨cs.length, congrArg any (List.eq_replicate_of_mem hall)⟩
    · rintro (h | ⟨n, h⟩) <;> cases h
      refine List.flatMap_eq_nil_iff.2 (fun c hc => ?_)
      rw [List.eq_of_mem_replicate hc]
      rfl

/-- **A filter is held between two parts.**  Without one there is nothing between them.  One with a clause stands there
after the keyword with all its values, and changes the text; one without a clause changes nothing. -/
structure HoldsFilter (keyword : String) (before after : Fragment) (make : Option Filter → Command) : Prop where
  unfiltered : (make none).statement = .ok (before ++ after)
  filtered : ∀ f : Filter, f.clauses ≠ [] → ∃ s, (make (some f)).statement = .ok s ∧
    s.sql = before.sql ++ (" " ++ keyword ++ " " ++ f.fragment.sql) ++ after.sql ∧
    s.values = before.values ++ f.clauses.map Clause.value ++ after.values ∧ s.sql ≠ (before ++ after).sql
  clauseless : ∀ f : Filter, f.clauses = [] → (make (some f)).statement = .ok (before ++ after)

theorem HoldsFilter.of_statement {keyword : String} {before after : Fragment} {make : Option Filter → Command}
    (h : ∀ filter, (make filter).statement = .ok (before ++ Filter.clause keyword filter ++ after)) :
    HoldsFilter keyword before after make where
  unfiltered := by
    rw [h none, Filter.clause, Fragment.append_empty]
  filtered := by
    intro f hf
    refine ⟨_, h (some f), ?_⟩
    have hclause : (Filter.clause keyword (some f)).sql = " " ++ keyword ++ " " ++ f.fragment.sql := by
      rw [Filter.clause_some, if_neg hf]
      rfl
    have hvalues : (Filter.clause keyword (some f)).values = f.clauses.map Clause.value :=
      Filter.values_clause keyword (some f)
    refine ⟨?_, ?_, fun heq => ?_⟩
    · rw [Fragment.sql_append, Fragment.sql_append, hclause]
    · rw [Fragment.values_append, Fragment.values_append, hvalues]
    · -- what is held makes the text longer by the blank before the keyword at least
      have hlen := congrArg String.length heq
      have hblank : " ".length = 1 := rfl
      rw [Fragment.sql_append, Fragment.sql_append, Fragment.sql_append, hclause] at hlen
      simp only [String.length_append] at hlen
      omega
  clauseless := by
    intro f hf
    rw [h (some f), Filter.clause_some, if_pos hf, Fragment.append_empty]

theorem Select.statement_of_groupBy (table : String) {q : Select} {e : String} (h : q.groupBy = some e) :
    q.statement table = verbatim ("SELECT " ++ q.projection.sql ++ " FROM " ++ table) ++ Filter.clause "WHERE" q.filter
      ++ verbatim (" GROUP BY " ++ e) ++ Filter.clause "HAVING" q.having ++ verbatim ";" := by
  simp only [statement, grouping, h, Fragment.append_assoc]
  rfl

namespace Command

/-- **A filter is never lost.**  Deleting holds it before the end.  Updating holds it after the assignments and their
values.  A query holds it before the grouping and the condition on groups with its values, or before the end; and with a
grouping it holds the condition on groups behind that. -/
theorem filter_never_lost (table : String) {changes : Row} (hne : changes.columns ≠ []) (q : Select) :
    HoldsFilter "WHERE" (verbatim ("DELETE FROM " ++ table)) (verbatim " RETURNING *;") (.delete table) ∧
    HoldsFilter "WHERE"
      ⟨"UPDATE " ++ table ++ " SET " ++ ", ".intercalate (changes.names.map (· ++ " = ?")), changes.values⟩
      (verbatim " RETURNING *;") (.update table changes) ∧
    (q.groupBy = none →
      HoldsFilter "WHERE" (verbatim ("SELECT " ++ q.projection.sql ++ " FROM " ++ table)) (verbatim ";")
        fun filter => .select table { q with filter }) ∧
    (∀ e, q.groupBy = some e →
      HoldsFilter "WHERE" (verbatim ("SELECT " ++ q.projection.sql ++ " FROM " ++ table))
        (verbatim (" GROUP BY " ++ e) ++ Filter.clause "HAVING" q.having ++ verbatim ";")
        (fun filter => .select table { q with filter }) ∧
      HoldsFilter "HAVING"
        (verbatim ("SELECT " ++ q.projection.sql ++ " FROM " ++ table) ++ Filter.clause "WHERE" q.filter
          ++ verbatim (" GROUP BY " ++ e))
        (verbatim ";") fun having => .select table { q with having }) ∧
    ∀ f : Filter, f.clauses = [] ↔ f = .all .empty ∨ ∃ n, f = .any (List.replicate n .empty) := by
  refine ⟨?_, ?_, fun hg => ?_, fun e hg => ⟨?_, ?_⟩, Filter.clauses_eq_nil_iff⟩
  · exact .of_statement fun filter => rfl
  · refine .of_statement fun filter => (Update.statement_eq_ok_iff table changes filter _).2 ⟨hne, ?_⟩
    have hassign : (⟨"UPDATE " ++ table ++ " SET " ++ ", ".intercalate (changes.names.map (· ++ " = ?")),
        changes.values⟩ : Fragment) = verbatim ("UPDATE " ++ table ++ " SET ") ++ changes.assignments := by
      rw [← changes.sql_assignments, ← changes.values_assignments]
      rfl
    rw [hassign]
    rfl
  · refine .of_statement fun filter => congrArg Except.ok ?_
    simp only [Select.statement, Select.grouping, hg, Fragment.append_empty]
    rfl
  · refine .of_statement fun filter => congrArg Except.ok ?_
    rw [Select.statement_of_groupBy table (q := { q with filter }) hg]
    simp only [Fragment.append_assoc]
  · refine .of_statement fun having => congrArg Except.ok ?_
    exact Select.statement_of_groupBy table (q := { q with having }) hg

/-- An empty name makes a clause as well; a disjunction of nothing makes none. -/
theorem filter_never_lost_of_empty_key :
    let changes : Row := ⟨[⟨"Name", .text "X"⟩]⟩
    let f : Filter := .any [.empty, ⟨[⟨"", .null⟩, ⟨"Age > ?", .integer 31⟩]⟩]
    let q : Select := { filter := some (.all ⟨[⟨"Id", .integer 7⟩]⟩), groupBy := some "" }
    changes.columns ≠ [] ∧ f.clauses ≠ [] ∧
    (∃ s, (delete "men" (some f)).statement = .ok s ∧ s.sql = "DELETE FROM men WHERE ( = ? AND Age > ?) RETURNING *;" ∧
      s.values = [.null, .integer 31]) ∧
    (∃ s, (update "men" changes (some f)).statement = .ok s ∧
      s.sql = "UPDATE men SET Name = ? WHERE ( = ? AND Age > ?) RETURNING *;" ∧
      s.values = [.text "X", .null, .integer 31]) ∧
    (∃ s, (select "men" { q with having := some f }).statement = .ok s ∧
      s.sql = "SELECT * FROM men WHERE Id = ? GROUP BY  HAVING ( = ? AND Age > ?);" ∧
      s.values = [.integer 7, .null, .integer 31]) ∧
    (delete "men" (some (.any [.empty, .empty]))).statement = .ok ⟨"DELETE FROM men RETURNING *;", []⟩ := by
  intro changes f q
  have hne : changes.columns ≠ [] := by decide
  have hf : f.clauses ≠ [] := by decide
  obtain ⟨hdelete, hupdate, -, hgrouped, hnone⟩ := filter_never_lost "men" hne q
  obtain ⟨d, hd, hdsql, hdvalues, -⟩ := hdelete.filtered f hf
  obtain ⟨u, hu, husql, huvalues, -⟩ := hupdate.filtered f hf
  obtain ⟨h, hh, hhsql, hhvalues, -⟩ := (hgrouped "" rfl).2.filtered f hf
  refine ⟨hne, hf, ⟨d, hd, ?_, ?_⟩, ⟨u, hu, ?_, ?_⟩, ⟨h, hh, ?_, ?_⟩, ?_⟩
  · rw [hdsql]
    decide
  · rw [hdvalues]
    decide
  · rw [husql]
    decide
  · rw [huvalues]
    decide
  · rw [hhsql]
    decide
  · rw [hhvalues]
    decide
  · exact hdelete.clauseless _ ((hnone _).2 (.inr ⟨2, rfl⟩))

end Command
end BoundSql
