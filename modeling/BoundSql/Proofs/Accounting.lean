import BoundSql.Proofs.Acceptance
import BoundSql.Proofs.Occurrences
import Mathlib.Algebra.BigOperators.Ring.List
import Mathlib.Algebra.Ring.Nat
/-!
# Accounting — the markers of a statement and its values

A sign of a statement, be it the marker or the semicolon, stands in no keyword and no separator.  So it is counted in
the texts that are written as they are given and in the clauses that are written, part by part
(`Command.exists_occurrences`).  For the marker this gives the account of values and markers (`Command.markerCount_eq`),
which holds whatever the texts are.
-/
namespace BoundSql

open Fragment (marker verbatim)

/-! ## What is written as it is given -/

def NamedExpression.written (e : NamedExpression) : List String :=
  if e.expression = e.name then [e.expression] else [e.expression, e.name]

def Projection.written : Projection → List String
  | everything => []
  | raw e => [e]
  | list es => es
  | named es => es.flatMap NamedExpression.written

/-- The condition on groups is written only with a grouping. -/
def Select.writtenHaving (q : Select) : Option Filter := q.groupBy.elim none fun _ => q.having

namespace Command

/-- The texts of a command that stand in its statement as they are given, the keys of clauses apart. -/
def writtenTexts : Command → List String
  | insert table row => table :: row.names
  | insertMany table rows => table :: Insert.columnNames rows
  | select table q => q.projection.written ++ table :: q.groupBy.toList
  | update table changes _ => table :: changes.names
  | delete table _ => [table]

/-- The clauses that stand in the statement of a command, in their order. -/
def writtenClauses : Command → List Clause
  | insert .. => []
  | insertMany .. => []
  | select _ q => Filter.clausesOf q.filter ++ Filter.clausesOf q.writtenHaving
  | update _ _ filter => Filter.clausesOf filter
  | delete _ filter => Filter.clausesOf filter

end Command

/-! ## Signs -/

/-- The signs of a statement are the marker of a value and the semicolon at its end; no keyword and no separator has
one. -/
def IsSign (c : Char) : Prop := c = marker ∨ c = ';'

namespace IsSign

variable {c : Char}

theorem absent (h : IsSign c) {s : String} (hs : marker ∉ s.toList ∧ ';' ∉ s.toList) : occurrences c s = 0 := by
  rcases h with rfl | rfl
  · exact occurrences_eq_zero_iff.2 hs.1
  · exact occurrences_eq_zero_iff.2 hs.2

theorem occurrences_joined (h : IsSign c) {s : String} (hs : marker ∉ s.toList ∧ ';' ∉ s.toList) (l : List String) :
    occurrences c (s.intercalate l) = (l.map (occurrences c)).sum := occurrences_intercalate (h.absent hs) l

theorem occurrences_parenthesized (h : IsSign c) (f : Fragment) :
    occurrences c f.parenthesized.sql = occurrences c f.sql := by
  have hopen : occurrences c "(" = 0 := h.absent (by decide)
  have hclose : occurrences c ")" = 0 := h.absent (by decide)
  show occurrences c ("(" ++ f.sql ++ ")") = _
  rw [occurrences_append, occurrences_append, hopen, hclose, Nat.zero_add, Nat.add_zero]

theorem occurrences_conjunction (h : IsSign c) (d : Conjunction) :
    occurrences c d.fragment.sql = (d.clauses.map fun e => occurrences c e.text).sum := by
  rw [d.sql_fragment, h.occurrences_joined (by decide), List.map_map]
  rfl

theorem occurrences_filter (h : IsSign c) (f : Filter) :
    occurrences c f.fragment.sql = (f.clauses.map fun d => occurrences c d.text).sum := by
  cases f with
  | all d => exact h.occurrences_conjunction d
  | any ds =>
    have hpart : ∀ d : Conjunction,
        occurrences c d.fragment.parenthesized.sql = (d.clauses.map fun e => occurrences c e.text).sum := by
      intro d
      rw [h.occurrences_parenthesized, h.occurrences_conjunction]
    -- the conjunctions that are not written have no clause that could count
    have hclauses : (Filter.any ds).clauses = (Filter.inhabited ds).flatMap Conjunction.clauses :=
      (Filter.flatMap_inhabited ds).symm
    rw [hclauses, Filter.sql_fragment_any]
    exact occurrences_intercalate_parts (h.absent (by decide)) hpart _

theorem occurrences_filterClause (h : IsSign c) {keyword : String}
    (hk : marker ∉ keyword.toList ∧ ';' ∉ keyword.toList) (filter : Option Filter) :
    occurrences c (Filter.clause keyword filter).sql =
      ((Filter.clausesOf filter).map fun d => occurrences c d.text).sum := by
  cases filter with
  | none => rfl
  | some f =>
    rw [Filter.clause_some]
    by_cases he : f.clauses = []
    · rw [if_pos he, Filter.clausesOf, Option.elim_some, he]
      rfl
    · rw [if_neg he, Fragment.sql_append, Fragment.sql_verbatim, occurrences_append, occurrences_append,
        occurrences_append, h.absent hk, h.absent (by decide), h.occurrences_filter f, Nat.zero_add]
      rfl

theorem occurrences_tuple (h : IsSign c) (t : List Value) :
    occurrences c (Insert.tuple t).sql = t.length * occurrences c "?" := by
  unfold Insert.tuple
  rw [h.occurrences_parenthesized, Fragment.sql_join, Fragment.map_sql_bound, h.occurrences_joined (by decide),
    List.map_replicate, List.sum_replicate]
  rfl

theorem occurrences_returning (h : IsSign c) : occurrences c Statement.returningRows.sql = occurrences c ";" := by
  have hwords : occurrences c " RETURNING *" = 0 := h.absent (by decide)
  show occurrences c (" RETURNING *" ++ ";") = _
  rw [occurrences_append, hwords, Nat.zero_add]

theorem occurrences_insert (h : IsSign c) (table : String) (names : List String) (tuples : List (List Value)) :
    occurrences c (Insert.statement table names tuples).sql = occurrences c table + (names.map (occurrences c)).sum
      + tuples.flatten.length * occurrences c "?" + occurrences c ";" := by
  have hhead : occurrences c "INSERT INTO " = 0 := h.absent (by decide)
  have hopen : occurrences c " (" = 0 := h.absent (by decide)
  have hvalues : occurrences c ") VALUES " = 0 := h.absent (by decide)
  have htuples : occurrences c (",".intercalate (tuples.map fun t => (Insert.tuple t).sql)) =
      tuples.flatten.length * occurrences c "?" := by
    rw [h.occurrences_joined (by decide), List.map_map, List.length_flatten,
      ← List.sum_map_mul_right tuples List.length (occurrences c "?")]
    congr 1
    exact List.map_congr_left (fun t _ => h.occurrences_tuple t)
  have hsql : (Insert.statement table names tuples).sql = "INSERT INTO " ++ table ++ " (" ++ ",".intercalate names
      ++ ") VALUES " ++ ",".intercalate (tuples.map fun t => (Insert.tuple t).sql) ++ Statement.returningRows.sql :=
    Insert.sql_statement table names tuples
  rw [hsql]
  simp only [occurrences_append]
  rw [hhead, hopen, hvalues, htuples, h.occurrences_joined (by decide), h.occurrences_returning]
  omega

theorem occurrences_assignments (h : IsSign c) (r : Row) : occurrences c r.assignments.sql =
    (r.names.map (occurrences c)).sum + r.values.length * occurrences c "?" := by
  have hone : ∀ name : String, occurrences c (name ++ " = ?") = occurrences c name + occurrences c "?" := by
    intro name
    have heq : occurrences c " = " = 0 := h.absent (by decide)
    show occurrences c (name ++ (" = " ++ "?")) = _
    rw [occurrences_append, occurrences_append, heq, Nat.zero_add]
  rw [r.sql_assignments, h.occurrences_joined (by decide), List.map_map, r.length_values]
  have hsum : (r.names.map (occurrences c ∘ (· ++ " = ?"))).sum =
      (r.names.map fun name => occurrences c name + occurrences c "?").sum := by
    congr 1
    exact List.map_congr_left (fun name _ => hone name)
  rw [hsum, List.sum_map_add, List.map_const', List.sum_replicate]
  rfl

theorem occurrences_projection (h : IsSign c) (p : Projection) :
    occurrences c p.sql = (p.written.map (occurrences c)).sum := by
  cases p with
  | everything => exact h.absent (by decide)
  | raw e => exact (Nat.add_zero _).symm
  | list es => exact h.occurrences_joined (by decide) es
  | named es =>
    have hone : ∀ e : NamedExpression, occurrences c e.sql = (e.written.map (occurrences c)).sum := by
      intro e
      unfold NamedExpression.sql NamedExpression.written
      by_cases he : e.expression = e.name
      · rw [if_pos he, if_pos he]
        rfl
      · have has : occurrences c " AS " = 0 := h.absent (by decide)
        rw [if_neg he, if_neg he, occurrences_append, occurrences_append, has]
        rfl
    exact occurrences_intercalate_parts (h.absent (by decide)) hone es

theorem occurrences_select (h : IsSign c) (table : String) (q : Select) :
    occurrences c (q.statement table).sql = ((Command.select table q).writtenTexts.map (occurrences c)).sum
      + ((Command.select table q).writtenClauses.map fun d => occurrences c d.text).sum + occurrences c ";" := by
  have hselect : occurrences c "SELECT " = 0 := h.absent (by decide)
  have hfrom : occurrences c " FROM " = 0 := h.absent (by decide)
  have hgrouping : occurrences c q.grouping.sql = (q.groupBy.toList.map (occurrences c)).sum
      + ((Filter.clausesOf q.writtenHaving).map fun d => occurrences c d.text).sum := by
    unfold Select.grouping Select.writtenHaving
    cases q.groupBy with
    | none => rfl
    | some e =>
      have hgroup : occurrences c " GROUP BY " = 0 := h.absent (by decide)
      rw [Fragment.sql_append, Fragment.sql_verbatim, occurrences_append, occurrences_append, hgroup,
        h.occurrences_filterClause (by decide), Nat.zero_add]
      rfl
  unfold Select.statement Command.writtenTexts Command.writtenClauses
  simp only [Statement.terminator, Fragment.sql_append, Fragment.sql_verbatim, occurrences_append, List.map_append,
    List.map_cons, List.sum_append, List.sum_cons]
  rw [hselect, hfrom, hgrouping, h.occurrences_projection, h.occurrences_filterClause (by decide)]
  omega

theorem occurrences_update (h : IsSign c) (table : String) (changes : Row) (filter : Option Filter) :
    occurrences c (verbatim ("UPDATE " ++ table ++ " SET ") ++ changes.assignments ++ Filter.clause "WHERE" filter
        ++ Statement.returningRows).sql =
      ((Command.update table changes filter).writtenTexts.map (occurrences c)).sum
        + ((Command.update table changes filter).writtenClauses.map fun d => occurrences c d.text).sum
        + changes.values.length * occurrences c "?" + occurrences c ";" := by
  have hupdate : occurrences c "UPDATE " = 0 := h.absent (by decide)
  have hset : occurrences c " SET " = 0 := h.absent (by decide)
  unfold Command.writtenTexts Command.writtenClauses
  simp only [Fragment.sql_append, Fragment.sql_verbatim, occurrences_append, List.map_cons, List.sum_cons]
  rw [hupdate, hset, h.occurrences_assignments, h.occurrences_filterClause (by decide), h.occurrences_returning]
  omega

theorem occurrences_delete (h : IsSign c) (table : String) (filter : Option Filter) :
    occurrences c (Delete.statement table filter).sql =
      ((Command.delete table filter).writtenTexts.map (occurrences c)).sum
        + ((Command.delete table filter).writtenClauses.map fun d => occurrences c d.text).sum + occurrences c ";" := by
  have hdelete : occurrences c "DELETE FROM " = 0 := h.absent (by decide)
  unfold Delete.statement Command.writtenTexts Command.writtenClauses
  simp only [Fragment.sql_append, Fragment.sql_verbatim, occurrences_append, List.map_cons, List.map_nil, List.sum_cons,
    List.sum_nil]
  rw [hdelete, h.occurrences_filterClause (by decide), h.occurrences_returning]
  omega

end IsSign

/-! ## The account -/

namespace Command

theorem values_select (table : String) (q : Select) :
    (q.statement table).values = (select table q).writtenClauses.map Clause.value := by
  have hgrouping : q.grouping.values = (Filter.clausesOf q.writtenHaving).map Clause.value := by
    unfold Select.grouping Select.writtenHaving
    cases q.groupBy with
    | none => rfl
    | some e => exact Filter.values_clause "HAVING" q.having
  show [] ++ (Filter.clause "WHERE" q.filter).values ++ q.grouping.values ++ [] = _
  rw [List.nil_append, List.append_nil, hgrouping, Filter.values_clause, writtenClauses, List.map_append]

/-- **What a statement is made of.**  Some of its values come with names and the others with clauses, one with each.  A
sign stands in it as often as in the texts that are written, in the texts of the clauses, in a marker for each value
that comes with a name, and in the semicolon at the end. -/
theorem exists_occurrences {c : Command} {s : Statement} (hs : c.statement = .ok s) : ∃ n,
    s.values.length = n + c.writtenClauses.length ∧ ∀ a, IsSign a →
      occurrences a s.sql = (c.writtenTexts.map (occurrences a)).sum
        + (c.writtenClauses.map fun d => occurrences a d.text).sum + n * occurrences a "?" + occurrences a ";" := by
  cases c with
  | insert table row =>
    obtain ⟨-, rfl⟩ := (Insert.one_eq_ok_iff table row s).1 hs
    refine ⟨_, congrArg List.length (Insert.values_statement ..), fun a ha => ?_⟩
    exact ha.occurrences_insert table row.names [row.values]
  | insertMany table rows =>
    obtain ⟨first, rest, rfl, -, -, rfl⟩ := (Insert.many_eq_ok_iff table rows s).1 hs
    refine ⟨_, congrArg List.length (Insert.values_statement ..), fun a ha => ?_⟩
    exact ha.occurrences_insert table first.names _
  | select table q =>
    cases hs
    refine ⟨0, ?_, fun a ha => ?_⟩
    · rw [values_select, List.length_map, Nat.zero_add]
    · rw [ha.occurrences_select, Nat.zero_mul, Nat.add_zero]
  | update table changes filter =>
    obtain ⟨-, rfl⟩ := (Update.statement_eq_ok_iff table changes filter s).1 hs
    refine ⟨changes.values.length, ?_, fun a ha => ha.occurrences_update table changes filter⟩
    show ([] ++ changes.assignments.values ++ (Filter.clause "WHERE" filter).values ++ []).length = _
    rw [List.nil_append, List.append_nil, List.length_append, changes.values_assignments, Filter.values_clause,
      List.length_map]
    rfl
  | delete table filter =>
    cases hs
    refine ⟨0, ?_, fun a ha => ?_⟩
    · show ([] ++ (Filter.clause "WHERE" filter).values ++ []).length = _
      rw [List.nil_append, List.append_nil, Filter.values_clause, List.length_map, Nat.zero_add]
      rfl
    · rw [ha.occurrences_delete, Nat.zero_mul, Nat.add_zero]

/-- A query without a grouping has its statement with any other condition on groups as well. -/
theorem statement_of_ungrouped {c : Command} {s : Statement} (hs : c.statement = .ok s) {table : String} {q : Select}
    (having : Option Filter) (hc : c = select table q) (hgroup : q.groupBy = none) :
    (select table { q with having }).statement = .ok s := by
  subst hc
  rw [← hs]
  exact congrArg Except.ok (q.statement_of_ungrouped table hgroup having)

/-- A clause has one marker, and those that its key has beside the one of its value. -/
theorem occurrences_marker_text (d : Clause) :
    occurrences marker d.text = 1 + (occurrences marker d.key - 1) := by
  unfold Clause.text
  by_cases hraw : d.isRaw = true
  · have hpos : 0 < occurrences marker d.key := List.count_pos_iff.2 (d.isRaw_iff.1 hraw)
    rw [if_pos hraw]
    omega
  · have hnone : occurrences marker d.key = 0 := occurrences_eq_zero_iff.2 fun hm => hraw (d.isRaw_iff.2 hm)
    rw [if_neg hraw, occurrences_append, hnone]
    rfl

/-- **The account of the markers.**  A statement has a marker for each of its values, those of the texts that are
written as they are given, and those that keys have beside one.  So it never binds more values than it has markers, and
as many exactly when no text has a marker and no key has two.  A condition on groups without a grouping adds nothing. -/
theorem markerCount_eq {c : Command} {s : Statement} (hs : c.statement = .ok s) :
    s.markerCount = s.values.length + (c.writtenTexts.map (occurrences marker)).sum
      + (c.writtenClauses.map fun d => occurrences marker d.key - 1).sum ∧
    s.values.length ≤ s.markerCount ∧
    (s.markerCount = s.values.length ↔
      (∀ t ∈ c.writtenTexts, marker ∉ t.toList) ∧ ∀ d ∈ c.writtenClauses, occurrences marker d.key ≤ 1) ∧
    ∀ table q having, c = select table q → q.groupBy = none →
      (select table { q with having }).statement = .ok s := by
  obtain ⟨n, hvalues, hsigns⟩ := exists_occurrences hs
  have hcount : s.markerCount = s.values.length + (c.writtenTexts.map (occurrences marker)).sum
      + (c.writtenClauses.map fun d => occurrences marker d.key - 1).sum := by
    have htexts : (c.writtenClauses.map fun d => occurrences marker d.text).sum =
        c.writtenClauses.length + (c.writtenClauses.map fun d => occurrences marker d.key - 1).sum := by
      simp only [occurrences_marker_text, List.sum_map_add, List.map_const', List.sum_replicate]
      exact congrArg (· + _) (Nat.mul_one c.writtenClauses.length)
    have hone : occurrences marker "?" = 1 := by decide
    have hend : occurrences marker ";" = 0 := by decide
    have hsql := hsigns marker (.inl rfl)
    rw [htexts, hone, hend] at hsql
    have hdef : s.markerCount = occurrences marker s.sql := rfl
    omega
  refine ⟨hcount, by omega, ?_, fun _ _ => statement_of_ungrouped hs⟩
  · have hsums : s.markerCount = s.values.length ↔ (c.writtenTexts.map (occurrences marker)).sum = 0 ∧
        (c.writtenClauses.map fun d => occurrences marker d.key - 1).sum = 0 := by omega
    rw [hsums, List.sum_eq_zero_iff_forall_eq_nat, List.sum_eq_zero_iff_forall_eq_nat, List.forall_mem_map,
      List.forall_mem_map]
    simp only [occurrences_eq_zero_iff, Nat.sub_eq_zero_iff_le]

/-- Two values, two markers in the projection, and one that the first key has beside that of its value; the name of an
expression that it already has is not written, and neither is the condition on groups. -/
theorem markerCount_eq_of_marked_texts :
    let q : Select := {
      projection := .named [⟨"a->?", "a->?"⟩, ⟨"b", "b?"⟩]
      filter := some (.any [⟨[⟨"x between ? and ?", .integer 1⟩, ⟨"Name", .text "?"⟩]⟩, ⟨[]⟩])
      having := some (.all ⟨[⟨"count(*) > ?", .integer 2⟩]⟩) }
    let s : Statement := ⟨"SELECT a->?, b AS b? FROM men WHERE (x between ? and ? AND Name = ?);",
      [.integer 1, .text "?"]⟩
    (select "men" q).statement = .ok s ∧ s.markerCount = 2 + 2 + 1 ∧ s.markerCount ≠ s.values.length ∧
    (select "men" { q with having := none }).statement = .ok s := by
  intro q s
  have hs : (select "men" q).statement = .ok s := by decide
  obtain ⟨hcount, -, hiff, hhaving⟩ := markerCount_eq hs
  refine ⟨hs, hcount, fun heq => ?_, hhaving "men" q none rfl rfl⟩
  exact (hiff.1 heq).1 "a->?" (by decide) (by decide)

end Command
end BoundSql
