import BoundSql.Proofs.Acceptance
/-!
# Erasure — values do not reach the text

`mapValues` puts other values into a fragment, a row, a filter or a command and leaves the rest.  Changing the values
of a command and then making its statement is making the statement and then changing its values
(`Command.text_independent_of_values`): whether there is a statement, which fault there is, the text and the warnings
are those of the command with its values erased.
-/
namespace BoundSql

open Fragment (verbatim)

variable (f : Value → Value)

/-! ## Other values -/

def Fragment.mapValues (g : Fragment) : Fragment := ⟨g.sql, g.values.map f⟩

def Column.mapValue (c : Column) : Column := ⟨c.name, f c.value⟩

def Row.mapValues (r : Row) : Row := ⟨r.columns.map (Column.mapValue f)⟩

def Clause.mapValue (c : Clause) : Clause := ⟨c.key, f c.value⟩

def Conjunction.mapValues (c : Conjunction) : Conjunction := ⟨c.clauses.map (Clause.mapValue f)⟩

def Filter.mapValues : Filter → Filter
  | all c => all (c.mapValues f)
  | any cs => any (cs.map (Conjunction.mapValues f))

def Select.mapValues (q : Select) : Select :=
  { q with filter := q.filter.map (Filter.mapValues f), having := q.having.map (Filter.mapValues f) }

namespace Command

/-- The command with other values in its rows, assignments and filters. -/
def mapValues : Command → Command
  | insert table row => insert table (row.mapValues f)
  | insertMany table rows => insertMany table (rows.map (Row.mapValues f))
  | select table q => select table (q.mapValues f)
  | update table changes filter => update table (changes.mapValues f) (filter.map (Filter.mapValues f))
  | delete table filter => delete table (filter.map (Filter.mapValues f))

/-- The command without its values: two commands that differ only in values are erased to the same. -/
def erased (c : Command) : Command := c.mapValues fun _ => .null

end Command

/-! ## Fragments -/

namespace Fragment

@[simp] theorem sql_mapValues (g : Fragment) : (g.mapValues f).sql = g.sql := rfl

@[simp] theorem mapValues_verbatim (s : String) : (verbatim s).mapValues f = verbatim s := rfl

theorem mapValues_append (g h : Fragment) : (g ++ h).mapValues f = g.mapValues f ++ h.mapValues f := by
  ext1
  · rfl
  · exact List.map_append

theorem mapValues_join (s : String) (gs : List Fragment) :
    (join s gs).mapValues f = join s (gs.map (Fragment.mapValues f)) := by
  ext1
  · simp [Function.comp_def]
  · simp [mapValues, List.map_flatMap, List.flatMap_map]

theorem clause_mapValues (keyword : String) (g : Fragment) :
    (g.mapValues f).clause keyword = (g.clause keyword).mapValues f := by
  unfold clause
  by_cases h : g.isEmpty = true
  · rw [if_pos h]
    exact if_pos h
  · rw [if_neg h, mapValues_append]
    exact if_neg h

end Fragment

/-! ## Filters -/

theorem Clause.fragment_mapValue (c : Clause) : (c.mapValue f).fragment = c.fragment.mapValues f := by
  rw [fragment_eq, fragment_eq]
  rfl

theorem Conjunction.fragment_mapValues (c : Conjunction) : (c.mapValues f).fragment = c.fragment.mapValues f := by
  unfold fragment mapValues
  rw [Fragment.mapValues_join, List.map_map, List.map_map]
  congr 1
  exact List.map_congr_left (fun d _ => d.fragment_mapValue f)

namespace Filter

theorem inhabited_mapValues (cs : List Conjunction) :
    inhabited (cs.map (Conjunction.mapValues f)) = (inhabited cs).map (Conjunction.mapValues f) := by
  unfold inhabited
  rw [List.filter_map]
  congr 1
  refine List.filter_congr (fun c _ => ?_)
  simp [Conjunction.isEmpty, Conjunction.mapValues]

theorem fragment_mapValues (g : Filter) : (g.mapValues f).fragment = g.fragment.mapValues f := by
  cases g with
  | all c => exact c.fragment_mapValues f
  | any cs =>
    have h := inhabited_mapValues f cs
    unfold inhabited at h
    unfold mapValues fragment
    rw [Fragment.mapValues_join]
    simp only [h, List.map_map]
    congr 1
    refine List.map_congr_left (fun c _ => ?_)
    simp only [Function.comp_apply, Fragment.parenthesized, Fragment.mapValues_append, Fragment.mapValues_verbatim,
      c.fragment_mapValues f]

theorem clause_mapValues (keyword : String) : ∀ (filter : Option Filter),
    clause keyword (filter.map (Filter.mapValues f)) = (clause keyword filter).mapValues f
  | none => rfl
  | some g => by
    rw [Option.map_some, clause, g.fragment_mapValues f]
    exact Fragment.clause_mapValues f keyword g.fragment

end Filter

/-! ## Rows -/

namespace Row

theorem names_mapValues (r : Row) : (r.mapValues f).names = r.names := by
  simp [names, mapValues, Column.mapValue, Function.comp_def]

theorem values_mapValues (r : Row) : (r.mapValues f).values = r.values.map f := by
  simp [values, mapValues, Column.mapValue, Function.comp_def]

theorem isEmpty_mapValues (r : Row) : (r.mapValues f).isEmpty = r.isEmpty := List.isEmpty_map

theorem get?_mapValues (r : Row) (name : String) : (r.mapValues f).get? name = (r.get? name).map f := by
  simp [get?, mapValues, Column.mapValue, List.find?_map, Function.comp_def]

theorem fits_mapValues (r : Row) (names : List String) : (r.mapValues f).fits names = r.fits names := by
  rw [Bool.eq_iff_iff, fits_iff, fits_iff, names_mapValues]

/-- A row that fits the names never falls back to null, so it does not matter what becomes of null. -/
theorem valuesUnder_mapValues {r : Row} {names : List String} (h : r.fits names = true) :
    (r.mapValues f).valuesUnder names = (r.valuesUnder names).map f := by
  unfold valuesUnder
  rw [List.map_map]
  refine List.map_congr_left (fun name hn => ?_)
  obtain ⟨v, hv⟩ := get?_of_fits h hn
  simp [get?_mapValues, hv]

theorem assignments_mapValues (r : Row) : (r.mapValues f).assignments = r.assignments.mapValues f := by
  unfold assignments mapValues
  rw [Fragment.mapValues_join, List.map_map, List.map_map]
  congr 1

end Row

/-! ## Commands -/

namespace Insert

theorem tuple_map (vs : List Value) : tuple (vs.map f) = (tuple vs).mapValues f := by
  unfold tuple
  simp only [Fragment.parenthesized, Fragment.mapValues_append, Fragment.mapValues_verbatim, Fragment.mapValues_join,
    List.map_map]
  rfl

theorem statement_map (table : String) (names : List String) (tuples : List (List Value)) :
    statement table names (tuples.map (List.map f)) = (statement table names tuples).mapValues f := by
  unfold statement
  rw [Fragment.mapValues_append, Fragment.mapValues_append, Fragment.mapValues_join, List.map_map, List.map_map]
  congr 3
  exact List.map_congr_left (fun vs _ => tuple_map f vs)

theorem one_mapValues (table : String) (row : Row) :
    one table (row.mapValues f) = (one table row).map (Fragment.mapValues f) := by
  unfold one
  rw [row.isEmpty_mapValues f]
  by_cases h : row.isEmpty = true
  · rw [if_pos h, if_pos h]
    rfl
  · rw [if_neg h, if_neg h, row.names_mapValues f, row.values_mapValues f, Except.map, ← statement_map]
    rfl

theorem misfit?_mapValues (names : List String) (rows : List Row) :
    misfit? names (rows.map (Row.mapValues f)) = (misfit? names rows).map (Prod.map (Row.mapValues f) id) := by
  unfold misfit?
  rw [List.zipIdx_map, List.find?_map]
  congr 2
  funext p
  simp [Row.fits_mapValues]

theorem valuesUnder_map {names : List String} {rows : List Row} (h : ∀ r ∈ rows, r.fits names = true) :
    (rows.map (Row.mapValues f)).map (·.valuesUnder names) =
      (rows.map (·.valuesUnder names)).map (List.map f) := by
  rw [List.map_map, List.map_map]
  exact List.map_congr_left (fun r hr => r.valuesUnder_mapValues f (h r hr))

theorem many_mapValues (table : String) : ∀ (rows : List Row),
    many table (rows.map (Row.mapValues f)) = (many table rows).map (Fragment.mapValues f)
  | [] => rfl
  | first :: rest => by
    rw [List.map_cons, many, many, first.isEmpty_mapValues f, first.names_mapValues f, misfit?_mapValues]
    by_cases he : first.isEmpty = true
    · rw [if_pos he, if_pos he]
      rfl
    rw [if_neg he, if_neg he]
    rcases find?_misfit first.names rest 1 with ⟨hnone, hall⟩ | ⟨pre, row, post, -, -, -, hsome⟩
    · have hfits : ∀ r ∈ first :: rest, r.fits first.names = true :=
        List.forall_mem_cons.2 ⟨first.fits_names_self, hall⟩
      rw [misfit?, hnone, ← List.map_cons, valuesUnder_map f hfits, statement_map]
      rfl
    · rw [misfit?, hsome]
      simp only [Option.map_some, Prod.map_apply, row.names_mapValues f]
      rfl

end Insert

theorem Select.statement_mapValues (table : String) (q : Select) :
    (q.mapValues f).statement table = (q.statement table).mapValues f := by
  have hgrouping : (q.mapValues f).grouping = q.grouping.mapValues f := by
    unfold grouping mapValues
    cases q.groupBy with
    | none => rfl
    | some e =>
      simp only [Fragment.mapValues_append, Filter.clause_mapValues]
      rfl
  unfold statement
  rw [hgrouping, mapValues, Filter.clause_mapValues]
  simp only [Fragment.mapValues_append]
  rfl

theorem Update.statement_mapValues (table : String) (changes : Row) (filter : Option Filter) :
    statement table (changes.mapValues f) (filter.map (Filter.mapValues f)) =
      (statement table changes filter).map (Fragment.mapValues f) := by
  unfold statement
  rw [changes.isEmpty_mapValues f]
  by_cases h : changes.isEmpty = true
  · rw [if_pos h, if_pos h]
    rfl
  · rw [if_neg h, if_neg h, changes.assignments_mapValues f, Filter.clause_mapValues, Fragment.clause_mapValues,
      Except.map]
    simp only [Fragment.mapValues_append]
    rfl

theorem Delete.statement_mapValues (table : String) (filter : Option Filter) :
    statement table (filter.map (Filter.mapValues f)) = (statement table filter).mapValues f := by
  unfold statement
  rw [Filter.clause_mapValues]
  simp only [Fragment.mapValues_append]
  rfl

namespace Command

theorem ignoresHaving_mapValues (q : Select) : (q.mapValues f).ignoresHaving = q.ignoresHaving := by
  simp [Select.ignoresHaving, Select.mapValues]

/-- Other values give the same statement with other values, or the same fault. -/
theorem statement_map (c : Command) : (c.mapValues f).statement = c.statement.map (Fragment.mapValues f) := by
  cases c with
  | insert table row => exact Insert.one_mapValues f table row
  | insertMany table rows => exact Insert.many_mapValues f table rows
  | select table q => exact congrArg Except.ok (q.statement_mapValues f table)
  | update table changes filter => exact Update.statement_mapValues f table changes filter
  | delete table filter => exact congrArg Except.ok (Delete.statement_mapValues f table filter)

theorem warnings_map (c : Command) : (c.mapValues f).warnings = c.warnings := by
  cases c with
  | select table q =>
    show (if (q.mapValues f).ignoresHaving then [LogEvent.havingIgnored table] else []) = _
    rw [ignoresHaving_mapValues]
    rfl
  | _ => rfl

/-- Erasing keeps the fault, and the text if there is none. -/
theorem sql_erased (c : Command) : c.erased.statement.map Fragment.sql = c.statement.map Fragment.sql := by
  rw [erased, statement_map]
  cases c.statement <;> rfl

/-- **Values do not reach the text.**  A command with other values, whatever they are, has the same fault, or a
statement with the same text whose values are changed one by one; and it gives the same warnings.  So commands that
differ only in their values have the same text or the same fault, and the same warnings. -/
theorem text_independent_of_values (c : Command) :
    (c.mapValues f).statement = c.statement.map (Fragment.mapValues f) ∧ (c.mapValues f).warnings = c.warnings ∧
    ∀ d : Command, c.erased = d.erased →
      c.statement.map Fragment.sql = d.statement.map Fragment.sql ∧ c.warnings = d.warnings := by
  refine ⟨c.statement_map f, c.warnings_map f, fun d h => ⟨?_, ?_⟩⟩
  · rw [← c.sql_erased, h, d.sql_erased]
  · rw [← c.warnings_map fun _ => .null, ← d.warnings_map fun _ => .null]
    exact congrArg warnings h

/-- A text with a quote, a marker and a semicolon leaves the statement as null does. -/
theorem text_independent_of_hostile_value :
    let c := insertMany "men" [⟨[⟨"Name", .null⟩, ⟨"Age", .integer 31⟩]⟩, ⟨[⟨"Age", .null⟩, ⟨"Name", .text "B"⟩]⟩]
    let d := insertMany "men" [⟨[⟨"Name", .text "'?;"⟩, ⟨"Age", .null⟩]⟩, ⟨[⟨"Age", .null⟩, ⟨"Name", .null⟩]⟩]
    c.erased = d.erased ∧
    c.statement.map Fragment.sql = .ok "INSERT INTO men (Name,Age) VALUES (?,?),(?,?) RETURNING *;" ∧
    c.statement.map Fragment.sql = d.statement.map Fragment.sql ∧ c.warnings = d.warnings := by
  intro c d
  have h : c.erased = d.erased := rfl
  exact ⟨h, by decide, (text_independent_of_values id c).2.2 d h⟩

end Command
end BoundSql
