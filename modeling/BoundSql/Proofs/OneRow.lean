import BoundSql.Proofs.RowMajor
/-!
# OneRow — one row inserted by itself and as the only one of several

The values of a row are bound by position when it is inserted by itself, and by their names when it is the only one of
several.  The text is the same, and the values are exactly if no name is repeated with another value
(`Row.values_eq_valuesUnder_iff`); so both give one statement for every row without repeated names
(`Insert.one_agrees_with_many`).
-/
namespace BoundSql

namespace Row

/-- Every column has the value of the first column with its name. -/
def RepeatsAgree (r : Row) : Prop :=
  ∀ pre first post, r.columns = pre ++ first :: post → first.name ∉ pre.map Column.name →
    ∀ c ∈ post, c.name = first.name → c.value = first.value

theorem get?_eq_some_iff_first (r : Row) (name : String) (v : Value) : r.get? name = some v ↔
    ∃ pre first post, r.columns = pre ++ first :: post ∧ name ∉ pre.map Column.name ∧ first.name = name ∧
      first.value = v := by
  unfold get?
  rw [Option.map_eq_some_iff]
  constructor
  · rintro ⟨first, hfirst, rfl⟩
    obtain ⟨hname, pre, post, hcolumns, hpre⟩ := List.find?_eq_some_iff_append.1 hfirst
    refine ⟨pre, first, post, hcolumns, ?_, by simpa using hname, rfl⟩
    intro hmem
    obtain ⟨c, hc, hcname⟩ := List.mem_map.1 hmem
    simpa [hcname] using hpre c hc
  · rintro ⟨pre, first, post, hcolumns, hpre, rfl, rfl⟩
    refine ⟨first, List.find?_eq_some_iff_append.2 ⟨by simp, pre, post, hcolumns, fun c hc => ?_⟩, rfl⟩
    have hne : c.name ≠ first.name := fun h => hpre (List.mem_map.2 ⟨c, hc, h⟩)
    simpa using hne

theorem repeatsAgree_iff (r : Row) : r.RepeatsAgree ↔ ∀ c ∈ r.columns, r.get? c.name = some c.value := by
  constructor
  · intro h c hc
    obtain ⟨v, hv⟩ := get?_of_fits r.fits_names_self (List.mem_map.2 ⟨c, hc, rfl⟩)
    obtain ⟨pre, first, post, hcolumns, hpre, hname, rfl⟩ := (r.get?_eq_some_iff_first c.name v).1 hv
    rw [hv]
    rw [hcolumns, List.mem_append, List.mem_cons] at hc
    rcases hc with hc | rfl | hc
    · exact absurd (List.mem_map.2 ⟨c, hc, rfl⟩) hpre
    · rfl
    · rw [h pre first post hcolumns (hname ▸ hpre) c hc hname.symm]
  · intro h pre first post hcolumns hpre c hc hname
    have hget : r.get? first.name = some first.value :=
      (r.get?_eq_some_iff_first _ _).2 ⟨pre, first, post, hcolumns, hpre, rfl, rfl⟩
    have hc' := h c (by simp [hcolumns, hc])
    rw [hname, hget] at hc'
    exact (Option.some.inj hc').symm

instance (r : Row) : Decidable r.RepeatsAgree := decidable_of_iff _ r.repeatsAgree_iff.symm

/-- **The values looked up by name are those in their columns exactly if repeated names agree.** -/
theorem values_eq_valuesUnder_iff (r : Row) : r.values = r.valuesUnder r.names ↔ r.RepeatsAgree := by
  unfold values valuesUnder names
  rw [repeatsAgree_iff, List.map_map, List.map_inj_left]
  refine forall₂_congr fun c hc => ?_
  obtain ⟨v, hv⟩ := get?_of_fits r.fits_names_self (List.mem_map.2 ⟨c, hc, rfl⟩)
  simp [hv, eq_comm]

theorem repeatsAgree_of_nodup {r : Row} (h : r.names.Nodup) : r.RepeatsAgree := by
  rw [repeatsAgree_iff]
  intro c hc
  exact (get?_eq_some_iff h c.name c.value).2 hc

end Row

namespace Insert

theorem many_singleton_eq_ok_iff (table : String) (row : Row) (s : Statement) :
    many table [row] = .ok s ↔ row.columns ≠ [] ∧ s = statement table row.names [row.valuesUnder row.names] := by
  rw [many_eq_ok_iff]
  constructor
  · rintro ⟨first, rest, hrow, hne, -, rfl⟩
    cases hrow
    exact ⟨hne, rfl⟩
  · rintro ⟨hne, rfl⟩
    exact ⟨row, [], rfl, hne, by simp, rfl⟩

theorem sql_statement_congr (table : String) (names : List String) {values values' : List Value}
    (h : values.length = values'.length) :
    (statement table names [values]).sql = (statement table names [values']).sql := by
  rw [sql_statement, sql_statement, List.map_singleton, List.map_singleton, sql_tuple, sql_tuple, h]

/-- **One row is inserted alike by itself and as the only one of several.**  Both are refused when it has no column.
Otherwise both give a statement with the same text, and with the same values exactly if every column has the value of
the first column with its name, as it is when no name is repeated. -/
theorem one_agrees_with_many (table : String) (row : Row) :
    (row.columns = [] →
      one table row = .error (.noColumns table) ∧ many table [row] = .error (.firstRowEmpty table)) ∧
    (row.columns ≠ [] → ∃ s t, one table row = .ok s ∧ many table [row] = .ok t ∧ s.sql = t.sql ∧
      (s.values = t.values ↔ row.RepeatsAgree)) ∧
    (row.names.Nodup → ∀ s, one table row = .ok s ↔ many table [row] = .ok s) := by
  refine ⟨fun he => ?_, fun hne => ?_, fun hnd s => ?_⟩
  · have hempty : row.isEmpty = true := row.isEmpty_iff.2 he
    exact ⟨if_pos hempty, if_pos hempty⟩
  · refine ⟨_, _, (one_eq_ok_iff table row _).2 ⟨hne, rfl⟩, (many_singleton_eq_ok_iff table row _).2 ⟨hne, rfl⟩, ?_, ?_⟩
    · exact sql_statement_congr table row.names (row.length_values.trans (row.length_valuesUnder row.names).symm)
    · rw [values_statement, values_statement, List.flatten_singleton, List.flatten_singleton]
      exact row.values_eq_valuesUnder_iff
  · rw [one_eq_ok_iff, many_singleton_eq_ok_iff, row.values_eq_valuesUnder_iff.2 (Row.repeatsAgree_of_nodup hnd)]

/-- A repeated name with another value parts the two: by itself the row binds both values, and as the only one of
several the first value twice. -/
theorem one_agrees_with_many_of_repeats :
    let row : Row := ⟨[⟨"Id", .integer 7⟩, ⟨"Name", .text "A"⟩, ⟨"Id", .integer 8⟩]⟩
    let same : Row := ⟨[⟨"Id", .integer 7⟩, ⟨"Name", .text "A"⟩, ⟨"Id", .integer 7⟩]⟩
    let distinct : Row := ⟨[⟨"Id", .integer 7⟩, ⟨"Name", .text "A"⟩]⟩
    row.columns ≠ [] ∧ ¬ row.RepeatsAgree ∧
    (∃ s t, one "men" row = .ok s ∧ many "men" [row] = .ok t ∧ s.sql = t.sql ∧ s.values ≠ t.values) ∧
    same.columns ≠ [] ∧ same.RepeatsAgree ∧ ¬ same.names.Nodup ∧
    (∃ s t, one "men" same = .ok s ∧ many "men" [same] = .ok t ∧ s.sql = t.sql ∧ s.values = t.values) ∧
    distinct.names.Nodup ∧ many "men" [distinct] =
      .ok ⟨"INSERT INTO men (Id,Name) VALUES (?,?) RETURNING *;", [.integer 7, .text "A"]⟩ ∧
    one "men" .empty = .error (.noColumns "men") ∧ many "men" [.empty] = .error (.firstRowEmpty "men") := by
  intro row same distinct
  have hrow : row.columns ≠ [] := by decide
  have hparts : ¬ row.RepeatsAgree := by decide
  have hsame : same.columns ≠ [] := by decide
  have hagree : same.RepeatsAgree := by decide
  have hnd : distinct.names.Nodup := by decide
  obtain ⟨s, t, hs, ht, hsql, hvalues⟩ := (one_agrees_with_many "men" row).2.1 hrow
  obtain ⟨s', t', hs', ht', hsql', hvalues'⟩ := (one_agrees_with_many "men" same).2.1 hsame
  refine ⟨hrow, hparts, ⟨s, t, hs, ht, hsql, fun h => hparts (hvalues.1 h)⟩, hsame, hagree, by decide,
    ⟨s', t', hs', ht', hsql', hvalues'.2 hagree⟩, hnd, ?_, (one_agrees_with_many "men" .empty).1 rfl⟩
  exact ((one_agrees_with_many "men" distinct).2.2 hnd _).1 (by decide)

end Insert
end BoundSql
