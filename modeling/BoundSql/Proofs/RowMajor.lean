import BoundSql.Proofs.Acceptance
import Mathlib.Data.List.Forall2
/-!
# RowMajor — where the values of inserted rows stand

Rows are bound one after another, in blocks of one length, so a block is found by its index (`take_drop_flatten`).  A
row that fits distinct names has a column for each of them and no other (`Row.columns_arranged_perm`), so its block has
each of its values once, in the order of the names (`Insert.many_row_major`).
-/
namespace BoundSql

/-! ## Blocks -/

section Blocks

variable {α : Type}

theorem length_flatten_of_length {blocks : List (List α)} {k : Nat} (h : ∀ b ∈ blocks, b.length = k) :
    blocks.flatten.length = k * blocks.length := by
  induction blocks with
  | nil => rfl
  | cons b blocks ih =>
    have hb : b.length = k := h b List.mem_cons_self
    have hrest := ih fun c hc => h c (List.mem_cons_of_mem b hc)
    rw [List.flatten_cons, List.length_append, List.length_cons, hb, hrest, Nat.mul_succ, Nat.add_comm]

/-- The block with an index starts after as many whole blocks. -/
theorem take_drop_flatten {k : Nat} : ∀ {blocks : List (List α)}, (∀ b ∈ blocks, b.length = k) →
    ∀ {i : Nat} {b : List α}, blocks[i]? = some b → (blocks.flatten.drop (i * k)).take k = b
  | [], _, _, _, hi => by cases hi
  | b :: blocks, h, 0, _, hi => by
    cases hi
    rw [Nat.zero_mul, List.drop_zero, List.flatten_cons]
    exact List.take_left' (h b List.mem_cons_self)
  | b :: blocks, h, i + 1, c, hi => by
    have hb : b.length = k := h b List.mem_cons_self
    have hdrop : (b ++ blocks.flatten).drop ((i + 1) * k) = blocks.flatten.drop (i * k) := by
      rw [Nat.succ_mul, Nat.add_comm, ← List.drop_drop, List.drop_left' hb]
    rw [List.flatten_cons, hdrop]
    exact take_drop_flatten (fun c hc => h c (List.mem_cons_of_mem b hc)) hi

theorem getElem?_of_take_drop {values block : List α} {k i j : Nat} (h : (values.drop (i * k)).take k = block)
    (hj : j < k) : values[i * k + j]? = block[j]? := by
  rw [← h, List.getElem?_take_of_lt hj, List.getElem?_drop]

end Blocks

/-! ## Rows without repeated names -/

namespace Row

variable {r r' : Row} {names : List String}

theorem get?_eq_some_iff (hnd : r.names.Nodup) (name : String) (v : Value) :
    r.get? name = some v ↔ ⟨name, v⟩ ∈ r.columns := by
  unfold get?
  rw [Option.map_eq_some_iff]
  constructor
  · rintro ⟨c, hc, rfl⟩
    have hname : c.name = name := by simpa using List.find?_some hc
    subst hname
    exact List.mem_of_find?_eq_some hc
  · intro hmem
    obtain ⟨c, hc⟩ : ∃ c, r.columns.find? (·.name == name) = some c := by
      refine Option.isSome_iff_exists.1 (List.find?_isSome.2 ⟨_, hmem, ?_⟩)
      exact beq_self_eq_true name
    have hname : c.name = name := by simpa using List.find?_some hc
    -- the name tells the column
    have hcolumn : c = ⟨name, v⟩ := List.inj_on_of_nodup_map hnd (List.mem_of_find?_eq_some hc) hmem hname
    exact ⟨c, hc, by rw [hcolumn]⟩

theorem names_perm (hp : r'.columns.Perm r.columns) : r'.names.Perm r.names := hp.map Column.name

theorem get?_of_perm (hnd : r.names.Nodup) (hp : r'.columns.Perm r.columns) (name : String) :
    r'.get? name = r.get? name := by
  have hnd' : r'.names.Nodup := (names_perm hp).nodup_iff.2 hnd
  ext v
  rw [get?_eq_some_iff hnd', get?_eq_some_iff hnd]
  exact hp.mem_iff

theorem fits_of_perm (hp : r'.columns.Perm r.columns) (h : r.fits names = true) : r'.fits names = true := by
  obtain ⟨hlen, hsub⟩ := (r.fits_iff names).1 h
  have hn := names_perm hp
  exact (r'.fits_iff names).2 ⟨hn.length_eq.trans hlen, List.Subset.trans hsub hn.symm.subset⟩

theorem names_perm_of_fits (hnd : names.Nodup) (h : r.fits names = true) : r.names.Perm names :=
  perm_of_length_eq_of_subset hnd ((r.fits_iff names).1 h).1 ((r.fits_iff names).1 h).2

/-- The row with a column for each of the names, in their order. -/
def arranged (names : List String) (r : Row) : Row := ⟨names.map fun name => ⟨name, (r.get? name).getD .null⟩⟩

theorem names_arranged (names : List String) (r : Row) : (r.arranged names).names = names := by
  rw [Row.names, arranged, List.map_map]
  exact List.map_id' names

theorem values_arranged (names : List String) (r : Row) : (r.arranged names).values = r.valuesUnder names := by
  rw [values, arranged, List.map_map]
  rfl

theorem arranged_names_self (hnd : r.names.Nodup) : r.arranged r.names = r := by
  have hcolumn : ∀ c ∈ r.columns, (⟨c.name, (r.get? c.name).getD .null⟩ : Column) = id c := by
    intro c hc
    rw [(get?_eq_some_iff hnd c.name c.value).2 hc]
    rfl
  unfold arranged names
  rw [List.map_map]
  exact congrArg Row.mk ((List.map_congr_left hcolumn).trans (List.map_id r.columns))

/-- The names in their order and the columns in any order tell the row. -/
theorem eq_of_perm (hnd : r.names.Nodup) (hp : r'.columns.Perm r.columns) (hnames : r'.names = r.names) : r' = r := by
  have hnd' : r'.names.Nodup := (names_perm hp).nodup_iff.2 hnd
  have harranged : r'.arranged r.names = r.arranged r.names := by
    unfold arranged
    simp only [get?_of_perm hnd hp]
  rwa [arranged_names_self hnd, ← hnames, arranged_names_self hnd'] at harranged

/-- **A row that fits distinct names has no column beside those under them**, so arranging it loses none. -/
theorem columns_arranged_perm (hnd : names.Nodup) (h : r.fits names = true) :
    (r.arranged names).columns.Perm r.columns := by
  have hp := names_perm_of_fits hnd h
  have hself : (r.arranged r.names).columns = r.columns := by
    rw [arranged_names_self (hp.nodup_iff.2 hnd)]
  conv => rhs; rw [← hself]
  exact hp.symm.map _

theorem valuesUnder_perm (hnd : names.Nodup) (h : r.fits names = true) : (r.valuesUnder names).Perm r.values := by
  rw [← values_arranged]
  exact (columns_arranged_perm hnd h).map Column.value

theorem length_valuesUnder (names : List String) (r : Row) : (r.valuesUnder names).length = names.length :=
  List.length_map _

end Row

/-! ## Inserted rows -/

namespace Insert

/-- Later rows with their columns in another order fit as well, and hold the same values under the names. -/
theorem valuesUnder_of_reordered {names : List String} (hnd : names.Nodup) {rows rows' : List Row}
    (hp : List.Forall₂ (fun row row' => row'.columns.Perm row.columns) rows rows') :
    (∀ r ∈ rows, r.fits names = true) →
      (∀ r ∈ rows', r.fits names = true) ∧ rows'.map (·.valuesUnder names) = rows.map (·.valuesUnder names) := by
  induction hp with
  | nil => exact fun _ => ⟨fun _ h => (by cases h), rfl⟩
  | @cons row row' rows rows' hrow _ ih =>
    intro hfits
    obtain ⟨hfit, hrest⟩ := List.forall_mem_cons.1 hfits
    obtain ⟨hfits', hvalues⟩ := ih hrest
    have hnames : row.names.Nodup := (Row.names_perm_of_fits hnd hfit).nodup_iff.2 hnd
    have hsame : row'.valuesUnder names = row.valuesUnder names := by
      unfold Row.valuesUnder
      simp only [Row.get?_of_perm hnames hrow]
    refine ⟨List.forall_mem_cons.2 ⟨Row.fits_of_perm hrow hfit, hfits'⟩, ?_⟩
    rw [List.map_cons, List.map_cons, hsame, hvalues]

theorem sql_of_rows (table : String) (names : List String) (rows : List Row) :
    (statement table names (rows.map (·.valuesUnder names))).sql =
      "INSERT INTO " ++ table ++ " (" ++ ",".intercalate names ++ ") VALUES " ++ ",".intercalate
        (List.replicate rows.length ("(" ++ ",".intercalate (List.replicate names.length "?") ++ ")"))
        ++ " RETURNING *;" := by
  have htuples : (rows.map (·.valuesUnder names)).map (fun t => (tuple t).sql) =
      List.replicate rows.length ("(" ++ ",".intercalate (List.replicate names.length "?") ++ ")") := by
    simp only [List.map_map, Function.comp_def, sql_tuple, Row.length_valuesUnder]
    exact List.map_const'
  rw [sql_statement, htuples]

/-- **Every value of inserted rows is bound once, row by row, under its name.**  Under `k` distinct names the value at
`i * k + j` is the one that row `i` holds under name `j`, so each `k` values are those of a row in another order.  The
names stand in the text once, followed by a tuple of `k` markers for each row; and it does not matter in which order a
later row has its columns. -/
theorem many_row_major {table : String} {first : Row} {rest : List Row} {s : Statement}
    (hs : many table (first :: rest) = .ok s) (hnd : first.names.Nodup) :
    let rows := first :: rest
    let k := first.names.length
    s.sql = "INSERT INTO " ++ table ++ " (" ++ ",".intercalate first.names ++ ") VALUES " ++ ",".intercalate
      (List.replicate rows.length ("(" ++ ",".intercalate (List.replicate k "?") ++ ")")) ++ " RETURNING *;" ∧
    s.values.length = k * rows.length ∧
    (∀ i row, rows[i]? = some row →
      (∀ j name, first.names[j]? = some name → ∃ v, row.get? name = some v ∧ s.values[i * k + j]? = some v) ∧
      ((s.values.drop (i * k)).take k).Perm row.values) ∧
    ∀ rest', List.Forall₂ (fun row row' => row'.columns.Perm row.columns) rest rest' →
      many table (first :: rest') = .ok s := by
  intro rows k
  obtain ⟨_, _, hrows, hne, hfits, rfl⟩ := (many_eq_ok_iff table (first :: rest) s).1 hs
  cases hrows
  have hall : ∀ r ∈ rows, r.fits first.names = true := List.forall_mem_cons.2 ⟨first.fits_names_self, hfits⟩
  have hblocks : ∀ b ∈ rows.map (·.valuesUnder first.names), b.length = k := by
    intro b hb
    obtain ⟨r, -, rfl⟩ := List.mem_map.1 hb
    exact r.length_valuesUnder first.names
  refine ⟨sql_of_rows table first.names rows, ?_, fun i row hi => ?_, fun rest' hp => ?_⟩
  · rw [values_statement, length_flatten_of_length hblocks, List.length_map]
  · have hrow : row ∈ rows := List.mem_of_getElem? hi
    have hblock : ((statement table first.names (rows.map (·.valuesUnder first.names))).values.drop (i * k)).take k =
        row.valuesUnder first.names := by
      rw [values_statement]
      refine take_drop_flatten hblocks ?_
      rw [List.getElem?_map, hi]
      rfl
    refine ⟨fun j name hj => ?_, ?_⟩
    · obtain ⟨hlt, -⟩ := List.getElem?_eq_some_iff.1 hj
      obtain ⟨v, hv⟩ := Row.get?_of_fits (hall row hrow) (List.mem_of_getElem? hj)
      refine ⟨v, hv, ?_⟩
      rw [getElem?_of_take_drop hblock hlt, Row.valuesUnder, List.getElem?_map, hj, Option.map_some, hv]
      rfl
    · rw [hblock]
      exact Row.valuesUnder_perm hnd (hall row hrow)
  · obtain ⟨hfits', hvalues⟩ := valuesUnder_of_reordered hnd hp hfits
    refine (many_eq_ok_iff table (first :: rest') _).2 ⟨first, rest', rfl, hne, hfits', ?_⟩
    rw [List.map_cons, List.map_cons, hvalues]

/-- A null that is given is bound where its column stands, and the order of the columns of the second row does not
matter. -/
theorem many_row_major_of_two_rows :
    let first : Row := ⟨[⟨"Name", .text "A"⟩, ⟨"Age", .integer 31⟩, ⟨"Id", .null⟩]⟩
    let second : Row := ⟨[⟨"Id", .integer 2⟩, ⟨"Name", .text "B"⟩, ⟨"Age", .null⟩]⟩
    let second' : Row := ⟨[⟨"Age", .null⟩, ⟨"Id", .integer 2⟩, ⟨"Name", .text "B"⟩]⟩
    let s : Statement := ⟨"INSERT INTO men (Name,Age,Id) VALUES (?,?,?),(?,?,?) RETURNING *;",
      [.text "A", .integer 31, .null, .text "B", .null, .integer 2]⟩
    many "men" [first, second] = .ok s ∧ first.names.Nodup ∧
    (∃ v, second.get? "Id" = some v ∧ s.values[1 * 3 + 2]? = some v) ∧
    ((s.values.drop (1 * 3)).take 3).Perm second.values ∧ many "men" [first, second'] = .ok s := by
  intro first second second' s
  have hs : many "men" [first, second] = .ok s := by decide
  have hnd : first.names.Nodup := by decide
  have hp : second'.columns.Perm second.columns := by decide
  obtain ⟨-, -, hrows, hreordered⟩ := many_row_major hs hnd
  obtain ⟨hvalues, hblock⟩ := hrows 1 second rfl
  exact ⟨hs, hnd, hvalues 2 "Id" rfl, hblock, hreordered [second'] (.cons hp .nil)⟩

end Insert
end BoundSql
