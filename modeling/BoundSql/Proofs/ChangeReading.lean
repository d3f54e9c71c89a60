import BoundSql.Proofs.Occurrences
import BoundSql.Proofs.Reading
import BoundSql.Proofs.RowMajor
/-!
# ChangeReading — what a statement changes is read back from it

A statement that changes rows is read word by word, where a word ends at a space (`Change.ofStatement?`).  The table is
one word; inserted names stand in one word between parentheses, and assigned names in every third word; what follows
`WHERE` up to the last two words is the text of the filter, whatever it says.  The values are dealt out by the number of
the names.  So a statement tells what it changes (`Command.statement_tells_change`), as long as the table and the names
do not bring the spaces and commas themselves.
-/
namespace BoundSql

open Fragment (verbatim)

/-! ## What is changed -/

/-- What a statement does to a table. -/
inductive Change where
  | added (table : String) (rows : List Row)
  | assigned (table : String) (changes : Row) (filter : Option Fragment)
  | removed (table : String) (filter : Option Fragment)
deriving DecidableEq

/-- The fragment of a filter, if there is one and it has a clause. -/
def Filter.fragment? : Option Filter → Option Fragment
  | none => none
  | some f => if f.clauses = [] then none else some f.fragment

/-- **What a command changes.**  Several rows are added with their columns in the order of the first. -/
inductive Command.Changes : Command → Change → Prop
  | insert (table : String) (row : Row) : Changes (.insert table row) (.added table [row])
  | insertMany {table : String} {first : Row} {rest added : List Row}
      (h : List.Forall₂ (fun row a => a.columns.Perm row.columns ∧ a.names = first.names) (first :: rest) added) :
      Changes (.insertMany table (first :: rest)) (.added table added)
  | update (table : String) (changes : Row) (filter : Option Filter) :
      Changes (.update table changes filter) (.assigned table changes (Filter.fragment? filter))
  | delete (table : String) (filter : Option Filter) :
      Changes (.delete table filter) (.removed table (Filter.fragment? filter))

/-! ## The reader -/

namespace Change

def words (s : String) : List String := (Token.words s.toList).map String.ofList

def names (list : String) : List String := ((list.toList.drop 1).dropLast.splitOn ',').map String.ofList

/-- The rows of values that are bound one row after another. -/
def rows (names : List String) (values : List Value) : List Row :=
  (List.range (values.length / names.length)).map fun i =>
    .ofPairs (names.zip ((values.drop (i * names.length)).take names.length))

/-- The columns that the words assign at their beginning, and the words after them. -/
def assigned? : List String → Option (List String × List String)
  | name :: "=" :: "?," :: rest => (assigned? rest).map fun r => (name :: r.1, r.2)
  | name :: "=" :: "?" :: rest => some ([name], rest)
  | _ => none

/-- The filter in the words up to the last two, which close the statement. -/
def filter? (values : List Value) : List String → Option Fragment
  | "WHERE" :: rest => some ⟨" ".intercalate rest.dropLast.dropLast, values⟩
  | _ => none

def ofWords? (values : List Value) : List String → Option Change
  | "INSERT" :: "INTO" :: table :: columns :: _ => some (.added table (rows (names columns) values))
  | "UPDATE" :: table :: "SET" :: rest => (assigned? rest).map fun r =>
    .assigned table (.ofPairs (r.1.zip values)) (filter? (values.drop r.1.length) r.2)
  | "DELETE" :: "FROM" :: table :: rest => some (.removed table (filter? values rest))
  | _ => none

/-- The change that a statement says, read from its words and its values. -/
def ofStatement? (s : Statement) : Option Change := ofWords? s.values (words s.sql)

/-! ## Words -/

theorem words_append_blank (s t : String) : words (s ++ " " ++ t) = words s ++ words t := by
  have h : (s ++ " " ++ t).toList = s.toList ++ ' ' :: t.toList := by
    simp
  rw [words, h, Token.words_append_blank, List.map_append]
  rfl

theorem words_of_not_mem {s : String} (h : ' ' ∉ s.toList) : words s = [s] := by
  have hs : Token.words s.toList = [s.toList] := List.splitOn_eq_singleton h
  rw [words, hs, List.map_singleton, String.ofList_toList]

theorem intercalate_words (s : String) : " ".intercalate (words s) = s := by
  rw [← String.toList_inj, String.toList_intercalate, words, List.map_map]
  have h : String.toList ∘ String.ofList = id := funext fun l => String.toList_ofList
  rw [h, List.map_id]
  exact List.intercalate_splitOn ' '

theorem words_cons {w : String} (h : ' ' ∉ w.toList) (s : String) : words (w ++ " " ++ s) = w :: words s := by
  rw [words_append_blank, words_of_not_mem h]
  rfl

/-! ## Reading what was written -/

theorem names_list {l : List String} (hne : l ≠ []) (h : ∀ n ∈ l, ',' ∉ n.toList) :
    names ("(" ++ ",".intercalate l ++ ")") = l := by
  have hinner : (("(" ++ ",".intercalate l ++ ")").toList.drop 1).dropLast = [','].intercalate (l.map String.toList) := by
    have ht : ("(" ++ ",".intercalate l ++ ")").toList = '(' :: ([','].intercalate (l.map String.toList) ++ [')']) := by
      simp
    rw [ht, List.drop_one, List.tail_cons, List.dropLast_concat]
  have hsplit : ([','].intercalate (l.map String.toList)).splitOn ',' = l.map String.toList := by
    refine List.splitOn_intercalate ',' (fun n hn => ?_) (fun he => hne (List.map_eq_nil_iff.1 he))
    obtain ⟨m, hm, rfl⟩ := List.mem_map.1 hn
    exact h m hm
  have hof : String.ofList ∘ String.toList = id := funext fun s => String.ofList_toList
  rw [names, hinner, hsplit, List.map_map, hof, List.map_id]

theorem ofPairs_zip (r : Row) : Row.ofPairs (r.names.zip r.values) = r := by
  unfold Row.ofPairs Row.names Row.values
  rw [List.zip_map', List.map_map]
  exact congrArg Row.mk (List.map_id r.columns)

theorem zip_append_values (r : Row) (values : List Value) : r.names.zip (r.values ++ values) = r.names.zip r.values := by
  rw [← List.append_nil r.names, List.zip_append r.length_values.symm, List.append_nil, List.zip_nil_left,
    List.append_nil]

theorem rows_flatten {names : List String} (hne : names ≠ []) {rs : List Row} (h : ∀ r ∈ rs, r.names = names) :
    rows names (rs.map Row.values).flatten = rs := by
  have hblocks : ∀ b ∈ rs.map Row.values, b.length = names.length := by
    intro b hb
    obtain ⟨r, hr, rfl⟩ := List.mem_map.1 hb
    rw [r.length_values, h r hr]
  have hpos : 0 < names.length := List.length_pos_iff.2 hne
  have hcount : (rs.map Row.values).flatten.length / names.length = rs.length := by
    rw [length_flatten_of_length hblocks, List.length_map, Nat.mul_div_cancel_left _ hpos]
  refine List.ext_getElem? (fun i => ?_)
  rw [rows, hcount, List.getElem?_map]
  by_cases hi : i < rs.length
  · have hr : rs[i]? = some rs[i] := List.getElem?_eq_getElem hi
    have hblock := take_drop_flatten hblocks (i := i) (b := rs[i].values) (by rw [List.getElem?_map, hr]; rfl)
    rw [List.getElem?_range hi, Option.map_some, hblock, hr, ← h rs[i] (List.getElem_mem hi), ofPairs_zip]
  · rw [List.getElem?_eq_none (by simpa using hi), List.getElem?_eq_none (by simpa using hi)]
    rfl

/-- Assignments are read up to the first word that belongs to none. -/
theorem assigned?_append : ∀ {l : List String}, l ≠ [] → (∀ n ∈ l, ' ' ∉ n.toList) → ∀ rest : List String,
    assigned? (words (", ".intercalate (l.map (· ++ " = ?"))) ++ rest) = some (l, rest)
  | [], hne, _, _ => absurd rfl hne
  | [n], _, h, rest => by
    have hw : words (n ++ " = ?") = [n, "=", "?"] := by
      have ht : n ++ " = ?" = n ++ " " ++ ("=" ++ " " ++ "?") := by
        rw [String.append_assoc]
        rfl
      rw [ht, words_cons (h n (by simp)), words_cons (by decide), words_of_not_mem (by decide)]
    rw [List.map_singleton, String.intercalate_singleton, hw]
    rfl
  | n :: m :: l, _, h, rest => by
    have ih := assigned?_append (List.cons_ne_nil m l) (fun k hk => h k (List.mem_cons_of_mem n hk)) rest
    have ht : ∀ s : String, n ++ " = ?" ++ ", " ++ s = n ++ " " ++ ("=" ++ " " ++ ("?," ++ " " ++ s)) := by
      intro s
      simp only [String.append_assoc]
      rfl
    rw [List.map_cons] at ih
    rw [List.map_cons, List.map_cons, String.intercalate_cons_cons, ht, words_cons (h n (by simp)),
      words_cons (by decide), words_cons (by decide), List.cons_append, List.cons_append, List.cons_append, assigned?,
      ih]
    rfl

/-- What stands after the last of the names tells the filter. -/
theorem exists_closing (filter : Option Filter) : ∃ t : String,
    (Filter.clause "WHERE" filter).sql ++ " RETURNING *;" = " " ++ t ∧
      filter? (Filter.clause "WHERE" filter).values (words t) = Filter.fragment? filter := by
  have hend : words "RETURNING *;" = ["RETURNING", "*;"] := by rfl
  cases filter with
  | none => exact ⟨"RETURNING *;", rfl, by rw [hend]; rfl⟩
  | some f =>
    rw [Filter.clause_some, Filter.fragment?]
    by_cases he : f.clauses = []
    · rw [if_pos he, if_pos he]
      exact ⟨"RETURNING *;", rfl, by rw [hend]; rfl⟩
    · rw [if_neg he, if_neg he]
      refine ⟨"WHERE" ++ " " ++ (f.fragment.sql ++ " " ++ "RETURNING *;"), ?_, ?_⟩
      · simp only [Fragment.sql_append, Fragment.sql_verbatim, String.append_assoc]
        rfl
      · -- the last two words are not of the filter, whatever words the filter has
        have hdrop : (words f.fragment.sql ++ ["RETURNING", "*;"]).dropLast.dropLast = words f.fragment.sql := by
          rw [List.append_cons, List.dropLast_concat, List.dropLast_concat]
        rw [words_cons (by decide), words_append_blank, hend, filter?, hdrop, intercalate_words]
        rfl

theorem ofStatement?_delete {table : String} (ht : ' ' ∉ table.toList) (filter : Option Filter) :
    ofStatement? (Delete.statement table filter) = some (.removed table (Filter.fragment? filter)) := by
  obtain ⟨t, hsql, hfilter⟩ := exists_closing filter
  have hs : (Delete.statement table filter).sql = "DELETE" ++ " " ++ ("FROM" ++ " " ++ (table ++ " " ++ t)) := by
    have h : (Delete.statement table filter).sql =
        "DELETE FROM " ++ table ++ ((Filter.clause "WHERE" filter).sql ++ " RETURNING *;") := by
      rw [← String.append_assoc]
      rfl
    rw [h, hsql]
    simp only [String.append_assoc]
    rfl
  have hv : (Delete.statement table filter).values = (Filter.clause "WHERE" filter).values := by
    show [] ++ (Filter.clause "WHERE" filter).values ++ [] = _
    rw [List.nil_append, List.append_nil]
  rw [ofStatement?, hs, hv, words_cons (by decide), words_cons (by decide), words_cons ht, ofWords?, hfilter]

theorem ofStatement?_update {table : String} (ht : ' ' ∉ table.toList) {changes : Row}
    (hn : ∀ n ∈ changes.names, ' ' ∉ n.toList) (filter : Option Filter) {s : Statement}
    (hs : Update.statement table changes filter = .ok s) :
    ofStatement? s = some (.assigned table changes (Filter.fragment? filter)) := by
  obtain ⟨hne, rfl⟩ := (Update.statement_eq_ok_iff table changes filter s).1 hs
  obtain ⟨t, hsql, hfilter⟩ := exists_closing filter
  have hnames : changes.names ≠ [] := fun h => hne (changes.names_eq_nil_iff.1 h)
  generalize hstmt : verbatim ("UPDATE " ++ table ++ " SET ") ++ changes.assignments ++ Filter.clause "WHERE" filter
    ++ Statement.returningRows = s
  have hsqls : s.sql = "UPDATE" ++ " " ++ (table ++ " " ++ ("SET" ++ " " ++ (changes.assignments.sql ++ " " ++ t))) := by
    have h : s.sql = "UPDATE " ++ table ++ " SET " ++ changes.assignments.sql
        ++ ((Filter.clause "WHERE" filter).sql ++ " RETURNING *;") := by
      rw [← hstmt, ← String.append_assoc]
      rfl
    rw [h, hsql]
    simp only [String.append_assoc]
    rfl
  have hvalues : s.values = changes.values ++ (Filter.clause "WHERE" filter).values := by
    rw [← hstmt, ← changes.values_assignments]
    exact List.append_nil _
  rw [ofStatement?, hsqls, hvalues, words_cons (by decide), words_cons ht, words_cons (by decide), words_append_blank,
    changes.sql_assignments, ofWords?, assigned?_append hnames hn, Option.map_some, zip_append_values, ofPairs_zip,
    List.drop_left' changes.length_values, hfilter]

theorem ofStatement?_insert {table : String} (ht : ' ' ∉ table.toList) {names : List String} (hne : names ≠ [])
    (hn : ∀ n ∈ names, ' ' ∉ n.toList ∧ ',' ∉ n.toList) {rs : List Row} (hrs : ∀ r ∈ rs, r.names = names) :
    ofStatement? (Insert.statement table names (rs.map Row.values)) = some (.added table rs) := by
  have hlist : ' ' ∉ ("(" ++ ",".intercalate names ++ ")").toList := by
    have h := not_mem_intercalate (c := ' ') (s := ",") (by decide) names (fun n hm => (hn n hm).1)
    simpa using h
  generalize hv : ",".intercalate ((rs.map Row.values).map fun t => (Insert.tuple t).sql) = tuples
  have hsql : (Insert.statement table names (rs.map Row.values)).sql = "INSERT" ++ " " ++ ("INTO" ++ " " ++ (table ++ " "
      ++ ("(" ++ ",".intercalate names ++ ")" ++ " " ++ ("VALUES " ++ tuples ++ " RETURNING *;")))) := by
    rw [Insert.sql_statement, hv]
    simp only [String.append_assoc]
    rfl
  rw [ofStatement?, hsql, Insert.values_statement, words_cons (by decide), words_cons (by decide), words_cons ht,
    words_cons hlist, ofWords?, names_list hne (fun n hm => (hn n hm).2), rows_flatten hne hrs]

end Change

/-! ## Commands -/

namespace Command

/-- A name that can be told from what stands around it. -/
def IsPlainName (name : String) : Prop := ' ' ∉ name.toList ∧ ',' ∉ name.toList

instance (name : String) : Decidable (IsPlainName name) :=
  inferInstanceAs (Decidable (' ' ∉ name.toList ∧ ',' ∉ name.toList))

/-- **A command that changes rows under names that can be told apart**: the table has no space, the names of the columns
have no space and no comma, and several rows have distinct names. -/
def IsPlain : Command → Prop
  | insert table row => ' ' ∉ table.toList ∧ ∀ name ∈ row.names, IsPlainName name
  | insertMany table rows => ' ' ∉ table.toList ∧ (∀ name ∈ Insert.columnNames rows, IsPlainName name) ∧
      (Insert.columnNames rows).Nodup
  | select .. => False
  | update table changes _ => ' ' ∉ table.toList ∧ ∀ name ∈ changes.names, IsPlainName name
  | delete table _ => ' ' ∉ table.toList

theorem exists_changes {c : Command} {s : Statement} (hc : c.IsPlain) (hs : c.statement = .ok s) :
    ∃ w, c.Changes w ∧ Change.ofStatement? s = some w := by
  cases c with
  | insert table row =>
    obtain ⟨hne, rfl⟩ := (Insert.one_eq_ok_iff table row s).1 hs
    refine ⟨_, .insert table row, ?_⟩
    have hnames : row.names ≠ [] := fun h => hne (row.names_eq_nil_iff.1 h)
    have hrow : ∀ r ∈ [row], r.names = row.names := by simp
    have hread := Change.ofStatement?_insert hc.1 hnames hc.2 hrow
    rwa [List.map_singleton] at hread
  | insertMany table rows =>
    obtain ⟨first, rest, rfl, hne, hfits, rfl⟩ := (Insert.many_eq_ok_iff table rows s).1 hs
    obtain ⟨ht, hn, hnd⟩ := hc
    have hall : ∀ r ∈ first :: rest, r.fits first.names = true :=
      List.forall_mem_cons.2 ⟨first.fits_names_self, hfits⟩
    have hnames : first.names ≠ [] := fun h => hne (first.names_eq_nil_iff.1 h)
    refine ⟨.added table ((first :: rest).map (Row.arranged first.names)), .insertMany ?_, ?_⟩
    · refine List.forall₂_map_right_iff.2 (List.forall₂_same.2 (fun r hr => ?_))
      exact ⟨Row.columns_arranged_perm hnd (hall r hr), r.names_arranged first.names⟩
    · have hvalues : (first :: rest).map (·.valuesUnder first.names) =
          ((first :: rest).map (Row.arranged first.names)).map Row.values := by
        rw [List.map_map]
        exact List.map_congr_left (fun r _ => (r.values_arranged first.names).symm)
      rw [hvalues]
      refine Change.ofStatement?_insert ht hnames hn (fun r hr => ?_)
      obtain ⟨q, -, rfl⟩ := List.mem_map.1 hr
      exact q.names_arranged first.names
  | select table q => exact hc.elim
  | update table changes filter =>
    exact ⟨_, .update table changes filter, Change.ofStatement?_update hc.1 (fun n hn => (hc.2 n hn).1) filter hs⟩
  | delete table filter =>
    cases hs
    exact ⟨_, .delete table filter, Change.ofStatement?_delete hc filter⟩

/-- The rows of one change are those of another that has them in the same order under the same names. -/
theorem eq_of_forall₂_perm {names : List String} (hnd : names.Nodup) {rows added : List Row}
    (h : List.Forall₂ (fun row a => a.columns.Perm row.columns ∧ a.names = names) rows added) :
    ∀ {added' : List Row}, List.Forall₂ (fun row a => a.columns.Perm row.columns ∧ a.names = names) rows added' →
      added = added' := by
  induction h with
  | nil =>
    intro added' h'
    cases h'
    rfl
  | @cons row a rows added ha _ ih =>
    intro added' h'
    cases h' with
    | @cons _ a' _ _ ha' hrest' =>
      have hnd' : a'.names.Nodup := by rwa [ha'.2]
      have heq : a = a' := Row.eq_of_perm hnd' (ha.1.trans ha'.1.symm) (ha.2.trans ha'.2.symm)
      rw [heq, ih hrest']

theorem Changes.unique {c : Command} (hc : c.IsPlain) {w w' : Change} (h : c.Changes w) (h' : c.Changes w') :
    w = w' := by
  cases h with
  | insertMany hrows =>
    cases h' with
    | insertMany hrows' => rw [eq_of_forall₂_perm hc.2.2 hrows hrows']
  | _ =>
    cases h'
    rfl

/-- **A statement tells what it changes.**  The change that is read from the statement of a plain command is the one
that the command makes: the table, the columns with their values, row by row, and the fragment of the filter with its
own values, or that there is none.  So commands with the same statement make the same change. -/
theorem statement_tells_change {c : Command} {s : Statement} (hc : c.IsPlain) (hs : c.statement = .ok s) :
    (∃ w, c.Changes w) ∧ (∀ w, c.Changes w ↔ Change.ofStatement? s = some w) ∧
    ∀ d : Command, d.IsPlain → d.statement = .ok s → ∀ w, d.Changes w ↔ c.Changes w := by
  have hread : ∀ {d : Command}, d.IsPlain → d.statement = .ok s →
      ∀ w, d.Changes w ↔ Change.ofStatement? s = some w := by
    intro d hd hds w
    obtain ⟨w', hw', hof⟩ := exists_changes hd hds
    rw [hof, Option.some.injEq]
    constructor
    · exact fun hw => hw'.unique hd hw
    · rintro rfl
      exact hw'
  obtain ⟨w, hw, -⟩ := exists_changes hc hs
  refine ⟨⟨w, hw⟩, hread hc hs, fun d hd hds w => ?_⟩
  rw [hread hd hds, hread hc hs]

/-- The filter says itself how a statement goes on and ends, and the names hold signs of the statement. -/
theorem statement_tells_change_of_misleading_filter :
    let f : Filter := .any [⟨[⟨"a = ? RETURNING *;", .integer 1⟩]⟩, ⟨[]⟩, ⟨[⟨" WHERE b", .null⟩]⟩]
    let c := update "men" ⟨[⟨"=", .text "X"⟩, ⟨"?", .null⟩, ⟨"", .integer 31⟩]⟩ (some f)
    let s : Statement := ⟨"UPDATE men SET = = ?, ? = ?,  = ? WHERE (a = ? RETURNING *;) OR ( WHERE b = ?) RETURNING *;",
      [.text "X", .null, .integer 31, .integer 1, .null]⟩
    c.IsPlain ∧ c.statement = .ok s ∧ Change.ofStatement? s =
      some (.assigned "men" ⟨[⟨"=", .text "X"⟩, ⟨"?", .null⟩, ⟨"", .integer 31⟩]⟩
        (some ⟨"(a = ? RETURNING *;) OR ( WHERE b = ?)", [.integer 1, .null]⟩)) := by
  intro f c s
  have hc : c.IsPlain := by
    refine ⟨by decide, ?_⟩
    decide
  have hs : c.statement = .ok s := by decide
  have hf : Filter.fragment? (some f) =
      some ⟨"(a = ? RETURNING *;) OR ( WHERE b = ?)", [.integer 1, .null]⟩ := by decide
  refine ⟨hc, hs, ((statement_tells_change hc hs).2.1 _).1 ?_⟩
  rw [← hf]
  exact .update "men" _ (some f)

end Command
end BoundSql
