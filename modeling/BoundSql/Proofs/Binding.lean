import BoundSql.Proofs.Acceptance
import BoundSql.Proofs.Filling
import BoundSql.Value.Literal
/-!
# Binding — every value stands at its own place

The inlined text of a command is written without markers, from its columns and clauses alone: each column, assignment
and clause writes its own value where it stands, and a later row of an insertion writes under each name of the first row
the value of its first column with that name.  The statement of a command, with its values in the place of its markers,
is that text (`filled_statement_eq_inlined`), as long as no other text of the command brings a marker
(`Command.MarksValues`).
-/
namespace BoundSql

open Fragment (marker verbatim Fills)

/-! ## Inlined texts -/

section Inlined

variable (write : Value → String)

def replaceMarkers (s t : String) : String :=
  String.ofList (s.toList.flatMap fun c => if c = marker then t.toList else [c])

/-- A clause with its value: a key around it, or a column that equals it. -/
def Clause.inlined (c : Clause) : String :=
  if marker ∈ c.key.toList then replaceMarkers c.key (write c.value) else c.key ++ " = " ++ write c.value

def Conjunction.inlined (c : Conjunction) : String := " AND ".intercalate (c.clauses.map (Clause.inlined write))

/-- Conjunctions without a clause are not written. -/
def Filter.inlined : Filter → String
  | all c => c.inlined write
  | any cs => " OR ".intercalate
      ((cs.filter fun c => !c.clauses.isEmpty).map fun c => "(" ++ c.inlined write ++ ")")

def Filter.inlinedClause (keyword : String) : Option Filter → String
  | none => ""
  | some f => if f.clauses = [] then "" else " " ++ keyword ++ " " ++ f.inlined write

def Row.inlinedAssignments (r : Row) : String :=
  ", ".intercalate (r.columns.map fun c => c.name ++ " = " ++ write c.value)

def Insert.inlinedTuple (values : List Value) : String := "(" ++ ",".intercalate (values.map write) ++ ")"

/-- The column at the first place where a name stands, if it stands in the row. -/
def Row.first? (r : Row) (name : String) : Option Column := r.columns[(r.columns.map Column.name).idxOf name]?

/-- A tuple of a row with the value of its first column with each of the names. -/
def Row.inlinedUnder (names : List String) (r : Row) : String :=
  "(" ++ ",".intercalate (names.map fun name => (r.first? name).elim "" fun c => write c.value) ++ ")"

def Insert.firstColumns : List Row → List Column
  | [] => []
  | first :: _ => first.columns

def Insert.opening (table : String) (columns : List Column) : String :=
  "INSERT INTO " ++ table ++ " (" ++ ",".intercalate (columns.map Column.name) ++ ") VALUES "

/-- What a projection returns, item by item; an expression that already has its name stands alone. -/
def Projection.items : Projection → List String
  | everything => ["*"]
  | raw e => [e]
  | list es => es
  | named es => es.map fun e => if e.expression = e.name then e.expression else e.expression ++ " AS " ++ e.name

/-- A command in SQL that binds nothing. -/
def Command.inlined : Command → String
  | insert table row => Insert.opening table row.columns
      ++ Insert.inlinedTuple write (row.columns.map Column.value) ++ " RETURNING *;"
  | insertMany table rows => Insert.opening table (Insert.firstColumns rows)
      ++ ",".intercalate (rows.map (Row.inlinedUnder write ((Insert.firstColumns rows).map Column.name)))
      ++ " RETURNING *;"
  | select table q => "SELECT " ++ ", ".intercalate q.projection.items ++ " FROM " ++ table
      ++ Filter.inlinedClause write "WHERE" q.filter
      ++ q.groupBy.elim "" (fun e => " GROUP BY " ++ e ++ Filter.inlinedClause write "HAVING" q.having) ++ ";"
  | update table changes filter => "UPDATE " ++ table ++ " SET " ++ changes.inlinedAssignments write
      ++ Filter.inlinedClause write "WHERE" filter ++ " RETURNING *;"
  | delete table filter => "DELETE FROM " ++ table ++ Filter.inlinedClause write "WHERE" filter ++ " RETURNING *;"

end Inlined

/-! ## Where markers may stand -/

def Projection.texts : Projection → List String
  | everything => []
  | raw e => [e]
  | list es => es
  | named es => es.flatMap fun e => [e.expression, e.name]

def Filter.MarksOnce (f : Filter) : Prop := ∀ c ∈ f.clauses, c.key.toList.count marker ≤ 1

instance (f : Filter) : Decidable f.MarksOnce :=
  inferInstanceAs (Decidable (∀ c ∈ f.clauses, c.key.toList.count marker ≤ 1))

/-- **Only values are marked**: the table, the column names, the projection and the grouping have no marker, and a key
has at most one. -/
def Command.MarksValues : Command → Prop
  | insert table row => Unmarked table ∧ ∀ c ∈ row.columns, Unmarked c.name
  | insertMany table rows => Unmarked table ∧ ∀ c ∈ Insert.firstColumns rows, Unmarked c.name
  | select table q => Unmarked table ∧ (∀ t ∈ q.projection.texts, Unmarked t) ∧ (∀ f ∈ q.filter, f.MarksOnce) ∧
      (∀ e ∈ q.groupBy, Unmarked e) ∧ ∀ f ∈ q.having, f.MarksOnce
  | update table changes filter => Unmarked table ∧ (∀ c ∈ changes.columns, Unmarked c.name) ∧
      ∀ f ∈ filter, f.MarksOnce
  | delete table filter => Unmarked table ∧ ∀ f ∈ filter, f.MarksOnce

instance : (c : Command) → Decidable c.MarksValues
  | .insert .. => inferInstanceAs (Decidable (_ ∧ _))
  | .insertMany .. => inferInstanceAs (Decidable (_ ∧ _))
  | .select .. => inferInstanceAs (Decidable (_ ∧ _ ∧ _ ∧ _ ∧ _))
  | .update .. => inferInstanceAs (Decidable (_ ∧ _ ∧ _))
  | .delete .. => inferInstanceAs (Decidable (_ ∧ _))

/-! ## Filling the parts of a statement -/

/-- The look-up of a name finds the first place where it stands. -/
theorem Row.get?_eq_first? (r : Row) (name : String) : r.get? name = (r.first? name).map Column.value := by
  rw [get?, first?, List.find?_eq_getElem?_findIdx, List.idxOf, List.findIdx_map]
  rfl

theorem Projection.sql_eq_items (p : Projection) : p.sql = ", ".intercalate p.items := by
  cases p with
  | everything | raw => exact (String.intercalate_singleton ..).symm
  | list | named => rfl

theorem unmarked_items {p : Projection} (h : ∀ t ∈ p.texts, Unmarked t) : ∀ t ∈ p.items, Unmarked t := by
  cases p with
  | everything =>
    intro t ht
    cases List.mem_singleton.1 ht
    decide
  | raw e | list es => exact h
  | named es =>
    intro t ht
    obtain ⟨e, he, rfl⟩ := List.mem_map.1 ht
    have hexpr : Unmarked e.expression := h _ (List.mem_flatMap.2 ⟨e, he, by simp⟩)
    have hname : Unmarked e.name := h _ (List.mem_flatMap.2 ⟨e, he, by simp⟩)
    split
    · exact hexpr
    · exact unmarked_append.2 ⟨unmarked_append.2 ⟨hexpr, by decide⟩, hname⟩

theorem flatMap_replace_of_not_mem (t : List Char) : ∀ (s : List Char), marker ∉ s →
    (s.flatMap fun c => if c = marker then t else [c]) = s
  | [], _ => rfl
  | c :: s, h => by
    have hc : c ≠ marker := fun he => h (he ▸ List.mem_cons_self)
    rw [List.flatMap_cons, if_neg hc, flatMap_replace_of_not_mem t s (fun hm => h (List.mem_cons_of_mem c hm))]
    rfl

theorem fillMarkers_once (t : String) : ∀ (s : List Char), s.count marker = 1 →
    Fragment.fillMarkers s [t] = some (s.flatMap fun c => if c = marker then t.toList else [c])
  | [], h => by cases h
  | c :: s, h => by
    by_cases hc : c = marker
    · subst hc
      have hs : marker ∉ s := by
        rw [List.count_cons_self] at h
        exact List.count_eq_zero.1 (by omega)
      rw [Fragment.fillMarkers_marker, Fragment.fillMarkers_of_not_mem s hs, List.flatMap_cons, if_pos rfl,
        flatMap_replace_of_not_mem _ s hs]
      rfl
    · rw [List.count_cons_of_ne hc] at h
      rw [Fragment.fillMarkers_of_ne hc, fillMarkers_once t s h, List.flatMap_cons, if_neg hc]
      rfl

section Fills

variable {write : Value → String}

theorem fills_comparison {column : String} (h : Unmarked column) (v : Value) :
    Fills write (verbatim (column ++ " = ") ++ .bound v) (column ++ " = " ++ write v) :=
  (Fills.verbatim (unmarked_append.2 ⟨h, by decide⟩)).append (.bound v)

theorem fills_clause {c : Clause} (h : c.key.toList.count marker ≤ 1) : Fills write c.fragment (c.inlined write) := by
  unfold Clause.fragment Clause.inlined
  by_cases hm : marker ∈ c.key.toList
  · rw [if_pos (c.isRaw_iff.2 hm), if_pos hm]
    have hone : c.key.toList.count marker = 1 := by
      have := List.count_pos_iff.2 hm
      omega
    unfold Fills Fragment.filled? replaceMarkers
    rw [List.map_cons, List.map_nil, fillMarkers_once _ _ hone]
    rfl
  · rw [if_neg (fun hr => hm (c.isRaw_iff.1 hr)), if_neg hm]
    exact fills_comparison hm c.value

theorem fills_conjunction {c : Conjunction} (h : ∀ d ∈ c.clauses, d.key.toList.count marker ≤ 1) :
    Fills write c.fragment (c.inlined write) :=
  Fills.join (by decide) c.clauses (fun d hd => fills_clause (h d hd))

theorem fills_filter {f : Filter} (h : f.MarksOnce) : Fills write f.fragment (f.inlined write) := by
  cases f with
  | all c => exact fills_conjunction h
  | any cs =>
    refine Fills.join (by decide) (Filter.inhabited cs) (fun c hc => (fills_conjunction fun d hd => ?_).parenthesized)
    exact h d (List.mem_flatMap.2 ⟨c, (Filter.mem_inhabited.1 hc).1, hd⟩)

theorem fills_filterClause {keyword : String} (hk : Unmarked keyword) : ∀ {filter : Option Filter},
    (∀ f ∈ filter, f.MarksOnce) → Fills write (Filter.clause keyword filter) (Filter.inlinedClause write keyword filter)
  | none, _ => .empty
  | some f, h => by
    rw [Filter.clause_some]
    by_cases he : f.clauses = []
    · rw [if_pos he, Filter.inlinedClause, if_pos he]
      exact .empty
    · rw [if_neg he, Filter.inlinedClause, if_neg he]
      refine (Fills.verbatim ?_).append (fills_filter (h f rfl))
      exact unmarked_append.2 ⟨unmarked_append.2 ⟨by decide, hk⟩, by decide⟩

theorem fills_returningRows : Fills write Statement.returningRows " RETURNING *;" :=
  (Fills.verbatim (by decide : Unmarked " RETURNING *")).append (.verbatim (by decide : Unmarked ";"))

theorem fills_tuple (values : List Value) :
    Fills write (Insert.tuple values) (Insert.inlinedTuple write values) :=
  (Fills.join (by decide) values (fun v _ => .bound v)).parenthesized

theorem fills_insert {table : String} {columns : List Column} (ht : Unmarked table)
    (hn : ∀ c ∈ columns, Unmarked c.name) (tuples : List (List Value)) :
    Fills write (Insert.statement table (columns.map Column.name) tuples)
      (Insert.opening table columns ++ ",".intercalate (tuples.map (Insert.inlinedTuple write))
        ++ " RETURNING *;") := by
  have hopening : Unmarked (Insert.opening table columns) := by
    have hnames : Unmarked (",".intercalate (columns.map Column.name)) :=
      unmarked_intercalate (by decide) _ (List.forall_mem_map.2 hn)
    simp only [Insert.opening, unmarked_append]
    exact ⟨⟨⟨⟨by decide, ht⟩, by decide⟩, hnames⟩, by decide⟩
  exact ((Fills.verbatim hopening).append (.join (by decide) tuples (fun vs _ => fills_tuple vs))).append
    fills_returningRows

theorem fills_assignments {r : Row} (h : ∀ c ∈ r.columns, Unmarked c.name) :
    Fills write r.assignments (r.inlinedAssignments write) :=
  Fills.join (by decide) r.columns (fun c hc => fills_comparison (h c hc) c.value)

end Fills

/-! ## Filling a statement -/

/-- A row that fits the names has a first column for each, so no place of its tuple is empty. -/
theorem Insert.inlinedUnder_eq {write : Value → String} {r : Row} {names : List String} (h : r.fits names = true) :
    inlinedTuple write (r.valuesUnder names) = r.inlinedUnder write names := by
  unfold inlinedTuple Row.inlinedUnder Row.valuesUnder
  rw [List.map_map]
  congr 3
  refine List.map_congr_left (fun name hn => ?_)
  obtain ⟨v, hv⟩ := Row.get?_of_fits h hn
  rw [Row.get?_eq_first?] at hv
  obtain ⟨c, hc, rfl⟩ := Option.map_eq_some_iff.1 hv
  simp [Row.get?_eq_first?, hc]

theorem fills_insertOne {write : Value → String} {table : String} {row : Row} {s : Statement}
    (h : (Command.insert table row).MarksValues) (hs : Insert.one table row = .ok s) :
    Fills write s ((Command.insert table row).inlined write) := by
  obtain ⟨-, rfl⟩ := (Insert.one_eq_ok_iff table row s).1 hs
  have hf : Fills write (Insert.statement table (row.columns.map Column.name) [row.columns.map Column.value]) _ :=
    fills_insert h.1 h.2 _
  rwa [List.map_singleton, String.intercalate_singleton] at hf

theorem fills_insertMany {write : Value → String} {table : String} {rows : List Row} {s : Statement}
    (h : (Command.insertMany table rows).MarksValues) (hs : Insert.many table rows = .ok s) :
    Fills write s ((Command.insertMany table rows).inlined write) := by
  obtain ⟨first, rest, rfl, -, hfits, rfl⟩ := (Insert.many_eq_ok_iff table rows s).1 hs
  have hall : ∀ r ∈ first :: rest, r.fits first.names = true :=
    List.forall_mem_cons.2 ⟨first.fits_names_self, hfits⟩
  have htexts : ((first :: rest).map (·.valuesUnder first.names)).map (Insert.inlinedTuple write) =
      (first :: rest).map (Row.inlinedUnder write (first.columns.map Column.name)) := by
    rw [List.map_map]
    exact List.map_congr_left (fun r hr => Insert.inlinedUnder_eq (hall r hr))
  have hf : Fills write (Insert.statement table (first.columns.map Column.name)
      ((first :: rest).map (·.valuesUnder first.names))) _ := fills_insert h.1 h.2 _
  rwa [htexts] at hf

theorem fills_select {write : Value → String} {table : String} {q : Select} (h : (Command.select table q).MarksValues) :
    Fills write (q.statement table) ((Command.select table q).inlined write) := by
  obtain ⟨ht, hp, hfilter, hgroup, hhaving⟩ := h
  have hhead : Unmarked ("SELECT " ++ ", ".intercalate q.projection.items ++ " FROM " ++ table) := by
    simp only [unmarked_append]
    exact ⟨⟨⟨by decide, unmarked_intercalate (by decide) _ (unmarked_items hp)⟩, by decide⟩, ht⟩
  have hgrouping : Fills write q.grouping
      (q.groupBy.elim "" fun e => " GROUP BY " ++ e ++ Filter.inlinedClause write "HAVING" q.having) := by
    unfold Select.grouping
    cases hg : q.groupBy with
    | none => exact .empty
    | some e =>
      have he : Unmarked (" GROUP BY " ++ e) := unmarked_append.2 ⟨by decide, hgroup e hg⟩
      exact (Fills.verbatim he).append (fills_filterClause (by decide) hhaving)
  rw [Select.statement, q.projection.sql_eq_items]
  exact (((Fills.verbatim hhead).append (fills_filterClause (by decide) hfilter)).append hgrouping).append
    (.verbatim (by decide))

theorem fills_update {write : Value → String} {table : String} {changes : Row} {filter : Option Filter} {s : Statement}
    (h : (Command.update table changes filter).MarksValues) (hs : Update.statement table changes filter = .ok s) :
    Fills write s ((Command.update table changes filter).inlined write) := by
  obtain ⟨ht, hn, hfilter⟩ := h
  obtain ⟨-, rfl⟩ := (Update.statement_eq_ok_iff table changes filter s).1 hs
  have hhead : Unmarked ("UPDATE " ++ table ++ " SET ") :=
    unmarked_append.2 ⟨unmarked_append.2 ⟨by decide, ht⟩, by decide⟩
  exact (((Fills.verbatim hhead).append (fills_assignments hn)).append (fills_filterClause (by decide) hfilter)).append
    fills_returningRows

theorem fills_delete {write : Value → String} {table : String} {filter : Option Filter}
    (h : (Command.delete table filter).MarksValues) :
    Fills write (Delete.statement table filter) ((Command.delete table filter).inlined write) := by
  have hhead : Unmarked ("DELETE FROM " ++ table) := unmarked_append.2 ⟨by decide, h.1⟩
  exact ((Fills.verbatim hhead).append (fills_filterClause (by decide) h.2)).append fills_returningRows

/-- **Every value stands at its own place.**  The statement of a command has as many markers as values, and is the
command with its values inlined once these are put in the place of the markers, from left to right. -/
theorem filled_statement_eq_inlined (write : Value → String) (c : Command) (s : Statement) (h : c.MarksValues)
    (hs : c.statement = .ok s) : s.markerCount = s.values.length ∧ s.filled? write = some (c.inlined write) := by
  have hfills : Fills write s (c.inlined write) := by
    cases c with
    | insert table row => exact fills_insertOne h hs
    | insertMany table rows => exact fills_insertMany h hs
    | select table q =>
      cases hs
      exact fills_select h
    | update table changes filter => exact fills_update h hs
    | delete table filter =>
      cases hs
      exact fills_delete h
  exact ⟨hfills.count_eq, hfills⟩

/-- A row inserted by itself binds both values under a repeated name, and one of several the first of them twice,
wherever its columns stand.  The marker in a value is not filled, a conjunction without a clause is not written, and the
values of the condition on groups come last. -/
theorem filled_statement_eq_inlined_of_repeated_names :
    let one := Command.insert "men" ⟨[⟨"Name", .text "A"⟩, ⟨"Age", .integer 31⟩, ⟨"Name", .text "who?"⟩]⟩
    let many := Command.insertMany "men" [⟨[⟨"Name", .text "A"⟩, ⟨"Age", .integer 31⟩, ⟨"Name", .text "B"⟩]⟩,
      ⟨[⟨"Age", .null⟩, ⟨"Name", .text "?"⟩, ⟨"Name", .text "C"⟩]⟩]
    let filter : Filter := .any [⟨[⟨"Age > ?", .integer 31⟩, ⟨"Id", .integer 7⟩]⟩, ⟨[]⟩]
    let query := Command.select "men" {
      projection := .named [⟨"Name", "Name"⟩, ⟨"count(*)", "n"⟩], filter := some filter, groupBy := some "Name"
      having := some (.all ⟨[⟨"count(*) > ?", .integer 2⟩]⟩) }
    let change := Command.update "men" ⟨[⟨"Name", .text "who?"⟩, ⟨"Age", .integer 5⟩]⟩ (some filter)
    let fills := fun (c : Command) (t : String) => c.MarksValues ∧ ∃ s, c.statement = .ok s ∧
      s.markerCount = s.values.length ∧ s.filled? Value.literal = some t
    fills one "INSERT INTO men (Name,Age,Name) VALUES ('A',31,'who?') RETURNING *;" ∧
    fills many "INSERT INTO men (Name,Age,Name) VALUES ('A',31,'A'),('?',NULL,'?') RETURNING *;" ∧
    fills query "SELECT Name, count(*) AS n FROM men WHERE (Age > 31 AND Id = 7) GROUP BY Name HAVING count(*) > 2;" ∧
    fills change "UPDATE men SET Name = 'who?', Age = 5 WHERE (Age > 31 AND Id = 7) RETURNING *;" := by
  intro one many filter query change fills
  have hfills : ∀ (c : Command) (t : String), c.MarksValues → c.statement.isOk = true →
      c.inlined Value.literal = t → fills c t := by
    rintro c t hc hok rfl
    cases hs : c.statement with
    | error fault =>
      rw [hs] at hok
      cases hok
    | ok s => exact ⟨hc, s, hs, filled_statement_eq_inlined Value.literal c s hc hs⟩
  refine ⟨hfills _ _ ?_ ?_ ?_, hfills _ _ ?_ ?_ ?_, hfills _ _ ?_ ?_ ?_, hfills _ _ ?_ ?_ ?_⟩
  all_goals decide

end BoundSql
