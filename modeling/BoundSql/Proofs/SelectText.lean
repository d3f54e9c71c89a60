import BoundSql.Proofs.Accounting
import Mathlib.Data.List.DropRight
/-!
# SelectText — a query and the settings that put it together

Of the settings of a query only the last of each kind since the last reset count (`Select.ofSettings_eq_last`).  The
statement is written from these four: the projection and the table, the filter if it has a clause, the grouping, and
with a grouping the condition on groups if it has one (`Select.statement_of_settings`).
-/
namespace BoundSql

/-! ## The settings that count -/

namespace Select

namespace Setting

def isReset : Setting → Bool
  | reset => true
  | _ => false

def columns? : Setting → Option Projection
  | columns p => some p
  | _ => none

def filter? : Setting → Option Filter
  | filter f => some f
  | _ => none

def groupBy? : Setting → Option String
  | groupBy e => some e
  | _ => none

def having? : Setting → Option Filter
  | having f => some f
  | _ => none

end Setting

/-- The last setting of a kind since the last reset. -/
def last? {α : Type} (kind : Setting → Option α) (settings : List Setting) : Option α :=
  ((settings.rtakeWhile fun x => !x.isReset).filterMap kind).getLast?

theorem last?_concat {α : Type} (kind : Setting → Option α) (settings : List Setting) (x : Setting) :
    last? kind (settings ++ [x]) = if x.isReset then none else (kind x).or (last? kind settings) := by
  unfold last?
  rw [List.rtakeWhile_concat]
  by_cases hx : x.isReset = true
  · simp [hx]
  · cases hk : kind x <;> simp [hx, hk]

theorem ofSettings_concat (settings : List Setting) (x : Setting) :
    ofSettings (settings ++ [x]) = (ofSettings settings).set x := by
  unfold ofSettings
  rw [List.foldl_append]
  rfl

/-- **The last setting of each kind since the last reset counts**, and no other. -/
theorem ofSettings_eq_last (settings : List Setting) : ofSettings settings =
    { projection := (last? Setting.columns? settings).getD .everything
      filter := last? Setting.filter? settings
      groupBy := last? Setting.groupBy? settings
      having := last? Setting.having? settings } := by
  induction settings using List.reverseRecOn with
  | nil => rfl
  | append_singleton settings x ih =>
    rw [ofSettings_concat, ih]
    cases x <;> simp [set, last?_concat, Setting.isReset, Setting.columns?, Setting.filter?, Setting.groupBy?,
      Setting.having?]

end Select

/-! ## The text -/

/-- A keyword and a filter, written if there is a filter and it has a clause. -/
def Filter.clauseText (keyword : String) : Option Filter → String
  | none => ""
  | some f => if f.clauses = [] then "" else " " ++ keyword ++ " " ++ f.fragment.sql

theorem Filter.sql_clause (keyword : String) (filter : Option Filter) :
    (clause keyword filter).sql = clauseText keyword filter := by
  cases filter with
  | none => rfl
  | some f =>
    rw [clause_some, clauseText]
    split <;> rfl

namespace Projection

theorem sql_ofText (s : String) : (ofText s).sql = s := by
  unfold ofText
  split
  · rename_i h
    rw [h]
    rfl
  · rfl

/-- Expressions that already have their names are a list of expressions. -/
theorem sql_named_self (es : List String) : (named (es.map fun e => ⟨e, e⟩)).sql = (list es).sql := by
  have hitem : NamedExpression.sql ∘ (fun e => ⟨e, e⟩) = id := by
    funext e
    simp [NamedExpression.sql]
  show ", ".intercalate ((es.map fun e => ⟨e, e⟩).map NamedExpression.sql) = ", ".intercalate es
  rw [List.map_map, hitem, List.map_id]

end Projection

namespace Select

theorem sql_statement (table : String) (q : Select) : (q.statement table).sql =
    "SELECT " ++ q.projection.sql ++ " FROM " ++ table ++ Filter.clauseText "WHERE" q.filter
      ++ q.groupBy.elim "" (fun e => " GROUP BY " ++ e ++ Filter.clauseText "HAVING" q.having) ++ ";" := by
  have hgrouping : q.grouping.sql =
      q.groupBy.elim "" fun e => " GROUP BY " ++ e ++ Filter.clauseText "HAVING" q.having := by
    unfold grouping
    cases q.groupBy with
    | none => rfl
    | some e => simp [Filter.sql_clause]
  simp only [statement, Statement.terminator, Fragment.sql_append, Fragment.sql_verbatim, Filter.sql_clause, hgrouping]

theorem statement_congr (table : String) {settings settings' : List Setting}
    (hcolumns : last? Setting.columns? settings' = last? Setting.columns? settings)
    (hfilter : last? Setting.filter? settings' = last? Setting.filter? settings)
    (hgroup : last? Setting.groupBy? settings' = last? Setting.groupBy? settings)
    (hhaving : last? Setting.groupBy? settings = none ∨
      last? Setting.having? settings' = last? Setting.having? settings) :
    (ofSettings settings').statement table = (ofSettings settings).statement table := by
  rw [ofSettings_eq_last, ofSettings_eq_last, hcolumns, hfilter, hgroup]
  rcases hhaving with hnone | hsame
  · let q : Select := ⟨(last? Setting.columns? settings).getD .everything, last? Setting.filter? settings,
      last? Setting.groupBy? settings, last? Setting.having? settings⟩
    exact statement_of_ungrouped table (q := q) hnone (last? Setting.having? settings')
  · rw [hsame]

/-- **The statement of a query, however it was put together.**  Its text is written from the last setting of each kind
since the last reset, the condition on groups only with a grouping, and its values are those of the filters that are
written.  So settings that agree on these give the same statement, and without a grouping the condition on groups does
not matter.  A projection is a star, the text that was given, or its expressions with their names, joined by commas. -/
theorem statement_of_settings (table : String) (settings : List Setting) :
    let projection := (last? Setting.columns? settings).getD .everything
    let filter := last? Setting.filter? settings
    let groupBy := last? Setting.groupBy? settings
    let having := last? Setting.having? settings
    let s := (ofSettings settings).statement table
    s.sql = "SELECT " ++ projection.sql ++ " FROM " ++ table ++ Filter.clauseText "WHERE" filter
      ++ groupBy.elim "" (fun e => " GROUP BY " ++ e ++ Filter.clauseText "HAVING" having) ++ ";" ∧
    s.values = (Filter.clausesOf filter ++ Filter.clausesOf (groupBy.elim none fun _ => having)).map Clause.value ∧
    (∀ settings', last? Setting.columns? settings' = last? Setting.columns? settings →
      last? Setting.filter? settings' = filter → last? Setting.groupBy? settings' = groupBy →
      groupBy = none ∨ last? Setting.having? settings' = having → (ofSettings settings').statement table = s) ∧
    (groupBy = none → ∀ f, (ofSettings (settings ++ [.having f])).statement table = s) ∧
    Projection.everything.sql = "*" ∧ (∀ e, (Projection.raw e).sql = e) ∧ (∀ e, (Projection.ofText e).sql = e) ∧
    (∀ es, (Projection.list es).sql = ", ".intercalate es) ∧
    (∀ es, (Projection.named es).sql = ", ".intercalate (es.map fun e =>
      if e.expression = e.name then e.expression else e.expression ++ " AS " ++ e.name)) ∧
    ∀ es, (Projection.named (es.map fun e => ⟨e, e⟩)).sql = (Projection.list es).sql := by
  intro projection filter groupBy having s
  refine ⟨?_, ?_, fun settings' => statement_congr table, fun hnone f => ?_, rfl, fun _ => rfl, Projection.sql_ofText,
    fun _ => rfl, fun _ => rfl, Projection.sql_named_self⟩
  · show ((ofSettings settings).statement table).sql = _
    rw [sql_statement, ofSettings_eq_last]
  · show ((ofSettings settings).statement table).values = _
    rw [Command.values_select, ofSettings_eq_last]
    rfl
  · refine statement_congr table ?_ ?_ ?_ (.inl hnone) <;> rw [last?_concat] <;> rfl

/-- What is set before the reset is forgotten, and so is the first grouping after it.  An empty grouping is one, and an
empty conjunction is not written. -/
theorem statement_of_settings_with_reset :
    let early : Filter := .all ⟨[⟨"Id", .integer 1⟩]⟩
    let young : Filter := .any [.empty, ⟨[⟨"Age < ?", .integer 31⟩]⟩]
    let many : Filter := .all ⟨[⟨"count(*) > ?", .integer 2⟩]⟩
    let kept : List Setting := [.columns (.named [⟨"Name", "Name"⟩, ⟨"count(*)", "n"⟩]), .filter young]
    let settings : List Setting := [.columns (.ofText "Id"), .filter early, .reset, .groupBy "Name", .having many]
      ++ kept ++ [.groupBy ""]
    (ofSettings settings).statement "men" =
      ⟨"SELECT Name, count(*) AS n FROM men WHERE (Age < ?) GROUP BY  HAVING count(*) > ?;", [.integer 31, .integer 2]⟩ ∧
    (ofSettings (kept ++ [.having many, .groupBy ""])).statement "men" = (ofSettings settings).statement "men" ∧
    (ofSettings (kept ++ [.having early])).statement "men" = (ofSettings kept).statement "men" := by
  intro early young many kept settings
  obtain ⟨hsql, hvalues, hcongr, -⟩ := statement_of_settings "men" settings
  obtain ⟨-, -, -, hhaving, -⟩ := statement_of_settings "men" kept
  refine ⟨Fragment.ext (hsql.trans ?_) (hvalues.trans rfl), ?_, hhaving rfl early⟩
  · decide
  · exact hcongr _ rfl rfl rfl (.inr rfl)

end Select
end BoundSql
