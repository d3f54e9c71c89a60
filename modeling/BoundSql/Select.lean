import BoundSql.Filter
/-!
# Select — queries

A query has a projection and optionally a filter, a grouping and a condition on groups.  A projection is every column,
one expression, or a list of expressions with or without other names; expressions are SQL and stand as they are.  A
query is put together by settings, of which the last of a kind counts.  The condition on groups is written only together
with a grouping.
-/
namespace BoundSql

/-- An expression and the name of its column in the answer. -/
structure NamedExpression where
  expression : String
  name : String
deriving DecidableEq

/-- An expression that already has its name needs no `AS`. -/
def NamedExpression.sql (e : NamedExpression) : String :=
  if e.expression = e.name then e.expression else e.expression ++ " AS " ++ e.name

inductive Projection where
  | everything
  | raw (expression : String)
  | list (expressions : List String)
  | named (expressions : List NamedExpression)
deriving DecidableEq, Inhabited

namespace Projection

/-- The projection that a text stands for: a star is every column. -/
def ofText (s : String) : Projection := if s = "*" then everything else raw s

def sql : Projection → String
  | everything => "*"
  | raw e => e
  | list es => ", ".intercalate es
  | named es => ", ".intercalate (es.map NamedExpression.sql)

end Projection

structure Select where
  projection : Projection := .everything
  filter : Option Filter := none
  groupBy : Option String := none
  having : Option Filter := none
deriving DecidableEq, BEq, Inhabited

namespace Select

inductive Setting where
  | reset
  | columns (p : Projection)
  | filter (f : Filter)
  | groupBy (expression : String)
  | having (f : Filter)

def set (q : Select) : Setting → Select
  | .reset => {}
  | .columns p => { q with projection := p }
  | .filter f => { q with filter := some f }
  | .groupBy e => { q with groupBy := some e }
  | .having f => { q with having := some f }

def ofSettings (settings : List Setting) : Select := settings.foldl set {}

def grouping (q : Select) : Fragment :=
  match q.groupBy with
  | none => .empty
  | some e => .verbatim (" GROUP BY " ++ e) ++ Filter.clause "HAVING" q.having

def statement (table : String) (q : Select) : Statement :=
  .verbatim ("SELECT " ++ q.projection.sql ++ " FROM " ++ table) ++ Filter.clause "WHERE" q.filter ++ q.grouping
    ++ Statement.terminator

/-- Without a grouping it does not matter what the condition on groups is. -/
theorem statement_of_ungrouped (table : String) {q : Select} (h : q.groupBy = none) (having : Option Filter) :
    Select.statement table { q with having } = q.statement table := by
  simp only [statement, grouping, h]

def ignoresHaving (q : Select) : Bool := q.having.isSome && q.groupBy.isNone

end Select
end BoundSql
