import BoundSql.Error
import BoundSql.Log
import BoundSql.Select
/-!
# Command — what can be asked of a table

The five commands, each with the statement that carries it out.  One row is inserted with its own columns.  Several rows
are inserted in one statement under the columns of the first; every other row must have as many columns and each of
those names, and its values are looked up by name.  An update assigns the columns of a row to every row that passes the
filter, and a deletion removes these; without a filter, or with one that has no clause, that is every row of the table.
-/
namespace BoundSql

/-! ## Insertion -/

/-- Whether the row has as many columns as there are names, and a column for each name. -/
def Row.fits (r : Row) (names : List String) : Bool := r.size == names.length && names.all r.contains

namespace Insert

def tuple (values : List Value) : Fragment := (Fragment.join "," (values.map .bound)).parenthesized

def statement (table : String) (names : List String) (tuples : List (List Value)) : Statement :=
  .verbatim ("INSERT INTO " ++ table ++ " (" ++ ",".intercalate names ++ ") VALUES ")
    ++ .join "," (tuples.map tuple) ++ Statement.returningRows

def one (table : String) (row : Row) : Except ShapeFault Statement :=
  if row.isEmpty then .error (.noColumns table) else .ok (statement table row.names [row.values])

/-- The first row that does not fit the names, with its index; `rows` follow the first row. -/
def misfit? (names : List String) (rows : List Row) : Option (Row × Nat) :=
  (rows.zipIdx 1).find? fun r => !r.1.fits names

def many (table : String) : List Row → Except ShapeFault Statement
  | [] => .error (.noRows table)
  | first :: rest =>
    if first.isEmpty then .error (.firstRowEmpty table)
    else
      match misfit? first.names rest with
      | some (row, index) => .error (.columnsDiffer table index row.names first.names)
      | none => .ok (statement table first.names ((first :: rest).map (·.valuesUnder first.names)))

end Insert

/-! ## Update and deletion -/

def Row.assignments (r : Row) : Fragment :=
  .join ", " (r.columns.map fun c => .verbatim (c.name ++ " = ") ++ .bound c.value)

namespace Update

/-- Sets columns of the rows that pass the filter.  The assigned values are bound before those of the filter. -/
def statement (table : String) (changes : Row) (filter : Option Filter) : Except ShapeFault Statement :=
  if changes.isEmpty then .error (.noAssignments table)
  else .ok (.verbatim ("UPDATE " ++ table) ++ changes.assignments.clause "SET" ++ Filter.clause "WHERE" filter
    ++ Statement.returningRows)

end Update

def Delete.statement (table : String) (filter : Option Filter) : Statement :=
  .verbatim ("DELETE FROM " ++ table) ++ Filter.clause "WHERE" filter ++ Statement.returningRows

/-! ## The five commands -/

inductive Command where
  | insert (table : String) (row : Row)
  | insertMany (table : String) (rows : List Row)
  | select (table : String) (query : Select)
  | update (table : String) (changes : Row) (filter : Option Filter)
  | delete (table : String) (filter : Option Filter)

namespace Command

def statement : Command → Except ShapeFault Statement
  | insert table row => Insert.one table row
  | insertMany table rows => Insert.many table rows
  | select table query => .ok (query.statement table)
  | update table changes filter => Update.statement table changes filter
  | delete table filter => .ok (Delete.statement table filter)

def warnings : Command → List LogEvent
  | select table query => if query.ignoresHaving then [.havingIgnored table] else []
  | _ => []

end Command
end BoundSql
