import BoundSql.Database
import BoundSql.Fragment
import BoundSql.Log
/-!
# Execution — running one statement

A statement is prepared, its values are bound, and the rows are asked for; a failure is the end.  A `Report` holds the
result and, in one list, all that was logged and asked on the way: each request is recorded where it is made, with the
answer to it, and `Report` is a monad that puts these records one after another.
-/
namespace BoundSql

inductive Action where
  | log (e : LogEvent)
  | request (r : Request)
deriving DecidableEq

def Action.event? : Action → Option LogEvent
  | log e => some e
  | request _ => none

def Action.request? : Action → Option Request
  | log _ => none
  | request r => some r

/-- A result and the actions that led to it, in order. -/
structure Report (α : Type) where
  result : Except Error α
  actions : List Action

namespace Report

variable {α β : Type}

def events (r : Report α) : List LogEvent := r.actions.filterMap Action.event?

def requests (r : Report α) : List Request := r.actions.filterMap Action.request?

def ofResult (result : Except Error α) : Report α := ⟨result, []⟩

/-- Goes on after a success.  A failure is the end, and what was done before it is kept. -/
protected def bind (r : Report α) (next : α → Report β) : Report β :=
  match r.result with
  | .error e => ⟨.error e, r.actions⟩
  | .ok a => ⟨(next a).result, r.actions ++ (next a).actions⟩

instance : Monad Report where
  pure a := ofResult (.ok a)
  bind := Report.bind

/-- One request about SQL, with the answer to it.  A failure carries the SQL. -/
def asking (q : Request) (sql : String) (answer : Except String α) : Report α :=
  ⟨answer.mapError (.database · sql), [.request q]⟩

/-- The report with the event of its statement in front, and the one of its failure behind. -/
def logged (config : LogConfig) (s : Statement) (r : Report α) : Report α :=
  let kind := StatementKind.ofSql s.sql
  let before := LogEvent.statement config.level kind s.values.length (config.shorten s.sql)
  let after := match r.result with
    | .ok _ => []
    | .error e => [.log (.failure kind e.message)]
  ⟨r.result, .log before :: (r.actions ++ after)⟩

theorem error_bind (e : Error) (actions : List Action) (next : α → Report β) :
    (⟨.error e, actions⟩ : Report α) >>= next = ⟨.error e, actions⟩ := rfl

theorem ok_bind (a : α) (actions : List Action) (next : α → Report β) :
    (⟨.ok a, actions⟩ : Report α) >>= next = ⟨(next a).result, actions ++ (next a).actions⟩ := rfl

end Report

namespace Database

/-- Has the SQL prepared, and gives it back as it was. -/
def preparing (db : Database) (sql : String) : Report String :=
  .asking (.prepare sql) sql ((db.prepare sql).map fun _ => sql)

def binding (sql : String) (values : List Value) : Report Statement := .asking (.bind values) sql (.ok ⟨sql, values⟩)

def bound (db : Database) (s : Statement) : Report Statement := do
  let sql ← db.preparing s.sql
  binding sql s.values

def askingAll (db : Database) (s : Statement) : Report Outcome := .asking .all s.sql (db.all s.sql s.values)

def askingFirst (db : Database) (s : Statement) : Report (Option Row) := .asking .first s.sql (db.first s.sql s.values)

def runAll (db : Database) (s : Statement) : Report (List Row) := do
  let bound ← db.bound s
  let outcome ← db.askingAll bound
  .ofResult (outcome.rowsOf s.sql)

def runFirst (db : Database) (s : Statement) : Report (Option Row) := do
  let bound ← db.bound s
  db.askingFirst bound

end Database
end BoundSql
