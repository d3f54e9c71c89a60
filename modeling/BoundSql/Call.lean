import BoundSql.Command
import BoundSql.Execution
/-!
# Call — one call from its input to its report

A call is a command on a table, or a statement given as it is.  Inserting one row asks for the first row, as does a
statement run for it; all others ask for every row.
-/
namespace BoundSql

inductive Call where
  | command (c : Command)
  | all (s : Statement)
  | first (s : Statement)

/-- What a call that succeeds gives. -/
inductive Answer where
  | rows (rows : List Row)
  | row (row : Option Row)
deriving DecidableEq

namespace Call

def statement : Call → Except ShapeFault Statement
  | command c => c.statement
  | all s => .ok s
  | first s => .ok s

def warnings : Call → List LogEvent
  | command c => c.warnings
  | _ => []

def asksFirst : Call → Bool
  | command (.insert ..) => true
  | first _ => true
  | _ => false

def run (config : LogConfig) (db : Database) (call : Call) : Report Answer :=
  let warnings := call.warnings.map Action.log
  match call.statement with
  | .error fault => ⟨.error (.shape fault), warnings⟩
  | .ok s =>
    let report := if call.asksFirst then Answer.row <$> db.runFirst s else Answer.rows <$> db.runAll s
    let report := report.logged config s
    ⟨report.result, warnings ++ report.actions⟩

end Call
end BoundSql
