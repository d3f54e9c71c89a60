import BoundSql.Error
import BoundSql.Row
/-!
# Database — what runs statements

A database prepares SQL, takes the values, and answers with every row or with the first.  It is given by its answers,
and each of them may be a failure with a reason.
-/
namespace BoundSql

/-- What a database reports about a statement that ran to its end. -/
structure Outcome where
  rows : List Row := []
  success : Bool := false
  error : Option String := none
deriving DecidableEq, BEq, Inhabited

namespace Outcome

def ofRows (rows : List Row) : Outcome := { rows, success := true }

def ofFailure (reason : String) : Outcome := { error := some reason }

/-- The rows of a success.  A failure keeps none of its rows. -/
def rowsOf (o : Outcome) (sql : String) : Except Error (List Row) :=
  if o.success then .ok o.rows else .error (.unsuccessful (o.error.getD "unknown error") sql)

end Outcome

structure Database where
  /-- Whether it takes the SQL. -/
  prepare : String → Except String Unit
  /-- What it says when asked for every row. -/
  all : String → List Value → Except String Outcome
  /-- What it says when asked for the first row. -/
  first : String → List Value → Except String (Option Row)

inductive Request where
  | prepare (sql : String)
  | bind (values : List Value)
  | all
  | first
deriving DecidableEq

namespace Database

/-- The database that reports the outcome about every statement. -/
def answering (o : Outcome) : Database where
  prepare _ := .ok ()
  all _ _ := .ok o
  first _ _ := .ok o.rows.head?

/-- The row of the values, each under the marker with its number. -/
def echoRow (values : List Value) : Row := .ofPairs ((values.zipIdx 1).map fun v => ("?" ++ v.2.repr, v.1))

/-- The database that gives the bound values back. -/
def echo : Database where
  prepare _ := .ok ()
  all _ values := .ok (.ofRows [echoRow values])
  first _ values := .ok (if values.isEmpty then none else some (echoRow values))

def failing (reason : String) : Database where
  prepare _ := .ok ()
  all _ _ := .error reason
  first _ _ := .error reason

def rejecting (reason : String) : Database where
  prepare _ := .error reason
  all _ _ := .error reason
  first _ _ := .error reason

end Database
end BoundSql
