/-!
# Error — why a call fails

Input is refused before there is any SQL, with the cause as a `ShapeFault`; or the database reports that a statement did
not succeed; or the database itself fails.  The last two carry the whole SQL, and their message ends with it.
-/
namespace BoundSql

inductive ShapeFault where
  | noColumns (table : String)
  | noRows (table : String)
  | firstRowEmpty (table : String)
  | columnsDiffer (table : String) (index : Nat) (names expected : List String)
  | noAssignments (table : String)
  | other (description : String)
deriving DecidableEq

def ShapeFault.description : ShapeFault → String
  | noColumns table => "insert into " ++ table ++ " requires at least one column"
  | noRows table => "insert_many into " ++ table ++ " requires at least one row"
  | firstRowEmpty table => "insert_many into " ++ table ++ ": first row has no columns"
  | columnsDiffer table index names expected =>
    "insert_many into " ++ table ++ ": row " ++ index.repr ++ " columns (" ++ ",".intercalate names
      ++ ") differ from row 0 (" ++ ",".intercalate expected ++ ")"
  | noAssignments table => "update of " ++ table ++ " requires at least one assignment"
  | other description => description

inductive Error where
  /-- The input is refused. -/
  | shape (fault : ShapeFault)
  /-- The database ran the statement and reports that it did not succeed. -/
  | unsuccessful (reason sql : String)
  /-- The database failed to prepare or to run the statement. -/
  | database (reason sql : String)
deriving DecidableEq

namespace Error

def message : Error → String
  | shape fault => "Shape error: " ++ fault.description
  | unsuccessful reason sql => reason ++ "; query: " ++ sql
  | database reason sql => reason ++ "; query: " ++ sql

def sql? : Error → Option String
  | shape _ => none
  | unsuccessful _ sql => some sql
  | database _ sql => some sql

/-- What the database itself said. -/
def source? : Error → Option String
  | database reason _ => some reason
  | _ => none

def isShape : Error → Bool
  | shape _ => true
  | _ => false

def isUnsuccessful : Error → Bool
  | unsuccessful .. => true
  | _ => false

def isDatabase : Error → Bool
  | database .. => true
  | _ => false

end Error
end BoundSql
