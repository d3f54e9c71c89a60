import BoundSql.StatementKind
/-!
# Log — what is logged and how

Before a statement runs there is an event at the configured level, with its SQL cut to the configured length.  After a
failure there is a warning with the whole message, and a query whose `HAVING` is ignored gives a warning of its own.
-/
namespace BoundSql

/-- The longest initial part of a text whose encoding is at most `n` bytes long. -/
def Text.takeBytes : Nat → List Char → List Char
  | _, [] => []
  | n, c :: s => if c.utf8Size ≤ n then c :: takeBytes (n - c.utf8Size) s else []

inductive LogLevel where
  | error
  | warn
  | info
  | debug
  | trace
deriving DecidableEq

def LogLevel.name : LogLevel → String
  | error => "ERROR"
  | warn => "WARN"
  | info => "INFO"
  | debug => "DEBUG"
  | trace => "TRACE"

/-- How statements are logged: at which level, and with how many bytes of SQL at most. -/
structure LogConfig where
  level : LogLevel := .debug
  maxLength : Option Nat := some 200
deriving DecidableEq, Inhabited

namespace LogConfig

inductive Setting where
  | reset
  | level (l : LogLevel)
  | maxLength (bytes : Nat)
  | noTruncation

def set (c : LogConfig) : Setting → LogConfig
  | .reset => {}
  | .level l => { c with level := l }
  | .maxLength bytes => { c with maxLength := some bytes }
  | .noTruncation => { c with maxLength := none }

def ofSettings (settings : List Setting) : LogConfig := settings.foldl set {}

/-- SQL as it is logged: whole, or the longest initial part that fits and three dots. -/
def shorten (c : LogConfig) (sql : String) : String :=
  match c.maxLength with
  | none => sql
  | some bytes =>
    if sql.utf8ByteSize ≤ bytes then sql else String.ofList (Text.takeBytes bytes sql.toList) ++ "..."

end LogConfig

inductive LogEvent where
  | statement (level : LogLevel) (kind : StatementKind) (valueCount : Nat) (sql : String)
  | failure (kind : StatementKind) (error : String)
  /-- A query on the table has a `HAVING` and no `GROUP BY`. -/
  | havingIgnored (table : String)
deriving DecidableEq

namespace LogEvent

def level : LogEvent → LogLevel
  | statement l .. => l
  | failure .. => .warn
  | havingIgnored .. => .warn

def message? : LogEvent → Option String
  | statement .. => none
  | failure .. => some "statement failed"
  | havingIgnored .. => some "HAVING condition ignored: no GROUP BY given"

end LogEvent
end BoundSql
