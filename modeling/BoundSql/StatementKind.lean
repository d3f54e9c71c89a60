/-!
# StatementKind — what kind of statement a text is

The kind is read off the leading keyword: after white space, the longest run of ASCII letters, in any case.  White space
is what has the Unicode property White_Space, twenty-five characters in ten ranges.
-/
namespace BoundSql

namespace Text

/-- The closed ranges of code points that are white space, in ascending order. -/
def blankRanges : List (Nat × Nat) :=
  [(0x09, 0x0D), (0x20, 0x20), (0x85, 0x85), (0xA0, 0xA0), (0x1680, 0x1680), (0x2000, 0x200A), (0x2028, 0x2029),
   (0x202F, 0x202F), (0x205F, 0x205F), (0x3000, 0x3000)]

def isBlank (c : Char) : Bool :=
  blankRanges.any fun r => r.1 ≤ c.toNat && c.toNat ≤ r.2

end Text

/-- The kinds that logs tell apart. -/
inductive StatementKind where
  | select
  | insert
  | update
  | delete
  | other
deriving DecidableEq

namespace StatementKind

def name : StatementKind → String
  | select => "Select"
  | insert => "Insert"
  | update => "Update"
  | delete => "Delete"
  | other => "Other"

/-- The leading keyword of a text, in lower case. -/
def keyword (sql : List Char) : List Char :=
  ((sql.dropWhile Text.isBlank).takeWhile Char.isAlpha).map Char.toLower

def ofKeyword (k : List Char) : StatementKind :=
  if k = "select".toList then select
  else if k = "insert".toList then insert
  else if k = "update".toList then update
  else if k = "delete".toList then delete
  else other

def ofSql (sql : String) : StatementKind := ofKeyword (keyword sql.toList)

end StatementKind
end BoundSql
