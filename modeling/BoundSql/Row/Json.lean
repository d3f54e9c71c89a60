import BoundSql.Json.Printer
import BoundSql.Row
/-!
# Row/Json — rows as JSON documents

A row is an object with one member a column, in column order and with repeated names.  Bytes are an array of numbers; a
real that is not finite has no JSON number and is null.
-/
namespace BoundSql

namespace Value

/-- A value as a document.  Of two equally near decimals a real is written as the even one. -/
def toJson : Value → Json
  | null => .null
  | integer i => .integer i.toInt
  | real x =>
    match x.unpack with
    | .finite negative m q narrow => .decimal negative (Decimal.shortest .toEven m q narrow)
    | _ => .null
  | text s => .string s
  | blob bytes => .array (bytes.map fun b => .integer b.toNat)

end Value

namespace Row

def toJson (r : Row) : Json := .object (r.columns.map fun c => (c.name, c.value.toJson))

def listToJson (rows : List Row) : Json := .array (rows.map toJson)

end Row
end BoundSql
