import CrossCheck.Text.Basic
import CrossCheck.Text.Case

/-!
What a column of a database is as a field: the type it has in schemas, and whether it can be
aggregated.
-/

namespace CrossCheck
namespace Database

structure FieldType where
  name : String
  aggregatable : Bool
deriving DecidableEq

namespace FieldType

/-- Column types by how they begin; the first match counts. -/
def byStart : List (String × FieldType) :=
  [("TIMESTAMP", ⟨"datetime", true⟩), ("DATE", ⟨"date", true⟩), ("TIME", ⟨"time", true⟩),
   ("DECIMAL", ⟨"currency", true⟩), ("NUMERIC", ⟨"currency", true⟩), ("DOUBLE", ⟨"double", true⟩),
   ("FLOAT", ⟨"double", true⟩), ("REAL", ⟨"double", true⟩), ("HUGEINT", ⟨"long", true⟩),
   ("UHUGEINT", ⟨"long", true⟩), ("BIGINT", ⟨"long", true⟩), ("UBIGINT", ⟨"long", true⟩),
   ("INTEGER", ⟨"int", true⟩), ("UINTEGER", ⟨"int", true⟩), ("SMALLINT", ⟨"int", true⟩),
   ("USMALLINT", ⟨"int", true⟩), ("TINYINT", ⟨"int", true⟩), ("UTINYINT", ⟨"int", true⟩),
   ("BOOLEAN", ⟨"boolean", false⟩), ("VARCHAR", ⟨"string", true⟩), ("UUID", ⟨"string", true⟩),
   ("BLOB", ⟨"base64", false⟩)]

/-- Types of which nothing is known, lists among them. -/
def unknown : FieldType := ⟨"anyType", false⟩

def isList (type : List Char) : Bool := (Text.dropStart? [']', '['] type.reverse).isSome

/-- The column of identifiers is known by its name. -/
def ofColumn (column type : String) : FieldType :=
  let type := Text.upperChars type.toList
  if Text.lower column = "id" then ⟨"id", true⟩
  else if isList type then unknown
  else match byStart.find? fun entry => (Text.dropStart? entry.1.toList type).isSome with
    | some (_, t) => t
    | none => unknown

end FieldType
end Database
end CrossCheck
