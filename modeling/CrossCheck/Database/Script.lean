import CrossCheck.Database
import CrossCheck.Text.Case

/-!
A database that answers from a script: its catalog is given, and the results of all other queries
are prepared in the order in which they will be asked for.
-/

namespace CrossCheck

structure Table where
  name : String
  /-- Names and types, in order. -/
  columns : List (String × String)

namespace Database

structure Script where
  tables : List Table
  results : List (Except String ResultSet)

namespace Script

def textParameter : List Value → String
  | .text s :: _ => s
  | _ => ""

/-- The first table of that name in ascending order, whatever its case. -/
def tableNames (script : Script) (name : String) : List String :=
  (((script.tables.map (·.name)).filter fun n => Text.lower n == Text.lower name).mergeSort
    fun a b => !(b < a)).take 1

def columnsOf (script : Script) (name : String) : List (String × String) :=
  (script.tables.filter (·.name == name)).flatMap (·.columns)

/-- A statement that takes the next of the prepared results for its answer. -/
def takesResult (sql : String) : Bool :=
  sql ≠ tablesQuery && sql ≠ columnsQuery && !sql.startsWith "CREATE"

/-- How many of the prepared results are taken. -/
def taken (told : List Request) : Nat :=
  told.countP fun
    | .execute sql _ => takesResult sql
    | _ => false

/-- Past the last prepared result every answer is empty. -/
def answer (script : Script) (told : List Request) (sql : String) (parameters : List Value) :
    Except String ResultSet :=
  if sql = tablesQuery then
    .ok ⟨["table_name"], (script.tableNames (textParameter parameters)).map fun n => [.text n]⟩
  else if sql = columnsQuery then
    .ok ⟨["column_name", "data_type"],
      (script.columnsOf (textParameter parameters)).map fun (n, t) => [.text n, .text t]⟩
  else if takesResult sql then (script.results[taken told]?).getD (.ok .empty)
  else .ok .empty

def database (script : Script) : Database := ⟨script.answer⟩

end Script
end Database
end CrossCheck
