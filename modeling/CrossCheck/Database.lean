import CrossCheck.Value

/-!
A database, which is known by its answers only, and what is asked of its catalog.
-/

namespace CrossCheck

structure ResultSet where
  columns : List String
  rows : List (List Value)

namespace ResultSet

def empty : ResultSet := ⟨[], []⟩

/-- Without columns there are no records either. -/
def records (r : ResultSet) : List Record :=
  if r.columns.isEmpty then [] else r.rows.map (Record.ofColumns r.columns)

end ResultSet

/-- What a connection was told. -/
inductive Database.Request where
  | connect (path : String) (readOnly : Bool)
  | execute (sql : String) (parameters : List Value)
  | executeMany (sql : String) (rows : List (List Value))
  | close

structure Database where
  /-- The answer to a statement and its parameters, after what the connection was told before: a
  result, or why there is none. -/
  answer : List Database.Request → String → List Value → Except String ResultSet

namespace Database

def tablesQuery : String :=
  "SELECT table_name FROM information_schema.tables " ++
    "WHERE lower(table_name) = lower(?) ORDER BY table_name LIMIT 1"

def columnsQuery : String :=
  "SELECT column_name, data_type FROM information_schema.columns " ++
    "WHERE table_name = ? ORDER BY ordinal_position"

end Database
end CrossCheck
