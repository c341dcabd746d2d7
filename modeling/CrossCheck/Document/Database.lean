import CrossCheck.Database.Script
import CrossCheck.Document.Scalar

/-!
Scripts of databases as documents: the tables with their columns, and the results of queries in
the order in which they are asked for.  What a script leaves out is empty.
-/

namespace CrossCheck
namespace Document

def itemsOf (r : Record) (name : String) : List Value := ((r.get? name).bind list?).getD []

def textOf (v : Value) : String := (text? v).getD ""

/-- A name and a type. -/
def columnOf (v : Value) : String × String :=
  match v with
  | .list (name :: type :: _) => (textOf name, textOf type)
  | _ => ("", "")

def tableOf (v : Value) : Table :=
  let r := (record? v).getD []
  ⟨textOf ((r.get? "name").getD .null), (itemsOf r "columns").map columnOf⟩

/-- Columns and rows, or the message of a failure. -/
def resultOf (v : Value) : Except String ResultSet :=
  let r := (record? v).getD []
  match r.get? "error" with
  | some message => .error (textOf message)
  | none =>
    .ok ⟨(itemsOf r "columns").map textOf, (itemsOf r "rows").map fun row => (list? row).getD []⟩

def scriptOf (v : Value) : Database.Script :=
  let r := (record? v).getD []
  ⟨(itemsOf r "tables").map tableOf, (itemsOf r "results").map resultOf⟩

def databaseOf (v : Value) : Database := (scriptOf v).database

end Document
end CrossCheck
