import CrossCheck.Text.Basic

/-!
Formats of moments.  A mark in a format stands for a part of a moment; the marks that a query is
written with differ from those that a database reads.
-/

namespace CrossCheck
namespace Query
namespace MomentFormat

/-- Marks of queries and marks of databases, where they differ. -/
def marks : List (List Char × List Char) :=
  [("%M", "%B"), ("%c", "%-m"), ("%e", "%-d"), ("%h", "%I"), ("%i", "%M"), ("%s", "%S"),
   ("%u", "%W"), ("%k", "%-H"), ("%l", "%-I"), ("%T", "%H:%M:%S"), ("%W", "%A")].map
    fun (a, b) => (a.toList, b.toList)

/-- Replaces each mark that a text holds, from its first character on. -/
def replace (table : List (List Char × List Char)) : Nat → List Char → List Char
  | 0, cs => cs
  | _ + 1, [] => []
  | fuel + 1, c :: cs =>
    let found := table.findSome? fun (mark, other) =>
      (Text.dropStart? mark (c :: cs)).map fun rest => (other, rest)
    match found with
    | some (other, rest) => other ++ replace table fuel rest
    | none => c :: replace table fuel cs

/-- A format as a database reads it. -/
def ofQuery (cs : List Char) : List Char := replace marks cs.length cs

/-- A format as a query is written with it. -/
def toQuery (cs : List Char) : List Char := replace (marks.map Prod.swap) cs.length cs

/-- Whether a format of queries asks for a time of day. -/
def asksTime : List Char → Bool
  | '%' :: c :: cs => ['f', 'H', 'h', 'I', 'i', 'k', 'l', 'p', 'r', 'S', 's', 'T'].contains c ||
    asksTime cs
  | _ :: cs => asksTime cs
  | [] => false

end MomentFormat
end Query
end CrossCheck
