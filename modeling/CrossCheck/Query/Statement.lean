import CrossCheck.Query.Lexeme

/-!
Queries as trees: selections of items from tables, combined and nested.  Parentheses are kept as
written, so a tree is printed without deciding where they belong, and so are comments, each with
the part that it stands with.
-/

namespace CrossCheck
namespace Query

inductive Constant
  | null
  | true
  | false
deriving DecidableEq

inductive Operator
  | or
  | and
  /-- One of two, but not both. -/
  | xor
  | equal
  | unequal
  /-- Equal, or both missing. -/
  | same
  | different
  | less
  | atMost
  | greater
  | atLeast
  | like
  /-- As `like`, whatever the case of letters. -/
  | alike
  | glob
  | similar
  | escape
  | is
  | within
  | overlaps
  | collate
  | add
  | subtract
  | multiply
  | divide
  | divideWhole
  | remainder
  | bitAnd
  | bitOr
  | bitXor
  | shiftLeft
  | shiftRight
  | assign
  /-- A part of a structured value, by its path. -/
  | json
  /-- Such a part as a text. -/
  | jsonText
  /-- What becomes of a variable. -/
  | maps
  /-- An argument by its name. -/
  | labels
  /-- A moment in a zone. -/
  | inZone
deriving DecidableEq

/-- `AND`, `OR` and `XOR`, whose chains may be broken over lines. -/
def Operator.joins : Operator → Bool
  | .or | .and | .xor => Bool.true
  | _ => Bool.false

/-- A name, and whether it was written between marks. -/
structure Name where
  chars : List Char
  enclosed : Bool
deriving DecidableEq

/-- A type, and the sizes that it is given. -/
structure SizedType where
  name : String
  sizes : List (List Char)
deriving DecidableEq

inductive Direction
  | ascending
  | descending
deriving DecidableEq

/-- Where missing values come in an order. -/
inductive NullPlace
  | first
  | last
deriving DecidableEq

/-- What is called: a function by the name it goes by, or one that nothing is known about. -/
inductive Callee
  | known (name : String)
  | other (n : Name)
deriving DecidableEq

/-- Groups of several sizes at once. -/
inductive Subtotals
  | cube
  | rollup
deriving DecidableEq

inductive SetOperator
  | union
  | except
  | intersect
deriving DecidableEq

mutual

inductive Expr
  | noted (e : Expr) (notes : List Note)
  | number (digits : List Char)
  | hexadecimal (digits : List Char)
  | bits (digits : List Char)
  | text (body : List Char)
  | national (body : List Char)
  /-- A text in a set of characters. -/
  | introduced (mark : List Char) (e : Expr)
  | constant (c : Constant)
  | everything
  /-- A word that is written as it stands. -/
  | bare (word : List Char)
  /-- A function that is called without parentheses. -/
  | moment (function : String)
  | name (n : Name)
  | field (n : Name)
  /-- What follows a point. -/
  | member (e part : Expr)
  | parameter (e : Expr)
  | sessionParameter (e : Expr)
  | placeholder (name : Option (List Char))
  | call (f : Callee) (arguments : List Expr)
  | distinct (values : List Expr)
  | cast (value : Expr) (type : SizedType)
  /-- A value that is taken for a day. -/
  | day (value : Expr)
  | paren (inner : Expr)
  | tuple (items : List Expr)
  | negative (inner : Expr)
  /-- All bits changed. -/
  | complement (inner : Expr)
  | not (inner : Expr)
  | binary (op : Operator) (left right : Expr)
  | between (value low high : Expr)
  | among (value : Expr) (items : List Expr)
  | amongRows (value : Expr) (q : Rows)
  | case (subject : Option Expr) (branches : List (Expr × Expr)) (otherwise : Option Expr)
  | interval (value : Expr) (unit : Option Expr)
  | extract (part value : Expr)
  /-- The texts of several rows in one. -/
  | gathered (value : Expr) (separator : Option Expr)
  | named (value aliasName : Expr)
  | namedAll (value : Expr) (names : List Expr)
  | ordered (value : Expr) (direction : Option Direction) (nulls : Option NullPlace)
  /-- Values in an order, of which there may be a largest number. -/
  | arranged (value : Expr) (order : List Expr) (limit : Option Expr)
  /-- What becomes of missing values. -/
  | nulls (value : Expr) (word : String)
  | filtered (value condition : Expr)
  | inGroup (value : Expr) (order : List Expr)
  | windowed (value : Expr) (window : Option Expr)
  | window (base : Option Expr) (partition order : List Expr) (frame : Option Expr)
  /-- The rows around one, from a bound to another. -/
  | frame (unit : String) (low high : Expr)
  | bound (value : Expr) (side : String)
  /-- A query that stands where a value does. -/
  | rows (q : Rows)
  | exists (q : Rows)
  /-- A word in front of a value or query, such as `ANY`. -/
  | leading (word : String) (e : Expr)
  /-- How well fields match the words of a text. -/
  | matched (fields : List Expr) (text : Expr) (mode : String)

/-- A query: what gives rows. -/
inductive Rows
  | selection (notes : List Note) (modifiers : List String) (distinct : Bool) (items : List Expr)
      (clauses : List Clause)
  | combined (op : SetOperator) (all : Bool) (notes : List Note) (left right : Rows)
      (clauses : List Clause)
  /-- A query in parentheses. -/
  | paren (inner : Rows) (clauses : List Clause)
  /-- A query that can use others by name. -/
  | using (recursive : Bool) (tables : List (Expr × List Expr × Rows)) (body : Rows)

inductive Clause
  | source (notes : List Note) (t : Source)
  | join (notes : List Note) (words : List String) (t : Source) (on : Option Expr)
      (columns : List Expr)
  | condition (notes : List Note) (e : Expr)
  | group (notes : List Note) (all : Bool) (keys : List Expr)
      (subtotals : List (Subtotals × List Expr))
  | having (notes : List Note) (e : Expr)
  /-- A condition on what windows give. -/
  | qualify (e : Expr)
  | order (notes : List Note) (keys : List Expr)
  | limit (notes : List Note) (e : Expr)
  | offset (notes : List Note) (e : Expr)
  | lock (words : String)

inductive Source
  | noted (t : Source) (notes : List Note)
  /-- A table by its name, whose parts follow one another after points. -/
  | table (path : List Expr)
  /-- Some of the parts that a table is divided into. -/
  | parts (t : Source) (names : List Expr)
  /-- A table and which of its indexes to use, or not to. -/
  | hinted (t : Source) (hints : List (String × List Expr))
  | query (q : Rows)
  | paren (t : Source)
  /-- Tables that belong together before another joins them. -/
  | joined (t : Source) (joins : List Clause)
  | named (t : Source) (aliasName : Option Expr) (columns : List Expr)

end

instance : Inhabited Expr := ⟨.everything⟩

/-- A statement that is read, or one that is handed on as it is. -/
inductive Statement
  | value (e : Expr)
  | command (word rest : List Char)

namespace Expr

/-- An expression with comments after those that it has. -/
def withNotes (e : Expr) (notes : List Note) : Expr :=
  if notes.isEmpty then e
  else match e with
    | .noted e earlier => .noted e (earlier ++ notes)
    | e => .noted e notes

/-- An expression without its comments, and these. -/
def withoutNotes : Expr → Expr × List Note
  | .noted e notes => (e, notes)
  | e => (e, [])

/-- Whether two values stand on both sides of an operator. -/
def isBinary (e : Expr) : Bool :=
  match e.withoutNotes.1 with
  | .binary .within _ _ | .binary .inZone _ _ => Bool.false
  | .binary _ _ _ => Bool.true
  | _ => Bool.false

/-- Whether a path begins with a field. -/
def isPath : Expr → Bool
  | .field _ => Bool.true
  | .member e _ => e.isPath
  | _ => Bool.false

/-- A name that stands where a value does is that of a field. -/
def asField : Expr → Expr
  | .name n => .field n
  | .noted (.name n) notes => .noted (.field n) notes
  | e => e

end Expr

namespace Clause

/-- Where a clause stands among the others.  No two stand in one place, joins aside. -/
def place : Clause → Nat
  | .source .. => 0
  | .join .. => 1
  | .condition .. => 2
  | .group .. => 3
  | .having .. => 4
  | .qualify _ => 5
  | .order .. => 6
  | .limit .. => 7
  | .offset .. => 8
  | .lock _ => 9

/-- Clauses that come at the end of rows that are combined with others. -/
def closes (c : Clause) : Bool := 6 ≤ c.place && c.place ≤ 8

end Clause

namespace Rows

def clauses : Rows → List Clause
  | .selection _ _ _ _ cs => cs
  | .combined _ _ _ _ _ cs => cs
  | .paren _ cs => cs
  | .using _ _ q => q.clauses

def withClauses (cs : List Clause) : Rows → Rows
  | .selection notes modifiers distinct items _ => .selection notes modifiers distinct items cs
  | .combined op all notes left right _ => .combined op all notes left right cs
  | .paren inner _ => .paren inner cs
  | .using recursive tables body => .using recursive tables (body.withClauses cs)

/-- Whether nothing encloses a query. -/
def isOpen : Rows → Bool
  | .paren .. => Bool.false
  | .using _ _ q => q.isOpen
  | _ => Bool.true

end Rows

end Query
end CrossCheck
