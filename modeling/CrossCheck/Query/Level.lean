import CrossCheck.Query.Keyword
import CrossCheck.Query.Lexeme
import CrossCheck.Query.Statement

/-!
How closely operators bind.  The levels come in order, the last one binds closest, and operators of
one level group from the left.
-/

namespace CrossCheck
namespace Query

inductive Level
  | assignment
  | disjunction
  | conjunction
  | equality
  | comparison
  | range
  | bits
  | sum
  | product
  | unary
deriving DecidableEq

namespace Level

/-- The level of the operands. -/
def inner : Level → Level
  | .assignment => .disjunction
  | .disjunction => .conjunction
  | .conjunction => .equality
  | .equality => .comparison
  | .comparison => .range
  | .range => .bits
  | .bits => .sum
  | .sum => .product
  | .product => .unary
  | .unary => .unary

/-- The operators of a level by their marks. -/
def marks : Level → List (String × Operator)
  | .disjunction => [("||", .or)]
  | .conjunction => [("&&", .and)]
  | .equality => [("=", .equal), ("<>", .unequal), ("<=>", .same)]
  | .comparison => [("<", .less), ("<=", .atMost), (">", .greater), (">=", .atLeast)]
  | .bits => [("&", .bitAnd), ("|", .bitOr), ("^", .bitXor)]
  | .sum => [("+", .add), ("-", .subtract), ("%", .remainder)]
  | .product => [("*", .multiply), ("/", .divide)]
  | _ => []

/-- The operators of a level by their words. -/
def words : Level → List (String × Operator)
  | .disjunction => [("OR", .or)]
  | .conjunction => [("AND", .and), ("XOR", .xor)]
  | .sum => [("COLLATE", .collate)]
  | .product => [("DIV", .divideWhole)]
  | _ => []

def operator? (level : Level) (t : Lexeme) : Option Operator :=
  match t.form with
  | .mark symbol => level.marks.lookup (String.ofList symbol)
  | .word _ => t.keyword?.bind fun w => level.words.lookup w
  | _ => none

end Level

/-- What a value can be tested for. -/
inductive Test
  /-- A test against one other value. -/
  | against (op : Operator)
  /-- Whether a value matches a pattern, as a function finds it. -/
  | matched (function : String)
  | between
  | among
  | is
  | soundsLike
  | memberOf
deriving DecidableEq

namespace Test

def marks : List (String × Test) :=
  [("~~", .against .like), ("~~*", .against .alike), ("~~~", .against .glob),
   ("~*", .matched "REGEXP_ILIKE")]

def words : List (String × Test) :=
  [("BETWEEN", .between), ("GLOB", .against .glob), ("ILIKE", .against .alike), ("IN", .among),
   ("IS", .is), ("LIKE", .against .like), ("MEMBER OF", .memberOf),
   ("OVERLAPS", .against .overlaps), ("REGEXP", .matched "REGEXP_LIKE"),
   ("RLIKE", .matched "REGEXP_LIKE"), ("SIMILAR TO", .against .similar),
   ("SOUNDS LIKE", .soundsLike)]

def ofLexeme? (t : Lexeme) : Option Test :=
  match t.form with
  | .mark symbol => marks.lookup (String.ofList symbol)
  | .word _ => t.keyword?.bind fun w => words.lookup w
  | _ => none

end Test
end Query
end CrossCheck
