import CrossCheck.Query.Function
import CrossCheck.Query.Level
import CrossCheck.Query.Reading.Name

/-!
Reading queries.  `x NOT IN …` and `x IS NOT NULL` are read as the negation of the plain test.  In
a list separated by commas a part may be missing; it is left out.  Each reading takes what it can
from the front and leaves the rest; what cannot be there makes the whole query wrong.  The first
argument of each bounds how deeply the readings call one another.
-/

namespace CrossCheck
namespace Query

open Text

/-- Where a call is read: as a value, after a point, or as a table. -/
inductive Spot
  | value
  | part
  | table
deriving DecidableEq

namespace Reading

/-- How much room the parts of a query take up that other parts lie in. -/
def nestedCost : Nat := 24

def callCost : Nat := 27

def negationCost : Nat := 10

def signCost : Nat := 2

/-- The room that there is for parts within one another. -/
def allRoom : Nat := 960

/-- What can be called there. -/
def isCallable (spot : Spot) (n : Name) : Bool :=
  let w := String.ofList (upperChars n.chars)
  n.enclosed ||
    match spot with
    | .part => isNameable w
    | _ => (isFree w || Keyword.onlyCallable.contains w) && !Keyword.uncallable.contains w

def nameOf? (t : Lexeme) : Option Name :=
  match t.form with
  | .word cs => some ⟨cs, false⟩
  | .enclosed cs => some ⟨cs, true⟩
  | _ => none

def nameChars (t : Lexeme) : List Char := ((nameOf? t).map Name.chars).getD []

/-- A number or a text. -/
def isLiteral (e : Expr) : Bool :=
  match e.withoutNotes.1 with
  | .number _ | .text _ => true
  | _ => false

/-- A collation that is a single word is written as it stands. -/
def collation (e : Expr) : Expr :=
  match e.withoutNotes.1 with
  | .field n => if n.enclosed then .name n else .bare n.chars
  | e => e

/-- A number and a unit in a text, from its first character on, and what follows them. -/
def span? (cs : List Char) : Option ((List Char × List Char) × List Char) :=
  let (sign, cs) := Text.span (· = '-') (trimLeft cs)
  let (whole, cs) := Text.span isDigit cs
  let (fraction, cs) :=
    match cs with
    | '.' :: rest =>
      let (digits, after) := Text.span isDigit rest
      if digits.isEmpty then ([], cs) else ('.' :: digits, after)
    | cs => ([], cs)
  let (unit, rest) := Text.span (fun c => c.isAlpha) (trimLeft cs)
  if whole.isEmpty || unit.isEmpty || sign.length > 1 then none
  else some ((sign ++ whole ++ fraction, unit), rest)

/-- The numbers with units in a text. -/
def spans : Nat → List Char → List (List Char × List Char)
  | 0, _ => []
  | _ + 1, [] => []
  | fuel + 1, c :: cs =>
    match span? (c :: cs) with
    | some (found, rest) => found :: spans fuel rest
    | none => spans fuel cs

/-- Puts the part after a point behind what stands before it.  The comments of a path stand behind
the whole. -/
def joinPart (e part : Expr) : Expr :=
  let (part, notes) := part.withoutNotes
  let (path, own) := if e.withoutNotes.1.isPath then e.withoutNotes else (e, [])
  let joined : Expr :=
    match part with
    | .windowed call window => .windowed (.member path call) window
    | part => .member path part
  joined.withNotes (own ++ notes)

def limitOf (notes : List Note) (e : Expr) (offset : Option Expr) : List Clause :=
  .limit notes e :: offset.toList.map (Clause.offset [])

/-- Rows are closed by the clauses at the end of the last query that is combined. -/
def closeRows : Rows → Rows
  | .combined op all notes left right cs =>
    .combined op all notes left (right.withClauses (right.clauses.filter (!·.closes)))
      (cs ++ right.clauses.filter Clause.closes)
  | q => q

/-- One of several words, with its comments. -/
def joinWord? (ws : List String) : Reading (Option Lexeme) :=
  take? fun t => t.keyword?.any ws.contains

/-- Whether a test for a missing value follows. -/
def missingTest (negated : Bool) : Reading Bool := do
  if ← word "ISNULL" then return true
  else if negated then word "NULL"
  else return false

/-- A window or its bound that two words name. -/
def boundWord? : Reading (Option Expr) := do
  if ← word "UNBOUNDED" then return some (.bare "UNBOUNDED".toList)
  else if ← words ["CURRENT", "ROW"] then return some (.bare "CURRENT ROW".toList)
  else return none

/-- The side of a bound, as it is spelled. -/
def boundSide : Reading String := do
  match ← form? (wordChars? fun w => w = "PRECEDING" || w = "FOLLOWING") with
  | some cs => return String.ofList cs
  | none => return ""

/-- What becomes of missing values. -/
def withNulls (e : Option Expr) : Reading (Option Expr) := do
  let apply (w : String) : Reading (Option Expr) := do
    return some (← claim (.nulls (← given e) w))
  if ← words ["IGNORE", "NULLS"] then apply "IGNORE NULLS"
  else if ← words ["RESPECT", "NULLS"] then apply "RESPECT NULLS"
  else return e

/-- New names of columns. -/
def columnNames : Reading (List Expr) := do
  let start ← get
  if ← mark "(" then
    let columns ← commas (label? false)
    if columns.isEmpty then
      back start
      return []
    else
      expect ")"
      return columns
  else return []

/-- A new name of a table and of its columns. -/
def renamed (t : Source) : Reading Source := do
  let announced ← word "AS"
  let label ← tableLabel? announced
  let columns ← columnNames
  if label.isNone && !columns.isEmpty then fail
  return if label.isNone then t else .named t label columns

/-- Which indexes of a table to use, or not to, and what for. -/
def hint? : Reading (Option (String × List Expr)) := do
  match ← oneOf? ["FORCE", "IGNORE", "USE"] with
  | none => return none
  | some w =>
    let _ ← oneOf? ["INDEX", "KEY"]
    let purpose ← if ← word "FOR" then
        let purpose ← form? (wordChars? fun _ => true)
        pure (purpose.elim "" fun cs => " FOR " ++ String.ofList (upperChars cs))
      else pure ""
    let names ← wrapped (commas (label? false))
    return some (w ++ " INDEX" ++ purpose, names)

/-- How a text is searched for. -/
def matchMode : Reading String := do
  let widened (mode : String) : Reading String := do
    if ← words ["WITH", "QUERY", "EXPANSION"] then
      return " ".intercalate ((if mode.isEmpty then [] else [mode]) ++ ["WITH QUERY EXPANSION"])
    else return mode
  if ← words ["IN", "NATURAL", "LANGUAGE", "MODE"] then widened "IN NATURAL LANGUAGE MODE"
  else if ← words ["IN", "BOOLEAN", "MODE"] then return "IN BOOLEAN MODE"
  else widened ""

/-- Locks on the rows that are found. -/
def lock? : Reading (Option Clause) := do
  if ← words ["FOR", "UPDATE"] then return some (.lock "FOR UPDATE")
  else if ← words ["FOR", "SHARE"] then return some (.lock "FOR SHARE")
  else if ← words ["LOCK", "IN", "SHARE", "MODE"] then return some (.lock "FOR SHARE")
  else return none

mutual

/-- An expression at a level, where there is one. -/
def expr : Nat → Level → Reading (Option Expr)
  | 0, _ => fail
  | fuel + 1, .unary => unary fuel
  | fuel + 1, .range => range fuel
  | fuel + 1, .assignment => do
    let left ← expr fuel .disjunction
    if ← mark ":=" then
      let ns ← notes
      let right ← expr fuel .assignment
      return some (← claimWith ns (.binary .assign (← given left) (← given right)))
    else return left
  | fuel + 1, level => do
    let left ← expr fuel level.inner
    chain fuel level left

/-- An expression that may not be missing. -/
def value : Nat → Level → Reading Expr
  | 0, _ => fail
  | fuel + 1, level => do given (← expr fuel level)

/-- The operators of one level after their first operand, and the operands between them. -/
def chain : Nat → Level → Option Expr → Reading (Option Expr)
  | 0, _, _ => fail
  | fuel + 1, level, left => do
    let start ← get
    match (← take? fun t => (level.operator? t).isSome).bind level.operator? with
    | some op =>
      let ns ← notes
      match ← expr fuel level.inner with
      | some right =>
        let right := if op = .collate then collation right else right
        let e ← claimWith (if level = .bits then [] else ns) (.binary op (← given left) right)
        chain fuel level (some e)
      | none =>
        if op = .divideWhole then
          back start
          return left
        else fail
    | none =>
      if level ≠ .bits then return left
      let pair (symbol : String) : Reading Bool := do
        return (← isNextMark symbol) && (← following?).any (·.isMark symbol)
      if ← mark "??" then
        let right ← value fuel .sum
        chain fuel level (some (← claim (Function.known "COALESCE" [← given left, right])))
      else if ← pair "<" then
        skip
        skip
        let right ← value fuel .sum
        chain fuel level (some (← claim (.binary .shiftLeft (← given left) right)))
      else if ← pair ">" then
        skip
        skip
        let right ← value fuel .sum
        chain fuel level (some (← claim (.binary .shiftRight (← given left) right)))
      else return left

/-- A value and what it is tested for. -/
def range : Nat → Reading (Option Expr)
  | 0 => fail
  | fuel + 1 => do
    let e ← expr fuel .bits
    let negated ← takes isNot
    let start ← get
    match (← take? fun t => (Test.ofLexeme? t).isSome).bind Test.ofLexeme? with
    | some t =>
      match ← test fuel t start e with
      | some e => tested fuel negated (some e)
      | none => return e
    | none =>
      if ← missingTest negated then
        tested fuel negated (some (← claim (.binary .is (← given e) (.constant .null))))
      else tested fuel negated e

/-- What may follow a test: `NOTNULL`, and one more `IS`. -/
def tested : Nat → Bool → Option Expr → Reading (Option Expr)
  | 0, _, _ => fail
  | fuel + 1, negated, e => do
    let e ← if ← word "NOTNULL" then
        let e ← claim (.binary .is (← given e) (.constant .null))
        pure (some (← claim (.not e)))
      else pure e
    let e ← if negated then e.mapM fun e => claim (.not e) else pure e
    let start ← get
    if ← word "IS" then isTest fuel start e else return e

/-- A test of a value after the word that opens it; `start` is before that word. -/
def test : Nat → Test → Input → Option Expr → Reading (Option Expr)
  | 0, _, _, _ => fail
  | fuel + 1, t, start, e => do
    match t with
    | .against op =>
      let right ← value fuel .bits
      return some (← escaped fuel (← claim (.binary op (← given e) right)))
    | .matched function =>
      let right ← value fuel .bits
      return some (← escaped fuel (← claim (Function.known function [← given e, right])))
    | .between =>
      let low ← value fuel .bits
      let _ ← word "AND"
      let high ← value fuel .bits
      return some (← claim (.between (← given e) low high))
    | .among => return some (← among fuel (← given e))
    | .is => isTest fuel start e
    | .soundsLike =>
      let left ← claim (Function.known "SOUNDEX" [← given e])
      let right ← claim (Function.known "SOUNDEX" [← value fuel .sum])
      return some (← claim (.binary .equal left right))
    | .memberOf =>
      let rows ← wrapped (expression fuel)
      return some (← claim (Function.known "MEMBER" [← given e, ← given rows]))

/-- The mark that takes the meaning from the next character of a pattern. -/
def escaped : Nat → Expr → Reading Expr
  | 0, _ => fail
  | fuel + 1, e => do
    if ← word "ESCAPE" then
      let mark ← if ← isNext (fun t => isText t || t.isWord "NULL") then primary fuel else held?
      claim (.binary .escape e (← given mark))
    else return e

/-- What `IN` looks for a value among. -/
def among : Nat → Expr → Reading Expr
  | 0, _ => fail
  | fuel + 1, e => do
    let listed (close : String) : Reading Expr := within nestedCost do
      let e ← match ← commas (element fuel) with
        | [.rows q] => do
          let cs ← modifiers fuel q.clauses
          claim (.amongRows e (q.withClauses cs))
        | items => claim (.among e items)
      expect close
      claim e
    if ← mark "(" then listed ")"
    else if ← mark "[" then listed "]"
    else match ← column fuel with
      | some field => claim (.binary .within e field)
      | none => claim (.among e [])

/-- A query, or else an expression. -/
def element : Nat → Reading (Option Expr)
  | 0 => fail
  | fuel + 1 => do
    match ← select fuel false true with
    | some q => return some (.rows q)
    | none =>
      match ← expr fuel .assignment with
      | some (.rows q) => return some (.rows (← combine fuel q))
      | e => return e

/-- What follows `IS`, where it is a value; `start` is before that word. -/
def isTest : Nat → Input → Option Expr → Reading (Option Expr)
  | 0, _, _ => fail
  | fuel + 1, start, e => do
    let negated ← takes isNot
    if ← words ["DISTINCT", "FROM"] then
      let right ← value fuel .bits
      return some (← claim (.binary (if negated then .same else .different) (← given e) right))
    else
      let right ← if ← word "JSON" then pure (some (.bare "JSON".toList))
        else match ← primary fuel with
          | some right => pure (some right)
          | none => held?
      match right with
      | none =>
        back start
        return none
      | some right =>
        let e ← claim (.binary .is (← given e) right)
        if negated then return some (← claim (.not e)) else return some e

/-- What stands between operators.  `NOT` takes a whole comparison. -/
def unary : Nat → Reading (Option Expr)
  | 0 => fail
  | fuel + 1 => do
    if ← mark "+" then within signCost (unary fuel)
    else if ← takes isNot then
      within negationCost do return some (← claim (.not (← value fuel .equality)))
    else if ← mark "~" then
      within signCost do return some (← claim (.complement (← given (← unary fuel))))
    else if ← mark "-" then
      within signCost do return some (← claim (.negative (← given (← unary fuel))))
    else zoned fuel (← typed fuel)

/-- An interval, a literal after its type, or a column. -/
def typed : Nat → Reading (Option Expr)
  | 0 => fail
  | fuel + 1 => do
    let start ← get
    if ← isNextWord "BINARY" then
      match ← type? true with
      | some type =>
        let e ← column fuel
        return some (← claim (.cast (← given e) type))
      | none => back start
    match ← interval fuel with
    | some e => return some (← ops fuel e)
    | none =>
      match ← type? true with
      | some type =>
        if ← isNext fun t => isText t || isNumber t || t.isMark "." then
          match ← primary fuel with
          | some e =>
            if isLiteral e then return some (← claim (.cast (← ops fuel e) type)) else back start
          | none => back start
        else back start
      | none => back start
      column fuel

/-- A moment in the zones that follow it. -/
def zoned : Nat → Option Expr → Reading (Option Expr)
  | 0, _ => fail
  | fuel + 1, e => do
    if ← words ["AT", "TIME", "ZONE"] then
      zoned fuel (some (← claim (.binary .inZone (← given e) (← given (← unary fuel)))))
    else return e

/-- A span of time. -/
def interval : Nat → Reading (Option Expr)
  | 0 => fail
  | fuel + 1 => do
    let start ← get
    if ← word "INTERVAL" then
      match ← if ← isNext isText then primary fuel else expr fuel .sum with
      | some v =>
        let isIs := match v.withoutNotes.1 with
          | .field n => !n.enclosed && upperChars n.chars = "IS".toList
          | _ => false
        if isIs then
          back start
          return none
        else return some (← spanned fuel v)
      | none =>
        back start
        return none
    else return none

/-- The unit of a span of time, and the spans that follow it. -/
def spanned : Nat → Expr → Reading Expr
  | 0, _ => fail
  | fuel + 1, v => do
    let start ← get
    let any := form? fun f => (wordChars? isNameable f).or ((numberChars? f).or (textChars? f))
    let unit ← match ← call fuel .value with
      | some e => pure (some e)
      | none =>
        if ← isNextWord "AS" then pure none
        else pure ((← any).map fun cs => Expr.bare (upperChars cs))
    let (v, unit) ← match v.withoutNotes.1 with
      | .number ds => pure (.text ds, unit)
      | .negative (.number ds) => pure (.text ('-' :: ds), unit)
      | .text cs => do
        let found := spans (cs.length + 1) cs
        if !found.isEmpty && unit.isSome then back start
        let unit := if found.isEmpty then unit else none
        match found with
        | [(number, word)] => pure (.text number, some (.bare (upperChars word)))
        | _ => pure (v, unit)
      | _ => pure (v, unit)
    let unit ← match unit with
      | some (.bare cs) => do
        if ← word "TO" then
          match ← any with
          | some more => pure (some (.bare (cs ++ " TO ".toList ++ upperChars more)))
          | none => fail
        else pure (some (.bare cs))
      | unit => pure unit
    let e ← claim (.interval v unit)
    let start ← get
    let _ ← mark "+"
    if ← isNext fun t => isText t || isNumber t then
      let next ← if ← isNext isText then primary fuel else expr fuel .sum
      claim (.binary .add e (← spanned fuel (← given next)))
    else
      back start
      return e

/-- What stands for a value. -/
def reference : Nat → Reading (Option Expr)
  | 0 => fail
  | fuel + 1 => do
    match ← primary fuel with
    | some e => return some e.asField
    | none =>
      match ← call fuel .value with
      | some e => return some e
      | none => return (← freeName?).map Expr.asField

/-- What stands for a value, and what is taken from it. -/
def column : Nat → Reading (Option Expr)
  | 0 => fail
  | fuel + 1 => do
    match ← reference fuel with
    | some e => return some (← ops fuel e)
    | none => return none

/-- The parts of a value after points and arrows, and the type that it is cast to. -/
def ops : Nat → Expr → Reading Expr
  | 0, _ => fail
  | fuel + 1, e => do
    if ← mark "::" then ops fuel (← claim (.cast e (← given (← type? false))))
    else if ← mark "." then
      let part ← match ← call fuel .part with
        | some e => pure (some e)
        | none =>
          match ← primary fuel with
          | some e => pure (some e)
          | none => anyName?
      ops fuel (joinPart e (← given part))
    else match (← take? fun t => t.isMark "->" || t.isMark "->>").map Lexeme.form with
    | some f =>
      let path ← match ← reference fuel with
        | some path => pure path
        | none => value fuel .bits
      let path ← if path.isPath && (← isNextMark ".") then ops fuel path else pure path
      let op := if f = .mark "->".toList then Operator.json else .jsonText
      ops fuel (← claim (.binary op e (Function.jsonPath path)))
    | none => return e

/-- A value that has no parts before or behind it. -/
def primary : Nat → Reading (Option Expr)
  | 0 => fail
  | fuel + 1 => do
    match (← current?).map Lexeme.form with
    | some (.text cs) =>
      skip
      let first ← claim (.text cs)
      match ← many (form? textChars?) with
      | [] => return some first
      | more => return some (← claim (Function.known "CONCAT" (first :: more.map .text)))
    | some (.national cs) => skip; return some (← claim (.national cs))
    | some (.number ds) => skip; return some (← claim (.number ds))
    | some (.hexadecimal ds) => skip; return some (← claim (.hexadecimal ds))
    | some (.bits ds) => skip; return some (← claim (.bits ds))
    | some (.word cs) =>
      let w := String.ofList (upperChars cs)
      if Keyword.introducers.contains w then
        skip
        match ← primary fuel with
        | some e => return some (← claim (.introduced cs e))
        | none => return some (← plainName cs)
      else if w = "NULL" then skip; return some (← claim (.constant .null))
      else if w = "TRUE" then skip; return some (← claim (.constant .true))
      else if w = "FALSE" then skip; return some (← claim (.constant .false))
      else return none
    | some (.mark ['*']) => skip; return some (← claim .everything)
    | some (.mark ['@', '@']) =>
      skip
      let e ← match ← anyName? with
        | some e => pure e
        | none => given (← primary fuel)
      return some (← claim (.sessionParameter (← ops fuel e)))
    | some (.mark ['.']) =>
      if (← following?).any isNumber then
        skip
        let ds ← form? numberChars?
        return ds.map fun ds => .number ('0' :: '.' :: ds)
      else return none
    | some (.mark ['(']) =>
      skip
      let ns ← notes
      let e ← within nestedCost do return (← inner fuel).withNotes ns
      expect ")"
      return some (← claim e)
    | _ => return none

/-- What lies between parentheses: a query, a value, or several in a row. -/
def inner : Nat → Reading Expr
  | 0 => fail
  | fuel + 1 => do
    match ← select fuel false true with
    | some q => return .rows (.paren (q.withClauses (← modifiers fuel q.clauses)) [])
    | none =>
      let found ← places (expression fuel)
      match found.filterMap id with
      | [] => if ← isNextMark ")" then claim (.tuple []) else fail
      | e :: more =>
        match e.withoutNotes with
        | (.rows q, ns) =>
          let q := q.withClauses (← modifiers fuel q.clauses)
          return Expr.withNotes (.rows (.paren (← combine fuel q) [])) ns
        | _ =>
          if !more.isEmpty || (found.length > 1 && (found.getLast?.any (·.isNone))) then
            claim (.tuple (e :: more))
          else claim (.paren e)

/-- A call, or a value that its first word opens. -/
def call : Nat → Spot → Reading (Option Expr)
  | 0, _ => fail
  | fuel + 1, spot => do
    let start ← get
    match ← current? with
    | none => return none
    | some t =>
      match nameOf? t with
      | none => return none
      | some n =>
        let w := String.ofList (upperChars n.chars)
        let bare := spot ≠ .table && !n.enclosed
        if bare && Keyword.leading.contains w then
          skip
          match ← led fuel w start with
          | some e => return some (← windowed fuel e)
          | none => return none
        else if !(← following?).any (·.isMark "(") then
          if bare && Keyword.moments.contains w then
            skip
            return some (← claim (.moment w))
          else return none
        else if !isCallable spot n then return none
        else
          skip
          skip
          if (w = "ALL" || w = "EXISTS" || w = "SOME") && spot ≠ .part &&
              (← isNext fun t => t.isWord "SELECT" || t.isWord "WITH") then
            let q ← within callCost do given (← select fuel false true)
            expect ")"
            let e : Expr := if w = "EXISTS" then .exists q
              else .leading (if w = "ALL" then w else "ANY") (.rows q)
            return some (e.withNotes t.notes)
          let e ← within callCost (called fuel spot n w)
          let e := e.withNotes t.notes
          expect ")"
          return some (← windowed fuel (← claim e))

/-- A value after the word that opens it; `start` is before that word. -/
def led : Nat → String → Input → Reading (Option Expr)
  | 0, _, _ => fail
  | fuel + 1, w, start => do
    if w = "CASE" then
      let ns ← notes
      within nestedCost do
        let subject ← expr fuel .assignment
        let branches ← many (do
          if ← word "WHEN" then
            let condition ← value fuel .assignment
            let _ ← word "THEN"
            let result ← value fuel .assignment
            return some (condition, ← claim result)
          else return none)
        let otherwise ← if ← word "ELSE" then expr fuel .assignment else pure none
        if branches.isEmpty || !(← word "END") then fail
        return some (← claimWith ns (.case subject branches otherwise))
    else if w = "IF" then
      if ← mark "(" then
        within nestedCost do
          let arguments ← commas (do named fuel true (← expr fuel .assignment))
          let e ← match arguments with
            | [condition, result] => pure (.case none [(condition, result)] none)
            | [condition, result, otherwise] => pure (.case none [(condition, result)] otherwise)
            | _ => fail
          expect ")"
          return some e
      else within nestedCost do
        match ← expr fuel .assignment with
        | none =>
          back start
          return none
        | some condition =>
          let _ ← word "THEN"
          let result ← value fuel .assignment
          let otherwise ← if ← word "ELSE" then expr fuel .assignment else pure none
          let _ ← word "END"
          return some (← claim (.case none [(condition, result)] otherwise))
    else if w = "ANY" then
      within nestedCost do return some (← claim (.leading w (← value fuel .bits)))
    else
      within nestedCost do return some (← claim (.leading w (← given (← column fuel))))

/-- What is called, after its opening parenthesis. -/
def called : Nat → Spot → Name → String → Reading Expr
  | 0, _, _, _ => fail
  | fuel + 1, spot, n, w => do
    let known := spot ≠ .part
    let arguments (level : Level) : Reading (List Expr) := commas (expr fuel level)
    if known && w = "CAST" then
      let e ← value fuel .disjunction
      if ← word "AS" then claim (.cast e (← given (← type? false))) else fail
    else if known && w = "CONVERT" then
      let e ← value fuel .bits
      if ← word "USING" then
        let set ← given (← form? (wordChars? isFree))
        claim (.cast e ⟨"CHAR CHARACTER SET " ++ String.ofList set, []⟩)
      else if ← mark "," then claim (.cast e (← given (← type? false)))
      else fail
    else if known && w = "MATCH" then
      let fields ← commas (column fuel)
      let start ← get
      if ← mark ")" then
        if ← word "AGAINST" then expect "(" else back start
      let text ← given ((← form? textChars?).map Expr.text)
      claim (.matched fields text (← matchMode))
    else if known && w = "EXTRACT" then
      let part ← match ← call fuel .value with
        | some e => pure e
        | none => given (← label? true)
      if ← word "FROM" then claim (.extract part (← value fuel .bits))
      else
        expect ","
        claim (.extract part (← value fuel .bits))
    else if known && w = "TRIM" then
      let side := (← oneOf? ["BOTH", "LEADING", "TRAILING"]).getD ""
      let first ← value fuel .bits
      let function := if side = "LEADING" then "LTRIM" else if side = "TRAILING" then "RTRIM"
        else if side = "BOTH" then "TRIM_BOTH" else "TRIM"
      if ← word "FROM" then claim (Function.known function [← value fuel .bits, first])
      else if ← mark "," then claim (Function.known function [first, ← value fuel .bits])
      else claim (Function.known function [first])
    else if known && w = "SUBSTRING" then
      let first ← arguments .bits
      let start ← if ← word "FROM" then expr fuel .bits else pure none
      let length ← if ← word "FOR" then expr fuel .bits else pure none
      let start := if length.isSome && start.isNone then some (.number ['1']) else start
      claim (← given (← given (Function.called? w (first ++ start.toList ++ length.toList))))
    else if known && w = "POSITION" then
      match ← arguments .bits with
      | [part] =>
        if ← word "IN" then claim (Function.known "STRPOS" [← value fuel .bits, part]) else fail
      | part :: e :: start => claim (Function.known "STRPOS" (e :: part :: start.take 1))
      | _ => fail
    else if known && w = "GROUP_CONCAT" then
      let e ← match ← commas (argument fuel false) with
        | [e] => pure e
        | [] => fail
        | es => claim (Function.known "CONCAT" es)
      let separator ← if ← word "SEPARATOR" then column fuel else pure none
      claim (.gathered e separator)
    else if known && w = "CHAR" then
      let codes ← arguments .assignment
      claim (Function.known "CHR" codes)
    else if known && Function.isKnown w then
      let given? := Function.called? w (← commas (argument fuel false))
      given (← given given?)
    else claim (.call (.other n) (← commas (argument fuel true)))

/-- An argument of a function.  `DISTINCT` takes all that follow it. -/
def argument : Nat → Bool → Reading (Option Expr)
  | 0, _ => fail
  | fuel + 1, renames => do
    let start ← get
    let found? ← anyName?
    match (← take? fun t => t.isMark "->" || t.isMark "=>").map Lexeme.form with
    | some f =>
      let op := if f = .mark "->".toList then Operator.maps else .labels
      let e ← value fuel .assignment
      return some (← claim (.binary op (← given found?) e))
    | none => back start
    let e ← if ← word "DISTINCT" then
        let es ← commas (expr fuel .assignment)
        pure (some (← claim (.distinct es)))
      else do
        match ← element fuel with
        | some (.rows q) => pure (some (.rows q))
        | e => if renames then named fuel true e else pure e
    let e ← withNulls e
    let order ← if ← word "ORDER BY" then
        let keys ← commas (ordering fuel)
        if keys.isEmpty then fail else pure keys
      else pure []
    let limit ← if ← word "LIMIT" then pure (some (← value fuel .sum)) else pure none
    if order.isEmpty && limit.isNone then return e
    else return some (← claim (.arranged (← given e) order limit))

/-- The rows that a call takes: some of them, a group in order, or those of a window. -/
def windowed : Nat → Expr → Reading Expr
  | 0, _ => fail
  | fuel + 1, e => do
    let e ← if ← words ["WITHIN", "GROUP"] then
        let keys ← wrapped (do
          if ← word "ORDER BY" then commas (ordering fuel) else fail)
        claim (.inGroup e keys)
      else pure e
    let filtered := (← isNextWord "FILTER") && (← following?).any (·.isMark "(")
    let e ← if filtered then
        skip
        let condition ← wrapped (do
          let _ ← word "WHERE"
          value fuel .assignment)
        claim (.filtered e condition)
      else pure e
    let e ← given (← withNulls (some e))
    if ← word "OVER" then
      let (e, ns) := match e with
        | .noted (.filtered ..) _ | .noted (.inGroup ..) _ | .noted (.nulls ..) _ => (e, [])
        | e => e.withoutNotes
      if ← mark "(" then
        let base ← if ← isNext (fun t => t.isWord "ROWS" || t.isWord "RANGE") then pure none
          else freeName?
        let partition ← if ← word "PARTITION BY" then commas (expr fuel .assignment) else pure []
        let order ← if ← word "ORDER BY" then commas (ordering fuel) else pure []
        let frame ← match ← form? (wordChars? fun w => w = "ROWS" || w = "RANGE") with
          | some unit => do
            let _ ← word "BETWEEN"
            let low ← bound fuel
            let _ ← word "AND"
            let high ← bound fuel
            pure (some (.frame (String.ofList unit) low high))
          | none => pure none
        expect ")"
        windowed fuel (← claimWith ns (.windowed e (some (.window base partition order frame))))
      else claimWith ns (.windowed e (← freeName?))
    else return e

/-- Where the rows of a window begin or end. -/
def bound : Nat → Reading Expr
  | 0 => fail
  | fuel + 1 => do
    let _ ← word "BETWEEN"
    let e ← match ← boundWord? with
      | some e => pure (some e)
      | none => expr fuel .bits
    return .bound (e.getD (.bare "CURRENT ROW".toList)) (← boundSide)

/-- What an order goes by. -/
def ordering : Nat → Reading (Option Expr)
  | 0 => fail
  | fuel + 1 => do
    match ← expr fuel .assignment with
    | none => return none
    | some e =>
      let ascending ← word "ASC"
      let descending ← word "DESC"
      let first ← words ["NULLS", "FIRST"]
      let last ← words ["NULLS", "LAST"]
      let direction := if descending then some Direction.descending
        else if ascending then some .ascending else none
      let place := if first then some NullPlace.first else if last then some .last else none
      return some (← claim (.ordered e direction place))

/-- Whether `LIMIT` or `OFFSET` comes next and is no name. -/
def opensLimit : Nat → Reading Bool
  | 0 => fail
  | fuel + 1 => do
    if !(← isNext fun t => t.isWord "LIMIT" || t.isWord "OFFSET") then return false
    let start ← get
    let found ← attempt (do
      skip
      let _ ← value fuel .sum
      if ← mark "," then
        let _ ← value fuel .sum
      return)
    back start
    return found.isSome

/-- Gives a value the name that follows it.  After `AS` any word is a name, and a missing one
changes nothing.  A comment on the value moves to its name. -/
def named : Nat → Bool → Option Expr → Reading (Option Expr)
  | 0, _, _ => fail
  | fuel + 1, announcedOnly, e => do
    if ← opensLimit fuel then return e
    let announced ← word "AS"
    let ns ← notes
    if announcedOnly && !announced then return e
    if ← mark "(" then
      let names ← commas (if announced then anyName? else freeName?)
      expect ")"
      return some (← claimWith ns (.namedAll (← given e) names))
    match ← label? announced with
    | none => return e
    | some label =>
      let (label, own) := label.withoutNotes
      let e ← given e
      let ns := ns ++ own
      if !ns.isEmpty then return some (Expr.withNotes (.named e label) ns)
      else
        let (e, moved) := e.withoutNotes
        return some (Expr.withNotes (.named e label) moved)

/-- An expression that may have a name. -/
def expression : Nat → Reading (Option Expr)
  | 0 => fail
  | fuel + 1 => do named fuel false (← expr fuel .assignment)

/-- A query, where one begins.  `nested` says that it may be in parentheses, and `combines` that
others may be combined with it. -/
def select : Nat → Bool → Bool → Reading (Option Rows)
  | 0, _, _ => fail
  | fuel + 1, nested, combines => do
    if ← word "WITH" then
      let recursive ← word "RECURSIVE"
      let tables ← common fuel
      match ← statement fuel with
      | some (.rows q) => return some (.using recursive tables q)
      | _ => fail
    else
      if ← isNext fun t => t.keyword?.any Keyword.openers.contains then fail
      let source ← if ← word "FROM" then
          let ns ← notes
          pure (some (Clause.source ns (← table fuel)))
        else pure none
      let q ← if ← word "SELECT" then pure (some (← selection fuel source))
        else match source with
          | some source => pure (some (.selection [] [] false [.everything] [source]))
          | none =>
            if !nested then pure none
            else if ← mark "(" then
              let q ← within nestedCost do
                let q ← given (← select fuel true false)
                let q ← combine fuel q
                return q.withClauses (← modifiers fuel q.clauses)
              expect ")"
              pure (some (.paren q []))
            else pure none
      match q with
      | some q => if combines then return some (← combine fuel q) else return some q
      | none => return none

/-- The queries that others can use by name. -/
def common : Nat → Reading (List (Expr × List Expr × Rows))
  | 0 => fail
  | fuel + 1 => do
    let label ← given (← label? false)
    let columns ← columnNames
    if !(← word "AS") then fail
    match ← wrapped (statement fuel) with
    | some (.rows q) =>
      let table := (label, columns, q)
      if ← mark "," then return table :: (← common fuel) else return [table]
    | _ => fail

/-- The items and clauses of a query. -/
def selection : Nat → Option Clause → Reading Rows
  | 0, _ => fail
  | fuel + 1, source => do
    let ns ← notes
    let distinct ← if (← following?).any (!·.isMark ".") then
        let all ← word "ALL"
        let distinct ← word "DISTINCT"
        if all && distinct then fail else pure distinct
      else pure false
    let _ ← word "AS"
    let aside ← many (oneOf? Keyword.modifiers)
    let items ← commas (expression fuel)
    let _ ← takeNotes
    let source ← match source with
      | some source => pure [source]
      | none =>
        if ← word "FROM" then
          let ns ← notes
          pure [Clause.source ns (← table fuel)]
        else pure []
    return .selection ns aside distinct items (← modifiers fuel source)

/-- The queries that are combined with one. -/
def combine : Nat → Rows → Reading Rows
  | 0, _ => fail
  | fuel + 1, q => do
    let one : Reading (Option (Rows → Reading Rows)) := do
      match ← oneOf? ["UNION", "EXCEPT", "INTERSECT"] with
      | none => return none
      | some w =>
        let ns ← notes
        let distinct ← word "DISTINCT"
        let all ← if distinct then pure false else word "ALL"
        let right ← given (← select fuel true false)
        let op := if w = "UNION" then SetOperator.union
          else if w = "EXCEPT" then .except else .intersect
        return some fun left => do
          return .combined op all (← ownNotes ns) left right []
    let more ← many one
    return closeRows (← more.foldlM (fun q f => f q) q)

/-- The tables that are joined and the clauses, each at most once and in any order. -/
def modifiers : Nat → List Clause → Reading (List Clause)
  | 0, _ => fail
  | fuel + 1, cs => do clauses fuel (cs ++ (← many (join fuel)))

def clauses : Nat → List Clause → Reading (List Clause)
  | 0, _ => fail
  | fuel + 1, cs => do
    match ← clause fuel with
    | [] => return cs
    | c :: more =>
      if cs.any fun d => d.place = c.place then fail
      clauses fuel (cs.filter (fun d => !more.any fun e => e.place = d.place) ++ c :: more)

/-- One clause, where one comes next; a limit may say where it begins. -/
def clause : Nat → Reading (List Clause)
  | 0 => fail
  | fuel + 1 => do
    if ← word "WHERE" then
      let ns ← notes
      let e ← value fuel .assignment
      return [.condition (← ownNotes ns) e]
    else if ← word "GROUP BY" then
      let ns ← notes
      let all ← word "ALL"
      let (keys, more) ← grouping fuel
      return [.group (← ownNotes ns) all keys more]
    else if ← word "HAVING" then
      let ns ← notes
      let e ← value fuel .assignment
      return [.having (← ownNotes ns) e]
    else if ← word "QUALIFY" then return [.qualify (← value fuel .assignment)]
    else if ← word "ORDER BY" then
      let ns ← notes
      let keys ← commas (ordering fuel)
      if keys.isEmpty then fail
      return [.order (← ownNotes ns) keys]
    else if ← word "LIMIT" then
      let ns ← notes
      let first ← value fuel .sum
      if ← mark "," then
        let e ← value fuel .sum
        return limitOf (← ownNotes ns) e (some first)
      else return limitOf (← ownNotes ns) first none
    else if ← word "FETCH" then
      let ns ← notes
      let _ ← oneOf? ["FIRST", "NEXT"]
      let counted := !(← isNext fun t => t.keyword?.any ["PERCENT", "ROW", "ROWS"].contains)
      let e ← if counted then given (← reference fuel) else pure (.bare [])
      let _ ← oneOf? ["PERCENT"]
      let _ ← oneOf? ["ROW", "ROWS"]
      let only ← word "ONLY"
      if (← words ["WITH", "TIES"]) && only then fail
      return limitOf (← ownNotes ns) e none
    else if ← word "OFFSET" then
      let ns ← notes
      let e ← value fuel .sum
      let _ ← oneOf? ["ROW", "ROWS"]
      return [.offset (← ownNotes ns) e]
    else return (← lock?).toList

/-- The keys of groups, and the groups of several sizes among them. -/
def grouping : Nat → Reading (List Expr × List (Subtotals × List Expr))
  | 0 => fail
  | fuel + 1 => do
    let opens : Lexeme → Bool := fun t => t.keyword?.any ["CUBE", "ROLLUP"].contains
    let keys ← commas (do if ← isNext opens then return none else expr fuel .assignment)
    let start ← get
    let bare ← word "WITH"
    match ← oneOf? ["CUBE", "ROLLUP"] with
    | some w =>
      let kind := if w = "CUBE" then Subtotals.cube else .rollup
      let these ← if bare then pure [] else wrapped (commas (column fuel))
      let (moreKeys, more) ← grouping fuel
      return (keys ++ moreKeys, (kind, these) :: more)
    | none =>
      back start
      return (keys, [])

/-- A table that is joined.  After a comma it may be missing. -/
def join : Nat → Reading (Option Clause)
  | 0 => fail
  | fuel + 1 => do
    if ← mark "," then
      match ← attempt (table fuel) with
      | some t => return some (.join (← takeNotes) [] t none [])
      | none => return none
    else
      let start ← get
      let method ← joinWord? ["ASOF", "NATURAL"]
      let side ← joinWord? ["LEFT", "RIGHT", "FULL"]
      let kind ← joinWord? ["ANTI", "CROSS", "INNER", "OUTER", "SEMI", "STRAIGHT_JOIN"]
      let straight := kind.any (·.isWord "STRAIGHT_JOIN")
      let joined ← word "JOIN"
      if !joined && !straight then
        back start
        return none
      else
        let parts := [method, side, kind].filterMap id
        let ns := (← notes) ++ parts.flatMap Lexeme.notes
        let t ← table fuel
        let open? := method.isNone && !kind.any (·.isWord "CROSS")
        let start ← get
        let more ← if open? && !(← isNext fun t => t.isWord "ON" || t.isWord "USING") then
            many (join fuel)
          else pure []
        let t ← if more.isEmpty then pure t
          else if ← isNext fun t => t.isWord "ON" || t.isWord "USING" then
            pure (.joined t more)
          else
            back start
            pure t
        let on ← if ← word "ON" then expr fuel .assignment else pure none
        let columns ← if on.isNone then
            (do if ← word "USING" then wrapped (commas (label? true)) else return [])
          else pure []
        return some (.join (← ownNotes ns) (parts.filterMap Lexeme.keyword?) t on columns)

/-- A table, or a query that stands for one. -/
def table : Nat → Reading Source
  | 0 => fail
  | fuel + 1 => do
    match ← select fuel false true with
    | some q => return .query q
    | none =>
      if ← mark "(" then
        let t ← within nestedCost do
          match ← table fuel with
          | .query q =>
            let q ← combine fuel q
            return .query (.paren (q.withClauses (← modifiers fuel q.clauses)) [])
          | t =>
            let more ← many (join fuel)
            return .paren (if more.isEmpty then t else .joined t more)
        expect ")"
        if ← opensLimit fuel then return t else renamed t
      else
        let part : Reading (Option Expr) := do
          match ← call fuel .table with
          | some e => return some e
          | none => if ← isNextWord "UNNEST" then fail else label? false
        let first ← given (← part)
        let more ← many (do if ← mark "." then return some (← given (← part)) else return none)
        let path := first :: more
        let ns := (path.getLast?.map (·.withoutNotes.2)).getD []
        let path := path.dropLast ++ (path.getLast?.map (·.withoutNotes.1)).toList
        let _ ← mark "*"
        let t ← if ← word "PARTITION" then
            pure (Source.parts (.table path) (← wrapped (commas (expr fuel .assignment))))
          else pure (.table path)
        let t ← if ← opensLimit fuel then pure t else renamed t
        let hints ← many hint?
        let t := if hints.isEmpty then t else .hinted t hints
        return if ns.isEmpty then t else .noted t ns

/-- A value or query that nothing stands before. -/
def statement : Nat → Reading (Option Expr)
  | 0 => fail
  | fuel + 1 => do
    let whole (q : Rows) : Reading Expr := do
      let q ← combine fuel q
      return .rows (q.withClauses (← modifiers fuel q.clauses))
    match ← expression fuel with
    | some (.rows q) => return some (← whole q)
    | some (.noted (.rows q) ns) => return some ((← whole q).withNotes ns)
    | some e => return some e
    | none =>
      match ← select fuel false true with
      | some q => return some (← whole q)
      | none => return none

end

/-- Each reading calls fewer others than this before it takes a lexeme. -/
def stepsPerLexeme : Nat := 40

/-- All of a part of a query, read from its first lexeme on. -/
def whole {α : Type} (part : Nat → Reading α) (ts : List Lexeme) : Except Fault α := do
  let (a, rest) ← part (stepsPerLexeme * (ts.length + 2)) |>.run ⟨ts, 0, [], [], allRoom⟩
  if rest.rest.isEmpty then return a else throw .malformed

end Reading

namespace Statement

/-- A statement that stands for itself, if there is one. -/
def ofLexemes? (ts : List Lexeme) : Except Fault (Option Statement) :=
  match ts with
  | [] => return none
  | t :: rest =>
    let w := t.keyword?
    if w.any Keyword.statements.contains then throw .malformed
    else if w.any Keyword.commands.contains then
      match rest with
      | [] => return some (.command (Reading.nameChars t) [])
      | [⟨.text raw, _⟩] => return some (.command (Reading.nameChars t) raw)
      | _ => throw .malformed
    else return (← Reading.whole Reading.statement ts).map .value

/-- The statements between semicolons; the last one needs no semicolon. -/
def split : List Lexeme → List (List Lexeme)
  | [] => []
  | t :: rest =>
    if t.isMark ";" then [] :: split rest
    else match split rest with
      | [] => [[t]]
      | first :: more => (t :: first) :: more

/-- The first of the statements, where all of them can be read.  The later ones may be empty. -/
def read (query : String) : Except Fault Statement := do
  match Lexeme.ofText? query.toList with
  | none => throw .malformed
  | some ts =>
    match ← (split ts).mapM ofLexemes? with
    | some s :: _ => return s
    | _ => throw .malformed

end Statement
end Query
end CrossCheck
