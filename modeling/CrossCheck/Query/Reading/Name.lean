import CrossCheck.Query.DataType
import CrossCheck.Query.Reading

/-!
Names and types.  A word is a name where nothing else can begin with it; where only a name can
stand, every word is one.
-/

namespace CrossCheck
namespace Query
namespace Reading

open Text

/-- What the form of the next lexeme gives, which is taken then. -/
def form? {α : Type} (f : Form → Option α) : Reading (Option α) := do
  return (← take? fun t => (f t.form).isSome).bind fun t => f t.form

def wordChars? (allowed : String → Bool) : Form → Option (List Char)
  | .word cs => if allowed (String.ofList (upperChars cs)) then some cs else none
  | _ => none

def numberChars? : Form → Option (List Char)
  | .number ds => some ds
  | _ => none

def textChars? : Form → Option (List Char)
  | .text cs => some cs
  | _ => none

def enclosedChars? : Form → Option (List Char)
  | .enclosed cs => some cs
  | _ => none

/-- Whether a word can be a name that nothing announces. -/
def isFree (w : String) : Bool := !Keyword.barred.contains w

/-- Whether a word can be a name where only a name can stand. -/
def isNameable (w : String) : Bool := w ≠ "SELECT" && w ≠ "NOT"

def isText (t : Lexeme) : Bool := (textChars? t.form).isSome

def isNumber (t : Lexeme) : Bool := (numberChars? t.form).isSome

def isNot (t : Lexeme) : Bool := t.isWord "NOT" || t.isMark "!"

def plainName (cs : List Char) : Reading Expr := claim (.name ⟨cs, false⟩)

def markedName (cs : List Char) : Reading Expr := claim (.name ⟨cs, true⟩)

/-- What is to be known later: a value without a name or with one, or a parameter. -/
def held? : Reading (Option Expr) := do
  let start ← get
  if ← mark "?" then return some (← claim (.placeholder none))
  else if ← mark ":" then
    match ← form? fun f => (wordChars? isFree f).or (numberChars? f) with
    | some cs => return some (← claim (.placeholder (some cs)))
    | none =>
      back start
      return none
  else if ← mark "@" then
    let e ← match ← form? enclosedChars? with
      | some cs => markedName cs
      | none =>
        match ← form? textChars? with
        | some cs => claim (.text cs)
        | none =>
          claim (.bare (← given (← form? fun f => (wordChars? isNameable f).or (numberChars? f))))
    return some (← claim (.parameter e))
  else return none

/-- A name that nothing announces. -/
def freeName? : Reading (Option Expr) := do
  match ← form? enclosedChars? with
  | some cs => return some (← markedName cs)
  | none =>
    match ← held? with
    | some e => return some e
    | none => (← form? (wordChars? isFree)).mapM plainName

/-- A text that stands for a name. -/
def textName? : Reading (Option Expr) := do (← form? textChars?).mapM markedName

/-- A name where only a name can stand. -/
def anyName? : Reading (Option Expr) := do
  match ← form? enclosedChars? with
  | some cs => return some (← markedName cs)
  | none =>
    match ← held? with
    | some e => return some e
    | none =>
      match ← form? fun f => (wordChars? isNameable f).or (numberChars? f) with
      | some cs => return some (← plainName cs)
      | none => textName?

/-- A name that may be announced. -/
def label? (announced : Bool) : Reading (Option Expr) := do
  if announced then anyName?
  else match ← freeName? with
    | some e => return some e
    | none => textName?

/-- A new name of a table. -/
def tableLabel? (announced : Bool) : Reading (Option Expr) := do
  if !announced && (← isNext fun t => t.keyword?.any Keyword.afterTable.contains) then return none
  else label? announced

/-- Sizes between parentheses, if these hold nothing else. -/
def sizes? : Reading (Option (List (List Char))) := do
  let start ← get
  let size := form? fun f => (numberChars? f).or ((wordChars? isFree f).map upperChars)
  match ← attempt (wrapped (commas (do return (← size).map .bare))) with
  | some es =>
    return some (es.filterMap fun
      | .bare cs | .noted (.bare cs) _ => some cs
      | _ => none)
  | none =>
    back start
    return none

/-- What follows the name of a type of moments. -/
def zone? (name : String) : Reading (Option String) := do
  if !name.startsWith "TIME" then return none
  else if ← words ["WITH", "TIME", "ZONE"] then
    return some (if name.startsWith "TIMESTAMP" then "TIMESTAMPTZ" else "TIMETZ")
  else if ← words ["WITH", "LOCAL", "TIME", "ZONE"] then return some "TIMESTAMPLTZ"
  else if ← words ["WITHOUT", "TIME", "ZONE"] then return some name
  else return none

/-- A type.  Where a value could stand as well, a type with sizes is one before a text only. -/
def type? (orValue : Bool) : Reading (Option SizedType) := do
  let start ← get
  let leave : Reading (Option SizedType) := do
    back start
    return none
  match (← take? fun t => (t.keyword?.bind DataType.ofWord?).isSome).bind fun t =>
      t.keyword?.bind DataType.ofWord? with
  | none => return none
  | some name =>
    let nests := DataType.nesting.contains name
    if nests && (← isNextMark "<") then fail
    let opened ← isNextMark "("
    match ← if !opened then pure (some []) else if nests then pure none else sizes? with
    | none => leave
    | some sizes =>
      let zone ← zone? name
      if orValue && opened && zone.isNone && !(← isNext isText) then leave
      else if ← word "UNSIGNED" then
        return some ⟨← given (DataType.unsigned.lookup name), sizes⟩
      else if name = "NULLABLE" then leave
      else return some ⟨zone.getD name, sizes⟩

end Reading
end Query
end CrossCheck
