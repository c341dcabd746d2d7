import CrossCheck.Number.Notation
import CrossCheck.Number.Reading
import CrossCheck.Value

/-!
Reading JSON texts.  Members keep their order, whole numbers may have any size, and `NaN`,
`Infinity` and `-Infinity` are read as numbers.
-/

namespace CrossCheck
namespace Json

open Text

def isBlank (c : Char) : Bool := c = ' ' || c = '\t' || c = '\n' || c = '\r'

def skipBlanks (cs : List Char) : List Char := cs.dropWhile isBlank

def isDigit (c : Char) : Bool := '0' ≤ c && c ≤ '9'

def digitValue (c : Char) : Nat := c.toNat - 0x30

def natOfDigits (ds : List Char) : Nat := ds.foldl (fun n c => n * 10 + digitValue c) 0

def hexValue? (c : Char) : Option Nat :=
  if isDigit c then some (c.toNat - 0x30)
  else if 'a' ≤ c && c ≤ 'f' then some (c.toNat - 0x57)
  else if 'A' ≤ c && c ≤ 'F' then some (c.toNat - 0x37)
  else none

def hexUnit? (a b c d : Char) : Option Nat := do
  return (((← hexValue? a) * 16 + (← hexValue? b)) * 16 + (← hexValue? c)) * 16 + (← hexValue? d)

def unescape? (c : Char) : Option Char :=
  if c = '"' || c = '\\' || c = '/' then some c
  else if c = 'b' then some '\x08'
  else if c = 'f' then some '\x0c'
  else if c = 'n' then some '\n'
  else if c = 'r' then some '\r'
  else if c = 't' then some '\t'
  else none

def isHighSurrogate (n : Nat) : Bool := 0xd800 ≤ n && n < 0xdc00

def isLowSurrogate (n : Nat) : Bool := 0xdc00 ≤ n && n < 0xe000

/-- The character of two surrogates. -/
def joinSurrogates (high low : Nat) : Char :=
  Char.ofNat (0x10000 + (high - 0xd800) * 0x400 + (low - 0xdc00))

def consChar (c : Char) (read : Option (List Char × List Char)) : Option (List Char × List Char) :=
  read.map fun (cs, rest) => (c :: cs, rest)

/-- A text after its opening quote, and what follows the closing one.  `high` is the first of two
surrogates, whose second has to come next. -/
def textBody? (high : Option Nat) : List Char → Option (List Char × List Char)
  | [] => none
  | '\\' :: 'u' :: a :: b :: c :: d :: rest =>
    match hexUnit? a b c d, high with
    | none, _ => none
    | some low, some high =>
      if isLowSurrogate low then consChar (joinSurrogates high low) (textBody? none rest) else none
    | some unit, none =>
      if isHighSurrogate unit then textBody? (some unit) rest
      else if isLowSurrogate unit then none
      else consChar (Char.ofNat unit) (textBody? none rest)
  | '\\' :: c :: rest =>
    match high, unescape? c with
    | none, some c => consChar c (textBody? none rest)
    | _, _ => none
  | c :: rest =>
    if high.isSome || c.toNat < 0x20 || c = '\\' then none
    else if c = '"' then some ([], rest)
    else consChar c (textBody? none rest)

def text? (cs : List Char) : Option (String × List Char) :=
  (textBody? none cs).map fun (s, rest) => (String.ofList s, rest)

/-- Digits after a point; at least one. -/
def fraction? : List Char → Option (List Char × List Char)
  | '.' :: cs =>
    let (ds, rest) := span isDigit cs
    if ds.isEmpty then none else some (ds, rest)
  | cs => some ([], cs)

/-- A power of ten with an optional sign. -/
def exponent? : List Char → Option (Option Int × List Char)
  | [] => some (none, [])
  | c :: cs =>
    if c = 'e' || c = 'E' then
      let (negative, cs) := Reading.takeSign cs
      let (ds, rest) := span isDigit cs
      if ds.isEmpty then none else some (some (Reading.signed negative (natOfDigits ds)), rest)
    else some (none, c :: cs)

/-- A number without its sign.  It is whole unless a point or an exponent is written, and the
digits before the point are not too many in either case. -/
def magnitude? (negative : Bool) (cs : List Char) : Option (Value × List Char) := do
  let (whole, afterWhole) := span isDigit cs
  if whole.isEmpty || (whole.head? = some '0' && whole.length ≠ 1) then none
  if longestWhole < whole.length then none
  let (fraction, afterFraction) ← fraction? afterWhole
  let (exponent, rest) ← exponent? afterFraction
  if fraction.isEmpty && exponent.isNone then
    return (.int (Reading.signed negative (natOfDigits whole)), rest)
  else
    return (.float (.ofDecimal negative (natOfDigits (whole ++ fraction))
      (exponent.getD 0 - fraction.length)), rest)

def word? (word : String) (v : Value) (cs : List Char) : Option (Value × List Char) :=
  (dropStart? word.toList cs).map fun rest => (v, rest)

/-- A value that has no parts. -/
def scalar? : List Char → Option (Value × List Char)
  | [] => none
  | c :: cs =>
    if c = '"' then (text? cs).map fun (s, rest) => (.text s, rest)
    else if c = '-' then
      (word? "Infinity" (.float (.infinite true)) cs).or (magnitude? true cs)
    else if isDigit c then magnitude? false (c :: cs)
    else
      (word? "null" .null (c :: cs)).or <| (word? "true" (.bool true) (c :: cs)).or <|
        (word? "false" (.bool false) (c :: cs)).or <|
          (word? "NaN" (.float .nan) (c :: cs)).or
            (word? "Infinity" (.float (.infinite false)) (c :: cs))

mutual

/-- A value at the start of a text.  `depth` counts the lists and records that may still be
opened around something; `fuel` is as long as the text. -/
def value? : (fuel depth : Nat) → List Char → Option (Value × List Char)
  | 0, _, _ => none
  | fuel + 1, depth, cs =>
    match skipBlanks cs with
    | '[' :: cs =>
      match skipBlanks cs with
      | ']' :: rest => some (.list [], rest)
      | cs =>
        if depth = 0 then none
        else (items? fuel (depth - 1) cs).map fun (vs, rest) => (.list vs, rest)
    | '\x7b' :: cs =>
      match skipBlanks cs with
      | '\x7d' :: rest => some (.record [], rest)
      | cs =>
        if depth = 0 then none
        else (members? fuel (depth - 1) cs).map fun (ms, rest) => (.record (Named.ofList ms), rest)
    | cs => scalar? cs

/-- The items of a list, up to its end. -/
def items? : (fuel depth : Nat) → List Char → Option (List Value × List Char)
  | 0, _, _ => none
  | fuel + 1, depth, cs => do
    let (v, rest) ← value? fuel depth cs
    match skipBlanks rest with
    | ',' :: rest =>
      let (vs, rest) ← items? fuel depth rest
      return (v :: vs, rest)
    | ']' :: rest => return ([v], rest)
    | _ => none

/-- The members of a record, up to its end. -/
def members? : (fuel depth : Nat) → List Char → Option (List (String × Value) × List Char)
  | 0, _, _ => none
  | fuel + 1, depth, cs => do
    match skipBlanks cs with
    | '"' :: cs =>
      let (name, rest) ← text? cs
      match skipBlanks rest with
      | ':' :: rest =>
        let (v, rest) ← value? fuel depth rest
        match skipBlanks rest with
        | ',' :: rest =>
          let (ms, rest) ← members? fuel depth rest
          return ((name, v) :: ms, rest)
        | '\x7d' :: rest => return ([(name, v)], rest)
        | _ => none
      | _ => none
    | _ => none

end

/-- Reads a whole text, in which at most `depth` lists and records lie around anything. -/
def readChars? (depth : Nat) (cs : List Char) : Option Value :=
  match value? (cs.length + 1) depth cs with
  | some (v, rest) => if (skipBlanks rest).isEmpty then some v else none
  | none => none

def read? (depth : Nat) (text : String) : Option Value := readChars? depth text.toList

end Json
end CrossCheck
