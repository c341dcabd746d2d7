import CrossCheck.Text.Basic
import CrossCheck.Text.Word

/-!
Data written out: numbers, texts, bytes, the words `None`, `True` and `False`, and what is built of
them with parentheses and braces.  The arguments of a handler in a tag have to be such data; what
they are is of no matter.
-/

namespace CrossCheck
namespace Console
namespace Literal

open Text

/-- What a written value is, as far as it decides where it may stand. -/
inductive Kind
  /-- A number without a sign. -/
  | number (imaginary : Bool)
  /-- A number after a sign. -/
  | signed (imaginary : Bool)
  /-- Anything else.  Only what is keyed may be an element of a set or a key. -/
  | other (keyed : Bool)
deriving DecidableEq

namespace Kind

def isKeyed : Kind → Bool
  | other keyed => keyed
  | _ => true

/-- Whether an imaginary number may be added to it. -/
def isReal : Kind → Bool
  | number imaginary | signed imaginary => !imaginary
  | other _ => false

end Kind

/-- A value of a kind at the start of a text, and what follows it. -/
abbrev Reading := Option (Kind × List Char)

/-- What follows blanks, broken lines and a comment.  Inside brackets the end of a line is a blank,
too. -/
def skip (enclosed comment : Bool) : List Char → List Char
  | [] => []
  | '\n' :: cs => if enclosed then skip enclosed false cs else '\n' :: cs
  | '\\' :: '\n' :: cs =>
    if comment then skip enclosed false ('\n' :: cs) else skip enclosed false cs
  | c :: cs =>
    if comment then skip enclosed true cs
    else if c = '#' then skip enclosed true cs
    else if c = ' ' || c = '\t' || c = '\x0c' then skip enclosed false cs
    else c :: cs

/-! ## Numbers -/

def isDigit (c : Char) : Bool := '0' ≤ c && c ≤ '9'

/-- Digits of a base, each but the first maybe after one underscore. -/
def takeDigits (isDigit : Char → Bool) : List Char → List Char × List Char
  | [] => ([], [])
  | c :: '_' :: d :: cs =>
    if !isDigit c then ([], c :: '_' :: d :: cs)
    else if isDigit d then
      let (ds, rest) := takeDigits isDigit (d :: cs)
      (c :: ds, rest)
    else ([c], '_' :: d :: cs)
  | c :: cs =>
    if isDigit c then
      let (ds, rest) := takeDigits isDigit cs
      (c :: ds, rest)
    else ([], c :: cs)

/-- The digits of a number in base 2, 8 or 16 after its letter.  An underscore may come first. -/
def based? (isDigit : Char → Bool) (cs : List Char) : Option (List Char) :=
  let cs := match cs with
    | '_' :: cs => cs
    | cs => cs
  let (ds, rest) := takeDigits isDigit cs
  if ds.isEmpty then none else some rest

def exponent? (cs : List Char) : Option (List Char) :=
  match cs with
  | e :: cs =>
    if e ≠ 'e' && e ≠ 'E' then none
    else
      let digits := match cs with
        | '+' :: cs | '-' :: cs => cs
        | cs => cs
      let (ds, rest) := takeDigits isDigit digits
      if ds.isEmpty then none else some rest
  | [] => none

/-- A whole number of more digits than this cannot be read. -/
def longestInt : Nat := 4300

def decimal? (cs : List Char) : Reading :=
  let (whole, afterWhole) := takeDigits isDigit cs
  let (fraction, afterFraction) := match afterWhole with
    | '.' :: cs => let (ds, rest) := takeDigits isDigit cs; (some ds, rest)
    | cs => (none, cs)
  let afterExponent := exponent? afterFraction
  let rest := afterExponent.getD afterFraction
  if whole.isEmpty && (fraction.getD []).isEmpty then none
  else match rest with
    | 'j' :: rest | 'J' :: rest => some (.number true, rest)
    | rest =>
      let isWhole := fraction.isNone && afterExponent.isNone
      let badZero := whole.head? = some '0' && whole.any (· ≠ '0')
      if isWhole && (badZero || longestInt < whole.length) then none
      else some (.number false, rest)

def isHexDigit (c : Char) : Bool := isDigit c || ('a' ≤ c && c ≤ 'f') || ('A' ≤ c && c ≤ 'F')

/-- A number without a sign.  No letter may follow at once. -/
def number? (cs : List Char) : Reading := do
  let based isDigit cs := (based? isDigit cs).map fun rest => (Kind.number false, rest)
  let (kind, rest) ← match cs with
    | '0' :: 'x' :: cs | '0' :: 'X' :: cs => based isHexDigit cs
    | '0' :: 'o' :: cs | '0' :: 'O' :: cs => based (fun c => '0' ≤ c && c ≤ '7') cs
    | '0' :: 'b' :: cs | '0' :: 'B' :: cs => based (fun c => c = '0' || c = '1') cs
    | cs => decimal? cs
  match rest with
  | c :: _ => if isWord c || 0x80 ≤ c.toNat then none else some (kind, rest)
  | [] => some (kind, rest)

/-! ## Texts -/

/-- What a text in quotes may hold. -/
structure Quoting where
  mark : Char
  /-- Whether three marks stand on either side. -/
  long : Bool
  raw : Bool
  bytes : Bool
deriving DecidableEq

/-- The number that hexadecimal digits are, if they are as many as they should be. -/
def hexValue? (count : Nat) (cs : List Char) : Option Nat :=
  let ds := cs.take count
  if ds.length = count && ds.all isHexDigit then
    some (ds.foldl (fun n c =>
      16 * n + (if isDigit c then c.toNat - 0x30 else (c.toNat ||| 0x20) - 0x57)) 0)
  else none

/-- A character by its name after `\N`; only the form of the name is looked at. -/
def isCharName (cs : List Char) : Bool :=
  match cs with
  | '\x7b' :: cs =>
    match cut '\x7d' cs with
    | (name, some _) => !name.isEmpty && name.all fun c =>
        c = ' ' || c = '-' || c.isAlphanum
    | (_, none) => false
  | _ => false

/-- Whether what follows a backslash can be read. -/
def canEscape (q : Quoting) : List Char → Bool
  | 'x' :: cs => q.raw || (hexValue? 2 cs).isSome
  | 'u' :: cs => q.raw || q.bytes || (hexValue? 4 cs).isSome
  | 'U' :: cs => q.raw || q.bytes || (hexValue? 8 cs).any (· ≤ 0x10ffff)
  | 'N' :: cs => q.raw || q.bytes || isCharName cs
  | _ => true

/-- What follows the closing quote. -/
def afterQuoted? (q : Quoting) : List Char → Option (List Char)
  | [] => none
  | '\\' :: cs =>
    if !canEscape q cs then none
    else match cs with
      | [] => none
      | c :: cs => if q.bytes && 0x80 ≤ c.toNat then none else afterQuoted? q cs
  | c :: cs =>
    if c = q.mark then
      if !q.long then some cs
      else match cs with
        | a :: b :: rest =>
          if a = q.mark && b = q.mark then some rest else afterQuoted? q (a :: b :: rest)
        | _ => none
    else if c = '\n' && !q.long then none
    else if q.bytes && 0x80 ≤ c.toNat then none
    else afterQuoted? q cs

/-- The letters before a quote, and whether they make bytes or a raw text. -/
def prefixes : List (List Char × Bool × Bool) :=
  [([], false, false), (['u'], false, false), (['r'], false, true), (['b'], true, false),
   (['b', 'r'], true, true), (['r', 'b'], true, true)]

/-- A text in quotes: whether it is bytes, and what follows it. -/
def quoted? (cs : List Char) : Option (Bool × List Char) := do
  let (letters, rest) := span Char.isAlpha cs
  let (bytes, raw) ← prefixes.lookup (letters.map Char.toLower)
  match rest with
  | mark :: rest =>
    if mark ≠ '\'' && mark ≠ '"' then none
    let read long rest := (afterQuoted? ⟨mark, long, raw, bytes⟩ rest).map fun rest => (bytes, rest)
    match rest with
    | a :: b :: after => if a = mark && b = mark then read true after else read false rest
    | _ => read false rest
  | [] => none

/-- Texts one after another, which are one text; bytes join bytes only. -/
def quotedAll? (enclosed : Bool) : (fuel : Nat) → List Char → Option (Bool × List Char)
  | 0, _ => none
  | fuel + 1, cs => do
    let (bytes, rest) ← quoted? cs
    let next := skip enclosed false rest
    match next with
    | [] => return (bytes, rest)
    | c :: _ =>
      if c = '\'' || c = '"' || (c.isAlpha && (quoted? next).isSome) then
        let (same, rest) ← quotedAll? enclosed fuel next
        if same = bytes then return (bytes, rest) else none
      else return (bytes, rest)

/-! ## Values -/

def words : List (List Char) := ["None".toList, "True".toList, "False".toList]

/-- A word, or the empty set. -/
def word? (enclosed : Bool) (cs : List Char) : Reading :=
  let (word, rest) := span isWord cs
  if words.contains word then some (.other true, rest)
  else if word = "set".toList then
    match skip enclosed false rest with
    | '(' :: rest =>
      match skip true false rest with
      | ')' :: rest => some (.other false, rest)
      | _ => none
    | _ => none
  else none

/-- So many brackets may stand around anything. -/
def deepest : Nat := 200

mutual

/-- A value without a sign.  `depth` counts the brackets that may still be opened; `fuel` is as
long as the text. -/
def atom? (enclosed : Bool) : (fuel depth : Nat) → List Char → Reading
  | 0, _, _ => none
  | fuel + 1, depth, cs =>
    match cs with
    | [] => none
    | '(' :: cs =>
      if depth = 0 then none
      else match skip true false cs with
        | ')' :: rest => some (.other true, rest)
        | cs => group? fuel (depth - 1) none cs
    | '\x7b' :: cs =>
      if depth = 0 then none
      else match skip true false cs with
        | '\x7d' :: rest => some (.other false, rest)
        | cs => braces? fuel (depth - 1) none cs
    | '.' :: '.' :: '.' :: rest => some (.other true, rest)
    | c :: _ =>
      if isDigit c || c = '.' then number? cs
      else match quotedAll? enclosed fuel cs with
        | some (_, rest) => some (.other true, rest)
        | none => word? enclosed cs
termination_by structural fuel => fuel

/-- A value that may be a number with a sign, or the sum of a real number and an imaginary one. -/
def value? (enclosed : Bool) : (fuel depth : Nat) → List Char → Reading
  | 0, _, _ => none
  | fuel + 1, depth, cs => do
    let (kind, rest) ← match cs with
      | '+' :: cs | '-' :: cs =>
        match ← atom? enclosed fuel depth (skip enclosed false cs) with
        | (.number imaginary, rest) => some (.signed imaginary, rest)
        | _ => none
      | cs => atom? enclosed fuel depth cs
    match skip enclosed false rest with
    | '+' :: cs | '-' :: cs =>
      match kind.isReal, ← atom? enclosed fuel depth (skip enclosed false cs) with
      | true, (.number true, rest) => return (.other true, rest)
      | _, _ => none
    | _ => return (kind, rest)
termination_by structural fuel => fuel

/-- What stands in parentheses: one value, or several that are keyed together; `before` says
whether the ones before are. -/
def group? : (fuel depth : Nat) → (before : Option Bool) → List Char → Reading
  | 0, _, _, _ => none
  | fuel + 1, depth, before, cs => do
    let (kind, rest) ← value? true fuel depth cs
    let keyed := before.getD true && kind.isKeyed
    match skip true false rest with
    | ')' :: rest => return (if before.isNone then kind else .other keyed, rest)
    | ',' :: rest =>
      match skip true false rest with
      | ')' :: rest => return (.other keyed, rest)
      | cs => group? fuel depth (some keyed) cs
    | _ => none
termination_by structural fuel => fuel

/-- What stands in braces: the elements of a set, or keys with their values; `keys` says which, once
it is known. -/
def braces? : (fuel depth : Nat) → (keys : Option Bool) → List Char → Reading
  | 0, _, _, _ => none
  | fuel + 1, depth, keys, cs => do
    let (kind, rest) ← value? true fuel depth cs
    if !kind.isKeyed then none
    let (isKey, rest) ← match skip true false rest with
      | ':' :: rest =>
        let (_, rest) ← value? true fuel depth (skip true false rest)
        some (true, rest)
      | rest => some (false, rest)
    if keys.any (· ≠ isKey) then none
    match skip true false rest with
    | '\x7d' :: rest => return (.other false, rest)
    | ',' :: rest =>
      match skip true false rest with
      | '\x7d' :: rest => return (.other false, rest)
      | cs => braces? fuel depth (some isKey) cs
    | _ => none
termination_by structural fuel => fuel

end

/-- Values with commas between them. -/
def values? : (fuel : Nat) → List Char → Option (List Char)
  | 0, _ => none
  | fuel + 1, cs => do
    let (_, rest) ← value? false (fuel + 1) deepest cs
    match skip false false rest with
    | ',' :: rest =>
      match skip false false rest with
      | [] => return []
      | '\n' :: rest => return '\n' :: rest
      | cs => values? fuel cs
    | rest => return rest

/-- Whether a text is data written out: a value, or several with commas between them. -/
def isLiteral (cs : List Char) : Bool :=
  let cs := (unifyLineEnds cs).dropWhile fun c => c = ' ' || c = '\t'
  !cs.contains '\x00' &&
    match values? (2 * cs.length + 2) cs with
    | some rest => (skip true false rest).isEmpty
    | none => false

end Literal
end Console
end CrossCheck
