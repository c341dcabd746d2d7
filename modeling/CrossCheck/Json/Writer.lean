import CrossCheck.Number.Notation
import CrossCheck.Text.Half
import CrossCheck.Value

/-!
Writing JSON texts: on one line, as files are stored, or over indented lines, as reports are
printed.
-/

namespace CrossCheck
namespace Json

open Text

def hexUnit (n : Nat) : List Char := hexDigits 4 n

/-- What a character has a short name for. -/
def shortEscape? (c : Char) : Option Char :=
  if c = '"' || c = '\\' then some c
  else if c = '\x08' then some 'b'
  else if c = '\x0c' then some 'f'
  else if c = '\n' then some 'n'
  else if c = '\r' then some 'r'
  else if c = '\t' then some 't'
  else none

/-- A character as its number, or as those of two surrogates, of which a half has one. -/
def numberEscape (c : Char) : List Char :=
  let n := (halfUnit? c).getD c.toNat
  if n < 0x10000 then '\\' :: 'u' :: hexUnit n
  else
    '\\' :: 'u' :: hexUnit (0xd800 + (n - 0x10000) / 0x400) ++
      '\\' :: 'u' :: hexUnit (0xdc00 + (n - 0x10000) % 0x400)

/-- `plain` tells which characters stand for themselves unless they have a short name. -/
def escapeWith (plain : Char → Bool) (c : Char) : List Char :=
  match shortEscape? c with
  | some e => ['\\', e]
  | none => if plain c then [c] else numberEscape c

def isPlainAscii (c : Char) : Bool := 0x20 ≤ c.toNat && c.toNat < 0x7f

def isPlain (c : Char) : Bool := 0x20 ≤ c.toNat

def textWith (plain : Char → Bool) (cs : List Char) : List Char :=
  '"' :: cs.flatMap (escapeWith plain) ++ ['"']

/-- A moment, with `Z` for universal time. -/
def moment (t : Timestamp) : List Char :=
  if t.zoneMinutes = some 0 then { t with zoneMinutes := none : Timestamp }.iso ++ ['Z'] else t.iso

/-- Bytes are written as the text that they encode, if they encode one. -/
def textOfBytes? (bs : List UInt8) : Option String := String.fromUTF8? ⟨bs.toArray⟩

mutual

/-- Whether all bytes in a value encode texts and all its whole numbers fit. -/
def isWritableWith (fits : Int → Bool) : Value → Bool
  | .int n => fits n
  | .bytes bs => (textOfBytes? bs).isSome
  | .list vs => areWritable fits vs
  | .record ms => membersAreWritable fits ms
  | _ => true

def areWritable (fits : Int → Bool) : List Value → Bool
  | [] => true
  | v :: vs => isWritableWith fits v && areWritable fits vs

def membersAreWritable (fits : Int → Bool) : List (String × Value) → Bool
  | [] => true
  | (_, v) :: ms => isWritableWith fits v && membersAreWritable fits ms

end

/-- Reports show whole numbers of any size. -/
def isWritable (v : Value) : Bool := isWritableWith (fun _ => true) v

/-- Files keep only whole numbers that can be read again. -/
def isReadable (n : Int) : Bool := (natText n.natAbs).length ≤ longestWhole

def isStorable (v : Value) : Bool := isWritableWith isReadable v

/-- The text of a value that has no parts.  Values that JSON does not have are written as
texts. -/
def scalarWith (plain : Char → Bool) (style : FloatNotation) : Value → List Char
  | .null => ['n', 'u', 'l', 'l']
  | .bool b => if b then ['t', 'r', 'u', 'e'] else ['f', 'a', 'l', 's', 'e']
  | .int n => intText n
  | .float x => style.text Binary64.shortest x
  | .decimal d => textWith plain d.text.toList
  | .text s => textWith plain s.toList
  | .date d => textWith plain d.iso
  | .time t => textWith plain t.iso
  | .timestamp t => textWith plain (moment t)
  | .bytes bs => textWith plain ((textOfBytes? bs).getD "").toList
  | .list _ | .record _ => []

mutual

/-- One line, with a blank after every comma and colon. -/
def line (plain : Char → Bool) : Value → List Char
  | .list vs => '[' :: joinWith [',', ' '] (lines plain vs) ++ [']']
  | .record ms => '\x7b' :: joinWith [',', ' '] (memberLines plain ms) ++ ['\x7d']
  | v => scalarWith plain .storedJson v

def lines (plain : Char → Bool) : List Value → List (List Char)
  | [] => []
  | v :: vs => line plain v :: lines plain vs

def memberLines (plain : Char → Bool) : List (String × Value) → List (List Char)
  | [] => []
  | (name, v) :: ms =>
    (textWith plain name.toList ++ ':' :: ' ' :: line plain v) :: memberLines plain ms

end

/-- Parts between brackets, each on a line of its own. -/
def block (opening closing : Char) (indent : Nat) (parts : List (List Char)) : List Char :=
  if parts.isEmpty then [opening, closing]
  else
    let inner := List.replicate (indent + 2) ' '
    opening :: '\n' :: joinWith [',', '\n'] (parts.map (inner ++ ·)) ++
      '\n' :: List.replicate indent ' ' ++ [closing]

mutual

/-- Indented by two blanks a level. -/
def indented (indent : Nat) : Value → List Char
  | .list vs => block '[' ']' indent (indentedAll (indent + 2) vs)
  | .record ms => block '\x7b' '\x7d' indent (indentedMembers (indent + 2) ms)
  | v => scalarWith isPlain .reportJson v

def indentedAll (indent : Nat) : List Value → List (List Char)
  | [] => []
  | v :: vs => indented indent v :: indentedAll indent vs

def indentedMembers (indent : Nat) : List (String × Value) → List (List Char)
  | [] => []
  | (name, v) :: ms =>
    (textWith isPlain name.toList ++ ':' :: ' ' :: indented indent v) :: indentedMembers indent ms

end

/-- The form of stored files, in ASCII. -/
def writeLine (v : Value) : String := String.ofList (line isPlainAscii v)

/-- The form of files that people edit, in which letters of any script stand for themselves. -/
def writeOpenLine (v : Value) : String := String.ofList (line isPlain v)

/-- The form of printed reports. -/
def writeIndented (v : Value) : String := String.ofList (indented 0 v)

end Json
end CrossCheck
