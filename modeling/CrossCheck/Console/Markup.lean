import CrossCheck.Console.Emoji
import CrossCheck.Console.Literal
import CrossCheck.Console.Style
import CrossCheck.Text.Word

/-!
Style tags in texts for the console, such as `[red]` and `[/red]`.  A backslash before a tag makes
it plain text.  On a console without colours a tag shows nothing, but tags still have to match.
Between the tags the names of pictures become pictures.
-/

namespace CrossCheck
namespace Markup

open Text

def startsTag (c : Char) : Bool := ('a' ≤ c && c ≤ 'z') || c = '#' || c = '/' || c = '@'

/-- The inside of a tag after its opening bracket, and what follows the closing one. -/
def tag? (cs : List Char) : Option (List Char × List Char) :=
  match cs with
  | [] => none
  | c :: rest =>
    if startsTag c then
      let (inside, after) := span (fun c => c ≠ ']' && c ≠ '[') rest
      match after with
      | ']' :: after => some (c :: inside, after)
      | _ => none
    else none

theorem length_tag? {cs inside after : List Char} (h : tag? cs = some (inside, after)) :
    after.length < cs.length := by
  cases cs with
  | nil => simp [tag?] at h
  | cons c rest =>
    simp only [tag?, span] at h
    split at h
    · split at h
      · next heq =>
        obtain ⟨_, rfl⟩ := Prod.mk.inj (Option.some.inj h)
        have hle := (List.dropWhile_suffix (l := rest)
          fun c => decide (c ≠ ']') && decide (c ≠ '[')).length_le
        rw [heq] at hle
        simp only [List.length_cons] at hle ⊢
        omega
      · simp at h
    · simp at h

/-- Makes tags plain: backslashes before a tag are doubled and one is added.  `count` is the number
of backslashes just read. -/
def escapeFrom (count : Nat) : List Char → List Char
  | [] => []
  | c :: cs =>
    if c = '\\' then c :: escapeFrom (count + 1) cs
    else if c = '[' && (tag? cs).isSome then
      List.replicate (count + 1) '\\' ++ c :: escapeFrom 0 cs
    else c :: escapeFrom 0 cs

/-- A text as markup that shows it.  A single backslash at the end is doubled, lest it escape a tag
that follows. -/
def escape (cs : List Char) : List Char :=
  let escaped := escapeFrom 0 cs
  match escaped.reverse with
  | '\\' :: '\\' :: _ => escaped
  | '\\' :: _ => escaped ++ ['\\']
  | _ => escaped

/-- A part of a text with tags. -/
inductive Part
  | plain (cs : List Char)
  | tag (inside : List Char)

/-- Plain text as a part, unless there is none. -/
def plainPart (cs : List Char) : List Part := if cs.isEmpty then [] else [.plain cs]

/-- The parts of a text.  `before` is the plain text just read, the last character first, and
`slashes` the number of backslashes after it.  Of two backslashes before a tag one is shown; an odd
one makes the tag plain. -/
def partsFrom (before : List Char) (slashes : Nat) : List Char → List Part
  | [] => plainPart (before.reverse ++ List.replicate slashes '\\')
  | c :: cs =>
    if c = '\\' then partsFrom before (slashes + 1) cs
    else if c = '[' then
      match _h : tag? cs with
      | some (inside, rest) =>
        plainPart before.reverse ++ plainPart (List.replicate (slashes / 2) '\\') ++
          (if slashes % 2 = 1 then .plain ('[' :: inside ++ [']']) else .tag inside) ::
            partsFrom [] 0 rest
      | none => partsFrom (c :: List.replicate (slashes - 1) '\\' ++ before) 0 cs
    else partsFrom (c :: List.replicate slashes '\\' ++ before) 0 cs
termination_by cs => cs.length
decreasing_by
  · simp
  · have := length_tag? _h
    simp only [List.length_cons]
    omega
  · simp
  · simp

/-- Why a text with tags cannot be shown. -/
inductive Fault
  /-- A closing tag has nothing to close, or closes a tag whose parameter cannot be read. -/
  | tag
  /-- A part of a colour is no number. -/
  | color
deriving DecidableEq

/-- A tag that is not closed yet. -/
structure Opened where
  style : List Char
  parameter : Option (List Char)
  /-- How many characters are shown before it. -/
  start : Nat

/-- The arguments in the parameter of a handler.  A name may come before them, or stand alone; any
other parameter is all argument. -/
def handlerArguments (parameter : List Char) : List Char :=
  let (_, rest) := span (fun c => isWord c || c = '.') parameter
  match rest with
  | [] => ['(', ')']
  | '(' :: arguments =>
    if arguments.getLast? = some ')' && !arguments.contains '\n' then rest else parameter
  | _ => parameter

/-- Whether a handler's parameter can be read. -/
def isHandler (parameter : List Char) : Bool :=
  Console.Literal.isLiteral (handlerArguments (trim parameter))

/-- Whether a tag can be closed. -/
def Opened.closes (o : Opened) : Bool :=
  o.style.head? ≠ some '@' || ((o.parameter.filter (!·.isEmpty)).map isHandler).getD true

/-- Whether the style of a tag can be applied to what stands in it.  A parameter belongs to the
style, except in a handler that is closed. -/
def Opened.isBroken (o : Opened) (closed : Bool) : Bool :=
  if closed && o.style.head? = some '@' then false
  else match o.parameter with
    | none => false
    | some parameter => Console.Style.isBroken (o.style ++ ' ' :: parameter)

/-- What a text with tags shows. -/
structure Shown where
  chars : List Char
  /-- Whether the style of a tag cannot be applied to what stands in it.  This shows only when the
  text is drawn. -/
  broken : Bool
  /-- Whether the same holds of a tag in which nothing stands. -/
  brokenEmpty : Bool

/-- Takes the first tag of a style out of the open ones. -/
def close? (style : List Char) : List Opened → Option (Opened × List Opened)
  | [] => none
  | o :: os =>
    if o.style = style then some (o, os)
    else (close? style os).map fun (closed, os) => (closed, o :: os)

/-- Characters that no console shows. -/
def isDropped (c : Char) : Bool :=
  c = '\x07' || c = '\x08' || c = '\x0b' || c = '\x0c' || c = '\r'

def visible (cs : List Char) : List Char := cs.filter fun c => !isDropped c

/-- What parts have shown so far, the last character first, and the tags that are open, the last one
first. -/
structure Progress where
  shown : List Char
  tags : List Opened
  broken : Bool
  brokenEmpty : Bool

namespace Progress

/-- Applies the style of a tag to what is shown since. -/
def apply (p : Progress) (o : Opened) (closed : Bool) : Progress :=
  if !o.isBroken closed then p
  else if o.start < p.shown.length then { p with broken := true }
  else { p with brokenEmpty := true }

def closeTag (p : Progress) (o : Opened) (tags : List Opened) : Except Fault Progress :=
  if o.closes then .ok ({ p with tags }.apply o true) else .error .tag

/-- Opens or closes a tag. -/
def tag (p : Progress) (inside : List Char) : Except Fault Progress :=
  match cut '=' inside with
  | ('/' :: name, _) =>
    if (trim name).isEmpty then
      match p.tags with
      | [] => .error .tag
      | o :: os => p.closeTag o os
    else match Console.Style.normalize? (trim name) with
      | none => .error .color
      | some style =>
        match close? style p.tags with
        | none => .error .tag
        | some (o, os) => p.closeTag o os
  | (name, parameter) =>
    match Console.Style.normalize? name with
    | none => .error .color
    | some style => .ok { p with tags := ⟨style, parameter, p.shown.length⟩ :: p.tags }

def parts (p : Progress) : List Part → Except Fault Progress
  | [] => .ok p
  | .plain cs :: rest =>
    parts { p with shown := (visible (Console.Emoji.draw cs)).reverse ++ p.shown } rest
  | .tag inside :: rest => do parts (← p.tag inside) rest

end Progress

/-- What a text with tags shows.  Tags that are left open end with the text. -/
def read (cs : List Char) : Except Fault Shown :=
  if cs.contains '[' then
    match Progress.parts ⟨[], [], false, false⟩ (partsFrom [] 0 cs) with
    | .error e => .error e
    | .ok p =>
      let p := p.tags.foldl (fun p o => p.apply o false) p
      .ok ⟨p.shown.reverse, p.broken, p.brokenEmpty⟩
  else .ok ⟨visible (Console.Emoji.draw cs), false, false⟩

end Markup
end CrossCheck
