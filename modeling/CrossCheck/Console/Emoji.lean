import CrossCheck.Console.Emoji.Table
import CrossCheck.Text.Basic
import CrossCheck.Text.Case

/-!
Pictures by name: `:name:` stands for a picture, and `:name-text:` and `:name-emoji:` for its plain
and its coloured form.
-/

namespace CrossCheck
namespace Console
namespace Emoji

open Text

/-- Names and pictures. -/
def table : List (List Char × List Char) :=
  (splitOn ';' (written.toList.filter (· ≠ '\n'))).flatMap fun entry =>
    match splitOn ' ' entry with
    | picture :: names => names.map fun name => (name, picture)
    | [] => []

/-- The marks of the plain and of the coloured form. -/
def forms : List (List Char × List Char) :=
  [("-text".toList, ['\ufe0e']), ("-emoji".toList, ['\ufe0f'])]

/-- The picture for what stands between the colons. -/
def picture? (code : List Char) : Option (List Char) :=
  match forms.find? fun (ending, _) => ending.reverse.isPrefixOf code.reverse with
  | some (ending, mark) =>
    (table.lookup (lowerChars (code.take (code.length - ending.length)))).map (· ++ mark)
  | none => table.lookup (lowerChars code)

/-- The code after a colon and what follows the next one; blanks end a code. -/
def code? : List Char → Option (List Char × List Char)
  | [] => none
  | c :: cs =>
    if c = ':' then some ([], cs)
    else if isBlank c then none
    else (code? cs).map fun (code, rest) => (c :: code, rest)

theorem length_code? {cs code rest : List Char} (h : code? cs = some (code, rest)) :
    rest.length < cs.length := by
  induction cs generalizing code with
  | nil => simp [code?] at h
  | cons c cs ih =>
    simp only [code?] at h
    split at h
    · obtain ⟨_, rfl⟩ := Prod.mk.inj (Option.some.inj h)
      simp
    · split at h
      · simp at h
      · obtain ⟨⟨code', rest'⟩, hc, he⟩ := Option.map_eq_some_iff.1 h
        obtain ⟨_, rfl⟩ := Prod.mk.inj he
        exact Nat.lt_succ_of_lt (ih hc)

/-- A text with its pictures.  An unknown code stays, with both its colons. -/
def draw : List Char → List Char
  | [] => []
  | c :: cs =>
    if c = ':' then
      match _h : code? cs with
      | some (code, rest) => (picture? code).getD (':' :: code ++ [':']) ++ draw rest
      | none => c :: draw cs
    else c :: draw cs
termination_by cs => cs.length
decreasing_by
  · have := length_code? _h
    simp only [List.length_cons]
    omega
  · simp
  · simp

end Emoji
end Console
end CrossCheck
