import CrossCheck.Database.FieldType
import CrossCheck.Proofs.Text
import CrossCheck.Proofs.Text.Run
import Mathlib.Data.List.Basic
import Mathlib.Data.List.Find
import Mathlib.Data.List.Induction

/-!
The types of columns as databases write them, and what fields of these types are.  A type is known
by how its text begins, and a list by how it ends.  What is put together from members begins like
no other type.  An array of a fixed size begins like its elements and does not end like a list, so
it is taken for what is left when all brackets are gone.
-/

namespace CrossCheck

namespace Text

/-! ## Capitals -/

theorem upperChars_append (cs ds : List Char) :
    upperChars (cs ++ ds) = upperChars cs ++ upperChars ds := List.flatMap_append

theorem upperChar_ne_nil (c : Char) : upperChar c ≠ [] := by
  have hsequences : ∀ entry ∈ upperSequences, entry.2 ≠ [] := by decide +kernel
  rw [upperChar]
  split
  · exact List.cons_ne_nil _ _
  split
  · next cs hfind => exact hsequences _ (List.mem_of_find?_eq_some hfind)
  · exact List.cons_ne_nil _ _

/-- No other character has a closing bracket in its capital form. -/
theorem eq_of_bracket_mem_upperChar {c : Char} (h : ']' ∈ upperChar c) : c = ']' := by
  have hsequences : ∀ entry ∈ upperSequences, ']' ∉ entry.2 := by decide +kernel
  apply Decidable.byContradiction
  intro hc
  rw [upperChar] at h
  split at h
  · exact toUpper_ne (by decide) hc (List.mem_singleton.1 h).symm
  split at h
  · next cs hfind => exact hsequences _ (List.mem_of_find?_eq_some hfind) h
  · exact mapCase_ne (by decide) (by decide +kernel) hc (List.mem_singleton.1 h).symm

theorem getLast?_of_upperChars {cs : List Char} (h : (upperChars cs).getLast? = some ']') :
    cs.getLast? = some ']' := by
  cases cs using List.reverseRecOn with
  | nil => exact absurd h nofun
  | append_singleton cs c =>
    rw [upperChars_append, upperChars, upperChars, List.flatMap_singleton,
      List.getLast?_append_of_ne_nil _ (upperChar_ne_nil c)] at h
    rw [List.getLast?_concat, eq_of_bracket_mem_upperChar (List.mem_of_getLast? h)]

theorem upperChar_of_isDigit {c : Char} (h : c.isDigit = true) : upperChar c = [c] := by
  simp only [Char.isDigit, Bool.and_eq_true, decide_eq_true_eq] at h
  have hhigh : c.toNat ≤ 0x39 := h.2
  have hcapital : c.toUpper = c := (toUpper_cases c).resolve_right fun hsmall => by omega
  rw [upperChar, if_pos (by omega), hcapital]

theorem upperChars_toDigits (n : Nat) : upperChars (Nat.toDigits 10 n) = Nat.toDigits 10 n := by
  have hdigits : ∀ c ∈ Nat.toDigits 10 n, upperChar c = [c] := fun c hc =>
    upperChar_of_isDigit (Nat.isDigit_of_mem_toDigits (by omega) (by omega) hc)
  rw [upperChars, List.flatMap_congr hdigits, List.flatMap_singleton']

/-! ## Beginnings -/

/-- What stands behind a character that a beginning does not have makes no difference to it. -/
theorem isSome_dropStart?_append {start : List Char} {sep : Char} (h : sep ∉ start)
    (cs rest : List Char) :
    (dropStart? start (cs ++ sep :: rest)).isSome = (dropStart? start cs).isSome := by
  induction start generalizing cs with
  | nil => rfl
  | cons s start ih =>
    rw [List.mem_cons, not_or] at h
    cases cs with
    | nil => rw [List.nil_append, dropStart?, dropStart?, if_neg h.1]
    | cons c cs =>
      rw [List.cons_append, dropStart?, dropStart?]
      split
      · exact ih h.2 cs
      · rfl

end Text

namespace Database

open Text

/-! ## Types -/

/-- The name of a type that has no parts.  It does not end like that of a list or an array. -/
structure ScalarName where
  text : String
  unbracketed : text.toList.getLast? ≠ some ']'

inductive MemberKind where
  | struct
  | map
  | union
deriving DecidableEq

def MemberKind.word : MemberKind → String
  | struct => "STRUCT"
  | map => "MAP"
  | union => "UNION"

/-- What stands between the parentheses of a type with members is kept as it is written.  These
are names and types again, nested to any depth, but nothing depends on them. -/
inductive ColumnType where
  | scalar (name : ScalarName)
  | members (kind : MemberKind) (written : String)
  | list (element : ColumnType)
  | array (element : ColumnType) (size : Nat)

namespace ColumnType

def text : ColumnType → String
  | scalar name => name.text
  | members kind written => kind.word ++ "(" ++ written ++ ")"
  | list element => element.text ++ "[]"
  | array element size => element.text ++ "[" ++ toString size ++ "]"

/-- The text denotes the type, in capitals or small letters. -/
def IsWritten (t : ColumnType) (type : String) : Prop := upper type = upper t.text

instance (t : ColumnType) (type : String) : Decidable (t.IsWritten type) :=
  inferInstanceAs (Decidable (upper type = upper t.text))

def isNested : ColumnType → Bool
  | scalar _ => false
  | _ => true

/-- The scalar type that is left when all brackets are gone. -/
def scalar? : ColumnType → Option ScalarName
  | scalar name => some name
  | members _ _ => none
  | list element => element.scalar?
  | array element _ => element.scalar?

/-- The scalar type that a type is taken for. -/
def takenFor? : ColumnType → Option ScalarName
  | scalar name => some name
  | members _ _ => none
  | list _ => none
  | array element _ => element.scalar?

end ColumnType

/-! ## Fields of these types -/

namespace FieldType

/-- The type of a field by how the type of its column begins, written in capitals. -/
def ofStart (type : List Char) : FieldType :=
  match byStart.find? fun entry => (dropStart? entry.1.toList type).isSome with
  | some (_, t) => t
  | none => unknown

theorem ofColumn_of_ne {column : String} (hcolumn : lower column ≠ "id") (type : String) :
    ofColumn column type =
      if isList (upperChars type.toList) then unknown else ofStart (upperChars type.toList) := by
  rw [ofColumn, if_neg hcolumn]
  rfl

theorem ofColumn_congr {type type' : String} (h : upper type = upper type') (column : String) :
    ofColumn column type = ofColumn column type' := by
  have hchars : upperChars type.toList = upperChars type'.toList := by
    have hlists := congrArg String.toList h
    rwa [upper, upper, String.toList_ofList, String.toList_ofList] at hlists
  rw [ofColumn, ofColumn, hchars]

theorem isList_append_brackets (cs : List Char) : isList (cs ++ ['[', ']']) = true := by
  simp [isList, dropStart?]

theorem isList_append_of_ne {c : Char} (hc : c ≠ '[') (cs : List Char) :
    isList (cs ++ [c, ']']) = false := by
  simp [isList, dropStart?, hc]

theorem isList_of_getLast? {cs : List Char} (h : cs.getLast? ≠ some ']') : isList cs = false := by
  rw [isList]
  cases hcs : cs.reverse with
  | nil => rfl
  | cons c rest =>
    rw [← List.head?_reverse, hcs, List.head?_cons, Ne, Option.some_inj] at h
    rw [dropStart?, if_neg h]
    rfl

/-- No type begins with more than what stands before a bracket. -/
theorem ofStart_append_bracket (cs rest : List Char) :
    ofStart (cs ++ '[' :: rest) = ofStart cs := by
  have hbracket : ∀ entry ∈ byStart, '[' ∉ entry.1.toList := by decide +kernel
  rw [ofStart, ofStart, List.find?_congr fun entry hentry =>
    isSome_dropStart?_append (hbracket entry hentry) cs rest]

theorem ofStart_members (kind : MemberKind) (rest : List Char) :
    ofStart (upperChars kind.word.toList ++ rest) = unknown := by
  cases kind with
  | struct | map | union => rfl

theorem upperChars_list (element : ColumnType) :
    upperChars element.list.text.toList = upperChars element.text.toList ++ ['[', ']'] := by
  rw [ColumnType.text, String.toList_append, upperChars_append]
  rfl

theorem upperChars_array (element : ColumnType) (size : Nat) :
    upperChars (element.array size).text.toList =
      upperChars element.text.toList ++ '[' :: (Nat.toDigits 10 size ++ [']']) := by
  rw [← upperChars_toDigits]
  simp only [ColumnType.text, String.toList_append, upperChars_append, Nat.toString_eq_repr,
    Nat.toList_repr, List.append_assoc]
  rfl

theorem upperChars_members (kind : MemberKind) (written : String) :
    upperChars (ColumnType.members kind written).text.toList =
      upperChars kind.word.toList ++ ('(' :: (upperChars written.toList ++ [')'])) := by
  simp only [ColumnType.text, String.toList_append, upperChars_append, List.append_assoc]
  rfl

/-- By its beginning a type is what is left of it when all brackets are gone. -/
theorem ofStart_text (t : ColumnType) :
    ofStart (upperChars t.text.toList) =
      match t.scalar? with
      | some name => ofStart (upperChars name.text.toList)
      | none => unknown := by
  induction t with
  | scalar name => rfl
  | members kind written => rw [upperChars_members, ofStart_members, ColumnType.scalar?]
  | list element ih => rw [upperChars_list, ofStart_append_bracket, ih, ColumnType.scalar?]
  | array element size ih => rw [upperChars_array, ofStart_append_bracket, ih, ColumnType.scalar?]

theorem isList_scalar (name : ScalarName) : isList (upperChars name.text.toList) = false :=
  isList_of_getLast? fun h => name.unbracketed (getLast?_of_upperChars h)

theorem isList_members (kind : MemberKind) (written : String) :
    isList (upperChars (ColumnType.members kind written).text.toList) = false := by
  rw [upperChars_members]
  refine isList_of_getLast? ?_
  rw [← List.cons_append, ← List.append_assoc, List.getLast?_concat]
  decide

/-- The last digit of its size keeps an array of a fixed size from ending like a list. -/
theorem isList_array (element : ColumnType) (size : Nat) :
    isList (upperChars (element.array size).text.toList) = false := by
  obtain ⟨digits, last, hdigits⟩ :=
    (List.eq_nil_or_concat (Nat.toDigits 10 size)).resolve_left Nat.toDigits_ne_nil
  have hlast : last.isDigit = true := by
    refine Nat.isDigit_of_mem_toDigits (n := size) (b := 10) (by omega) (by omega) ?_
    rw [hdigits, List.concat_eq_append]
    exact List.mem_concat_self
  have hne : last ≠ '[' := by
    rintro rfl
    exact absurd hlast (by decide)
  have htext : upperChars (element.array size).text.toList =
      (upperChars element.text.toList ++ '[' :: digits) ++ [last, ']'] := by
    rw [upperChars_array, hdigits]
    simp
  rw [htext, isList_append_of_ne hne]

/-- What a field is for each type that its column may have. -/
theorem ofColumn_text {column : String} (hcolumn : lower column ≠ "id") (t : ColumnType) :
    ofColumn column t.text =
      match t.takenFor? with
      | some name => ofColumn column name.text
      | none => unknown := by
  have hscalar (name : ScalarName) :
      ofColumn column name.text = ofStart (upperChars name.text.toList) := by
    rw [ofColumn_of_ne hcolumn, if_neg (Bool.eq_false_iff.1 (isList_scalar name))]
  -- Only a list is known by its end; everything else goes by its beginning.
  cases t with
  | scalar name => rfl
  | members kind written =>
    rw [ofColumn_of_ne hcolumn, if_neg (Bool.eq_false_iff.1 (isList_members kind written)),
      ofStart_text]
    rfl
  | list element =>
    rw [ofColumn_of_ne hcolumn, upperChars_list, if_pos (isList_append_brackets _)]
    rfl
  | array element size =>
    rw [ofColumn_of_ne hcolumn, if_neg (Bool.eq_false_iff.1 (isList_array element size)),
      ofStart_text]
    simp only [hscalar]
    rfl

end FieldType
end Database
end CrossCheck
