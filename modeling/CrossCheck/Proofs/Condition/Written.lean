import CrossCheck.Condition
import CrossCheck.Proofs.Text.Run
import CrossCheck.Proofs.Text.Trim

/-!
Single comparisons as they are written: a field, an operator and a value, with any blanks around
the operator.  The reader of conditions takes such a text apart into these three, and whatever it
reads is such a text.
-/

namespace CrossCheck

namespace Condition

open Text

theorem isNamePart_of_isBlank {c : Char} (h : isBlank c = true) : isNamePart c = false := by
  have hdot : c ≠ '.' := by
    rintro rfl
    exact absurd h (by decide)
  rw [isNamePart, isWord_of_isBlank h, Bool.false_or, decide_eq_false hdot]

/-! ## The text of a comparison -/

def isName : List Char → Bool
  | [] => false
  | c :: cs => isNameStart c && cs.all isNamePart

/-- A comparison as it is written.  The value may be any text. -/
structure Written where
  field : List Char
  before : List Char
  operator : List Char
  after : List Char
  value : List Char
  isName_field : isName field = true
  blank_before : before.all isBlank = true
  known_operator : operator ∈ operators.map String.toList
  blank_after : after.all isBlank = true

namespace Written

/-- The text up to the value. -/
def opening (w : Written) : List Char := w.field ++ w.before ++ w.operator ++ w.after

def chars (w : Written) : List Char := w.opening ++ w.value

/-- A comparison with a single blank on each side of the operator. -/
def spaced (field operator value : List Char) (isName_field : isName field = true)
    (known_operator : operator ∈ operators.map String.toList) : Written where
  field
  before := [' ']
  operator
  after := [' ']
  value
  isName_field
  blank_before := by decide
  known_operator
  blank_after := by decide

end Written

theorem known_equal : ['='] ∈ operators.map String.toList := by decide

theorem known_greater : ['>'] ∈ operators.map String.toList := by decide

/-- The characters that operators are made of. -/
def isMark (c : Char) : Bool := c = '!' || c = '<' || c = '>' || c = '='

theorem all_isMark_of_known {op : List Char} (h : op ∈ operators.map String.toList) :
    op.all isMark = true := by
  revert op
  decide

theorem ne_nil_of_known {op : List Char} (h : op ∈ operators.map String.toList) : op ≠ [] := by
  revert op
  decide

theorem isMark_eq_true_iff {c : Char} :
    isMark c = true ↔ c = '!' ∨ c = '<' ∨ c = '>' ∨ c = '=' := by
  simp [isMark, or_assoc]

theorem isBlank_of_isMark {c : Char} (h : isMark c = true) : isBlank c = false := by
  rcases isMark_eq_true_iff.1 h with rfl | rfl | rfl | rfl <;> decide

theorem isWord_of_isMark {c : Char} (h : isMark c = true) : isWord c = false := by
  rcases isMark_eq_true_iff.1 h with rfl | rfl | rfl | rfl <;> decide +kernel

theorem isNamePart_of_isMark {c : Char} (h : isMark c = true) : isNamePart c = false := by
  rcases isMark_eq_true_iff.1 h with rfl | rfl | rfl | rfl <;> decide +kernel

theorem isMark_of_head? {op : List Char} (h : op ∈ operators.map String.toList)
    (rest : List Char) :
    ∀ c ∈ (op ++ rest).head?, isMark c = true := by
  intro c hc
  rw [List.head?_append_of_ne_nil _ (ne_nil_of_known h)] at hc
  exact List.all_eq_true.1 (all_isMark_of_known h) c (List.mem_of_head? hc)

/-- A name ends before blanks and an operator. -/
theorem isNamePart_head {before rest : List Char} (hbefore : before.all isBlank = true)
    (hrest : ∀ c ∈ rest.head?, isMark c = true) :
    ∀ c ∈ (before ++ rest).head?, isNamePart c = false := by
  intro c hc
  cases before with
  | nil => exact isNamePart_of_isMark (hrest c hc)
  | cons b before =>
    obtain rfl : b = c := Option.some.inj hc
    exact isNamePart_of_isBlank (List.all_eq_true.1 hbefore b List.mem_cons_self)

/-! ## The characters of an opening -/

def nameStartRanges : List (Nat × Nat) := [(0x41, 0x5a), (0x5f, 0x5f), (0x61, 0x7a)]

theorem inRanges_of_isNameStart {c : Char} (h : isNameStart c = true) :
    inRanges nameStartRanges c = true := by
  simp only [isNameStart, Bool.or_eq_true, Bool.and_eq_true, decide_eq_true_eq] at h
  refine inRanges_eq_true_iff.2 ?_
  rcases h with (⟨hlow, hhigh⟩ | ⟨hlow, hhigh⟩) | rfl
  · exact ⟨(0x61, 0x7a), by decide, hlow, hhigh⟩
  · exact ⟨(0x41, 0x5a), by decide, hlow, hhigh⟩
  · exact ⟨(0x5f, 0x5f), by decide, by decide, by decide⟩

theorem isBlank_of_isNameStart {c : Char} (h : isNameStart c = true) : isBlank c = false :=
  eq_false_of_inRanges (p := isBlank) (by decide) (inRanges_of_isNameStart h)

theorem isNamePart_of_isNameStart {c : Char} (h : isNameStart c = true) : isNamePart c = true := by
  have hnot := eq_false_of_inRanges (p := fun c => !isNamePart c) (by decide +kernel)
    (inRanges_of_isNameStart h)
  simpa using hnot

theorem all_isNamePart_of_isName {cs : List Char} (h : isName cs = true) :
    cs.all isNamePart = true := by
  cases cs with
  | nil => rfl
  | cons c cs =>
    obtain ⟨hc, hcs⟩ := Bool.and_eq_true_iff.1 h
    rw [List.all_cons, isNamePart_of_isNameStart hc, hcs]
    rfl

/-- What the opening of a comparison is made of. -/
theorem Written.mem_opening {w : Written} {c : Char} (h : c ∈ w.opening) :
    isNamePart c = true ∨ isBlank c = true ∨ isMark c = true := by
  simp only [Written.opening, List.mem_append] at h
  rcases h with ((h | h) | h) | h
  · exact .inl (List.all_eq_true.1 (all_isNamePart_of_isName w.isName_field) c h)
  · exact .inr (.inl (List.all_eq_true.1 w.blank_before c h))
  · exact .inr (.inr (List.all_eq_true.1 (all_isMark_of_known w.known_operator) c h))
  · exact .inr (.inl (List.all_eq_true.1 w.blank_after c h))

theorem Written.not_mem_opening (w : Written) {c : Char} (hname : isNamePart c = false)
    (hblank : isBlank c = false) (hmark : isMark c = false) : c ∉ w.opening := fun h => by
  rcases w.mem_opening h with h | h | h
  · exact absurd (h.symm.trans hname) nofun
  · exact absurd (h.symm.trans hblank) nofun
  · exact absurd (h.symm.trans hmark) nofun

/-- An opening ends with a blank or with its operator. -/
theorem Written.last_opening {w : Written} :
    ∀ c ∈ w.opening.getLast?, isBlank c = true ∨ isMark c = true := by
  intro c hc
  rw [Written.opening] at hc
  by_cases hafter : w.after = []
  · rw [hafter, List.append_nil,
      List.getLast?_append_of_ne_nil _ (ne_nil_of_known w.known_operator)] at hc
    exact .inr (List.all_eq_true.1 (all_isMark_of_known w.known_operator) c
      (List.mem_of_getLast? hc))
  · rw [List.getLast?_append_of_ne_nil _ hafter] at hc
    exact .inl (List.all_eq_true.1 w.blank_after c (List.mem_of_getLast? hc))

/-- An opening begins with the letters of its field. -/
theorem Written.exists_field (w : Written) (rest : List Char) :
    ∃ c more, w.field = c :: more ∧ isNameStart c = true ∧ more.all isNamePart = true ∧
      w.opening ++ rest = c :: (more ++ (w.before ++ (w.operator ++ (w.after ++ rest)))) := by
  obtain ⟨field, before, op, after, value, hname, hbefore, hop, hafter⟩ := w
  cases field with
  | nil => cases hname
  | cons c more =>
    obtain ⟨hc, hmore⟩ := Bool.and_eq_true_iff.1 hname
    refine ⟨c, more, rfl, hc, hmore, ?_⟩
    simp only [opening, List.append_assoc, List.cons_append]

/-- Behind the field there is nothing that a name could go on with. -/
theorem Written.isNamePart_before (w : Written) (rest : List Char) :
    ∀ c ∈ (w.before ++ (w.operator ++ (w.after ++ rest))).head?, isNamePart c = false :=
  isNamePart_head w.blank_before (isMark_of_head? w.known_operator _)

theorem Written.isBlank_operator (w : Written) (rest : List Char) :
    ∀ c ∈ (w.operator ++ (w.after ++ rest)).head?, isBlank c = false := fun c hc =>
  isBlank_of_isMark (isMark_of_head? w.known_operator _ c hc)

theorem Written.isBlank_head (w : Written) (rest : List Char) :
    ∀ c ∈ (w.opening ++ rest).head?, isBlank c = false := by
  obtain ⟨d, more, -, hd, -, hopening⟩ := w.exists_field rest
  rw [hopening]
  rintro c ⟨⟩
  exact isBlank_of_isNameStart hd

theorem Written.trim_opening (w : Written) {rest : List Char} (h : ∃ c ∈ rest, isBlank c = false) :
    trim (w.opening ++ rest) = w.opening ++ trimRight rest := by
  rw [trim, trimLeft, dropWhile_eq_self (w.isBlank_head rest), trimRight_append _ h]

/-! ## Reading what is written -/

/-- The reader finds the field whatever comes after the operator. -/
theorem read?_opening (w : Written) (rest : List Char) :
    Simple.read? (w.opening ++ rest) =
      (Simple.splitOperator? (w.operator ++ (w.after ++ rest))).map
        fun (op, value) => ⟨w.field, op, trim value⟩ := by
  obtain ⟨c, more, hfield, hc, hmore, hopening⟩ := w.exists_field rest
  rw [hopening, hfield, Simple.read?, if_pos hc, span_append hmore (w.isNamePart_before rest)]
  dsimp only
  rw [dropWhile_append w.blank_before (w.isBlank_operator rest)]

theorem operators_toList : operators.map String.toList =
    [['!', '='], ['<', '>'], ['<', '='], ['>', '='], ['='], ['<'], ['>']] := by decide

/-- The operator is the longest that stands there, and a value follows. -/
theorem splitOperator?_longest {op after value : List Char}
    (hop : op ∈ operators.map String.toList) (hafter : after.all isBlank = true)
    (hlong : ∀ c ∈ (after ++ value).head?, c ≠ '=' ∧ c ≠ '>')
    (hvalue : ∀ c ∈ value.head?, isBlank c = false) (hne : value ≠ []) :
    Simple.splitOperator? (op ++ (after ++ value)) = some (op, value) := by
  have hdrop : (after ++ value).dropWhile isBlank = value := dropWhile_append hafter hvalue
  have hempty : value.isEmpty = false := List.isEmpty_eq_false_iff.2 hne
  obtain ⟨c, rest, hrest⟩ : ∃ c rest, after ++ value = c :: rest :=
    List.exists_cons_of_ne_nil (List.append_ne_nil_of_right_ne_nil after hne)
  rw [hrest] at hlong hdrop ⊢
  obtain ⟨hequal, hgreater⟩ := hlong c rfl
  have hsplit (cs : List Char) : Simple.splitOperator? cs =
      (operators.map String.toList).findSome? fun op =>
        (dropStart? op cs).bind fun rest =>
          let value := rest.dropWhile isBlank
          if value.isEmpty then none else some (op, value) := by
    rw [List.findSome?_map, Simple.splitOperator?]
    refine congrArg (operators.findSome? ·) (funext fun op => ?_)
    rw [Function.comp_apply]
    cases dropStart? op.toList cs <;> rfl
  rw [operators_toList] at hsplit hop
  rw [hsplit]
  -- The operators before the one that is written are refused at their first or second character.
  simp only [List.mem_cons, List.not_mem_nil, or_false] at hop
  rcases hop with rfl | rfl | rfl | rfl | rfl | rfl | rfl <;>
    simp only [List.findSome?_cons, dropStart?, List.cons_append, List.nil_append, hequal, hgreater,
      hdrop, hempty, Option.bind_some, Option.bind_none, if_true, if_false, Char.reduceEq,
      Bool.false_eq_true]

/-- No longer operator can be read where the value begins with no mark or behind a blank. -/
theorem Written.longest {w : Written} (h : ∀ c ∈ w.value.head?, c ≠ '=' ∧ c ≠ '>') :
    ∀ c ∈ (w.after ++ w.value).head?, c ≠ '=' ∧ c ≠ '>' := by
  intro c hc
  have hblank := w.blank_after
  cases hafter : w.after with
  | nil =>
    rw [hafter] at hc
    exact h c hc
  | cons b after =>
    rw [hafter] at hc hblank
    obtain rfl : b = c := Option.some.inj hc
    have hb := (Bool.and_eq_true_iff.1 hblank).1
    constructor <;> rintro rfl <;> exact absurd hb (by decide)

/-- A written comparison is read as it is meant. -/
theorem read?_written (w : Written) (hlong : ∀ c ∈ w.value.head?, c ≠ '=' ∧ c ≠ '>')
    (htrim : trim w.value = w.value) (hne : w.value ≠ []) :
    Simple.read? w.chars = some ⟨w.field, w.operator, w.value⟩ := by
  have hvalue : ∀ c ∈ w.value.head?, isBlank c = false := fun c hc =>
    isBlank_head_trim (by rw [htrim]; exact hc)
  rw [Written.chars, read?_opening,
    splitOperator?_longest w.known_operator w.blank_after (Written.longest hlong) hvalue hne,
    Option.map_some]
  dsimp only
  rw [htrim]

/-! ## What can be read -/

theorem written_of_splitOperator? {cs op value : List Char}
    (h : Simple.splitOperator? cs = some (op, value)) :
    op ∈ operators.map String.toList ∧ value ≠ [] ∧ (∀ c ∈ value.head?, isBlank c = false) ∧
      ∃ after, after.all isBlank = true ∧ cs = op ++ (after ++ value) := by
  obtain ⟨name, hname, h⟩ := List.exists_of_findSome?_eq_some h
  split at h
  · next rest hrest =>
    dsimp only at h
    split at h
    · exact absurd h nofun
    · next hne =>
      obtain ⟨rfl, rfl⟩ := Prod.mk.inj (Option.some.inj h)
      refine ⟨List.mem_map_of_mem hname, by simpa using hne, fun c hc => ?_,
        rest.takeWhile isBlank, List.all_takeWhile, ?_⟩
      · have hnot := List.head?_dropWhile_not isBlank rest
        rw [hc] at hnot
        simpa using hnot
      · rw [List.takeWhile_append_dropWhile]
        exact dropStart?_eq_some_iff.1 hrest
  · exact absurd h nofun

/-- Whatever is read from a trimmed text is written there. -/
theorem exists_written_of_read? {cs : List Char} {c : Simple} (htrim : trim cs = cs)
    (h : Simple.read? cs = some c) :
    ∃ w : Written, w.chars = cs ∧ w.field = c.field ∧ w.operator = c.operator ∧
      w.value = c.value ∧ w.value ≠ [] ∧ trim w.value = w.value := by
  cases cs with
  | nil => cases h
  | cons d cs =>
    rw [Simple.read?] at h
    split at h
    · next hd =>
      obtain ⟨⟨op, value⟩, hop, rfl⟩ := Option.map_eq_some_iff.1 h
      obtain ⟨hknown, hne, hhead, after, hafter, heq⟩ := written_of_splitOperator? hop
      have hmore : (span isNamePart cs).1.all isNamePart = true := List.all_takeWhile
      let w : Written :=
        { field := d :: (span isNamePart cs).1
          before := ((span isNamePart cs).2).takeWhile isBlank
          operator := op
          after := after
          value := value
          isName_field := Bool.and_eq_true_iff.2 ⟨hd, hmore⟩
          blank_before := List.all_takeWhile
          known_operator := hknown
          blank_after := hafter }
      have hchars : w.chars = d :: cs := by
        simp only [w, Written.chars, Written.opening, List.append_assoc, List.cons_append]
        rw [← heq]
        exact congrArg (d :: ·) ((congrArg (cs.takeWhile isNamePart ++ ·)
          List.takeWhile_append_dropWhile).trans List.takeWhile_append_dropWhile)
      have hvalue : trim value = value := by
        refine trim_eq_self (fun c hc => hhead c hc) fun c hc => ?_
        have hlast : (d :: cs).getLast? = some c := by
          rw [← hchars, Written.chars, List.getLast?_append_of_ne_nil _ hne]
          exact hc
        rw [← htrim] at hlast
        exact isBlank_last_trim hlast
      exact ⟨w, hchars, rfl, rfl, hvalue.symm, hne, hvalue⟩
    · cases h

end Condition
end CrossCheck
