import CrossCheck.Export.Csv
import CrossCheck.Proofs.Text.Join

/-!
Reading rows of comma-separated fields back.  The reader looks at one character at a time and knows
nothing of how the rows were written; it forgives what it would not have written itself.  Whatever
the fields are, as long as none of them holds a carriage return, rows are read as they were written.
-/

namespace CrossCheck
namespace Csv

/-! ## The reader -/

/-- Where a reader is: before a row, there right after a carriage return, before another field, in
a field, between quotes, or right after a quote that may be the closing one. -/
inductive Place where
  | start
  | returned
  | field
  | plain
  | quoted
  | quote
deriving DecidableEq

/-- A reader with the fields of the row so far and what it has of the next one. -/
structure Reader where
  place : Place
  fields : List String
  text : List Char

namespace Reader

def begin : Reader := ⟨.start, [], []⟩

/-- The fields, together with the one that ends here. -/
def closed (r : Reader) : List String := r.fields ++ [String.ofList r.text]

/-- A character that no quotes are around. -/
def unquoted (r : Reader) (c : Char) : Reader × List (List String) :=
  if c = ',' then (⟨.field, r.closed, []⟩, [])
  else if c = '\n' then (begin, [r.closed])
  else if c = '\r' then (⟨.returned, [], []⟩, [r.closed])
  else (⟨.plain, r.fields, r.text ++ [c]⟩, [])

/-- A quote counts as one only where a field begins. -/
def first (r : Reader) (c : Char) : Reader × List (List String) :=
  if c = '"' then (⟨.quoted, r.fields, r.text⟩, []) else r.unquoted c

/-- A line that has nothing in it is a row without fields. -/
def initial (r : Reader) (c : Char) : Reader × List (List String) :=
  if c = '\n' then (begin, [[]])
  else if c = '\r' then (⟨.returned, [], []⟩, [[]])
  else r.first c

/-- What a character does, and the row that it ends if it ends one. -/
def step (r : Reader) (c : Char) : Reader × List (List String) :=
  match r.place with
  | .start => r.initial c
  | .returned => if c = '\n' then (begin, []) else r.initial c
  | .field => r.first c
  | .plain => r.unquoted c
  | .quoted =>
    if c = '"' then (⟨.quote, r.fields, r.text⟩, [])
    else (⟨.quoted, r.fields, r.text ++ [c]⟩, [])
  | .quote => if c = '"' then (⟨.quoted, r.fields, r.text ++ [c]⟩, []) else r.unquoted c

/-- The row that a text without a last line feed ends in. -/
def rest (r : Reader) : List (List String) :=
  match r.place with
  | .start | .returned => []
  | _ => [r.closed]

def rows (r : Reader) : List Char → List (List String)
  | [] => r.rest
  | c :: cs => (r.step c).2 ++ (r.step c).1.rows cs

/-- Where a comma or a line feed ends the field. -/
def Closes (r : Reader) : Prop := r.place = .field ∨ r.place = .plain ∨ r.place = .quote

variable {r : Reader}

theorem Closes.step (h : r.Closes) {c : Char} (hc : c ≠ '"') : r.step c = r.unquoted c := by
  rcases h with h | h | h
  · rw [Reader.step, h]
    exact if_neg hc
  · rw [Reader.step, h]
  · rw [Reader.step, h]
    exact if_neg hc

theorem Closes.rows_comma (h : r.Closes) (cs : List Char) :
    r.rows (',' :: cs) = rows ⟨.field, r.closed, []⟩ cs := by
  rw [rows, h.step (by decide), unquoted, if_pos rfl]
  rfl

theorem Closes.rows_lineFeed (h : r.Closes) (cs : List Char) :
    r.rows ('\n' :: cs) = r.closed :: begin.rows cs := by
  rw [rows, h.step (by decide), unquoted, if_neg (by decide), if_pos rfl]
  rfl

/-! ## Fields -/

/-- Characters that a field can hold without quotes. -/
def IsBare (c : Char) : Prop := c ≠ ',' ∧ c ≠ '"' ∧ c ≠ '\n' ∧ c ≠ '\r'

theorem unquoted_bare (r : Reader) {c : Char} (hc : IsBare c) :
    r.unquoted c = (⟨.plain, r.fields, r.text ++ [c]⟩, []) := by
  rw [unquoted, if_neg hc.1, if_neg hc.2.2.1, if_neg hc.2.2.2]

theorem rows_plain (fields : List String) (text : List Char) {cs : List Char}
    (hcs : ∀ c ∈ cs, IsBare c) (after : List Char) :
    rows ⟨.plain, fields, text⟩ (cs ++ after) = rows ⟨.plain, fields, text ++ cs⟩ after := by
  induction cs generalizing text with
  | nil => rw [List.nil_append, List.append_nil]
  | cons c cs ih =>
    obtain ⟨hc, hcs⟩ := List.forall_mem_cons.1 hcs
    have hstep : step ⟨.plain, fields, text⟩ c = (⟨.plain, fields, text ++ [c]⟩, []) :=
      unquoted_bare _ hc
    rw [List.cons_append, rows, hstep, List.nil_append, ih _ hcs, List.append_assoc]
    rfl

/-- Between quotes every character stands for itself, and a quote is written twice. -/
def doubled (cs : List Char) : List Char := cs.flatMap fun c => if c = '"' then ['"', '"'] else [c]

theorem rows_quoted (fields : List String) (text cs after : List Char) :
    rows ⟨.quoted, fields, text⟩ (doubled cs ++ after) =
      rows ⟨.quoted, fields, text ++ cs⟩ after := by
  induction cs generalizing text with
  | nil => rw [List.append_nil, doubled, List.flatMap_nil, List.nil_append]
  | cons c cs ih =>
    rw [doubled, List.flatMap_cons, ← doubled, List.append_assoc]
    by_cases hc : c = '"'
    · have hopen : step ⟨.quoted, fields, text⟩ '"' = (⟨.quote, fields, text⟩, []) := rfl
      have hagain : step ⟨.quote, fields, text⟩ '"' = (⟨.quoted, fields, text ++ ['"']⟩, []) := rfl
      rw [if_pos hc, hc, List.cons_append, List.singleton_append, rows, hopen, List.nil_append,
        rows, hagain, List.nil_append, ih, List.append_assoc]
      rfl
    · have hstep : step ⟨.quoted, fields, text⟩ c = (⟨.quoted, fields, text ++ [c]⟩, []) := by
        show (if c = '"' then _ else _) = _
        rw [if_neg hc]
      rw [if_neg hc, List.singleton_append, rows, hstep, List.nil_append, ih, List.append_assoc]
      rfl

theorem field_eq (s : String) :
    field s = if s.toList.any (fun c => c = ',' || c = '"' || c = '\n') then
      '"' :: doubled s.toList ++ ['"'] else s.toList := rfl

/-- A field is read up to its end, where nothing but its text is left of it. -/
theorem rows_field (fields : List String) {s : String} (hs : '\r' ∉ s.toList) (after : List Char) :
    ∃ place, Closes ⟨place, fields, s.toList⟩ ∧
      rows ⟨.field, fields, []⟩ (field s ++ after) = rows ⟨place, fields, s.toList⟩ after := by
  rw [field_eq]
  by_cases hquotes : (s.toList.any fun c => c = ',' || c = '"' || c = '\n') = true
  · have hopen : step ⟨.field, fields, []⟩ '"' = (⟨.quoted, fields, []⟩, []) := rfl
    have hclose : step ⟨.quoted, fields, s.toList⟩ '"' = (⟨.quote, fields, s.toList⟩, []) := rfl
    refine ⟨.quote, .inr (.inr rfl), ?_⟩
    rw [if_pos hquotes, List.append_assoc, List.cons_append, rows, hopen, List.nil_append,
      rows_quoted, List.nil_append, List.singleton_append, rows, hclose, List.nil_append]
  · rw [if_neg hquotes]
    have hbare : ∀ c ∈ s.toList, IsBare c := by
      intro c hc
      simp only [List.any_eq_true, Bool.or_eq_true, decide_eq_true_eq, not_exists, not_and,
        not_or] at hquotes
      obtain ⟨⟨hcomma, hquote⟩, hfeed⟩ := hquotes c hc
      exact ⟨hcomma, hquote, hfeed, fun hreturn => hs (hreturn ▸ hc)⟩
    cases hchars : s.toList with
    | nil => exact ⟨.field, .inl rfl, rfl⟩
    | cons c cs =>
      rw [hchars] at hbare
      obtain ⟨hc, hcs⟩ := List.forall_mem_cons.1 hbare
      have hstep : step ⟨.field, fields, []⟩ c = (⟨.plain, fields, [c]⟩, []) := by
        show (if c = '"' then _ else _) = _
        rw [if_neg hc.2.1, unquoted_bare _ hc]
        rfl
      refine ⟨.plain, .inr (.inl rfl), ?_⟩
      rw [List.cons_append, rows, hstep, List.nil_append, rows_plain _ _ hcs]
      rfl

end Reader

/-! ## Rows -/

open Reader

/-- Fields that can be read back. -/
def IsReadable (fields : List String) : Prop := ∀ s ∈ fields, '\r' ∉ s.toList

theorem rows_joined (before : List String) {s : String} {fields : List String}
    (h : IsReadable (s :: fields)) (after : List Char) :
    Reader.rows ⟨.field, before, []⟩
        (Text.joinWith [','] ((s :: fields).map field) ++ '\n' :: after) =
      (before ++ s :: fields) :: begin.rows after := by
  induction fields generalizing before s with
  | nil =>
    obtain ⟨hs, -⟩ := List.forall_mem_cons.1 h
    obtain ⟨place, hcloses, hrows⟩ := rows_field before hs ('\n' :: after)
    rw [List.map_singleton, Text.joinWith, hrows, hcloses.rows_lineFeed, closed,
      String.ofList_toList]
  | cons next fields ih =>
    obtain ⟨hs, hfields⟩ := List.forall_mem_cons.1 h
    obtain ⟨place, hcloses, hrows⟩ := rows_field before hs
      (',' :: (Text.joinWith [','] ((next :: fields).map field) ++ '\n' :: after))
    have hjoin : Text.joinWith [','] ((s :: next :: fields).map field) ++ '\n' :: after =
        field s ++ ',' :: (Text.joinWith [','] ((next :: fields).map field) ++ '\n' :: after) := by
      rw [List.map_cons, List.map_cons, Text.joinWith_cons_cons, List.append_assoc,
        List.append_assoc]
      rfl
    rw [hjoin, hrows, hcloses.rows_comma, ih _ hfields, closed, String.ofList_toList,
      List.append_assoc]
    rfl

/-- A row begins with no line feed and no carriage return, and so with its first field. -/
theorem rows_begin {c : Char} (hfeed : c ≠ '\n') (hreturn : c ≠ '\r') (cs : List Char) :
    begin.rows (c :: cs) = Reader.rows ⟨.field, [], []⟩ (c :: cs) := by
  have hstep : begin.step c = Reader.step ⟨.field, [], []⟩ c := by
    show begin.initial c = _
    rw [initial, if_neg hfeed, if_neg hreturn]
    rfl
  rw [Reader.rows, Reader.rows, hstep]

theorem head_field {s : String} (hs : '\r' ∉ s.toList) {c : Char} {cs : List Char}
    (h : field s = c :: cs) : c ≠ '\n' ∧ c ≠ '\r' := by
  rw [field_eq] at h
  split at h
  · rw [← (List.cons.inj h).1]
    exact ⟨by decide, by decide⟩
  · next hplain =>
    have hc : c ∈ s.toList := h ▸ List.mem_cons_self
    constructor
    · rintro rfl
      exact hplain (List.any_eq_true.2 ⟨_, hc, by decide⟩)
    · rintro rfl
      exact hs hc

theorem eq_empty_of_field {s : String} (h : field s = []) : s = "" := by
  rw [field_eq] at h
  split at h
  · exact absurd h (List.cons_ne_nil _ _)
  · exact String.toList_eq_nil_iff.1 h

/-- Fields have something in writing, unless they are a single empty one. -/
theorem head_joined {s : String} {fields : List String} (h : IsReadable (s :: fields))
    (hne : s :: fields ≠ [""]) :
    ∃ c cs, Text.joinWith [','] ((s :: fields).map field) = c :: cs ∧ c ≠ '\n' ∧ c ≠ '\r' := by
  cases hfield : field s with
  | nil =>
    obtain rfl := eq_empty_of_field hfield
    cases fields with
    | nil => exact absurd rfl hne
    | cons next fields =>
      rw [List.map_cons, List.map_cons, Text.joinWith_cons_cons, hfield]
      exact ⟨_, _, rfl, by decide, by decide⟩
  | cons c cs =>
    obtain ⟨hs, -⟩ := List.forall_mem_cons.1 h
    obtain ⟨hfeed, hreturn⟩ := head_field hs hfield
    cases fields with
    | nil => exact ⟨c, cs, hfield, hfeed, hreturn⟩
    | cons next fields =>
      rw [List.map_cons, List.map_cons, Text.joinWith_cons_cons, hfield]
      exact ⟨c, _, rfl, hfeed, hreturn⟩

theorem row_eq {fields : List String} (h : fields ≠ [""]) :
    row fields = Text.joinWith [','] (fields.map field) ++ ['\n'] := by
  unfold row
  split
  · exact absurd rfl h
  · rfl

theorem rows_row {fields : List String} (h : IsReadable fields) (after : List Char) :
    begin.rows (row fields ++ after) = fields :: begin.rows after := by
  by_cases hempty : fields = [""]
  · rw [hempty]
    rfl
  · rw [row_eq hempty, List.append_assoc, List.singleton_append]
    cases fields with
    | nil => rfl
    | cons s fields =>
      have hjoined := rows_joined [] h after
      obtain ⟨c, cs, hchars, hfeed, hreturn⟩ := head_joined h hempty
      rw [hchars, List.cons_append] at hjoined ⊢
      rw [rows_begin hfeed hreturn, hjoined, List.nil_append]

def read (text : List Char) : List (List String) := begin.rows text

theorem read_rows {rows : List (List String)} (h : ∀ fields ∈ rows, IsReadable fields) :
    read (rows.flatMap row) = rows := by
  induction rows with
  | nil => rfl
  | cons fields rows ih =>
    obtain ⟨hfields, hrows⟩ := List.forall_mem_cons.1 h
    rw [read, List.flatMap_cons, rows_row hfields]
    exact congrArg _ (ih hrows)

end Csv
end CrossCheck
