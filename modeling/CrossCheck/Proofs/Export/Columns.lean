import CrossCheck.Export.Lines
import CrossCheck.Proofs.Json.Number

/-!
Columns of a report.  A reader who takes a line apart at its blanks gets the printed values back
exactly where each value is shorter than its column, because nothing but the padding separates them.
-/

namespace CrossCheck

/-! ## Words -/

namespace Text

/-- The words of a text, of which the first has begun with `word`. -/
def wordsFrom (word : List Char) : List Char → List (List Char)
  | [] => if word = [] then [] else [word]
  | c :: cs =>
    if isBlank c then
      if word = [] then wordsFrom [] cs else word :: wordsFrom [] cs
    else wordsFrom (word ++ [c]) cs

/-- What stands between the blanks of a text, without what is empty. -/
def words (cs : List Char) : List (List Char) := wordsFrom [] cs

def IsUnbroken (cs : List Char) : Prop := ∀ c ∈ cs, isBlank c = false

instance (cs : List Char) : Decidable (IsUnbroken cs) :=
  List.decidableBAll (fun c => isBlank c = false) cs

theorem wordsFrom_nil {word : List Char} (h : word ≠ []) : wordsFrom word [] = [word] := if_neg h

theorem wordsFrom_unbroken (word : List Char) {cs : List Char} (hcs : IsUnbroken cs)
    (rest : List Char) : wordsFrom word (cs ++ rest) = wordsFrom (word ++ cs) rest := by
  induction cs generalizing word with
  | nil => rw [List.nil_append, List.append_nil]
  | cons c cs ih =>
    obtain ⟨hc, hcs⟩ := List.forall_mem_cons.1 hcs
    rw [List.cons_append, wordsFrom, hc, if_neg Bool.false_ne_true, ih _ hcs, List.append_assoc]
    rfl

theorem wordsFrom_blanks (n : Nat) (rest : List Char) :
    wordsFrom [] (List.replicate n ' ' ++ rest) = wordsFrom [] rest := by
  induction n with
  | zero => rfl
  | succ n ih =>
    rw [List.replicate_succ, List.cons_append, wordsFrom, if_pos (by decide), if_pos rfl]
    exact ih

theorem wordsFrom_gap {word : List Char} (h : word ≠ []) {n : Nat} (hn : 0 < n)
    (rest : List Char) :
    wordsFrom word (List.replicate n ' ' ++ rest) = word :: wordsFrom [] rest := by
  obtain ⟨n, rfl⟩ := Nat.exists_eq_add_one_of_ne_zero (Nat.ne_of_gt hn)
  rw [List.replicate_succ, List.cons_append, wordsFrom, if_pos (by decide), if_neg h,
    wordsFrom_blanks]

theorem nil_not_mem_wordsFrom (word cs : List Char) : [] ∉ wordsFrom word cs := by
  fun_induction wordsFrom word cs with
  | case1 => exact List.not_mem_nil
  | case2 word h => exact fun hmem => h (List.mem_singleton.1 hmem).symm
  | case3 c cs hc ih => exact ih
  | case4 word c cs hc h ih =>
    intro hmem
    rcases List.mem_cons.1 hmem with hnil | hmem
    · exact h hnil.symm
    · exact ih hmem
  | case5 word c cs hc ih => exact ih

theorem ne_nil_of_mem_words {word cs : List Char} (h : word ∈ words cs) : word ≠ [] := by
  rintro rfl
  exact nil_not_mem_wordsFrom [] cs h

/-- A word that has begun is not cut short. -/
theorem le_of_wordsFrom_eq {word cs first : List Char} {rest : List (List Char)}
    (hword : word ≠ []) (h : wordsFrom word cs = first :: rest) : word.length ≤ first.length := by
  fun_induction wordsFrom word cs with
  | case1 => exact absurd rfl hword
  | case2 word _ =>
    rw [(List.cons.inj h).1]
  | case3 => exact absurd rfl hword
  | case4 word c cs _ _ _ =>
    rw [(List.cons.inj h).1]
  | case5 word c cs _ ih =>
    have hle := ih (by simp) h
    rw [List.length_append] at hle
    omega

/-! ## Columns -/

/-- A value that is narrower than its column is followed by a blank. -/
theorem wordsFrom_padRight {width : Nat} {cs : List Char} (hcs : IsUnbroken cs)
    (rest : List Char) :
    wordsFrom [] (padRight width cs ++ rest) =
      if cs = [] then wordsFrom [] rest
      else if cs.length < width then cs :: wordsFrom [] rest
      else wordsFrom cs rest := by
  rw [padRight, List.append_assoc, wordsFrom_unbroken [] hcs, List.nil_append]
  split
  · next hnil =>
    rw [hnil]
    exact wordsFrom_blanks ..
  · next hne =>
    split
    · next hnarrow => exact wordsFrom_gap hne (by omega) rest
    · next hwide =>
      have hzero : width - cs.length = 0 := by omega
      rw [hzero, List.replicate_zero, List.nil_append]

/-- Three values in a line, the first two in columns, read back exactly if the columns are wider. -/
theorem words_columns_iff {width : Nat} {xs ys zs : List Char} (hx : IsUnbroken xs)
    (hy : IsUnbroken ys) (hz : IsUnbroken zs) (hne : zs ≠ []) :
    words (padRight width xs ++ (padRight width ys ++ zs)) = [xs, ys, zs] ↔
      (xs ≠ [] ∧ xs.length < width) ∧ ys ≠ [] ∧ ys.length < width := by
  have hlast (word : List Char) : wordsFrom word zs = [word ++ zs] := by
    have h := wordsFrom_unbroken word hz []
    rw [List.append_nil] at h
    rw [h, wordsFrom_nil (by simp [hne])]
  constructor
  · intro h
    have hwords : ∀ word ∈ [xs, ys, zs], word ≠ [] := by
      intro word hword
      rw [← h] at hword
      exact ne_nil_of_mem_words hword
    have hxs := hwords xs List.mem_cons_self
    have hys := hwords ys (List.mem_cons_of_mem _ List.mem_cons_self)
    rw [words, wordsFrom_padRight hx, if_neg hxs] at h
    by_cases hfirst : xs.length < width
    · rw [if_pos hfirst, wordsFrom_padRight hy, if_neg hys] at h
      refine ⟨⟨hxs, hfirst⟩, hys, ?_⟩
      by_contra hwide
      -- the second value runs into the third, and one word is missing
      rw [if_neg hwide, hlast] at h
      exact absurd (congrArg List.length h) (by simp)
    · -- the first value runs into the second
      rw [if_neg hfirst, padRight, List.append_assoc, wordsFrom_unbroken xs hy] at h
      have hle := le_of_wordsFrom_eq (by simp [hxs]) h
      rw [List.length_append] at hle
      have hpos := List.length_pos_iff.2 hys
      omega
  · rintro ⟨⟨hxs, hfirst⟩, hys, hsecond⟩
    rw [words, wordsFrom_padRight hx, if_neg hxs, if_pos hfirst, wordsFrom_padRight hy, if_neg hys,
      if_pos hsecond, hlast, List.nil_append]

theorem length_padRight {width : Nat} {cs : List Char} (h : cs.length ≤ width) :
    (padRight width cs).length = width := by
  rw [padRight, List.length_append, List.length_replicate]
  omega

end Text

/-! ## A line -/

namespace Report

open Text Json

theorem toList_rowLine (row : Row) :
    (rowLine row).toList = padRight 40 (row.label.toList.take 39) ++
      (padRight 18 (cellText row.source).toList ++
        (padRight 18 (cellText row.target).toList ++
          (cellText (differenceCell row.difference)).toList)) := by
  simp [rowLine, column, List.append_assoc]

theorem length_labelColumn (row : Row) :
    (padRight 40 (row.label.toList.take 39)).length = 40 := by
  apply length_padRight
  rw [List.length_take]
  omega

theorem scientificText_ne_nil (style : FloatNotation) (s : Scientific) :
    style.scientificText s ≠ [] := by
  have hdigits : s.digitText ≠ [] := natText_ne_nil _
  obtain ⟨d, ds, hds⟩ := List.exists_cons_of_ne_nil hdigits
  rw [FloatNotation.scientificText, hds]
  dsimp only
  split
  · split <;> simp
  · split
    · simp
    · split
      · simp
      · split <;> simp

theorem cellText_number_ne_nil (n : Number) : (cellText (.number n)).toList ≠ [] := by
  cases n with
  | int n =>
    show (String.ofList (intText n)).toList ≠ []
    rw [String.toList_ofList, intText]
    split
    · exact List.cons_ne_nil _ _
    · exact natText_ne_nil _
  | float x =>
    show (String.ofList x.text.toList).toList ≠ []
    rw [String.toList_ofList, Binary64.text, String.toList_ofList]
    cases x with
    | nan => decide
    | infinite s => cases s <;> decide
    | finite s rank => simp [FloatNotation.text, scientificText_ne_nil]

theorem cellText_difference_ne_nil (d : Option Number) :
    (cellText (differenceCell d)).toList ≠ [] := by
  cases d with
  | none => decide
  | some n => exact cellText_number_ne_nil n

/-- The texts that a row is printed as, after its label. -/
def printed (row : Row) : List String :=
  [cellText row.source, cellText row.target, cellText (differenceCell row.difference)]

/-- A value that leaves a blank in its column. -/
def FitsColumn (s : String) : Prop := s ≠ "" ∧ s.length < 18

instance (s : String) : Decidable (FitsColumn s) :=
  inferInstanceAs (Decidable (s ≠ "" ∧ s.length < 18))

theorem fitsColumn_iff (s : String) : FitsColumn s ↔ s.toList ≠ [] ∧ s.toList.length < 18 := by
  rw [FitsColumn, String.length_toList, ne_eq, ne_eq, String.toList_eq_nil_iff]

theorem getElem?_lines (r : Report) (title : Option String) (generated : Timestamp) {i : Nat}
    {row : Row} (hrow : r.rows[i]? = some row) :
    (r.lines title generated)[10 + i]? = some (rowLine row) := by
  have hrows : (r.rows.map rowLine)[i]? = some (rowLine row) := by
    rw [List.getElem?_map, hrow]
    rfl
  have hi := (List.getElem?_eq_some_iff.1 hrows).1
  have hten : ((r.header title generated).map (fun (name, text) => name ++ ": " ++ text) ++
      ["", column 40 "Metric" ++ column 18 "Source" ++ column 18 "Target" ++
        "Difference"]).length = 10 := rfl
  rw [lines, List.getElem?_append_left, List.getElem?_append_right, hten, Nat.add_sub_cancel_left]
  · exact hrows
  · rw [hten]
    omega
  · rw [List.length_append, hten]
    omega

/-- The label of a row stands before its values, which read back exactly if the first two of them
leave a blank in their columns. -/
theorem words_line_iff (r : Report) (title : Option String) (generated : Timestamp) {i : Nat}
    {row : Row} (hrow : r.rows[i]? = some row) :
    ∃ line, (r.lines title generated)[10 + i]? = some line ∧
      line.toList.take 40 = padRight 40 (row.label.toList.take 39) ∧
      ((∀ s ∈ printed row, IsUnbroken s.toList) →
        (words (line.toList.drop 40) = (printed row).map String.toList ↔
          FitsColumn (cellText row.source) ∧ FitsColumn (cellText row.target))) := by
  refine ⟨rowLine row, getElem?_lines r title generated hrow, ?_, fun hunbroken => ?_⟩
  · rw [toList_rowLine]
    exact List.take_left' (length_labelColumn row)
  · have hsource := hunbroken _ (List.mem_cons_self)
    have htarget := hunbroken _ (List.mem_cons_of_mem _ List.mem_cons_self)
    have hdifference := hunbroken _
      (List.mem_cons_of_mem _ (List.mem_cons_of_mem _ List.mem_cons_self))
    rw [toList_rowLine, List.drop_left' (length_labelColumn row), fitsColumn_iff, fitsColumn_iff]
    exact words_columns_iff hsource htarget hdifference (cellText_difference_ne_nil _)

def marchMorning : Timestamp := ⟨⟨2024, 3, 5⟩, ⟨9, 0, 0, 0⟩, some 0⟩

/-- A report with one metric. -/
def reportOf (row : Row) : Report where
  object := "Deal"
  rows := [row]
  filter := none
  sampleSize := 5
  source := ⟨"production", "prod", "58"⟩
  target := ⟨"sandbox", "test", "58"⟩
  queries := ⟨none, [], none⟩
  sourceSamples := []
  targetSamples := []
  cacheMinutes := 10

def countRow : Row :=
  ⟨.count .number, "count__all", .number (.int 4), .number (.int 5), some (.int 1)⟩

theorem words_line_iff_count :
    (reportOf countRow).rows[0]? = some countRow ∧
      ∃ line, ((reportOf countRow).lines none marchMorning)[10]? = some line ∧
        line.toList.take 40 = padRight 40 "COUNT(Id)".toList ∧
        (∀ s ∈ printed countRow, IsUnbroken s.toList) ∧
        words (line.toList.drop 40) = ["4", "5", "1"].map String.toList := by
  have hrow : (reportOf countRow).rows[0]? = some countRow := rfl
  have hunbroken : ∀ s ∈ printed countRow, IsUnbroken s.toList := by decide +kernel
  have hfits : FitsColumn (cellText countRow.source) ∧ FitsColumn (cellText countRow.target) := by
    decide +kernel
  have hprinted : printed countRow = ["4", "5", "1"] := by decide +kernel
  obtain ⟨line, hline, hlabel, hwords⟩ := words_line_iff (reportOf countRow) none marchMorning hrow
  rw [← hprinted]
  exact ⟨hrow, line, hline, hlabel, hunbroken, (hwords hunbroken).2 hfits⟩

/-- The latest moment in each of two environments. -/
def latestRow : Row where
  metric := .fieldAggregate ⟨.max, ⟨"Closed", "datetime", "Closed"⟩, .date⟩
  aliasName := "max__closed"
  source := .text "2024-03-05T10:30:00"
  target := .text "2024-03-06T11:00:00"
  difference := none

/-- Moments are wider than the columns, and the three values are one word. -/
theorem words_line_latest :
    (∀ s ∈ printed latestRow, IsUnbroken s.toList) ∧
      ∃ line, ((reportOf latestRow).lines none marchMorning)[10]? = some line ∧
        words (line.toList.drop 40) = ["2024-03-05T10:30:002024-03-06T11:00:00-".toList] ∧
        words (line.toList.drop 40) ≠ (printed latestRow).map String.toList :=
  ⟨by decide +kernel, rowLine latestRow, getElem?_lines _ _ _ (i := 0) rfl, by decide +kernel,
    by decide +kernel⟩

end Report
end CrossCheck
