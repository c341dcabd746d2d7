import CrossCheck.Proofs.Export.Pdf

/-!
What a reader of a document finds on its pages.  Lines are dealt out to full pages in order, and
the stream of each page, read as texts between parentheses, gives the lines of that page.
-/

namespace CrossCheck
namespace Pdf

open Text

/-! ## Lines on pages -/

/-- The lines in order, on pages of which only the last may have room. -/
structure IsPaginated (lines : List String) (ps : List (List String)) : Prop where
  flatten : ps.flatten = lines
  short : ∀ page ∈ ps, page.length ≤ 60
  full : ∀ page ∈ ps.dropLast, page.length = 60
  blank : lines = [] → ps = [[]]
  written : lines ≠ [] → [] ∉ ps

theorem isPaginated_single {lines : List String} (h : lines.length ≤ 60) :
    IsPaginated lines [lines] where
  flatten := List.flatten_singleton
  short page hpage := by
    rw [List.mem_singleton.1 hpage]
    exact h
  full page hpage := absurd hpage List.not_mem_nil
  blank hlines := by rw [hlines]
  written hlines hmem := hlines (List.mem_singleton.1 hmem).symm

/-- A full page may stand before pages that are not blank. -/
theorem IsPaginated.cons {lines : List String} {ps : List (List String)} (h : IsPaginated lines ps)
    (hlines : lines ≠ []) {page : List String} (hpage : page.length = 60) :
    IsPaginated (page ++ lines) (page :: ps) where
  flatten := by rw [List.flatten_cons, h.flatten]
  short := List.forall_mem_cons.2 ⟨Nat.le_of_eq hpage, h.short⟩
  full := by
    have hne : ps ≠ [] := by
      intro hnil
      apply hlines
      rw [← h.flatten, hnil, List.flatten_nil]
    rw [List.dropLast_cons_of_ne_nil hne]
    exact List.forall_mem_cons.2 ⟨hpage, h.full⟩
  blank hnil := absurd (List.append_eq_nil_iff.1 hnil).2 hlines
  written _ hmem := by
    rcases List.mem_cons.1 hmem with hnil | hmem
    · rw [← hnil] at hpage
      exact absurd hpage (by decide)
    · exact h.written hlines hmem

theorem isPaginated_pagesOf {fuel : Nat} {lines : List String} (h : lines.length ≤ fuel) :
    IsPaginated lines (pagesOf fuel lines) := by
  have hsixty : linesPerPage = 60 := rfl
  induction fuel generalizing lines with
  | zero => exact isPaginated_single (by omega)
  | succ fuel ih =>
    rw [pagesOf]
    by_cases hfew : lines.length ≤ linesPerPage
    · rw [if_pos hfew]
      exact isPaginated_single hfew
    · rw [if_neg hfew]
      have hrest : (lines.drop linesPerPage).length = lines.length - linesPerPage :=
        List.length_drop
      have hne : lines.drop linesPerPage ≠ [] := by
        apply List.ne_nil_of_length_pos
        omega
      have hpage : (lines.take linesPerPage).length = 60 := by
        rw [List.length_take, hsixty]
        omega
      have hpages : IsPaginated (lines.drop linesPerPage)
          (pagesOf fuel (lines.drop linesPerPage)) := ih (by omega)
      have hcons := hpages.cons hne hpage
      rwa [List.take_append_drop] at hcons

theorem isPaginated_pages (lines : List String) : IsPaginated lines (pages lines) :=
  isPaginated_pagesOf (Nat.le_refl _)

/-! ## Reading a stream -/

/-- Where a reader is: between two texts, inside one of which it has read a part, or there right
after a backslash. -/
inductive Place where
  | between
  | inside (text : List Char)
  | marked (text : List Char)

/-- The texts of a stream.  A parenthesis begins or ends a text unless a backslash is before it, and
a backslash stands for the character after it, whichever that is.  Texts do not nest. -/
def textsFrom : Place → List Char → Option (List (List Char))
  | .between, [] => some []
  | .between, c :: cs =>
    if c = '(' then textsFrom (.inside []) cs
    else if c = ')' then none
    else textsFrom .between cs
  | .inside _, [] => none
  | .inside text, c :: cs =>
    if c = ')' then (textsFrom .between cs).map (text :: ·)
    else if c = '(' then none
    else if c = '\\' then textsFrom (.marked text) cs
    else textsFrom (.inside (text ++ [c])) cs
  | .marked _, [] => none
  | .marked text, c :: cs => textsFrom (.inside (text ++ [c])) cs

def texts? (stream : List Char) : Option (List (List Char)) := textsFrom .between stream

/-- Characters that stand between texts. -/
def IsGap (gap : List Char) : Prop := ∀ c ∈ gap, c ≠ '(' ∧ c ≠ ')'

instance (gap : List Char) : Decidable (IsGap gap) :=
  List.decidableBAll (fun c => c ≠ '(' ∧ c ≠ ')') gap

theorem textsFrom_between_append {gap : List Char} (hgap : IsGap gap) (cs : List Char) :
    textsFrom .between (gap ++ cs) = textsFrom .between cs := by
  induction gap with
  | nil => rfl
  | cons c gap ih =>
    obtain ⟨⟨hopen, hclose⟩, hgap⟩ := List.forall_mem_cons.1 hgap
    rw [List.cons_append, textsFrom, if_neg hopen, if_neg hclose]
    exact ih hgap

/-- A text that reads back up to its end is read from the stream that it stands in. -/
theorem textsFrom_of_literal? {cs text rest : List Char} (h : literal? cs = some (text, rest))
    (before after : List Char) :
    textsFrom (.inside before) (cs ++ after) =
      (textsFrom .between (rest ++ after)).map ((before ++ text) :: ·) := by
  fun_induction literal? cs generalizing before text with
  | case1 => exact nomatch h
  | case2 =>
    obtain ⟨rfl, rfl⟩ := Prod.mk.inj (Option.some.inj h)
    rw [List.cons_append, textsFrom, if_pos rfl, List.append_nil]
  | case3 => exact nomatch h
  | case4 => exact nomatch h
  | case5 hclose hopen d ds hd ih =>
    obtain ⟨⟨text, rest⟩, hread, heq⟩ := Option.map_eq_some_iff.1 h
    obtain ⟨rfl, rfl⟩ := Prod.mk.inj heq
    rw [List.cons_append, textsFrom, if_neg (by decide), if_neg (by decide), if_pos rfl,
      List.cons_append, textsFrom, ih hread, List.append_assoc]
    rfl
  | case6 => exact nomatch h
  | case7 c cs hclose hopen hmark ih =>
    obtain ⟨⟨text, rest⟩, hread, heq⟩ := Option.map_eq_some_iff.1 h
    obtain ⟨rfl, rfl⟩ := Prod.mk.inj heq
    rw [List.cons_append, textsFrom, if_neg hclose, if_neg hopen, if_neg hmark, ih hread,
      List.append_assoc]
    rfl

theorem textsFrom_drawn {line : String} {cs : List Char}
    (h : literal? cs = some (drawn line, " Tj".toList)) {after : List Char}
    {texts : List (List Char)} (hafter : textsFrom .between after = some texts) :
    textsFrom .between ('(' :: cs ++ after) = some (drawn line :: texts) := by
  have hgap : IsGap " Tj".toList := by decide
  rw [List.cons_append, textsFrom, if_pos rfl, textsFrom_of_literal? h, List.nil_append,
    textsFrom_between_append hgap, hafter]
  rfl

theorem textsFrom_intercalate {page : List String} {shown : List (List Char)}
    (h : List.Forall₂ (fun line text => ∃ cs, text = '(' :: cs ∧
      literal? cs = some (drawn line, " Tj".toList)) page shown) :
    textsFrom .between ("\nT*\n".toList.intercalate shown ++ "\nET".toList) =
      some (page.map drawn) := by
  have hend : textsFrom .between "\nET".toList = some [] := by decide
  have hgap : IsGap "\nT*\n".toList := by decide
  induction h with
  | nil => exact hend
  | @cons line text page shown htext hrest ih =>
    obtain ⟨cs, rfl, hread⟩ := htext
    cases hrest with
    | nil =>
      rw [List.intercalate_singleton]
      exact textsFrom_drawn hread hend
    | cons htext' hrest' =>
      rw [List.intercalate_cons_cons, List.append_assoc, List.append_assoc]
      apply textsFrom_drawn hread
      rw [textsFrom_between_append hgap]
      exact ih

/-- A stream that draws a page is read as the lines of the page. -/
theorem Draws.texts?_eq {stream : List Char} {page : List String} (h : Draws stream page) :
    texts? stream = some (page.map drawn) := by
  obtain ⟨shown, rfl, hshown⟩ := h
  have hgap : IsGap "BT\n/F1 9 Tf\n11 TL\n50 750 Td\n".toList := by decide +kernel
  rw [texts?, List.append_assoc, textsFrom_between_append hgap]
  exact textsFrom_intercalate hshown

/-! ## Pages of a document -/

/-- The object of a number is a page, and the stream that it refers to is read as the lines. -/
def Carries (bodies : List (List Char)) (n : Nat) (page : List String) : Prop :=
  ∃ m stream,
    ofNumber? bodies n = some
      ("<< /Type /Page /Parent 2 0 R /MediaBox [0 0 612 792] /Contents ".toList ++
        (natText m ++ " 0 R".toList) ++ " /Resources << /Font << /F1 3 0 R >> >> >>".toList) ∧
    ofNumber? bodies m = some ("<< /Length ".toList ++ natText stream.length ++
      " >>\nstream\n".toList ++ stream ++ "\nendstream".toList) ∧
    texts? stream = some (page.map drawn)

theorem HasPages.carries {bodies : List (List Char)} {lines : List String} {kids : List Nat}
    (h : HasPages bodies lines kids) : List.Forall₂ (Carries bodies) kids (pages lines) := by
  rw [List.forall₂_iff_get]
  refine ⟨h.count.trans (length_pages lines).symm, fun i hi hi' => ?_⟩
  rw [List.get_eq_getElem, List.get_eq_getElem]
  obtain ⟨m, stream, hpage, hstream, hdraws⟩ := h.contents i kids[i] (List.getElem?_eq_getElem hi)
  have hlines : (pages lines)[i] = pageAt lines i :=
    Option.some.inj ((List.getElem?_eq_getElem _).symm.trans (getElem?_pages (h.count ▸ hi)))
  rw [hlines]
  exact ⟨m, stream, hpage, hstream, hdraws.texts?_eq⟩

/-- Every line is on a page.  Whatever the lines are, the document is one of bytes, its pages take
the lines in order, sixty at most and only the last with room, and what a reader finds on them is
the lines. -/
theorem document_carries (lines : List String) : ∃ bodies entries table kids,
    IsIndexed (document lines) bodies entries table ∧ HasPages bodies lines kids ∧
      AreBytes (document lines) ∧ IsPaginated lines (pages lines) ∧
      List.Forall₂ (Carries bodies) kids (pages lines) :=
  ⟨objects lines, entries (objects lines), tablePlace (objects lines), _,
    isIndexed_document lines, hasPages_objects lines, areBytes_document lines,
    isPaginated_pages lines, (hasPages_objects lines).carries⟩

end Pdf
end CrossCheck
