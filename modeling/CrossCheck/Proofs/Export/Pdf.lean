import CrossCheck.Export.Pdf
import CrossCheck.Proofs.Json.Number
import CrossCheck.Proofs.Text.Join
import Mathlib.Data.List.Forall2

/-!
A document is in order.  Its table of objects tells where each of them stands, each stream tells its
own length, and the pages refer by number to what draws them.  All this is said of the document as
it lies there, with no word of how its places were counted.
-/

namespace CrossCheck

open Json

theorem natOfDigits_zeroPadded (width n : Nat) : natOfDigits (zeroPadded width n) = n := by
  rw [zeroPadded, natOfDigits_zeros_append, natOfDigits_natText]

theorem isDigit_of_mem_zeroPadded {width n : Nat} {c : Char} (hc : c ∈ zeroPadded width n) :
    isDigit c = true := by
  rcases List.mem_append.1 hc with hzero | hdigit
  · obtain rfl := List.eq_of_mem_replicate hzero
    decide
  · exact isDigit_of_mem_natText hdigit

theorem length_zeroPadded {width n : Nat} (hwidth : 0 < width) (hn : n < 10 ^ width) :
    (zeroPadded width n).length = width := by
  have hlength : (natText n).length ≤ width :=
    (Nat.length_toDigits_le_iff (by decide) hwidth).2 hn
  rw [zeroPadded, List.length_append, List.length_replicate]
  omega

namespace Pdf

open Text

/-! ## Bytes -/

/-- Each character is one byte. -/
def AreBytes (cs : List Char) : Prop := ∀ c ∈ cs, c.toNat < 0x100

instance (cs : List Char) : Decidable (AreBytes cs) :=
  List.decidableBAll (fun c : Char => c.toNat < 0x100) cs

theorem AreBytes.append {as bs : List Char} (ha : AreBytes as) (hb : AreBytes bs) :
    AreBytes (as ++ bs) := List.forall_mem_append.2 ⟨ha, hb⟩

theorem areBytes_flatten {css : List (List Char)} (h : ∀ cs ∈ css, AreBytes cs) :
    AreBytes css.flatten := by
  intro c hc
  obtain ⟨cs, hcs, hmem⟩ := List.mem_flatten.1 hc
  exact h cs hcs c hmem

theorem areBytes_joinWith {sep : List Char} (hsep : AreBytes sep) {css : List (List Char)}
    (h : ∀ cs ∈ css, AreBytes cs) : AreBytes (joinWith sep css) := by
  intro c hc
  rcases mem_of_mem_joinWith hc with hc | ⟨cs, hcs, hc⟩
  · exact hsep c hc
  · exact h cs hcs c hc

theorem areBytes_of_isDigit {cs : List Char} (h : ∀ c ∈ cs, Json.isDigit c = true) :
    AreBytes cs := by
  intro c hc
  have hdigit := h c hc
  rw [Json.isDigit, Bool.and_eq_true, decide_eq_true_eq, decide_eq_true_eq] at hdigit
  have hle : c.toNat ≤ '9'.toNat := hdigit.2
  have hnine : '9'.toNat = 0x39 := rfl
  omega

theorem areBytes_natText (n : Nat) : AreBytes (natText n) :=
  areBytes_of_isDigit fun _ hc => isDigit_of_mem_natText hc

theorem areBytes_reference (n : Nat) : AreBytes (reference n) :=
  (areBytes_natText n).append (by decide)

theorem toLatin_lt (c : Char) : (toLatin c).toNat < 0x100 := by
  rw [toLatin]
  split
  · assumption
  · decide

theorem areBytes_lineText (cs : List Char) : AreBytes (lineText cs) := by
  intro c hc
  obtain ⟨d, -, rfl⟩ := List.mem_map.1 hc
  exact toLatin_lt d

theorem areBytes_showLine (s : String) : AreBytes (showLine s) :=
  List.forall_mem_cons.2 ⟨by decide, (areBytes_lineText _).append (by decide)⟩

theorem areBytes_content (page : List String) : AreBytes (content page) := by
  have hlines : ∀ cs ∈ page.map showLine, AreBytes cs :=
    List.forall_mem_map.2 fun s _ => areBytes_showLine s
  exact AreBytes.append (by decide +kernel) (areBytes_joinWith (by decide) hlines)
    |>.append (by decide)

theorem map_bytes {cs : List Char} (h : AreBytes cs) :
    (bytes cs).map (fun b => Char.ofNat b.toNat) = cs := by
  rw [bytes, List.map_map]
  refine (List.map_congr_left fun c hc => ?_).trans (List.map_id cs)
  have hmod : c.toNat % 2 ^ 8 = c.toNat := Nat.mod_eq_of_lt (h c hc)
  rw [Function.comp_apply, UInt8.toNat_ofNat', hmod, Char.ofNat_toNat, id]

/-! ## Texts -/

/-- The characters that have a mark before them. -/
def isMarked (c : Char) : Bool := c = '\\' || c = '(' || c = ')'

/-- A text up to the parenthesis that ends it, and what follows. -/
def literal? : List Char → Option (List Char × List Char)
  | [] => none
  | c :: cs =>
    if c = ')' then some ([], cs)
    else if c = '(' then none
    else if c = '\\' then
      match cs with
      | [] => none
      | d :: ds =>
        if isMarked d then (literal? ds).map fun (text, rest) => (d :: text, rest) else none
    else (literal? cs).map fun (text, rest) => (c :: text, rest)

theorem literal?_close (rest : List Char) : literal? (')' :: rest) = some ([], rest) := by
  rw [literal?.eq_def]
  exact if_pos rfl

theorem literal?_marked {c : Char} (hc : isMarked c = true) (cs : List Char) :
    literal? ('\\' :: c :: cs) = (literal? cs).map fun (text, rest) => (c :: text, rest) := by
  rw [literal?.eq_def]
  dsimp only
  rw [if_neg (by decide), if_neg (by decide), if_pos rfl, if_pos hc]

theorem literal?_plain {c : Char} (hc : isMarked c = false) (cs : List Char) :
    literal? (c :: cs) = (literal? cs).map fun (text, rest) => (c :: text, rest) := by
  rw [isMarked, Bool.or_eq_false_iff, Bool.or_eq_false_iff] at hc
  rw [literal?.eq_def]
  dsimp only
  rw [if_neg (of_decide_eq_false hc.2), if_neg (of_decide_eq_false hc.1.2),
    if_neg (of_decide_eq_false hc.1.1)]

theorem toLatin_of_isMarked {c : Char} (hc : isMarked c = true) : toLatin c = c := by
  simp only [isMarked, Bool.or_eq_true, decide_eq_true_eq] at hc
  rcases hc with (rfl | rfl) | rfl <;> rfl

/-- The sign for what the font does not have needs no mark either. -/
theorem isMarked_toLatin {c : Char} (hc : isMarked c = false) : isMarked (toLatin c) = false := by
  rw [toLatin]
  split
  · exact hc
  · rfl

theorem lineText_cons (c : Char) (cs : List Char) :
    lineText (c :: cs) =
      (if isMarked c then ['\\', c] else [toLatin c]) ++ lineText cs := by
  have hcons : lineText (c :: cs) =
      (if isMarked c then ['\\', c] else [c]).map toLatin ++ lineText cs := by
    rw [lineText, escape, List.flatMap_cons, List.map_append]
    rfl
  rw [hcons]
  cases hc : isMarked c with
  | true =>
    rw [if_pos rfl, if_pos rfl, List.map_cons, List.map_singleton, toLatin_of_isMarked hc]
    rfl
  | false => rfl

theorem literal?_lineText (cs rest : List Char) :
    literal? (lineText cs ++ ')' :: rest) = some (cs.map toLatin, rest) := by
  induction cs with
  | nil => exact literal?_close rest
  | cons c cs ih =>
    rw [lineText_cons, List.append_assoc, List.map_cons]
    cases hc : isMarked c with
    | true =>
      rw [if_pos rfl, List.cons_append, List.singleton_append, literal?_marked hc, ih,
        toLatin_of_isMarked hc]
      rfl
    | false =>
      rw [if_neg nofun, List.singleton_append, literal?_plain (isMarked_toLatin hc), ih]
      rfl

/-- A line as it is drawn: one sign for each character, a question mark for what is not Latin. -/
def drawn (line : String) : List Char :=
  line.toList.map fun c => if c.toNat < 256 then c else '?'

theorem map_toLatin (line : String) : line.toList.map toLatin = drawn line := rfl

/-! ## Places -/

/-- A part of the document begins at a place. -/
def StandsAt (part document : List Char) (place : Nat) : Prop := part <+: document.drop place

theorem standsAt_length (before part after : List Char) :
    StandsAt part (before ++ part ++ after) before.length := by
  rw [StandsAt, List.append_assoc, List.drop_left]
  exact List.prefix_append ..

theorem length_offsetsFrom (start : Nat) (parts : List (List Char)) :
    (offsetsFrom start parts).length = parts.length := by
  induction parts generalizing start with
  | nil => rfl
  | cons part rest ih => rw [offsetsFrom, List.length_cons, List.length_cons, ih]

/-- Each part begins at its offset. -/
theorem exists_offset (before after : List Char) {parts : List (List Char)} {i : Nat}
    {part : List Char} (hpart : parts[i]? = some part) :
    ∃ offset, (offsetsFrom before.length parts)[i]? = some offset ∧
      StandsAt part (before ++ parts.flatten ++ after) offset := by
  -- What stands before grows by each part that is passed.
  induction parts generalizing before i with
  | nil => exact absurd hpart nofun
  | cons first rest ih =>
    cases i with
    | zero =>
      cases hpart
      refine ⟨before.length, rfl, ?_⟩
      rw [List.flatten_cons, ← List.append_assoc, List.append_assoc]
      exact standsAt_length ..
    | succ i =>
      obtain ⟨offset, hoffset, hstands⟩ := ih (before ++ first) hpart
      rw [List.length_append] at hoffset
      rw [List.append_assoc before] at hstands
      exact ⟨offset, hoffset, hstands⟩

theorem offset_le {start : Nat} {parts : List (List Char)} :
    ∀ offset ∈ offsetsFrom start parts, offset ≤ start + parts.flatten.length := by
  induction parts generalizing start with
  | nil => exact nofun
  | cons part rest ih =>
    intro offset hoffset
    rw [List.flatten_cons, List.length_append]
    rcases List.mem_cons.1 hoffset with rfl | hmem
    · exact Nat.le_add_right ..
    · have hle := ih offset hmem
      omega

theorem numberedFrom_eq (n : Nat) (bodies : List (List Char)) :
    numberedFrom n bodies = bodies.mapIdx fun i body => numbered (i + n) body := by
  induction bodies generalizing n with
  | nil => rfl
  | cons body rest ih =>
    rw [numberedFrom, ih, List.mapIdx_cons, Nat.zero_add]
    congr 2
    funext i body
    rw [Nat.add_assoc, Nat.add_comm 1]

/-! ## Pages -/

/-- The page of a number, when pages are counted from zero. -/
def pageAt (lines : List String) (i : Nat) : List String := (lines.drop (60 * i)).take 60

/-- Lines that come to no full page begin one more, and there is always a page. -/
def pageCount (lines : List String) : Nat := max 1 ((lines.length + 59) / 60)

theorem pagesOf_eq {fuel : Nat} {lines : List String} (h : lines.length ≤ fuel) :
    pagesOf fuel lines = (List.range (pageCount lines)).map (pageAt lines) := by
  induction fuel generalizing lines with
  | zero =>
    obtain rfl := List.eq_nil_of_length_eq_zero (Nat.le_zero.1 h)
    rfl
  | succ fuel ih =>
    have hsixty : linesPerPage = 60 := rfl
    rw [pagesOf, hsixty]
    split
    next hfew =>
      have hone : pageCount lines = 1 := by
        rw [pageCount]
        omega
      rw [hone]
      exact congrArg (· :: []) (List.take_of_length_le hfew).symm
    next hmany =>
      have hlength := List.length_drop (i := 60) (l := lines)
      have hcount : pageCount lines = pageCount (lines.drop 60) + 1 := by
        rw [pageCount, pageCount, hlength]
        omega
      have hpage : ∀ i, pageAt (lines.drop 60) i = pageAt lines (i + 1) := by
        intro i
        rw [pageAt, pageAt, List.drop_drop, Nat.mul_succ, Nat.add_comm]
      rw [ih (by omega), hcount, List.range_succ_eq_map, List.map_cons, List.map_map]
      congr 1
      exact List.map_congr_left fun i _ => hpage i

theorem pages_eq (lines : List String) :
    pages lines = (List.range (pageCount lines)).map (pageAt lines) :=
  pagesOf_eq (Nat.le_refl _)

theorem length_pages (lines : List String) : (pages lines).length = pageCount lines := by
  rw [pages_eq, List.length_map, List.length_range]

/-! ## Objects -/

/-- What has a number when numbers are counted from 1. -/
def ofNumber? (bodies : List (List Char)) : Nat → Option (List Char)
  | 0 => none
  | n + 1 => bodies[n]?

/-- A page, and not the tree of pages. -/
def IsPage (body : List Char) : Prop := "<< /Type /Page ".toList <+: body

instance (body : List Char) : Decidable (IsPage body) :=
  inferInstanceAs (Decidable ("<< /Type /Page ".toList <+: body))

def IsStream (body : List Char) : Prop := "\nendstream".toList <:+ body

instance (body : List Char) : Decidable (IsStream body) :=
  inferInstanceAs (Decidable ("\nendstream".toList <:+ body))

theorem isPage_append {start : List Char} (h : "<< /Type /Page ".toList <+: start)
    (rest : List Char) : IsPage (start ++ rest) := h.trans (List.prefix_append start rest)

theorem not_isPage_append {start : List Char}
    (h : ¬ "<< /Type /Page ".toList <+: start ∧ ¬ start <+: "<< /Type /Page ".toList)
    (rest : List Char) : ¬ IsPage (start ++ rest) := by
  intro hpage
  rcases List.prefix_or_prefix_of_prefix hpage (List.prefix_append start rest) with hle | hle
  · exact h.1 hle
  · exact h.2 hle

theorem not_isStream_append {rest : List Char}
    (h : ¬ "\nendstream".toList <:+ rest ∧ ¬ rest <:+ "\nendstream".toList)
    (start : List Char) : ¬ IsStream (start ++ rest) := by
  intro hstream
  rcases List.suffix_or_suffix_of_suffix hstream (List.suffix_append start rest) with hle | hle
  · exact h.1 hle
  · exact h.2 hle

theorem isPage_pageObject (i : Nat) : IsPage (pageObject i) := by
  unfold pageObject
  rw [List.append_assoc]
  exact isPage_append (by decide +kernel) _

theorem not_isPage_pageTree (count : Nat) : ¬ IsPage (pageTree count) := by
  unfold pageTree
  rw [List.append_assoc, List.append_assoc, List.append_assoc]
  exact not_isPage_append (by decide +kernel) _

theorem not_isPage_contentObject (page : List String) : ¬ IsPage (contentObject page) := by
  unfold contentObject
  rw [List.append_assoc, List.append_assoc, List.append_assoc]
  exact not_isPage_append (by decide +kernel) _

theorem not_isStream_pageObject (i : Nat) : ¬ IsStream (pageObject i) := by
  unfold pageObject
  exact not_isStream_append (by decide +kernel) _

theorem not_isStream_pageTree (count : Nat) : ¬ IsStream (pageTree count) := by
  unfold pageTree
  exact not_isStream_append (by decide +kernel) _

/-- A page and what draws it follow one another. -/
theorem getElem?_pageObjects (i k : Nat) (ps : List (List String)) :
    (pageObjects i ps)[2 * k]? = ps[k]?.map (fun _ => pageObject (i + k)) ∧
      (pageObjects i ps)[2 * k + 1]? = ps[k]?.map contentObject := by
  induction ps generalizing i k with
  | nil => exact ⟨rfl, rfl⟩
  | cons page rest ih =>
    cases k with
    | zero => exact ⟨rfl, rfl⟩
    | succ k =>
      obtain ⟨hpage, hcontent⟩ := ih (i + 1) k
      rw [Nat.add_assoc, Nat.add_comm 1] at hpage
      exact ⟨hpage, hcontent⟩

variable {lines : List String}

theorem ofNumber?_pageNumber (i : Nat) :
    ofNumber? (objects lines) (pageNumber i) = (pages lines)[i]?.map fun _ => pageObject i := by
  have hpage := (getElem?_pageObjects 0 i (pages lines)).1
  rw [Nat.zero_add] at hpage
  rw [pageNumber, Nat.add_comm]
  exact hpage

theorem ofNumber?_contentNumber (i : Nat) :
    ofNumber? (objects lines) (contentNumber i) = (pages lines)[i]?.map contentObject := by
  rw [contentNumber, show 5 + 2 * i = 2 * i + 1 + 4 by omega]
  exact (getElem?_pageObjects 0 i (pages lines)).2

/-- The objects of a document, by their numbers. -/
inductive IsObject (lines : List String) : Nat → List Char → Prop where
  | catalog : IsObject lines 1 catalog
  | pageTree : IsObject lines 2 (pageTree (pages lines).length)
  | font : IsObject lines 3 font
  | page {i : Nat} (hi : i < (pages lines).length) : IsObject lines (pageNumber i) (pageObject i)
  | content {i : Nat} {page : List String} (hpage : (pages lines)[i]? = some page) :
    IsObject lines (contentNumber i) (contentObject page)

theorem IsObject.areBytes {n : Nat} {body : List Char} (h : IsObject lines n body) :
    AreBytes body := by
  cases h with
  | catalog => decide +kernel
  | pageTree =>
    have hkids : ∀ cs ∈ (List.range (pages lines).length).map fun i => reference (pageNumber i),
        AreBytes cs := List.forall_mem_map.2 fun i _ => areBytes_reference _
    exact AreBytes.append (by decide +kernel) (areBytes_joinWith (by decide) hkids)
      |>.append (by decide +kernel) |>.append (areBytes_natText _) |>.append (by decide +kernel)
  | font => decide +kernel
  | page =>
    exact AreBytes.append (by decide +kernel) (areBytes_reference _) |>.append (by decide +kernel)
  | content =>
    exact AreBytes.append (by decide +kernel) (areBytes_natText _)
      |>.append (by decide +kernel) |>.append (areBytes_content _) |>.append (by decide +kernel)

theorem isObject_of_ofNumber? {n : Nat} {body : List Char}
    (h : ofNumber? (objects lines) n = some body) : IsObject lines n body := by
  match n, h with
  | 1, h =>
    cases h
    exact .catalog
  | 2, h =>
    cases h
    exact .pageTree
  | 3, h =>
    cases h
    exact .font
  | n + 4, h =>
    -- Pages and what draws them take turns.
    rcases Nat.even_or_odd' n with ⟨i, rfl | rfl⟩
    · rw [Nat.add_comm, ← pageNumber, ofNumber?_pageNumber] at h
      obtain ⟨page, hpage, rfl⟩ := Option.map_eq_some_iff.1 h
      rw [Nat.add_comm]
      exact .page (List.getElem?_eq_some_iff.1 hpage).1
    · rw [show 2 * i + 1 + 4 = contentNumber i by rw [contentNumber]; omega] at h ⊢
      rw [ofNumber?_contentNumber] at h
      obtain ⟨page, hpage, rfl⟩ := Option.map_eq_some_iff.1 h
      exact .content hpage

/-! ## The whole document -/

/-- The table of objects.  It begins with an entry that is for none. -/
def crossReferences (entries : List (List Char)) : List Char :=
  "xref\n0 ".toList ++ natText entries.length ++ "\n".toList ++ entries.flatten

def trailer (size table : Nat) : List Char :=
  "trailer\n<< /Size ".toList ++ natText size ++ " /Root 1 0 R >>\nstartxref\n".toList ++
    natText table ++ "\n%%EOF\n".toList

/-- The table tells of each object where it stands, and the end of the document tells where the
table stands. -/
structure IsIndexed (document : List Char) (bodies entries : List (List Char)) (table : Nat) :
    Prop where
  whole : document = "%PDF-1.4\n".toList ++
    (bodies.mapIdx fun i body =>
      natText (i + 1) ++ " 0 obj\n".toList ++ body ++ "\nendobj\n".toList).flatten ++
    crossReferences entries ++ trailer (bodies.length + 1) table
  length : entries.length = bodies.length + 1
  places : ∀ n body, ofNumber? bodies n = some body → ∃ digits,
    entries[n]? = some (digits ++ " 00000 n \n".toList) ∧
      (∀ c ∈ digits, Json.isDigit c = true) ∧
        StandsAt (natText n ++ " 0 obj\n".toList ++ body ++ "\nendobj\n".toList) document
          (natOfDigits digits)
  widths : document.length < 10 ^ 10 → ∀ entry ∈ entries, entry.length = 20
  table : StandsAt (crossReferences entries) document table

/-- A stream draws the lines of a page, each as a text that reads back. -/
def Draws (stream : List Char) (page : List String) : Prop :=
  ∃ shown, stream = "BT\n/F1 9 Tf\n11 TL\n50 750 Td\n".toList ++
      "\nT*\n".toList.intercalate shown ++ "\nET".toList ∧
    List.Forall₂ (fun line text => ∃ cs, text = '(' :: cs ∧
      literal? cs = some (drawn line, " Tj".toList)) page shown

/-- The lines stand on their pages, in order. -/
structure HasPages (bodies : List (List Char)) (lines : List String) (kids : List Nat) : Prop where
  tree : ofNumber? bodies 2 = some ("<< /Type /Pages /Kids [".toList ++
    [' '].intercalate (kids.map fun n => natText n ++ " 0 R".toList) ++
    "] /Count ".toList ++ natText (pageCount lines) ++ " >>".toList)
  count : kids.length = pageCount lines
  nodup : kids.Nodup
  mem_kids : ∀ n, n ∈ kids ↔ ∃ body, ofNumber? bodies n = some body ∧ IsPage body
  contents : ∀ i n, kids[i]? = some n → ∃ m stream,
    ofNumber? bodies n = some
      ("<< /Type /Page /Parent 2 0 R /MediaBox [0 0 612 792] /Contents ".toList ++
        (natText m ++ " 0 R".toList) ++ " /Resources << /Font << /F1 3 0 R >> >> >>".toList) ∧
    ofNumber? bodies m = some ("<< /Length ".toList ++ natText stream.length ++
      " >>\nstream\n".toList ++ stream ++ "\nendstream".toList) ∧
    Draws stream (pageAt lines i)
  streams : ∀ n body, ofNumber? bodies n = some body → IsStream body → ∃ stream,
    body = "<< /Length ".toList ++ natText stream.length ++ " >>\nstream\n".toList ++ stream ++
      "\nendstream".toList

theorem draws_content (page : List String) : Draws (content page) page := by
  unfold Draws content
  refine ⟨page.map showLine, ?_, ?_⟩
  · rw [joinWith_eq_intercalate]
  · rw [List.forall₂_map_right_iff]
    refine List.forall₂_same.2 fun line _ => ⟨lineText line.toList ++ ") Tj".toList, rfl, ?_⟩
    rw [← map_toLatin]
    exact literal?_lineText line.toList " Tj".toList

theorem getElem?_pages {i : Nat} (hi : i < pageCount lines) :
    (pages lines)[i]? = some (pageAt lines i) := by
  rw [pages_eq, List.getElem?_map, List.getElem?_range hi]
  rfl

theorem hasPages_objects (lines : List String) :
    HasPages (objects lines) lines ((List.range (pageCount lines)).map pageNumber) where
  tree := by
    rw [List.map_map, ← length_pages, ← joinWith_eq_intercalate]
    rfl
  count := by rw [List.length_map, List.length_range]
  nodup := by
    refine List.pairwise_map.2 (List.nodup_range.imp fun hne h => hne ?_)
    rw [pageNumber, pageNumber] at h
    omega
  mem_kids n := by
    constructor
    · intro hn
      obtain ⟨i, hi, rfl⟩ := List.mem_map.1 hn
      refine ⟨pageObject i, ?_, isPage_pageObject i⟩
      rw [ofNumber?_pageNumber, getElem?_pages (List.mem_range.1 hi)]
      rfl
    · rintro ⟨body, hbody, hpage⟩
      cases isObject_of_ofNumber? hbody with
      | catalog => exact absurd hpage (by decide +kernel)
      | pageTree => exact absurd hpage (not_isPage_pageTree _)
      | font => exact absurd hpage (by decide +kernel)
      | page hi => exact List.mem_map.2 ⟨_, List.mem_range.2 (length_pages lines ▸ hi), rfl⟩
      | content => exact absurd hpage (not_isPage_contentObject _)
  contents i n hn := by
    rw [List.getElem?_map] at hn
    obtain ⟨j, hj, rfl⟩ := Option.map_eq_some_iff.1 hn
    obtain ⟨hi, rfl⟩ := List.getElem?_eq_some_iff.1 hj
    have hpage := getElem?_pages (List.length_range ▸ hi)
    rw [List.getElem_range, ofNumber?_pageNumber, hpage]
    refine ⟨contentNumber i, content (pageAt lines i), rfl, ?_, draws_content _⟩
    rw [ofNumber?_contentNumber, hpage]
    rfl
  streams n body hbody hstream := by
    cases isObject_of_ofNumber? hbody with
    | catalog => exact absurd hstream (by decide +kernel)
    | pageTree => exact absurd hstream (not_isStream_pageTree _)
    | font => exact absurd hstream (by decide +kernel)
    | page => exact absurd hstream (not_isStream_pageObject _)
    | content => exact ⟨_, rfl⟩

/-! ## The table -/

theorem length_offsetEntry {offset : Nat} (h : offset < 10 ^ 10) :
    (offsetEntry offset).length = 20 := by
  rw [offsetEntry, List.length_append, length_zeroPadded (by decide) h]
  rfl

/-- The entries of the table, the one for no object first. -/
def entries (bodies : List (List Char)) : List (List Char) :=
  "0000000000 65535 f \n".toList ::
    (offsetsFrom opening.length (numberedFrom 1 bodies)).map offsetEntry

def tablePlace (bodies : List (List Char)) : Nat :=
  opening.length + (numberedFrom 1 bodies).flatten.length

theorem length_entries (bodies : List (List Char)) :
    (entries bodies).length = bodies.length + 1 := by
  rw [entries, List.length_cons, List.length_map, length_offsetsFrom, numberedFrom_eq,
    List.length_mapIdx]

theorem document_eq (lines : List String) :
    document lines = opening ++ (numberedFrom 1 (objects lines)).flatten ++
      crossReferences (entries (objects lines)) ++
      trailer ((objects lines).length + 1) (tablePlace (objects lines)) := by
  have hhead : "\n0000000000 65535 f \n".toList =
      "\n".toList ++ "0000000000 65535 f \n".toList := by decide +kernel
  unfold document crossReferences trailer
  rw [length_entries, entries, hhead, List.flatten_cons, ← List.flatMap_def, tablePlace]
  simp only [List.append_assoc]

theorem isIndexed_document (lines : List String) :
    IsIndexed (document lines) (objects lines) (entries (objects lines))
      (tablePlace (objects lines)) where
  whole := by
    rw [document_eq, numberedFrom_eq]
    rfl
  length := length_entries _
  places n body hbody := by
    cases n with
    | zero => exact absurd hbody nofun
    | succ n =>
      have hpart : (numberedFrom 1 (objects lines))[n]? = some (numbered (n + 1) body) := by
        rw [numberedFrom_eq, List.getElem?_mapIdx, show (objects lines)[n]? = some body from hbody]
        rfl
      obtain ⟨offset, hoffset, hstands⟩ := exists_offset opening
        (crossReferences (entries (objects lines)) ++
          trailer ((objects lines).length + 1) (tablePlace (objects lines))) hpart
      refine ⟨zeroPadded 10 offset, ?_, fun c hc => isDigit_of_mem_zeroPadded hc, ?_⟩
      · rw [entries, List.getElem?_cons_succ, List.getElem?_map, hoffset]
        rfl
      · rw [natOfDigits_zeroPadded, document_eq, List.append_assoc (opening ++ _)]
        exact hstands
  widths hlength entry hentry := by
    rcases List.mem_cons.1 hentry with rfl | hmem
    · decide +kernel
    · obtain ⟨offset, hoffset, rfl⟩ := List.mem_map.1 hmem
      have hle := offset_le offset hoffset
      rw [document_eq, List.length_append, List.length_append, List.length_append] at hlength
      exact length_offsetEntry (by omega)
  table := by
    rw [document_eq, tablePlace, ← List.length_append]
    exact standsAt_length ..

theorem areBytes_offsetEntry (offset : Nat) : AreBytes (offsetEntry offset) :=
  (areBytes_of_isDigit fun _ hc => isDigit_of_mem_zeroPadded hc).append (by decide +kernel)

theorem areBytes_entries (bodies : List (List Char)) :
    ∀ entry ∈ entries bodies, AreBytes entry := by
  intro entry hentry
  rcases List.mem_cons.1 hentry with rfl | hmem
  · decide +kernel
  · obtain ⟨offset, -, rfl⟩ := List.mem_map.1 hmem
    exact areBytes_offsetEntry offset

theorem areBytes_crossReferences {css : List (List Char)} (h : ∀ entry ∈ css, AreBytes entry) :
    AreBytes (crossReferences css) :=
  AreBytes.append (by decide +kernel) (areBytes_natText _)
    |>.append (by decide) |>.append (areBytes_flatten h)

theorem areBytes_trailer (size table : Nat) : AreBytes (trailer size table) :=
  AreBytes.append (by decide +kernel) (areBytes_natText _)
    |>.append (by decide +kernel) |>.append (areBytes_natText _) |>.append (by decide +kernel)

theorem areBytes_numberedFrom {n : Nat} {bodies : List (List Char)}
    (h : ∀ body ∈ bodies, AreBytes body) : ∀ part ∈ numberedFrom n bodies, AreBytes part := by
  rw [numberedFrom_eq]
  intro part hpart
  obtain ⟨i, hi, rfl⟩ := List.mem_mapIdx.1 hpart
  exact (areBytes_natText _).append (by decide +kernel)
    |>.append (h _ (List.getElem_mem hi)) |>.append (by decide +kernel)

theorem areBytes_document (lines : List String) : AreBytes (document lines) := by
  have hbodies : ∀ body ∈ objects lines, AreBytes body := by
    intro body hbody
    obtain ⟨n, hn⟩ := List.mem_iff_getElem?.1 hbody
    exact (isObject_of_ofNumber? (n := n + 1) hn).areBytes
  rw [document_eq]
  exact AreBytes.append (by decide +kernel) (areBytes_flatten (areBytes_numberedFrom hbodies))
    |>.append (areBytes_crossReferences (areBytes_entries _)) |>.append (areBytes_trailer _ _)

/-- A document is in order, whatever its lines are: the table tells where each object stands, each
stream tells how long it is, and the tree of pages leads to all pages in order and from each to its
lines. -/
theorem document_inOrder (lines : List String) : ∃ bodies entries table kids,
    IsIndexed (document lines) bodies entries table ∧ HasPages bodies lines kids ∧
      (bytes (document lines)).map (fun b => Char.ofNat b.toNat) = document lines :=
  ⟨objects lines, entries (objects lines), tablePlace (objects lines), _,
    isIndexed_document lines, hasPages_objects lines, map_bytes (areBytes_document lines)⟩

end Pdf
end CrossCheck
