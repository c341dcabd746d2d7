import CrossCheck.Compilation
import CrossCheck.Query.DateLiteral
import CrossCheck.Query.Lexeme
import Mathlib.Data.List.TakeWhile

/-!
Quoted values in queries.  Whatever a value holds, the literal that is made of it is read as one
literal wherever it stands, and typing the dates of a query leaves it as it is.
-/

namespace CrossCheck

/-- The literal of a text. -/
def Literal.ofText (value : String) : String := String.ofList (quote value.toList)

namespace Query

/-! ## Complete literals -/

/-- What follows a literal does not change where it ends. -/
theorem literalBody?_append_right {cs body rest : List Char}
    (h : literalBody? cs = some (body, rest)) (more : List Char) :
    literalBody? (cs ++ more) = some (body, rest ++ more) := by
  fun_induction literalBody? cs generalizing body with
  | case1 => cases h
  | case2 after =>
    obtain ⟨rfl, rfl⟩ := Prod.mk.inj (Option.some.inj h)
    rfl
  | case3 => cases h
  | case4 c after hc ih =>
    obtain ⟨⟨b, r⟩, hb, he⟩ := Option.map_eq_some_iff.1 h
    obtain ⟨rfl, rfl⟩ := Prod.mk.inj he
    rw [List.cons_append, List.cons_append, literalBody?, if_neg hc, ih hb]
    rfl
  | case5 => cases h
  | case6 c after hquote hbackslash hc ih =>
    obtain ⟨⟨b, r⟩, hb, he⟩ := Option.map_eq_some_iff.1 h
    obtain ⟨rfl, rfl⟩ := Prod.mk.inj he
    rw [List.cons_append, literalBody?, if_neg hc, ih hb]
    · rfl
    · exact hquote
    · exact fun d after' hd _ => hc hd

theorem escape_cons_marked {c : Char} (hc : c = '\'' ∨ c = '\\') (cs : List Char) :
    Literal.escape (c :: cs) = '\\' :: c :: Literal.escape cs := by
  rw [Literal.escape, if_pos]
  simpa using hc

theorem escape_cons_plain {c : Char} (hquote : c ≠ '\'') (hbackslash : c ≠ '\\')
    (cs : List Char) : Literal.escape (c :: cs) = c :: Literal.escape cs := by
  rw [Literal.escape, if_neg]
  simp [hquote, hbackslash]

/-- The literal of a value ends where the value does: each quote and each backslash of the value
stands behind a backslash of its own. -/
theorem literalBody?_escape (value rest : List Char) :
    literalBody? (Literal.escape value ++ '\'' :: rest) =
      some (Literal.escape value ++ ['\''], rest) := by
  induction value with
  | nil => rfl
  | cons c value ih =>
    by_cases hc : c = '\'' ∨ c = '\\'
    · have hline : c ≠ '\n' := by rcases hc with rfl | rfl <;> decide
      rw [escape_cons_marked hc, List.cons_append, List.cons_append, literalBody?, if_neg hline, ih]
      rfl
    · obtain ⟨hquote, hbackslash⟩ := not_or.1 hc
      rw [escape_cons_plain hquote hbackslash, List.cons_append, literalBody?, if_neg hbackslash,
        ih]
      · rfl
      · exact hquote
      · exact fun d after hd _ => hbackslash hd

/-! ## Pieces -/

theorem pieces_plain {c : Char} (hc : c ≠ '\'') (cs : List Char) :
    pieces (c :: cs) = consPlain c (pieces cs) := by
  rw [pieces, if_neg hc]

theorem pieces_literal {cs body rest : List Char} (h : literalBody? cs = some (body, rest)) :
    pieces ('\'' :: cs) = ⟨true, '\'' :: body⟩ :: pieces rest := by
  rw [pieces, if_pos rfl]
  split
  · next body' rest' h' =>
    obtain ⟨rfl, rfl⟩ := Prod.mk.inj (Option.some.inj (h.symm.trans h'))
    rfl
  · next h' => cases h.symm.trans h'

theorem pieces_lone {cs : List Char} (h : literalBody? cs = none) :
    pieces ('\'' :: cs) = consPlain '\'' (pieces cs) := by
  rw [pieces, if_pos rfl]
  split
  · next body' rest' h' => cases h.symm.trans h'
  · rfl

theorem pieces_quote (value rest : List Char) :
    pieces (Literal.quote value ++ rest) = ⟨true, Literal.quote value⟩ :: pieces rest := by
  have hbody := literalBody?_escape value rest
  rw [List.append_cons] at hbody
  exact pieces_literal hbody

/-- No quote stands outside the literals. -/
def Quoteless (ps : List Piece) : Prop := ∀ p ∈ ps, p.quoted = false → '\'' ∉ p.chars

theorem quoteless_nil : Quoteless [] := fun _ hp => absurd hp List.not_mem_nil

theorem quoteless_cons {p : Piece} {ps : List Piece} :
    Quoteless (p :: ps) ↔ (p.quoted = false → '\'' ∉ p.chars) ∧ Quoteless ps :=
  List.forall_mem_cons

theorem quoteless_consPlain {c : Char} {ps : List Piece} :
    Quoteless (consPlain c ps) ↔ c ≠ '\'' ∧ Quoteless ps := by
  have hc : c = '\'' ↔ '\'' = c := eq_comm
  cases ps with
  | nil => simp [consPlain, quoteless_cons, quoteless_nil, hc]
  | cons p ps =>
    obtain ⟨quoted, chars⟩ := p
    cases quoted with
    | true => simp [consPlain, quoteless_cons, hc]
    | false => simp [consPlain, quoteless_cons, hc, and_assoc]

/-- Every quote of a text belongs to a complete literal. -/
def IsClosed (cs : List Char) : Prop := Quoteless (pieces cs)

theorem isClosed_nil : IsClosed [] := by
  rw [IsClosed, pieces]
  exact quoteless_nil

theorem isClosed_literal_iff {cs body rest : List Char} (h : literalBody? cs = some (body, rest)) :
    IsClosed ('\'' :: cs) ↔ IsClosed rest := by
  rw [IsClosed, pieces_literal h, quoteless_cons]
  exact and_iff_right fun hquoted => absurd hquoted.symm Bool.false_ne_true

theorem isClosed_plain_iff {c : Char} (hc : c ≠ '\'') (cs : List Char) :
    IsClosed (c :: cs) ↔ IsClosed cs := by
  rw [IsClosed, pieces_plain hc, quoteless_consPlain]
  exact and_iff_right hc

theorem not_isClosed_lone {cs : List Char} (h : literalBody? cs = none) :
    ¬ IsClosed ('\'' :: cs) := by
  rw [IsClosed, pieces_lone h, quoteless_consPlain]
  exact fun hclosed => hclosed.1 rfl

/-- A closed text is made of literals and of the characters between them. -/
@[elab_as_elim]
theorem IsClosed.induction {motive : (cs : List Char) → IsClosed cs → Prop}
    (nil : motive [] isClosed_nil)
    (literal : ∀ cs body rest (hbody : literalBody? cs = some (body, rest)) (h : IsClosed rest),
      motive rest h → motive ('\'' :: cs) ((isClosed_literal_iff hbody).2 h))
    (plain : ∀ c cs (hc : c ≠ '\'') (h : IsClosed cs),
      motive cs h → motive (c :: cs) ((isClosed_plain_iff hc cs).2 h))
    {cs : List Char} (h : IsClosed cs) : motive cs h := by
  fun_induction pieces cs with
  | case1 => exact nil
  | case2 cs body rest hbody ih =>
    exact literal cs body rest hbody _ (ih ((isClosed_literal_iff hbody).1 h))
  | case3 cs hbody ih => exact absurd h (not_isClosed_lone hbody)
  | case4 c cs hquote ih => exact plain c cs hquote _ (ih ((isClosed_plain_iff hquote cs).1 h))

theorem isClosed_of_not_mem {cs : List Char} (h : '\'' ∉ cs) : IsClosed cs := by
  induction cs with
  | nil => exact isClosed_nil
  | cons c cs ih =>
    rw [List.mem_cons, not_or] at h
    exact (isClosed_plain_iff (Ne.symm h.1) cs).2 (ih h.2)

theorem isClosed_quote (value : List Char) : IsClosed (Literal.quote value) := by
  have hbody := literalBody?_escape value []
  rw [List.append_cons, List.append_nil] at hbody
  exact (isClosed_literal_iff hbody).2 isClosed_nil

theorem IsClosed.append {cs ds : List Char} (hc : IsClosed cs) (hd : IsClosed ds) :
    IsClosed (cs ++ ds) := by
  induction hc using IsClosed.induction with
  | nil => exact hd
  | literal cs body rest hbody _ ih =>
    exact (isClosed_literal_iff (literalBody?_append_right hbody ds)).2 ih
  | plain c cs hquote _ ih => exact (isClosed_plain_iff hquote (cs ++ ds)).2 ih

theorem consPlain_append (c : Char) (ps : List Piece) {qs : List Piece}
    (hq : ∀ q ∈ qs.head?, q.quoted = true) :
    consPlain c (ps ++ qs) = consPlain c ps ++ qs := by
  cases ps with
  | nil =>
    cases qs with
    | nil => rfl
    | cons q qs =>
      obtain ⟨quoted, chars⟩ := q
      obtain rfl : quoted = true := hq _ rfl
      rfl
  | cons p ps =>
    obtain ⟨quoted, chars⟩ := p
    cases quoted <;> rfl

/-- The pieces of a closed text stay as they are before a text that begins with a literal.  Before
another text the last of them may go on. -/
theorem IsClosed.pieces_append {cs ds : List Char} (h : IsClosed cs)
    (hd : ∀ p ∈ (pieces ds).head?, p.quoted = true) :
    pieces (cs ++ ds) = pieces cs ++ pieces ds := by
  induction h using IsClosed.induction with
  | nil => rw [pieces, List.nil_append, List.nil_append]
  | literal cs body rest hbody _ ih =>
    rw [List.cons_append, pieces_literal hbody,
      pieces_literal (literalBody?_append_right hbody ds), ih, List.cons_append]
  | plain c cs hquote _ ih =>
    rw [List.cons_append, pieces_plain hquote, pieces_plain hquote, ih, consPlain_append c _ hd]

/-! ## Values on their way -/

theorem textBody?_plain {quote c : Char} (hquote : c ≠ quote) (hbackslash : c ≠ '\\')
    (cs : List Char) :
    Form.textBody? quote (c :: cs) = Form.consChar c (Form.textBody? quote cs) := by
  cases cs with
  | nil => simp [Form.textBody?, Form.consChar, hquote]
  | cons d cs => rw [Form.textBody?, if_neg hbackslash, if_neg hquote]

theorem textBody?_marked {c : Char} (hc : c = '\'' ∨ c = '\\') (cs : List Char) :
    Form.textBody? '\'' ('\\' :: c :: cs) = Form.consChar c (Form.textBody? '\'' cs) := by
  rcases hc with rfl | rfl <;> rfl

/-- The reader of queries takes back what escaping has done.  A second quote right behind the
closing one would be a part of the text. -/
theorem textBody?_escape (value : List Char) {rest : List Char} (h : rest.head? ≠ some '\'') :
    Form.textBody? '\'' (Literal.escape value ++ '\'' :: rest) = some (value, rest) := by
  induction value with
  | nil =>
    cases rest with
    | nil => rfl
    | cons d rest =>
      have hd : d ≠ '\'' := fun heq => h (congrArg some heq)
      rw [Literal.escape, List.nil_append, Form.textBody?, if_neg (by decide), if_pos rfl,
        if_neg hd]
  | cons c value ih =>
    by_cases hc : c = '\'' ∨ c = '\\'
    · rw [escape_cons_marked hc, List.cons_append, List.cons_append, textBody?_marked hc, ih]
      rfl
    · obtain ⟨hquote, hbackslash⟩ := not_or.1 hc
      rw [escape_cons_plain hquote hbackslash, List.cons_append,
        textBody?_plain hquote hbackslash, ih]
      rfl

theorem lettered?_quote (cs : List Char) : Form.lettered? '\'' cs = none := by
  cases cs with
  | nil => rfl
  | cons d cs => simp [Form.lettered?]

theorem next?_escape (value : List Char) {rest : List Char} (h : rest.head? ≠ some '\'') :
    Form.next? '\'' (Literal.escape value ++ '\'' :: rest) = some (.text value, rest) := by
  rw [Form.next?, lettered?_quote, textBody?_escape value h]
  rfl

theorem typeDatesChars_of_pieces {cs ds es literal : List Char}
    (h : pieces cs = pieces ds ++ ⟨true, literal⟩ :: pieces es) :
    typeDatesChars cs = typeDatesChars ds ++ literal ++ typeDatesChars es := by
  rw [typeDatesChars, h, List.flatMap_append, List.flatMap_cons, if_pos rfl, List.append_assoc]
  rfl

/-- How a query is worked on that has the literal of a value between two texts. -/
structure Carries (before value after : String) : Prop where
  /-- The literal is one piece, and the texts are cut as they are alone. -/
  pieces : pieces (before ++ Literal.ofText value ++ after).toList =
    pieces before.toList ++ ⟨true, (Literal.ofText value).toList⟩ :: pieces after.toList
  typed : typeDates (before ++ Literal.ofText value ++ after) =
    typeDates before ++ Literal.ofText value ++ typeDates after
  /-- What the reader of queries makes of the literal. -/
  read : after.toList.head? ≠ some '\'' → ∃ body,
    (Literal.ofText value).toList = '\'' :: body ∧
      Form.next? '\'' (body ++ after.toList) = some (.text value.toList, after.toList)

theorem carries_of_isClosed {before : String} (h : IsClosed before.toList)
    (value after : String) : Carries before value after := by
  have hliteral : (Literal.ofText value).toList = Literal.quote value.toList :=
    String.toList_ofList
  have hpieces : Query.pieces (before ++ Literal.ofText value ++ after).toList =
      Query.pieces before.toList ++
        ⟨true, (Literal.ofText value).toList⟩ :: Query.pieces after.toList := by
    rw [String.toList_append, String.toList_append, hliteral, List.append_assoc, ← pieces_quote]
    refine h.pieces_append fun p hp => ?_
    rw [pieces_quote, List.head?_cons, Option.mem_some_iff] at hp
    rw [← hp]
  refine ⟨hpieces, ?_, fun hafter => ⟨Literal.escape value.toList ++ ['\''], hliteral, ?_⟩⟩
  · rw [typeDates, typeDatesChars_of_pieces hpieces, String.ofList_append, String.ofList_append,
      String.ofList_toList]
    rfl
  · rw [← List.append_cons]
    exact next?_escape value.toList hafter

end Query

/-! ## Values of conditions -/

namespace Condition

/-- A condition is a single comparison with a value that is no literal yet. -/
structure IsBare (condition : String) (c : Simple) : Prop where
  single : isCompound (Text.trim condition.toList) = false
  read : Simple.read? (Text.trim condition.toList) = some c
  bare : Literal.isLiteral c.value = false

/-- A comparison up to its value. -/
def Simple.opening (c : Simple) : String := String.ofList (c.field ++ ' ' :: c.operator ++ [' '])

theorem normalize_of_isBare {condition : String} {c : Simple} (h : IsBare condition c) :
    normalize condition = c.opening ++ Literal.ofText (String.ofList c.value) := by
  rw [normalize, normalizeTrimmed, if_neg (by rw [h.single]; exact Bool.false_ne_true), h.read]
  dsimp only
  rw [if_neg (by rw [h.bare]; exact Bool.false_ne_true), Simple.write, Simple.opening,
    Literal.ofText, String.toList_ofList, ← String.ofList_append]
  simp

theorem quote_not_mem_of_splitOperator? {cs op value : List Char}
    (h : Simple.splitOperator? cs = some (op, value)) : '\'' ∉ op := by
  obtain ⟨name, hname, h⟩ := List.exists_of_findSome?_eq_some h
  have hquote : ∀ name ∈ operators, '\'' ∉ name.toList := by decide
  split at h
  · dsimp only at h
    split at h
    · exact absurd h nofun
    · rw [← (Prod.mk.inj (Option.some.inj h)).1]
      exact hquote name hname
  · exact absurd h nofun

theorem quote_not_mem_opening {cs : List Char} {c : Simple} (h : Simple.read? cs = some c) :
    '\'' ∉ c.opening.toList := by
  have hstart : isNameStart '\'' = false := by decide
  have hpart : isNamePart '\'' = false := by decide +kernel
  cases cs with
  | nil => cases h
  | cons d cs =>
    rw [Simple.read?] at h
    split at h
    · next hd =>
      obtain ⟨⟨op, value⟩, hop, rfl⟩ := Option.map_eq_some_iff.1 h
      rw [Simple.opening, String.toList_ofList]
      have hd' : d ≠ '\'' := by
        rintro rfl
        exact absurd (hstart.symm.trans hd) Bool.false_ne_true
      have hmore : '\'' ∉ (Text.span isNamePart cs).1 := fun hmem =>
        absurd (hpart.symm.trans (List.mem_takeWhile_imp hmem)) Bool.false_ne_true
      have hop' := quote_not_mem_of_splitOperator? hop
      simp only [List.cons_append, List.mem_cons, List.mem_append, List.not_mem_nil, or_false]
      rintro (heq | (hmem | heq | hmem) | heq)
      · exact hd' heq.symm
      · exact hmore hmem
      · exact absurd heq (by decide)
      · exact hop' hmem
      · exact absurd heq (by decide)
    · cases h

/-! ## Conditions in queries -/

/-- A query of its own condition up to that condition. -/
def queryBefore (object columns : String) (filter : Option String) : String :=
  "SELECT " ++ columns ++ " FROM " ++ object ++ " WHERE " ++
    match filter with
    | some f => "(" ++ f ++ ") AND ("
    | none => ""

def queryAfter (filter : Option String) : String := if filter.isSome then ")" else ""

theorem selectQuery_bothHold (object columns : String) (filter : Option String)
    {condition : String} (h : condition ≠ "") :
    selectQuery object columns (some (Compilation.bothHold filter condition)) =
      queryBefore object columns filter ++ condition ++ queryAfter filter := by
  cases filter with
  | none =>
    rw [selectQuery, Compilation.bothHold, if_neg h]
    simp [queryBefore, queryAfter, String.append_assoc]
  | some f =>
    have hne : Compilation.bothHold (some f) condition ≠ "" := by
      intro heq
      have hchars := congrArg String.toList heq
      simp [Compilation.bothHold] at hchars
    rw [selectQuery, if_neg hne]
    simp [Compilation.bothHold, queryBefore, queryAfter, String.append_assoc]

/-- Wherever a literal stands behind complete ones, it is read as one literal, and what is done to
dates is done to the texts around it as if they were alone.  So it is with the literal that a
condition gets for its value, also in the query that is made for the condition. -/
theorem normalize_carries :
    (∀ before : String, Query.IsClosed before.toList →
      ∀ value after, Query.Carries before value after) ∧
    ∀ condition c, IsBare condition c →
      normalize condition = c.opening ++ Literal.ofText (String.ofList c.value) ∧
      (∀ before : String, Query.IsClosed before.toList →
        ∀ after, Query.Carries (before ++ c.opening) (String.ofList c.value) after) ∧
      ∀ object columns filter,
        selectQuery object columns (some (Compilation.bothHold filter (normalize condition))) =
          queryBefore object columns filter ++ c.opening ++
            Literal.ofText (String.ofList c.value) ++ queryAfter filter := by
  refine ⟨fun before h value after => Query.carries_of_isClosed h value after, ?_⟩
  intro condition c hc
  refine ⟨normalize_of_isBare hc, fun before h after => ?_, fun object columns filter => ?_⟩
  · have hopening := Query.isClosed_of_not_mem (quote_not_mem_opening hc.read)
    have hclosed : Query.IsClosed (before ++ c.opening).toList := by
      rw [String.toList_append]
      exact h.append hopening
    exact Query.carries_of_isClosed hclosed (String.ofList c.value) after
  · have hne : normalize condition ≠ "" := by
      intro heq
      have hchars := congrArg String.toList ((normalize_of_isBare hc).symm.trans heq)
      simp [Simple.opening] at hchars
    rw [selectQuery_bothHold object columns filter hne, normalize_of_isBare hc]
    simp only [String.append_assoc]

/-- A value with everything that could end a literal early: both marks, a backslash before a quote,
a backslash before a line feed, and a date. -/
def hostileValue : String := "O'Brien \\' \\\n2024-01-01"

theorem normalize_carries_hostile :
    Query.IsClosed "Name = 'a' AND Opened > 2024-01-01 AND ".toList ∧
      IsBare ("Note = " ++ hostileValue) ⟨"Note".toList, ['='], hostileValue.toList⟩ ∧
      Query.Carries "Name = 'a' AND Opened > 2024-01-01 AND " hostileValue "'" ∧
      Query.Carries ("Name = 'a' AND Opened > 2024-01-01 AND " ++
        Simple.opening ⟨"Note".toList, ['='], hostileValue.toList⟩) hostileValue ")" := by
  have hclosed : Query.IsClosed "Name = 'a' AND Opened > 2024-01-01 AND ".toList := by
    have hsplit : "Name = 'a' AND Opened > 2024-01-01 AND ".toList = "Name = ".toList ++
        (Literal.quote "a".toList ++ " AND Opened > 2024-01-01 AND ".toList) := by decide
    rw [hsplit]
    exact (Query.isClosed_of_not_mem (by decide)).append
      ((Query.isClosed_quote _).append (Query.isClosed_of_not_mem (by decide)))
  have hbare : IsBare ("Note = " ++ hostileValue) ⟨"Note".toList, ['='], hostileValue.toList⟩ :=
    ⟨by decide +kernel, by decide +kernel, by decide +kernel⟩
  exact ⟨hclosed, hbare, normalize_carries.1 _ hclosed _ _,
    (normalize_carries.2 _ _ hbare).2.1 _ hclosed ")"⟩

end Condition
end CrossCheck
