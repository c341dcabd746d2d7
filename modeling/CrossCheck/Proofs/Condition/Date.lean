import CrossCheck.Proofs.Condition.Literal
import CrossCheck.Proofs.Condition.Normal
import CrossCheck.Proofs.Query.Date

/-!
Dates in conditions.  What a condition may compare with as it stands, a query reads in the same
way: of a normal condition the value is typed if it is a bare date as a whole, and nothing else is
touched.  Quoted values are the exception: only single quotes keep the dates of a literal.
-/

namespace CrossCheck
namespace Condition

open Text Query WrittenTime

/-! ## Openings -/

namespace Written

variable (w : Written)

theorem dash_not_mem_opening : '-' ∉ w.opening :=
  w.not_mem_opening (by decide +kernel) (by decide) (by decide)

theorem quote_not_mem_opening : '\'' ∉ w.opening :=
  w.not_mem_opening (by decide +kernel) (by decide) (by decide)

theorem clings_last_opening : ∀ c ∈ w.opening.getLast?, clings c = false := by
  intro c hc
  have hmem := List.mem_of_getLast? hc
  have hquote : c ≠ '\'' := fun h => w.quote_not_mem_opening (h ▸ hmem)
  have hdash : c ≠ '-' := fun h => w.dash_not_mem_opening (h ▸ hmem)
  have hword : isWord c = false := (w.last_opening c hc).elim isWord_of_isBlank isWord_of_isMark
  simp [clings, hquote, hdash, hword]

theorem undated_opening : Undated w.opening := undated_of_not_mem w.dash_not_mem_opening

theorem undated_chars (h : Undated w.value) : Undated w.chars :=
  w.undated_opening.append h (.inl fun c hc => isDigit_of_clings (w.clings_last_opening c hc))

end Written

/-! ## Values that are no dates -/

theorem undated_of_signing {sign : List Char} (h : Literal.IsSigning sign) :
    Undated sign ∧ ∀ c ∈ sign.getLast?, isDigit c = false := by
  rcases h with rfl | rfl | rfl
  · exact ⟨List.isChain_nil, nofun⟩
  · exact ⟨List.isChain_singleton _, fun c hc => Option.some.inj hc ▸ by decide⟩
  · exact ⟨List.isChain_singleton _, fun c hc => Option.some.inj hc ▸ by decide⟩

theorem undated_exponent {cs : List Char} (h : Literal.ExponentForm cs) :
    Undated cs ∧ ∀ c ∈ cs.head?, c ≠ '-' := by
  cases h with
  | none => exact ⟨List.isChain_nil, nofun⟩
  | @some e sign digits he hsign hdigits =>
    obtain ⟨hsigning, hlast⟩ := undated_of_signing hsign
    have hcount : Undated digits := undated_of_not_mem (not_mem_of_all (by decide) hdigits)
    have htail : Undated (sign ++ digits) := hsigning.append hcount (.inl hlast)
    have hmark : isDigit e = false ∧ e ≠ '-' := by rcases he with rfl | rfl <;> decide
    refine ⟨Undated.append (List.isChain_singleton e) htail (.inl fun c hc => ?_), fun c hc => ?_⟩
    · exact Option.some.inj hc ▸ hmark.1
    · exact Option.some.inj hc ▸ hmark.2

/-- In a number a dash stands at the beginning or behind the mark of the exponent. -/
theorem undated_number {cs : List Char} (h : Literal.isNumber cs = true) : Undated cs := by
  obtain ⟨sign, mantissa, exponent, hsign, hmantissa, hexponent, rfl⟩ := Literal.isNumber_sound h
  obtain ⟨hsigning, hlast⟩ := undated_of_signing hsign
  obtain ⟨hpower, hhead⟩ := undated_exponent hexponent
  have hdigits : Undated mantissa := undated_of_not_mem (not_mem_of_all (by decide) hmantissa)
  have htail : Undated (mantissa ++ exponent) := hdigits.append hpower (.inr hhead)
  exact hsigning.append htail (.inl hlast)

theorem undated_of_isLiteral {cs : List Char} (h : Literal.isLiteral cs = true)
    (hquoted : Literal.isQuoted cs = false) (hday : isDay cs = false)
    (hmoment : isMoment cs = false) : Undated cs := by
  rcases Literal.isLiteral_cases h with h | h | (h | h) | h
  · exact absurd (h.symm.trans hquoted) nofun
  · exact undated_number h
  · exact absurd (h.symm.trans hday) nofun
  · exact absurd (h.symm.trans hmoment) nofun
  · exact undated_of_not_mem (h '-' (by decide +kernel))

/-- A value that gets quotes keeps its dates. -/
theorem typeDates_of_isBare {condition : String} {c : Simple} (h : IsBare condition c) :
    typeDates (normalize condition) = normalize condition := by
  obtain ⟨w, hchars, -⟩ := exists_quotedWritten h
  have hopening : typeDates c.opening = c.opening := by
    rw [typeDates, ← hchars, w.undated_opening.typeDatesChars, hchars, String.ofList_toList]
  have hclosed : IsClosed c.opening.toList :=
    isClosed_of_not_mem (quote_not_mem_opening h.read)
  have htyped := (carries_of_isClosed hclosed (String.ofList c.value) "").typed
  have hempty : typeDates "" = "" := by
    rw [typeDates, String.toList_empty, Undated.typeDatesChars List.isChain_nil, String.ofList_nil]
  rw [hopening, hempty, String.append_empty] at htyped
  rw [normalize_of_isBare h, htyped]

/-! ## Dates and other values -/

theorem typeDates_eq_self_iff {query : String} :
    typeDates query = query ↔ typeDatesChars query.toList = query.toList := by
  rw [typeDates, ← String.toList_inj, String.toList_ofList]

theorem typeDates_time (w : Written) {t : WrittenTime} (h : t.IsFormed)
    (hvalue : w.value = t.chars) :
    typeDates (String.ofList w.chars) = String.ofList (w.opening ++ typedLiteral t) := by
  rw [typeDates, String.toList_ofList, Written.chars, hvalue, typeDatesChars_opening h
    w.dash_not_mem_opening w.quote_not_mem_opening w.clings_last_opening]

/-- Of a single comparison whose value stands in no quotes, a value that is a date, with a clock
and a zone or without, is left as it is by normalizing and typed as a whole by the query, which
keeps all that stands before it.  With any other value, be it a literal or quoted by normalizing,
nothing in the normal condition is typed. -/
theorem typeDates_normalize (condition : String) (c : Simple)
    (hsingle : isCompound (trim condition.toList) = false)
    (hread : Simple.read? (trim condition.toList) = some c)
    (hquoted : Literal.isQuoted c.value = false) :
    ∃ before, trim condition.toList = before ++ c.value ∧
      (∀ t : WrittenTime, t.IsDate → c.value = t.chars →
        normalize condition = String.ofList (before ++ t.chars) ∧
          typeDates (normalize condition) = String.ofList (before ++ ("CAST('".toList ++ t.day ++
            t.clock.elim "' AS DATE)".toList fun clock =>
              ' ' :: clock ++ "' AS TIMESTAMP)".toList))) ∧
      ((∀ t : WrittenTime, t.IsDate → c.value ≠ t.chars) →
        typeDates (normalize condition) = normalize condition) := by
  obtain ⟨w, hchars, -, -, hvalue, -, -⟩ :=
    exists_written_of_read? (trim_trim condition.toList) hread
  have hkept (hliteral : Literal.isLiteral c.value = true) :
      normalize condition = String.ofList w.chars := by
    rw [normalize, normalizeTrimmed_of_not_bare, hchars]
    intro d _ hd
    obtain rfl := Option.some.inj (hread.symm.trans hd)
    exact hliteral
  refine ⟨w.opening, by rw [← hvalue, ← hchars]; rfl, fun t hdate ht => ?_, fun hnone => ?_⟩
  · have hliteral := Literal.isLiteral_of_isDate hdate
    rw [← ht] at hliteral
    have htyped := typeDates_time w hdate.toIsFormed (hvalue.trans ht)
    rw [hkept hliteral]
    refine ⟨?_, htyped.trans ?_⟩
    · rw [Written.chars, hvalue, ht]
    · rw [typedLiteral_eq]
  · have hno : ¬(isDay c.value = true ∨ isMoment c.value = true) := fun h => by
      obtain ⟨t, hdate, ht⟩ := isDay_or_isMoment_iff.1 h
      exact hnone t hdate ht.symm
    rw [not_or, Bool.not_eq_true, Bool.not_eq_true] at hno
    cases hliteral : Literal.isLiteral c.value with
    | true =>
      have hundated : Undated w.value :=
        hvalue ▸ undated_of_isLiteral hliteral hquoted hno.1 hno.2
      rw [hkept hliteral, typeDates_eq_self_iff, String.toList_ofList]
      exact (w.undated_chars hundated).typeDatesChars
    | false => exact typeDates_of_isBare ⟨hsingle, hread, hliteral⟩

/-- Half a second past half past nine, an hour east. -/
def openedAt : WrittenTime where
  day := "2024".toList ++ '-' :: "03".toList ++ '-' :: "01".toList
  clock := some ("09".toList ++ ':' :: "30".toList ++ ':' :: "00".toList ++ '.' :: "5".toList)
  zone := some ('+' :: "01".toList ++ ':' :: "00".toList)

theorem isDate_openedAt : openedAt.IsDate where
  day := .intro ⟨rfl, by decide⟩ ⟨rfl, by decide⟩ ⟨rfl, by decide⟩
  clock := by
    rintro _ ⟨⟩
    exact .fraction ⟨rfl, by decide⟩ ⟨rfl, by decide⟩ ⟨rfl, by decide⟩ nofun (by decide)
  zone := by
    rintro _ ⟨⟩
    exact .colon (.inl rfl) ⟨rfl, by decide⟩ ⟨rfl, by decide⟩
  zone_clock := nofun

def openedSince : Simple := ⟨"Opened".toList, ">=".toList, "2024-03-01T09:30:00.5+01:00".toList⟩

def namedByDate : Simple := ⟨"Name".toList, "=".toList, "since 2024-03-01".toList⟩

theorem typeDates_normalize_opened :
    typeDates (normalize "Opened >=\t2024-03-01T09:30:00.5+01:00 ") =
        "Opened >=\tCAST('2024-03-01 09:30:00.5' AS TIMESTAMP)" ∧
      typeDates (normalize "Name = since 2024-03-01") = normalize "Name = since 2024-03-01" := by
  constructor
  · obtain ⟨before, hbefore, hdate, -⟩ := typeDates_normalize
      "Opened >=\t2024-03-01T09:30:00.5+01:00 " openedSince (by decide +kernel)
      (by decide +kernel) (by decide)
    have hwhole : trim "Opened >=\t2024-03-01T09:30:00.5+01:00 ".toList =
        "Opened >=\t".toList ++ openedSince.value := by decide
    have hopening := List.append_cancel_right (hbefore.symm.trans hwhole)
    rw [(hdate openedAt isDate_openedAt (by decide)).2, hopening]
    decide
  · obtain ⟨-, -, -, hkept⟩ := typeDates_normalize "Name = since 2024-03-01" namedByDate
      (by decide +kernel) (by decide +kernel) (by decide)
    refine hkept fun t ht heq => ?_
    have hneither : isDay namedByDate.value = false ∧ isMoment namedByDate.value = false := by
      decide +kernel
    rcases isDay_or_isMoment_iff.2 ⟨t, ht, heq.symm⟩ with h | h
    · exact absurd (h.symm.trans hneither.1) nofun
    · exact absurd (h.symm.trans hneither.2) nofun

/-! ## Complete literals -/

/-- A literal in single quotes is complete for the query, unless a backslash stands before a line
feed. -/
theorem literalBody?_fits {body : List Char} (h : Literal.Fits '\'' body)
    (hline : '\n' ∉ Literal.escapedChars body) (rest : List Char) :
    literalBody? (body ++ '\'' :: rest) = some (body ++ ['\''], rest) := by
  induction h with
  | nil => rfl
  | @plain c cs hmark hbackslash _ ih =>
    rw [Literal.escapedChars_plain hbackslash] at hline
    rw [List.cons_append, literalBody?, if_neg hbackslash, ih hline]
    · rfl
    · exact hmark
    · exact fun d after hd _ => hbackslash hd
  | @escaped c cs _ ih =>
    rw [Literal.escapedChars, List.mem_cons, not_or] at hline
    rw [List.cons_append, List.cons_append, literalBody?, if_neg (Ne.symm hline.1), ih hline.2]
    rfl

theorem typeDatesChars_literal (w : Written) {body : List Char}
    (hvalue : w.value = '\'' :: (body ++ ['\''])) (h : Literal.Fits '\'' body)
    (hline : '\n' ∉ Literal.escapedChars body) : typeDatesChars w.chars = w.chars := by
  have hliteral : pieces w.value = [⟨true, w.value⟩] := by
    rw [hvalue, pieces_literal (literalBody?_fits h hline []), pieces]
  have hclosed := isClosed_of_not_mem w.quote_not_mem_opening
  have hpieces : pieces w.chars = pieces w.opening ++ ⟨true, w.value⟩ :: pieces [] := by
    rw [Written.chars, hclosed.pieces_append, hliteral, pieces]
    intro p hp
    rw [hliteral] at hp
    exact Option.some.inj hp ▸ rfl
  rw [typeDatesChars_of_pieces hpieces, w.undated_opening.typeDatesChars,
    Undated.typeDatesChars List.isChain_nil, List.append_nil, Written.chars]

/-- A comparison with a complete literal, in single or in double quotes, is only trimmed.  The
query leaves the literal alone if its quotes are single and no backslash in it stands before a
line feed; in general it does exactly if no bare date stands outside what single quotes
enclose. -/
theorem typeDates_literal (condition : String) (w : Written) {mark : Char} {body : List Char}
    (hcondition : trim condition.toList = w.chars) (hmark : mark = '\'' ∨ mark = '"')
    (hvalue : w.value = mark :: (body ++ [mark])) (hfits : Literal.Fits mark body) :
    normalize condition = strip condition ∧
      (mark = '\'' → '\n' ∉ Literal.escapedChars body →
        typeDates (normalize condition) = normalize condition) ∧
      (typeDates (normalize condition) = normalize condition ↔
        ∀ p ∈ pieces w.chars, p.quoted = false → Timeless p.chars) := by
  have hread : Simple.read? w.chars = some ⟨w.field, w.operator, w.value⟩ := by
    refine read?_written w ?_ ?_ ?_ <;> rw [hvalue]
    · exact head_marks hmark _
    · exact trim_marks hmark body
    · exact List.cons_ne_nil _ _
  have hkept : normalize condition = String.ofList w.chars := by
    rw [normalize, hcondition, normalizeTrimmed_of_not_bare]
    intro c _ hc
    obtain rfl := Option.some.inj (hread.symm.trans hc)
    exact Literal.isLiteral_of_isQuoted (hvalue ▸ Literal.isQuoted_of_marks hmark body)
  refine ⟨by rw [hkept, strip, hcondition], fun hsingle hline => ?_, ?_⟩
  · subst hsingle
    rw [hkept, typeDates_eq_self_iff, String.toList_ofList]
    exact typeDatesChars_literal w hvalue hfits hline
  · rw [hkept, typeDates_eq_self_iff, String.toList_ofList]
    exact typeDatesChars_eq_self_iff

def noteInQuotes (value : List Char) : Written :=
  .spaced "Note".toList ['='] value (by decide +kernel) known_equal

theorem typeDates_literal_escaped :
    normalize " Note = 'it\\'s 2024-01-01'" = "Note = 'it\\'s 2024-01-01'" ∧
      typeDates "Note = 'it\\'s 2024-01-01'" = "Note = 'it\\'s 2024-01-01'" := by
  obtain ⟨hkept, htyped, -⟩ := typeDates_literal " Note = 'it\\'s 2024-01-01'"
    (noteInQuotes (Literal.quote "it's 2024-01-01".toList)) (by decide) (.inl rfl) rfl
    (Literal.fits_escape "it's 2024-01-01".toList)
  have hstrip : strip " Note = 'it\\'s 2024-01-01'" = "Note = 'it\\'s 2024-01-01'" := by decide
  have hsame := htyped rfl (by decide)
  rw [hkept, hstrip] at hsame
  exact ⟨hkept.trans hstrip, hsame⟩

/-- A date in double quotes is typed, and so is one in single quotes behind a backslash and a line
feed. -/
theorem typeDates_inside_literal :
    (∃ w : Written, w.value = '"' :: ("2024-01-01".toList ++ ['"']) ∧
      Literal.Fits '"' "2024-01-01".toList ∧
      String.ofList w.chars = "Note = \"2024-01-01\"") ∧
    normalize "Note = \"2024-01-01\"" = "Note = \"2024-01-01\"" ∧
    typeDates "Note = \"2024-01-01\"" = "Note = \"CAST('2024-01-01' AS DATE)\"" ∧
    (∃ w : Written, w.value = '\'' :: ("a\\\n2024-01-01 b".toList ++ ['\'']) ∧
      Literal.Fits '\'' "a\\\n2024-01-01 b".toList ∧
      String.ofList w.chars = "Note = 'a\\\n2024-01-01 b'") ∧
    normalize "Note = 'a\\\n2024-01-01 b'" = "Note = 'a\\\n2024-01-01 b'" ∧
    typeDates "Note = 'a\\\n2024-01-01 b'" = "Note = 'a\\\nCAST('2024-01-01' AS DATE) b'" := by
  refine ⟨⟨noteInQuotes "\"2024-01-01\"".toList, by decide, ?_, by decide⟩, by decide +kernel,
    by decide +kernel, ⟨noteInQuotes "'a\\\n2024-01-01 b'".toList, by decide, ?_, by decide⟩,
    by decide +kernel, by decide +kernel⟩
  · exact Literal.fits_of_not_mem (by decide) (by decide)
  · have hrest : Literal.Fits '\'' "2024-01-01 b".toList :=
      Literal.fits_of_not_mem (by decide) (by decide)
    exact .plain (by decide) (by decide) (.escaped hrest)

end Condition
end CrossCheck
