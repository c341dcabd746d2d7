import CrossCheck.Proofs.Json.Number
import CrossCheck.Proofs.Json.Text
import CrossCheck.Proofs.Named

/-!
A value reads back from the line that is written for it, unless it is nested too deeply.  The
reader's fuel counts down once for each value and once for each place in a list or record, and
each of these puts a character of its own into the text.
-/

namespace CrossCheck
namespace Json

open Text

mutual

/-- The values that JSON has, where all characters of texts are whole and no record has two
members of one name. -/
def IsJson : Value → Prop
  | .null | .bool _ | .int _ | .float _ => True
  | .text s => IsUnhalved s
  | .list vs => AreJson vs
  | .record ms => (ms.map (·.1)).Nodup ∧ MembersAreJson ms
  | .decimal _ | .date _ | .time _ | .timestamp _ | .bytes _ => False

def AreJson : List Value → Prop
  | [] => True
  | v :: vs => IsJson v ∧ AreJson vs

def MembersAreJson : List (String × Value) → Prop
  | [] => True
  | (name, v) :: ms => IsUnhalved name ∧ IsJson v ∧ MembersAreJson ms

end

mutual

/-- How many lists and records lie around what is innermost.  Empty ones count for nothing. -/
def nesting : Value → Nat
  | .list vs => nestingAll vs
  | .record ms => nestingMembers ms
  | _ => 0

def nestingAll : List Value → Nat
  | [] => 0
  | v :: vs => max (nesting v + 1) (nestingAll vs)

def nestingMembers : List (String × Value) → Nat
  | [] => 0
  | (_, v) :: ms => max (nesting v + 1) (nestingMembers ms)

end

/-! ## Blanks -/

theorem skipBlanks_cons {c : Char} (hc : isBlank c = false) (cs : List Char) :
    skipBlanks (c :: cs) = c :: cs := List.dropWhile_cons_of_neg (by simp [hc])

theorem skipBlanks_skipBlanks (cs : List Char) : skipBlanks (skipBlanks cs) = skipBlanks cs := by
  induction cs with
  | nil => rfl
  | cons c cs ih =>
    rw [skipBlanks, skipBlanks, List.dropWhile_cons]
    split
    · exact ih
    · next hc => rw [List.dropWhile_cons_of_neg hc]

theorem value?_skipBlanks (fuel depth : Nat) (cs : List Char) :
    value? fuel depth (skipBlanks cs) = value? fuel depth cs := by
  cases fuel with
  | zero => rw [value?, value?]
  | succ fuel =>
    rw [value?.eq_def, value?.eq_def (fuel + 1)]
    simp only [skipBlanks_skipBlanks]

theorem items?_skipBlanks (fuel depth : Nat) (cs : List Char) :
    items? fuel depth (skipBlanks cs) = items? fuel depth cs := by
  cases fuel with
  | zero => rw [items?, items?]
  | succ fuel => rw [items?, items?, value?_skipBlanks]

theorem members?_skipBlanks (fuel depth : Nat) (cs : List Char) :
    members? fuel depth (skipBlanks cs) = members? fuel depth cs := by
  cases fuel with
  | zero => rw [members?, members?]
  | succ fuel => rw [members?, members?, skipBlanks_skipBlanks]

/-! ## Reading one value -/

/-- What begins a value that has no parts. -/
theorem scalar?_eq_none {c : Char} (hc : c ∈ [' ', '\t', '\n', '\r', '[', ']', '\x7b', '\x7d'])
    (cs : List Char) : scalar? (c :: cs) = none := by
  simp only [List.mem_cons, List.not_mem_nil, or_false] at hc
  rcases hc with rfl | rfl | rfl | rfl | rfl | rfl | rfl | rfl <;> rfl

theorem value?_of_scalar? {cs : List Char} {r : Value × List Char} (h : scalar? cs = some r)
    (fuel depth : Nat) : value? (fuel + 1) depth cs = some r := by
  cases cs with
  | nil => exact absurd h nofun
  | cons c cs =>
    have hc : c ∉ [' ', '\t', '\n', '\r', '[', ']', '\x7b', '\x7d'] := by
      intro hmem
      rw [scalar?_eq_none hmem] at h
      exact absurd h nofun
    simp only [List.mem_cons, List.not_mem_nil, or_false, not_or] at hc
    obtain ⟨hspace, htab, hline, hreturn, hlist, -, hrecord, -⟩ := hc
    rw [value?, skipBlanks_cons (by simp [isBlank, hspace, htab, hline, hreturn])]
    split
    · next heq => exact absurd (List.cons.inj heq).1 hlist
    · next heq => exact absurd (List.cons.inj heq).1 hrecord
    · exact h

/-- No value begins with a closing bracket. -/
theorem skipBlanks_ne_of_value? {fuel depth : Nat} {cs : List Char} {r : Value × List Char}
    (h : value? fuel depth cs = some r) (after : List Char) : skipBlanks cs ≠ ']' :: after := by
  intro hcs
  cases fuel with
  | zero =>
    rw [value?] at h
    exact absurd h nofun
  | succ fuel =>
    rw [value?, hcs] at h
    exact absurd h nofun

/-! ## Reading lists and records -/

theorem value?_nil (fuel depth : Nat) (rest : List Char) :
    value? (fuel + 1) depth ('[' :: ']' :: rest) = some (.list [], rest) := rfl

/-- What opens a list and does not close it at once is read as the list's items. -/
theorem value?_list {fuel depth : Nat} {cs : List Char}
    (hopen : ∀ after, skipBlanks cs ≠ ']' :: after) :
    value? (fuel + 1) (depth + 1) ('[' :: cs) =
      (items? fuel depth cs).map fun r => (.list r.1, r.2) := by
  simp only [value?, skipBlanks_cons (show isBlank '[' = false by decide)]
  rw [if_neg (by omega), items?_skipBlanks, Nat.add_sub_cancel]

theorem value?_of_items? {fuel depth : Nat} {cs rest : List Char} {vs : List Value}
    (h : items? fuel depth cs = some (vs, rest)) :
    value? (fuel + 1) (depth + 1) ('[' :: cs) = some (.list vs, rest) := by
  have hopen : ∀ after, skipBlanks cs ≠ ']' :: after := by
    cases fuel with
    | zero =>
      rw [items?] at h
      exact absurd h nofun
    | succ fuel =>
      rw [items?, Option.bind_eq_bind, Option.bind_eq_some_iff] at h
      obtain ⟨r, hr, -⟩ := h
      exact skipBlanks_ne_of_value? hr
  rw [value?_list hopen, h]
  rfl

theorem items?_last {fuel depth : Nat} {cs rest : List Char} {v : Value}
    (h : value? fuel depth cs = some (v, ']' :: rest)) :
    items? (fuel + 1) depth cs = some ([v], rest) := by
  rw [items?, h]
  rfl

theorem items?_blank (fuel depth : Nat) (cs : List Char) :
    items? fuel depth (' ' :: cs) = items? fuel depth cs := by
  rw [← items?_skipBlanks fuel depth cs, ← items?_skipBlanks]
  rfl

/-- Where a comma follows the first item, the list is that item and the list of the others. -/
theorem items?_more {fuel depth : Nat} {cs after : List Char} {v : Value}
    (h : value? fuel depth cs = some (v, ',' :: ' ' :: after)) :
    items? (fuel + 1) depth cs = (items? fuel depth after).map fun r => (v :: r.1, r.2) := by
  rw [items?, h, Option.bind_eq_bind, Option.bind_some]
  simp only [skipBlanks_cons (show isBlank ',' = false by decide), items?_blank]
  cases items? fuel depth after <;> rfl

theorem value?_empty (fuel depth : Nat) (rest : List Char) :
    value? (fuel + 1) depth ('\x7b' :: '\x7d' :: rest) = some (.record [], rest) := rfl

/-- What opens a record and does not close it at once is read as the record's members. -/
theorem value?_record {fuel depth : Nat} {cs : List Char}
    (hopen : ∀ after, skipBlanks cs ≠ '\x7d' :: after) :
    value? (fuel + 1) (depth + 1) ('\x7b' :: cs) =
      (members? fuel depth cs).map fun r => (.record (Named.ofList r.1), r.2) := by
  simp only [value?, skipBlanks_cons (show isBlank '\x7b' = false by decide)]
  rw [if_neg (by omega), members?_skipBlanks, Nat.add_sub_cancel]

theorem value?_of_members? {fuel depth : Nat} {cs rest : List Char} {ms : List (String × Value)}
    (h : members? fuel depth cs = some (ms, rest)) :
    value? (fuel + 1) (depth + 1) ('\x7b' :: cs) = some (.record (Named.ofList ms), rest) := by
  have hopen : ∀ after, skipBlanks cs ≠ '\x7d' :: after := by
    intro after hcs
    cases fuel with
    | zero =>
      rw [members?] at h
      exact absurd h nofun
    | succ fuel =>
      rw [members?, hcs] at h
      exact absurd h nofun
  rw [value?_record hopen, h]
  rfl

theorem value?_blank (fuel depth : Nat) (cs : List Char) :
    value? fuel depth (' ' :: cs) = value? fuel depth cs := by
  rw [← value?_skipBlanks fuel depth cs, ← value?_skipBlanks]
  rfl

theorem members?_last {fuel depth : Nat} {body after rest : List Char} {name : String} {v : Value}
    (hname : text? body = some (name, ':' :: ' ' :: after))
    (h : value? fuel depth after = some (v, '\x7d' :: rest)) :
    members? (fuel + 1) depth ('"' :: body) = some ([(name, v)], rest) := by
  rw [← value?_blank] at h
  simp only [members?, skipBlanks_cons (show isBlank '"' = false by decide), hname,
    skipBlanks_cons (show isBlank ':' = false by decide), h, Option.bind_eq_bind,
    Option.bind_some, skipBlanks_cons (show isBlank '\x7d' = false by decide), Option.pure_def]

theorem members?_blank (fuel depth : Nat) (cs : List Char) :
    members? fuel depth (' ' :: cs) = members? fuel depth cs := by
  rw [← members?_skipBlanks fuel depth cs, ← members?_skipBlanks]
  rfl

theorem members?_more {fuel depth : Nat} {body after next : List Char} {name : String} {v : Value}
    (hname : text? body = some (name, ':' :: ' ' :: after))
    (h : value? fuel depth after = some (v, ',' :: ' ' :: next)) :
    members? (fuel + 1) depth ('"' :: body) =
      (members? fuel depth next).map fun r => ((name, v) :: r.1, r.2) := by
  rw [← value?_blank] at h
  simp only [members?, skipBlanks_cons (show isBlank '"' = false by decide), hname,
    skipBlanks_cons (show isBlank ':' = false by decide), h, Option.bind_eq_bind,
    Option.bind_some, skipBlanks_cons (show isBlank ',' = false by decide), members?_blank]
  cases members? fuel depth next <;> rfl

/-! ## Reading back -/

theorem scalar?_null (rest : List Char) :
    scalar? (['n', 'u', 'l', 'l'] ++ rest) = some (.null, rest) := rfl

theorem scalar?_true (rest : List Char) :
    scalar? (['t', 'r', 'u', 'e'] ++ rest) = some (.bool true, rest) := rfl

theorem scalar?_false (rest : List Char) :
    scalar? (['f', 'a', 'l', 's', 'e'] ++ rest) = some (.bool false, rest) := rfl

variable {plain : Char → Bool}

theorem endsNumber_nil : EndsNumber [] := fun _ hc => absurd hc nofun

theorem endsNumber_cons {c : Char} (hc : isDigit c = false ∧ c ≠ '.' ∧ c ≠ 'e' ∧ c ≠ 'E')
    (rest : List Char) : EndsNumber (c :: rest) := by
  rintro d ⟨⟩
  exact hc

theorem line_ne_nil {v : Value} (hv : IsJson v) : line plain v ≠ [] := by
  cases v with
  | null => exact List.cons_ne_nil _ _
  | bool b => cases b <;> exact List.cons_ne_nil _ _
  | int n =>
    show intText n ≠ []
    rw [intText]
    split
    · exact List.cons_ne_nil _ _
    · exact natText_ne_nil _
  | float x =>
    show FloatNotation.storedJson.text Binary64.shortest x ≠ []
    intro hempty
    have hread := scalar?_floatText x endsNumber_nil
    rw [hempty] at hread
    cases hread
  | text s => exact List.cons_ne_nil _ _
  | list vs => exact List.cons_ne_nil _ _
  | record ms => exact List.cons_ne_nil _ _
  | decimal d => exact absurd hv id
  | date d => exact absurd hv id
  | time t => exact absurd hv id
  | timestamp t => exact absurd hv id
  | bytes bs => exact absurd hv id

/-- Fuel for a whole line is enough to begin with. -/
theorem exists_fuel {v : Value} (hv : IsJson v) {fuel : Nat}
    (hfuel : (line plain v).length ≤ fuel) : ∃ f, fuel = f + 1 := by
  have hpos : 0 < (line plain v).length := List.length_pos_iff.2 (line_ne_nil hv)
  exact ⟨fuel - 1, by omega⟩

/-! The parts of a line, and how long they are beside the whole. -/

theorem joinWith_lines (v w : Value) (vs : List Value) :
    joinWith [',', ' '] (lines plain (v :: w :: vs)) =
      line plain v ++ [',', ' '] ++ joinWith [',', ' '] (lines plain (w :: vs)) := rfl

theorem joinWith_memberLine (name : String) (v : Value) :
    joinWith [',', ' '] (memberLines plain [(name, v)]) =
      textWith plain name.toList ++ ':' :: ' ' :: line plain v := rfl

theorem joinWith_memberLines (name : String) (v : Value) (m : String × Value)
    (ms : List (String × Value)) :
    joinWith [',', ' '] (memberLines plain ((name, v) :: m :: ms)) =
      textWith plain name.toList ++ ':' :: ' ' :: line plain v ++ [',', ' '] ++
        joinWith [',', ' '] (memberLines plain (m :: ms)) := rfl

theorem length_lines_lt {vs : List Value} {fuel : Nat}
    (h : (line plain (.list vs)).length ≤ fuel + 1) :
    (joinWith [',', ' '] (lines plain vs)).length < fuel := by
  rw [line, List.length_append, List.length_cons, List.length_singleton] at h
  omega

theorem length_memberLines_lt {ms : List (String × Value)} {fuel : Nat}
    (h : (line plain (.record ms)).length ≤ fuel + 1) :
    (joinWith [',', ' '] (memberLines plain ms)).length < fuel := by
  rw [line, List.length_append, List.length_cons, List.length_singleton] at h
  omega

theorem length_line_le {v w : Value} {vs : List Value} {fuel : Nat}
    (h : (joinWith [',', ' '] (lines plain (v :: w :: vs))).length < fuel + 1) :
    (line plain v).length ≤ fuel ∧
      (joinWith [',', ' '] (lines plain (w :: vs))).length < fuel := by
  rw [joinWith_lines, List.length_append, List.length_append, List.length_cons,
    List.length_singleton] at h
  omega

theorem length_member_le {name : String} {v : Value} {fuel : Nat}
    (h : (joinWith [',', ' '] (memberLines plain [(name, v)])).length < fuel + 1) :
    (line plain v).length ≤ fuel := by
  rw [joinWith_memberLine, List.length_append, List.length_cons, List.length_cons] at h
  omega

theorem length_members_le {name : String} {v : Value} {m : String × Value}
    {ms : List (String × Value)} {fuel : Nat}
    (h : (joinWith [',', ' '] (memberLines plain ((name, v) :: m :: ms))).length < fuel + 1) :
    (line plain v).length ≤ fuel ∧
      (joinWith [',', ' '] (memberLines plain (m :: ms))).length < fuel := by
  rw [joinWith_memberLines, List.length_append, List.length_append, List.length_append,
    List.length_cons, List.length_cons, List.length_cons, List.length_singleton] at h
  omega

mutual

theorem value?_line (hplain : ∀ c, plain c = true → 0x20 ≤ c.toNat) (v : Value)
    (hv : IsJson v) (hfits : isWritableWith isReadable v = true) {fuel depth : Nat}
    (hfuel : (line plain v).length ≤ fuel) (hdepth : nesting v ≤ depth) {rest : List Char}
    (hrest : EndsNumber rest) : value? fuel depth (line plain v ++ rest) = some (v, rest) := by
  obtain ⟨fuel, rfl⟩ := exists_fuel hv hfuel
  match v with
  | .null => exact value?_of_scalar? (scalar?_null rest) fuel depth
  | .bool true => exact value?_of_scalar? (scalar?_true rest) fuel depth
  | .bool false => exact value?_of_scalar? (scalar?_false rest) fuel depth
  | .int n =>
    exact value?_of_scalar? (scalar?_intText (of_decide_eq_true hfits) hrest) fuel depth
  | .float x => exact value?_of_scalar? (scalar?_floatText x hrest) fuel depth
  | .text s =>
    obtain ⟨body, hbody, hread⟩ := text?_textWith hplain hv rest
    refine value?_of_scalar? ?_ fuel depth
    show scalar? (textWith plain s.toList ++ rest) = _
    rw [hbody, scalar?, if_pos rfl, hread]
    rfl
  | .list [] => exact value?_nil fuel depth rest
  | .list (v :: vs) =>
    obtain ⟨depth, rfl⟩ : ∃ d, depth = d + 1 := by
      have hinner : nesting v + 1 ≤ depth := Nat.le_trans (Nat.le_max_left _ _) hdepth
      exact ⟨depth - 1, by omega⟩
    have hfits := Bool.and_eq_true_iff.1 hfits
    have hitems := items?_lines hplain v vs hv.1 hv.2 hfits.1 hfits.2 (length_lines_lt hfuel) hdepth
      rest
    rw [line, List.cons_append, List.cons_append, List.append_assoc]
    exact value?_of_items? hitems
  | .record [] => exact value?_empty fuel depth rest
  | .record ((name, v) :: ms) =>
    obtain ⟨depth, rfl⟩ : ∃ d, depth = d + 1 := by
      have hinner : nesting v + 1 ≤ depth := Nat.le_trans (Nat.le_max_left _ _) hdepth
      exact ⟨depth - 1, by omega⟩
    have hfits := Bool.and_eq_true_iff.1 hfits
    have hmembers := members?_lines hplain name v ms hv.2.1 hv.2.2.1 hv.2.2.2 hfits.1 hfits.2
      (length_memberLines_lt hfuel) hdepth rest
    have hread := value?_of_members? hmembers
    rw [Named.ofList_eq_self hv.1] at hread
    rw [line, List.cons_append, List.cons_append, List.append_assoc]
    exact hread
termination_by fuel

theorem items?_lines (hplain : ∀ c, plain c = true → 0x20 ≤ c.toNat) (v : Value) (vs : List Value)
    (hv : IsJson v) (hvs : AreJson vs) (hfits : isWritableWith isReadable v = true)
    (hallfit : areWritable isReadable vs = true) {fuel depth : Nat}
    (hfuel : (joinWith [',', ' '] (lines plain (v :: vs))).length < fuel)
    (hdepth : nestingAll (v :: vs) ≤ depth + 1) (rest : List Char) :
    items? fuel depth (joinWith [',', ' '] (lines plain (v :: vs)) ++ ']' :: rest) =
      some (v :: vs, rest) := by
  obtain ⟨fuel, rfl⟩ : ∃ f, fuel = f + 1 := ⟨fuel - 1, by omega⟩
  have hinner : nesting v ≤ depth :=
    Nat.le_of_succ_le_succ (Nat.le_trans (Nat.le_max_left _ _) hdepth)
  match vs with
  | [] =>
    refine items?_last ?_
    exact value?_line hplain v hv hfits (Nat.le_of_lt_succ hfuel) hinner
      (endsNumber_cons (by decide) rest)
  | w :: vs =>
    have hallfit := Bool.and_eq_true_iff.1 hallfit
    have hrest : nestingAll (w :: vs) ≤ depth + 1 := Nat.le_trans (Nat.le_max_right _ _) hdepth
    have hlen := length_line_le hfuel
    have hmore := items?_lines hplain w vs hvs.1 hvs.2 hallfit.1 hallfit.2 hlen.2 hrest rest
    have hfirst := value?_line hplain v hv hfits hlen.1 hinner
      (endsNumber_cons (c := ',') (by decide)
        (' ' :: (joinWith [',', ' '] (lines plain (w :: vs)) ++ ']' :: rest)))
    rw [joinWith_lines, List.append_assoc, List.append_assoc, List.cons_append, List.cons_append,
      List.nil_append, items?_more hfirst, hmore]
    rfl
termination_by fuel

theorem members?_lines (hplain : ∀ c, plain c = true → 0x20 ≤ c.toNat) (name : String) (v : Value)
    (ms : List (String × Value)) (hname : IsUnhalved name)
    (hv : IsJson v) (hms : MembersAreJson ms) (hfits : isWritableWith isReadable v = true)
    (hallfit : membersAreWritable isReadable ms = true) {fuel depth : Nat}
    (hfuel : (joinWith [',', ' '] (memberLines plain ((name, v) :: ms))).length < fuel)
    (hdepth : nestingMembers ((name, v) :: ms) ≤ depth + 1) (rest : List Char) :
    members? fuel depth (joinWith [',', ' '] (memberLines plain ((name, v) :: ms)) ++ '\x7d' :: rest) =
      some ((name, v) :: ms, rest) := by
  obtain ⟨fuel, rfl⟩ : ∃ f, fuel = f + 1 := ⟨fuel - 1, by omega⟩
  have hinner : nesting v ≤ depth :=
    Nat.le_of_succ_le_succ (Nat.le_trans (Nat.le_max_left _ _) hdepth)
  match ms with
  | [] =>
    obtain ⟨body, hbody, hread⟩ := text?_textWith hplain hname
      (':' :: ' ' :: (line plain v ++ '\x7d' :: rest))
    have hvalue := value?_line hplain v hv hfits (length_member_le hfuel) hinner
      (endsNumber_cons (c := '\x7d') (by decide) rest)
    have hlast := members?_last hread hvalue
    rw [← hbody] at hlast
    rw [joinWith_memberLine, List.append_assoc]
    exact hlast
  | (other, w) :: ms =>
    have hallfit := Bool.and_eq_true_iff.1 hallfit
    have hrest : nestingMembers ((other, w) :: ms) ≤ depth + 1 :=
      Nat.le_trans (Nat.le_max_right _ _) hdepth
    have hlen := length_members_le hfuel
    have hmore := members?_lines hplain other w ms hms.1 hms.2.1 hms.2.2 hallfit.1 hallfit.2 hlen.2
      hrest rest
    obtain ⟨body, hbody, hread⟩ := text?_textWith hplain hname
      (':' :: ' ' :: (line plain v ++ ',' :: ' ' ::
        (joinWith [',', ' '] (memberLines plain ((other, w) :: ms)) ++ '\x7d' :: rest)))
    have hvalue := value?_line hplain v hv hfits hlen.1 hinner
      (endsNumber_cons (c := ',') (by decide)
        (' ' :: (joinWith [',', ' '] (memberLines plain ((other, w) :: ms)) ++ '\x7d' :: rest)))
    have hall := members?_more hread hvalue
    rw [hmore, ← hbody] at hall
    rw [joinWith_memberLines, List.append_assoc, List.append_assoc, List.append_assoc]
    exact hall
termination_by fuel

end

theorem le_toNat_of_isPlainAscii (c : Char) (hc : isPlainAscii c = true) : 0x20 ≤ c.toNat := by
  rw [isPlainAscii, Bool.and_eq_true] at hc
  exact of_decide_eq_true hc.1

/-- What is stored is read back whole. -/
theorem read?_writeLine {v : Value} (hv : IsJson v) (hstorable : isStorable v = true) {depth : Nat}
    (hdepth : nesting v ≤ depth) : read? depth (writeLine v) = some v := by
  have hread := value?_line le_toNat_of_isPlainAscii v hv hstorable
    (Nat.le_succ (line isPlainAscii v).length) hdepth endsNumber_nil
  rw [List.append_nil] at hread
  rw [read?, writeLine, String.toList_ofList, readChars?, hread]
  rfl

end Json
end CrossCheck
