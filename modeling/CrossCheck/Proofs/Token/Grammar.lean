import CrossCheck.Proofs.Sequence
import CrossCheck.Proofs.Text
import CrossCheck.Token

/-!
The grammar of metrics, apart from the reader: which texts spell which metrics.  The reader takes
a text for a metric if and only if the text spells it, and otherwise blames the whole text.
-/

namespace CrossCheck
namespace Token

open Text Sequence

/-! ## The grammar -/

/-- The text begins with a keyword, in any case and among blanks, and goes on after the first
colon. -/
def Keyed (key : String) (cs rest : List Char) : Prop :=
  ∃ head, ':' ∉ head ∧ lowerChars (trim head) = key.toList ∧ cs = head ++ ':' :: rest

/-- What is left of a text without surrounding blanks, which must not be nothing. -/
def IsPart (cs : List Char) (s : String) : Prop := trim cs ≠ [] ∧ s = String.ofList (trim cs)

/-- The words for functions. -/
def functionWord : AggregateFunction → String
  | .sum => "sum"
  | .avg => "avg"
  | .min => "min"
  | .max => "max"
  | .median => "median"
  | .stddev => "stddev"
  | .variance => "variance"

/-- `<function>:<field>` -/
inductive SpellsAggregate : List Char → FieldAggregate → Prop where
  | intro {cs rest : List Char} {function : AggregateFunction} {field : String}
      (hkey : Keyed (functionWord function) cs rest) (hfield : IsPart rest field) :
      SpellsAggregate cs ⟨function, field⟩

/-- The texts that spell a metric, one form for each kind.  The first slash parts the legs of a
ratio, and the first colon after the keyword parts the field of a conditional sum from its
condition. -/
inductive Spells : List Char → Metric → Prop where
  | count {cs : List Char} (hcolon : ':' ∉ cs) (hkey : lowerChars (trim cs) = "count".toList) :
    Spells cs .count
  | fieldAggregate {cs : List Char} {a : FieldAggregate} (h : SpellsAggregate cs a) :
      Spells cs (.fieldAggregate a)
  | countDistinct {cs rest : List Char} {field : String} (hkey : Keyed "count-distinct" cs rest)
      (hfield : IsPart rest field) : Spells cs (.countDistinct field)
  | ratio {cs numerator denominator : List Char} {n d : FieldAggregate}
      (hkey : Keyed "ratio" cs (numerator ++ '/' :: denominator)) (hslash : '/' ∉ numerator)
      (hn : SpellsAggregate (trim numerator) n) (hd : SpellsAggregate (trim denominator) d) :
      Spells cs (.ratio n d)
  | countIf {cs rest : List Char} {condition : String} (hkey : Keyed "count-if" cs rest)
      (hcondition : IsPart rest condition) : Spells cs (.countIf condition)
  | sumIf {cs left right : List Char} {field condition : String}
      (hkey : Keyed "sum-if" cs (left ++ ':' :: right)) (hcolon : ':' ∉ left)
      (hfield : IsPart left field) (hcondition : IsPart right condition) :
      Spells cs (.sumIf field condition)

/-! ## The reader and the grammar -/

theorem functionWord_eq (f : AggregateFunction) : functionWord f = f.name := by cases f <;> rfl

theorem keyword_eq_iff {cs : List Char} {key : String} :
    keyword cs = key ↔ lowerChars (trim cs) = key.toList := by
  rw [keyword, ← String.toList_inj, String.toList_ofList]

theorem required_ok_iff {cs : List Char} {fault : Fault} {s : String} :
    required cs fault = .ok s ↔ IsPart cs s := by
  rw [required, IsPart]
  split
  · next hempty => simp [List.isEmpty_iff.1 hempty]
  · next hne =>
    rw [List.isEmpty_iff] at hne
    exact ⟨fun h => ⟨hne, (Except.ok.inj h).symm⟩, fun h => by rw [h.2]⟩

theorem not_isPart_nil {s : String} : ¬ IsPart [] s := fun h => h.1 rfl

theorem readAggregate_of_not_mem {cs : List Char} (h : ':' ∉ cs) {a : FieldAggregate} :
    readAggregate cs ≠ .ok a := by
  intro hread
  rw [readAggregate, cut_of_not_mem h] at hread
  dsimp only at hread
  split at hread
  · exact error_ne_ok hread
  · obtain ⟨field, hfield, _⟩ := bind_ok_iff.1 hread
    exact not_isPart_nil (required_ok_iff.1 hfield)

theorem readAggregate_ok_iff {cs : List Char} {a : FieldAggregate} :
    readAggregate cs = .ok a ↔ SpellsAggregate cs a := by
  constructor
  · intro h
    rcases cut_cases ':' cs with hcolon | ⟨head, rest, hhead, rfl⟩
    · exact absurd h (readAggregate_of_not_mem hcolon)
    · rw [readAggregate, cut_append hhead] at h
      dsimp only at h
      split at h
      · exact absurd h error_ne_ok
      · next function hfunction =>
        obtain ⟨field, hfield, h⟩ := bind_ok_iff.1 h
        rw [← pure_ok_iff.1 h]
        have hname : keyword head = functionWord function := by
          rw [functionWord_eq, AggregateFunction.name_of_ofName? hfunction]
        exact .intro ⟨head, hhead, keyword_eq_iff.1 hname, rfl⟩ (required_ok_iff.1 hfield)
  · rintro ⟨⟨head, hhead, hname, rfl⟩, hfield⟩
    rw [readAggregate, cut_append hhead]
    dsimp only
    rw [keyword_eq_iff.2 hname, functionWord_eq, AggregateFunction.ofName?_name]
    exact bind_ok_iff.2 ⟨_, required_ok_iff.2 hfield, rfl⟩

section
variable {head rest : List Char} {m : Metric}

theorem keyed_iff (hhead : ':' ∉ head) {key : String} {rest' : List Char} :
    Keyed key (head ++ ':' :: rest) rest' ↔ keyword head = key ∧ rest = rest' := by
  constructor
  · rintro ⟨head', hhead', hkey, heq⟩
    obtain ⟨rfl, hrest⟩ := append_sep_inj hhead hhead' heq
    exact ⟨keyword_eq_iff.2 hkey, hrest⟩
  · rintro ⟨hkey, rfl⟩
    exact ⟨head, hhead, keyword_eq_iff.1 hkey, rfl⟩

theorem spells_of_readMetric (hhead : ':' ∉ head)
    (h : readMetric (head ++ ':' :: rest) head rest = .ok m) : Spells (head ++ ':' :: rest) m := by
  have hkeyed {key : String} (hkey : keyword head = key) :
      Keyed key (head ++ ':' :: rest) rest := (keyed_iff hhead).2 ⟨hkey, rfl⟩
  unfold readMetric at h
  dsimp only at h
  split at h
  · next hkey =>
    obtain ⟨field, hfield, h⟩ := bind_ok_iff.1 h
    rw [← pure_ok_iff.1 h]
    exact .countDistinct (hkeyed hkey) (required_ok_iff.1 hfield)
  split at h
  · obtain ⟨a, ha, h⟩ := bind_ok_iff.1 h
    rw [← pure_ok_iff.1 h]
    exact .fieldAggregate (readAggregate_ok_iff.1 ha)
  split at h
  · next hkey =>
    rcases cut_cases '/' rest with hslash | ⟨numerator, denominator, hslash, rfl⟩
    · rw [cut_of_not_mem hslash] at h
      exact absurd h error_ne_ok
    · rw [cut_append hslash] at h
      obtain ⟨n, hn, h⟩ := bind_ok_iff.1 h
      obtain ⟨d, hd, h⟩ := bind_ok_iff.1 h
      rw [← pure_ok_iff.1 h]
      exact .ratio (hkeyed hkey) hslash (readAggregate_ok_iff.1 hn) (readAggregate_ok_iff.1 hd)
  split at h
  · next hkey =>
    obtain ⟨condition, hcondition, h⟩ := bind_ok_iff.1 h
    rw [← pure_ok_iff.1 h]
    exact .countIf (hkeyed hkey) (required_ok_iff.1 hcondition)
  split at h
  · next hkey =>
    obtain ⟨field, hfield, h⟩ := bind_ok_iff.1 h
    obtain ⟨condition, hcondition, h⟩ := bind_ok_iff.1 h
    rw [← pure_ok_iff.1 h]
    rcases cut_cases ':' rest with hcolon | ⟨left, right, hcolon, rfl⟩
    · rw [cut_of_not_mem hcolon] at hcondition
      exact absurd (required_ok_iff.1 hcondition) not_isPart_nil
    · rw [cut_append hcolon] at hfield hcondition
      exact .sumIf (hkeyed hkey) hcolon (required_ok_iff.1 hfield) (required_ok_iff.1 hcondition)
  · exact absurd h error_ne_ok

theorem functionWord_ne_countDistinct (f : AggregateFunction) :
    functionWord f ≠ "count-distinct" := by
  cases f <;> decide

theorem readMetric_of_spells (hhead : ':' ∉ head) (h : Spells (head ++ ':' :: rest) m) :
    readMetric (head ++ ':' :: rest) head rest = .ok m := by
  unfold readMetric
  dsimp only
  cases h with
  | count hcolon => exact absurd (List.mem_append_right head List.mem_cons_self) hcolon
  | fieldAggregate h =>
    have hread := readAggregate_ok_iff.2 h
    obtain ⟨hkeyed, _⟩ := h
    rw [((keyed_iff hhead).1 hkeyed).1, if_neg (functionWord_ne_countDistinct _),
      functionWord_eq, AggregateFunction.ofName?_name, if_pos Option.isSome_some, hread]
    rfl
  | countDistinct hkeyed hfield =>
    obtain ⟨hkey, rfl⟩ := (keyed_iff hhead).1 hkeyed
    rw [if_pos hkey]
    exact bind_ok_iff.2 ⟨_, required_ok_iff.2 hfield, rfl⟩
  | ratio hkeyed hslash hn hd =>
    obtain ⟨hkey, rfl⟩ := (keyed_iff hhead).1 hkeyed
    rw [hkey, if_neg (by decide), if_neg (by decide), if_pos rfl, cut_append hslash]
    exact bind_ok_iff.2 ⟨_, readAggregate_ok_iff.2 hn,
      bind_ok_iff.2 ⟨_, readAggregate_ok_iff.2 hd, rfl⟩⟩
  | countIf hkeyed hcondition =>
    obtain ⟨hkey, rfl⟩ := (keyed_iff hhead).1 hkeyed
    rw [hkey, if_neg (by decide), if_neg (by decide), if_neg (by decide), if_pos rfl]
    exact bind_ok_iff.2 ⟨_, required_ok_iff.2 hcondition, rfl⟩
  | sumIf hkeyed hcolon hfield hcondition =>
    obtain ⟨hkey, rfl⟩ := (keyed_iff hhead).1 hkeyed
    rw [hkey, if_neg (by decide), if_neg (by decide), if_neg (by decide), if_neg (by decide),
      if_pos rfl, cut_append hcolon]
    exact bind_ok_iff.2 ⟨_, required_ok_iff.2 hfield,
      bind_ok_iff.2 ⟨_, required_ok_iff.2 hcondition, rfl⟩⟩

end

theorem keyword_of_spells_of_not_mem {cs : List Char} (hcolon : ':' ∉ cs) {m : Metric}
    (h : Spells cs m) : m = .count ∧ keyword cs = "count" := by
  have hkeyed {key : String} {rest : List Char} : ¬ Keyed key cs rest := by
    rintro ⟨head, _, _, rfl⟩
    exact hcolon (List.mem_append_right head List.mem_cons_self)
  cases h with
  | count _ hkey => exact ⟨rfl, keyword_eq_iff.2 hkey⟩
  | fieldAggregate h =>
    obtain ⟨hkey, _⟩ := h
    exact absurd hkey hkeyed
  | countDistinct hkey | ratio hkey | countIf hkey | sumIf hkey => exact absurd hkey hkeyed

/-- A text is read as a metric exactly when it spells it. -/
theorem readChars_ok_iff {cs : List Char} {m : Metric} : readChars cs = .ok m ↔ Spells cs m := by
  rcases cut_cases ':' cs with hcolon | ⟨head, rest, hhead, rfl⟩
  · rw [readChars, cut_of_not_mem hcolon]
    dsimp only
    split
    · next hkey =>
      refine ⟨fun h => ?_, fun h => by rw [(keyword_of_spells_of_not_mem hcolon h).1]⟩
      rw [← Except.ok.inj h]
      exact .count hcolon (keyword_eq_iff.1 hkey)
    · next hkey =>
      refine ⟨fun h => absurd h error_ne_ok, fun h => ?_⟩
      exact absurd (keyword_of_spells_of_not_mem hcolon h).2 hkey
  · rw [readChars, cut_append hhead]
    exact ⟨spells_of_readMetric hhead, readMetric_of_spells hhead⟩

end Token

namespace Metric

theorem ofToken_ok_iff {token : String} {m : Metric} :
    ofToken token = .ok m ↔ Token.Spells token.toList m := by
  rw [← Token.readChars_ok_iff, ofToken]
  split
  · next n hn => rw [hn, Except.ok.injEq, Except.ok.injEq]
  · next fault hfault =>
    rw [hfault]
    exact ⟨fun h => absurd h Sequence.error_ne_ok, fun h => absurd h Sequence.error_ne_ok⟩

theorem token_eq_of_ofToken_error {token : String} {e : Token.Error}
    (h : ofToken token = .error e) : e.token = token := by
  rw [ofToken] at h
  split at h
  · exact absurd h.symm Sequence.error_ne_ok
  · rw [← Except.error.inj h]

theorem not_spells_of_ofToken_error {token : String} {e : Token.Error}
    (h : ofToken token = .error e) (m : Metric) : ¬ Token.Spells token.toList m := by
  rw [← ofToken_ok_iff, h]
  exact Sequence.error_ne_ok

theorem exists_fault_of_not_spells {token : String} (h : ¬ ∃ m, Token.Spells token.toList m) :
    ∃ fault, ofToken token = .error ⟨token, fault⟩ := by
  cases hread : ofToken token with
  | ok m => exact absurd ⟨m, ofToken_ok_iff.1 hread⟩ h
  | error e =>
    refine ⟨e.fault, ?_⟩
    rw [← token_eq_of_ofToken_error hread]

end Metric

namespace Token

/-- A text is read as the metric that it spells.  A text that spells none is refused as a whole,
also where the fault lies in one leg of a ratio.  Of several tokens each is read on its own, and
the first that spells nothing is the one refused. -/
theorem reads_grammar :
    (∀ (token : String) (m : Metric), Metric.ofToken token = .ok m ↔ Spells token.toList m) ∧
    (∀ token : String, (¬ ∃ m, Spells token.toList m) →
      ∃ fault, Metric.ofToken token = .error ⟨token, fault⟩) ∧
    ∀ tokens : List String,
      flatten tokens = [] ∧ Metric.ofTokens tokens = .ok [.count] ∨
      flatten tokens ≠ [] ∧ (∃ ms, Metric.ofTokens tokens = .ok ms ∧
        List.Forall₂ (fun token m => Spells token.toList m) (flatten tokens) ms) ∨
      ∃ before token after fault, flatten tokens = before ++ token :: after ∧
        (∀ t ∈ before, ∃ m, Spells t.toList m) ∧ (¬ ∃ m, Spells token.toList m) ∧
        Metric.ofTokens tokens = .error ⟨token, fault⟩ := by
  refine ⟨fun _ _ => Metric.ofToken_ok_iff, fun _ => Metric.exists_fault_of_not_spells,
    fun tokens => ?_⟩
  rw [Metric.ofTokens]
  cases hflat : flatten tokens with
  | nil => exact .inl ⟨rfl, rfl⟩
  | cons first rest =>
    refine .inr ?_
    cases hread : (first :: rest).mapM Metric.ofToken with
    | ok ms =>
      have hspelled := Sequence.mapM_ok_iff.1 hread
      simp only [Metric.ofToken_ok_iff] at hspelled
      exact .inl ⟨List.cons_ne_nil first rest, ms, hread, hspelled⟩
    | error e =>
      obtain ⟨before, token, after, heq, hbefore, hfault⟩ :=
        Sequence.exists_first_of_mapM_error hread
      refine .inr ⟨before, token, after, e.fault, heq, fun t ht => ?_, ?_, ?_⟩
      · obtain ⟨m, hm⟩ := hbefore t ht
        exact ⟨m, Metric.ofToken_ok_iff.1 hm⟩
      · rintro ⟨m, hm⟩
        exact Metric.not_spells_of_ofToken_error hfault m hm
      · rw [← Metric.token_eq_of_ofToken_error hfault]
        exact hread

example : Metric.ofToken "ratio:sum:Amount/count:Id" =
    .error ⟨"ratio:sum:Amount/count:Id", .unknownFunction "count"⟩ := by decide +kernel

end Token
end CrossCheck
