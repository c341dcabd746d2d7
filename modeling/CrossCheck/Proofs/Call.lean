import CrossCheck.Compilation
import CrossCheck.Proofs.Text

/-!
Aggregate calls: what a metric asks of an environment once its fields are spelled.  A call without
a condition is known by its text, and a call with one by its key, so that compilation can store
each call once.
-/

namespace CrossCheck

/-- A filter without the blanks around it.  One that is blank is none. -/
def Condition.trimmed (filter : Option String) : Option String :=
  (filter.map Text.strip).filter (· ≠ "")

theorem Compilation.normalizeFilter_eq (filter : Option String) :
    normalizeFilter filter = Condition.trimmed filter := by
  cases filter with
  | none => rfl
  | some f =>
    rw [normalizeFilter, Condition.trimmed, Option.bind_some, Option.map_some, Option.filter_some]
    by_cases hf : Text.strip f = ""
    · rw [if_pos hf, if_neg (by simp [hf])]
    · rw [if_neg hf, if_pos (by simp [hf])]

/-- A condition under a filter: where there is a filter, both are to hold. -/
def Condition.under (filter : Option String) (condition : String) : String :=
  match filter with
  | some f => "(" ++ f ++ ") AND (" ++ condition ++ ")"
  | none => condition

theorem Compilation.bothHold_eq (filter : Option String) (condition : String) :
    bothHold filter condition = Condition.under filter condition := by
  cases filter <;> rfl

/-- One aggregate call: what is computed, and for which rows. -/
inductive Call where
  | count
  | aggregate (a : FieldAggregate)
  | countDistinct (field : String)
  | countIf (condition : String)
  | sumIf (field condition : String)
deriving DecidableEq

namespace Call

/-- The words for functions in a query. -/
def functionName : AggregateFunction → String
  | .sum => "SUM"
  | .avg => "AVG"
  | .min => "MIN"
  | .max => "MAX"
  | .median => "MEDIAN"
  | .stddev => "STDDEV"
  | .variance => "VARIANCE"

theorem functionName_eq (f : AggregateFunction) : functionName f = f.keyword := by cases f <;> rfl

/-- The name of the aggregate function, as a query writes it. -/
def name : Call → String
  | count => "COUNT"
  | aggregate a => functionName a.function
  | countDistinct _ => "COUNT_DISTINCT"
  | countIf _ => "COUNT"
  | sumIf _ _ => "SUM"

def field? : Call → Option String
  | aggregate a => some a.field
  | countDistinct f => some f
  | sumIf f _ => some f
  | _ => none

/-- Rows are counted by their `Id`. -/
def argument (c : Call) : String := c.field?.getD "Id"

def text (c : Call) : String := c.name ++ "(" ++ c.argument ++ ")"

/-- The condition as the user wrote it, for calls that have a query of their own. -/
def condition? : Call → Option String
  | countIf c => some c
  | sumIf _ c => some c
  | _ => none

/-- The rows that a call is over, where `filter` holds for the whole plan. -/
def predicate (filter : Option String) (c : Call) : Option String :=
  match c.condition? with
  | some condition => some (Condition.under filter (Condition.normalize condition))
  | none => filter

/-- What a conditional query is stored under. -/
def key : Call → String
  | countIf c => "count_if:[" ++ c ++ "]"
  | sumIf f c => "sum_if:" ++ f ++ ":[" ++ c ++ "]"
  | c => c.text

/-- The alias of a call, as long as it is free. -/
def base : Call → String
  | count => "count__all"
  | aggregate a => Alias.sanitize (a.function.name ++ "__" ++ a.field)
  | countDistinct f => Alias.sanitize ("count_distinct__" ++ f)
  | countIf c => Alias.sanitize ("count_if__" ++ Compilation.conditionPart (Condition.normalize c))
  | sumIf f c => Alias.sanitize ("sum_if__" ++ f ++ "_" ++
      Compilation.conditionPart (Condition.normalize c))

/-- A colon in the field would blur where the condition begins. -/
def IsKeyed : Call → Prop
  | sumIf f _ => ':' ∉ f.toList
  | _ => True

/-! ## Texts and keys tell calls apart -/

theorem functionName_injective {f g : AggregateFunction} (h : functionName f = functionName g) :
    f = g := by
  cases f <;> cases g <;> first | rfl | exact absurd h (by decide)

theorem parenthesis_not_mem_name (c : Call) : '(' ∉ c.name.toList := by
  cases c with
  | count => decide
  | aggregate a =>
    show '(' ∉ (functionName a.function).toList
    cases a.function <;> decide
  | countDistinct f =>
    show '(' ∉ "COUNT_DISTINCT".toList
    decide
  | countIf c =>
    show '(' ∉ "COUNT".toList
    decide
  | sumIf f c =>
    show '(' ∉ "SUM".toList
    decide

theorem text_inj {c d : Call} (h : c.text = d.text) : c.name = d.name ∧ c.argument = d.argument := by
  have hchars := congrArg String.toList h
  simp only [text, String.toList_append, List.append_assoc] at hchars
  have hsplit : c.name.toList ++ '(' :: (c.argument.toList ++ [')']) =
      d.name.toList ++ '(' :: (d.argument.toList ++ [')']) := hchars
  obtain ⟨hname, hrest⟩ :=
    Text.append_sep_inj (parenthesis_not_mem_name c) (parenthesis_not_mem_name d) hsplit
  have hargument := List.append_cancel_right hrest
  exact ⟨String.toList_injective hname, String.toList_injective hargument⟩

/-- Among calls without a condition the text decides. -/
theorem eq_of_text_eq {c d : Call} (hc : c.condition? = none) (hd : d.condition? = none)
    (h : c.text = d.text) : c = d := by
  obtain ⟨hname, hargument⟩ := text_inj h
  have hcount (f : AggregateFunction) : functionName f ≠ "COUNT" := by cases f <;> decide
  have hdistinct (f : AggregateFunction) : functionName f ≠ "COUNT_DISTINCT" := by
    cases f <;> decide
  cases c with
  | count => cases d with
    | count => rfl
    | aggregate b => exact absurd hname.symm (hcount b.function)
    | countDistinct g =>
      have hnames : "COUNT" = "COUNT_DISTINCT" := hname
      exact absurd hnames (by decide)
    | _ => exact absurd hd (by simp [condition?])
  | aggregate a => cases d with
    | count => exact absurd hname (hcount a.function)
    | aggregate b =>
      have hfunction := functionName_injective hname
      have hfield : a.field = b.field := hargument
      cases a; cases b
      simp_all
    | countDistinct g => exact absurd hname (hdistinct a.function)
    | _ => exact absurd hd (by simp [condition?])
  | countDistinct f => cases d with
    | count =>
      have hnames : "COUNT_DISTINCT" = "COUNT" := hname
      exact absurd hnames (by decide)
    | aggregate b => exact absurd hname.symm (hdistinct b.function)
    | countDistinct g =>
      have hfield : f = g := hargument
      rw [hfield]
    | _ => exact absurd hd (by simp [condition?])
  | _ => exact absurd hc (by simp [condition?])

/-- Among conditional calls the key decides, if no field holds a colon. -/
theorem eq_of_key_eq {c d : Call} (hc : c.condition? ≠ none) (hd : d.condition? ≠ none)
    (hkc : c.IsKeyed) (hkd : d.IsKeyed) (h : c.key = d.key) : c = d := by
  have hchars := congrArg String.toList h
  cases c with
  | countIf x => cases d with
    | countIf y =>
      simp only [key, String.toList_append, List.append_assoc] at hchars
      have hcondition := List.append_cancel_right (List.append_cancel_left hchars)
      rw [String.toList_injective hcondition]
    | sumIf g y =>
      simp only [key, String.toList_append] at hchars
      exact absurd hchars (by simp)
    | _ => exact absurd rfl hd
  | sumIf f x => cases d with
    | countIf y =>
      simp only [key, String.toList_append] at hchars
      exact absurd hchars (by simp)
    | sumIf g y =>
      simp only [key, String.toList_append, List.append_assoc] at hchars
      have hsplit : f.toList ++ ':' :: ('[' :: x.toList ++ [']']) =
          g.toList ++ ':' :: ('[' :: y.toList ++ [']']) := List.append_cancel_left hchars
      obtain ⟨hfield, hrest⟩ := Text.append_sep_inj hkc hkd hsplit
      have hcondition := List.cons.inj (List.append_cancel_right hrest)
      rw [String.toList_injective hfield, String.toList_injective hcondition.2]
    | _ => exact absurd rfl hd
  | _ => exact absurd rfl hc

theorem key_eq_text {c : Call} (h : c.condition? = none) : c.key = c.text := by
  cases c with
  | countIf x => exact absurd h (by simp [condition?])
  | sumIf f x => exact absurd h (by simp [condition?])
  | _ => rfl

end Call
end CrossCheck
