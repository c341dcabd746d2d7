/-!
Named things in order, such as the members of a record or of a document.
-/

namespace CrossCheck

/-- Built by `set`, so that no name occurs twice. -/
abbrev Named (α : Type) := List (String × α)

namespace Named

variable {α : Type}

def get? (xs : Named α) (name : String) : Option α := xs.lookup name

def has (xs : Named α) (name : String) : Bool := xs.any (·.1 == name)

/-- A new name goes to the end; a name that is there keeps its place. -/
def set : Named α → String → α → Named α
  | [], name, x => [(name, x)]
  | (n, y) :: xs, name, x => if n = name then (n, x) :: xs else (n, y) :: set xs name x

/-- Members in order; of two with one name the later one counts, in the place of the first. -/
def ofList (members : List (String × α)) : Named α :=
  members.foldl (fun xs m => set xs m.1 m.2) []

def names (xs : Named α) : List String := xs.map (·.1)

@[simp] theorem get?_set (xs : Named α) (name other : String) (x : α) :
    (xs.set name x).get? other = if other = name then some x else xs.get? other := by
  induction xs with
  | nil =>
    by_cases h : other = name <;> simp [set, get?, List.lookup_nil, List.lookup_cons, h]
    rw [beq_false_of_ne h]
  | cons m xs ih =>
    obtain ⟨n, y⟩ := m
    simp only [get?] at ih
    by_cases hn : n = name
    · subst hn
      by_cases h : other = n <;> simp [set, get?, List.lookup_cons, h]
      rw [beq_false_of_ne h]
    · by_cases h : other = n
      · subst h
        simp [set, get?, hn]
      · simp [set, get?, List.lookup_cons, hn, beq_false_of_ne h, ih]

theorem names_set (xs : Named α) (name : String) (x : α) :
    (xs.set name x).names = if name ∈ xs.names then xs.names else xs.names ++ [name] := by
  induction xs with
  | nil => simp [set, names]
  | cons m xs ih =>
    obtain ⟨n, y⟩ := m
    simp only [names] at ih
    by_cases hn : n = name
    · simp [set, names, hn]
    · have hn' : ¬ name = n := fun h => hn h.symm
      by_cases hm : name ∈ xs.map (·.1) <;> simp_all [set, names]

end Named
end CrossCheck
