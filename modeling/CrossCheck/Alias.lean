import CrossCheck.Text.Case

/-!
Aliases of query columns: names of small letters, digits and underscores, numbered where two would
be the same.
-/

namespace CrossCheck
namespace Alias

def isAllowed (c : Char) : Bool := ('a' ≤ c && c ≤ 'z') || ('0' ≤ c && c ≤ '9') || c = '_'

/-- Every other character gives way to an underscore, so the length after lowering is kept. -/
def sanitizeChars (cs : List Char) : List Char :=
  (Text.lowerChars cs).map fun c => if isAllowed c then c else '_'

def sanitize (s : String) : String := String.ofList (sanitizeChars s.toList)

/-- The base itself comes first, then `base_1`, `base_2` and so on. -/
def numbered (base : String) (k : Nat) : String :=
  if k = 0 then base else base ++ "_" ++ toString k

/-- The first of the numbered names that is free.  Of one more names than are taken one is. -/
def unique (taken : List String) (base : String) : String :=
  match (List.range (taken.length + 1)).find? fun k => !taken.contains (numbered base k) with
  | some k => numbered base k
  | none => base

/-- Names for the bases in turn, each taken from then on. -/
def uniqueAll (taken : List String) : List String → List String
  | [] => []
  | base :: bases =>
    let name := unique taken base
    name :: uniqueAll (name :: taken) bases

theorem isAllowed_of_mem_sanitizeChars {cs : List Char} {c : Char} (h : c ∈ sanitizeChars cs) :
    isAllowed c = true := by
  obtain ⟨d, _, rfl⟩ := List.mem_map.1 h
  split
  · assumption
  · rfl

end Alias
end CrossCheck
