import CrossCheck.Calendar.Epoch
import CrossCheck.Number
import CrossCheck.Value

/-!
Documents as trees of values.  A member of a mapping may have any scalar for its name.
-/

namespace CrossCheck
namespace Yaml

inductive Node where
  | scalar (v : Value)
  | list (items : List Node)
  | mapping (members : List (Node × Node))

instance : Inhabited Node := ⟨.scalar .null⟩

namespace Node

def null : Node := scalar .null

def text? : Node → Option String
  | scalar (.text s) => some s
  | _ => none

/-- Whether a node counts as given: nothing, zero and what is empty do not. -/
def isTruthy : Node → Bool
  | scalar v => v.isTruthy
  | list items => !items.isEmpty
  | mapping members => !members.isEmpty

/-- Whether two names are the same.  Truth values are the numbers zero and one, and what is not a
number is one name. -/
def sameName : Value → Value → Bool
  | .null, .null => true
  | .text s, .text t => s = t
  | .date d, .date e => d = e
  | .timestamp t, .timestamp u => t.isSame u
  | .bytes bs, .bytes cs => bs = cs
  | v, w =>
    let number : Value → Option Number
      | .bool b => some (.int (if b then 1 else 0))
      | .int n => some (.int n)
      | .float x => some (.float x)
      | _ => none
    match number v, number w with
    | some (.int m), some (.int n) => m = n
    | some (.float x), some (.float y) => x = y || (x.isZero && y.isZero)
    | some (.int n), some (.float x) | some (.float x), some (.int n) => Binary64.isInt x n
    | _, _ => false

def isNamed (name : Node) : Node → Bool :=
  match name with
  | scalar v => fun
    | scalar w => sameName v w
    | _ => false
  | _ => fun _ => false

/-- A repeated name keeps its place and takes the later value. -/
def setMember (key value : Node) : List (Node × Node) → List (Node × Node)
  | [] => [(key, value)]
  | (k, v) :: members =>
    if isNamed key k then (k, value) :: members else (k, v) :: setMember key value members

def ofMembers (members : List (Node × Node)) : Node :=
  mapping (members.foldl (fun ms m => setMember m.1 m.2 ms) [])

/-- The member of that name. -/
def get? (name : String) (members : List (Node × Node)) : Option Node :=
  (members.find? fun m => m.1.text? = some name).map (·.2)

end Node
end Yaml
end CrossCheck
