import CrossCheck.Yaml.Token

/-!
What tags and references can mean in a document.  The handle of a tag stands for a text that a
directive gives to it, and a reference is to a node that comes before it.
-/

namespace CrossCheck
namespace Yaml

/-- Handles and the texts that they stand for. -/
abbrev Handles := List (List Char × List Char)

/-- The start of the tags that every document knows. -/
def commonTag : List Char := "tag:yaml.org,2002:".toList

def Handles.standard : Handles := [(['!'], ['!']), (['!', '!'], commonTag)]

/-- The directives at the start.  There is one version of the format, which is named once at most,
and so is each handle. -/
def directives (versioned : Bool) (given : Handles) :
    List Token → Except Fault (Handles × List Token)
  | .directive (.version major) :: ts =>
    if versioned || major ≠ 1 then .error .malformed else directives true given ts
  | .directive (.handle name text) :: ts =>
    if (given.lookup name).isSome then .error .malformed
    else directives versioned ((name, text) :: given) ts
  | .directive .other :: ts => directives versioned given ts
  | ts => .ok (given ++ .standard, ts)

/-- Tags with the texts of their handles. -/
def wholeTags (handles : Handles) : List Token → List Token
  | [] => []
  | .tag (some h) text :: ts =>
    match handles.lookup h with
    | some start => .tag none (start ++ text) :: wholeTags handles ts
    | none => [.broken .malformed]
  | t :: ts => t :: wholeTags handles ts

/-- A name is given to one node only, and no reference to it comes earlier. -/
def knownNames (names : List (List Char)) : List Token → List Token
  | [] => []
  | .anchor name :: ts =>
    if names.contains name then [.broken .malformed]
    else .anchor name :: knownNames (name :: names) ts
  | .reference name :: ts =>
    if names.contains name then .reference name :: knownNames names ts else [.broken .malformed]
  | t :: ts => t :: knownNames names ts

end Yaml
end CrossCheck
