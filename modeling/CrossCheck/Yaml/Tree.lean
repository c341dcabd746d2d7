import CrossCheck.Yaml.Handle

/-!
Documents as trees of scalars that are still as they were written, and how tokens make trees.
-/

namespace CrossCheck
namespace Yaml

/-- What is said about a node before it. -/
structure Properties where
  /-- What references call the node. -/
  name : Option (List Char)
  tag : Option (List Char)

namespace Properties

def none : Properties := ⟨.none, .none⟩

def areGiven (p : Properties) : Bool := p.name.isSome || p.tag.isSome

/-- The name and the tag come in either order. -/
def ofTokens : List Token → Properties × List Token
  | .anchor name :: .tag _ text :: ts => (⟨some name, some text⟩, ts)
  | .tag _ text :: .anchor name :: ts => (⟨some name, some text⟩, ts)
  | .anchor name :: ts => (⟨some name, .none⟩, ts)
  | .tag _ text :: ts => (⟨.none, some text⟩, ts)
  | ts => (none, ts)

end Properties

inductive Tree where
  | scalar (p : Properties) (plain : Bool) (text : List Char)
  | list (p : Properties) (items : List Tree)
  | mapping (p : Properties) (members : List (Tree × Tree))
  /-- A node that has a name and stands elsewhere as well. -/
  | reference (name : List Char)

instance : Inhabited Tree := ⟨.reference []⟩

namespace Tree

/-- What stands where a document leaves something out. -/
def empty : Tree := .scalar .none true []

/-- The fault of a token that may not stand where it does. -/
def unexpected : List Token → Fault
  | .broken f :: _ => f
  | _ => .malformed

/-- Whether one of these marks comes next. -/
def startsWith (marks : List Token) (ts : List Token) : Bool := ts.head?.any marks.contains

/-- A part, unless a mark that follows it comes at once. -/
def orEmpty (marks : List Token) (part : List Token → Except Fault (Tree × List Token))
    (ts : List Token) : Except Fault (Tree × List Token) :=
  if startsWith marks ts then .ok (empty, ts) else part ts

/-- What follows a colon, or nothing if there is none. -/
def afterColon (marks : List Token) (part : List Token → Except Fault (Tree × List Token)) :
    List Token → Except Fault (Tree × List Token)
  | .value :: ts => orEmpty marks part ts
  | ts => .ok (empty, ts)

/-- The tokens after a comma; before the first item there is none. -/
def afterComma (first : Bool) (ts : List Token) : Except Fault (List Token) :=
  if first then .ok ts
  else match ts with
    | .comma :: rest => .ok rest
    | ts => .error (unexpected ts)

/-- The marks that may follow a name or value outside brackets. -/
def blockMarks : List Token := [.key, .value, .blockEnd]

/-- What stands in a node, where so many nodes may lie within one another. -/
def within {α : Type} (room : Nat) (parts : Nat → Except Fault (α × List Token)) (make : α → Tree) :
    Except Fault (Tree × List Token) :=
  match room with
  | 0 => .error .tooDeep
  | room + 1 => (parts room).map fun (inner, rest) => (make inner, rest)

mutual

/-- A node between brackets, or a scalar.  Where something is said about a node it may be left
out. -/
def flowNode : (fuel : Nat) → (room : Nat) → List Token → Except Fault (Tree × List Token)
  | 0, _, ts => .error (unexpected ts)
  | _ + 1, _, .reference name :: ts => .ok (.reference name, ts)
  | fuel + 1, room, ts =>
    let (p, ts) := Properties.ofTokens ts
    match ts with
    | .scalar plain text :: rest => .ok (.scalar p plain text, rest)
    | .openList :: rest => within room (fun room => flowItems fuel room true rest) (.list p)
    | .openMapping :: rest => within room (fun room => flowMembers fuel room true rest) (.mapping p)
    | ts => if p.areGiven then .ok (.scalar p true [], ts) else .error (unexpected ts)

/-- The items of a list up to its bracket.  A name with its value is a mapping of its own. -/
def flowItems : (fuel : Nat) → (room : Nat) → Bool → List Token →
    Except Fault (List Tree × List Token)
  | 0, _, _, ts => .error (unexpected ts)
  | fuel + 1, room, first, ts =>
    match ts with
    | .closeList :: rest => .ok ([], rest)
    | ts => do
      match ← afterComma first ts with
      | .closeList :: rest => return ([], rest)
      | .key :: rest =>
        let (member, r) ← within room (fun room => do
          let (name, r) ← orEmpty [.value, .comma, .closeList] (flowNode fuel room) rest
          let (value, r) ← afterColon [.comma, .closeList] (flowNode fuel room) r
          return ([(name, value)], r)) (.mapping .none)
        let (items, r) ← flowItems fuel room false r
        return (member :: items, r)
      | rest =>
        let (item, r) ← flowNode fuel room rest
        let (items, r) ← flowItems fuel room false r
        return (item :: items, r)

/-- The members of a mapping up to its bracket.  A name may stand without a value. -/
def flowMembers : (fuel : Nat) → (room : Nat) → Bool → List Token →
    Except Fault (List (Tree × Tree) × List Token)
  | 0, _, _, ts => .error (unexpected ts)
  | fuel + 1, room, first, ts =>
    match ts with
    | .closeMapping :: rest => .ok ([], rest)
    | ts => do
      match ← afterComma first ts with
      | .closeMapping :: rest => return ([], rest)
      | .key :: rest =>
        let (name, r) ← orEmpty [.value, .comma, .closeMapping] (flowNode fuel room) rest
        let (value, r) ← afterColon [.comma, .closeMapping] (flowNode fuel room) r
        let (members, r) ← flowMembers fuel room false r
        return ((name, value) :: members, r)
      | rest =>
        let (name, r) ← flowNode fuel room rest
        let (members, r) ← flowMembers fuel room false r
        return ((name, empty) :: members, r)

end

mutual

/-- A node by indentation, between brackets, or a scalar.  A list that is a value may stand as far
to the left as its name (`loose`). -/
def blockNode : (fuel : Nat) → (room : Nat) → Bool → List Token →
    Except Fault (Tree × List Token)
  | 0, _, _, ts => .error (unexpected ts)
  | fuel + 1, room, loose, ts =>
    let (p, rest) := Properties.ofTokens ts
    match rest with
    | .blockList :: rest => within room (fun room => blockItems fuel room rest) (.list p)
    | .blockMapping :: rest => within room (fun room => blockMembers fuel room rest) (.mapping p)
    | .dash :: _ =>
      if loose then within room (fun room => looseItems fuel room rest) (.list p)
      else flowNode fuel room ts
    | _ => flowNode fuel room ts

/-- The items of a list up to the end of its block. -/
def blockItems : (fuel : Nat) → (room : Nat) → List Token → Except Fault (List Tree × List Token)
  | 0, _, ts => .error (unexpected ts)
  | fuel + 1, room, ts =>
    match ts with
    | .dash :: rest => do
      let (item, r) ← orEmpty [.dash, .blockEnd] (blockNode fuel room false) rest
      let (items, r) ← blockItems fuel room r
      return (item :: items, r)
    | .blockEnd :: rest => .ok ([], rest)
    | ts => .error (unexpected ts)

/-- The items of a list that has no block of its own. -/
def looseItems : (fuel : Nat) → (room : Nat) → List Token → Except Fault (List Tree × List Token)
  | 0, _, ts => .error (unexpected ts)
  | fuel + 1, room, ts =>
    match ts with
    | .dash :: rest => do
      let (item, r) ← orEmpty (.dash :: blockMarks) (blockNode fuel room false) rest
      let (items, r) ← looseItems fuel room r
      return (item :: items, r)
    | ts => .ok ([], ts)

/-- The members of a mapping up to the end of its block. -/
def blockMembers : (fuel : Nat) → (room : Nat) → List Token →
    Except Fault (List (Tree × Tree) × List Token)
  | 0, _, ts => .error (unexpected ts)
  | fuel + 1, room, ts =>
    match ts with
    | .key :: rest => do
      let (name, r) ← orEmpty blockMarks (blockNode fuel room true) rest
      let (value, r) ← afterColon blockMarks (blockNode fuel room true) r
      let (members, r) ← blockMembers fuel room r
      return ((name, value) :: members, r)
    | .blockEnd :: rest => .ok ([], rest)
    | ts => .error (unexpected ts)

end

/-- How many nodes may lie within one another. -/
def deepest : Nat := 490

/-- The tree of what follows the directives, and what follows the document. -/
def document (directed : Bool) (ts : List Token) : Except Fault (Tree × List Token) :=
  let fuel := 3 * ts.length + 1
  match directed, ts with
  | _, .documentStart :: rest =>
    if rest.isEmpty then .ok (empty, rest)
    else orEmpty [.documentStart, .documentEnd] (blockNode fuel deepest false) rest
  | true, ts => .error (unexpected ts)
  | false, [] => .ok (empty, [])
  | false, ts => blockNode fuel deepest false ts

/-- The tree of the only document.  Its end may be marked any number of times. -/
def ofTokens (ts : List Token) : Except Fault Tree := do
  let (handles, body) ← directives false [] ts
  let (tree, rest) ← document (body.length < ts.length) (knownNames [] (wholeTags handles body))
  let rest := rest.dropWhile (· = .documentEnd)
  if rest.isEmpty then return tree else .error (unexpected rest)

end Tree
end Yaml
end CrossCheck
