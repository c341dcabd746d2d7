import CrossCheck.Yaml.Node
import CrossCheck.Yaml.Scalar
import CrossCheck.Yaml.Tree

/-!
Documents as graphs: a node that references call stands in several places, and may lie within
itself.  The name `<<` stands for the members of its value.
-/

namespace CrossCheck
namespace Yaml

/-- A member of a mapping: the places of its name and of its value in the graph. -/
abbrev Member := Nat × Nat

inductive Content where
  | text (cs : List Char)
  | list (items : List Nat)
  | mapping (members : List Member)

structure Entry where
  tag : Tag
  content : Content

instance : Inhabited Entry := ⟨⟨.null, .text []⟩⟩

structure Graph where
  entries : Array Entry
  /-- The nodes that references can call. -/
  names : List (List Char × Nat)

namespace Graph

def empty : Graph := ⟨#[], []⟩

def entry (g : Graph) (i : Nat) : Entry := g.entries[i]?.getD default

def tag (g : Graph) (i : Nat) : Tag := (g.entry i).tag

def setTag (g : Graph) (i : Nat) (t : Tag) : Graph :=
  { g with entries := g.entries.modify i fun e => { e with tag := t } }

def setContent (g : Graph) (i : Nat) (c : Content) : Graph :=
  { g with entries := g.entries.modify i fun e => { e with content := c } }

/-- The members of a mapping; anything else has none. -/
def members (g : Graph) (i : Nat) : List Member :=
  match (g.entry i).content with
  | .mapping ms => ms
  | _ => []

/-! ## From trees -/

/-- The place of a new node, and the graph with it. -/
def add (g : Graph) (p : Properties) (t : Tag) (c : Content) : Nat × Graph :=
  let i := g.entries.size
  (i, ⟨g.entries.push ⟨t, c⟩, (p.name.map fun name => (name, i)).toList ++ g.names⟩)

/-- What a node is, when nothing but an exclamation mark says that it is something else. -/
def tagOr (p : Properties) (t : Tag) : Tag :=
  match p.tag with
  | none | some ['!'] => t
  | some text => .ofText text

/-- A scalar between quotes is text unless its tag is an exclamation mark. -/
def scalarTag (p : Properties) (plain : Bool) (cs : List Char) : Tag :=
  tagOr p (if plain || p.tag.isSome then .ofForm cs else .text)

mutual

/-- The place of the root of a tree, and the graph with the tree.  A node comes before its parts,
which may refer to it. -/
def addTree (g : Graph) : Tree → Nat × Graph
  | .reference name => ((g.names.lookup name).getD 0, g)
  | .scalar p plain cs => g.add p (scalarTag p plain cs) (.text cs)
  | .list p items =>
    let (i, g) := g.add p (tagOr p .list) (.list [])
    let (parts, g) := addItems g items
    (i, g.setContent i (.list parts))
  | .mapping p ms =>
    let (i, g) := g.add p (tagOr p .mapping) (.mapping [])
    let (parts, g) := addMembers g ms
    (i, g.setContent i (.mapping parts))

def addItems (g : Graph) : List Tree → List Nat × Graph
  | [] => ([], g)
  | t :: ts =>
    let (i, g) := addTree g t
    let (is, g) := addItems g ts
    (i :: is, g)

def addMembers (g : Graph) : List (Tree × Tree) → List Member × Graph
  | [] => ([], g)
  | (k, v) :: ms =>
    let (i, g) := addTree g k
    let (j, g) := addTree g v
    let (parts, g) := addMembers g ms
    ((i, j) :: parts, g)

end

/-! ## Members that stand for others -/

def isMerge (g : Graph) (m : Member) : Bool := g.tag m.1 = .merge

/-- In a mapping that has no such members any more, an equals sign is a name like any other. -/
def settled (g : Graph) (i : Nat) (given : List Member) : Graph :=
  let own := g.members i
  let g := own.foldl (fun g m => if g.tag m.1 = .default then g.setTag m.1 .text else g) g
  g.setContent i (.mapping (given ++ own))

/-- Replaces the members of a mapping that stand for others: those of another mapping, or those of
several, of which the first comes last.  `given` are the members found so far, which come first.
Every step removes such a member, and `fuel` is larger than their number. -/
def merge : (fuel : Nat) → Graph → Nat → (given : List Member) → Except Fault Graph
  | 0, g, _, _ => .ok g
  | fuel + 1, g, i, given =>
    match (g.members i).find? g.isMerge with
    | none => .ok (g.settled i given)
    | some m =>
      let g := g.setContent i (.mapping ((g.members i).erase m))
      match (g.entry m.2).content with
      | .mapping _ => do
        let g ← merge fuel g m.2 []
        merge fuel g i (given ++ g.members m.2)
      | .list items => do
        let (g, found) ← items.foldlM (fun (g, found) j =>
          match (g.entry j).content with
          | .mapping _ => do
            let g ← merge fuel g j []
            return (g, g.members j ++ found)
          | _ => .error .malformed) (g, [])
        merge fuel g i (given ++ found)
      | .text _ => .error .malformed

def merged (g : Graph) (i : Nat) : Except Fault Graph :=
  let all := g.entries.foldl (fun n e => match e.content with
    | .mapping ms => n + (ms.filter g.isMerge).length
    | _ => n) 0
  merge (all + 1) g i []

/-! ## Values -/

/-- The text of a node: its own, or that of the member of a mapping that stands for the whole. -/
def text (g : Graph) : (fuel : Nat) → Nat → Except Fault (List Char)
  | 0, _ => .error .tooDeep
  | fuel + 1, i =>
    match (g.entry i).content with
    | .text cs => .ok cs
    | .list _ => .error .malformed
    | .mapping ms =>
      match ms.find? fun m => g.tag m.1 = .default with
      | some m => text g fuel m.2
      | none => .error .malformed

/-- The value of a node without parts. -/
def value (g : Graph) (i : Nat) : Except Fault Value :=
  if g.tag i = .unknown || g.tag i = .merge || g.tag i = .default then .error .malformed
  else do scalarValue (g.tag i) (← g.text (g.entries.size + 1) i)

/-- A graph whose nodes are looked at one after another, parts after all that lie less deep. -/
structure Walk where
  graph : Graph
  seen : Array Bool
  /-- Nodes whose parts come next. -/
  waiting : List Nat

/-- A node with parts waits until its turn comes. -/
def Walk.visit (w : Walk) (i : Nat) : Except Fault Walk :=
  let w' := { w with seen := w.seen.modify i fun _ => true }
  if (w.seen[i]?).getD true then .ok w
  else if (w.graph.tag i).hasParts then .ok { w' with waiting := i :: w.waiting }
  else (w.graph.value i).map fun _ => w'

/-- A name, which has no parts, and its value. -/
def Walk.visitMember (w : Walk) (m : Member) : Except Fault Walk := do
  let w ← w.visit m.1
  if (w.graph.tag m.1).hasParts then .error .malformed else w.visit m.2

/-- A name with its value, as the only member of a mapping. -/
def Walk.visitPair (w : Walk) (i : Nat) : Except Fault Walk := do
  match (w.graph.entry i).content with
  | .mapping [(k, v)] => (← w.visit k).visit v
  | _ => .error .malformed

def Walk.visitParts (w : Walk) (i : Nat) : Except Fault Walk :=
  match w.graph.tag i, (w.graph.entry i).content with
  | .list, .list items => items.foldlM Walk.visit w
  | .pairs, .list items => items.foldlM Walk.visitPair w
  | .mapping, .mapping _ | .set, .mapping _ => do
    let g ← w.graph.merged i
    (g.members i).foldlM Walk.visitMember { w with graph := g }
  | _, _ => .error .malformed

/-- All nodes, level by level. -/
def Walk.run : (fuel : Nat) → Walk → Except Fault Walk
  | 0, w => .ok w
  | fuel + 1, w => do
    if w.waiting.isEmpty then return w
    run fuel (← w.waiting.reverse.foldlM Walk.visitParts { w with waiting := [] })

/-- A graph without members that stand for others, in which every node has a value. -/
def evaluated (g : Graph) (root : Nat) : Except Fault Graph := do
  let start : Walk := ⟨g, Array.replicate g.entries.size false, []⟩
  return (← Walk.run (g.entries.size + 1) (← start.visit root)).graph

/-- The names of a mapping, each of them once. -/
def namesOf : Node → List Node
  | .mapping ms => ms.map (·.1)
  | _ => []

/-- A node with so many levels below it, since one that lies within itself has no end. -/
def node (g : Graph) : (levels : Nat) → Nat → Node
  | 0, _ => .null
  | levels + 1, i =>
    let part := node g levels
    let mapping (ms : List Member) := Node.ofMembers (ms.map fun (k, v) => (part k, part v))
    match g.tag i, (g.entry i).content with
    | .list, .list items => .list (items.map part)
    | .mapping, .mapping ms => mapping ms
    | .set, .mapping ms => .list (namesOf (mapping ms))
    | .pairs, .list items =>
      .list (items.map fun j => .list ((g.members j).flatMap fun (k, v) => [part k, part v]))
    | _, _ => .scalar ((g.value i).toOption.getD .null)

end Graph
end Yaml
end CrossCheck
