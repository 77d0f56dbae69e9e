import Concordance.Html.Forest
import Concordance.Html.Name

/-!
# Trees under construction

While a page is read, its nodes lie in an arena and refer to each other by number. Text that
is put next to a text extends it. The contents of a template hang below a fragment, which is
the first child of the template.
-/

namespace Concordance.Html

/-- The number of a node. -/
abbrev NodeId := Nat

/-- What a node is. -/
inductive NodeKind
  /-- The page itself. -/
  | document
  /-- The contents of a template. -/
  | fragment
  /-- A comment. -/
  | comment (text : String)
  /-- A text. -/
  | text (s : String)
  /-- An element. -/
  | element (name : Name)
  deriving Repr

/-- A node with its place in the tree. -/
structure ArenaNode where
  /-- What the node is. -/
  kind : NodeKind
  /-- The node around it. -/
  parent : Option NodeId
  /-- The nodes inside it. -/
  children : Array NodeId
  deriving Repr

/-- The nodes of a page by number; the page itself has the number zero. -/
structure Arena where
  /-- The nodes. -/
  nodes : Array ArenaNode
  deriving Repr

namespace Arena

/-- The page without contents. -/
def empty : Arena := ⟨#[⟨.document, none, #[]⟩]⟩

/-- A new node that is not in the tree. -/
def create (arena : Arena) (kind : NodeKind) : Arena × NodeId :=
  (⟨arena.nodes.push ⟨kind, none, #[]⟩⟩, arena.nodes.size)

/-- The node around a node. -/
def parent? (arena : Arena) (id : NodeId) : Option NodeId :=
  arena.nodes[id]?.bind (·.parent)

/-- The nodes inside a node. -/
def children (arena : Arena) (id : NodeId) : Array NodeId :=
  (arena.nodes[id]?.map (·.children)).getD #[]

/-- Change a node. -/
def modify (arena : Arena) (id : NodeId) (f : ArenaNode → ArenaNode) : Arena :=
  ⟨arena.nodes.modify id f⟩

/-- Take a node out of the tree. -/
def detach (arena : Arena) (id : NodeId) : Arena :=
  match arena.parent? id with
  | none => arena
  | some parent =>
    (arena.modify parent fun n => { n with children := n.children.erase id }).modify id
      fun n => { n with parent := none }

/-- Put a node behind the last child of another one. -/
def append (arena : Arena) (parent child : NodeId) : Arena :=
  ((arena.detach child).modify parent fun n => { n with children := n.children.push child }).modify
    child fun n => { n with parent := some parent }

/-- Put a node in front of another one, which has a parent. -/
def insertBefore (arena : Arena) (sibling child : NodeId) : Arena :=
  let arena := arena.detach child
  match arena.parent? sibling with
  | none => arena
  | some parent =>
    let siblings := arena.children parent
    let place := (siblings.idxOf? sibling).getD siblings.size
    let arena := arena.modify parent fun n =>
      { n with children := siblings.insertIdxIfInBounds place child }
    arena.modify child fun n => { n with parent := some parent }

/-- Whether a node is a text. -/
def isText (arena : Arena) (id : NodeId) : Bool :=
  match arena.nodes[id]? with
  | some ⟨.text _, _, _⟩ => true
  | _ => false

/-- Extend a text by a character. -/
def extendText (arena : Arena) (id : NodeId) (c : Char) : Arena :=
  arena.modify id fun
    | ⟨.text s, parent, children⟩ => ⟨.text (s.push c), parent, children⟩
    | n => n

/-- A new text of one character. -/
def createText (arena : Arena) (c : Char) : Arena × NodeId :=
  arena.create (.text (String.singleton c))

/-- The last child of a node, if it is a text. -/
def lastText? (arena : Arena) (parent : NodeId) : Option NodeId :=
  (arena.children parent).back?.filter arena.isText

/-- The sibling in front of a node, if it is a text. -/
def textBefore? (arena : Arena) (sibling : NodeId) : Option NodeId := do
  let siblings := arena.children (← arena.parent? sibling)
  let i ← siblings.idxOf? sibling
  if i = 0 then none else siblings[i - 1]?.filter arena.isText

/-- Put a character at the end of a node. -/
def appendChar (arena : Arena) (parent : NodeId) (c : Char) : Arena :=
  match arena.lastText? parent with
  | some id => arena.extendText id c
  | none =>
    let (arena, id) := arena.createText c
    arena.append parent id

/-- Put a character in front of a node, which has a parent. -/
def insertCharBefore (arena : Arena) (sibling : NodeId) (c : Char) : Arena :=
  match arena.textBefore? sibling with
  | some id => arena.extendText id c
  | none =>
    let (arena, id) := arena.createText c
    arena.insertBefore sibling id

/-- Move the children of a node behind those of another one. -/
def moveChildren (arena : Arena) (source target : NodeId) : Arena :=
  (arena.children source).foldl (fun arena child => arena.append target child) arena

/-- The forest of nodes, at most `fuel` levels deep. -/
def forest (arena : Arena) : (fuel : Nat) → List NodeId → Forest
  | 0, _ => .nil
  | fuel + 1, ids => ids.foldr (fun (id : NodeId) (next : Forest) =>
      match arena.nodes[id]? with
      | some ⟨.text s, _, _⟩ => .text s.toList next
      | some ⟨.element name, _, children⟩ =>
        .element name.tag (arena.forest fuel children.toList) next
      | some ⟨.fragment, _, children⟩ =>
        .element "" (arena.forest fuel children.toList) next
      | _ => next) .nil

/-- What is inside the root element of the page. -/
def rootForest (arena : Arena) : Forest :=
  let isElement := fun id : NodeId =>
    match arena.nodes[id]? with
    | some ⟨.element _, _, _⟩ => true
    | _ => false
  match (arena.children 0).find? isElement with
  | some root => arena.forest arena.nodes.size (arena.children root).toList
  | none => .nil

end Arena

end Concordance.Html
