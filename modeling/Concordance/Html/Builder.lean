import Concordance.Html.Arena
import Concordance.Html.Token

/-!
# State of tree construction

Tree construction keeps a stack of open elements, a list of formatting elements that are
opened again where they were closed out of order, and an insertion mode. This module holds the
state with the operations that all modes share. Lists grow at the front : the first open
element is the current one, and the first formatting entry is the latest.
-/

namespace Concordance.Html

/-- How a token is taken into the tree. -/
inductive Mode
  | initial
  | beforeHtml
  | beforeHead
  | inHead
  | afterHead
  | inBody
  | text
  | inTable
  | inTableText
  | inCaption
  | inColumnGroup
  | inTableBody
  | inRow
  | inCell
  | inSelect
  | inSelectInTable
  | inTemplate
  | afterBody
  | inFrameset
  | afterFrameset
  | afterAfterBody
  | afterAfterFrameset
  deriving Repr, DecidableEq

/-- An open element. -/
structure OpenElement where
  /-- Its node. -/
  id : NodeId
  /-- Its name. -/
  name : Name
  deriving Repr, DecidableEq

/-- An entry in the list of formatting elements. -/
inductive Formatting
  /-- A boundary that formatting does not cross. -/
  | marker
  /-- A formatting element with the tag it came from. -/
  | element (id : NodeId) (tag : Tag)
  deriving Repr, DecidableEq

/-- Whether the entry is the element with the given node. -/
def Formatting.isElement (id : NodeId) : Formatting → Bool
  | marker => false
  | element other _ => other == id

/-- A tree under construction. -/
structure Builder where
  /-- The nodes. -/
  arena : Arena
  /-- The insertion mode. -/
  mode : Mode
  /-- The mode to return to. -/
  resume : Mode
  /-- The modes of the open templates. -/
  templateModes : List Mode
  /-- The open elements, the current one first. -/
  opened : List OpenElement
  /-- The formatting elements, the latest first. -/
  formatting : List Formatting
  /-- The head of the page. -/
  head : Option NodeId
  /-- The form that is open. -/
  form : Option NodeId
  /-- Whether a frameset may still replace the body. -/
  framesetOk : Bool
  /-- Whether a line feed is dropped. -/
  dropLineFeed : Bool
  /-- Whether contents of a table are put in front of it. -/
  fostering : Bool
  /-- Whether the page is of a broken or ancient type. -/
  ancient : Bool
  /-- Text inside a table that is not yet placed, reversed. -/
  tableText : List Char

namespace Builder

/-- The start of every page. -/
def start : Builder where
  arena := .empty
  mode := .initial
  resume := .initial
  templateModes := []
  opened := []
  formatting := []
  head := none
  form := none
  framesetOk := true
  dropLineFeed := false
  fostering := false
  ancient := false
  tableText := []

/-! ## Open elements -/

/-- Whether the current element satisfies `p`. -/
def currentIs (b : Builder) (p : Name → Bool) : Bool :=
  b.opened.head?.any fun e => p e.name

/-- Whether the current element has the given HTML name. -/
def currentNamed (b : Builder) (name : String) : Bool :=
  b.currentIs (·.isHtml name)

/-- Whether an element with the given HTML name is open. -/
def hasOpen (b : Builder) (name : String) : Bool :=
  b.opened.any fun e => e.name.isHtml name

/-- Whether an element that satisfies `p` is open before one that bounds the scope. -/
def inScopeBy (bounds : Name → Bool) (p : OpenElement → Bool) : List OpenElement → Bool
  | [] => false
  | e :: rest => p e || (!bounds e.name && inScopeBy bounds p rest)

/-- Whether an element whose name satisfies `p` is open in the scope. -/
def inScope (b : Builder) (bounds : Name → Bool) (p : Name → Bool) : Bool :=
  inScopeBy bounds (fun e => p e.name) b.opened

/-- Whether an element with the given HTML name is open in the scope. -/
def inScopeNamed (b : Builder) (bounds : Name → Bool) (name : String) : Bool :=
  b.inScope bounds (·.isHtml name)

/-- Close the current element. -/
def pop (b : Builder) : Builder :=
  { b with opened := b.opened.drop 1 }

/-- Close elements up to the innermost one that satisfies `p`, and that one too. -/
def popThrough (b : Builder) (p : Name → Bool) : Builder :=
  { b with opened := (b.opened.dropWhile fun e => !p e.name).drop 1 }

/-- Close elements up to the innermost one with the given HTML name, and that one too. -/
def popNamed (b : Builder) (name : String) : Builder :=
  b.popThrough (·.isHtml name)

/-- Close elements until the current one satisfies `p`. -/
def popTo (b : Builder) (p : Name → Bool) : Builder :=
  { b with opened := b.opened.dropWhile fun e => !p e.name }

/-- Close the current elements whose end tags are implied. -/
def popImplied (b : Builder) (implied : Name → Bool) : Builder :=
  { b with opened := b.opened.dropWhile fun e => implied e.name }

/-- Close the current elements whose end tags are implied, but none with the given name. -/
def popImpliedExcept (b : Builder) (name : String) : Builder :=
  b.popImplied fun n => n.isImplied && !n.isHtml name

/-- Take an element out of the stack. -/
def removeOpen (b : Builder) (id : NodeId) : Builder :=
  { b with opened := b.opened.eraseP fun e => e.id == id }

/-- Close the paragraph that is open. -/
def closeParagraph (b : Builder) : Builder :=
  (b.popImpliedExcept "p").popNamed "p"

/-- Close a paragraph if one is open in button scope. -/
def closeParagraphInScope (b : Builder) : Builder :=
  if b.inScopeNamed Name.boundsButtonScope "p" then b.closeParagraph else b

/-! ## Formatting elements -/

/-- Drop the formatting elements up to the latest marker, and the marker. -/
def clearToMarker (b : Builder) : Builder :=
  { b with formatting := (b.formatting.dropWhile (· ≠ .marker)).drop 1 }

/-- Set a marker. -/
def pushMarker (b : Builder) : Builder :=
  { b with formatting := .marker :: b.formatting }

/-- The formatting elements behind the latest marker. -/
def formattingToMarker (b : Builder) : List (NodeId × Tag) :=
  (b.formatting.takeWhile (· ≠ .marker)).filterMap fun
    | .marker => none
    | .element id tag => some (id, tag)

/-- Take an element out of the list of formatting elements. -/
def removeFormatting (b : Builder) (id : NodeId) : Builder :=
  { b with formatting := b.formatting.eraseP (·.isElement id) }

/-! ## Insertion -/

/-- Where a node is put. -/
inductive Place
  /-- Behind the last child of a node. -/
  | last (parent : NodeId)
  /-- In front of a table, or behind the last child of the element opened before it if the
  table is not in the tree. -/
  | foster (table previous : NodeId)

/-- The node that takes the children of an element : the contents of a template, or else the
element itself. -/
def contentsOf (b : Builder) (e : OpenElement) : NodeId :=
  if e.name.isHtml "template" then ((b.arena.children e.id)[0]?).getD e.id else e.id

/-- The place in front of the innermost table, or in the innermost template if that is nearer. -/
def fosterPlace (b : Builder) : List OpenElement → Place
  | [] => .last 0
  | [e] => .last e.id
  | e :: previous :: rest =>
    if e.name.isHtml "template" then .last (b.contentsOf e)
    else if e.name.isHtml "table" then .foster e.id previous.id
    else b.fosterPlace (previous :: rest)

/-- The place for a node that belongs to an element. -/
def placeIn (b : Builder) (target : OpenElement) : Place :=
  if b.fostering && target.name.isTablePart then b.fosterPlace b.opened
  else .last (b.contentsOf target)

/-- The place for a node that belongs to the current element. -/
def place (b : Builder) : Place :=
  match b.opened with
  | [] => .last 0
  | e :: _ => b.placeIn e

/-- Put a node at a place. -/
def putNode (b : Builder) (place : Place) (id : NodeId) : Builder :=
  match place with
  | .last parent => { b with arena := b.arena.append parent id }
  | .foster table previous =>
    if (b.arena.parent? table).isSome then { b with arena := b.arena.insertBefore table id }
    else { b with arena := b.arena.append previous id }

/-- Put a character at a place. -/
def putChar (b : Builder) (place : Place) (c : Char) : Builder :=
  match place with
  | .last parent => { b with arena := b.arena.appendChar parent c }
  | .foster table previous =>
    if (b.arena.parent? table).isSome then { b with arena := b.arena.insertCharBefore table c }
    else { b with arena := b.arena.appendChar previous c }

/-- Put a character into the current element. -/
def insertChar (b : Builder) (c : Char) : Builder :=
  b.putChar b.place c

/-- Put a comment into the current element. -/
def insertComment (b : Builder) (text : String) : Builder :=
  let place := b.place
  let (arena, id) := b.arena.create (.comment text)
  { b with arena }.putNode place id

/-- Put a comment behind the last child of a node. -/
def appendComment (b : Builder) (parent : NodeId) (text : String) : Builder :=
  let (arena, id) := b.arena.create (.comment text)
  { b with arena := arena.append parent id }

/-- A new element that is not in the tree. A template gets the fragment for its contents. -/
def createElement (b : Builder) (name : Name) : Builder × NodeId :=
  let (arena, id) := b.arena.create (.element name)
  if name.isHtml "template" then
    let (arena, fragment) := arena.create .fragment
    ({ b with arena := arena.append id fragment }, id)
  else ({ b with arena }, id)

/-- Put a new element into the current one. -/
def insertNamed (b : Builder) (name : Name) : Builder × NodeId :=
  let place := b.place
  let (b, id) := b.createElement name
  (b.putNode place id, id)

/-- Put a new element into the current one and open it. -/
def openNamed (b : Builder) (name : Name) : Builder × NodeId :=
  let (b, id) := b.insertNamed name
  ({ b with opened := ⟨id, name⟩ :: b.opened }, id)

/-- Open an HTML element. -/
def openElement (b : Builder) (name : String) : Builder :=
  (b.openNamed ⟨.html, name⟩).1

/-- Put in an HTML element that stays empty. -/
def insertVoid (b : Builder) (name : String) : Builder :=
  (b.insertNamed ⟨.html, name⟩).1

/-! ## Modes -/

/-- The mode that fits the open elements, where `rest` are those not yet looked at. -/
def fittingMode (b : Builder) : List OpenElement → Mode
  | [] => .inBody
  | e :: rest =>
    let last := rest.isEmpty
    if e.name.ns ≠ .html then b.fittingMode rest
    else
      match e.name.tag with
      | "select" =>
        match rest.find? fun e => e.name.isHtml "template" || e.name.isHtml "table" with
        | some e => if e.name.isHtml "table" then .inSelectInTable else .inSelect
        | none => .inSelect
      | "td" => if last then .inBody else .inCell
      | "th" => if last then .inBody else .inCell
      | "tr" => .inRow
      | "tbody" => .inTableBody
      | "thead" => .inTableBody
      | "tfoot" => .inTableBody
      | "caption" => .inCaption
      | "colgroup" => .inColumnGroup
      | "table" => .inTable
      | "template" => b.templateModes.headD .inTemplate
      | "head" => if last then .inBody else .inHead
      | "body" => .inBody
      | "frameset" => .inFrameset
      | "html" => if b.head.isSome then .afterHead else .beforeHead
      | _ => b.fittingMode rest

/-- Return to the mode that fits the open elements. -/
def resetMode (b : Builder) : Builder :=
  { b with mode := b.fittingMode b.opened }

end Builder

end Concordance.Html
