import Concordance.Html.Builder

/-!
# Formatting elements

Formatting that was closed by the end of a block is opened again in front of later text
(`reconstruct`). An end tag of a formatting element that crosses a block splits the element in
two, one part inside the block and one outside (`adopt`).
-/

namespace Concordance.Html.Builder

/-! ## Opening again -/

/-- Open the given entries, the earliest first, and give them back with their new nodes. -/
def reopen (b : Builder) : List Formatting → Builder × List Formatting
  | [] => (b, [])
  | .marker :: rest =>
    let (b, entries) := b.reopen rest
    (b, .marker :: entries)
  | .element _ tag :: rest =>
    let (b, id) := b.openNamed ⟨.html, tag.name⟩
    let (b, entries) := b.reopen rest
    (b, .element id tag :: entries)

/-- Open the latest formatting elements that are not open. -/
def reconstruct (b : Builder) : Builder :=
  let closed := b.formatting.takeWhile fun
    | .marker => false
    | .element id _ => !b.opened.any fun e => e.id == id
  if closed.isEmpty then b
  else
    let rest := b.formatting.drop closed.length
    let (b, entries) := b.reopen closed.reverse
    { b with formatting := entries.reverse ++ rest }

/-- Whether two tags open the same formatting; the order of attributes does not count. -/
def sameFormatting (s t : Tag) : Bool :=
  s.name == t.name && s.attributes.length == t.attributes.length &&
    s.attributes.all fun a => t.attributes.contains a

/-- Open a formatting element. Of four that are the same the earliest is forgotten. -/
def openFormatting (b : Builder) (tag : Tag) : Builder :=
  let same := b.formattingToMarker.filter fun e => sameFormatting tag e.2
  let b :=
    match same.getLast? with
    | some (id, _) => if 3 ≤ same.length then b.removeFormatting id else b
    | none => b
  let (b, id) := b.openNamed ⟨.html, tag.name⟩
  { b with formatting := .element id tag :: b.formatting }

/-! ## Generic end tags -/

/-- Close the innermost element with the given name, unless a special element is inside it. -/
def closeGeneric (b : Builder) (name : String) : Builder :=
  match b.opened.find? fun e => e.name.isHtml name || e.name.isSpecial with
  | none => b
  | some e =>
    if e.name.isHtml name then
      let b := b.popImpliedExcept name
      { b with opened := (b.opened.dropWhile fun other => other.id ≠ e.id).drop 1 }
    else b

/-! ## Adoption -/

/-- The state of the walk from the block up to the formatting element. -/
structure Adoption where
  /-- The tree. -/
  builder : Builder
  /-- The node that the next element takes up. -/
  last : NodeId
  /-- The element behind which the new entry goes, if it is not to replace the old one. -/
  bookmark : Option NodeId

/-- Pass one open element between the block and the formatting element, the `n`-th from the
block : forget it, or make a copy of it around what was passed. -/
def adoptStep (block : NodeId) (n : Nat) (s : Adoption) (e : OpenElement) : Adoption :=
  let b := s.builder
  match b.formatting.find? (·.isElement e.id) with
  | some (.element _ tag) =>
    if 3 < n then { s with builder := (b.removeFormatting e.id).removeOpen e.id }
    else
      let name : Name := ⟨.html, tag.name⟩
      let (b, id) := b.createElement name
      let b := { b with
        opened := b.opened.map fun other => if other.id == e.id then ⟨id, name⟩ else other
        formatting := b.formatting.map fun f =>
          if f.isElement e.id then .element id tag else f
        arena := b.arena.append id s.last }
      { builder := b, last := id, bookmark := if s.last = block then some id else s.bookmark }
  | _ => { s with builder := b.removeOpen e.id }

/-- Split the formatting element `f` with the tag `tag` around the block `block`; `above` is
the element around `f`, and `between` are those inside it, the innermost first. -/
def adoptBlock (b : Builder) (f : NodeId) (tag : Tag) (block : OpenElement)
    (above : OpenElement) (between : List OpenElement) : Builder :=
  let start : Adoption := ⟨b, block.id, none⟩
  let s := (between.zipIdx 1).foldl (fun s p => adoptStep block.id p.2 s p.1) start
  let b := { s.builder with arena := s.builder.arena.detach s.last }
  let b := b.putNode (b.placeIn above) s.last
  let name : Name := ⟨.html, tag.name⟩
  let (b, id) := b.createElement name
  let arena := b.arena.moveChildren block.id id
  let b := { b with arena := arena.append block.id id }
  let entry := Formatting.element id tag
  let formatting :=
    match s.bookmark with
    | none => b.formatting.map fun g => if g.isElement f then entry else g
    | some previous =>
      (b.formatting.flatMap fun g => if g.isElement previous then [entry, g] else [g]).eraseP
        (·.isElement f)
  let b := ({ b with formatting }).removeOpen f
  let (inner, outer) := b.opened.span fun e => e.id ≠ block.id
  { b with opened := inner ++ ⟨id, name⟩ :: outer }

/-- One round of adoption for an end tag of the formatting element `name`; the flag tells
whether another round may follow. -/
def adoptRound (b : Builder) (name : String) : Builder × Bool :=
  match b.formattingToMarker.find? fun e => e.2.name == name with
  | none => (b.closeGeneric name, false)
  | some (f, tag) =>
    match b.opened.span fun e => e.id ≠ f with
    | (_, []) => (b.removeFormatting f, false)
    | (inside, e :: outside) =>
      if !inScopeBy Name.boundsScope (fun e => e.id == f) b.opened then (b, false)
      else
        match inside.reverse.find? (·.name.isSpecial) with
        | none => ({ b with opened := outside }.removeFormatting f, false)
        | some block =>
          let between := (inside.dropWhile fun e => e.id ≠ block.id).drop 1
          (b.adoptBlock f tag block (outside.headD e) between, true)

/-- At most `n` rounds of adoption. -/
def adoptRounds (name : String) : (n : Nat) → Builder → Builder
  | 0, b => b
  | n + 1, b =>
    let (b, more) := b.adoptRound name
    if more then adoptRounds name n b else b

/-- Close the formatting element `name`. -/
def adopt (b : Builder) (name : String) : Builder :=
  match b.opened with
  | e :: _ =>
    if e.name.isHtml name && !b.formatting.any (·.isElement e.id) then b.pop
    else adoptRounds name 8 b
  | [] => adoptRounds name 8 b

/-- Close a link that is still open in front of another one. -/
def closeMisnestedLink (b : Builder) : Builder :=
  match b.formattingToMarker.find? fun e => e.2.name == "a" with
  | none => b
  | some (id, _) => ((b.adopt "a").removeFormatting id).removeOpen id

end Concordance.Html.Builder
