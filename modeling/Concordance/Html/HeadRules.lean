import Concordance.Html.Formatting

/-!
# Rules for the head of a page

What every mode does with a token is described by its effect on the tree and an outcome. The
rules of this module hold in front of the body and inside the head; other modes hand the
elements that belong to the head over to them.
-/

namespace Concordance.Html

/-- What follows when a token was taken in. -/
inductive Outcome
  /-- The next token. -/
  | done
  /-- The same token in the new mode. -/
  | again
  /-- The next token, with text read in another way. -/
  | read (mode : TextMode)
  deriving Repr, DecidableEq

/-- The effect of a token. -/
abbrev Effect := Builder × Outcome

namespace Builder

/-! ## Common effects -/

/-- The token is used up. -/
def done (b : Builder) : Effect := (b, .done)

/-- The token is looked at again in another mode. -/
def again (b : Builder) (mode : Mode) : Effect := ({ b with mode }, .again)

/-- Open an element whose text is read up to its end tag. -/
def openText (b : Builder) (name : String) (mode : TextMode) : Effect :=
  let b := b.openElement name
  ({ b with resume := b.mode, mode := .text }, .read mode)

/-- Elements that belong to the head wherever they stand. -/
def belongsToHead (name : String) : Bool :=
  ["base", "basefont", "bgsound", "link", "meta", "noframes", "script", "style", "template",
    "title"].contains name

/-- Open a template. -/
def openTemplate (b : Builder) : Builder :=
  let b := (b.openElement "template").pushMarker
  { b with
    framesetOk := false, mode := .inTemplate, templateModes := .inTemplate :: b.templateModes }

/-- Forget the innermost template that is open. -/
def leaveTemplate (b : Builder) : Builder :=
  let b := (b.popNamed "template").clearToMarker
  { b with templateModes := b.templateModes.drop 1 }.resetMode

/-- The end tag of a template. -/
def closeTemplate (b : Builder) : Builder :=
  if b.hasOpen "template" then (b.popImplied Name.isImpliedInTemplate).leaveTemplate else b

/-- The start tag of an element that belongs to the head. -/
def insertHeadElement (b : Builder) (tag : Tag) : Effect :=
  match tag.name with
  | "title" => b.openText "title" .rcdata
  | "noframes" => b.openText "noframes" .rawtext
  | "style" => b.openText "style" .rawtext
  | "script" => b.openText "script" .script
  | "template" => b.openTemplate.done
  | name => (b.insertVoid name).done

/-! ## In front of the head -/

/-- The outermost element. -/
def insertRoot (b : Builder) : Builder :=
  let (b, id) := b.createElement ⟨.html, "html"⟩
  { b with arena := b.arena.append 0 id, opened := [⟨id, ⟨.html, "html"⟩⟩] }

/-- End tags that imply what they would close. -/
def impliesStructure (name : String) : Bool :=
  ["head", "body", "html", "br"].contains name

/-- At the very start. A page without a document type is read in the ancient way. -/
def stepInitial (b : Builder) : Token → Effect
  | .char c => if isSpace c then b.done else ({ b with ancient := true }).again .beforeHtml
  | .comment text => (b.appendComment 0 text).done
  | _ => ({ b with ancient := true }).again .beforeHtml

/-- In front of the outermost element. -/
def stepBeforeHtml (b : Builder) (token : Token) : Effect :=
  let otherwise := b.insertRoot.again .beforeHead
  match token with
  | .char c => if isSpace c then b.done else otherwise
  | .comment text => (b.appendComment 0 text).done
  | .startTag tag =>
    if tag.name == "html" then ({ b.insertRoot with mode := .beforeHead }).done else otherwise
  | .endTag tag => if impliesStructure tag.name then otherwise else b.done
  | _ => otherwise

/-- Open the head. -/
def openHead (b : Builder) : Builder :=
  let (b, id) := b.openNamed ⟨.html, "head"⟩
  { b with head := some id }

/-- In front of the head. -/
def stepBeforeHead (b : Builder) (token : Token) : Effect :=
  let otherwise := b.openHead.again .inHead
  match token with
  | .char c => if isSpace c then b.done else otherwise
  | .comment text => (b.insertComment text).done
  | .startTag tag =>
    if tag.name == "html" then b.done
    else if tag.name == "head" then ({ b.openHead with mode := .inHead }).done
    else otherwise
  | .endTag tag => if impliesStructure tag.name then otherwise else b.done
  | _ => otherwise

/-! ## Inside the head and behind it -/

/-- Inside the head. -/
def stepInHead (b : Builder) (token : Token) : Effect :=
  let otherwise := b.pop.again .afterHead
  match token with
  | .char c => if isSpace c then (b.insertChar c).done else otherwise
  | .comment text => (b.insertComment text).done
  | .startTag tag =>
    if tag.name == "html" || tag.name == "head" then b.done
    else if tag.name == "noscript" then b.openText "noscript" .rawtext
    else if belongsToHead tag.name then b.insertHeadElement tag
    else otherwise
  | .endTag tag =>
    match tag.name with
    | "head" => ({ b.pop with mode := .afterHead }).done
    | "body" => otherwise
    | "html" => otherwise
    | "br" => otherwise
    | "template" => b.closeTemplate.done
    | _ => b.done
  | _ => otherwise

/-- Behind the head. -/
def stepAfterHead (b : Builder) (token : Token) : Effect :=
  let otherwise := (b.openElement "body").again .inBody
  match token with
  | .char c => if isSpace c then (b.insertChar c).done else otherwise
  | .comment text => (b.insertComment text).done
  | .startTag tag =>
    if tag.name == "html" || tag.name == "head" then b.done
    else if tag.name == "body" then
      ({ b.openElement "body" with framesetOk := false, mode := .inBody }).done
    else if tag.name == "frameset" then
      ({ b.openElement "frameset" with mode := .inFrameset }).done
    else if belongsToHead tag.name then
      match b.head with
      | none => otherwise
      | some head =>
        let b := { b with opened := ⟨head, ⟨.html, "head"⟩⟩ :: b.opened }
        let (b, outcome) := b.insertHeadElement tag
        (b.removeOpen head, outcome)
    else otherwise
  | .endTag tag =>
    match tag.name with
    | "body" => otherwise
    | "html" => otherwise
    | "br" => otherwise
    | "template" => b.closeTemplate.done
    | _ => b.done
  | _ => otherwise

end Builder

end Concordance.Html
