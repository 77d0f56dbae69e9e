import Concordance.Html.BodyRules

/-!
# Rules for tables, selections, templates and framesets

Inside a table only its parts stand where they are; everything else is put in front of it.
Parts that are left out in the markup are supplied.
-/

namespace Concordance.Html.Builder

/-! ## Tables -/

/-- Use the rules of the body and put what does not belong into a table in front of it. -/
def foster (b : Builder) (token : Token) : Effect :=
  let (b, outcome) := { b with fostering := true }.stepInBody token
  ({ b with fostering := false }, outcome)

/-- The elements that hold rows. -/
def isRowContext (name : Name) : Bool :=
  name.isHtmlIn ["tbody", "tfoot", "thead", "template", "html"]

/-- The elements that hold cells. -/
def isCellContext (name : Name) : Bool :=
  name.isHtmlIn ["tr", "template", "html"]

/-- Rows and groups of rows. -/
def isRowGroup (name : Name) : Bool :=
  name.isHtmlIn ["tbody", "tfoot", "thead"]

/-- Cells. -/
def isCell (name : Name) : Bool :=
  name.isHtmlIn ["td", "th"]

/-- Whether an element with the given HTML name is open in table scope. -/
def inTableScope (b : Builder) (name : String) : Bool :=
  b.inScopeNamed Name.boundsTableScope name

/-- Close the cell that is open. -/
def closeCell (b : Builder) : Builder :=
  ((b.popImplied Name.isImplied).popThrough isCell).clearToMarker

/-- A start tag inside a table. -/
def startInTable (b : Builder) (tag : Tag) : Effect :=
  let inner := b.popTo Name.boundsTableScope
  match tag.name with
  | "caption" => ({ inner.pushMarker.openElement "caption" with mode := .inCaption }).done
  | "colgroup" => ({ inner.openElement "colgroup" with mode := .inColumnGroup }).done
  | "col" => (inner.openElement "colgroup").again .inColumnGroup
  | "tbody" => ({ inner.openElement "tbody" with mode := .inTableBody }).done
  | "tfoot" => ({ inner.openElement "tfoot" with mode := .inTableBody }).done
  | "thead" => ({ inner.openElement "thead" with mode := .inTableBody }).done
  | "td" => (inner.openElement "tbody").again .inTableBody
  | "th" => (inner.openElement "tbody").again .inTableBody
  | "tr" => (inner.openElement "tbody").again .inTableBody
  | "table" => if b.inTableScope "table" then ((b.popNamed "table").resetMode, .again) else b.done
  | "style" => b.insertHeadElement tag
  | "script" => b.insertHeadElement tag
  | "template" => b.insertHeadElement tag
  | "input" =>
    if isHiddenInput tag then (b.insertVoid "input").done else b.foster (.startTag tag)
  | "form" =>
    if b.hasOpen "template" || b.form.isSome then b.done
    else
      let (b, id) := b.insertNamed ⟨.html, "form"⟩
      ({ b with form := some id }).done
  | _ => b.foster (.startTag tag)

/-- An end tag inside a table. -/
def endInTable (b : Builder) (tag : Tag) : Effect :=
  match tag.name with
  | "table" => (if b.inTableScope "table" then (b.popNamed "table").resetMode else b).done
  | "template" => b.closeTemplate.done
  | name =>
    if ["body", "caption", "col", "colgroup", "html", "tbody", "td", "tfoot", "th", "thead",
        "tr"].contains name then b.done
    else b.foster (.endTag tag)

/-- Inside a table. -/
def stepInTable (b : Builder) : Token → Effect
  | .char c =>
    if b.currentIs Name.isTablePart then { b with resume := b.mode }.again .inTableText
    else b.foster (.char c)
  | .comment text => (b.insertComment text).done
  | .startTag tag => b.startInTable tag
  | .endTag tag => b.endInTable tag
  | .eof => b.stepInBody .eof
  | .doctype _ => b.done

/-- Put text that was collected inside a table in front of the table, unless it is blank. -/
def placeTableText (b : Builder) : Builder :=
  let text := b.tableText.reverse
  let b := { b with tableText := [] }
  if text.all isSpace then text.foldl insertChar b
  else text.foldl (fun b c => (b.foster (.char c)).1) b

/-- Inside the text of a table. -/
def stepInTableText (b : Builder) : Token → Effect
  | .char c => (if c = '\x00' then b else { b with tableText := c :: b.tableText }).done
  | _ => b.placeTableText.again b.resume

/-- Inside the caption of a table. -/
def stepInCaption (b : Builder) (token : Token) : Effect :=
  let closed := ((b.popImplied Name.isImplied).popNamed "caption").clearToMarker
  let leave := if b.inTableScope "caption" then closed.again .inTable else b.done
  match token with
  | .startTag tag =>
    if ["caption", "col", "colgroup", "tbody", "td", "tfoot", "th", "thead", "tr"].contains
        tag.name then leave
    else b.stepInBody token
  | .endTag tag =>
    match tag.name with
    | "table" => leave
    | "caption" =>
      (if b.inTableScope "caption" then { closed with mode := .inTable } else b).done
    | name =>
      if ["body", "col", "colgroup", "html", "tbody", "td", "tfoot", "th", "thead", "tr"].contains
          name then b.done
      else b.stepInBody token
  | _ => b.stepInBody token

/-- Inside a group of columns. -/
def stepInColumnGroup (b : Builder) (token : Token) : Effect :=
  let otherwise := if b.currentNamed "colgroup" then b.pop.again .inTable else b.done
  match token with
  | .char c => if isSpace c then (b.insertChar c).done else otherwise
  | .comment text => (b.insertComment text).done
  | .startTag tag =>
    match tag.name with
    | "html" => b.done
    | "col" => (b.insertVoid "col").done
    | "template" => b.insertHeadElement tag
    | _ => otherwise
  | .endTag tag =>
    match tag.name with
    | "colgroup" =>
      (if b.currentNamed "colgroup" then { b.pop with mode := .inTable } else b).done
    | "col" => b.done
    | "template" => b.closeTemplate.done
    | _ => otherwise
  | .eof => b.stepInBody .eof
  | .doctype _ => b.done

/-- Inside a group of rows. -/
def stepInTableBody (b : Builder) (token : Token) : Effect :=
  let inner := b.popTo isRowContext
  let leave :=
    if b.inScope Name.boundsTableScope isRowGroup then inner.pop.again .inTable else b.done
  match token with
  | .startTag tag =>
    match tag.name with
    | "tr" => ({ inner.openElement "tr" with mode := .inRow }).done
    | "th" => (inner.openElement "tr").again .inRow
    | "td" => (inner.openElement "tr").again .inRow
    | name =>
      if ["caption", "col", "colgroup", "tbody", "tfoot", "thead"].contains name then leave
      else b.stepInTable token
  | .endTag tag =>
    let name := tag.name
    if ["tbody", "tfoot", "thead"].contains name then
      (if b.inTableScope name then { inner.pop with mode := .inTable } else b).done
    else if name == "table" then leave
    else if ["body", "caption", "col", "colgroup", "html", "td", "th", "tr"].contains name then
      b.done
    else b.stepInTable token
  | _ => b.stepInTable token

/-- Inside a row. -/
def stepInRow (b : Builder) (token : Token) : Effect :=
  let inner := b.popTo isCellContext
  let leave := if b.inTableScope "tr" then inner.pop.again .inTableBody else b.done
  match token with
  | .startTag tag =>
    let name := tag.name
    if name == "td" || name == "th" then
      ({ (inner.openElement name).pushMarker with mode := .inCell }).done
    else if ["caption", "col", "colgroup", "tbody", "tfoot", "thead", "tr"].contains name then leave
    else b.stepInTable token
  | .endTag tag =>
    let name := tag.name
    if name == "tr" then
      (if b.inTableScope "tr" then { inner.pop with mode := .inTableBody } else b).done
    else if name == "table" then leave
    else if ["tbody", "tfoot", "thead"].contains name then
      if b.inTableScope name then leave else b.done
    else if ["body", "caption", "col", "colgroup", "html", "td", "th"].contains name then b.done
    else b.stepInTable token
  | _ => b.stepInTable token

/-- Inside a cell. -/
def stepInCell (b : Builder) (token : Token) : Effect :=
  match token with
  | .startTag tag =>
    if ["caption", "col", "colgroup", "tbody", "td", "tfoot", "th", "thead", "tr"].contains
        tag.name then
      if b.inScope Name.boundsTableScope isCell then b.closeCell.again .inRow else b.done
    else b.stepInBody token
  | .endTag tag =>
    let name := tag.name
    if name == "td" || name == "th" then
      (if b.inTableScope name then
        { ((b.popImplied Name.isImplied).popNamed name).clearToMarker with mode := .inRow }
      else b).done
    else if ["body", "caption", "col", "colgroup", "html"].contains name then b.done
    else if ["table", "tbody", "tfoot", "thead", "tr"].contains name then
      if b.inTableScope name then b.closeCell.again .inRow else b.done
    else b.stepInBody token
  | _ => b.stepInBody token

/-! ## Selections -/

/-- Leave the selection that is open. -/
def leaveSelect (b : Builder) : Builder :=
  (b.popNamed "select").resetMode

/-- Whether a selection is open in its own scope. -/
def inSelectScope (b : Builder) : Bool :=
  b.inScopeNamed Name.boundsSelectScope "select"

/-- A start tag inside a selection. -/
def startInSelect (b : Builder) (tag : Tag) : Effect :=
  let noOption := if b.currentNamed "option" then b.pop else b
  match tag.name with
  | "option" => (noOption.openElement "option").done
  | "optgroup" =>
    let b := if noOption.currentNamed "optgroup" then noOption.pop else noOption
    (b.openElement "optgroup").done
  | "select" => (if b.inSelectScope then b.leaveSelect else b).done
  | "script" => b.insertHeadElement tag
  | "template" => b.insertHeadElement tag
  | name =>
    if ["input", "keygen", "textarea"].contains name then
      if b.inSelectScope then (b.leaveSelect, .again) else b.done
    else b.done

/-- Inside a selection. -/
def stepInSelect (b : Builder) : Token → Effect
  | .char c => (if c = '\x00' then b else b.insertChar c).done
  | .comment text => (b.insertComment text).done
  | .startTag tag => b.startInSelect tag
  | .endTag tag =>
    match tag.name with
    | "optgroup" =>
      let inGroup :=
        match b.opened with
        | e :: f :: _ => e.name.isHtml "option" && f.name.isHtml "optgroup"
        | _ => false
      let b := if inGroup then b.pop else b
      (if b.currentNamed "optgroup" then b.pop else b).done
    | "option" => (if b.currentNamed "option" then b.pop else b).done
    | "select" => (if b.inSelectScope then b.leaveSelect else b).done
    | "template" => b.closeTemplate.done
    | _ => b.done
  | .eof => b.stepInBody .eof
  | .doctype _ => b.done

/-- Parts of a table that end a selection inside it. -/
def endsSelect (name : String) : Bool :=
  ["caption", "table", "tbody", "tfoot", "thead", "tr", "td", "th"].contains name

/-- Inside a selection inside a table. -/
def stepInSelectInTable (b : Builder) (token : Token) : Effect :=
  match token with
  | .startTag tag => if endsSelect tag.name then (b.leaveSelect, .again) else b.stepInSelect token
  | .endTag tag =>
    if endsSelect tag.name then
      if b.inTableScope tag.name then (b.leaveSelect, .again) else b.done
    else b.stepInSelect token
  | _ => b.stepInSelect token

/-! ## Templates -/

/-- Go on in a template as inside another element. -/
def templateAs (b : Builder) (mode : Mode) : Effect :=
  { b with templateModes := mode :: b.templateModes.drop 1 }.again mode

/-- Inside a template. -/
def stepInTemplate (b : Builder) (token : Token) : Effect :=
  match token with
  | .startTag tag =>
    let name := tag.name
    if belongsToHead name then b.insertHeadElement tag
    else if ["caption", "colgroup", "tbody", "tfoot", "thead"].contains name then
      b.templateAs .inTable
    else if name == "col" then b.templateAs .inColumnGroup
    else if name == "tr" then b.templateAs .inTableBody
    else if name == "td" || name == "th" then b.templateAs .inRow
    else b.templateAs .inBody
  | .endTag tag => if tag.name == "template" then b.closeTemplate.done else b.done
  | .eof => b.endInTemplate
  | _ => b.stepInBody token

/-! ## Behind the body, and framesets -/

/-- Behind the body. -/
def stepAfterBody (b : Builder) (token : Token) : Effect :=
  let otherwise := b.again .inBody
  match token with
  | .char c => if isSpace c then b.stepInBody token else otherwise
  | .comment text =>
    match b.opened.getLast? with
    | some root => (b.appendComment root.id text).done
    | none => b.done
  | .startTag tag => if tag.name == "html" then b.done else otherwise
  | .endTag tag =>
    if tag.name == "html" then ({ b with mode := .afterAfterBody }).done else otherwise
  | .eof => b.done
  | .doctype _ => b.done

/-- Behind the end of the page. -/
def stepAfterAfterBody (b : Builder) (token : Token) : Effect :=
  let otherwise := b.again .inBody
  match token with
  | .char c => if isSpace c then b.stepInBody token else otherwise
  | .comment text => (b.appendComment 0 text).done
  | .startTag tag => if tag.name == "html" then b.done else otherwise
  | .endTag _ => otherwise
  | .eof => b.done
  | .doctype _ => b.done

/-- Inside a frameset. -/
def stepInFrameset (b : Builder) : Token → Effect
  | .char c => (if isSpace c then b.insertChar c else b).done
  | .comment text => (b.insertComment text).done
  | .startTag tag =>
    match tag.name with
    | "frameset" => (b.openElement "frameset").done
    | "frame" => (b.insertVoid "frame").done
    | "noframes" => b.insertHeadElement tag
    | _ => b.done
  | .endTag tag =>
    if tag.name == "frameset" && b.opened.length ≠ 1 then
      let b := b.pop
      (if b.currentNamed "frameset" then b else { b with mode := .afterFrameset }).done
    else b.done
  | _ => b.done

/-- Behind a frameset. -/
def stepAfterFrameset (b : Builder) : Token → Effect
  | .char c => (if isSpace c then b.insertChar c else b).done
  | .comment text => (b.insertComment text).done
  | .startTag tag => if tag.name == "noframes" then b.insertHeadElement tag else b.done
  | .endTag tag =>
    (if tag.name == "html" then { b with mode := .afterAfterFrameset } else b).done
  | _ => b.done

/-- Behind a page with a frameset. -/
def stepAfterAfterFrameset (b : Builder) (token : Token) : Effect :=
  match token with
  | .char c => if isSpace c then b.stepInBody token else b.done
  | .comment text => (b.appendComment 0 text).done
  | .startTag tag => if tag.name == "noframes" then b.insertHeadElement tag else b.done
  | _ => b.done

end Concordance.Html.Builder
