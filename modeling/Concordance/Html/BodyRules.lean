import Concordance.Html.HeadRules

/-!
# Rules for the body of a page

Start and end tags of the body, grouped by what they do with paragraphs, formatting and
scopes. The other modes fall back on these rules for all that they have no rule for.
-/

namespace Concordance.Html.Builder

/-! ## Groups of elements -/

/-- Blocks : they close a paragraph. -/
def isBlock (name : String) : Bool :=
  ["address", "article", "aside", "blockquote", "center", "details", "dialog", "dir", "div", "dl",
    "fieldset", "figcaption", "figure", "footer", "header", "hgroup", "main", "menu", "nav", "ol",
    "p", "section", "summary", "ul"].contains name

/-- Elements whose end tags close what is open inside them. -/
def closesScope (name : String) : Bool :=
  ["address", "article", "aside", "blockquote", "button", "center", "details", "dialog", "dir",
    "div", "dl", "fieldset", "figcaption", "figure", "footer", "header", "hgroup", "listing",
    "main", "menu", "nav", "ol", "pre", "section", "summary", "ul"].contains name

/-- Formatting elements apart from links. -/
def isFormatting (name : String) : Bool :=
  ["b", "big", "code", "em", "font", "i", "s", "small", "strike", "strong", "tt", "u"].contains name

/-- Headings. -/
def isHeadingName (name : String) : Bool :=
  ["h1", "h2", "h3", "h4", "h5", "h6"].contains name

/-- Elements that stay empty and stand in running text. -/
def isVoidInText (name : String) : Bool :=
  ["area", "br", "embed", "img", "keygen", "wbr", "input"].contains name

/-- Parts of a table, which are dropped outside of it. -/
def isStrayPart (name : String) : Bool :=
  ["caption", "col", "colgroup", "frame", "head", "tbody", "td", "tfoot", "th", "thead",
    "tr"].contains name

/-- Whether an input element is not shown. -/
def isHiddenInput (tag : Tag) : Bool :=
  (tag.attribute? "type").any fun t => t.map Char.toLower == "hidden"

/-! ## Effects -/

/-- A frameset may no longer replace the body. -/
def forbidFrameset (b : Builder) : Builder :=
  { b with framesetOk := false }

/-- Close an element in scope together with what is open inside it. -/
def closeScoped (b : Builder) (bounds : Name → Bool) (name : String) : Builder :=
  if b.inScopeNamed bounds name then (b.popImplied Name.isImplied).popNamed name else b

/-- Open a block. -/
def openBlock (b : Builder) (name : String) : Builder :=
  b.closeParagraphInScope.openElement name

/-- The name of the item that a new item with the given name closes. -/
def itemToClose? (name : String) : List OpenElement → Option String
  | [] => none
  | e :: rest =>
    let closes :=
      if name == "li" then e.name.isHtml "li" else e.name.isHtml "dd" || e.name.isHtml "dt"
    if closes then some e.name.tag
    else if e.name.isSpecial && !e.name.isHtmlIn ["address", "div", "p"] then none
    else itemToClose? name rest

/-- Open an item of a list. -/
def openItem (b : Builder) (name : String) : Builder :=
  let b := b.forbidFrameset
  let b :=
    match itemToClose? name b.opened with
    | some item => (b.popImpliedExcept item).popNamed item
    | none => b
  b.openBlock name

/-- The body of the page, if it has one. -/
def body? (b : Builder) : Option OpenElement :=
  match b.opened.reverse with
  | _ :: e :: _ => if e.name.isHtml "body" then some e else none
  | _ => none

/-- Replace the body by a frameset. -/
def openFrameset (b : Builder) : Builder :=
  match b.body? with
  | none => b
  | some body =>
    if !b.framesetOk then b
    else
      let b := { b with
        arena := b.arena.detach body.id
        opened := b.opened.drop (b.opened.length - 1) }
      { b.openElement "frameset" with mode := .inFrameset }

/-- Open a form, unless one is open outside of templates. -/
def openForm (b : Builder) : Builder :=
  let inTemplate := b.hasOpen "template"
  if b.form.isSome && !inTemplate then b
  else
    let (b, id) := b.closeParagraphInScope.openNamed ⟨.html, "form"⟩
    if inTemplate then b else { b with form := some id }

/-- The end tag of a form. -/
def closeForm (b : Builder) : Builder :=
  if b.hasOpen "template" then b.closeScoped Name.boundsScope "form"
  else
    match b.form with
    | none => b
    | some id =>
      let b := { b with form := none }
      if inScopeBy Name.boundsScope (fun e => e.id == id) b.opened then
        (b.popImplied Name.isImplied).removeOpen id
      else b

/-- Open an element of another vocabulary. -/
def openForeign (b : Builder) (ns : Namespace) (tag : Tag) : Builder :=
  let name : Name := ⟨ns, tag.name⟩
  if tag.selfClosing then (b.insertNamed name).1 else (b.openNamed name).1

/-- Put an empty element into running text. -/
def insertInText (b : Builder) (name : String) : Builder :=
  b.reconstruct.insertVoid name

/-! ## Tags -/

/-- A start tag in the body that no group of elements covers. -/
def startOther (b : Builder) (tag : Tag) : Effect :=
  match tag.name with
  | "html" => b.done
  | "body" =>
    (if b.body?.isSome && b.opened.length ≠ 1 && !b.hasOpen "template" then b.forbidFrameset
      else b).done
  | "frameset" => b.openFrameset.done
  | "pre" => ({ (b.openBlock "pre").forbidFrameset with dropLineFeed := true }).done
  | "listing" => ({ (b.openBlock "listing").forbidFrameset with dropLineFeed := true }).done
  | "form" => b.openForm.done
  | "li" => (b.openItem "li").done
  | "dd" => (b.openItem "dd").done
  | "dt" => (b.openItem "dt").done
  | "plaintext" => (b.openBlock "plaintext", .read .plaintext)
  | "button" =>
    (((b.closeScoped Name.boundsScope "button").reconstruct).openElement
      "button").forbidFrameset.done
  | "a" => (b.closeMisnestedLink.reconstruct.openFormatting tag).done
  | "nobr" =>
    let b := b.reconstruct
    let b := if b.inScopeNamed Name.boundsScope "nobr" then (b.adopt "nobr").reconstruct else b
    (b.openFormatting tag).done
  | "applet" => (b.reconstruct.openElement "applet").pushMarker.forbidFrameset.done
  | "marquee" => (b.reconstruct.openElement "marquee").pushMarker.forbidFrameset.done
  | "object" => (b.reconstruct.openElement "object").pushMarker.forbidFrameset.done
  | "table" =>
    let b := if b.ancient then b else b.closeParagraphInScope
    ({ (b.openElement "table").forbidFrameset with mode := .inTable }).done
  | "param" => (b.insertVoid "param").done
  | "source" => (b.insertVoid "source").done
  | "track" => (b.insertVoid "track").done
  | "hr" => (b.closeParagraphInScope.insertVoid "hr").forbidFrameset.done
  | "image" => (b.insertInText "img").forbidFrameset.done
  | "textarea" => ({ b.forbidFrameset with dropLineFeed := true }).openText "textarea" .rcdata
  | "xmp" => b.closeParagraphInScope.reconstruct.forbidFrameset.openText "xmp" .rawtext
  | "iframe" => b.forbidFrameset.openText "iframe" .rawtext
  | "noembed" => b.openText "noembed" .rawtext
  | "noscript" => b.openText "noscript" .rawtext
  | "select" =>
    let inTable := [Mode.inTable, .inCaption, .inTableBody, .inRow, .inCell].contains b.mode
    let b := (b.reconstruct.openElement "select").forbidFrameset
    ({ b with mode := if inTable then .inSelectInTable else .inSelect }).done
  | "optgroup" =>
    ((if b.currentNamed "option" then b.pop else b).reconstruct.openElement "optgroup").done
  | "option" =>
    ((if b.currentNamed "option" then b.pop else b).reconstruct.openElement "option").done
  | "rb" =>
    ((if b.inScopeNamed Name.boundsScope "ruby" then b.popImplied Name.isImplied
      else b).openElement "rb").done
  | "rtc" =>
    ((if b.inScopeNamed Name.boundsScope "ruby" then b.popImplied Name.isImplied
      else b).openElement "rtc").done
  | "rp" =>
    ((if b.inScopeNamed Name.boundsScope "ruby" then b.popImpliedExcept "rtc"
      else b).openElement "rp").done
  | "rt" =>
    ((if b.inScopeNamed Name.boundsScope "ruby" then b.popImpliedExcept "rtc"
      else b).openElement "rt").done
  | "math" => (b.reconstruct.openForeign .mathml tag).done
  | "svg" => (b.reconstruct.openForeign .svg tag).done
  | name => (b.reconstruct.openElement name).done

/-- A start tag in the body. -/
def startInBody (b : Builder) (tag : Tag) : Effect :=
  let name := tag.name
  if belongsToHead name then b.insertHeadElement tag
  else if isBlock name then (b.openBlock name).done
  else if isHeadingName name then
    let b := b.closeParagraphInScope
    ((if b.currentIs Name.isHeading then b.pop else b).openElement name).done
  else if isFormatting name then (b.reconstruct.openFormatting tag).done
  else if isVoidInText name then
    let c := b.insertInText name
    (if name == "input" && isHiddenInput tag then c else c.forbidFrameset).done
  else if isStrayPart name then b.done
  else b.startOther tag

/-- An end tag in the body. -/
def endInBody (b : Builder) (tag : Tag) : Effect :=
  let name := tag.name
  if closesScope name then (b.closeScoped Name.boundsScope name).done
  else if isHeadingName name then
    (if b.inScope Name.boundsScope Name.isHeading then
      (b.popImplied Name.isImplied).popThrough Name.isHeading else b).done
  else if isFormatting name || name == "a" || name == "nobr" then (b.adopt name).done
  else
    match name with
    | "template" => b.closeTemplate.done
    | "body" =>
      (if b.inScopeNamed Name.boundsScope "body" then { b with mode := .afterBody } else b).done
    | "html" => if b.inScopeNamed Name.boundsScope "body" then b.again .afterBody else b.done
    | "form" => b.closeForm.done
    | "p" =>
      let b := if b.inScopeNamed Name.boundsButtonScope "p" then b else b.openElement "p"
      b.closeParagraph.done
    | "li" =>
      (if b.inScopeNamed Name.boundsListScope "li" then (b.popImpliedExcept "li").popNamed "li"
        else b).done
    | "dd" =>
      (if b.inScopeNamed Name.boundsScope "dd" then (b.popImpliedExcept "dd").popNamed "dd"
        else b).done
    | "dt" =>
      (if b.inScopeNamed Name.boundsScope "dt" then (b.popImpliedExcept "dt").popNamed "dt"
        else b).done
    | "applet" => (closeMarked b "applet").done
    | "marquee" => (closeMarked b "marquee").done
    | "object" => (closeMarked b "object").done
    | "br" => (b.insertInText "br").forbidFrameset.done
    | name => (b.closeGeneric name).done
where
  /-- Close an element that set a marker. -/
  closeMarked (b : Builder) (name : String) : Builder :=
    if b.inScopeNamed Name.boundsScope name then
      ((b.popImplied Name.isImplied).popNamed name).clearToMarker
    else b

/-- The end of the page while templates are open. -/
def endInTemplate (b : Builder) : Effect :=
  if b.hasOpen "template" then (b.leaveTemplate, .again) else b.done

/-- Inside the body. -/
def stepInBody (b : Builder) : Token → Effect
  | .char c =>
    if c = '\x00' then b.done
    else
      let b := b.reconstruct
      ((if isSpace c then b else b.forbidFrameset).insertChar c).done
  | .comment text => (b.insertComment text).done
  | .startTag tag => b.startInBody tag
  | .endTag tag => b.endInBody tag
  | .eof => if b.templateModes.isEmpty then b.done else b.endInTemplate
  | .doctype _ => b.done

end Concordance.Html.Builder
