import Concordance.Html.Lexer
import Concordance.Html.TableRules
import Concordance.Html.VisibleText

/-!
# Reading a page

`parse` runs the lexer and tree construction hand in hand : each token is taken into the tree
under the rules of the insertion mode, or those for foreign elements, and the tree tells the
lexer how to read on. Scripting is taken to be enabled, so that fallback contents are text.
-/

namespace Concordance.Html

namespace Builder

/-- Text of an element whose contents are no markup. -/
def stepText (b : Builder) : Token → Effect
  | .char c => (b.insertChar c).done
  | .endTag _ => ({ b.pop with mode := b.resume }).done
  | .eof => b.pop.again b.resume
  | _ => b.done

/-- Take in a token under the rules of the insertion mode. -/
def step (b : Builder) (token : Token) : Effect :=
  match b.mode with
  | .initial => b.stepInitial token
  | .beforeHtml => b.stepBeforeHtml token
  | .beforeHead => b.stepBeforeHead token
  | .inHead => b.stepInHead token
  | .afterHead => b.stepAfterHead token
  | .inBody => b.stepInBody token
  | .text => b.stepText token
  | .inTable => b.stepInTable token
  | .inTableText => b.stepInTableText token
  | .inCaption => b.stepInCaption token
  | .inColumnGroup => b.stepInColumnGroup token
  | .inTableBody => b.stepInTableBody token
  | .inRow => b.stepInRow token
  | .inCell => b.stepInCell token
  | .inSelect => b.stepInSelect token
  | .inSelectInTable => b.stepInSelectInTable token
  | .inTemplate => b.stepInTemplate token
  | .afterBody => b.stepAfterBody token
  | .inFrameset => b.stepInFrameset token
  | .afterFrameset => b.stepAfterFrameset token
  | .afterAfterBody => b.stepAfterAfterBody token
  | .afterAfterFrameset => b.stepAfterAfterFrameset token

/-! ## Foreign elements -/

/-- Whether the rules for foreign elements apply to a token. -/
def isForeign (b : Builder) (token : Token) : Bool :=
  match b.opened, token with
  | _, .eof => false
  | [], _ => false
  | e :: _, token =>
    if e.name.ns == .html then false
    else
      match token with
      | .char _ => !(e.name.isMathText || e.name.isSvgHtml)
      | .startTag tag =>
        !(e.name.isMathText && tag.name ≠ "mglyph" && tag.name ≠ "malignmark" ||
          e.name.isSvgHtml ||
          e.name == ⟨.mathml, "annotation-xml"⟩ && tag.name == "svg")
      | _ => true

/-- HTML elements that cannot stand inside foreign ones. -/
def breaksOut (tag : Tag) : Bool :=
  ["b", "big", "blockquote", "body", "br", "center", "code", "dd", "div", "dl", "dt", "em",
    "embed", "h1", "h2", "h3", "h4", "h5", "h6", "head", "hr", "i", "img", "li", "listing", "menu",
    "meta", "nobr", "ol", "p", "pre", "ruby", "s", "small", "span", "strong", "strike", "sub",
    "sup", "table", "tt", "u", "ul", "var"].contains tag.name ||
    tag.name == "font" && tag.attributes.any fun a => ["color", "face", "size"].contains a.1

/-- Close foreign elements up to one that holds HTML. -/
def leaveForeign (b : Builder) : Builder :=
  b.popTo fun name => name.ns == .html || name.isMathText || name.isSvgHtml

/-- An end tag inside foreign elements : it closes the innermost foreign element of its name,
where an HTML element in between hands it to the insertion mode. `inner` tells that an element
was passed; the last element of the stack is never closed. -/
def endInForeign (b : Builder) (tag : Tag) (inner : Bool) : List OpenElement → Effect
  | [] => b.done
  | [_] => b.done
  | e :: rest =>
    if inner && e.name.ns == .html then b.step (.endTag tag)
    else if e.name.tag.map Char.toLower == tag.name then ({ b with opened := rest }).done
    else b.endInForeign tag true rest

/-- Take in a token inside a foreign element. -/
def stepForeign (b : Builder) (token : Token) : Effect :=
  match token with
  | .char c =>
    if c = '\x00' then (b.insertChar '\uFFFD').done
    else ((if isSpace c then b else b.forbidFrameset).insertChar c).done
  | .comment text => (b.insertComment text).done
  | .startTag tag =>
    if breaksOut tag then b.leaveForeign.step token
    else
      match b.opened with
      | e :: _ => (b.openForeign e.name.ns tag).done
      | [] => b.done
  | .endTag tag =>
    if tag.name == "br" || tag.name == "p" then b.leaveForeign.step token
    else b.endInForeign tag false b.opened
  | _ => b.done

/-! ## All tokens -/

/-- Take in a token, as often as modes hand it on, but at most `fuel` times; the last outcome
tells how to read on. -/
def run (token : Token) : (fuel : Nat) → Builder → Builder × Option TextMode
  | 0, b => (b, none)
  | fuel + 1, b =>
    match if b.isForeign token then b.stepForeign token else b.step token with
    | (b, .done) => (b, none)
    | (b, .read mode) => (b, some mode)
    | (b, .again) => run token fuel b

/-! ## Document types -/

/-- Beginnings of public identifiers of ancient document types. -/
def ancientPublic : List String := [
  "-//advasoft ltd//dtd html 3.0 aswedit + extensions//",
  "-//as//dtd html 3.0 aswedit + extensions//", "-//ietf//dtd html 2.0 level 1//",
  "-//ietf//dtd html 2.0 level 2//", "-//ietf//dtd html 2.0 strict level 1//",
  "-//ietf//dtd html 2.0 strict level 2//", "-//ietf//dtd html 2.0 strict//",
  "-//ietf//dtd html 2.0//", "-//ietf//dtd html 2.1e//", "-//ietf//dtd html 3.0//",
  "-//ietf//dtd html 3.2 final//", "-//ietf//dtd html 3.2//", "-//ietf//dtd html 3//",
  "-//ietf//dtd html level 0//", "-//ietf//dtd html level 1//", "-//ietf//dtd html level 2//",
  "-//ietf//dtd html level 3//", "-//ietf//dtd html strict level 0//",
  "-//ietf//dtd html strict level 1//", "-//ietf//dtd html strict level 2//",
  "-//ietf//dtd html strict level 3//", "-//ietf//dtd html strict//", "-//ietf//dtd html//",
  "-//metrius//dtd metrius presentational//",
  "-//microsoft//dtd internet explorer 2.0 html strict//",
  "-//microsoft//dtd internet explorer 2.0 html//",
  "-//microsoft//dtd internet explorer 2.0 tables//",
  "-//microsoft//dtd internet explorer 3.0 html strict//",
  "-//microsoft//dtd internet explorer 3.0 html//",
  "-//microsoft//dtd internet explorer 3.0 tables//", "-//netscape comm. corp.//dtd html//",
  "-//netscape comm. corp.//dtd strict html//", "-//o'reilly and associates//dtd html 2.0//",
  "-//o'reilly and associates//dtd html extended 1.0//",
  "-//o'reilly and associates//dtd html extended relaxed 1.0//",
  "-//softquad software//dtd hotmetal pro 6.0::19990601::extensions to html 4.0//",
  "-//softquad//dtd hotmetal pro 4.0::19971010::extensions to html 4.0//",
  "-//spyglass//dtd html 2.0 extended//", "-//sq//dtd html 2.0 hotmetal + extensions//",
  "-//sun microsystems corp.//dtd hotjava html//",
  "-//sun microsystems corp.//dtd hotjava strict html//", "-//w3c//dtd html 3 1995-03-24//",
  "-//w3c//dtd html 3.2 draft//", "-//w3c//dtd html 3.2 final//", "-//w3c//dtd html 3.2//",
  "-//w3c//dtd html 3.2s draft//", "-//w3c//dtd html 4.0 frameset//",
  "-//w3c//dtd html 4.0 transitional//", "-//w3c//dtd html experimental 19960712//",
  "-//w3c//dtd html experimental 970421//", "-//w3c//dtd w3 html//", "-//w3o//dtd w3 html 3.0//",
  "-//webtechs//dtd mozilla html 2.0//", "-//webtechs//dtd mozilla html//"]

/-- Public identifiers of ancient document types. -/
def ancientPublicExact : List String :=
  ["-//w3o//dtd w3 html strict 3.0//en//", "-/w3c/dtd html 4.0 transitional/en", "html"]

/-- The system identifier of an ancient document type. -/
def ancientSystem : String :=
  "http:" ++ "//www.ibm.com/data/dtd/v11/ibmxhtml1-transitional.dtd"

/-- Beginnings of public identifiers that are ancient without a system identifier. -/
def ancientWithoutSystem : List String :=
  ["-//w3c//dtd html 4.01 frameset//", "-//w3c//dtd html 4.01 transitional//"]

/-- Whether a page of this type is read in the ancient way. -/
def isAncient (d : Doctype) : Bool :=
  let lower := fun s : Option String => s.map fun t => t.map Char.toLower
  let publicId := lower d.publicId
  let systemId := lower d.systemId
  let begins := fun beginnings : List String =>
    publicId.any fun p => beginnings.any fun s => p.startsWith s
  d.broken || d.name ≠ some "html" || publicId.any ancientPublicExact.contains ||
    systemId == some ancientSystem || begins ancientPublic ||
    systemId.isNone && begins ancientWithoutSystem

/-- Take in a token of the lexer. -/
def feed (b : Builder) (token : Token) : Builder × Option TextMode :=
  let dropped := b.dropLineFeed && token == .char '\n'
  let b := { b with dropLineFeed := false }
  if dropped then (b, none)
  else
    match token with
    | .doctype d =>
      if b.mode == .initial then ({ b with ancient := isAncient d, mode := .beforeHtml }, none)
      else (b, none)
    | token => run token (64 + 8 * b.opened.length) b

end Builder

/-! ## The whole page -/

/-- The state of reading : the tree, how text is read, and the last start tag. -/
structure Reading where
  /-- The tree. -/
  builder : Builder
  /-- How text is read. -/
  mode : TextMode
  /-- The name of the last start tag. -/
  last : String

/-- Take in one token. -/
def Reading.feed (r : Reading) (token : Token) : Reading :=
  let last :=
    match token with
    | .startTag tag => tag.name
    | _ => r.last
  let (builder, mode) := r.builder.feed token
  ⟨builder, mode.getD r.mode, last⟩

/-- Take in a page of at most `fuel` characters. -/
def readPage : (fuel : Nat) → Reading → List Char → Reading
  | 0, r, _ => r
  | _ + 1, r, [] => r
  | fuel + 1, r, c :: rest =>
    let foreign := r.builder.opened.head?.any fun e => e.name.ns ≠ .html
    let lexed := nextTokens r.mode r.last foreign c rest
    readPage fuel (lexed.tokens.foldl Reading.feed { r with mode := lexed.mode }) lexed.rest

/-- The tree of a page. A byte order mark in front of it is dropped. -/
def parse (page : List Char) : Arena :=
  let page :=
    match page with
    | '\uFEFF' :: rest => rest
    | page => page
  let page := normalizeBreaks page
  let r := readPage page.length ⟨.start, .data, ""⟩ page
  (r.builder.feed .eof).1.arena

/-- The visible text of a page. -/
def visibleText (page : String) : String :=
  String.ofList (parse page.toList).rootForest.visibleChars

end Concordance.Html
