/-!
# Names of elements

An element has a name in one of three namespaces. The sets of names below steer the
construction of the tree : which elements bound a scope, which are closed by implication, and
which are special.
-/

namespace Concordance.Html

/-- The vocabulary an element belongs to. -/
inductive Namespace
  /-- HTML. -/
  | html
  /-- Vector graphics. -/
  | svg
  /-- Mathematical formulas. -/
  | mathml
  deriving Repr, DecidableEq

/-- The name of an element; letters of ASCII are in lower case. -/
structure Name where
  /-- The vocabulary. -/
  ns : Namespace
  /-- The name within the vocabulary. -/
  tag : String
  deriving Repr, DecidableEq

namespace Name

/-- Whether the name is an HTML name of the list. -/
def isHtmlIn (name : Name) (names : List String) : Bool :=
  name.ns == .html && names.contains name.tag

/-- Whether the name is the given HTML name. -/
def isHtml (name : Name) (tag : String) : Bool :=
  name.ns == .html && name.tag == tag

/-- Elements of formulas that hold text. -/
def isMathText (name : Name) : Bool :=
  name.ns == .mathml && ["mi", "mo", "mn", "ms", "mtext"].contains name.tag

/-- Elements of graphics that hold HTML. -/
def isSvgHtml (name : Name) : Bool :=
  name.ns == .svg && ["foreignobject", "desc", "title"].contains name.tag

/-- The elements that bound a scope. -/
def boundsScope (name : Name) : Bool :=
  name.isHtmlIn ["applet", "caption", "html", "table", "td", "th", "marquee", "object",
    "template"] || name.isMathText || name.isSvgHtml

/-- The elements that bound the scope of a list item. -/
def boundsListScope (name : Name) : Bool :=
  name.isHtmlIn ["ol", "ul"] || name.boundsScope

/-- The elements that bound the scope of a paragraph. -/
def boundsButtonScope (name : Name) : Bool :=
  name.isHtml "button" || name.boundsScope

/-- The elements that bound the scope of a table. -/
def boundsTableScope (name : Name) : Bool :=
  name.isHtmlIn ["html", "table", "template"]

/-- The elements that bound the scope of a selection, all but its options. -/
def boundsSelectScope (name : Name) : Bool :=
  !name.isHtmlIn ["optgroup", "option"]

/-- The elements whose end tags are implied. -/
def isImplied (name : Name) : Bool :=
  name.isHtmlIn ["dd", "dt", "li", "option", "optgroup", "p", "rb", "rp", "rt", "rtc"]

/-- The elements whose end tags are implied at the end of a template. -/
def isImpliedInTemplate (name : Name) : Bool :=
  name.isImplied || name.isHtmlIn ["caption", "colgroup", "tbody", "td", "tfoot", "th", "thead",
    "tr"]

/-- Headings. -/
def isHeading (name : Name) : Bool :=
  name.isHtmlIn ["h1", "h2", "h3", "h4", "h5", "h6"]

/-- The elements that end tags of other elements do not close. -/
def isSpecial (name : Name) : Bool :=
  name.isHtmlIn ["address", "applet", "area", "article", "aside", "base", "basefont", "bgsound",
    "blockquote", "body", "br", "button", "caption", "center", "col", "colgroup", "dd", "details",
    "dir", "div", "dl", "dt", "embed", "fieldset", "figcaption", "figure", "footer", "form",
    "frame", "frameset", "h1", "h2", "h3", "h4", "h5", "h6", "head", "header", "hgroup", "hr",
    "html", "iframe", "img", "input", "isindex", "li", "link", "listing", "main", "marquee",
    "menu", "meta", "nav", "noembed", "noframes", "noscript", "object", "ol", "p", "param",
    "plaintext", "pre", "script", "section", "select", "source", "style", "summary", "table",
    "tbody", "td", "template", "textarea", "tfoot", "th", "thead", "title", "tr", "track", "ul",
    "wbr", "xmp"]

/-- The elements in place of which text is put in front of the table. -/
def isTablePart (name : Name) : Bool :=
  name.isHtmlIn ["table", "tbody", "tfoot", "thead", "tr"]

end Name

end Concordance.Html
