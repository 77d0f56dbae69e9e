/-!
# Tokens of a page

The lexer cuts a page into tags, comments, document types and single characters. The
character with code point zero is kept apart by the tree builder, which drops it almost
everywhere.
-/

namespace Concordance.Html

/-- A start or end tag; the name is in lower case. -/
structure Tag where
  /-- The name of the element. -/
  name : String
  /-- Attributes with their values, without repetitions. -/
  attributes : List (String × String)
  /-- Whether the tag ends with a slash. -/
  selfClosing : Bool
  deriving Repr, DecidableEq

/-- A tag without attributes. -/
def Tag.plain (name : String) : Tag := ⟨name, [], false⟩

/-- The value of an attribute. -/
def Tag.attribute? (tag : Tag) (name : String) : Option String :=
  tag.attributes.lookup name

/-- What the head of a page says about its type. -/
structure Doctype where
  /-- The name, in lower case. -/
  name : Option String
  /-- The public identifier. -/
  publicId : Option String
  /-- The system identifier. -/
  systemId : Option String
  /-- Whether the declaration is broken. -/
  broken : Bool
  deriving Repr, DecidableEq

/-- The pieces of a page. -/
inductive Token
  /-- A document type. -/
  | doctype (d : Doctype)
  /-- A start tag. -/
  | startTag (tag : Tag)
  /-- An end tag. -/
  | endTag (tag : Tag)
  /-- A comment. -/
  | comment (text : String)
  /-- A character of text. -/
  | char (c : Char)
  /-- The end of the page. -/
  | eof
  deriving Repr, DecidableEq

/-- How the lexer reads what follows. -/
inductive TextMode
  /-- Text with references and tags. -/
  | data
  /-- Text with references up to the end tag of its element. -/
  | rcdata
  /-- Text without references up to the end tag of its element. -/
  | rawtext
  /-- A script outside of comments. -/
  | script
  /-- A script inside a comment, behind up to two hyphens. -/
  | escaped (hyphens : Nat)
  /-- A script inside a script element inside a comment, behind up to two hyphens. -/
  | nested (hyphens : Nat)
  /-- Text up to the end of the page. -/
  | plaintext
  deriving Repr, DecidableEq

/-- White space of the markup. -/
def isSpace (c : Char) : Bool :=
  c == ' ' || c == '\n' || c == '\t' || c == '\x0c' || c == '\r'

end Concordance.Html
