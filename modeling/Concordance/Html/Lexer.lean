import Concordance.Html.Reference
import Concordance.Html.Token

/-!
# The lexer of pages

`nextTokens` reads what stands at the front of a page. The tree builder tells it in which mode
text is read, which start tag came last, and whether the current element is foreign, where
sections of character data are known. Line breaks are line feeds by then (`normalizeBreaks`).
-/

namespace Concordance.Html

open Text

/-! ## Line breaks -/

/-- Replace a carriage return, and one with a line feed behind it, by a line feed. -/
def normalizeBreaks (s : List Char) : List Char :=
  s.foldr (fun c acc =>
    if c = '\r' then
      match acc with
      | '\n' :: _ => acc
      | _ => '\n' :: acc
    else c :: acc) []

/-- The replacement character in place of the character zero. -/
def replaceNull (c : Char) : Char :=
  if c = '\x00' then '\uFFFD' else c

/-! ## Tags -/

/-- Whether `c` ends the name of a tag. -/
def endsTagName (c : Char) : Bool :=
  isSpace c || c == '/' || c == '>'

/-- The name that characters of a tag spell. -/
def tagName (s : List Char) : String :=
  String.ofList (s.map fun c => (replaceNull c).toLower)

/-- The value of an attribute at the front of `s`, which follows an equals sign. There is none
at the end of the page. -/
def attributeValue? (s : List Char) : Option (String × List Char) :=
  let decode := fun raw : List Char =>
    String.ofList (decodeValue raw.length raw |>.map replaceNull)
  let quoted := fun (q : Char) (rest : List Char) =>
    let raw := rest.takeWhile (· ≠ q)
    match rest.drop raw.length with
    | [] => none
    | _ :: rest => some (decode raw, rest)
  match s.dropWhile isSpace with
  | [] => none
  | c :: rest =>
    if c = '"' || c = '\'' then quoted c rest
    else
      let raw := (c :: rest).takeWhile fun d => !(isSpace d || d == '>')
      some (decode raw, (c :: rest).drop raw.length)

/-- An attribute at the front of `s`. Its name may begin with an equals sign. -/
def attribute? (s : List Char) : Option ((String × String) × List Char) :=
  match s with
  | [] => none
  | c :: rest =>
    let name := c :: rest.takeWhile fun d => !(endsTagName d || d == '=')
    let rest := rest.drop (name.length - 1)
    match rest.dropWhile isSpace with
    | '=' :: behind =>
      (attributeValue? behind).map fun (value, rest) => ((tagName name, value), rest)
    | _ => some ((tagName name, ""), rest)

/-- The attributes and the end of a tag. A tag that the page ends in is dropped; `fuel` bounds
the number of its characters. -/
def attributes? : (fuel : Nat) → List (String × String) → List Char →
    Option (List (String × String) × Bool × List Char)
  | 0, _, _ => none
  | fuel + 1, found, s =>
    match s.dropWhile isSpace with
    | [] => none
    | '>' :: rest => some (found, false, rest)
    | '/' :: '>' :: rest => some (found, true, rest)
    | '/' :: rest => attributes? fuel found rest
    | s =>
      match attribute? s with
      | none => none
      | some (entry, rest) =>
        let found := if (found.lookup entry.1).isSome then found else found ++ [entry]
        attributes? fuel found rest

/-- A tag at the front of `s`, which follows the opening bracket or slash, and what is left;
nothing is left of a tag that the page ends in. -/
def readTag (s : List Char) : Option Tag × List Char :=
  let name := s.takeWhile fun c => !endsTagName c
  let rest := s.drop name.length
  match attributes? (rest.length + 1) [] rest with
  | some (attributes, selfClosing, rest) => (some ⟨tagName name, attributes, selfClosing⟩, rest)
  | none => (none, [])

/-! ## Comments and document types -/

/-- A comment whose end is not yet found, and what is left behind it. -/
def commentBody : List Char → List Char × List Char
  | [] => ([], [])
  | '-' :: '-' :: '>' :: rest => ([], rest)
  | '-' :: '-' :: '!' :: '>' :: rest => ([], rest)
  | c :: rest =>
    let r := commentBody rest
    (replaceNull c :: r.1, r.2)

/-- A comment, behind its opening. -/
def readComment (s : List Char) : List Char × List Char :=
  match s with
  | '>' :: rest => ([], rest)
  | '-' :: '>' :: rest => ([], rest)
  | s => commentBody s

/-- A broken comment, which reaches up to the next closing bracket. -/
def readBogusComment (s : List Char) : List Char × List Char :=
  let body := s.takeWhile (· ≠ '>')
  (body.map replaceNull, s.drop (body.length + 1))

/-- Whether `s` begins with `word`, which is in lower case, in any ASCII case. -/
def startsWithWord (word : String) (s : List Char) : Bool :=
  word.toList.isPrefixOf ((s.take word.length).map Char.toLower)

/-- A quoted identifier at the front of `s`, and what is left; `none` if its quote is missing. -/
def readQuoted? (s : List Char) : Option (Option (String × List Char)) :=
  match s with
  | q :: rest =>
    if q = '"' || q = '\'' then
      let raw := rest.takeWhile (· ≠ q)
      match rest.drop raw.length with
      | [] => some none
      | _ :: rest => some (some (String.ofList (raw.map replaceNull), rest))
    else none
  | [] => none

/-- The system identifier and whether the declaration is broken, where `required` tells that
it may not be missing and `closed` that the declaration is complete. -/
def systemPart (required closed : Bool) (s : List Char) : Option String × Bool :=
  match s.dropWhile isSpace with
  | [] => (none, required || !closed)
  | s =>
    match readQuoted? s with
    | none => (none, true)
    | some none => (none, true)
    | some (some (id, rest)) =>
      (some id, (rest.dropWhile isSpace).isEmpty && !closed)

/-- The document type that a declaration gives, from what stands between its keyword and the
closing bracket. -/
def parseDoctype (closed : Bool) (s : List Char) : Doctype :=
  match s.dropWhile isSpace with
  | [] => ⟨none, none, none, true⟩
  | s =>
    let name := s.takeWhile (!isSpace ·)
    let after := (s.drop name.length).dropWhile isSpace
    let named := some (tagName name)
    if after.isEmpty then ⟨named, none, none, !closed⟩
    else if startsWithWord "public" after then
      match readQuoted? ((after.drop 6).dropWhile isSpace) with
      | some (some (id, rest)) =>
        let r := systemPart false closed rest
        ⟨named, some id, r.1, r.2⟩
      | _ => ⟨named, none, none, true⟩
    else if startsWithWord "system" after then
      let r := systemPart true closed (after.drop 6)
      ⟨named, none, r.1, r.2⟩
    else ⟨named, none, none, true⟩

/-- A document type, behind its keyword. -/
def readDoctype (s : List Char) : Doctype × List Char :=
  let body := s.takeWhile (· ≠ '>')
  let rest := s.drop body.length
  (parseDoctype (!rest.isEmpty) body, rest.drop 1)

/-! ## Tokens -/

/-- What was read : tokens, the mode for what follows, and what is left. -/
structure Lexed where
  /-- The tokens. -/
  tokens : List Token
  /-- The mode for the rest. -/
  mode : TextMode
  /-- What is left of the page. -/
  rest : List Char

/-- A section of character data, behind its opening. -/
def readSection : List Char → List Char × List Char
  | [] => ([], [])
  | ']' :: ']' :: '>' :: rest => ([], rest)
  | c :: rest =>
    let r := readSection rest
    (c :: r.1, r.2)

/-- What follows an opening bracket and an exclamation mark. -/
def readDeclaration (foreign : Bool) (s : List Char) : List Token × List Char :=
  match s with
  | '-' :: '-' :: rest =>
    let r := readComment rest
    ([.comment (String.ofList r.1)], r.2)
  | s =>
    if startsWithWord "doctype" s then
      let r := readDoctype (s.drop 7)
      ([.doctype r.1], r.2)
    else if foreign && "[CDATA[".toList.isPrefixOf s then
      let r := readSection (s.drop 7)
      (r.1.map .char, r.2)
    else
      let r := readBogusComment s
      ([.comment (String.ofList r.1)], r.2)

/-- What follows an opening bracket in text. -/
def readMarkup (foreign : Bool) (s : List Char) : List Token × List Char :=
  match s with
  | '!' :: rest => readDeclaration foreign rest
  | '?' :: _ =>
    let r := readBogusComment s
    ([.comment (String.ofList r.1)], r.2)
  | '/' :: rest =>
    match rest with
    | [] => ([.char '<', .char '/'], [])
    | '>' :: rest => ([], rest)
    | c :: _ =>
      if c.isAlpha then
        let r := readTag rest
        ((r.1.map Token.endTag).toList, r.2)
      else
        let r := readBogusComment rest
        ([.comment (String.ofList r.1)], r.2)
  | c :: _ =>
    if c.isAlpha then
      let r := readTag s
      ((r.1.map Token.startTag).toList, r.2)
    else ([.char '<'], s)
  | [] => ([.char '<'], [])

/-- The end tag of the element `last` at the front of `s`, which follows an opening bracket;
any other end tag is text there. -/
def closingTag? (last : String) (s : List Char) : Option (List Token × List Char) :=
  match s with
  | '/' :: rest =>
    if startsWithWord last rest && ((rest.drop last.length).head?.any endsTagName) then
      let r := readTag rest
      some ((r.1.map Token.endTag).toList, r.2)
    else none
  | _ => none

/-- The length of the word `script` with the character behind it that ends a tag name, if `s`
begins with them. -/
def scriptWord? (s : List Char) : Option Nat :=
  if startsWithWord "script" s && ((s.drop 6).head?.any endsTagName) then some 7 else none

/-- The hyphens that count behind one more character. -/
def hyphensAfter (hyphens : Nat) (c : Char) : Nat :=
  if c = '-' then min 2 (hyphens + 1) else 0

/-- What stands at the front of a page that is not at its end. -/
def nextTokens (mode : TextMode) (last : String) (foreign : Bool) (c : Char)
    (rest : List Char) : Lexed :=
  let plain : Lexed := ⟨[.char (replaceNull c)], mode, rest⟩
  let orClose := fun other : Lexed =>
    match if c = '<' then closingTag? last rest else none with
    | some (tokens, rest) => ⟨tokens, .data, rest⟩
    | none => other
  let orReference := fun other : Lexed =>
    match if c = '&' then reference? false rest else none with
    | some (chars, rest) => ⟨chars.map .char, mode, rest⟩
    | none => other
  match mode with
  | .plaintext => plain
  | .data =>
    if c = '<' then
      let r := readMarkup foreign rest
      ⟨r.1, .data, r.2⟩
    else orReference ⟨[.char c], .data, rest⟩
  | .rcdata => orClose (orReference plain)
  | .rawtext => orClose plain
  | .script =>
    orClose <|
      if c = '<' && "!--".toList.isPrefixOf rest then
        ⟨['<', '!', '-', '-'].map .char, .escaped 2, rest.drop 3⟩
      else plain
  | .escaped hyphens =>
    orClose <|
      if c = '<' then
        match scriptWord? rest with
        | some n => ⟨(c :: rest.take n).map .char, .nested 0, rest.drop n⟩
        | none => { plain with mode := .escaped 0 }
      else if c = '>' && hyphens = 2 then { plain with mode := .script }
      else { plain with mode := .escaped (hyphensAfter hyphens c) }
  | .nested hyphens =>
    if c = '<' then
      match rest with
      | '/' :: behind =>
        match scriptWord? behind with
        | some n => ⟨(c :: '/' :: behind.take n).map .char, .escaped 0, behind.drop n⟩
        | none => { plain with mode := .nested 0 }
      | _ => { plain with mode := .nested 0 }
    else if c = '>' && hyphens = 2 then { plain with mode := .script }
    else { plain with mode := .nested (hyphensAfter hyphens c) }

end Concordance.Html
