import Concordance.Url.Basic

/-!
# Reading addresses

An address is read as a browser reads what is typed : blanks around it are dropped, tabs and line
breaks inside it too, backslashes count as slashes, and characters that may not stand in a part
are encoded. Of addresses with other schemes than those of the web it is only found out whether
they can be read.
-/

namespace Concordance.Url

open Text

/-! ## Cutting into parts -/

/-- How the rest of an address is read, by its scheme. -/
inductive Kind
  /-- A page in the web. -/
  | web (scheme : Scheme)
  /-- Another scheme with a host that must not be empty. -/
  | hosted
  /-- A file. -/
  | file
  /-- Any other scheme. -/
  | foreign
  deriving Repr, DecidableEq

/-- The kind of a scheme, named in small letters. -/
def Kind.ofScheme (name : String) : Kind :=
  match name with
  | "http" => web .http
  | "https" => web .https
  | "ftp" | "ws" | "wss" => hosted
  | "file" => file
  | _ => foreign

/-- Whether a character may stand in a scheme. -/
def isSchemeChar (c : Char) : Bool :=
  c.isAlphanum || c == '+' || c == '-' || c == '.'

/-- The scheme of an address, and what stands behind the colon. -/
def splitScheme? (s : List Char) : Option (Kind × List Char) := do
  let (name, rest) ← splitFirst? ':' s
  if (name.head?.any Char.isAlpha) && name.all isSchemeChar then
    return (.ofScheme (String.ofList (name.map Char.toLower)), rest)
  else none

/-- Whether a character counts as a slash. -/
def isSlash (c : Char) : Bool :=
  c == '/' || c == '\\'

/-- Whether a character ends the part with the host. -/
def endsAuthority (backslash : Bool) (c : Char) : Bool :=
  c == '/' || c == '?' || c == '#' || (backslash && c == '\\')

/-- What stands in front of the last at sign, if there is one, and what behind it. -/
def splitUser (authority : List Char) : Option (List Char) × List Char :=
  let behind := (authority.reverse.takeWhile (· ≠ '@')).reverse
  if behind.length = authority.length then (none, authority)
  else (some (authority.take (authority.length - behind.length - 1)), behind)

/-- The host, up to a colon outside of square brackets, and what stands from the colon on;
`inside` says whether a bracket is open. -/
def splitSocket (inside : Bool) : List Char → List Char × List Char
  | [] => ([], [])
  | c :: rest =>
    if c = ':' && !inside then ([], c :: rest)
    else
      let inside := if c = '[' then true else if c = ']' then false else inside
      let (host, socket) := splitSocket inside rest
      (c :: host, socket)

/-! ## Parts -/

/-- An address in square brackets. -/
def readBracketed? (s : List Char) : Option (List Nat) :=
  if s.getLast? = some ']' then Ipv6.read? s.dropLast else none

/-- A host of an address in the web. -/
def readHost? (s : List Char) : Option Host :=
  match s with
  | '[' :: rest => (readBracketed? rest).map .ipv6
  | s => do
    let name ← Domain.toAscii (← Utf8.decode? (Percent.decode (Utf8.encode s)))
    if name.isEmpty then none
    else if Ipv4.endsInNumber name then return .ipv4 (← Ipv4.read? name)
    else return .domain name

/-- Whether a host of any other scheme can be read. -/
def isForeignHost (s : List Char) : Bool :=
  match s with
  | '[' :: rest => (readBracketed? rest).isSome
  | s => !s.any fun c => "\x00\t\n\x0d #/:<>?@[\\]^|".toList.contains c

/-- The number of a socket, with a colon in front; without digits there is none. -/
def readSocket? (s : List Char) : Option (Option Nat) :=
  match s with
  | [] => some none
  | _ :: digits =>
    if digits.isEmpty then some none
    else do
      let n ← Decimal.readDigits? digits
      if n < 65536 then return some n else none

/-- Name and password, encoded. -/
def readUser (user : List Char) : List Char × List Char :=
  match splitFirst? ':' user with
  | some (name, password) => (Percent.encode inUserSet name, Percent.encode inUserSet password)
  | none => (Percent.encode inUserSet user, [])

/-- The number of dots that a part of a path consists of, each of which may be encoded. -/
def dots? : List Char → Option Nat
  | [] => some 0
  | '.' :: rest => (dots? rest).map (· + 1)
  | '%' :: '2' :: 'e' :: rest => (dots? rest).map (· + 1)
  | '%' :: '2' :: 'E' :: rest => (dots? rest).map (· + 1)
  | _ => none

/-- Whether a part of a path names a drive, which is never left. -/
def isDrive (part : List Char) : Bool :=
  match part with
  | [letter, mark] => letter.isAlpha && (mark == ':' || mark == '|')
  | _ => false

/-- The path without its last part. -/
def leave (path : List (List Char)) : List (List Char) :=
  if path.getLast?.any isDrive then path else path.dropLast

/-- The path when the remaining parts are followed from `path` : one dot stays, two dots leave
the last part. Behind dots at the end there is an empty part. -/
def followParts (path : List (List Char)) : List (List Char) → List (List Char)
  | [] => path
  | part :: rest =>
    let behind := if rest.isEmpty then [[]] else []
    match dots? part with
    | some 1 => followParts (path ++ behind) rest
    | some 2 => followParts (leave path ++ behind) rest
    | _ => followParts (path ++ [part]) rest

/-- The parts of a path; a slash at the front is not needed. -/
def readPath (s : List Char) : List (List Char) :=
  let slashed := s.map fun c => if c = '\\' then '/' else c
  let parts := fieldChars '/' (if slashed.head? = some '/' then slashed.drop 1 else slashed)
  followParts [] (parts.map (Percent.encode inPathSet))

/-- What stands in front of a mark, and what behind it, if there is one. -/
def splitMark (mark : Char) (s : List Char) : List Char × Option (List Char) :=
  match splitFirst? mark s with
  | some (front, behind) => (front, some behind)
  | none => (s, none)

/-! ## Whole addresses -/

/-- Read what stands behind the slashes of an address in the web. -/
def readWeb? (scheme : Scheme) (s : List Char) : Option Url := do
  let authority := s.takeWhile (!endsAuthority true ·)
  let (user, behind) := splitUser authority
  let (host, socket) := splitSocket false behind
  if host.isEmpty then none
  else
    let host ← readHost? host
    let socket ← readSocket? socket
    let (username, password) := readUser (user.getD [])
    let (front, fragment) := splitMark '#' (s.dropWhile (!endsAuthority true ·))
    let (path, query) := splitMark '?' front
    return {
      scheme, username, password, host
      socket := socket.filter (· ≠ scheme.socket)
      path := readPath path
      query := query.map (Percent.encode inQuerySet)
      fragment := fragment.map (Percent.encode inFragmentSet) }

/-- Whether what stands behind the slashes can be read, if the host must not be empty. -/
def isHosted (s : List Char) : Bool :=
  (readWeb? .http s).isSome

/-- Whether what stands behind two slashes can be read, for a scheme that is not known. -/
def isForeign (s : List Char) : Bool :=
  let authority := s.takeWhile (!endsAuthority false ·)
  let rest := s.dropWhile (!endsAuthority false ·)
  let (user, behind) := splitUser authority
  let (host, socket) := splitSocket false behind
  let noHost := host.isEmpty && (!socket.isEmpty || user.any fun u => u ≠ [] && u ≠ [':'])
  !(user == some [] && behind.isEmpty && !rest.isEmpty) && isForeignHost host && !noHost &&
    (readSocket? (socket.takeWhile (· ≠ '\\'))).isSome

/-- Whether what stands behind the scheme of a file can be read. -/
def isFile (s : List Char) : Bool :=
  match s with
  | a :: b :: rest =>
    if isSlash a && isSlash b then
      let host := rest.takeWhile (!endsAuthority true ·)
      host.isEmpty || isDrive host || (readHost? host).isSome
    else true
  | _ => true

/-- What an address turns out to be. -/
inductive Reading
  /-- The address of a page. -/
  | page (url : Url)
  /-- An address with another scheme. -/
  | other
  deriving Repr, DecidableEq

/-- The text of an address without blanks around it, and without tabs and line breaks. -/
def strip (s : List Char) : List Char :=
  (trimBy (fun c => c.toNat ≤ 0x20) s).filter fun c => c ≠ '\t' && c ≠ '\n' && c ≠ '\r'

/-- Read an address, which must begin with a scheme. -/
def read? (s : List Char) : Option Reading := do
  let (kind, rest) ← splitScheme? (strip s)
  match kind with
  | .web scheme => return .page (← readWeb? scheme (rest.dropWhile isSlash))
  | .hosted => if isHosted (rest.dropWhile isSlash) then return .other else none
  | .file => if isFile rest then return .other else none
  | .foreign =>
    match rest with
    | '/' :: '/' :: rest => if isForeign rest then return .other else none
    | _ => return .other

end Concordance.Url
