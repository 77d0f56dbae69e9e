import Concordance.Encoding.Percent
import Concordance.Url.Address
import Concordance.Url.Domain

/-!
# Addresses of pages

An address of a page in the web : its scheme, who asks, the host and the number of the socket
there, the path, and what is asked for. The texts of its parts are kept as they are written, with
percent encoding. `render` writes the address.
-/

namespace Concordance

/-- A host. -/
inductive Url.Host
  /-- A name. -/
  | domain (name : List Char)
  /-- An address of four bytes. -/
  | ipv4 (address : Nat)
  /-- An address of eight pieces. -/
  | ipv6 (pieces : List Nat)
  deriving Repr, DecidableEq

/-- A scheme of the web. -/
inductive Url.Scheme
  /-- In clear. -/
  | http
  /-- Encrypted. -/
  | https
  deriving Repr, DecidableEq

/-- The address of a page. -/
structure Url where
  /-- The scheme. -/
  scheme : Url.Scheme
  /-- Who asks; may be empty. -/
  username : List Char
  /-- The password; may be empty. -/
  password : List Char
  /-- The host. -/
  host : Url.Host
  /-- The number of the socket, if it is not that of the scheme. -/
  socket : Option Nat
  /-- The parts of the path. -/
  path : List (List Char)
  /-- What stands behind the question mark. -/
  query : Option (List Char)
  /-- What stands behind the number sign. -/
  fragment : Option (List Char)
  deriving Repr, DecidableEq

namespace Url

/-! ## Sets of characters to encode -/

/-- Control characters. -/
def isControl (c : Char) : Bool :=
  c.toNat < 0x20 || c.toNat = 0x7F

/-- Characters encoded in a fragment. -/
def inFragmentSet (c : Char) : Bool :=
  isControl c || " \"<>`".toList.contains c

/-- Characters encoded in a query. -/
def inQuerySet (c : Char) : Bool :=
  isControl c || " \"#<>'".toList.contains c

/-- Characters encoded in a path. -/
def inPathSet (c : Char) : Bool :=
  inFragmentSet c || "#?\x7b\x7d".toList.contains c

/-- Characters encoded in a name or a password. -/
def inUserSet (c : Char) : Bool :=
  inPathSet c || "/:;=@[\\]^|".toList.contains c

/-! ## Writing -/

/-- The name of a scheme. -/
def Scheme.name : Scheme → List Char
  | http => "http".toList
  | https => "https".toList

/-- The number of the socket that a scheme uses. -/
def Scheme.socket : Scheme → Nat
  | http => 80
  | https => 443

/-- A host as it is written. -/
def Host.render : Host → List Char
  | domain name => name
  | ipv4 address => Ipv4.render address
  | ipv6 pieces => '[' :: Ipv6.render pieces ++ [']']

/-- Name and password in front of the host. -/
def renderUser (url : Url) : List Char :=
  if url.username.isEmpty && url.password.isEmpty then []
  else url.username ++ (if url.password.isEmpty then [] else ':' :: url.password) ++ ['@']

/-- A mark with what stands behind it, if there is anything. -/
def renderBehind (mark : Char) : Option (List Char) → List Char
  | none => []
  | some s => mark :: s

/-- An address as it is written. -/
def render (url : Url) : String :=
  String.ofList (url.scheme.name ++ ':' :: '/' :: '/' :: (url.renderUser ++ url.host.render ++
    renderBehind ':' (url.socket.map Decimal.digits) ++ url.path.flatMap ('/' :: ·) ++
    renderBehind '?' url.query ++ renderBehind '#' url.fragment))

end Url

end Concordance
