import Concordance.Text.Blank
import Concordance.Text.Case

/-!
# Requests

A request names a method and a target and carries headers. Of the target the path and the
query string matter; a scheme, a host and a fragment are cut off.
-/

namespace Concordance.Http

open Text

/-- What a request asks to be done. -/
inductive Method
  /-- Give the answer. -/
  | get
  /-- Give the answer without its body. -/
  | head
  /-- Do something. -/
  | post
  /-- Say what is allowed. -/
  | options
  /-- Anything else. -/
  | other (name : String)
  deriving Repr, DecidableEq

/-- The method of a name. -/
def Method.ofName : String → Method
  | "GET" => get
  | "HEAD" => head
  | "POST" => post
  | "OPTIONS" => options
  | name => other name

/-- What a request is directed at. -/
structure Target where
  /-- The path, as it was sent. -/
  path : List Char
  /-- The query string, as it was sent; empty if there is none. -/
  query : List Char
  deriving Repr, DecidableEq

/-- What follows a scheme and a host, if the target has them. -/
def dropAuthority (s : List Char) : List Char :=
  match splitFirst? ':' s with
  | some (_, '/' :: '/' :: rest) =>
    if s.head? = some '/' then s else rest.dropWhile fun c => c ≠ '/' && c ≠ '?'
  | _ => s

/-- The target that a request line names. -/
def Target.parse (uri : String) : Target :=
  let s := dropAuthority (uri.toList.takeWhile (· ≠ '#'))
  match splitFirst? '?' s with
  | some (path, query) => ⟨path, query⟩
  | none => ⟨s, []⟩

/-- A request. -/
structure Request where
  /-- The method. -/
  method : Method
  /-- The target. -/
  target : Target
  /-- The headers with their values. -/
  headers : List (String × String)
  deriving Repr, DecidableEq

/-- The value of a header; the case of its name does not matter. -/
def Request.header? (request : Request) (name : String) : Option String :=
  (request.headers.find? fun h => lowerAscii h.1 == lowerAscii name).map Prod.snd

/-- Whether a value has only characters of ASCII that are printed, or tabs. -/
def isPlain (value : String) : Bool :=
  value.toList.all fun c => (0x20 ≤ c.toNat && c.toNat < 0x7F) || c == '\t'

/-- Whether a text may be the value of a header. -/
def isHeaderValue (value : String) : Bool :=
  value.toList.all fun c => (0x20 ≤ c.toNat && c.toNat != 0x7F) || c == '\t'

end Concordance.Http
