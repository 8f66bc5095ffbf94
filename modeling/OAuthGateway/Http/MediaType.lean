import OAuthGateway.Http.Message
import OAuthGateway.Text.Parts

/-!
# Http/MediaType — what a body is said to be

A media type has a type and a subtype, and the subtype may end in a suffix behind a plus sign.
Parameters may follow; they have to be well formed and are otherwise of no interest here.
-/

namespace OAuthGateway.Http

open Text

/-- A media type in lower case; without a suffix `suffix` is absent. -/
structure MediaType where
  type : String
  subtype : String
  suffix : Option String
deriving DecidableEq, Repr

namespace MediaType

/-- A character inside quotes. -/
def isQuotable (c : Char) : Bool := 31 < c.toNat && c.toNat ≠ 127

/-- What follows a quoted value, from its first character on; that one may itself be a quote. -/
def afterQuoted? : List Char → Option (List Char)
  | c :: rest =>
    if isQuotable c then
      match cut? '"' rest with
      | some (inside, rest) => if inside.all isQuotable then some rest else none
      | none => none
    else none
  | [] => none

/-- The text consists of parameters, each ended by a semicolon or by the end; at most `fuel` of
them. -/
def areParameters : (fuel : Nat) → List Char → Bool
  | 0, _ => false
  | fuel + 1, cs =>
    let cs := cs.dropWhile (· = ' ')
    cs.isEmpty ||
      (!(cs.takeWhile isTokenChar).isEmpty &&
        match cs.dropWhile isTokenChar with
        | '=' :: '"' :: rest =>
          match afterQuoted? rest with
          | some rest =>
            match rest.dropWhile (· = ' ') with
            | [] => true
            | ';' :: rest => areParameters fuel rest
            | _ => false
          | none => false
        | '=' :: rest =>
          match rest.dropWhile isTokenChar with
          | [] => true
          | ';' :: more => !(rest.takeWhile isTokenChar).isEmpty && areParameters fuel more
          | _ => false
        | _ => false)

/-- The subtype and the suffix that a text consists of: the last plus sign that is not its first
character divides them. -/
def withSuffix (type subtype : List Char) : MediaType :=
  let whole : MediaType := ⟨lowered (String.ofList type), lowered (String.ofList subtype), none⟩
  match cut? '+' subtype.reverse with
  | some (_, []) | none => whole
  | some (suffix, front) =>
    ⟨whole.type, lowered (String.ofList front.reverse),
      some (lowered (String.ofList suffix.reverse))⟩

/-- Reads a media type. -/
def read? (s : String) : Option MediaType := do
  let (names, parameters) := (cut? ';' s.toList).getD (s.toList, [])
  let (type, subtype) ← cut? '/' names
  if isToken (String.ofList type) && isToken (String.ofList subtype) &&
      areParameters (parameters.length + 1) parameters then
    some (withSuffix type subtype)
  else none

/-- The media type says that a body is JSON. -/
def isJson (t : MediaType) : Bool :=
  t.type == "application" && (t.subtype == "json" || t.suffix == some "json")

end MediaType

/-- The first `content-type` of a message is visible and says that the body is JSON. -/
def Headers.sayJson (hs : Headers) : Bool :=
  match hs.first? "content-type" with
  | some value => Header.isVisible value && (MediaType.read? value).any MediaType.isJson
  | none => false

end OAuthGateway.Http
