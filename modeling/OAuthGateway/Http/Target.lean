import OAuthGateway.Text.Ascii
import OAuthGateway.Text.Parts

/-!
# Http/Target — the path and query a request names

A target is a path with an optional query, which may follow a scheme and an authority. The path
stays as it was sent: nothing is decoded and no segment resolved. A fragment is dropped.
-/

namespace OAuthGateway.Http

open Text

/-- The path of a request and, after a question mark, its query. -/
structure Target where
  path : String
  query : Option String
deriving DecidableEq, Repr

namespace Target

/-- Characters of a path. -/
def isPathChar (c : Char) : Bool :=
  32 < c.toNat && c ≠ '#' && c ≠ '?' && c ≠ '<' && c ≠ '>' && c ≠ '\x60'

/-- Characters of a query. -/
def isQueryChar (c : Char) : Bool :=
  32 < c.toNat && c ≠ '#' && c ≠ '"' && c ≠ '<' && c ≠ '>'

/-- The longest target in bytes. -/
def maxLength : Nat := 65534

/-- Reads a path with an optional query; a path without characters is the root. -/
def local? (text : List Char) : Option Target :=
  let (path, query) := match cut? '?' (text.takeWhile (· ≠ '#')) with
    | some (path, query) => (path, some query)
    | none => (text.takeWhile (· ≠ '#'), none)
  if path.all isPathChar && (query.getD []).all isQueryChar then
    some ⟨if path.isEmpty then "/" else String.ofList path, query.map String.ofList⟩
  else none

/-- Characters of the scheme before an authority. -/
def isSchemeChar (c : Char) : Bool :=
  isAsciiLetter c || isDigit c || c = '+' || c = '-' || c = '.'

/-- Characters of an authority; a percent sign may stand in the user information only. -/
def isAuthorityChar (c : Char) : Bool :=
  isAsciiLetter c || isDigit c || "-._~!$&'()*+,;=:@[]".toList.contains c

/-- An authority: optional user information, then a host, in brackets or not, with an optional
number behind a colon. -/
def isAuthority (text : List Char) : Bool :=
  let host := (text.reverse.takeWhile (· ≠ '@')).reverse
  let user := text.take (text.length - host.length)
  let bracketed := host.head? == some '['
  let rest := if bracketed then host.dropWhile (· ≠ ']') else host
  !host.isEmpty && host.all isAuthorityChar && user.all (fun c => isAuthorityChar c || c = '%') &&
    (host.count '[') == (if bracketed then 1 else 0) && host.count ']' == host.count '[' &&
    rest.count ':' ≤ 1

/-- Reads a request target. -/
def read? (s : String) : Option Target :=
  let text := s.toList
  if maxLength < s.utf8ByteSize then none
  else match text with
    | [] => none
    | ['*'] => some ⟨"*", none⟩
    | '/' :: _ => local? text
    | _ =>
      let scheme := text.takeWhile isSchemeChar
      match after? [':', '/', '/'] (text.dropWhile isSchemeChar) with
      | some rest =>
        let authority := rest.takeWhile fun c => c ≠ '/' && c ≠ '?' && c ≠ '#'
        if !scheme.isEmpty && isAuthority authority then local? (rest.drop authority.length)
        else none
      | none => if isAuthority text then some ⟨"", none⟩ else none

end Target

end OAuthGateway.Http
