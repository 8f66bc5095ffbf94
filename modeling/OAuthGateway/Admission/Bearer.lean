import OAuthGateway.Http.Message
import OAuthGateway.Text.Blank

/-!
# Admission/Bearer — the token in a request's headers

The first `authorization` value has to be visible ASCII: the scheme `bearer` in any case, one blank,
and a token without blanks, around which further white space is ignored.
-/

namespace OAuthGateway.Bearer

open Text

/-- The name of the header that carries the token. -/
def headerName : String := "authorization"

/-- The name of the scheme. -/
def scheme : List Char := ['b', 'e', 'a', 'r', 'e', 'r']

/-- The token of a header value. -/
def ofValue? (value : List Char) : Option (List Char) :=
  match cut? ' ' value with
  | some (name, rest) =>
    let token := trim rest
    if sameFold name scheme && !token.isEmpty && !token.contains ' ' then some token else none
  | none => none

/-- The token of a request. -/
def ofHeaders? (headers : Http.Headers) : Option String := do
  let value ← headers.first? headerName
  if Http.Header.isVisible value then (ofValue? value.toList).map String.ofList else none

end OAuthGateway.Bearer
