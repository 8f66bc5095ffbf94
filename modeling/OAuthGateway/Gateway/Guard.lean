import OAuthGateway.Gateway.Problem

/-!
# Gateway/Guard — who may administer applications

With a key configured, the first `authorization` value has to be the scheme `bearer` in any case,
one blank and the key, all of it visible ASCII. Without a key everybody may.
-/

namespace OAuthGateway

open Http

/-- How the value that carries the key starts, up to the case of its letters. -/
def keyStart : List Char := "bearer ".toList

/-- The key that a header value presents. -/
def presentedKey? (value : String) : Option String :=
  let cs := value.toList
  if Header.isVisible value && keyStart.length < cs.length &&
      Text.sameFold (cs.take keyStart.length) keyStart then
    some (String.ofList (cs.drop keyStart.length))
  else none

/-- Lets an administrator pass. -/
def guardKey (key : Option String) (hs : Headers) : Except Problem Unit :=
  match key with
  | none => .ok ()
  | some key =>
    match hs.first? "authorization" with
    | none => .error (.unauthorized "Missing Authorization header")
    | some value =>
      match presentedKey? value with
      | none => .error (.unauthorized "Invalid Authorization header format")
      | some presented =>
        if presented = key then .ok () else .error (.unauthorized "Invalid admin API key")

end OAuthGateway
