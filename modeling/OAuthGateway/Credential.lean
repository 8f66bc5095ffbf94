import OAuthGateway.Text.Ascii

/-!
# Credential — the text of codes, tokens, secrets and client ids

A code, token or client secret is 32 random bytes in base64url without padding, which makes 43
characters (`length_ofBytes`); a client id is a random UUID of version 4 in hexadecimal, without
hyphens, and a trace id is one with them. Random bytes are an input: the library draws none.
-/

namespace OAuthGateway.Credential

/-- The base64url character of a value below 64. -/
def digit (n : Nat) : Char :=
  if n < 26 then Char.ofNat (n + 'A'.toNat)
  else if n < 52 then Char.ofNat (n - 26 + 'a'.toNat)
  else if n < 62 then Char.ofNat (n - 52 + '0'.toNat)
  else if n = 62 then '-' else '_'

/-- The value of a base64url character. -/
def digitValue? (c : Char) : Option Nat :=
  if 'A' ≤ c && c ≤ 'Z' then some (c.toNat - 'A'.toNat)
  else if 'a' ≤ c && c ≤ 'z' then some (c.toNat - 'a'.toNat + 26)
  else if Text.isDigit c then some (c.toNat - '0'.toNat + 52)
  else if c = '-' then some 62
  else if c = '_' then some 63
  else none

/-- Base64url without padding: three bytes make four characters, a last one or two make two or
three. -/
def base64url : List UInt8 → List Char
  | a :: b :: c :: rest =>
    let n := a.toNat * 65536 + b.toNat * 256 + c.toNat
    digit (n / 262144) :: digit (n / 4096 % 64) :: digit (n / 64 % 64) :: digit (n % 64) ::
      base64url rest
  | [a, b] =>
    let n := a.toNat * 1024 + b.toNat * 4
    [digit (n / 4096), digit (n / 64 % 64), digit (n % 64)]
  | [a] =>
    let n := a.toNat * 16
    [digit (n / 64), digit (n % 64)]
  | [] => []

theorem length_base64url : ∀ bytes : List UInt8,
    (base64url bytes).length = (bytes.length * 4 + 2) / 3
  | a :: b :: c :: rest => by
      simp only [base64url, List.length_cons, length_base64url rest]
      omega
  | [_, _] => by simp [base64url]
  | [_] => by simp [base64url]
  | [] => rfl

/-- The number of random bytes behind a code, token or client secret. -/
def byteCount : Nat := 32

/-- A code, token or client secret made of random bytes. -/
def ofBytes (bytes : List UInt8) : String := String.ofList (base64url bytes)

theorem length_ofBytes {bytes : List UInt8} (h : bytes.length = byteCount) :
    (ofBytes bytes).length = 43 := by
  simp [ofBytes, String.length_ofList, length_base64url, h, byteCount]

/-- The text is the base64url form of 32 bytes: the last of its 43 characters carries four bits. -/
def isOpaque (s : String) : Bool :=
  let values := s.toList.map digitValue?
  values.length == 43 && values.all Option.isSome &&
    (values.getLastD none).any fun n => n % 4 == 0

/-- The two hexadecimal digits of a byte. -/
def hexByte (b : UInt8) : List Char :=
  [Text.hexDigit (b.toNat / 16), Text.hexDigit (b.toNat % 16)]

/-- The hexadecimal digits of a UUID made of 16 random bytes: version and variant are set, the rest
is kept. -/
def uuidDigits (bytes : List UInt8) : List Char :=
  let marked := bytes.mapIdx fun i b =>
    if i = 6 then (b &&& 0x0F) ||| 0x40 else if i = 8 then (b &&& 0x3F) ||| 0x80 else b
  marked.flatMap hexByte

/-- A client id made of 16 random bytes. -/
def clientId (bytes : List UInt8) : String := String.ofList (uuidDigits bytes)

/-- The digits are those of a UUID of version 4. -/
def isUuidDigits (cs : List Char) : Bool :=
  cs.length == 32 && cs.all (fun c => Text.isDigit c || ('a' ≤ c && c ≤ 'f')) &&
    cs[12]? == some '4' && (cs[16]?.any fun c => c == '8' || c == '9' || c == 'a' || c == 'b')

/-- The text has the form of a client id. -/
def isClientId (s : String) : Bool := isUuidDigits s.toList

/-- Digits in groups of eight, four, four, four and twelve with hyphens between them. -/
def hyphenated (cs : List Char) : List Char :=
  cs.take 8 ++ '-' :: (cs.drop 8).take 4 ++ '-' :: (cs.drop 12).take 4 ++
    '-' :: (cs.drop 16).take 4 ++ '-' :: cs.drop 20

/-- A trace id made of 16 random bytes. -/
def traceId (bytes : List UInt8) : String := String.ofList (hyphenated (uuidDigits bytes))

/-- The text has the form of a trace id. -/
def isTraceId (s : String) : Bool :=
  let digits := s.toList.filter (· != '-')
  isUuidDigits digits && s.toList == hyphenated digits

/-- Fresh credentials for one operation; each operation takes the ones it needs. -/
structure Fresh where
  clientUid : String
  clientSecret : String
  code : String
  token : String
  refreshToken : String
  traceId : String

end OAuthGateway.Credential
