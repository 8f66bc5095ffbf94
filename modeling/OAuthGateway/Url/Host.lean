import OAuthGateway.Text.Ascii
import OAuthGateway.Text.Decimal
import OAuthGateway.Text.Parts
import OAuthGateway.Text.Percent
import OAuthGateway.Text.Blank

/-!
# Url/Host — the hosts a URL may name

A host is a domain, an IPv4 address or a bracketed IPv6 address. A domain is percent-decoded,
brought to lower case and checked character by character and, where it is in punycode, decoded; one
whose last label is a number has to be an IPv4 address, whose parts may be decimal, octal or
hexadecimal and whose last part fills what the others leave.

Domains beyond ASCII, in punycode or not, are read only nearly as they should be. The tables that
say how each of their characters is mapped, which are valid, and which may stand beside which are
not here; in their place stand `narrow`, `lower`, `isIgnored` and `isDomainChar`. So an address in
circled digits or a joiner in its proper place is refused though it is good, and an unassigned
character, or one that stands for several such as U+2100, is accepted though it is not. All that is
proved of hosts rests on two facts: the text decides, and no host ends in a blank or a control
character.
-/

namespace OAuthGateway.Url

open Text

/-- Why a text is no URL. -/
inductive Fault where
  | noScheme
  | emptyHost
  | badNumber
  | badIpv4
  | badIpv6
  | badDomain
  | badCharacter
deriving DecidableEq, Repr

/-- The text of a fault. -/
def Fault.message : Fault → String
  | noScheme => "relative URL without a base"
  | emptyHost => "empty host"
  | badNumber => "invalid port number"
  | badIpv4 => "invalid IPv4 address"
  | badIpv6 => "invalid IPv6 address"
  | badDomain => "invalid international domain name"
  | badCharacter => "invalid domain character"

/-- A host; one of a scheme without rules of its own is kept as it is written. -/
inductive Host where
  | domain (name : List Char)
  | ipv4 (address : Nat)
  | ipv6 (pieces : List Nat)
  | verbatim (text : List Char)
deriving DecidableEq, Repr

/-! ## IPv4 -/

/-- A number in one of three bases: decimal, octal after a zero, hexadecimal after `0x`. -/
def partNumber? (cs : List Char) : Option Nat :=
  let inBase (base : Nat) (ds : List Char) : Option Nat := do
    let values ← ds.mapM hexValue?
    if values.all (· < base) then some (values.foldl (fun n d => n * base + d) 0) else none
  match cs with
  | [] => none
  | '0' :: 'x' :: ds | '0' :: 'X' :: ds => inBase 16 ds
  | ['0'] => some 0
  | '0' :: ds => inBase 8 ds
  | ds => inBase 10 ds

/-- The labels of a domain, without an empty last one. -/
def labels (cs : List Char) : List (List Char) :=
  let parts := cs.splitOnP (· = '.')
  if parts.getLast? = some [] && 1 < parts.length then parts.dropLast else parts

/-- The last label is a number, so the domain is meant as an IPv4 address. -/
def endsInNumber (cs : List Char) : Bool :=
  match (labels cs).getLast? with
  | some last => (!last.isEmpty && last.all isDigit) || (partNumber? last).isSome
  | none => false

/-- Reads an IPv4 address of up to four parts. -/
def ipv4? (cs : List Char) : Option Nat := do
  let parts ← (labels cs).mapM partNumber?
  let last ← parts.getLast?
  let front := parts.dropLast
  let room := Nat.pow 256 (4 - front.length)
  if front.length ≤ 3 && front.all (· < 256) && last < room then
    some (front.foldl (fun n p => n * 256 + p) 0 * room + last)
  else none

/-! ## IPv6 -/

/-- One piece of an IPv6 address: up to four hexadecimal digits. -/
def hexPiece? (cs : List Char) : Option Nat := do
  let values ← cs.mapM hexValue?
  if 1 ≤ values.length && values.length ≤ 4 then some (values.foldl (fun n d => n * 16 + d) 0)
  else none

/-- A decimal number below 256 without leading zeros. -/
def octet? (cs : List Char) : Option Nat := do
  let n ← natural? cs
  if n < 256 && (cs.head? ≠ some '0' || cs.length = 1) then some n else none

/-- The pieces between colons; the last may be an IPv4 address, which is worth two. -/
def pieces? : List (List Char) → Option (List Nat)
  | [] => some []
  | [last] =>
    match (last.splitOnP (· = '.')).mapM octet? with
    | some [a, b, c, d] => some [a * 256 + b, c * 256 + d]
    | _ => (hexPiece? last).map fun p => [p]
  | p :: ps => do
    let piece ← hexPiece? p
    let rest ← pieces? ps
    some (piece :: rest)

/-- Splits at the first pair of colons. -/
def atGap? : List Char → Option (List Char × List Char)
  | ':' :: ':' :: rest => some ([], rest)
  | c :: rest => (atGap? rest).map fun (front, back) => (c :: front, back)
  | [] => none

/-- Reads an IPv6 address: eight pieces, or fewer with a pair of colons for the missing ones. -/
def ipv6? (cs : List Char) : Option (List Nat) :=
  let group (cs : List Char) : Option (List Nat) :=
    if cs.isEmpty then some [] else pieces? (cs.splitOnP (· = ':'))
  match atGap? cs with
  | none => (group cs).filter fun ps => ps.length = 8
  | some (front, back) => do
    let hasDot := front.contains '.'
    let front ← group front
    let back ← group back
    let missing := 8 - (front.length + back.length)
    if hasDot || missing = 0 then none else some (front ++ List.replicate missing 0 ++ back)

/-! ## Domains -/

/-- The narrow form of a wide ASCII character, and the full stop for its variants. -/
def narrow (c : Char) : Char :=
  let n := c.toNat
  if 0xFF01 ≤ n && n ≤ 0xFF5E then Char.ofNat (n - 0xFEE0)
  else if n = 0x3002 || n = 0xFF61 then '.' else c

/-- A character that leaves no trace in a domain: soft hyphens, invisible operators, variation
selectors. -/
def isIgnored (c : Char) : Bool :=
  let n := c.toNat
  n = 0xAD || n = 0x34F || (0x180B ≤ n && n ≤ 0x180F) || n = 0x200B || n = 0x2060 || n = 0x2064 ||
    (0xFE00 ≤ n && n ≤ 0xFE0F) || n = 0xFEFF || (0xE0100 ≤ n && n ≤ 0xE01EF)

/-- A domain may hold the character: in ASCII all but controls, blanks and delimiters, beyond it
neither controls nor blanks nor characters without a meaning of their own. -/
def isDomainChar (c : Char) : Bool :=
  let n := c.toNat
  if n < 128 then 32 < n && n ≠ 127 && !("%#/:<>?@[\\]^|".toList.contains c)
  else 0xA0 < n && !isBlank c && !(0xE000 ≤ n && n ≤ 0xF8FF) && n < 0xF0000 &&
    !(0xFDD0 ≤ n && n ≤ 0xFDEF) && !(0xFFF0 ≤ n && n ≤ 0xFFFF) && !(0x200C ≤ n && n ≤ 0x200F) &&
    !(0x2028 ≤ n && n ≤ 0x202E)

/-- The value of a punycode digit. -/
def punycodeDigit? (c : Char) : Option Nat :=
  if 'a' ≤ c && c ≤ 'z' then some (c.toNat - 'a'.toNat)
  else if isDigit c then some (c.toNat - '0'.toNat + 26) else none

/-- The next bias of punycode, after a delta among so many characters. -/
def adapted (delta count : Nat) (first : Bool) : Nat :=
  let delta := if first then delta / 700 else delta / 2
  let rec settle : Nat → Nat → Nat → Nat
    | 0, _, k => k
    | fuel + 1, delta, k =>
      if 455 < delta then settle fuel (delta / 35) (k + 36) else k + 36 * delta / (delta + 38)
  settle delta (delta + delta / count) 0

/-- Reads one variable-length integer of punycode and returns the rest. -/
def punycodeDelta? (bias : Nat) : Nat → Nat → Nat → List Char → Option (Nat × List Char)
  | value, weight, k, c :: rest => do
    let digit ← punycodeDigit? c
    let value := value + digit * weight
    let threshold := if k ≤ bias then 1 else if bias + 26 ≤ k then 26 else k - bias
    if 0x110000 * 0x110000 < value then none
    else if digit < threshold then some (value, rest)
    else punycodeDelta? bias value (weight * (36 - threshold)) (k + 36) rest
  | _, _, _, [] => none

/-- Inserts the characters that the deltas of punycode state. -/
def punycodeInsert? : Nat → (point place bias : Nat) → (first : Bool) → List Nat → List Char →
    Option (List Nat)
  | _, _, _, _, _, points, [] => some points
  | fuel + 1, point, place, bias, first, points, text => do
    let (delta, rest) ← punycodeDelta? bias 0 1 36 text
    let count := points.length + 1
    let total := place + delta
    let point := point + total / count
    let place := total % count
    let points := points.take place ++ point :: points.drop place
    if 0x110000 ≤ point then none
    else
      punycodeInsert? fuel point (place + 1) (adapted delta count first) false points rest
  | 0, _, _, _, _, _, _ => none

/-- The characters that a label in punycode stands for. -/
def punycode? (text : List Char) : Option (List Nat) :=
  let basic := (text.reverse.dropWhile (· ≠ '-')).reverse.dropLast
  let coded := text.drop (if text.contains '-' then basic.length + 1 else 0)
  if coded.isEmpty then none
  else punycodeInsert? coded.length 128 0 72 true (basic.map Char.toNat) coded

/-- A label is sound: if it is in punycode, it stands for a label that is not ASCII. -/
def isSoundLabel (label : List Char) : Bool :=
  match after? ['x', 'n', '-', '-'] label with
  | none => true
  | some coded =>
    match punycode? coded with
    | none => false
    | some points =>
      points.any (128 ≤ ·) && points.all fun n => n.isValidChar && isDomainChar (Char.ofNat n)

/-- The canonical form of a domain; beyond ASCII an approximation, which may be wrong both ways. -/
def domain? (cs : List Char) : Option (List Char) := do
  let decoded ← percentDecoded? cs
  let mapped := (decoded.filter fun c => !isIgnored c).map fun c => lower (narrow c)
  if mapped.all isDomainChar && (mapped.splitOnP (· = '.')).all isSoundLabel then some mapped
  else none

/-! ## Hosts -/

/-- A host in brackets is an IPv6 address. -/
def bracketed? (cs : List Char) : Option (Except Fault Host) :=
  match cs with
  | '[' :: rest => some <|
    if rest.getLast? ≠ some ']' then .error .badIpv6
    else match ipv6? rest.dropLast with
      | some ps => .ok (.ipv6 ps)
      | none => .error .badIpv6
  | _ => none

/-- The host of a URL whose scheme resolves hosts: the right one if its domain is decoded to ASCII
without punycode, otherwise nearly so. -/
def Host.read (cs : List Char) : Except Fault Host :=
  if let some host := bracketed? cs then host
  else match domain? cs with
    | none => .error .badDomain
    | some [] => .error .emptyHost
    | some name =>
      if endsInNumber name then
        match ipv4? name with
        | some address => .ok (.ipv4 address)
        | none => .error .badIpv4
      else .ok (.domain name)

/-- The host of any other URL: kept as it is, if it holds no delimiter. -/
def Host.readVerbatim (cs : List Char) : Except Fault Host :=
  if let some host := bracketed? cs then host
  else if cs.any "\x00\t\n\x0d #/:<>?@[\\]^|".toList.contains then .error .badCharacter
  else .ok (.verbatim cs)

end OAuthGateway.Url
