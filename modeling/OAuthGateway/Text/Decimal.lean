import OAuthGateway.Text.Ascii

/-!
# Text/Decimal — whole numbers written in decimal

`natural?` reads a non-empty run of digits of any length. `signed?` and `unsigned?` add an optional
sign and a word's bounds: a number that does not fit 64 bits is no number. `natural` writes one.
-/

namespace OAuthGateway.Text

/-- The value of a digit character. -/
def digitValue (c : Char) : Nat := c.toNat - '0'.toNat

/-- The number a list of digits denotes, continuing from the digits already read. -/
def ofDigits (acc : Nat) (ds : List Char) : Nat := ds.foldl (fun n c => n * 10 + digitValue c) acc

/-- Reads a non-empty run of digits. -/
def natural? (cs : List Char) : Option Nat :=
  if cs.isEmpty || !cs.all isDigit then none else some (ofDigits 0 cs)

/-- The largest integer of a signed 64-bit word. -/
def wordMax : Int := 9223372036854775807

/-- The least integer of a signed 64-bit word. -/
def wordMin : Int := -9223372036854775808

/-- A signed 64-bit word holds the integer. -/
def fitsWord (i : Int) : Bool := wordMin ≤ i && i ≤ wordMax

/-- One more than the largest integer of an unsigned 64-bit word. -/
def wordSize : Nat := 18446744073709551616

/-- Reads an integer of a signed 64-bit word: an optional sign and at least one digit. -/
def signed? (cs : List Char) : Option Int :=
  let value : Option Int := match cs with
    | '-' :: ds => (natural? ds).map fun n => -(n : Int)
    | '+' :: ds => (natural? ds).map fun n => (n : Int)
    | ds => (natural? ds).map fun n => (n : Int)
  value.filter fitsWord

/-- Reads an integer below `bound`: an optional plus sign and at least one digit. -/
def unsigned? (bound : Nat) (cs : List Char) : Option Nat :=
  let value := match cs with
    | '+' :: ds => natural? ds
    | ds => natural? ds
  value.filter (· < bound)

/-- The decimal digits of a number, without leading zeros. -/
def natural (n : Nat) : List Char := Nat.toDigits 10 n

/-- The decimal text of an integer: a minus sign when it is negative, then its digits. -/
def integer (i : Int) : List Char :=
  match i with
  | .ofNat n => natural n
  | .negSucc n => '-' :: natural (n + 1)

/-- At least `width` digits, with zeros in front where there are fewer. -/
def padded (width n : Nat) : List Char :=
  let ds := natural n
  List.replicate (width - ds.length) '0' ++ ds

end OAuthGateway.Text
