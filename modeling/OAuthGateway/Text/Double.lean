import OAuthGateway.Text.Decimal

/-!
# Text/Double — decimal numbers in double precision

A `Double` is zero or a coefficient of 53 bits times a power of two. `ofDecimal?` rounds a decimal
number to the nearest one, ties to the even coefficient, and gives up beyond the greatest. `digits`
is the shortest decimal that reads back as the same double, and of several the nearest; `write` puts
it in positional notation. All arithmetic is on exact fractions.
-/

namespace OAuthGateway.Text

/-- A nonnegative number of double precision: a coefficient times a power of two. -/
structure Double where
  coefficient : Nat
  exponent : Int
deriving DecidableEq, Repr

/-- A nonnegative fraction. -/
structure Fraction where
  numerator : Nat
  denominator : Nat
deriving DecidableEq, Repr

namespace Fraction

/-- A number times a power of a base. -/
def scaled (n base : Nat) (exponent : Int) : Fraction :=
  if exponent < 0 then ⟨n, Nat.pow base exponent.natAbs⟩
  else ⟨n * Nat.pow base exponent.toNat, 1⟩

/-- The nearest integer; a half goes to the even neighbour. -/
def rounded (f : Fraction) : Nat :=
  let q := f.numerator / f.denominator
  let twice := 2 * (f.numerator % f.denominator)
  if f.denominator < twice || (twice = f.denominator && q % 2 = 1) then q + 1 else q

/-- The nearest integer; a half goes up. -/
def roundedUp (f : Fraction) : Nat := (2 * f.numerator + f.denominator) / (2 * f.denominator)

/-- The fraction divided by a power of a base. -/
def per (f : Fraction) (base : Nat) (exponent : Int) : Fraction :=
  if exponent < 0 then ⟨f.numerator * Nat.pow base exponent.natAbs, f.denominator⟩
  else ⟨f.numerator, f.denominator * Nat.pow base exponent.toNat⟩

/-- One fraction is at most the other. -/
def le (f g : Fraction) : Bool := f.numerator * g.denominator ≤ g.numerator * f.denominator

/-- One fraction is less than the other. -/
def lt (f g : Fraction) : Bool := f.numerator * g.denominator < g.numerator * f.denominator

/-- The power of ten that the first digit of a positive fraction stands for. -/
def magnitude (f : Fraction) : Int :=
  let rec below : Nat → Nat → Int
    | 0, _ => 0
    | fuel + 1, n => if f.denominator ≤ n then 0 else below fuel (n * 10) - 1
  if f.denominator ≤ f.numerator then (natural (f.numerator / f.denominator)).length - 1
  else below f.denominator.log2.succ f.numerator

end Fraction

namespace Double

/-- The least exponent. -/
def leastExponent : Int := -1074

/-- The greatest exponent. -/
def greatestExponent : Int := 971

/-- The value of a double. -/
def value (d : Double) : Fraction := Fraction.scaled d.coefficient 2 d.exponent

/-- The double nearest to a coefficient times a power of ten; none if it is beyond the greatest. -/
def ofDecimal? (coefficient : Nat) (exponent : Int) : Option Double :=
  let size : Int := (natural coefficient).length + exponent
  if coefficient = 0 || size < -400 then some ⟨0, leastExponent⟩
  else if 400 < size then none
  else
    let f := Fraction.scaled coefficient 10 exponent
    let bits : Int := (f.numerator.log2 : Int) - f.denominator.log2
    let low := max (bits - 53) leastExponent
    let candidate := (f.per 2 low).rounded
    let (c, e) := if candidate < Nat.pow 2 53 then (candidate, low)
      else ((f.per 2 (low + 1)).rounded, low + 1)
    let (c, e) := if c < Nat.pow 2 53 then (c, e) else (Nat.pow 2 52, e + 1)
    if greatestExponent < e then none else some ⟨c, e⟩

/-- The decimals of a grid that read back as a positive double, the nearer one first. -/
def onGrid (d : Double) (step : Int) : List Nat :=
  let quarter (n : Nat) : Fraction := Fraction.scaled n 2 (d.exponent - 2)
  let narrow := d.coefficient = Nat.pow 2 52 && leastExponent < d.exponent
  let least := quarter (4 * d.coefficient - if narrow then 1 else 2)
  let most := quarter (4 * d.coefficient + 2)
  let readsBack (n : Nat) : Bool :=
    let f := Fraction.scaled n 10 step
    if d.coefficient % 2 = 0 then least.le f && f.le most else least.lt f && f.lt most
  let scaledValue := d.value.per 10 step
  let down := scaledValue.numerator / scaledValue.denominator
  let near := scaledValue.rounded
  let other := if near = down then down + 1 else down
  [near, other].filter readsBack

/-- The shortest decimal that reads back as a positive double: a coefficient and a power of ten. -/
def digits (d : Double) : Nat × Int :=
  let top := d.value.magnitude + 1
  let rec search : Nat → Int → Nat × Int
    | 0, step => (d.value.per 10 step |>.rounded, step)
    | fuel + 1, step =>
      match onGrid d step with
      | n :: _ => (n, step)
      | [] => search fuel (step - 1)
  search 18 top

/-- A coefficient times a power of ten in positional notation. -/
def positional (coefficient : Nat) (exponent : Int) : List Char :=
  let ds := natural coefficient
  if 0 ≤ exponent then ds ++ List.replicate exponent.toNat '0'
  else
    let places := exponent.natAbs
    let padding := List.replicate (places + 1 - ds.length) '0'
    let ds := padding ++ ds
    ds.take (ds.length - places) ++ '.' :: ds.drop (ds.length - places)

/-- The text of a double. -/
def write (d : Double) : List Char :=
  if d.coefficient = 0 then ['0'] else positional d.digits.1 d.digits.2

end Double

end OAuthGateway.Text
