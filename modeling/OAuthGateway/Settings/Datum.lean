import OAuthGateway.Json.Value
import OAuthGateway.Text.Ascii
import OAuthGateway.Text.Double

/-!
# Settings/Datum — loosely typed values

Files and environments give values whose type is a guess: `7` is a number even where a text is
meant. A `Shape` says what is meant, and `coerce` makes it of what was guessed: a number becomes the
text it is written as, a text the number or truth value it states. What cannot be made of it is
refused.
-/

namespace OAuthGateway

open Text

/-- A real number as configuration may state it. -/
inductive Real where
  | finite (negative : Bool) (size : Double)
  | infinite (negative : Bool)
  | undefined
deriving DecidableEq, Repr

/-- A loosely typed value. -/
inductive Datum where
  | null
  | bool (value : Bool)
  | integer (value : Int)
  | real (value : Real)
  | text (value : String)
  | list (items : List Datum)
  | table (entries : List (String × Datum))
deriving Repr

namespace Real

/-- The text of a real number. -/
def write : Real → List Char
  | finite negative size => (if negative then ['-'] else []) ++ size.write
  | infinite negative => (if negative then ['-'] else []) ++ ['i', 'n', 'f']
  | undefined => ['N', 'a', 'N']

/-- The nearest natural number of a 64-bit word, a half going up; what lies beyond becomes the
bound. -/
def toWord : Real → Nat
  | finite negative size => if negative then 0 else min size.value.roundedUp (wordSize - 1)
  | infinite negative => if negative then 0 else wordSize - 1
  | undefined => 0

/-- The number is not zero. -/
def isNonzero : Real → Bool
  | finite _ size => size.coefficient ≠ 0
  | _ => true

/-- The real number of a decimal; one beyond the greatest is infinite. -/
def ofDecimal (negative : Bool) (coefficient : Nat) (exponent : Int) : Real :=
  match Double.ofDecimal? coefficient exponent with
  | some d => finite negative d
  | none => infinite negative

/-- Reads a decimal with a point, an exponent or both. -/
def decimal? (negative : Bool) (cs : List Char) : Option Real :=
  let whole := cs.takeWhile isDigit
  let rest := cs.dropWhile isDigit
  let (fraction, rest) := match rest with
    | '.' :: rest => (rest.takeWhile isDigit, rest.dropWhile isDigit)
    | rest => ([], rest)
  if whole.isEmpty && fraction.isEmpty then none
  else
    let exponent : Option Int := match rest with
      | [] => some 0
      | e :: rest =>
        if lower e ≠ 'e' then none
        else match rest with
          | '-' :: ds => (natural? ds).map fun n => -(n : Int)
          | '+' :: ds => (natural? ds).map fun n => (n : Int)
          | ds => (natural? ds).map fun n => (n : Int)
    exponent.map fun e => ofDecimal negative (ofDigits 0 (whole ++ fraction)) (e - fraction.length)

/-- Reads a real number: a decimal, `inf`, `infinity` or `nan` in any case, with an optional sign.
-/
def read? (cs : List Char) : Option Real :=
  let (negative, cs) := match cs with
    | '-' :: cs => (true, cs)
    | '+' :: cs => (false, cs)
    | cs => (false, cs)
  if sameFold cs "inf".toList || sameFold cs "infinity".toList then some (infinite negative)
  else if sameFold cs "nan".toList then some undefined
  else decimal? negative cs

end Real

/-! ## Tables -/

namespace Datum

/-- The entries of a table; anything else has none. -/
def entries : Datum → List (String × Datum)
  | table es => es
  | _ => []

/-- A table with an entry changed, or added at the end. -/
def alter (name : String) (f : Option Datum → Datum) (es : List (String × Datum)) :
    List (String × Datum) :=
  if es.any fun e => e.1 == name then
    es.map fun e => if e.1 == name then (name, f (some e.2)) else e
  else es ++ [(name, f none)]

mutual

/-- Lays a value over another: a table goes over a table entry by entry, all else replaces. -/
def laidOver (under : Option Datum) : Datum → Datum
  | table es => table (allLaidOver ((under.map entries).getD []) es)
  | d => d

/-- Lays some entries over others. -/
def allLaidOver (under : List (String × Datum)) : List (String × Datum) → List (String × Datum)
  | [] => under
  | (name, d) :: es => allLaidOver (alter name (fun below => laidOver below d) under) es

end

/-- Lays a value over the one at a path, making tables on the way. -/
def laidOverAt (d : Datum) : List String → Option Datum → Datum
  | [], under => laidOver under d
  | name :: path, under =>
    table (alter name (laidOverAt d path) ((under.map entries).getD []))

end Datum

/-! ## Shapes -/

/-- What a value is meant to be. -/
inductive Shape where
  | text
  | bool
  | natural
  | optional (shape : Shape)
  | record (fields : List (String × Shape))
  | table (shape : Shape)

namespace Datum

/-- The text a scalar is written as. -/
def toText? : Datum → Option String
  | bool b => some (if b then "true" else "false")
  | integer i => some (String.ofList (Text.integer i))
  | real r => some (String.ofList r.write)
  | text s => some s
  | _ => none

/-- The truth value of a scalar. -/
def toBool? : Datum → Option Bool
  | bool b => some b
  | integer i => some (i ≠ 0)
  | real r => some r.isNonzero
  | text s =>
    let word := lowered s
    if ["1", "true", "on", "yes"].contains word then some true
    else if ["0", "false", "off", "no"].contains word then some false else none
  | _ => none

/-- The natural number of a scalar. -/
def toNatural? : Datum → Option Nat
  | bool b => some (if b then 1 else 0)
  | integer i => if 0 ≤ i then some i.toNat else none
  | real r => some r.toWord
  | text s =>
    let word := lowered s
    if ["true", "on", "yes"].contains word then some 1
    else if ["false", "off", "no"].contains word then some 0
    else unsigned? wordSize s.toList
  | _ => none

mutual

/-- Anything as structured data; real numbers become their texts. -/
def toValue : Datum → Json.Value
  | null => .null
  | bool b => .bool b
  | integer i => .int i
  | real r => .text (String.ofList r.write)
  | text s => .text s
  | list ds => .list (listToValues ds)
  | table es => .object (entriesToFields es)

/-- Some values as structured data. -/
def listToValues : List Datum → List Json.Value
  | [] => []
  | d :: ds => d.toValue :: listToValues ds

/-- Some entries as fields. -/
def entriesToFields : List (String × Datum) → List (String × Json.Value)
  | [] => []
  | (name, d) :: es => (name, d.toValue) :: entriesToFields es

end

end Datum

namespace Shape

mutual

/-- Makes what is meant of a value; entries that a record does not know are kept as they are. -/
def coerce : Shape → Datum → Option Json.Value
  | .text, d => d.toText?.map .text
  | .bool, d => d.toBool?.map .bool
  | .natural, d => d.toNatural?.map fun n => .int n
  | .optional _, .null => some .null
  | .optional s, d => s.coerce d
  | .record fields, .table es =>
    (es.mapM fun e => (coerceField fields e.1 e.2).map fun v => (e.1, v)).map .object
  | .record fields, .list ds => (coerceItems fields ds).map .list
  | .table s, .table es =>
    (es.mapM fun e => (s.coerce e.2).map fun v => (e.1, v)).map .object
  | _, _ => none

/-- Makes what is meant of the entry of a name. -/
def coerceField : List (String × Shape) → String → Datum → Option Json.Value
  | [], _, d => some d.toValue
  | (known, s) :: fields, name, d => if known = name then s.coerce d else coerceField fields name d

/-- Makes what is meant of the items of a record written as a list; further items are dropped. -/
def coerceItems : List (String × Shape) → List Datum → Option (List Json.Value)
  | _, [] => some []
  | [], _ :: _ => some []
  | (_, s) :: fields, d :: ds => do
    let v ← s.coerce d
    let vs ← coerceItems fields ds
    return v :: vs

end

end Shape

end OAuthGateway
