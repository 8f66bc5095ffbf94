import OAuthGateway.Json.Reader
import OAuthGateway.Time.Rfc3339

/-!
# Json/Record — records described by their fields

A `Format` says how one kind of field is read from tokens, taken from a value, and written; a record
is a list of named fields, each with its format and, if it may be missing, the value it then has.
From such a list come the record's reader, `Record.read`, its decoder, `Record.ofValue?`, and its
writer, `Record.toValue`. A record is written as an object whose absent fields are left out, and may
also be read from a list of its fields in order. Unknown fields are skipped; a known one may occur
only once.
-/

namespace OAuthGateway.Json

/-- How one kind of field is read, decoded and written; a value written as `none` is left out. -/
structure Format (α : Type) where
  read : Reader α
  ofValue? : Value → Option α
  toValue : α → Option Value

namespace Format

/-- A text. -/
def text : Format String where
  read
    | .text (some s) :: rest => .ok (s, rest)
    | ts => .error (wrongShape ts)
  ofValue?
    | .text s => some s
    | _ => none
  toValue s := some (.text s)

/-- An integer of a signed 64-bit word. -/
def integer : Format Int where
  read
    | .number (some (.integer i)) :: rest =>
      if Text.fitsWord i then .ok (i, rest) else .error .shape
    | ts => .error (wrongShape ts)
  ofValue?
    | .number (.integer i) => if Text.fitsWord i then some i else none
    | _ => none
  toValue i := some (.int i)

/-- A natural number below a bound. -/
def natural (bound : Nat) : Format Nat where
  read
    | .number (some (.integer i)) :: rest =>
      if 0 ≤ i && i.toNat < bound then .ok (i.toNat, rest) else .error .shape
    | ts => .error (wrongShape ts)
  ofValue?
    | .number (.integer i) => if 0 ≤ i && i.toNat < bound then some i.toNat else none
    | _ => none
  toValue n := some (.int n)

/-- A truth value. -/
def bool : Format Bool where
  read
    | .bool b :: rest => .ok (b, rest)
    | ts => .error (wrongShape ts)
  ofValue?
    | .bool b => some b
    | _ => none
  toValue b := some (.bool b)

/-- An instant, as a timestamp. -/
def instant : Format Time.Instant where
  read
    | .text (some s) :: rest =>
      match Time.Rfc3339.read? s.toList with
      | some t => .ok (t, rest)
      | none => .error .shape
    | ts => .error (wrongShape ts)
  ofValue?
    | .text s => Time.Rfc3339.read? s.toList
    | _ => none
  toValue t := some (.text (Time.Rfc3339.write t))

/-- A choice between names. It may also be read from an object whose only field bears the name and
is null. -/
def named {α : Type} (ofName? : String → Option α) (name : α → String) : Format α where
  read
    | .text (some s) :: rest =>
      match ofName? s with
      | some a => .ok (a, rest)
      | none => .error .shape
    | .openBrace :: .text (some s) :: rest => do
      match ofName? s with
      | none => throw .shape
      | some a =>
        match ← expect .colon rest with
        | .null :: rest => do
          let rest ← expect .closeBrace rest
          return (a, rest)
        | rest => throw (wrongShape rest)
    | .openBrace :: rest => .error (wrongShape rest)
    | _ => .error .grammar
  ofValue?
    | .text s => ofName? s
    | .object [(s, .null)] => ofName? s
    | _ => none
  toValue a := some (.text (name a))

/-- A field that may be null, and is left out when it is absent. -/
def optional {α : Type} (f : Format α) : Format (Option α) where
  read
    | .null :: rest => .ok (none, rest)
    | ts => do
      let (v, rest) ← f.read ts
      return (some v, rest)
  ofValue?
    | .null => some none
    | v => (f.ofValue? v).map some
  toValue v := v.bind f.toValue

/-- Reads the items of a list after its first, up to its end. -/
def items {α : Type} (read : Reader α) : Nat → List α → Reader (List α)
  | _, acc, .closeBracket :: rest => .ok (acc.reverse, rest)
  | fuel + 1, acc, .comma :: rest => do
    let (v, rest) ← match rest with
      | .closeBracket :: _ => throw .grammar
      | ts => read ts
    items read fuel (v :: acc) rest
  | _, _, _ => .error .grammar

/-- A list. -/
def list {α : Type} (f : Format α) : Format (List α) where
  read
    | .openBracket :: .closeBracket :: rest => .ok ([], rest)
    | .openBracket :: rest => do
      let (v, more) ← f.read rest
      items f.read more.length [v] more
    | ts => .error (wrongShape ts)
  ofValue?
    | .list vs => vs.mapM f.ofValue?
    | _ => none
  toValue vs := some (.list (vs.filterMap f.toValue))

/-- Adds an entry to a table, in place of an earlier one of the same name. -/
def entered {α : Type} (name : String) (a : α) (table : List (String × α)) : List (String × α) :=
  (table.filter fun e => e.1 != name) ++ [(name, a)]

/-- Reads the entries of a table, from a name up to its end. -/
def entries {α : Type} (read : Reader α) : Nat → List (String × α) → Reader (List (String × α))
  | fuel + 1, acc, .text (some name) :: rest => do
    let (a, rest) ← expect .colon rest >>= read
    match rest with
    | .closeBrace :: rest => return (entered name a acc, rest)
    | .comma :: rest => entries read fuel (entered name a acc) rest
    | _ => throw .grammar
  | _, _, _ => .error .grammar

/-- A table: an object with any names and values of one kind. -/
def table {α : Type} (f : Format α) : Format (List (String × α)) where
  read
    | .openBrace :: .closeBrace :: rest => .ok ([], rest)
    | .openBrace :: rest => entries f.read rest.length [] rest
    | ts => .error (wrongShape ts)
  ofValue?
    | .object fields => fields.foldlM (fun acc (name, v) =>
      (f.ofValue? v).map fun a => entered name a acc) []
    | _ => none
  toValue as := some (.object (as.filterMap fun (name, a) => (f.toValue a).map fun v => (name, v)))

end Format

/-- A named field of a record; a field without a value for its absence is required. -/
structure Field where
  name : String
  type : Type
  format : Format type
  absent : Option type

namespace Field

/-- A field that has to be there. -/
def required (name : String) {α : Type} (f : Format α) : Field := ⟨name, α, f, none⟩

/-- A field that may be missing, which is the same as null. -/
def optional (name : String) {α : Type} (f : Format α) : Field :=
  ⟨name, Option α, f.optional, some none⟩

/-- A field with a value for when it is missing. -/
def withDefault (name : String) {α : Type} (f : Format α) (value : α) : Field :=
  ⟨name, α, f, some value⟩

end Field

/-- The values of some fields. -/
@[reducible] def Record : List Field → Type
  | [] => Unit
  | f :: fs => f.type × Record fs

/-- What has been read of some fields. -/
def Slots : List Field → Type
  | [] => Unit
  | f :: fs => Option f.type × Slots fs

namespace Slots

/-- Nothing read yet. -/
def empty : (fields : List Field) → Slots fields
  | [] => ()
  | _ :: fs => (none, empty fs)

/-- The record, with its missing fields filled in, unless one of them is required. -/
def record? : (fields : List Field) → Slots fields → Option (Record fields)
  | [], () => some ()
  | f :: fs, (slot, slots) => do
    let value ← slot <|> f.absent
    let values ← record? fs slots
    return (value, values)

/-- Reads the value of the field named `key`; a second value for it is refused unread. -/
def assign : (fields : List Field) → Slots fields → String → Reader (Slots fields)
  | [], (), _ => fun ts => do
    let rest ← expect .colon ts >>= skip
    return ((), rest)
  | f :: fs, (slot, slots), key => fun ts =>
    if key = f.name then
      match slot with
      | some _ => throw .shape
      | none => do
        let (value, rest) ← expect .colon ts >>= f.format.read
        return ((some value, slots), rest)
    else do
      let (slots, rest) ← assign fs slots key ts
      return ((slot, slots), rest)

/-- Reads the members of an object, from a name up to its end. -/
def members (fields : List Field) : Nat → Slots fields → Reader (Slots fields)
  | fuel + 1, slots, .text (some key) :: rest => do
    let (slots, rest) ← assign fields slots key rest
    match rest with
    | .closeBrace :: rest => return (slots, rest)
    | .comma :: rest => members fields fuel slots rest
    | _ => throw .grammar
  | _, _, _ => .error .grammar

/-- Reads the values of the fields in order, up to the end of a list. -/
def elements : (fields : List Field) → (first : Bool) → Reader (Slots fields)
  | [], _ => fun ts => do
    let rest ← expect .closeBracket ts
    return ((), rest)
  | f :: fs, first => fun ts =>
    match ts with
    | .closeBracket :: rest => return (empty (f :: fs), rest)
    | ts => do
      let ts ← if first then pure ts else expect .comma ts
      let (value, rest) ← match ts with
        | .closeBracket :: _ => throw .grammar
        | ts => f.format.read ts
      let (slots, rest) ← elements fs false rest
      return ((some value, slots), rest)

/-- Takes the value of the field named `key`. -/
def assignValue? : (fields : List Field) → Slots fields → String → Value → Option (Slots fields)
  | [], (), _, _ => some ()
  | f :: fs, (slot, slots), key, v =>
    if key = f.name then
      match slot with
      | some _ => none
      | none => (f.format.ofValue? v).map fun value => (some value, slots)
    else (assignValue? fs slots key v).map fun slots => (slot, slots)

/-- Takes the values of the fields in order. -/
def elementValues? : (fields : List Field) → List Value → Option (Slots fields)
  | fields, [] => some (empty fields)
  | [], _ :: _ => none
  | f :: fs, v :: vs => do
    let value ← f.format.ofValue? v
    let slots ← elementValues? fs vs
    return (some value, slots)

end Slots

namespace Record

/-- Reads a record. -/
def read (fields : List Field) : Reader (Record fields)
  | .openBrace :: .closeBrace :: rest => finish (Slots.empty fields) rest
  | .openBrace :: rest => do
    let (slots, rest) ← Slots.members fields rest.length (Slots.empty fields) rest
    finish slots rest
  | .openBracket :: rest => do
    let (slots, rest) ← Slots.elements fields true rest
    finish slots rest
  | ts => .error (wrongShape ts)
where
  /-- Fills in what is missing. -/
  finish (slots : Slots fields) (rest : List Token) : Except Fault (Record fields × List Token) :=
    match Slots.record? fields slots with
    | some record => .ok (record, rest)
    | none => .error .shape

/-- Takes a record from a value. -/
def ofValue? (fields : List Field) : Value → Option (Record fields)
  | .object members => do
    let slots ← members.foldlM (fun slots (key, v) => Slots.assignValue? fields slots key v)
      (Slots.empty fields)
    Slots.record? fields slots
  | .list values => do
    let slots ← Slots.elementValues? fields values
    Slots.record? fields slots
  | _ => none

/-- The written fields of a record. -/
def members : (fields : List Field) → Record fields → List (String × Value)
  | [], () => []
  | f :: fs, (value, values) =>
    match f.format.toValue value with
    | some v => (f.name, v) :: members fs values
    | none => members fs values

/-- Writes a record as an object. -/
def toValue (fields : List Field) (record : Record fields) : Value :=
  .object (members fields record)

end Record

/-- A type whose values are written as records. -/
structure Schema (α : Type) where
  fields : List Field
  ofRecord : Record fields → α
  toRecord : α → Record fields

namespace Schema

variable {α : Type} (s : Schema α)

/-- The format of a record of the schema. -/
def format : Format α where
  read ts := do
    let (record, rest) ← Record.read s.fields ts
    return (s.ofRecord record, rest)
  ofValue? v := (Record.ofValue? s.fields v).map s.ofRecord
  toValue a := some (Record.toValue s.fields (s.toRecord a))

/-- Writes a record of the schema. -/
def toValue (a : α) : Value := Record.toValue s.fields (s.toRecord a)

end Schema

end OAuthGateway.Json
