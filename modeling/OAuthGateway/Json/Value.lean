import OAuthGateway.Text.Decimal

/-!
# Json/Value — structured data, and its compact text

A `Value` is what JSON and its relatives write: null, truth values, numbers, texts, lists and
objects, the fields of an object in order and with their repetitions. `render` writes one without
blanks; `quoted` escapes quotes, backslashes and control characters and nothing else.
-/

namespace OAuthGateway.Json

/-- A number: an integer, or a coefficient times a power of ten. -/
inductive Number where
  | integer (value : Int)
  | decimal (coefficient : Int) (exponent : Int)
deriving DecidableEq, Repr

/-- Structured data. -/
inductive Value where
  | null
  | bool (value : Bool)
  | number (value : Number)
  | text (value : String)
  | list (items : List Value)
  | object (fields : List (String × Value))
deriving Repr

namespace Value

instance : Inhabited Value := ⟨null⟩

/-- An integer as a value. -/
def int (i : Int) : Value := number (.integer i)

/-- The first field of an object with the name. -/
def field? (name : String) : Value → Option Value
  | object fields => (fields.find? fun f => f.1 == name).map (·.2)
  | _ => none

end Value

/-- The text of one character inside quotes. -/
def escaped (c : Char) : List Char :=
  if c = '"' then ['\\', '"']
  else if c = '\\' then ['\\', '\\']
  else if c = '\n' then ['\\', 'n']
  else if c = '\r' then ['\\', 'r']
  else if c = '\t' then ['\\', 't']
  else if c = '\x08' then ['\\', 'b']
  else if c = '\x0c' then ['\\', 'f']
  else if c.toNat < 32 then
    ['\\', 'u', '0', '0', Text.hexDigit (c.toNat / 16), Text.hexDigit (c.toNat % 16)]
  else [c]

/-- A text in quotes. -/
def quoted (s : String) : List Char := '"' :: (s.toList.flatMap escaped ++ ['"'])

/-- The text of a number. -/
def Number.render : Number → List Char
  | .integer i => Text.integer i
  | .decimal m e => Text.integer m ++ 'e' :: Text.integer e

/-- Parts with a separator between each two. -/
def joined (separator : Char) : List (List Char) → List Char
  | [] => []
  | [part] => part
  | part :: parts => part ++ separator :: joined separator parts

mutual

/-- The compact text of a value. -/
def Value.render : Value → List Char
  | .null => ['n', 'u', 'l', 'l']
  | .bool true => ['t', 'r', 'u', 'e']
  | .bool false => ['f', 'a', 'l', 's', 'e']
  | .number n => n.render
  | .text s => quoted s
  | .list items => '[' :: (joined ',' (renderItems items) ++ [']'])
  | .object fields => '\x7b' :: (joined ',' (renderFields fields) ++ ['\x7d'])

/-- The texts of some values. -/
def renderItems : List Value → List (List Char)
  | [] => []
  | v :: vs => v.render :: renderItems vs

/-- The texts of some fields. -/
def renderFields : List (String × Value) → List (List Char)
  | [] => []
  | (name, v) :: fs => (quoted name ++ ':' :: v.render) :: renderFields fs

end

end OAuthGateway.Json
