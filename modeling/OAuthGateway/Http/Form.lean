import OAuthGateway.Text.Parts
import OAuthGateway.Text.Percent

/-!
# Http/Form — the parameters of a query

A query is a list of parameters between ampersands, each a name and a value around the first equals
sign. In both a plus sign stands for a blank and bytes may be escaped. Empty parameters are none.
-/

namespace OAuthGateway.Http

open Text

/-- A parameter: its name and its value. -/
structure Parameter where
  name : String
  value : String
deriving DecidableEq, Repr

namespace Parameter

/-- A name or a value with its blanks and escapes written out. -/
def decoded (cs : List Char) : String :=
  String.ofList (percentReplaced (cs.map fun c => if c = '+' then ' ' else c))

/-- The parameter of a text; without an equals sign its value is empty. -/
def ofPart (part : List Char) : Parameter :=
  match cut? '=' part with
  | some (name, value) => ⟨decoded name, decoded value⟩
  | none => ⟨decoded part, ""⟩

/-- The parameters of a query, in order. -/
def listOfQuery (query : String) : List Parameter :=
  ((query.toList.splitOnP (· = '&')).filter fun part => !part.isEmpty).map ofPart

/-- The value of a name that may occur once: `none` if it occurs again. -/
def once? (name : String) (ps : List Parameter) : Option (Option String) :=
  match ps.filter fun p => p.name == name with
  | [] => some none
  | [p] => some (some p.value)
  | _ => none

end Parameter

end OAuthGateway.Http
