/-!
# Yaml/Node — documents as trees of texts

A scalar is a text and whether it stands without quotes: what it means is decided by the one who
asks for it. The views below are strict about structure and lenient about scalars: any scalar is a
text, the plain words `null` and `~` and the empty text are an absence, and `true` and `false` are
truth values.
-/

namespace OAuthGateway.Yaml

/-- A document: scalars, sequences, and mappings with their entries in order. -/
inductive Node where
  | scalar (text : String) (plain : Bool)
  | sequence (items : List Node)
  | mapping (entries : List (Node × Node))
deriving Repr

namespace Node

/-- The node of an empty document or a missing value. -/
def nothing : Node := scalar "" true

instance : Inhabited Node := ⟨nothing⟩

/-- A plain scalar without characters. -/
def isNothing : Node → Bool
  | scalar text plain => plain && text = ""
  | _ => false

/-- A plain scalar that stands for an absence. -/
def isNull : Node → Bool
  | scalar text plain => plain && ["", "~", "null", "Null", "NULL"].contains text
  | _ => false

/-- The text of any scalar. -/
def text? : Node → Option String
  | scalar text _ => some text
  | _ => none

/-- The truth value of a plain scalar. -/
def bool? : Node → Option Bool
  | scalar text true =>
    if ["true", "True", "TRUE"].contains text then some true
    else if ["false", "False", "FALSE"].contains text then some false else none
  | _ => none

/-- The items of a sequence; a missing one has none. -/
def items? : Node → Option (List Node)
  | sequence items => some items
  | node => if node.isNothing then some [] else none

/-- The entries of a mapping with their keys as texts; a missing one has none. -/
def entries? : Node → Option (List (String × Node))
  | mapping entries => entries.mapM fun (key, value) => key.text?.map fun k => (k, value)
  | node => if node.isNothing then some [] else none

end Node

end OAuthGateway.Yaml
