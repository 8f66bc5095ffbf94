import OAuthGateway.Settings.Basic
import OAuthGateway.Settings.Toml
import OAuthGateway.Yaml.Reader

/-!
# Settings/Source — settings from a file and the environment

The entries of a file, if one is named, are laid down first, those of the environment over them,
entry by entry. A variable belongs to the settings if its name starts with `GATEWAY_` in any case;
two underscores lead into a table. What a value is is guessed from its text, and put right where its
use is known.
-/

namespace OAuthGateway

open Text Yaml

/-! ## Guessing -/

/-- A real number of a document: a decimal of any form, or infinity and undefined behind a point. -/
def Datum.ofPlainReal? (cs : List Char) : Option (Option Datum) :=
  let unsigned := match cs with
    | '+' :: cs | '-' :: cs => cs
    | cs => cs
  if [".inf", ".Inf", ".INF"].any (·.toList = unsigned) ||
      [".nan", ".NaN", ".NAN"].any (·.toList = cs) then some none
  else if cs.any isDigit then (Real.read? cs).map fun r => some (.real r)
  else none

/-- A number of another base, behind its mark. -/
def Datum.ofMarked? (cs : List Char) : Option Datum :=
  let inBase (base : Nat) (ds : List Char) : Option Datum := do
    let (negative, ds) := match ds with
      | '-' :: ds => (true, ds)
      | '+' :: ds => (false, ds)
      | ds => (false, ds)
    let values ← ds.mapM hexValue?
    let n := values.foldl (fun n d => n * base + d) 0
    let i : Int := if negative then -n else n
    if !values.isEmpty && values.all (· < base) && fitsWord i then some (.integer i) else none
  match cs with
  | '0' :: 'x' :: ds => inBase 16 ds
  | '0' :: 'o' :: ds => inBase 8 ds
  | _ => none

/-- What a plain scalar of a document is meant to be; none if it is a number without a value. -/
def Datum.ofPlain? (s : String) : Option Datum :=
  let cs := s.toList
  if let some d := ofMarked? cs then some d
  else if ["", "~", "null"].contains s then some .null
  else if s = "true" then some (.bool true)
  else if s = "false" then some (.bool false)
  else if let some i := signed? cs then some (.integer i)
  else match ofPlainReal? cs with
    | some d => d
    | none => some (.text s)

/-- The key a scalar stands for in a table. -/
def Datum.key? : Datum → Option String
  | .integer i => some (String.ofList (Text.integer i))
  | .bool b => some (if b then "true" else "false")
  | .text s => some s
  | _ => none

/-- The key a node stands for in a table. A real number keeps the text it is written in. -/
def Datum.keyOfNode? : Node → Option String
  | .scalar s true =>
    if (Real.read? s.toList).isSome && (signed? s.toList).isNone then some s
    else Datum.ofPlain? s >>= Datum.key?
  | .scalar s false => some s
  | _ => none

/-- What the value of a variable is meant to be. -/
def Datum.ofVariable (s : String) : Datum :=
  let word := lowered s
  if word = "true" then .bool true
  else if word = "false" then .bool false
  else if let some i := signed? s.toList then .integer i
  else match Real.read? s.toList with
    | some r => .real r
    | none => .text s

mutual

/-- A document as a loosely typed value. -/
def Yaml.Node.toDatum? : Node → Option Datum
  | .scalar text plain => if plain then Datum.ofPlain? text else some (.text text)
  | .sequence items => (itemsToData? items).map .list
  | .mapping entries => (entriesToData? entries).map .table

/-- Some items as loosely typed values. -/
def Yaml.itemsToData? : List Node → Option (List Datum)
  | [] => some []
  | n :: ns => do
    let d ← n.toDatum?
    let ds ← itemsToData? ns
    return d :: ds

/-- Some entries as those of a table, in which no key may occur twice. -/
def Yaml.entriesToData? : List (Node × Node) → Option (List (String × Datum))
  | [] => some []
  | (key, value) :: rest => do
    let key ← Datum.keyOfNode? key
    let d ← value.toDatum?
    let ds ← entriesToData? rest
    if ds.any fun e => e.1 == key then none else return (key, d) :: ds

end

/-! ## Paths -/

/-- The path that a name with dots states; one that is none stands for itself. -/
def settingsPath (name : String) : List String :=
  let parts := name.toList.splitOnP (· = '.')
  let isPart (cs : List Char) : Bool :=
    !cs.isEmpty && cs.all fun c => isAsciiLetter c || isDigit c || c = '_' || c = '-'
  if parts.all isPart then parts.map String.ofList else [name]

/-- Lays named values over a table, each at its path. -/
def Datum.layOver (under : Datum) (entries : List (String × Datum)) : Datum :=
  entries.foldl (fun under (name, d) => Datum.laidOverAt d (settingsPath name) (some under)) under

/-! ## Files -/

/-- A settings file: its extension and its text. -/
structure SettingsFile where
  extension : String
  text : String
deriving DecidableEq, Repr

/-- The entries of a settings file. A document without content has none. -/
def SettingsFile.entries? (file : SettingsFile) : Option (List (String × Datum)) :=
  if ["yaml", "yml"].contains file.extension then
    match Yaml.read? file.text with
    | some [] => some []
    | some [node] =>
      match node.toDatum? with
      | some (.table es) => some es
      | _ => none
    | _ => none
  else if file.extension = "toml" then Toml.read? file.text
  else none

/-! ## The environment -/

/-- How the names of the gateway's variables start. -/
def variableStart : List Char := "gateway_".toList

/-- A name with a dot for every two underscores. -/
def dotted : List Char → List Char
  | '_' :: '_' :: cs => '.' :: dotted cs
  | c :: cs => c :: dotted cs
  | [] => []

/-- The entry that a variable makes, if it is one of the gateway's. -/
def Datum.entryOfVariable? (name value : String) : Option (String × Datum) :=
  (after? variableStart (lowered name).toList).map fun rest =>
    (String.ofList (dotted rest), .ofVariable value)

/-! ## Settings -/

namespace Settings

/-- What the entries of settings are meant to be. -/
def shape : Shape :=
  .record [("port", .natural), ("routes_file", .text), ("upstream_timeout", .natural),
    ("max_body_bytes", .natural), ("admin", .record [("api_key", .optional .text)]),
    ("databases", .table (.record [("url", .text), ("max_connections", .natural),
      ("query_timeout", .text)])),
    ("oauth", .record [("database", .text), ("access_token_timeout", .text),
      ("authorization_code_timeout", .text),
      ("refresh_token", .record [("timeout", .text), ("active", .bool)])])]

/-- The settings that a loosely typed table states. -/
def ofDatum? (d : Datum) : Option Settings := shape.coerce d >>= schema.format.ofValue?

/-- Loads the settings from the named file, if there is one, and the environment. -/
def load (environment : List (String × String)) (file : Option SettingsFile) :
    Except SettingsFault Settings :=
  let fileEntries := match file with
    | none => some []
    | some file => file.entries?
  let stated := environment.filterMap fun (name, value) => Datum.entryOfVariable? name value
  match fileEntries with
  | none => .error .unreadable
  | some entries =>
    match ofDatum? (((Datum.table []).layOver entries).layOver stated) with
    | some settings => .ok settings
    | none => .error .unreadable

end Settings

end OAuthGateway
