import OAuthGateway.Json.Record
import OAuthGateway.Route.Table
import OAuthGateway.Yaml.Reader

/-!
# Route/File — routes as records and as files

A route is a record: name, path and service are required, the rest has defaults. A route file is a
document with the list of routes; one that does not exist holds none, and one that cannot be read or
is not such a document is an error.
-/

namespace OAuthGateway

open Json Yaml

/-- The format of a mode. -/
def AuthMode.format : Format AuthMode := .named AuthMode.ofName? AuthMode.name

/-- The schema of a route. -/
def Route.schema : Schema Route where
  fields := [.required "name" .text, .required "path" .text, .required "upstream" .text,
    .withDefault "auth" AuthMode.format .anyone, .optional "scope" .text,
    .optional "methods" (.list .text), .withDefault "strip_prefix" .bool false]
  ofRecord := fun (a, b, c, d, e, f, g, ()) => ⟨a, b, c, d, e, f, g⟩
  toRecord r := (r.name, r.path, r.service, r.auth, r.scope, r.methods, r.stripsPath, ())

namespace Yaml.Node

/-- The value of a name that occurs at most once. -/
def once? (name : String) (entries : List (String × Node)) : Option (Option Node) :=
  match entries.filter fun e => e.1 == name with
  | [] => some none
  | [(_, value)] => some (some value)
  | _ => none

/-- A view of a node that may be missing or null. -/
def orNull? {α : Type} (view : Node → Option α) : Option Node → Option (Option α)
  | none => some none
  | some node => if node.isNull then some none else (view node).map some

/-- A view of a node that may be missing. -/
def orElse? {α : Type} (view : Node → Option α) (absent : α) : Option Node → Option α
  | none => some absent
  | some node => view node

end Yaml.Node

/-- Takes a route from a document. -/
def Route.ofNode? (node : Node) : Option Route := do
  let entries ← node.entries?
  let field (name : String) : Option (Option Node) := Node.once? name entries
  let name ← (← field "name") >>= Node.text?
  let path ← (← field "path") >>= Node.text?
  let service ← (← field "upstream") >>= Node.text?
  let auth ← (← field "auth") |> Node.orElse? (fun n => n.text? >>= AuthMode.ofName?) .anyone
  let scope ← (← field "scope") |> Node.orNull? Node.text?
  let methods ← (← field "methods") |> Node.orNull? fun n => n.items? >>= List.mapM Node.text?
  let stripsPath ← (← field "strip_prefix") |> Node.orElse? Node.bool? false
  return ⟨name, path, service, auth, scope, methods, stripsPath⟩

/-- The routes of a document. -/
def Route.listOfNode? (node : Node) : Option (List Route) := do
  let entries ← node.entries?
  match ← Node.once? "routes" entries with
  | none => some []
  | some routes => do
    let items ← routes.items?
    items.mapM Route.ofNode?

/-- What is found where a file is looked for. -/
inductive FileContent where
  | missing
  | unreadable
  | text (content : String)
deriving DecidableEq, Repr

namespace RouteTable

/-- Reads the text of a route file; a file without a document holds no routes. -/
def ofText (text : String) : Except RouteFault RouteTable :=
  match read? text with
  | none => .error .malformed
  | some [] => .ok empty
  | some [node] =>
    match Route.listOfNode? node with
    | some routes => ofRoutes routes
    | none => .error .malformed
  | some _ => .error .malformed

/-- Loads the routes of a gateway. -/
def load : FileContent → Except RouteFault RouteTable
  | .missing => .ok empty
  | .unreadable => .error .unreadable
  | .text content => ofText content

end RouteTable

end OAuthGateway
