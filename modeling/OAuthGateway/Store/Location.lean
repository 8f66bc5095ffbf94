import OAuthGateway.Http.Form

/-!
# Store/Location — where a database lives

The address of a database names a file, or memory, behind the scheme `sqlite:`, which may be left
out. Options may follow as in a query; one that is not known makes the address one of no database.
-/

namespace OAuthGateway

open Text Http

/-- Where a database lives. -/
inductive StoreLocation where
  | memory
  | file (path : String)
deriving DecidableEq, Repr

namespace StoreLocation

/-- A text without a repeated beginning. -/
def withoutStart (start : List Char) : (fuel : Nat) → List Char → List Char
  | 0, cs => cs
  | fuel + 1, cs =>
    match after? start cs with
    | some rest => withoutStart start fuel rest
    | none => cs

/-- An address without its scheme. -/
def withoutScheme (address : List Char) : List Char :=
  let rest := withoutStart "sqlite://".toList address.length address
  withoutStart "sqlite:".toList rest.length rest

/-- The options that an address may have. -/
def isOption (p : Parameter) : Bool :=
  (p.name == "mode" && ["rw", "rwc", "memory"].contains p.value) ||
    (p.name == "cache" && ["private", "shared"].contains p.value) ||
    (p.name == "immutable" && ["true", "1", "false", "0"].contains p.value)

/-- Reads an address. -/
def read? (address : String) : Option StoreLocation := do
  let rest := withoutScheme address.toList
  let (place, options) := match cut? '?' rest with
    | some (place, query) => (place, Parameter.listOfQuery (String.ofList query))
    | none => (rest, [])
  if !options.all isOption then none
  else if place = ":memory:".toList || options.contains ⟨"mode", "memory"⟩ then some memory
  else (percentDecoded? place).map fun path => file (String.ofList path)

end StoreLocation

end OAuthGateway
