import OAuthGateway.Http.Target
import OAuthGateway.Text.Ascii

/-!
# Http/Message — requests, responses and their headers

Headers are a list of named values: a name may stand several times, and the order of its values is
part of the message. Names are compared in lower case and kept that way. A request that is still
arriving has its body as a `Stream`, which may break off; a received one has all of its bytes.
-/

namespace OAuthGateway.Http

/-- The characters of a token, which methods and header names are. -/
def isTokenChar (c : Char) : Bool :=
  Text.isDigit c || Text.isAsciiLetter c || "!#$%&'*+-.^_`|~".toList.contains c

/-- A token: one or more of its characters. -/
def isToken (s : String) : Bool := !s.toList.isEmpty && s.toList.all isTokenChar

/-- A header field. -/
structure Header where
  name : String
  value : String
deriving DecidableEq, Repr

/-- The header fields of a message, in order. -/
abbrev Headers := List Header

namespace Header

/-- What a header value may consist of: no control character but the tab. -/
def isLegalValue (s : String) : Bool :=
  s.toList.all fun c => c = '\t' || (32 ≤ c.toNat && c.toNat ≠ 127)

/-- A value that can be read as text: printable ASCII and tabs. -/
def isVisible (s : String) : Bool :=
  s.toList.all fun c => c = '\t' || (32 ≤ c.toNat && c.toNat < 127)

/-- A header field of a name in any case; none if the name is no token or the value is not legal. -/
def of? (name value : String) : Option Header :=
  if isToken name && isLegalValue value then some ⟨Text.lowered name, value⟩ else none

end Header

namespace Headers

/-- The first value of a name. -/
def first? (name : String) (hs : Headers) : Option String :=
  (hs.find? fun h => h.name == name).map (·.value)

/-- All values of a name, in order. -/
def values (name : String) (hs : Headers) : List String :=
  (hs.filter fun h => h.name == name).map (·.value)

/-- The headers without those of a name. -/
def without (name : String) (hs : Headers) : Headers := hs.filter fun h => h.name != name

/-- The headers with one value for a name. -/
def set (name value : String) (hs : Headers) : Headers := hs.without name ++ [⟨name, value⟩]

/-- The headers with one more value for a name, behind those that it has. -/
def add (h : Header) (hs : Headers) : Headers := hs ++ [h]

theorem first?_eq_head?_values (name : String) (hs : Headers) :
    first? name hs = (values name hs).head? := by
  rw [first?, values, List.head?_map, List.head?_filter]

theorem values_without (name : String) (hs : Headers) : values name (without name hs) = [] := by
  simp [values, without, List.filter_filter]

theorem values_set (name value : String) (hs : Headers) :
    values name (set name value hs) = [value] := by
  have h := values_without name hs
  simp only [values, List.map_eq_nil_iff] at h
  simp [values, set, h]

theorem values_without_of_ne {name other : String} (h : other ≠ name) (hs : Headers) :
    values other (without name hs) = values other hs := by
  simp only [values, without, List.filter_filter]
  congr 1
  apply List.filter_congr
  intro x _
  by_cases hx : x.name = other <;> simp [hx, h]

theorem first?_without_of_ne {name other : String} (h : other ≠ name) (hs : Headers) :
    first? other (without name hs) = first? other hs := by
  rw [first?_eq_head?_values, first?_eq_head?_values, values_without_of_ne h]

end Headers

/-- The start of a request: all but its body. -/
structure Head where
  method : String
  target : Target
  headers : Headers
deriving DecidableEq, Repr

/-- A request with its whole body. -/
structure Request where
  head : Head
  body : ByteArray

/-- A body on its way: it arrives whole, or reading it fails. -/
inductive Stream where
  | whole (bytes : ByteArray)
  | broken

/-- Why a body could not be received. -/
inductive StreamFault where
  | tooLong
  | broken
deriving DecidableEq, Repr

/-- Receives a body of at most `limit` bytes. -/
def Stream.receive (limit : Nat) : Stream → Except StreamFault ByteArray
  | whole bytes => if limit < bytes.size then .error .tooLong else .ok bytes
  | broken => .error .broken

/-- A request whose body is still to be received. -/
structure Incoming where
  head : Head
  stream : Stream

/-- A response. -/
structure Response where
  status : Nat
  headers : Headers
  body : ByteArray

end OAuthGateway.Http
