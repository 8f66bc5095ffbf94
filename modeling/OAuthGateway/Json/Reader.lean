import OAuthGateway.Json.Token

/-!
# Json/Reader — reading tokens, one fault at a time

A reader consumes the tokens of one value and hands on the rest. There are two kinds of fault, and
the first one met decides: `grammar` when the text is no JSON, `shape` when it is JSON of another
shape. `wrongShape` is what a reader says of a value it does not expect: that value's first token is
looked at, so a broken one is still a fault of grammar.

`skip` passes over a value of any depth whose texts and numbers need not be readable; `build` reads
a whole value, nested fewer than 128 levels deep. Both walk the tokens once, with a stack.
-/

namespace OAuthGateway.Json

/-- What is wrong with a text: it is no JSON, or not of the shape asked for. -/
inductive Fault where
  | grammar
  | shape
deriving DecidableEq, Repr

/-- Words for a fault. They stand for what a reader says of it, which also tells the place and is
fixed nowhere; nothing that is proved depends on them. -/
def Fault.words : Fault → String
  | grammar => "the text is not JSON"
  | shape => "the JSON has another shape"

/-- Reads one value from the front of some tokens. -/
abbrev Reader (α : Type) := List Token → Except Fault (α × List Token)

/-- The fault of a value that has another shape than the one expected. -/
def wrongShape : List Token → Fault
  | .null :: _ | .bool _ :: _ | .number (some _) :: _ | .text (some _) :: _ => .shape
  | .openBrace :: _ | .openBracket :: _ => .shape
  | _ => .grammar

/-- Expects a token of punctuation. -/
def expect (t : Token) : List Token → Except Fault (List Token)
  | u :: rest => if u = t then .ok rest else .error .grammar
  | [] => .error .grammar

/-! ## Skipping -/

/-- What a container still open may go on with. -/
inductive Awaits where
  | value | itemOrEnd | keyOrEnd | key | colon | separator
deriving DecidableEq, Repr

/-- Skips a value inside the containers of the stack, where `true` stands for an object. -/
def skipFrom (stack : List Bool) (awaits : Awaits) : List Token → Except Fault (List Token)
  | [] => .error .grammar
  | t :: rest =>
    match awaits, t with
    | .value, .openBrace | .itemOrEnd, .openBrace => skipFrom (true :: stack) .keyOrEnd rest
    | .value, .openBracket | .itemOrEnd, .openBracket => skipFrom (false :: stack) .itemOrEnd rest
    | .value, .null | .value, .bool _ | .value, .number _ | .value, .text _
    | .itemOrEnd, .null | .itemOrEnd, .bool _ | .itemOrEnd, .number _ | .itemOrEnd, .text _ =>
      if stack.isEmpty then .ok rest else skipFrom stack .separator rest
    | .keyOrEnd, .text _ | .key, .text _ => skipFrom stack .colon rest
    | .colon, .colon => skipFrom stack .value rest
    | .separator, .comma =>
      skipFrom stack (if stack.head? = some true then .key else .value) rest
    | .itemOrEnd, .closeBracket | .keyOrEnd, .closeBrace =>
      if stack.tail.isEmpty then .ok rest else skipFrom stack.tail .separator rest
    | .separator, .closeBracket =>
      if stack.head? ≠ some false then .error .grammar
      else if stack.tail.isEmpty then .ok rest else skipFrom stack.tail .separator rest
    | .separator, .closeBrace =>
      if stack.head? ≠ some true then .error .grammar
      else if stack.tail.isEmpty then .ok rest else skipFrom stack.tail .separator rest
    | _, _ => .error .grammar

/-- Skips one value. -/
def skip (ts : List Token) : Except Fault (List Token) := skipFrom [] .value ts

/-! ## Whole values -/

/-- A container being read, its parts in reverse. -/
inductive Frame where
  | list (items : List Value)
  | object (fields : List (String × Value)) (key : String)
deriving Repr

/-- Adds a finished value to the innermost container. -/
def Frame.add (v : Value) : Frame → Frame
  | .list items => .list (v :: items)
  | .object fields key => .object ((key, v) :: fields) key

/-- The value a container becomes when it is closed. -/
def Frame.close : Frame → Value
  | .list items => .list items.reverse
  | .object fields _ => .object fields.reverse

/-- The deepest nesting that is read. -/
def depthLimit : Nat := 127

/-- Reads a value inside the containers of the stack. -/
def buildFrom (stack : List Frame) (awaits : Awaits) : Reader Value
  | [] => .error .grammar
  | t :: rest =>
    let scalar (v : Value) : Except Fault (Value × List Token) :=
      match stack with
      | [] => .ok (v, rest)
      | f :: fs => buildFrom (f.add v :: fs) .separator rest
    let closed : Except Fault (Value × List Token) :=
      match stack with
      | [] => .error .grammar
      | [f] => .ok (f.close, rest)
      | f :: g :: fs => buildFrom (g.add f.close :: fs) .separator rest
    let opened (f : Frame) (awaits : Awaits) : Except Fault (Value × List Token) :=
      if stack.length < depthLimit then buildFrom (f :: stack) awaits rest else .error .grammar
    match awaits, t with
    | .value, .openBrace | .itemOrEnd, .openBrace => opened (.object [] "") .keyOrEnd
    | .value, .openBracket | .itemOrEnd, .openBracket => opened (.list []) .itemOrEnd
    | .value, .null | .itemOrEnd, .null => scalar .null
    | .value, .bool b | .itemOrEnd, .bool b => scalar (.bool b)
    | .value, .number (some n) | .itemOrEnd, .number (some n) => scalar (.number n)
    | .value, .text (some s) | .itemOrEnd, .text (some s) => scalar (.text s)
    | .keyOrEnd, .text (some key) | .key, .text (some key) =>
      match stack with
      | .object fields _ :: fs => buildFrom (.object fields key :: fs) .colon rest
      | _ => .error .grammar
    | .colon, .colon => buildFrom stack .value rest
    | .separator, .comma =>
      match stack with
      | .object _ _ :: _ => buildFrom stack .key rest
      | _ => buildFrom stack .value rest
    | .itemOrEnd, .closeBracket | .keyOrEnd, .closeBrace => closed
    | .separator, .closeBracket =>
      match stack with
      | .list _ :: _ => closed
      | _ => .error .grammar
    | .separator, .closeBrace =>
      match stack with
      | .object _ _ :: _ => closed
      | _ => .error .grammar
    | _, _ => .error .grammar

/-- Reads one value. -/
def build : Reader Value := buildFrom [] .value

/-- Reads a text that holds one value and nothing else. -/
def readAll {α : Type} (reader : Reader α) (text : List (Option Char)) : Except Fault α := do
  let (v, rest) ← reader (scan text)
  if rest.isEmpty then return v else throw .grammar

end OAuthGateway.Json
