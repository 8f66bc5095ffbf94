import OAuthGateway.Json.Reader
import OAuthGateway.Proofs.Json.Scan

/-!
# Proofs/Json/Build — a whole value is read back from its tokens

`build` keeps the containers still open on a stack.  In the middle of any of them a value is read up
to its last token and then handed to the innermost one (`resume`), if the nesting stays within the
limit and every number is one that its text denotes (`Value.Readable`).
-/

namespace OAuthGateway.Json

mutual

/-- A value nested at most so many levels deep, each number of which is what its text denotes. -/
def Value.Readable : Nat → Value → Prop
  | _, .null | _, .bool _ | _, .text _ => True
  | _, .number n => Number.ofText? n.render = some n
  | 0, .list _ | 0, .object _ => False
  | depth + 1, .list items => ItemsReadable depth items
  | depth + 1, .object fields => FieldsReadable depth fields

/-- Some such values. -/
def ItemsReadable : Nat → List Value → Prop
  | _, [] => True
  | depth, v :: vs => v.Readable depth ∧ ItemsReadable depth vs

/-- Some fields with such values. -/
def FieldsReadable : Nat → List (String × Value) → Prop
  | _, [] => True
  | depth, (_, v) :: fs => v.Readable depth ∧ FieldsReadable depth fs

end

/-- What follows when a value is finished inside the containers of a stack. -/
def resume (stack : List Frame) (v : Value) (rest : List Token) :
    Except Fault (Value × List Token) :=
  match stack with
  | [] => .ok (v, rest)
  | f :: fs => buildFrom (f.add v :: fs) .separator rest

section Steps

variable {stack : List Frame} {rest : List Token} {awaits : Awaits}

/-- A value may begin. -/
def Awaits.BeginsValue (awaits : Awaits) : Prop := awaits = .value ∨ awaits = .itemOrEnd

/-- Where a value may begin, a bracket opens a list in it. -/
theorem buildFrom_openBracket (h : awaits.BeginsValue) (hdepth : stack.length < depthLimit) :
    buildFrom stack awaits (.openBracket :: rest) =
      buildFrom (.list [] :: stack) .itemOrEnd rest := by
  rcases h with rfl | rfl <;> exact if_pos hdepth

/-- Where a value may begin, a brace opens an object in it. -/
theorem buildFrom_openBrace (h : awaits.BeginsValue) (hdepth : stack.length < depthLimit) :
    buildFrom stack awaits (.openBrace :: rest) =
      buildFrom (.object [] "" :: stack) .keyOrEnd rest := by
  rcases h with rfl | rfl <;> exact if_pos hdepth

/-- A list is closed behind an item, or at once. -/
theorem buildFrom_closeBracket {items : List Value}
    (h : awaits = .separator ∨ awaits = .itemOrEnd) :
    buildFrom (.list items :: stack) awaits (.closeBracket :: rest) =
      resume stack (.list items.reverse) rest := by
  rcases h with rfl | rfl <;> cases stack <;> rfl

/-- An object is closed behind a field, or at once. -/
theorem buildFrom_closeBrace {fields : List (String × Value)} {key : String}
    (h : awaits = .separator ∨ awaits = .keyOrEnd) :
    buildFrom (.object fields key :: stack) awaits (.closeBrace :: rest) =
      resume stack (.object fields.reverse) rest := by
  rcases h with rfl | rfl <;> cases stack <;> rfl

/-- A key and its colon are read before the value of the key. -/
theorem buildFrom_key {fields : List (String × Value)} {key name : String}
    (h : awaits = .key ∨ awaits = .keyOrEnd) :
    buildFrom (.object fields key :: stack) awaits (.text (some name) :: .colon :: rest) =
      buildFrom (.object fields name :: stack) .value rest := by
  rcases h with rfl | rfl <;> rfl

end Steps

mutual

/-- **A value is read up to its last token**, and what is around it goes on. -/
theorem buildFrom_tokens : ∀ (v : Value) {depth : Nat} {stack : List Frame} {awaits : Awaits}
    (rest : List Token), v.Readable depth → awaits.BeginsValue →
    stack.length + depth ≤ depthLimit →
    buildFrom stack awaits (v.tokens ++ rest) = resume stack v rest
  | .null, _, stack, _, rest, _, hawaits, _ => by
    rcases hawaits with rfl | rfl <;> cases stack <;> rfl
  | .bool b, _, stack, _, rest, _, hawaits, _ => by
    rcases hawaits with rfl | rfl <;> cases stack <;> rfl
  | .text s, _, stack, _, rest, _, hawaits, _ => by
    rcases hawaits with rfl | rfl <;> cases stack <;> rfl
  | .number n, _, stack, _, rest, h, hawaits, _ => by
    rw [Value.Readable] at h
    rw [Value.tokens, h]
    rcases hawaits with rfl | rfl <;> cases stack <;> rfl
  | .list items, depth, stack, awaits, rest, h, hawaits, hdepth => by
    cases depth with
    | zero => exact absurd h (by simp [Value.Readable])
    | succ depth =>
      rw [Value.Readable] at h
      rw [Value.tokens, List.cons_append, List.append_assoc, List.singleton_append,
        buildFrom_openBracket hawaits (by omega)]
      cases items with
      | nil => exact buildFrom_closeBracket (.inr rfl)
      | cons v vs =>
        exact buildFrom_itemTokens (v :: vs) [] rest nofun h (.inr rfl) (by omega)
  | .object fields, depth, stack, awaits, rest, h, hawaits, hdepth => by
    cases depth with
    | zero => exact absurd h (by simp [Value.Readable])
    | succ depth =>
      rw [Value.Readable] at h
      rw [Value.tokens, List.cons_append, List.append_assoc, List.singleton_append,
        buildFrom_openBrace hawaits (by omega)]
      cases fields with
      | nil => exact buildFrom_closeBrace (.inr rfl)
      | cons field fs =>
        exact buildFrom_fieldTokens (field :: fs) [] "" rest nofun h (.inr rfl) (by omega)

/-- The items of a list, after those read before. -/
theorem buildFrom_itemTokens : ∀ (items : List Value) {depth : Nat} {stack : List Frame}
    {awaits : Awaits} (before : List Value) (rest : List Token), items ≠ [] →
    ItemsReadable depth items → awaits.BeginsValue → (stack.length + 1) + depth ≤ depthLimit →
    buildFrom (.list before :: stack) awaits
        ([.comma].intercalate (itemTokens items) ++ .closeBracket :: rest) =
      resume stack (.list (before.reverse ++ items)) rest
  | [], _, _, _, _, _, hne, _, _, _ => absurd rfl hne
  | [v], depth, stack, awaits, before, rest, _, h, hawaits, hdepth => by
    rw [ItemsReadable] at h
    rw [itemTokens, itemTokens, List.intercalate_singleton,
      buildFrom_tokens v _ h.1 hawaits (by simpa using hdepth)]
    refine (buildFrom_closeBracket (.inl rfl)).trans ?_
    rw [List.reverse_cons]
  | v :: w :: ws, depth, stack, awaits, before, rest, _, h, hawaits, hdepth => by
    rw [ItemsReadable] at h
    rw [itemTokens, itemTokens, List.intercalate_cons_cons, List.append_assoc, List.append_assoc,
      buildFrom_tokens v _ h.1 hawaits (by simpa using hdepth)]
    refine (buildFrom_itemTokens (w :: ws) (v :: before) rest nofun h.2 (.inl rfl) hdepth).trans ?_
    rw [List.reverse_cons, List.append_assoc, List.singleton_append]

/-- The fields of an object, after those read before. -/
theorem buildFrom_fieldTokens : ∀ (fields : List (String × Value)) {depth : Nat}
    {stack : List Frame} {awaits : Awaits} (before : List (String × Value)) (key : String)
    (rest : List Token), fields ≠ [] → FieldsReadable depth fields →
    (awaits = .key ∨ awaits = .keyOrEnd) → (stack.length + 1) + depth ≤ depthLimit →
    buildFrom (.object before key :: stack) awaits
        ([.comma].intercalate (fieldTokens fields) ++ .closeBrace :: rest) =
      resume stack (.object (before.reverse ++ fields)) rest
  | [], _, _, _, _, _, _, hne, _, _, _ => absurd rfl hne
  | [(name, v)], depth, stack, awaits, before, key, rest, _, h, hawaits, hdepth => by
    rw [FieldsReadable] at h
    rw [fieldTokens, fieldTokens, List.intercalate_singleton, List.cons_append, List.cons_append,
      buildFrom_key hawaits, buildFrom_tokens v _ h.1 (.inl rfl) (by simpa using hdepth)]
    refine (buildFrom_closeBrace (.inl rfl)).trans ?_
    rw [List.reverse_cons]
  | (name, v) :: g :: gs, depth, stack, awaits, before, key, rest, _, h, hawaits, hdepth => by
    rw [FieldsReadable] at h
    rw [fieldTokens, fieldTokens, List.intercalate_cons_cons, List.append_assoc, List.append_assoc,
      List.cons_append, List.cons_append, buildFrom_key hawaits,
      buildFrom_tokens v _ h.1 (.inl rfl) (by simpa using hdepth)]
    refine (buildFrom_fieldTokens (g :: gs) ((name, v) :: before) name rest nofun h.2 (.inl rfl)
      hdepth).trans ?_
    rw [List.reverse_cons, List.append_assoc, List.singleton_append]

end

/-- **A value within the limit is read from its tokens**, whatever comes after. -/
theorem build_tokens {v : Value} (h : v.Readable depthLimit) (rest : List Token) :
    build (v.tokens ++ rest) = .ok (v, rest) :=
  buildFrom_tokens v rest h (.inl rfl) (by simp)

end OAuthGateway.Json
