import OAuthGateway.Text.Ascii
import OAuthGateway.Text.Blank
import OAuthGateway.Text.Parts
import OAuthGateway.Yaml.Node

/-!
# Yaml/Reader — reading documents by their indentation

A cursor is the text that is left and the column it starts in. In block style the column of an entry
decides what it belongs to: a value lies deeper than its key, an item deeper than its dash, and
entries side by side share a column. Inside brackets only the brackets count. Scalars are plain or
quoted and may go on in further lines, whose breaks fold into blanks.

Anchors, tags, directives, explicit keys and block scalars are not read; a text that uses them is
malformed, as is one that breaks the rules of indentation.
-/

namespace OAuthGateway.Yaml

open Text

/-- The text that is left, and the column it starts in. -/
structure Cursor where
  rest : List Char
  column : Nat
deriving Repr

namespace Cursor

/-- The cursor after some characters of the line it is in. -/
def past (cur : Cursor) (n : Nat) : Cursor := ⟨cur.rest.drop n, cur.column + n⟩

/-! ## Gaps -/

/-- Skips blanks, comments and line breaks, and tells whether a line ended. In block style a tab may
not stand where a line begins. -/
def gapFrom (flow comment crossed : Bool) (column : Nat) : List Char → Cursor × Bool
  | [] => (⟨[], column⟩, crossed)
  | c :: cs =>
    if c = '\n' then gapFrom flow false true 0 cs
    else if comment then gapFrom flow true crossed (column + 1) cs
    else if c = ' ' || (c = '\t' && (flow || !crossed)) then
      gapFrom flow false crossed (column + 1) cs
    else if c = '#' then gapFrom flow true crossed (column + 1) cs
    else (⟨c :: cs, column⟩, crossed)

/-- The next thing in the text, and whether it stands in another line. -/
def gap (flow : Bool) (cur : Cursor) : Cursor × Bool := gapFrom flow false false cur.column cur.rest

/-- The end of the text, or a line that begins with the marker of a document. -/
def atEnd (cur : Cursor) : Bool :=
  cur.rest.isEmpty || (cur.column = 0 &&
    ([['-', '-', '-'], ['.', '.', '.']].any fun marker =>
      match after? marker cur.rest with
      | some [] => true
      | some (c :: _) => isBlank c
      | none => false))

/-- The character stands alone: what follows it is blank, or nothing. -/
def standsAlone (c : Char) : List Char → Bool
  | [d] => d = c
  | d :: e :: _ => d = c && (e = ' ' || e = '\t' || e = '\n')
  | [] => false

/-- What stands behind a finished scalar or bracket must be the end of its line. -/
def endOfLine? (cur : Cursor) : Option Cursor :=
  let (next, crossed) := cur.gap false
  if crossed || next.rest.isEmpty then some next else none

/-! ## Scalars -/

/-- The characters that delimit collections in brackets. -/
def isFlowMark (c : Char) : Bool := [',', '[', ']', '\x7b', '\x7d'].contains c

/-- The part of a plain scalar that stands in one line, and what follows it. -/
def plainSpan (flow blankBefore : Bool) : List Char → List Char × List Char
  | [] => ([], [])
  | c :: cs =>
    if c = '\n' || standsAlone ':' (c :: cs) || (flow && isFlowMark c) ||
        (c = '#' && blankBefore) then
      ([], c :: cs)
    else
      let (span, rest) := plainSpan flow (c = ' ' || c = '\t') cs
      (c :: span, rest)

/-- A plain scalar may begin here. -/
def startsPlain (flow : Bool) (cs : List Char) : Bool :=
  match cs with
  | [] => false
  | c :: _ =>
    if c = '-' then !standsAlone '-' cs
    else if c = ':' || c = '?' then !flow && !standsAlone c cs
    else !(isBlank c || isFlowMark c || "#&*!|>'\"%@\x60".toList.contains c)

/-- A colon stuck between a plain scalar and a delimiter inside brackets. -/
def hasStuckColon : List Char → Bool
  | ':' :: c :: _ => isFlowMark c || c = '?'
  | _ => false

/-- The blank or line breaks that so many line breaks between two words fold into. -/
def folded (breaks : Nat) : List Char :=
  if breaks = 0 then [] else if breaks = 1 then [' '] else List.replicate (breaks - 1) '\n'

/-- Reads a plain scalar that may go on in lines at or beyond a column. -/
def plain (flow : Bool) (least : Nat) : Nat → Cursor → Option (List Char × Cursor)
  | 0, _ => none
  | fuel + 1, cur =>
    let (span, rest) := plainSpan flow false cur.rest
    let here : Cursor := ⟨rest, cur.column + span.length⟩
    let word := dropEndWhile isBlank span
    let lines := rest.takeWhile fun c => c = ' ' || c = '\t' || c = '\n'
    let (next, crossed) := gapFrom true false false here.column lines
    let next : Cursor := ⟨rest.drop lines.length, next.column⟩
    if flow && (rest.isEmpty || hasStuckColon rest) then none
    else if crossed && !next.atEnd && (flow || least ≤ next.column) &&
        !(flow && (next.rest.head?.any isFlowMark)) && next.rest.head? ≠ some '#' &&
        !standsAlone ':' next.rest then do
      let (more, cur) ← plain flow least fuel next
      some (word ++ folded (lines.count '\n') ++ more, cur)
    else some (word, here)

/-- The character of a one-letter escape. -/
def escape? (c : Char) : Option Char :=
  match c with
  | '0' => some '\x00'
  | 'a' => some '\x07'
  | 'b' => some '\x08'
  | 't' | '\t' => some '\t'
  | 'n' => some '\n'
  | 'v' => some '\x0b'
  | 'f' => some '\x0c'
  | 'r' => some '\x0d'
  | 'e' => some '\x1b'
  | ' ' | '"' | '/' | '\\' => some c
  | 'N' => some '\u0085'
  | '_' => some '\u00a0'
  | 'L' => some '\u2028'
  | 'P' => some '\u2029'
  | _ => none

/-- The number of hexadecimal digits behind an escape letter. -/
def escapeWidth? (c : Char) : Option Nat :=
  match c with
  | 'x' => some 2
  | 'u' => some 4
  | 'U' => some 8
  | _ => none

/-- Reads the characters of a quoted scalar up to its closing quote. -/
def quoted (double : Bool) : Nat → Cursor → Option (List Char × Cursor)
  | 0, _ => none
  | fuel + 1, cur =>
    let continued (read : List Char) (cur : Cursor) : Option (List Char × Cursor) := do
      let (more, cur) ← quoted double fuel cur
      some (read ++ more, cur)
    match cur.rest with
    | [] => none
    | '"' :: _ => if double then some ([], cur.past 1) else continued ['"'] (cur.past 1)
    | '\'' :: '\'' :: _ =>
      continued (if double then ['\'', '\''] else ['\'']) (cur.past 2)
    | '\'' :: _ => if double then continued ['\''] (cur.past 1) else some ([], cur.past 1)
    | '\\' :: '\n' :: rest =>
      if double then
        let blanks := rest.takeWhile fun c => c = ' ' || c = '\t'
        continued [] ⟨rest.drop blanks.length, blanks.length⟩
      else continued ['\\'] (cur.past 1)
    | '\\' :: c :: rest =>
      if !double then continued ['\\'] (cur.past 1)
      else match escapeWidth? c with
        | some width => do
          let digits ← (rest.take width).mapM hexValue?
          let point := digits.foldl (fun n d => n * 16 + d) 0
          if digits.length = width && point.isValidChar then
            continued [Char.ofNat point] (cur.past (2 + width))
          else none
        | none => do
          let c ← escape? c
          continued [c] (cur.past 2)
    | c :: _ =>
      if c = ' ' || c = '\t' || c = '\n' then
        let blanks := cur.rest.takeWhile fun c => c = ' ' || c = '\t' || c = '\n'
        let breaks := blanks.count '\n'
        let next : Cursor := ⟨cur.rest.drop blanks.length,
          if breaks = 0 then cur.column + blanks.length
          else (blanks.reverse.takeWhile (· ≠ '\n')).length⟩
        if breaks ≠ 0 && next.atEnd then none
        else continued (if breaks = 0 then blanks else folded breaks) next
      else continued [c] (cur.past 1)

/-- Reads a scalar in one line or several. -/
def scalar (flow : Bool) (least : Nat) (cur : Cursor) : Option (Node × Cursor) :=
  let fuel := cur.rest.length + 1
  match cur.rest with
  | '"' :: _ => (quoted true fuel (cur.past 1)).map fun (cs, cur) =>
    (.scalar (String.ofList cs) false, cur)
  | '\'' :: _ => (quoted false fuel (cur.past 1)).map fun (cs, cur) =>
    (.scalar (String.ofList cs) false, cur)
  | cs =>
    if startsPlain flow cs then
      (plain flow least fuel cur).map fun (cs, cur) => (.scalar (String.ofList cs) true, cur)
    else none

/-! ## Collections in brackets -/

/-- A colon that separates key and value inside brackets. -/
def flowColon? (cur : Cursor) : Option Cursor :=
  let (next, _) := cur.gap true
  if next.rest.head? = some ':' then some (next.past 1) else none

mutual

/-- Reads a value inside brackets; where a delimiter follows at once, the value is missing. -/
def flowValue : Nat → Cursor → Option (Node × Cursor)
  | 0, _ => none
  | fuel + 1, cur =>
    let (cur, _) := cur.gap true
    match cur.rest with
    | [] => none
    | '[' :: _ => flowItems fuel (cur.past 1) []
    | '\x7b' :: _ => flowEntries fuel (cur.past 1) []
    | c :: _ => if isFlowMark c then some (.nothing, cur) else scalar true 0 cur

/-- Reads the items of a sequence in brackets; an item with a colon is a mapping of one entry. -/
def flowItems : Nat → Cursor → List Node → Option (Node × Cursor)
  | 0, _, _ => none
  | fuel + 1, cur, items => do
    let (cur, _) := cur.gap true
    if cur.rest.head? = some ']' then some (.sequence items.reverse, cur.past 1)
    else if cur.rest.head? = some ',' then none
    else do
      let (item, cur) ← flowValue fuel cur
      let (item, cur) ← match flowColon? cur with
        | some cur => do
          let (value, cur) ← flowValue fuel cur
          some (Node.mapping [(item, value)], cur)
        | none => some (item, cur)
      let (cur, _) := cur.gap true
      match cur.rest with
      | ',' :: _ => flowItems fuel (cur.past 1) (item :: items)
      | ']' :: _ => some (.sequence (item :: items).reverse, cur.past 1)
      | _ => none

/-- Reads the entries of a mapping in braces. -/
def flowEntries : Nat → Cursor → List (Node × Node) → Option (Node × Cursor)
  | 0, _, _ => none
  | fuel + 1, cur, entries => do
    let (cur, _) := cur.gap true
    if cur.rest.head? = some '\x7d' then some (.mapping entries.reverse, cur.past 1)
    else if cur.rest.head? = some ',' then none
    else do
      let (key, cur) ← flowValue fuel cur
      let (value, cur) ← match flowColon? cur with
        | some cur => flowValue fuel cur
        | none => some (.nothing, cur)
      let (cur, _) := cur.gap true
      match cur.rest with
      | ',' :: _ => flowEntries fuel (cur.past 1) ((key, value) :: entries)
      | '\x7d' :: _ => some (.mapping ((key, value) :: entries).reverse, cur.past 1)
      | _ => none

end

/-! ## Blocks -/

/-- Reads a key in one line and the colon behind it. -/
def key? (cur : Cursor) : Option (Node × Cursor) := do
  let isQuoted := cur.rest.head? = some '"' || cur.rest.head? = some '\''
  let (key, behind) ←
    if isQuoted then scalar false 0 cur
    else if startsPlain false cur.rest then
      let (span, rest) := plainSpan false false cur.rest
      some (Node.scalar (String.ofList (dropEndWhile isBlank span)) true,
        ⟨rest, cur.column + span.length⟩)
    else none
  let consumed := cur.rest.take (cur.rest.length - behind.rest.length)
  let blanks := behind.rest.takeWhile fun c => c = ' ' || c = '\t'
  let colon := behind.past blanks.length
  if standsAlone ':' colon.rest && !consumed.contains '\n' then some (key, colon.past 1) else none

/-- Reads a value that starts in the line of its key or dash and is no block of its own. -/
def inlineValue (fuel least : Nat) (cur : Cursor) : Option (Node × Cursor) := do
  let (node, cur) ← match cur.rest with
    | '[' :: _ | '\x7b' :: _ => flowValue fuel cur
    | _ => scalar false least cur
  let cur ← cur.endOfLine?
  some (node, cur)

mutual

/-- Reads a node that may be a block, beyond the column of what it belongs to. -/
def blockNode : Nat → (least : Nat) → Cursor → Option (Node × Cursor)
  | 0, _, _ => none
  | fuel + 1, least, cur =>
    if standsAlone '-' cur.rest then blockItems fuel cur.column cur []
    else if (key? cur).isSome then blockEntries fuel cur.column cur []
    else inlineValue fuel least cur

/-- Reads the items of a block sequence whose dashes stand in a column; it ends at anything else. -/
def blockItems : Nat → (column : Nat) → Cursor → List Node → Option (Node × Cursor)
  | 0, _, _, _ => none
  | fuel + 1, column, cur, items =>
    if cur.atEnd || cur.column ≠ column || !standsAlone '-' cur.rest then
      some (.sequence items.reverse, cur)
    else do
      let (next, crossed) := (cur.past 1).gap false
      let (item, cur) ←
        if next.atEnd || (crossed && next.column ≤ column) then some (.nothing, next)
        else blockNode fuel (column + 1) next
      blockItems fuel column cur (item :: items)

/-- Reads the entries of a block mapping whose keys stand in a column; it ends at another column.
The value of a key is something in its line, a block in the lines below, or a sequence at its own
column. -/
def blockEntries : Nat → (column : Nat) → Cursor → List (Node × Node) → Option (Node × Cursor)
  | 0, _, _, _ => none
  | fuel + 1, column, cur, entries =>
    if cur.atEnd || cur.column ≠ column then some (.mapping entries.reverse, cur)
    else do
      let (key, behind) ← key? cur
      let (next, crossed) := behind.gap false
      let (value, cur) ←
        if next.atEnd then some (.nothing, next)
        else if !crossed then inlineValue fuel (column + 1) next
        else if column < next.column then blockNode fuel (column + 1) next
        else if next.column = column && standsAlone '-' next.rest then
          blockItems fuel column next []
        else some (.nothing, next)
      blockEntries fuel column cur ((key, value) :: entries)

end

end Cursor

/-! ## Documents -/

/-- The text with every kind of line break as one character. -/
def unixLines : List Char → List Char
  | '\x0d' :: '\n' :: cs => '\n' :: unixLines cs
  | '\x0d' :: cs => '\n' :: unixLines cs
  | c :: cs => c :: unixLines cs
  | [] => []

/-- A character that may stand in a document. -/
def isPrintable (c : Char) : Bool :=
  let n := c.toNat
  n = 9 || n = 10 || n = 13 || (32 ≤ n && n ≤ 126) || n = 0x85 ||
    (0xA0 ≤ n && n ≠ 0xFEFF && n ≠ 0xFFFE && n ≠ 0xFFFF)

/-- Reads the documents of a text, with or without markers between them. -/
def documents : Nat → (marked : Bool) → Cursor → Option (List Node)
  | 0, _, _ => none
  | fuel + 1, marked, cur => do
    let (cur, _) := cur.gap false
    if cur.rest.isEmpty then some (if marked then [.nothing] else [])
    else if cur.atEnd then
      let rest := cur.past 3
      let more ← documents fuel (cur.rest.head? = some '-') rest
      some (if marked then .nothing :: more else more)
    else
      let (node, cur) ← Cursor.blockNode (2 * cur.rest.length + 8) 0 cur
      if !cur.atEnd then none
      let more ← documents fuel false cur
      some (node :: more)

/-- Reads a text as documents. -/
def read? (text : String) : Option (List Node) :=
  let cs := unixLines text.toList
  if cs.all isPrintable then documents (cs.length + 2) false ⟨cs, 0⟩ else none

end OAuthGateway.Yaml
