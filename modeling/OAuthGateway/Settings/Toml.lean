import OAuthGateway.Settings.Datum
import OAuthGateway.Text.Blank

/-!
# Settings/Toml — tables with headers

A text of keys and values, one to a line, under headers that name tables. A key may be dotted and
then leads through tables; no key is set twice and no header repeated. Values are texts in four
kinds of quotes, numbers, truth values, lists and tables in braces.
-/

namespace OAuthGateway.Toml

open Text

/-- A table under construction. -/
abbrev Entries := List (String × Datum)

/-! ## Blanks -/

/-- Skips blanks within a line. -/
def blanks (cs : List Char) : List Char := cs.dropWhile fun c => c = ' ' || c = '\t'

/-- Skips blanks, comments and line breaks. -/
def gap (comment : Bool) : List Char → List Char
  | [] => []
  | c :: cs =>
    if c = '\n' then gap false cs
    else if comment then gap true cs
    else if c = ' ' || c = '\t' || (c = '\x0d' && cs.head? = some '\n') then gap false cs
    else if c = '#' then gap true cs
    else c :: cs

/-- The end of a line, behind blanks and a comment. -/
def endOfLine? (cs : List Char) : Option (List Char) :=
  let cs := blanks cs
  let cs := if cs.head? = some '#' then cs.dropWhile (· ≠ '\n') else cs
  match cs with
  | [] => some []
  | '\n' :: cs | '\x0d' :: '\n' :: cs => some cs
  | _ => none

/-! ## Texts -/

/-- The character of a one-letter escape. -/
def escape? (c : Char) : Option Char :=
  match c with
  | 'b' => some '\x08'
  | 't' => some '\t'
  | 'n' => some '\n'
  | 'f' => some '\x0c'
  | 'r' => some '\x0d'
  | '"' | '\\' => some c
  | _ => none

/-- Reads the characters of a text in double quotes; in triple ones it may have line breaks. -/
def basic (triple : Bool) : Nat → List Char → Option (List Char × List Char)
  | 0, _ => none
  | fuel + 1, cs =>
    let continued (c : List Char) (rest : List Char) : Option (List Char × List Char) :=
      (basic triple fuel rest).map fun (more, rest) => (c ++ more, rest)
    match cs with
    | '"' :: '"' :: '"' :: '"' :: rest =>
      if triple then continued ['"'] ('"' :: '"' :: '"' :: rest) else some ([], cs.drop 1)
    | '"' :: '"' :: '"' :: rest => if triple then some ([], rest) else some ([], cs.drop 1)
    | '"' :: rest => if triple then continued ['"'] rest else some ([], rest)
    | '\\' :: c :: rest =>
      if c = 'u' || c = 'U' then do
        let width := if c = 'u' then 4 else 8
        let ds ← (rest.take width).mapM hexValue?
        let point := ds.foldl (fun n d => n * 16 + d) 0
        if ds.length = width && point.isValidChar then
          continued [Char.ofNat point] (rest.drop width)
        else none
      else if triple && (c = '\n' || c = ' ' || c = '\t' || c = '\x0d') then
        let skipped := (c :: rest).takeWhile fun c => c = ' ' || c = '\t' || c = '\n' || c = '\x0d'
        if skipped.contains '\n' then continued [] ((c :: rest).drop skipped.length) else none
      else do
        let c ← escape? c
        continued [c] rest
    | c :: rest =>
      if c = '\n' && !triple then none
      else if c.toNat < 32 && c ≠ '\t' && c ≠ '\n' && !(triple && c = '\x0d') then none
      else if c.toNat = 127 then none
      else continued [c] rest
    | [] => none

/-- Reads the characters of a text in single quotes; in triple ones it may have line breaks. -/
def literal (triple : Bool) : List Char → Option (List Char × List Char)
  | [] => none
  | c :: cs =>
    if c = '\'' && !triple then some ([], cs)
    else match triple, c, cs with
      | true, '\'', '\'' :: '\'' :: rest =>
        if rest.head? = some '\'' then
          (literal triple cs).map fun (more, rest) => (c :: more, rest)
        else some ([], rest)
      | _, _, _ =>
        if (c.toNat < 32 && c ≠ '\t' && !(triple && (c = '\n' || c = '\x0d'))) ||
            c.toNat = 127 then none
        else (literal triple cs).map fun (more, rest) => (c :: more, rest)

/-- Drops a line break right behind an opening triple quote. -/
def afterOpening (cs : List Char) : List Char :=
  match cs with
  | '\n' :: cs | '\x0d' :: '\n' :: cs => cs
  | cs => cs

/-- Reads a text in any kind of quotes. -/
def quoted? (cs : List Char) : Option (String × List Char) :=
  let fuel := cs.length + 1
  let read := match cs with
    | '"' :: '"' :: '"' :: rest => basic true fuel (afterOpening rest)
    | '"' :: rest => basic false fuel rest
    | '\'' :: '\'' :: '\'' :: rest => literal true (afterOpening rest)
    | '\'' :: rest => literal false rest
    | _ => none
  read.map fun (text, rest) => (String.ofList text, rest)

/-! ## Keys -/

/-- A character of a key without quotes. -/
def isKeyChar (c : Char) : Bool := isAsciiLetter c || isDigit c || c = '_' || c = '-'

/-- Reads one part of a key. -/
def keyPart? (cs : List Char) : Option (String × List Char) :=
  match cs with
  | '"' :: '"' :: '"' :: _ | '\'' :: '\'' :: '\'' :: _ => none
  | '"' :: _ | '\'' :: _ => quoted? cs
  | _ =>
    let word := cs.takeWhile isKeyChar
    if word.isEmpty then none else some (String.ofList word, cs.drop word.length)

/-- Reads a key whose parts have dots between them. -/
def key? : Nat → List Char → Option (List String × List Char)
  | 0, _ => none
  | fuel + 1, cs => do
    let (part, rest) ← keyPart? (blanks cs)
    match blanks rest with
    | '.' :: rest => do
      let (parts, rest) ← key? fuel rest
      some (part :: parts, rest)
    | rest => some ([part], rest)

/-! ## Values -/

/-- Digits of a base with single underscores between them. -/
def grouped? (isDigitOf : Char → Bool) (cs : List Char) : Option (List Char) :=
  let groups := cs.splitOnP (· = '_')
  if groups.all fun g => !g.isEmpty && g.all isDigitOf then some groups.flatten else none

/-- Reads a whole number of a base other than ten. -/
def ofBase? (base : Nat) (cs : List Char) : Option Datum := do
  let ds ← grouped? (fun c => (hexValue? c).any (· < base)) cs
  let n := ds.foldl (fun n c => n * base + (hexValue? c).getD 0) 0
  if fitsWord n then some (.integer n) else none

/-- A decimal number without a sign is written without superfluous zeros. -/
def isTidy (cs : List Char) : Bool := cs.length = 1 || cs.head? ≠ some '0'

/-- Reads a number. -/
def number? (word : List Char) : Option Datum :=
  match word with
  | '0' :: 'x' :: ds => ofBase? 16 ds
  | '0' :: 'o' :: ds => ofBase? 8 ds
  | '0' :: 'b' :: ds => ofBase? 2 ds
  | _ =>
    let (negative, cs) := match word with
      | '-' :: cs => (true, cs)
      | '+' :: cs => (false, cs)
      | cs => (false, cs)
    if cs = "inf".toList then some (.real (.infinite negative))
    else if cs = "nan".toList then some (.real .undefined)
    else
      let whole := cs.takeWhile fun c => isDigit c || c = '_'
      let rest := cs.drop whole.length
      match grouped? isDigit whole with
      | none => none
      | some ds =>
        if !isTidy ds then none
        else if rest.isEmpty then
          let n : Int := ofDigits 0 ds
          let i := if negative then -n else n
          if fitsWord i then some (.integer i) else none
        else
          let (fraction, power) := match rest with
            | '.' :: rest =>
              (some (rest.takeWhile fun c => isDigit c || c = '_'),
                rest.dropWhile fun c => isDigit c || c = '_')
            | rest => (none, rest)
          let power? : Option (List Char) := match power with
            | [] => some []
            | e :: '-' :: p =>
              if lower e = 'e' then (grouped? isDigit p).map (['e', '-'] ++ ·) else none
            | e :: '+' :: p => if lower e = 'e' then (grouped? isDigit p).map ('e' :: ·) else none
            | e :: p => if lower e = 'e' then (grouped? isDigit p).map ('e' :: ·) else none
          let fraction? : Option (List Char) := match fraction with
            | none => some []
            | some f => (grouped? isDigit f).map ('.' :: ·)
          match fraction?, power? with
          | some f, some p => (Real.decimal? negative (ds ++ f ++ p)).map .real
          | _, _ => none

/-- A date, a time or both, which stay as they are written. -/
def moment? (word : List Char) : Option Datum :=
  let isDate := (word.take 4).all isDigit && word[4]? = some '-' && 10 ≤ word.length
  let isTime := (word.take 2).all isDigit && word[2]? = some ':' && 8 ≤ word.length
  if (isDate || isTime) && word.all fun c => isDigit c || "-:.+TtZz".toList.contains c then
    some (.text (String.ofList word))
  else none

/-- Reads a word that is a truth value, a number or a moment. -/
def word? (cs : List Char) : Option (Datum × List Char) :=
  let word := cs.takeWhile fun c => isAsciiLetter c || isDigit c || "_+-.:".toList.contains c
  let rest := cs.drop word.length
  let datum :=
    if word = "true".toList then some (Datum.bool true)
    else if word = "false".toList then some (Datum.bool false)
    else number? word <|> moment? word
  datum.map fun d => (d, rest)

/-- Changes the table that a path leads to, making tables on the way; the last item of a list stands
for the list. -/
def alterTable? (f : Entries → Option Entries) : List String → Entries → Option Entries
  | [], es => f es
  | name :: path, es =>
    match es.lookup name with
    | none => (alterTable? f path []).map fun t => es ++ [(name, .table t)]
    | some (.table t) => (alterTable? f path t).map fun t => Datum.alter name (fun _ => .table t) es
    | some (.list items) =>
      match items.getLast? with
      | some (.table t) =>
        (alterTable? f path t).map fun t =>
          Datum.alter name (fun _ => .list (items.dropLast ++ [.table t])) es
      | _ => none
    | some _ => none

/-- Sets a key that is not set yet. -/
def set? (key : List String) (d : Datum) (es : Entries) : Option Entries :=
  match key.getLast? with
  | none => none
  | some name =>
    alterTable? (fun t => if (t.lookup name).isSome then none else some (t ++ [(name, d)]))
      key.dropLast es

mutual

/-- Reads a value. -/
def value? : Nat → List Char → Option (Datum × List Char)
  | 0, _ => none
  | fuel + 1, cs =>
    match cs with
    | '"' :: _ | '\'' :: _ => (quoted? cs).map fun (s, rest) => (.text s, rest)
    | '[' :: rest => items? fuel [] (gap false rest)
    | '\x7b' :: rest =>
      match blanks rest with
      | '\x7d' :: rest => some (.table [], rest)
      | rest => pairs? fuel [] rest
    | _ => word? cs

/-- Reads the items of a list, up to its bracket. -/
def items? : Nat → List Datum → List Char → Option (Datum × List Char)
  | 0, _, _ => none
  | fuel + 1, acc, cs =>
    match cs with
    | ']' :: rest => some (.list acc.reverse, rest)
    | _ => do
      let (d, rest) ← value? fuel cs
      match gap false rest with
      | ',' :: rest => items? fuel (d :: acc) (gap false rest)
      | ']' :: rest => some (.list (d :: acc).reverse, rest)
      | _ => none

/-- Reads the pairs of a table in braces, all in one line. -/
def pairs? : Nat → Entries → List Char → Option (Datum × List Char)
  | 0, _, _ => none
  | fuel + 1, acc, cs => do
    let (key, rest) ← key? cs.length cs
    match rest with
    | '=' :: rest => do
      let (d, rest) ← value? fuel (blanks rest)
      let acc ← set? key d acc
      match blanks rest with
      | ',' :: rest => pairs? fuel acc rest
      | '\x7d' :: rest => some (.table acc, rest)
      | _ => none
    | _ => none

end

/-! ## Documents -/

/-- What has been read: all tables, the path of the current one, and the headers so far. -/
structure Progress where
  root : Entries
  path : List String
  headers : List (List String)

/-- Opens the table of a header. -/
def openTable? (p : Progress) (path : List String) : Option Progress := do
  if p.headers.contains path then none
  let root ← alterTable? some path p.root
  some ⟨root, path, path :: p.headers⟩

/-- Adds a table to the list of a double header. -/
def addTable? (p : Progress) (path : List String) : Option Progress := do
  let name ← path.getLast?
  let root ← alterTable? (fun t =>
    match t.lookup name with
    | none => some (t ++ [(name, .list [.table []])])
    | some (.list items) => some (Datum.alter name (fun _ => .list (items ++ [.table []])) t)
    | some _ => none) path.dropLast p.root
  let below := p.headers.filter fun h => path.length < h.length && h.take path.length = path
  some ⟨root, path, p.headers.filter fun h => !below.contains h⟩

/-- Reads the lines of a document. -/
def lines? : Nat → Progress → List Char → Option Entries
  | 0, _, _ => none
  | fuel + 1, p, cs =>
    match gap false cs with
    | [] => some p.root
    | '[' :: '[' :: rest => do
      let (path, rest) ← key? rest.length rest
      match rest with
      | ']' :: ']' :: rest => do
        let rest ← endOfLine? rest
        lines? fuel (← addTable? p path) rest
      | _ => none
    | '[' :: rest => do
      let (path, rest) ← key? rest.length rest
      match rest with
      | ']' :: rest => do
        let rest ← endOfLine? rest
        lines? fuel (← openTable? p path) rest
      | _ => none
    | cs => do
      let (key, rest) ← key? cs.length cs
      match rest with
      | '=' :: rest => do
        let (d, rest) ← value? (rest.length + 1) (blanks rest)
        let rest ← endOfLine? rest
        let root ← alterTable? (set? key d) p.path p.root
        lines? fuel { p with root := root } rest
      | _ => none

/-- Reads a document. -/
def read? (text : String) : Option (List (String × Datum)) :=
  let cs := text.toList
  lines? (cs.length + 1) ⟨[], [], []⟩ cs

end OAuthGateway.Toml
