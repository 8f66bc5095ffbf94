import OAuthGateway.Url.Host

/-!
# Url/Basic — absolute URLs

`read` takes a URL apart into scheme, user information, host, number, path, query and fragment,
which it leaves as they are written. The web's schemes have hosts, however many slashes stand before
them, and take a backslash for a slash; other schemes may go without a host.
-/

namespace OAuthGateway

open Text

/-- An absolute URL, taken apart. -/
structure Url where
  scheme : List Char
  user : Option (List Char)
  host : Option Url.Host
  number : Option Nat
  path : List Char
  query : Option (List Char)
  fragment : Option (List Char)
deriving DecidableEq, Repr

namespace Url

/-- The text without the blanks and controls around it, and without tabs and line breaks inside. -/
def cleaned (s : String) : List Char :=
  (dropEndWhile (·.toNat ≤ 32) (s.toList.dropWhile (·.toNat ≤ 32))).filter fun c =>
    c ≠ '\t' && c ≠ '\n' && c ≠ '\x0d'

/-- Characters of a scheme after its first letter. -/
def isSchemeChar (c : Char) : Bool :=
  isAsciiLetter c || isDigit c || c = '+' || c = '-' || c = '.'

/-- The scheme of a text, in lower case, and what follows its colon. -/
def scheme? (cs : List Char) : Option (List Char × List Char) :=
  match cs.dropWhile isSchemeChar with
  | ':' :: rest =>
    let scheme := cs.takeWhile isSchemeChar
    if scheme.head?.any isAsciiLetter then some (scheme.map lower, rest) else none
  | _ => none

/-- The schemes of the web. -/
def isWebScheme (scheme : List Char) : Bool :=
  ["http", "https", "ws", "wss", "ftp"].any fun s => s.toList = scheme

/-- A slash; with the schemes of the web a backslash is one, too. -/
def isSlash (web : Bool) (c : Char) : Bool := c = '/' || (web && c = '\\')

/-- The path, query and fragment that a text consists of. -/
def parts (cs : List Char) : List Char × Option (List Char) × Option (List Char) :=
  let (front, fragment) := match cut? '#' cs with
    | some (front, fragment) => (front, some fragment)
    | none => (cs, none)
  match cut? '?' front with
  | some (path, query) => (path, some query, fragment)
  | none => (front, none, fragment)

/-- A URL of a scheme whose rest names no host. -/
def hostless (scheme cs : List Char) : Url :=
  let (path, query, fragment) := parts cs
  ⟨scheme, none, none, none, path, query, fragment⟩

/-- Splits off the user information, up to the last at sign. -/
def userInfo (cs : List Char) : Option (List Char) × List Char :=
  if cs.contains '@' then
    let host := (cs.reverse.takeWhile (· ≠ '@')).reverse
    (some (cs.take (cs.length - host.length - 1)), host)
  else (none, cs)

/-- The host in front of the number: up to the first colon outside brackets. -/
def hostPart (inside : Bool) : List Char → List Char × List Char
  | [] => ([], [])
  | c :: rest =>
    if c = ':' && !inside then ([], c :: rest)
    else
      let (front, back) := hostPart (c = '[' || (inside && c ≠ ']')) rest
      (c :: front, back)

/-- Reads the number behind a colon: digits, at most 65535, or nothing. -/
def number? : List Char → Except Fault (Option Nat)
  | [] => .ok none
  | cs =>
    if cs.all isDigit && ofDigits 0 cs < 65536 then .ok (some (ofDigits 0 cs))
    else .error .badNumber

/-- Reads what follows the slashes before an authority. -/
def withAuthority (scheme : List Char) (web : Bool) (cs : List Char) : Except Fault Url := do
  let isEnd (c : Char) : Bool := isSlash web c || c = '?' || c = '#'
  let (user, rest) := userInfo (cs.takeWhile fun c => !isEnd c)
  let (hostText, behind) := hostPart false rest
  let (path, query, fragment) := parts (cs.dropWhile fun c => !isEnd c)
  let unnamed := hostText.isEmpty &&
    (web || !behind.isEmpty ||
      user.any (fun u => !u.isEmpty || !(cs.dropWhile fun c => !isEnd c).isEmpty))
  if unnamed then throw .emptyHost
  let host ← if web then Host.read hostText else Host.readVerbatim hostText
  let number ← number? (behind.drop 1)
  return ⟨scheme, user, some host, number, path, query, fragment⟩

/-- A drive letter with a colon or a bar is no host. -/
def isDriveLetter : List Char → Bool
  | [letter, mark] => isAsciiLetter letter && (mark = ':' || mark = '|')
  | _ => false

/-- Reads what follows the colon of a file's URL. -/
def ofFile (cs : List Char) : Except Fault Url :=
  let scheme := "file".toList
  match cs with
  | a :: b :: rest =>
    if isSlash true a && isSlash true b then do
      let host := rest.takeWhile fun c => !(isSlash true c || c = '?' || c = '#')
      if host.isEmpty || isDriveLetter host then return hostless scheme rest
      else
        let (path, query, fragment) := parts (rest.drop host.length)
        return ⟨scheme, none, some (← Host.read host), none, path, query, fragment⟩
    else .ok (hostless scheme cs)
  | _ => .ok (hostless scheme cs)

/-- Reads an absolute URL. -/
def read (s : String) : Except Fault Url :=
  match scheme? (cleaned s) with
  | none => .error .noScheme
  | some (scheme, rest) =>
    if isWebScheme scheme then withAuthority scheme true (rest.dropWhile (isSlash true))
    else if scheme = "file".toList then ofFile rest
    else match rest with
      | '/' :: '/' :: rest => withAuthority scheme false rest
      | rest => .ok (hostless scheme rest)

end Url

end OAuthGateway
