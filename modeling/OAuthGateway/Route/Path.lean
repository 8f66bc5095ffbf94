import OAuthGateway.Text.Ascii
import OAuthGateway.Text.Parts

/-!
# Route/Path — segments of a path, and dot segments

A URL parser takes a path apart at slashes and, for the web's schemes, at backslashes; a segment `.`
it drops, a segment `..` takes the one before with it, and a dot may be written `%2e`. `resolve` is
that removal on the list of segments. `hasDotSegment` is the screen: a path that passes it is one
that `resolve` leaves alone, so what is matched is what arrives.
-/

namespace OAuthGateway.Path

open Text

/-- A character that ends a segment. -/
def isSeparator (c : Char) : Bool := c = '/' || c = '\\'

/-- The segments of a path. -/
def segments (path : List Char) : List (List Char) := path.splitOnP isSeparator

/-- A segment with the escaped dots written out. -/
def dotsDecoded : List Char → List Char
  | '%' :: '2' :: e :: rest =>
    if lower e = 'e' then '.' :: dotsDecoded rest else '%' :: dotsDecoded ('2' :: e :: rest)
  | c :: rest => c :: dotsDecoded rest
  | [] => []
termination_by cs => cs.length

/-- The segment stands for the one it is in. -/
def isSingleDot (segment : List Char) : Bool := dotsDecoded segment == ['.']

/-- The segment stands for the one above. -/
def isDoubleDot (segment : List Char) : Bool := dotsDecoded segment == ['.', '.']

/-- The segment is not a name but a direction. -/
def isDot (segment : List Char) : Bool := isSingleDot segment || isDoubleDot segment

/-- Some segment of the path is a dot segment. -/
def hasDotSegment (path : List Char) : Bool := (segments path).any isDot

/-- Removes dot segments; `done` holds the segments before, the last one first. A dot segment at the
end leaves an empty segment behind. -/
def resolveFrom (done : List (List Char)) : List (List Char) → List (List Char)
  | [] => done.reverse
  | s :: rest =>
    let above := if isDoubleDot s then done.tail else done
    if isDot s then
      if rest.isEmpty then ([] :: above).reverse else resolveFrom above rest
    else resolveFrom (s :: done) rest

/-- The segments of a path with its dot segments removed. -/
def resolve (segments : List (List Char)) : List (List Char) := resolveFrom [] segments

end OAuthGateway.Path
