/-! # Pieces between slashes

* `pieces` — a text cut at every slash; the empty text has one piece, the empty one.
* `joinPieces` — the inverse: pieces with a slash between neighbours.
* `segments` — the pieces that are not empty, the form in which base paths are compared.
-/

namespace RoutePattern.Text

def prependToFirst (c : Char) : List (List Char) → List (List Char)
  | [] => [[c]]
  | piece :: rest => (c :: piece) :: rest

/-- The pieces of a text between its slashes. There is always at least one. -/
def pieces : List Char → List (List Char)
  | [] => [[]]
  | c :: rest => if c = '/' then [] :: pieces rest else prependToFirst c (pieces rest)

/-- Pieces with one slash between each two neighbours. -/
def joinPieces : List (List Char) → List Char
  | [] => []
  | [piece] => piece
  | piece :: rest => piece ++ '/' :: joinPieces rest

/-- The nonempty pieces of a path. -/
def segments (path : String) : List String :=
  ((pieces path.toList).filter (!·.isEmpty)).map String.ofList

end RoutePattern.Text
