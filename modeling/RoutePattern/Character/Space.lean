import RoutePattern.Character.Ranges

/-! # White space

* `spaceRanges`, `isSpace` — separators and the control characters that act as white space
  (Unicode 14), the information separators U+001C to U+001F included.
-/

namespace RoutePattern.Character

def spaceRanges : List (Nat × Nat) :=
  [ (0x9, 0xd), (0x1c, 0x20), (0x85, 0x85), (0xa0, 0xa0), (0x1680, 0x1680),
    (0x2000, 0x200a), (0x2028, 0x2029), (0x202f, 0x202f), (0x205f, 0x205f), (0x3000, 0x3000) ]

def isSpace (code : Nat) : Bool :=
  inRanges spaceRanges code

end RoutePattern.Character
