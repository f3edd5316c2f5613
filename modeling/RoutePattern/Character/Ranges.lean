/-! # Sets of code points as ranges

* `inRanges` — membership in a finite union of closed ranges, the form in which every
  character property of this library is tabulated.
-/

namespace RoutePattern.Character

/-- A code point belongs to a list of closed ranges when one of them contains it. -/
def inRanges (ranges : List (Nat × Nat)) (code : Nat) : Bool :=
  ranges.any fun range => Nat.ble range.1 code && Nat.ble code range.2

end RoutePattern.Character
