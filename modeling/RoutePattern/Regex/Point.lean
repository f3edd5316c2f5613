/-! # Points of a match

* `Slot` — where a capturing group began and ended.
* `Point` — a position inside the matched text, with the slots filled so far.

A point keeps the text on both sides of the position, the nearer characters first, so that a step
in either direction is a step on a list.
-/

namespace RoutePattern.Regex

/-- Where a group began and ended, as far as it has. A group that is tried again has a new start
    beside its old end until it ends again. -/
structure Slot where
  start : Option Nat := none
  stop : Option Nat := none
  deriving DecidableEq, Repr

def Slot.span? (slot : Slot) : Option (Nat × Nat) :=
  match slot.start, slot.stop with
  | some start, some stop => if start ≤ stop then some (start, stop) else none
  | _, _ => none

/-- A position in the text and the slots at that moment. -/
structure Point where
  -- The characters before the position, the nearest first.
  before : List Char
  -- The characters from the position on.
  after : List Char
  -- The state of each group.
  slots : List Slot
  -- The number of characters before the position, kept at hand.
  offset : Nat
  offset_eq : offset = before.length

namespace Point

def start (groups : Nat) (text : List Char) : Point where
  before := []
  after := text
  slots := List.replicate groups {}
  offset := 0
  offset_eq := rfl

def next? (point : Point) : Option (Char × Point) :=
  match point.after with
  | [] => none
  | c :: rest =>
    some (c,
      { before := c :: point.before
        after := rest
        slots := point.slots
        offset := point.offset + 1
        offset_eq := by simp [point.offset_eq] })

/-- A number of characters back. -/
def back? : (count : Nat) → Point → Option Point
  | 0, point => some point
  | count + 1, { before := c :: before, after, slots, .. } =>
    back? count
      { before := before, after := c :: after, slots := slots,
        offset := before.length, offset_eq := rfl }
  | _ + 1, { before := [], .. } => none

/-- Replaces the slots. -/
def withSlots (point : Point) (slots : List Slot) : Point :=
  { point with slots := slots }

def markStart (point : Point) (number : Nat) : Point :=
  point.withSlots
    (point.slots.modify (number - 1) fun slot => { slot with start := some point.offset })

def markStop (point : Point) (number : Nat) : Point :=
  point.withSlots
    (point.slots.modify (number - 1) fun slot => { slot with stop := some point.offset })

def span? (point : Point) (number : Nat) : Option (Nat × Nat) :=
  match number with
  | 0 => none
  | index + 1 => point.slots[index]?.bind Slot.span?

def text (point : Point) : List Char :=
  point.before.reverse ++ point.after

def slice (point : Point) (span : Nat × Nat) : List Char :=
  (point.text.drop span.1).take (span.2 - span.1)

def captures (point : Point) : List (Option String) :=
  point.slots.map fun slot => slot.span?.map fun span => String.ofList (point.slice span)

end Point

end RoutePattern.Regex
