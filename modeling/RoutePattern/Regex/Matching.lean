import RoutePattern.Regex.Expression
import RoutePattern.Regex.Point

/-! # Matching by backtracking

* `Anchor.holds` — conditions on a position.
* `rounds`, `greedily`, `lazily`, `possessively` — repetition, given how one round runs.
* `Expression.run` — an expression tries its ways in order of preference, and hands the point
  that each way reaches to a continuation; the first way whose continuation succeeds is taken.
* `Expression.firstMatch` — matching from the start of a text.

The continuation is the rest of the expression. Points are values, so going back to an earlier
choice also forgets what the groups recorded in between.
-/

namespace RoutePattern.Regex

/-! ## Anchors -/

/-- The position lies between a word character and something else. -/
def Point.atWordEdge (ascii : Bool) (point : Point) : Bool :=
  let isWordAt (side : List Char) : Bool :=
    side.head?.any fun c => Category.holds ascii c.toNat .word
  isWordAt point.before != isWordAt point.after

/-- A condition on a position. An empty text has no places inside or at the edge of words. -/
def Anchor.holds (point : Point) : Anchor → Bool
  | .textStart => point.before.isEmpty
  | .lineStart => point.before.head?.all (· == '\n')
  | .textEnd => point.after.isEmpty
  | .lineEnd => point.after.head?.all (· == '\n')
  | .lastLineEnd => point.after.isEmpty || point.after == ['\n']
  | .wordEdge ascii =>
    !(point.before.isEmpty && point.after.isEmpty) && point.atWordEdge ascii
  | .wordInside ascii =>
    !(point.before.isEmpty && point.after.isEmpty) && !point.atWordEdge ascii

/-! ## Repetition -/

/-- What is done with the point that has been reached. -/
abbrev Continuation := Point → Option Point

/-- A way to go on from a point. -/
abbrev Runner := Continuation → Point → Option Point

/-- Exactly `count` rounds. -/
def rounds (round : Runner) (rest : Continuation) : (count : Nat) → Point → Option Point
  | 0, point => rest point
  | count + 1, point => round (rounds round rest count) point

/-- No further round is allowed: the count is used up, or the last round began here, too. -/
def exhausted (most : Option Nat) (last : Option Nat) (point : Point) : Bool :=
  most == some 0 || last == some point.offset

/-- As many rounds as the rest allows. `most` is what is left of the greatest count, and `last`
    is where the last round began. A round that consumes nothing is the last one, so `fuel` above
    the number of characters left is never used up. -/
def greedily (round : Runner) (rest : Continuation) :
    (fuel : Nat) → (most last : Option Nat) → Point → Option Point
  | 0, _, _, point => rest point
  | fuel + 1, most, last, point =>
    if exhausted most last point then rest point
    else
      (round (greedily round rest fuel (most.map (· - 1)) (some point.offset)) point).orElse
        fun _ => rest point

def lazily (round : Runner) (rest : Continuation) :
    (fuel : Nat) → (most last : Option Nat) → Point → Option Point
  | 0, _, _, point => rest point
  | fuel + 1, most, last, point =>
    (rest point).orElse fun _ =>
      if exhausted most last point then none
      else round (lazily round rest fuel (most.map (· - 1)) (some point.offset)) point

def firstRounds (round : Runner) : (count : Nat) → Point → Option Point
  | 0, point => some point
  | count + 1, point => (round some point).bind (firstRounds round count)

def possessively (round : Runner) :
    (fuel : Nat) → (most last : Option Nat) → Point → Point
  | 0, _, _, point => point
  | fuel + 1, most, last, point =>
    if exhausted most last point then point
    else match round some point with
      | none => point
      | some next =>
        possessively round fuel (most.map (· - 1)) (some point.offset) next

def repeatRounds (pace : Pace) (least : Nat) (most : Option Nat) (round : Runner) : Runner :=
  fun rest point =>
    let spare := most.map (· - least)
    match pace with
    | .greedy =>
      rounds round (fun next => greedily round rest (next.after.length + 1) spare none next)
        least point
    | .lazy =>
      rounds round (fun next => lazily round rest (next.after.length + 1) spare none next)
        least point
    | .possessive =>
      ((firstRounds round least point).map fun next =>
        possessively round (next.after.length + 1) spare none next).bind rest

/-! ## Texts -/

/-- The rest begins with the given text, up to letter case if so asked. -/
def consumeText (folding : Folding) : List Char → Point → Option Point
  | [], point => some point
  | expected :: others, point =>
    match point.next? with
    | some (c, next) =>
      if folding.lower c.toNat == folding.lower expected.toNat then
        consumeText folding others next
      else none
    | none => none

/-! ## Expressions -/

def Expression.run : Expression → Runner
  | .empty => fun rest point => rest point
  | .one set => fun rest point =>
    match point.next? with
    | some (c, next) => if set.contains c then rest next else none
    | none => none
  | .anchor kind => fun rest point => if kind.holds point then rest point else none
  | .sequence first second => fun rest point => first.run (second.run rest) point
  | .choice first second => fun rest point =>
    (first.run rest point).orElse fun _ => second.run rest point
  | .repeated pace least most body => repeatRounds pace least most body.run
  | .enclosed body => body.run
  | .captured number body => fun rest point =>
    body.run (fun next => rest (next.markStop number)) (point.markStart number)
  | .atomic body => fun rest point => (body.run some point).bind rest
  | .look side negated body => fun rest point =>
    let found :=
      match side with
      | .ahead => body.run some point
      | .behind => (point.back? body.width.least).bind (body.run some)
    match negated, found with
    | false, some seen => rest (point.withSlots seen.slots)
    | false, none => none
    | true, some _ => none
    | true, none => rest point
  | .conditional number present absent => fun rest point =>
    if (point.span? number).isSome then present.run rest point else absent.run rest point
  | .backreference number _ folding => fun rest point =>
    match point.span? number with
    | some span => (consumeText folding (point.slice span) point).bind rest
    | none => none

def Expression.firstMatch (expression : Expression) (groups : Nat) (text : List Char) :
    Option Point :=
  expression.run some (.start groups text)

end RoutePattern.Regex
