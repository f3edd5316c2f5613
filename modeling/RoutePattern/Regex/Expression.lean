import RoutePattern.Regex.Charset

/-! # Regular expressions

* `Expression` — the abstract form of a regular expression with groups, repetition, assertions
  and conditions.
* `Expression.sequenceOf`, `Expression.choiceOf` — many parts as nested pairs.
* `Width`, `Expression.width` — the least and greatest length of what an expression matches;
  the lengths saturate at `Width.unbounded`.
-/

namespace RoutePattern.Regex

inductive Anchor where
  -- The start of the text.
  | textStart
  -- The start of the text or of a line.
  | lineStart
  -- The end of the text.
  | textEnd
  -- The end of the text or of a line.
  | lineEnd
  -- The end of the text, or the place before a line feed that ends it.
  | lastLineEnd
  -- Between a word character and something else.
  | wordEdge (ascii : Bool)
  -- Between two word characters or two others.
  | wordInside (ascii : Bool)
  deriving DecidableEq, Repr

/-- How a repetition chooses its count: as many rounds as the rest allows, as few as the rest
    allows, or as many as there are, without looking at the rest. -/
inductive Pace where
  | greedy
  | lazy
  | possessive
  deriving DecidableEq, Repr

inductive Side where
  | ahead
  | behind
  deriving DecidableEq, Repr

/-! ## Widths -/

structure Width where
  least : Nat
  greatest : Nat
  deriving DecidableEq, Repr

namespace Width

/-- Lengths are counted up to here, and a greatest length of this size means "any". -/
def unbounded : Nat := 4294967295

/-- Cuts both bounds to the counted range. -/
def clip (least greatest : Nat) : Width :=
  { least := min least (unbounded - 1), greatest := min greatest unbounded }

def zero : Width := { least := 0, greatest := 0 }

def add (first second : Width) : Width :=
  clip (first.least + second.least) (first.greatest + second.greatest)

def join (first second : Width) : Width :=
  clip (min first.least second.least) (max first.greatest second.greatest)

def times (width : Width) (least : Nat) (most : Option Nat) : Width :=
  clip (width.least * least) (width.greatest * most.getD unbounded)

end Width

/-! ## Expressions -/

/-- The abstract form of a regular expression. -/
inductive Expression where
  -- Matches without consuming anything.
  | empty
  -- Consumes one character of a set.
  | one (set : Charset)
  -- Holds at a position.
  | anchor (kind : Anchor)
  -- One after the other.
  | sequence (first second : Expression)
  -- The first alternative that lets the rest match.
  | choice (first second : Expression)
  -- At least `least` and at most `most` rounds of the body.
  | repeated (pace : Pace) (least : Nat) (most : Option Nat) (body : Expression)
  -- Parentheses that capture nothing.
  | enclosed (body : Expression)
  -- Parentheses that record where their content matched.
  | captured (number : Nat) (body : Expression)
  -- The first way the body matches, and no other.
  | atomic (body : Expression)
  -- The body matches, or does not, beside the position.
  | look (side : Side) (negated : Bool) (body : Expression)
  -- One of two branches, depending on whether a group has matched.
  | conditional (number : Nat) (present absent : Expression)
  -- The text of an earlier group, whose width is `width`.
  | backreference (number : Nat) (width : Width) (folding : Folding)
  deriving DecidableEq, Repr

namespace Expression

/-- Expressions one after another. -/
def sequenceOf : List Expression → Expression
  | [] => .empty
  | first :: rest => .sequence first (sequenceOf rest)

/-- Alternatives, the first ones preferred. -/
def choiceOf : List Expression → Expression
  | [] => .empty
  | [last] => last
  | first :: rest => .choice first (choiceOf rest)

def width : Expression → Width
  | .empty => .zero
  | .one _ => { least := 1, greatest := 1 }
  | .anchor _ => .zero
  | .sequence first second => first.width.add second.width
  | .choice first second => first.width.join second.width
  | .repeated _ least most body => body.width.times least most
  | .enclosed body => body.width
  | .captured _ body => body.width
  | .atomic body => body.width
  | .look _ _ _ => .zero
  | .conditional _ present absent => present.width.join absent.width
  | .backreference _ width _ => width

end Expression

end RoutePattern.Regex
