/-! # Segments of a pattern

A pattern such as `/pages/[...page].json` is cut at its slashes, and each segment is either
literal text or a placeholder followed by a literal suffix.

* `Reach` — whether a placeholder stands for part of one segment of a path or for several
  segments.
* `Segment.ofText` — classifies the text of a segment. A segment that does not begin with a
  complete placeholder is literal as a whole.
* `Segment.source` — the text that a segment was written as.
-/

namespace RoutePattern

/-- How far a placeholder reaches: `[id]` stays inside one segment of a path, `[...id]` may
    span several. -/
inductive Reach where
  | single
  | multi
  deriving DecidableEq, Repr

namespace Reach

/-- What stands before the name of a placeholder. -/
def opening : Reach → List Char
  | .single => ['[']
  | .multi => ['[', '.', '.', '.']

/-- The placeholder for a name as it is written in a pattern. -/
def token (reach : Reach) (name : String) : String :=
  String.ofList (reach.opening ++ name.toList ++ [']'])

end Reach

/-- One segment of a pattern. -/
inductive Segment where
  | literal (value : String)
  | placeholder (reach : Reach) (name suffix : String)
  deriving DecidableEq, Repr

/-- The characters of placeholder names: ASCII letters and digits. -/
def isNameChar (c : Char) : Bool :=
  c.isAlphanum

/-- What is left of a text after the given beginning. -/
def afterOpening? : (opening : List Char) → List Char → Option (List Char)
  | [], text => some text
  | _ :: _, [] => none
  | expected :: others, c :: rest => if c = expected then afterOpening? others rest else none

/-- The name and the suffix, if the text begins with a placeholder of the given reach. -/
def readPlaceholder? (reach : Reach) (text : List Char) : Option (List Char × List Char) :=
  match afterOpening? reach.opening text with
  | none => none
  | some body =>
    match body.takeWhile isNameChar, body.dropWhile isNameChar with
    | [], _ => none
    | name, ']' :: suffix => some (name, suffix)
    | _, _ => none

namespace Segment

/-- A placeholder of the given reach, if the text begins with one. -/
def placeholder? (reach : Reach) (text : List Char) : Option Segment :=
  (readPlaceholder? reach text).map fun (name, suffix) =>
    .placeholder reach (String.ofList name) (String.ofList suffix)

def ofText (text : String) : Segment :=
  ((placeholder? .multi text.toList).or (placeholder? .single text.toList)).getD
    (.literal text)

/-- The text of a segment as it stands in a pattern. -/
def source : Segment → String
  | .literal value => value
  | .placeholder reach name suffix => reach.token name ++ suffix

end Segment

end RoutePattern
