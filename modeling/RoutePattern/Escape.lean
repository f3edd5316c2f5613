/-! # Literal text inside an expression

* `isSpecial` — the characters that mean something in a regular expression.
* `escape` — a text in which each of them is preceded by a backslash, so that the result
  accepts exactly the text.

Slashes, hyphens and white space mean nothing outside brackets and stay as they are.
-/

namespace RoutePattern

/-- The characters with a meaning of their own. -/
def isSpecial (c : Char) : Bool :=
  ['.', '*', '+', '?', '^', '$', '{', '}', '(', ')', '|', '[', ']', '\\'].contains c

/-- One character of a literal text as it is written in an expression. -/
def escapeChar (c : Char) : List Char :=
  if isSpecial c then ['\\', c] else [c]

def escape (text : String) : String :=
  String.ofList (text.toList.flatMap escapeChar)

end RoutePattern
