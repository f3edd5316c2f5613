/-! # Tokens of a regular expression

The reader works on tokens: a character, or a backslash together with the character after it.

* `Token` — with its text and its width in the written expression.
* `tokens` — the tokens of a text.
* `endsInBackslash` — the text ends in a backslash that has no partner, which `tokens` leaves out.
-/

namespace RoutePattern.Regex

inductive Token where
  | plain (c : Char)
  | escaped (c : Char)
  deriving DecidableEq, Repr

namespace Token

def text : Token → List Char
  | .plain c => [c]
  | .escaped c => ['\\', c]

def width : Token → Nat
  | .plain _ => 1
  | .escaped _ => 2

end Token

/-- Pairs every backslash with the character after it; a last backslash without a partner is
    dropped. -/
def tokens : List Char → List Token
  | [] => []
  | [c] => if c = '\\' then [] else [.plain c]
  | c :: next :: rest =>
    if c = '\\' then .escaped next :: tokens rest else .plain c :: tokens (next :: rest)

/-- The text ends in a backslash that is not itself the partner of an earlier one. -/
def endsInBackslash : List Char → Bool
  | [] => false
  | [c] => c == '\\'
  | c :: next :: rest =>
    if c = '\\' then endsInBackslash rest else endsInBackslash (next :: rest)

end RoutePattern.Regex
