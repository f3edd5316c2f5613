/-! # Replacing one occurrence

* `replaceFirst` — the leftmost occurrence of a text gives way to another text.
-/

namespace RoutePattern.Text

/-- Replaces the leftmost occurrence of `token` by `value`; a text without `token` stays. -/
def replaceFirst (token value : List Char) : List Char → List Char
  | [] => if token.isEmpty then value else []
  | c :: rest =>
    if token.isPrefixOf (c :: rest) then value ++ (c :: rest).drop token.length
    else c :: replaceFirst token value rest

end RoutePattern.Text
