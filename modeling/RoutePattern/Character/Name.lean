/-! # Names of characters

The Unicode standard names characters, and expressions may write characters by their names. The
table of all names is not part of this library: whatever reads names takes it as given.

* `Names` — a table of names.
* `asciiNames` — the names of the printable ASCII characters. This table is used where no other is
  given.
-/

namespace RoutePattern.Character

/-- A table of names, which says what character a name stands for, if any. -/
class Names where
  find? (name : List Char) : Option Char

/-- Runs of characters by their names, each with the code point it begins with. -/
def asciiNameRuns : List (Nat × List String) :=
  let capitals := "ABCDEFGHIJKLMNOPQRSTUVWXYZ".toList.map Char.toString
  [ (0x20,
      [ "SPACE", "EXCLAMATION MARK", "QUOTATION MARK", "NUMBER SIGN", "DOLLAR SIGN",
        "PERCENT SIGN", "AMPERSAND", "APOSTROPHE", "LEFT PARENTHESIS", "RIGHT PARENTHESIS",
        "ASTERISK", "PLUS SIGN", "COMMA", "HYPHEN-MINUS", "FULL STOP", "SOLIDUS", "DIGIT ZERO",
        "DIGIT ONE", "DIGIT TWO", "DIGIT THREE", "DIGIT FOUR", "DIGIT FIVE", "DIGIT SIX",
        "DIGIT SEVEN", "DIGIT EIGHT", "DIGIT NINE", "COLON", "SEMICOLON", "LESS-THAN SIGN",
        "EQUALS SIGN", "GREATER-THAN SIGN", "QUESTION MARK", "COMMERCIAL AT" ]),
    (0x41, capitals.map ("LATIN CAPITAL LETTER " ++ ·)),
    (0x5b,
      [ "LEFT SQUARE BRACKET", "REVERSE SOLIDUS", "RIGHT SQUARE BRACKET", "CIRCUMFLEX ACCENT",
        "LOW LINE", "GRAVE ACCENT" ]),
    (0x61, capitals.map ("LATIN SMALL LETTER " ++ ·)),
    (0x7b, ["LEFT CURLY BRACKET", "VERTICAL LINE", "RIGHT CURLY BRACKET", "TILDE"]) ]

/-- Letter case does not count in names. -/
instance (priority := low) asciiNames : Names where
  find? name :=
    let written := String.ofList (name.map Char.toUpper)
    asciiNameRuns.findSome? fun (first, names) =>
      (names.idxOf? written).map fun index => Char.ofNat (first + index)

example : Names.find? "digit one".toList = some '1' := by decide +kernel

end RoutePattern.Character
