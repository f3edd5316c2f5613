import RoutePattern.Character.Printable

/-! # Quoted text

How a text is shown inside a message:

* `quoteMark` — the surrounding mark: a single quote, unless the text holds single quotes and no
  double ones.
* `quoteChar` — one character between the marks; backslash, the mark and everything unprintable
  is written as an escape.
* `quote` — the whole text.
-/

namespace RoutePattern.Text

def hexDigit (value : Nat) : Char :=
  if value < 10 then Char.ofNat (48 + value) else Char.ofNat (87 + value)

/-- The last `width` hexadecimal digits of a number, the most significant first. -/
def hex : (width : Nat) → (value : Nat) → List Char
  | 0, _ => []
  | width + 1, value => hex width (value / 16) ++ [hexDigit (value % 16)]

/-- Single quotes surround a text, unless it holds single quotes but no double quote. -/
def quoteMark (text : List Char) : Char :=
  if text.contains '\'' && !text.contains '"' then '"' else '\''

def quoteChar (mark c : Char) : List Char :=
  if c == mark || c == '\\' then ['\\', c]
  else if c == '\n' then ['\\', 'n']
  else if c == '\r' then ['\\', 'r']
  else if c == '\t' then ['\\', 't']
  else if Character.isPrintable c.toNat then [c]
  else if c.toNat < 0x100 then '\\' :: 'x' :: hex 2 c.toNat
  else if c.toNat < 0x10000 then '\\' :: 'u' :: hex 4 c.toNat
  else '\\' :: 'U' :: hex 8 c.toNat

/-- A text between marks, with escapes where a character cannot stand for itself. -/
def quote (text : String) : String :=
  let chars := text.toList
  let mark := quoteMark chars
  String.ofList (mark :: chars.flatMap (quoteChar mark) ++ [mark])

def quoteAll (texts : List String) : String :=
  "[" ++ ", ".intercalate (texts.map quote) ++ "]"

end RoutePattern.Text
