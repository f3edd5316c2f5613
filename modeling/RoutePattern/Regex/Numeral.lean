import RoutePattern.Character.Number
import RoutePattern.Character.Space

/-! # Numerals in expressions

* `digitValue`, `numeral` — the value of digits in a base up to sixteen.
* `isOctalDigit`, `isDecimalDigit`, `isHexDigit` — the ASCII digits of each base.
* `integer?` — a decimal integer as it may stand in the head of a condition: surrounded by white
  space, signed, with single low lines between digits, in the digits of any script.
-/

namespace RoutePattern.Regex

def digitValue (c : Char) : Nat :=
  let code := c.toNat
  if code < 0x3a then code - 0x30 else if code < 0x47 then code - 0x37 else code - 0x57

def numeral (base : Nat) (digits : List Char) : Nat :=
  digits.foldl (fun value c => base * value + digitValue c) 0

def isOctalDigit (c : Char) : Bool :=
  Nat.ble 0x30 c.toNat && Nat.ble c.toNat 0x37

def isDecimalDigit (c : Char) : Bool :=
  Nat.ble 0x30 c.toNat && Nat.ble c.toNat 0x39

def isHexDigit (c : Char) : Bool :=
  isDecimalDigit c || (Nat.ble 0x41 c.toNat && Nat.ble c.toNat 0x46)
    || (Nat.ble 0x61 c.toNat && Nat.ble c.toNat 0x66)

/-! ## Integers -/

/-- The ASCII characters that count as white space around an integer. -/
def isIntegerSpace (c : Char) : Bool :=
  c == ' ' || (Nat.ble 0x09 c.toNat && Nat.ble c.toNat 0x0d)

/-- Beyond ASCII, white space becomes a space and a decimal digit the ASCII digit of its value;
    everything else becomes a question mark, which no integer contains. -/
def plainNumeralChar (c : Char) : Char :=
  if c.toNat < 0x7f then c
  else if Character.isSpace c.toNat then ' '
  else match Character.decimalValue? c.toNat with
    | some value => Char.ofNat (0x30 + value)
    | none => '?'

/-- Digits with single low lines between them; `value` is what has been read and `afterDigit`
    tells whether the character before was a digit. -/
def digitsWithLowLines? : (value : Nat) → (afterDigit : Bool) → List Char → Option Nat
  | value, afterDigit, [] => if afterDigit then some value else none
  | value, afterDigit, c :: rest =>
    if isDecimalDigit c then digitsWithLowLines? (10 * value + digitValue c) true rest
    else if c = '_' && afterDigit then digitsWithLowLines? value false rest
    else none

def trimIntegerSpace (text : List Char) : List Char :=
  ((text.dropWhile isIntegerSpace).reverse.dropWhile isIntegerSpace).reverse

def integer? (text : List Char) : Option Int :=
  match trimIntegerSpace (text.map plainNumeralChar) with
  | '-' :: digits => (digitsWithLowLines? 0 false digits).map fun value => -(value : Int)
  | '+' :: digits => (digitsWithLowLines? 0 false digits).map fun value => (value : Int)
  | digits => (digitsWithLowLines? 0 false digits).map fun value => (value : Int)

end RoutePattern.Regex
