import RoutePattern.Character.Case
import RoutePattern.Character.Letter
import RoutePattern.Character.Number
import RoutePattern.Character.Space

/-! # Sets of characters

What one place of a regular expression accepts:

* `Category` — digits, white space and word characters, of all scripts or of ASCII alone.
* `Folding` — whether letter case counts.
* `Charset` — listed code points, ranges and categories, possibly complemented.
* `Charset.contains` — membership of a character.

Members are code points and not characters, since an expression may name a surrogate, which no
text contains.
-/

namespace RoutePattern.Regex

inductive Category where
  | digit
  | space
  | word
  deriving DecidableEq, Repr

/-- Letters, numbers and the low line. -/
def isWord (code : Nat) : Bool :=
  code == 0x5f || Character.isLetter code || Character.isNumber code

def isAsciiLetter (code : Nat) : Bool :=
  (Nat.ble 0x41 code && Nat.ble code 0x5a) || (Nat.ble 0x61 code && Nat.ble code 0x7a)

def isAsciiDigit (code : Nat) : Bool :=
  Nat.ble 0x30 code && Nat.ble code 0x39

def Category.holds (ascii : Bool) (code : Nat) : Category → Bool
  | .digit => if ascii then isAsciiDigit code else Character.isDecimal code
  | .space =>
    if ascii then code == 0x20 || (Nat.ble 0x09 code && Nat.ble code 0x0d)
    else Character.isSpace code
  | .word =>
    if ascii then code == 0x5f || isAsciiLetter code || isAsciiDigit code else isWord code

/-! ## Letter case -/

/-- How letter case is treated: it counts, it is ignored for ASCII letters, or it is ignored for
    all letters. -/
inductive Folding where
  | exact
  | asciiCase
  | anyCase
  deriving DecidableEq, Repr

namespace Folding

def lower (code : Nat) : Folding → Nat
  | .exact => code
  | .asciiCase => if Nat.ble 0x41 code && Nat.ble code 0x5a then code + 0x20 else code
  | .anyCase => Character.lower code

/-- Equality of two code points in compared form. -/
def same (code other : Nat) : Folding → Bool
  | .exact => code == other
  | .asciiCase => code == other
  | .anyCase => Character.sameFold code other

/-- All code points whose compared form is the same letter as `code`, itself in compared form. -/
def sources (code : Nat) : Folding → List Nat
  | .exact => [code]
  | .asciiCase =>
    if Nat.ble 0x61 code && Nat.ble code 0x7a then [code, code - 0x20] else [code]
  | .anyCase => (Character.twins code).flatMap Character.lowerSources

end Folding

/-! ## Sets -/

inductive Member where
  | code (value : Nat)
  | range (low high : Nat)
  | category (kind : Category) (complement ascii : Bool)
  deriving DecidableEq, Repr

/-- The last code point of the basic plane. Case is looked up member by member up to here. -/
def lastBasic : Nat := 0xffff

/-- Whether a member holds a code point given in compared form.

    With folding, a code point of the basic plane stands for all its case variants, while one
    beyond it is compared as it is written, and a range that reaches beyond it is also tried with
    the upper-case form. -/
def Member.holds (folding : Folding) (code : Nat) : Member → Bool
  | .code value =>
    match folding with
    | .exact => value == code
    | _ =>
      if Nat.ble value lastBasic then folding.same (folding.lower value) code
      else value == code
  | .range low high =>
    match folding with
    | .exact => Nat.ble low code && Nat.ble code high
    | _ =>
      (folding.sources code).any
          (fun source => Nat.ble source lastBasic && Nat.ble low source && Nat.ble source high)
        || (Nat.blt lastBasic high
          && ((Nat.ble low code && Nat.ble code high)
            || (Nat.ble low (Character.upper code) && Nat.ble (Character.upper code) high)))
  | .category kind complement ascii => kind.holds ascii code != complement

/-- A set of characters: the members, or everything else. -/
structure Charset where
  complement : Bool
  members : List Member
  folding : Folding
  deriving DecidableEq, Repr

namespace Charset

def single (folding : Folding) (code : Nat) : Charset :=
  { complement := false, members := [.code (folding.lower code)], folding := folding }

/-- The set written between square brackets. A set that lists a single code point is that code
    point, or everything but it. -/
def ofMembers (complement : Bool) (members : List Member) (folding : Folding) : Charset :=
  match members.eraseDups with
  | [.code value] => { single folding value with complement := complement }
  | _ => { complement := complement, members := members, folding := folding }

def any (lineFeed : Bool) : Charset :=
  { complement := true, members := if lineFeed then [] else [.code 0x0a], folding := .exact }

def contains (set : Charset) (c : Char) : Bool :=
  set.members.any (·.holds set.folding (set.folding.lower c.toNat)) != set.complement

end Charset

end RoutePattern.Regex
