import RoutePattern.Character.Name
import RoutePattern.Regex.Numeral
import RoutePattern.Regex.Reading.State

/-! # Reading escapes

* `Reader.beginEscape`, `Reader.beginSetEscape` — the token that begins an escape, between parts
  and inside a bracketed set.
* `Pending.continues` — whether the next token still belongs to the escape.
* `Reader.concludeEscape` — what a finished escape means.
* `Reader.deliver` — hands the character of an escape to where it was written.
-/

namespace RoutePattern.Regex

def isEscapeLetter (c : Char) : Bool :=
  isAsciiLetter c.toNat

/-- Escapes that stand for one control character, inside and outside sets. -/
def controlEscape? : Char → Option Nat
  | 'a' => some 7
  | 'f' => some 12
  | 'n' => some 10
  | 'r' => some 13
  | 't' => some 9
  | 'v' => some 11
  | _ => none

/-- Escapes that stand for a class of characters, and whether they complement it. -/
def categoryEscape? : Char → Option (Category × Bool)
  | 'd' => some (.digit, false)
  | 'D' => some (.digit, true)
  | 's' => some (.space, false)
  | 'S' => some (.space, true)
  | 'w' => some (.word, false)
  | 'W' => some (.word, true)
  | _ => none

def hexadecimalLength (letter : Char) : Nat :=
  if letter = 'x' then 2 else if letter = 'u' then 4 else 8

/-- The last code point. -/
def lastCode : Nat := 0x10ffff

/-- Codes from here on are refused in the same way wherever they stand. -/
def codeLimit : Nat := 0x80000000

namespace Pending

/-- The next token belongs to the escape. -/
def continues (pending : Pending) (next : Token) : Bool :=
  match pending, next with
  | .hexadecimal letter digits, .plain c =>
    digits.length < hexadecimalLength letter && isHexDigit c
  | .octal digits, .plain c => digits.length < 3 && isOctalDigit c
  | .reference [_], .plain c => isDecimalDigit c
  | .reference [first, second], .plain c =>
    isOctalDigit first && isOctalDigit second && isOctalDigit c
  | .nameOpening, .plain c => c == '{'
  | .name _, _ => true
  | _, _ => false

end Pending

namespace Reader

/-! ## Inside sets -/

/-- A member of a bracketed set has been read. As the end of a range it must be a single code
    point that is not below the start. -/
def acceptMember (reader : Reader) (draft : SetDraft) (element : Member)
    (written : List Char) : Except Fault Reader :=
  match draft.phase with
  | .rangeEnd first firstWritten =>
    match first, element with
    | .code low, .code high =>
      if high < low then
        reader.complain (.badRange firstWritten written)
          (firstWritten.length + 1 + written.length)
      else
        .ok { reader with
          mode := .bracket
            { draft with members := .range low high :: draft.members, phase := .member } }
    | _, _ =>
      reader.complain (.badRange firstWritten written)
        (firstWritten.length + 1 + written.length)
  | _ => .ok { reader with mode := .bracket { draft with phase := .read element written } }

/-- Hands a code point to where its escape was written. -/
def deliver (reader : Reader) (site : Site) (code : Nat) : Except Fault Reader :=
  match site with
  | .sequence => .ok (reader.pushCode code)
  | .set draft written => reader.acceptMember draft (.code code) written

/-! ## The token that begins an escape -/

def await (reader : Reader) (site : Site) (pending : Pending) : Reader :=
  { reader with mode := .escape site pending }

def pushCategory (reader : Reader) (kind : Category) (complement : Bool) : Reader :=
  reader.push (.one
    { complement := false
      members := [.category kind complement reader.flags.ascii]
      folding := reader.flags.folding })

/-- A backslash and a character between two parts. A letter without a meaning is refused; any
    other character stands for itself. -/
def beginEscape (reader : Reader) (c : Char) : Except Fault Reader :=
  match categoryEscape? c, controlEscape? c with
  | some (kind, complement), _ => .ok (reader.pushCategory kind complement)
  | none, some code => .ok (reader.pushCode code)
  | none, none =>
    if c = 'A' then .ok (reader.push (.anchor .textStart))
    else if c = 'Z' then .ok (reader.push (.anchor .textEnd))
    else if c = 'b' then .ok (reader.push (.anchor (.wordEdge reader.flags.ascii)))
    else if c = 'B' then .ok (reader.push (.anchor (.wordInside reader.flags.ascii)))
    else if c = 'x' || c = 'u' || c = 'U' then .ok (reader.await .sequence (.hexadecimal c []))
    else if c = 'N' then .ok (reader.await .sequence .nameOpening)
    else if c = '0' then .ok (reader.await .sequence (.octal [c]))
    else if isDecimalDigit c then .ok (reader.await .sequence (.reference [c]))
    else if isEscapeLetter c then reader.complain (.badEscape ['\\', c]) 2
    else .ok (reader.pushCode c.toNat)

/-- A backslash and a character inside a bracketed set. There are no anchors and no references
    here, `b` is the backspace, and any octal digit begins a character code. -/
def beginSetEscape (reader : Reader) (draft : SetDraft) (c : Char) : Except Fault Reader :=
  let written := ['\\', c]
  match categoryEscape? c, controlEscape? c with
  | some (kind, complement), _ =>
    reader.acceptMember draft (.category kind complement reader.flags.ascii) written
  | none, some code => reader.acceptMember draft (.code code) written
  | none, none =>
    if c = 'b' then reader.acceptMember draft (.code 8) written
    else if c = 'x' || c = 'u' || c = 'U' then
      .ok (reader.await (.set draft written) (.hexadecimal c []))
    else if c = 'N' then .ok (reader.await (.set draft written) .nameOpening)
    else if isOctalDigit c then .ok (reader.await (.set draft written) (.octal [c]))
    else if isDecimalDigit c || isEscapeLetter c then reader.complain (.badEscape written) 2
    else reader.acceptMember draft (.code c.toNat) written

/-! ## The rest of an escape -/

/-- Takes a token that belongs to the escape. The closing brace of a character name ends it, and the
    name must be that of a character. -/
def continueEscape [Character.Names] (reader : Reader) (site : Site) (pending : Pending)
    (token : Token) : Except Fault Reader :=
  match pending with
  | .hexadecimal letter digits =>
    .ok (reader.await site (.hexadecimal letter (digits ++ token.text)))
  | .octal digits => .ok (reader.await site (.octal (digits ++ token.text)))
  | .reference digits => .ok (reader.await site (.reference (digits ++ token.text)))
  | .nameOpening => .ok (reader.await site (.name []))
  | .name text =>
    if token = .plain '}' then
      if text.isEmpty then reader.complain (.missingName "character name") 1
      else match Character.Names.find? text with
        | none => reader.complain (.undefinedCharacter text) (text.length + 4)
        | some c => reader.deliver site c.toNat
    else .ok (reader.await site (.name (text ++ token.text)))

/-- A character code in octal digits, which must fit a byte. -/
def concludeOctal (reader : Reader) (site : Site) (digits : List Char) :
    Except Fault Reader :=
  let code := numeral 8 digits
  if 0o377 < code then
    reader.complain (.octalTooLarge ('\\' :: digits)) (digits.length + 1)
  else reader.deliver site code

/-- A reference to a group by number, which must be closed. -/
def concludeReference (reader : Reader) (digits : List Char) : Except Fault Reader :=
  let number := numeral 10 digits
  if reader.groups.length < number then
    reader.complain (.invalidReference number) digits.length
  else
    match reader.closedWidth? number with
    | none => reader.complain .openGroup (digits.length + 1)
    | some width => do
      reader.checkBehind number
      .ok (reader.push (.backreference number width reader.flags.folding))

def concludeEscape (reader : Reader) (site : Site) (pending : Pending) :
    Except Fault Reader :=
  match pending with
  | .hexadecimal letter digits =>
    let written := '\\' :: letter :: digits
    if digits.length < hexadecimalLength letter then
      reader.complain (.incompleteEscape written) written.length
    else if codeLimit ≤ numeral 16 digits then
      .error { error := .codeTooLarge, reached := reader.position }
    else if lastCode < numeral 16 digits then
      reader.complain (.badEscape written) written.length
    else reader.deliver site (numeral 16 digits)
  | .octal digits => reader.concludeOctal site digits
  | .reference digits =>
    if digits.length = 3 then reader.concludeOctal site digits
    else reader.concludeReference digits
  | .nameOpening => reader.complain .missingBrace 0
  | .name text =>
    if text.isEmpty then reader.complain (.missingName "character name") 0
    else reader.complain (.unterminatedName '}') text.length

end Reader

end RoutePattern.Regex
