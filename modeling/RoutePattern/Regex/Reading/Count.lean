import RoutePattern.Regex.Numeral
import RoutePattern.Regex.Reading.State

/-! # Reading repetition counts

Counts stand in braces: `{3}`, `{3,}`, `{,5}`, `{3,5}`. Braces that hold something else, or
nothing, are ordinary characters.

* `countsContinue` — whether the next token still belongs to the counts.
* `Reader.takeCount` — one token of the counts; the closing brace applies them.
* `Reader.abandonCounts` — the braces turn out to be ordinary characters.
-/

namespace RoutePattern.Regex

/-- The next token belongs to the counts: a digit, the first comma, or the closing brace of
    braces that are not empty. -/
def countsContinue (low : List Char) (high : Option (List Char)) (next : Token) : Bool :=
  match next with
  | .plain c =>
    isDecimalDigit c || (c == ',' && high.isNone) || (c == '}' && !(low.isEmpty && high.isNone))
  | .escaped _ => false

/-- Counts from this value on are refused. -/
def countLimit : Nat := 4294967295

namespace Reader

/-- The characters read since the brace were ordinary ones. -/
def abandonCounts (reader : Reader) (low : List Char) (high : Option (List Char)) : Reader :=
  let written := '{' :: low ++ (high.map (',' :: ·)).getD []
  written.foldl (fun reader c => reader.pushCode c.toNat) reader

/-- Applies the counts. A missing least count is zero, a missing greatest count is "any", and
    without a comma both are the same. -/
def applyCounts (reader : Reader) (start : Nat) (low : List Char)
    (high : Option (List Char)) : Except Fault Reader :=
  let highDigits := high.getD low
  let least := numeral 10 low
  let most := if highDigits.isEmpty then none else some (numeral 10 highDigits)
  if countLimit ≤ least || countLimit ≤ most.getD 0 then
    .error { error := .repetitionTooLarge, reached := reader.position }
  else if most.any (· < least) then reader.complainAt .leastAboveMost (start + 1)
  else reader.quantify start least most

def takeCount (reader : Reader) (start : Nat) (low : List Char) (high : Option (List Char))
    (token : Token) : Except Fault Reader :=
  if token = .plain '}' then reader.applyCounts start low high
  else match high with
    | none =>
      if token = .plain ',' then .ok { reader with mode := .counts start low (some []) }
      else .ok { reader with mode := .counts start (low ++ token.text) none }
    | some digits =>
      .ok { reader with mode := .counts start low (some (digits ++ token.text)) }

end Reader

end RoutePattern.Regex
