import RoutePattern.Regex.Reading.Bracket
import RoutePattern.Regex.Reading.Count
import RoutePattern.Regex.Reading.Group

/-! # Reading an expression

* `Reader.settle` — decides, by looking at the next token, whether what the reader is in the
  middle of is over.
* `Reader.vet` — refuses a token that cannot stand where it stands.
* `Reader.take` — consumes a token.
* `Reader.step` — the three together; an expression is read by folding `step` over its tokens.
* `Reader.finish` — the end of the expression.
* `read` — from the written expression to the abstract one.
-/

namespace RoutePattern.Regex

def isPatternSpace (c : Char) : Bool :=
  c == ' ' || (Nat.ble 0x09 c.toNat && Nat.ble c.toNat 0x0d)

namespace Reader

/-! ## Before a token is consumed -/

/-- A further sign behind a quantifier, which says how it chooses. -/
def paceSign? : Token → Option Pace
  | .plain '?' => some .lazy
  | .plain '+' => some .possessive
  | _ => none

/-- Ends what does not go on with the next token (`none` at the end of the expression). -/
def settle (reader : Reader) (next : Option Token) : Except Fault Reader :=
  match reader.mode with
  | .quantified least most =>
    if (next.bind paceSign?).isSome then .ok reader
    else .ok (reader.repeatLast .greedy least most)
  | .counts _ low high =>
    if next.any (countsContinue low high) then .ok reader
    else .ok { reader.abandonCounts low high with mode := .ordinary }
  | .escape site pending =>
    if next.any pending.continues then .ok reader else reader.concludeEscape site pending
  | .parenthesis start =>
    if next = some (.plain '?') then .ok reader else .ok (reader.openCapture start)
  | _ => .ok reader

/-- The innermost open group asks a condition whose second branch is being read. -/
def inLastBranch (reader : Reader) : Bool :=
  match reader.frames with
  | { kind := .conditional _, .. } :: _ => !reader.branches.isEmpty
  | _ => false

/-- Refuses a closing parenthesis without an opening one, and a third branch of a condition. -/
def vet (reader : Reader) (token : Token) : Except Fault Unit :=
  match reader.mode with
  | .ordinary =>
    if token = .plain ')' && reader.frames.isEmpty then
      if reader.globals.conflicting then
        .error { error := .conflictingAlphabets, reached := reader.position }
      else reader.complain .unbalancedParenthesis 0
    else if token = .plain '|' && reader.inLastBranch then reader.complain .tooManyBranches 0
    else .ok ()
  | _ => .ok ()

/-! ## Consuming a token -/

def takePlain (reader : Reader) (c : Char) : Except Fault Reader :=
  match c with
  | '.' => .ok (reader.push (.one (.any reader.flags.dotAll)))
  | '[' => .ok reader.openBracket
  | '(' => .ok { reader with mode := .parenthesis (reader.position - 1) }
  | ')' => .ok reader.closeGroup
  | '|' => .ok reader.nextBranch
  | '^' =>
    .ok (reader.push (.anchor (if reader.flags.multiLine then .lineStart else .textStart)))
  | '$' =>
    .ok (reader.push (.anchor (if reader.flags.multiLine then .lineEnd else .lastLineEnd)))
  | '*' => reader.quantify (reader.position - 1) 0 none
  | '+' => reader.quantify (reader.position - 1) 1 none
  | '?' => reader.quantify (reader.position - 1) 0 (some 1)
  | '{' => .ok { reader with mode := .counts (reader.position - 1) [] none }
  | _ => .ok (reader.pushCode c.toNat)

/-- A token between two parts. Verbose expressions skip white space and comments. -/
def takeOrdinary (reader : Reader) : Token → Except Fault Reader
  | .escaped c => reader.beginEscape c
  | .plain c =>
    if reader.flags.verbose && isPatternSpace c then .ok reader
    else if reader.flags.verbose && c == '#' then .ok { reader with mode := .lineComment }
    else reader.takePlain c

def take [Character.Names] (reader : Reader) (token : Token) : Except Fault Reader :=
  match reader.mode with
  | .ordinary => reader.takeOrdinary token
  | .quantified least most =>
    .ok (reader.repeatLast ((paceSign? token).getD .greedy) least most)
  | .counts start low high => reader.takeCount start low high token
  | .lineComment =>
    .ok (if token = .plain '\n' then { reader with mode := .ordinary } else reader)
  | .escape site pending => reader.continueEscape site pending token
  | .bracket draft => reader.takeInBracket draft token
  | .parenthesis start => .ok { reader with mode := .extension start }
  | .extension start => reader.takeExtension start token
  | .naming start => reader.takeNaming start token
  | .groupName start text => reader.takeGroupName start text token
  | .referenceName text => reader.takeReferenceName text token
  | .behind start => reader.takeBehind start token
  | .condition start text => reader.takeCondition start text token
  | .comment _ =>
    .ok (if token = .plain ')' then { reader with mode := .ordinary } else reader)
  | .flagsOn start on => reader.takeFlagOn start on token
  | .flagsOff start on off => reader.takeFlagOff start on off token

def step [Character.Names] (reader : Reader) (token : Token) : Except Fault Reader := do
  let reader ← reader.settle (some token)
  reader.vet token
  { reader with position := reader.position + token.width }.take token

/-! ## The end -/

def complainName {α : Type} (reader : Reader) (text : List Char) (terminator : Char) :
    Except Fault α :=
  if text.isEmpty then reader.complain (.missingName "group name") 0
  else reader.complain (.unterminatedName terminator) text.length

def checkClosed (reader : Reader) : Except Fault Unit :=
  match reader.mode with
  | .bracket draft => reader.complainAt .unterminatedSet draft.start
  | .comment start => reader.complainAt .unterminatedComment start
  | .extension _ | .naming _ | .behind _ => reader.complain .unexpectedEnd 0
  | .groupName _ text => reader.complainName text '>'
  | .referenceName text => reader.complainName text ')'
  | .condition _ text => reader.complainName text ')'
  | .flagsOn _ _ => reader.complain .missingFlagEnd 0
  | .flagsOff _ _ none => reader.complain .missingFlag 0
  | .flagsOff _ _ (some _) => reader.complain .missingColon 0
  | _ =>
    match reader.frames with
    | [] => .ok ()
    | frame :: _ => reader.complainAt .unterminatedGroup frame.start

/-- Every group that a condition asks for by number exists. -/
def checkConditions (reader : Reader) : Except Fault Unit :=
  match reader.conditions.find? (reader.groups.length < ·.1) with
  | none => .ok ()
  | some (number, place) => reader.complainAt (.invalidReference number) place

def finish (reader : Reader) : Except Fault Reader := do
  let reader ← reader.settle none
  reader.checkClosed
  if reader.globals.conflicting then
    .error { error := .conflictingAlphabets, reached := reader.position }
  else
    reader.checkConditions
    .ok reader

end Reader

/-! ## Whole expressions -/

/-- A lone backslash at the end is noticed as soon as the reader looks at it, which is before any
    complaint made with that backslash in view. -/
def noticeTrailing (text : List Char) (fault : Fault) : RegexError :=
  if endsInBackslash text && text.length ≤ fault.reached + 1 then
    .malformed .trailingBackslash (some (text.length - 1))
  else fault.error

def read [Character.Names] (text : List Char) : Except RegexError Reader :=
  match (tokens text).foldlM Reader.step {} with
  | .error fault => .error (noticeTrailing text fault)
  | .ok reader =>
    if endsInBackslash text then
      .error (.malformed .trailingBackslash (some (text.length - 1)))
    else match reader.finish with
      | .error fault => .error fault.error
      | .ok reader => .ok reader

end RoutePattern.Regex
