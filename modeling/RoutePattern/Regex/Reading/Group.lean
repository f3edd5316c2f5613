import RoutePattern.Character.Identifier
import RoutePattern.Regex.Numeral
import RoutePattern.Regex.Reading.State

/-! # Reading the heads of groups

What stands behind an opening parenthesis decides the kind of group:

* `Reader.takeExtension` — the character behind the question mark.
* `Reader.takeNaming`, `Reader.takeGroupName`, `Reader.takeReferenceName` — named groups and
  references to them.
* `Reader.takeBehind` — a look behind.
* `Reader.takeCondition` — the group that a condition asks for.
* `Reader.takeFlagOn`, `Reader.takeFlagOff` — flags, for the group or for the whole expression.
-/

namespace RoutePattern.Regex

/-- Group numbers from here on do not exist. -/
def groupLimit : Nat := 1073741823

/-- The token is a letter of some script; decides between two wordings. -/
def Token.isLetter : Token → Bool
  | .plain c => Character.isLetter c.toNat
  | .escaped _ => false

def Token.flagLetter? : Token → Option Char
  | .plain c => if FlagSet.letters.contains c then some c else none
  | .escaped _ => none

namespace Reader

/-! ## Names -/

/-- A name ends here: it must not be empty and must be an identifier. -/
def checkName (reader : Reader) (name : List Char) : Except Fault Unit :=
  if name.isEmpty then reader.complain (.missingName "group name") 1
  else if Character.isIdentifier name then .ok ()
  else reader.complain (.badNameCharacter name) (name.length + 1)

/-- The number of a named group. -/
def number? (reader : Reader) (name : List Char) : Option Nat :=
  reader.names.lookup (String.ofList name)

def openNamed (reader : Reader) (start : Nat) (name : List Char) : Except Fault Reader :=
  let number := reader.groups.length + 1
  match reader.number? name with
  | some earlier =>
    reader.complain (.redefinedName name number earlier) (name.length + 1)
  | none =>
    .ok { reader.openCapture start with
      names := reader.names ++ [(String.ofList name, number)] }

def takeGroupName (reader : Reader) (start : Nat) (text : List Char) (token : Token) :
    Except Fault Reader :=
  if token = .plain '>' then do
    reader.checkName text
    reader.openNamed start text
  else .ok { reader with mode := .groupName start (text ++ token.text) }

/-- One token of the name of a group that is referred to. The group must be closed. -/
def takeReferenceName (reader : Reader) (text : List Char) (token : Token) :
    Except Fault Reader :=
  if token = .plain ')' then do
    reader.checkName text
    match reader.number? text with
    | none => reader.complain (.unknownName text) (text.length + 1)
    | some number =>
      match reader.closedWidth? number with
      | none => reader.complain .openGroup (text.length + 1)
      | some width =>
        reader.checkBehind number
        .ok (reader.push (.backreference number width reader.flags.folding))
  else .ok { reader with mode := .referenceName (text ++ token.text) }

def takeNaming (reader : Reader) (start : Nat) (token : Token) : Except Fault Reader :=
  if token = .plain '<' then .ok { reader with mode := .groupName start [] }
  else if token = .plain '=' then .ok { reader with mode := .referenceName [] }
  else reader.complain (.unknownExtension ('P' :: token.text)) (token.width + 2)

/-! ## Looking behind -/

def takeBehind (reader : Reader) (start : Nat) (token : Token) : Except Fault Reader :=
  if token = .plain '=' then .ok (reader.openBehind false start)
  else if token = .plain '!' then .ok (reader.openBehind true start)
  else reader.complain (.unknownExtension ('<' :: token.text)) (token.width + 2)

/-! ## Conditions -/

/-- Remembers where a condition first mentions a group number. Whether the group exists is known
    only at the end of the expression. -/
def noteCondition (reader : Reader) (number place : Nat) : Reader :=
  if (reader.conditions.lookup number).isSome then reader
  else { reader with conditions := reader.conditions ++ [(number, place)] }

/-- The number of the group that a condition asks for, by name or by number. -/
def conditionNumber (reader : Reader) (text : List Char) : Except Fault (Nat × Bool) :=
  let back := text.length + 1
  if Character.isIdentifier text then
    match reader.number? text with
    | none => reader.complain (.unknownName text) back
    | some number => .ok (number, false)
  else match integer? text with
    | some (.ofNat number) =>
      if number = 0 then reader.complain .badGroupNumber back
      else if groupLimit ≤ number then reader.complain (.invalidReference number) back
      else .ok (number, true)
    | _ => reader.complain (.badNameCharacter text) back

def takeCondition (reader : Reader) (start : Nat) (text : List Char) (token : Token) :
    Except Fault Reader :=
  if token = .plain ')' then
    if text.isEmpty then reader.complain (.missingName "group name") 1
    else do
      let (number, byNumber) ← reader.conditionNumber text
      let noted :=
        if byNumber then reader.noteCondition number (reader.position - text.length - 1)
        else reader
      noted.checkBehind number
      .ok (noted.openGroup (.conditional number) start noted.flags)
  else .ok { reader with mode := .condition start (text ++ token.text) }

/-! ## Flags -/

/-- The complaint about a token that should have been a flag or the end of the flags. -/
def complainFlag {α : Type} (reader : Reader) (token : Token) (missing : Complaint) :
    Except Fault α :=
  reader.complain (if token.isLetter then .unknownFlag else missing) token.width

def turnOn (reader : Reader) (start : Nat) (on : FlagSet) (letter : Char) :
    Except Fault Reader :=
  if letter = 'L' then reader.complain .localeFlag 0
  else if (on.insert letter).conflicting then reader.complain .incompatibleTypes 0
  else .ok { reader with mode := .flagsOn start (on.insert letter) }

/-- Turns a flag off. The flags that choose an alphabet cannot be turned off. -/
def turnOff (reader : Reader) (start : Nat) (on off : FlagSet) (letter : Char) :
    Except Fault Reader :=
  if letter = 'L' || letter = 'a' || letter = 'u' then reader.complain .typeTurnedOff 0
  else .ok { reader with mode := .flagsOff start on (some (off.insert letter)) }

/-- Flags for the whole expression, which must come before everything else. -/
def applyGlobals (reader : Reader) (start : Nat) (on : FlagSet) : Except Fault Reader :=
  if reader.frames.isEmpty && reader.branches.isEmpty && reader.items.isEmpty then
    .ok { reader with
      mode := .ordinary
      flags := reader.flags.update on {}
      globals := reader.globals.union on }
  else reader.complainAt .misplacedGlobalFlags start

def takeFlagOn (reader : Reader) (start : Nat) (on : FlagSet) (token : Token) :
    Except Fault Reader :=
  if token = .plain ')' then reader.applyGlobals start on
  else if token = .plain ':' || token = .plain '-' then
    if on.template then reader.complain .globalTurnedOn 1
    else if token = .plain '-' then .ok { reader with mode := .flagsOff start on none }
    else .ok (reader.openGroup .enclosed start (reader.flags.update on {}))
  else match token.flagLetter? with
    | some letter => reader.turnOn start on letter
    | none => reader.complainFlag token .missingFlagEnd

def takeFlagOff (reader : Reader) (start : Nat) (on : FlagSet) (off : Option FlagSet)
    (token : Token) : Except Fault Reader :=
  match off with
  | none =>
    match token.flagLetter? with
    | some letter => reader.turnOff start on {} letter
    | none => reader.complainFlag token .missingFlag
  | some off =>
    if token = .plain ':' then
      if off.template then reader.complain .globalTurnedOff 1
      else if on.meets off then reader.complain .turnedOnAndOff 1
      else .ok (reader.openGroup .enclosed start (reader.flags.update on off))
    else match token.flagLetter? with
      | some letter => reader.turnOff start on off letter
      | none => reader.complainFlag token .missingColon

/-! ## The character behind the question mark -/

def takeExtension (reader : Reader) (start : Nat) (token : Token) : Except Fault Reader :=
  match token with
  | .plain 'P' => .ok { reader with mode := .naming start }
  | .plain ':' => .ok (reader.openGroup .enclosed start reader.flags)
  | .plain '#' => .ok { reader with mode := .comment start }
  | .plain '=' => .ok (reader.openGroup (.look .ahead false) start reader.flags)
  | .plain '!' => .ok (reader.openGroup (.look .ahead true) start reader.flags)
  | .plain '<' => .ok { reader with mode := .behind start }
  | .plain '(' => .ok { reader with mode := .condition start [] }
  | .plain '>' => .ok (reader.openGroup .atomic start reader.flags)
  | .plain '-' => .ok { reader with mode := .flagsOff start {} none }
  | _ =>
    match token.flagLetter? with
    | some letter => reader.turnOn start {} letter
    | none => reader.complain (.unknownExtension token.text) (token.width + 1)

end Reader

end RoutePattern.Regex
