import RoutePattern.Failure
import RoutePattern.Regex.Program

/-! # Settings

* `Settings` — the capture fragment of each kind of placeholder, and whether a leading and a
  trailing slash are optional.
* `Settings.check` — a fragment is spliced into larger expressions, once per placeholder, so it
  must be an expression with exactly one group, without a name and without references back.
* `refersBack` — the textual test for references.
-/

namespace RoutePattern

structure Settings where
  -- What a placeholder inside one segment accepts.
  singleCapture : String := "([\\w.\\-]+)"
  -- What a placeholder for several segments accepts.
  multiCapture : String := "([\\w/.\\-]+)"
  -- Paths may leave out or add a leading and a trailing slash.
  optionalSlashes : Bool := true
  deriving DecidableEq, Repr

/-! ## References back -/

/-- The digits that begin a group number. -/
def isReferenceDigit (c : Char) : Bool :=
  Nat.ble 0x31 c.toNat && Nat.ble c.toNat 0x39

/-- A digit from 1 to 9 follows a run of backslashes of odd length. `odd` is the parity of the
    run that ends before the text. -/
def hasNumberedReference : (odd : Bool) → List Char → Bool
  | _, [] => false
  | odd, c :: rest =>
    if c = '\\' then hasNumberedReference (!odd) rest
    else (odd && isReferenceDigit c) || hasNumberedReference false rest

def namedReferenceOpening : List Char := ['(', '?', 'P', '=']

def containsText (wanted : List Char) : List Char → Bool
  | [] => wanted.isEmpty
  | c :: rest => wanted.isPrefixOf (c :: rest) || containsText wanted rest

/-- A fragment holds what looks like a reference to a group, by number or by name. -/
def refersBack (fragment : String) : Bool :=
  hasNumberedReference false fragment.toList
    || containsText namedReferenceOpening fragment.toList

/-! ## Validation -/

namespace Settings

def capture (settings : Settings) : Reach → String
  | .single => settings.singleCapture
  | .multi => settings.multiCapture

def checkCapture [Character.Names] (settings : Settings) (reach : Reach) :
    Except Failure Unit :=
  let fragment := settings.capture reach
  match Regex.Program.compile fragment with
  | .error error => .error (.ofRegexError (.malformedFragment reach fragment) error)
  | .ok program =>
    if program.groups ≠ 1 then
      .error (.configuration (.groupCount reach fragment program.groups))
    else if !program.names.isEmpty then .error (.configuration (.namedGroup reach fragment))
    else if refersBack fragment then .error (.configuration (.backreference reach fragment))
    else .ok ()

def check [Character.Names] (settings : Settings) : Except Failure Unit := do
  settings.checkCapture .single
  settings.checkCapture .multi

def showFlag (flag : Bool) : String :=
  if flag then "True" else "False"

def display (settings : Settings) : String :=
  "MapperConfig(single_capture=" ++ Text.quote settings.singleCapture
    ++ ", multi_capture=" ++ Text.quote settings.multiCapture
    ++ ", optional_slashes=" ++ showFlag settings.optionalSlashes ++ ")"

end Settings

end RoutePattern
