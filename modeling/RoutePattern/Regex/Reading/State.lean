import RoutePattern.Regex.Complaint
import RoutePattern.Regex.Expression
import RoutePattern.Regex.Flags
import RoutePattern.Regex.Token

/-! # The state of the reader

An expression is read token by token. Between two tokens the reader knows

* the parts read so far in the innermost open group (`items`, `branches`),
* the groups around it (`frames`), each with what was read before it,
* which groups have been opened and closed (`groups`, `names`),
* and what it is in the middle of (`Mode`): an escape, a bracketed set, a repetition count, the
  head of a group, a comment.

`position` is the place of the token that comes next. Complaints are made about places counted
back from there, and a `Fault` remembers how far the reader had looked when it complained.
-/

namespace RoutePattern.Regex

/-! ## Faults -/

/-- An error together with the position up to which the expression had been looked at. -/
structure Fault where
  error : RegexError
  reached : Nat
  deriving DecidableEq, Repr

/-! ## Modes -/

/-- An escape that may take more characters. -/
inductive Pending where
  -- The letter `x`, `u` or `U` and the hexadecimal digits so far.
  | hexadecimal (letter : Char) (digits : List Char)
  -- The octal digits so far.
  | octal (digits : List Char)
  -- A group number or, if three octal digits come together, a character code.
  | reference (digits : List Char)
  -- The letter `N`, whose name has not begun.
  | nameOpening
  -- The name of a character so far.
  | name (text : List Char)
  deriving DecidableEq, Repr

/-- What a bracketed set expects next. -/
inductive SetPhase where
  -- Right after the bracket, where a circumflex complements the set.
  | opening
  -- A member, or the closing bracket.
  | member
  -- A member has been read, and a hyphen would make it the start of a range.
  | read (element : Member) (written : List Char)
  -- The end of a range.
  | rangeEnd (element : Member) (written : List Char)
  deriving DecidableEq, Repr

/-- A bracketed set that is being read; the members stand in reverse. -/
structure SetDraft where
  start : Nat
  complement : Bool
  members : List Member
  phase : SetPhase
  deriving DecidableEq, Repr

/-- Where the character of an escape goes. -/
inductive Site where
  | sequence
  | set (draft : SetDraft) (written : List Char)
  deriving DecidableEq, Repr

/-- What the reader is in the middle of. -/
inductive Mode where
  -- Between two parts.
  | ordinary
  -- After a quantifier, which a further sign makes lazy or possessive.
  | quantified (least : Nat) (most : Option Nat)
  -- After an opening brace at `start`: digits, and digits after a comma.
  | counts (start : Nat) (low : List Char) (high : Option (List Char))
  -- In a comment that lasts to the end of the line.
  | lineComment
  -- In an escape.
  | escape (site : Site) (pending : Pending)
  -- In a bracketed set.
  | bracket (draft : SetDraft)
  -- After an opening parenthesis at `start`.
  | parenthesis (start : Nat)
  -- After a question mark behind the parenthesis.
  | extension (start : Nat)
  -- After the letter that introduces names.
  | naming (start : Nat)
  -- In the name of a new group.
  | groupName (start : Nat) (text : List Char)
  -- In the name of a group that is referred to.
  | referenceName (text : List Char)
  -- After an angle bracket that introduces a look behind.
  | behind (start : Nat)
  -- In the group number or name of a condition.
  | condition (start : Nat) (text : List Char)
  -- In a comment in parentheses.
  | comment (start : Nat)
  -- Among flags that are turned on.
  | flagsOn (start : Nat) (on : FlagSet)
  -- Among flags that are turned off, of which there is at least one.
  | flagsOff (start : Nat) (on : FlagSet) (off : Option FlagSet)
  deriving DecidableEq, Repr

/-! ## Groups -/

inductive GroupKind where
  | capture (number : Nat)
  | enclosed
  | atomic
  | look (side : Side) (negated : Bool)
  | conditional (number : Nat)
  deriving DecidableEq, Repr

/-- An open group with everything that holds again once it is closed. -/
structure Frame where
  kind : GroupKind
  start : Nat
  flags : Flags
  behindFrom : Option Nat
  branches : List Expression
  items : List Expression
  deriving DecidableEq, Repr

/-! ## The reader -/

/-- What is known between two tokens. Lists of parts and of open groups have the latest first. -/
structure Reader where
  position : Nat := 0
  mode : Mode := .ordinary
  flags : Flags := {}
  items : List Expression := []
  branches : List Expression := []
  frames : List Frame := []
  -- One entry per capturing group: its width once it is closed.
  groups : List (Option Width) := []
  names : List (String × Nat) := []
  -- The group numbers that conditions mention, with the place of their first mention.
  conditions : List (Nat × Nat) := []
  -- Inside a look behind, the number of the first group that may not be referred to.
  behindFrom : Option Nat := none
  globals : FlagSet := {}
  deriving DecidableEq, Repr

namespace Reader

/-- Complains about the place `back` characters before the next token. -/
def complain {α : Type} (reader : Reader) (complaint : Complaint) (back : Nat) :
    Except Fault α :=
  .error
    { error := .malformed complaint (some (reader.position - back)),
      reached := reader.position }

def complainAt {α : Type} (reader : Reader) (complaint : Complaint) (position : Nat) :
    Except Fault α :=
  .error { error := .malformed complaint (some position), reached := reader.position }

def push (reader : Reader) (item : Expression) : Reader :=
  { reader with mode := .ordinary, items := item :: reader.items }

def pushCode (reader : Reader) (code : Nat) : Reader :=
  reader.push (.one (.single reader.flags.folding code))

def branch (reader : Reader) : Expression :=
  .sequenceOf reader.items.reverse

def content (reader : Reader) : Expression :=
  .choiceOf (reader.branch :: reader.branches).reverse

/-- Ends a branch and begins the next one. -/
def nextBranch (reader : Reader) : Reader :=
  { reader with branches := reader.branch :: reader.branches, items := [] }

def openGroup (reader : Reader) (kind : GroupKind) (start : Nat) (flags : Flags) : Reader :=
  { reader with
    mode := .ordinary
    flags := flags
    frames :=
      { kind := kind, start := start, flags := reader.flags, behindFrom := reader.behindFrom,
        branches := reader.branches, items := reader.items } :: reader.frames
    branches := []
    items := [] }

def openCapture (reader : Reader) (start : Nat) : Reader :=
  { reader.openGroup (.capture (reader.groups.length + 1)) start reader.flags with
    groups := reader.groups ++ [none] }

/-- Opens a group that looks behind. Groups opened from here on may not be referred to until
    the outermost such group is closed. -/
def openBehind (reader : Reader) (negated : Bool) (start : Nat) : Reader :=
  { reader.openGroup (.look .behind negated) start reader.flags with
    behindFrom := reader.behindFrom.or (some (reader.groups.length + 1)) }

/-- The part that a group of the given kind becomes. -/
def groupItem (reader : Reader) : GroupKind → Expression
  | .capture number => .captured number reader.content
  | .enclosed => .enclosed reader.content
  | .atomic => .atomic reader.content
  | .look side negated => .look side negated reader.content
  | .conditional number =>
    match reader.branches with
    | [] => .conditional number reader.branch .empty
    | present :: _ => .conditional number present reader.branch

def groupsAfter (reader : Reader) : GroupKind → List (Option Width)
  | .capture number => reader.groups.set (number - 1) (some reader.content.width)
  | _ => reader.groups

def closeGroup (reader : Reader) : Reader :=
  match reader.frames with
  | [] => reader
  | frame :: outer =>
    { reader with
      mode := .ordinary
      flags := frame.flags
      frames := outer
      behindFrom := frame.behindFrom
      branches := frame.branches
      items := reader.groupItem frame.kind :: frame.items
      groups := reader.groupsAfter frame.kind }

def closedWidth? (reader : Reader) (number : Nat) : Option Width :=
  match number with
  | 0 => none
  | index + 1 => (reader.groups[index]?).join

/-- Inside a look behind, only groups closed before it may be referred to. -/
def checkBehind (reader : Reader) (number : Nat) : Except Fault Unit :=
  match reader.behindFrom with
  | none => .ok ()
  | some first =>
    if (reader.closedWidth? number).isNone then reader.complain .openGroup 0
    else if first ≤ number then reader.complain .groupOfSameLookBehind 0
    else .ok ()

def repeatLast (reader : Reader) (pace : Pace) (least : Nat) (most : Option Nat) : Reader :=
  match reader.items with
  | [] => reader
  | item :: rest =>
    { reader with mode := .ordinary, items := .repeated pace least most item :: rest }

/-- A quantifier that began at `start` has been read. It needs a part that can be repeated:
    an anchor cannot, and a repetition cannot be repeated again without parentheses. -/
def quantify (reader : Reader) (start least : Nat) (most : Option Nat) : Except Fault Reader :=
  match reader.items with
  | [] => reader.complainAt .nothingToRepeat start
  | .anchor _ :: _ => reader.complainAt .nothingToRepeat start
  | .repeated _ _ _ _ :: _ => reader.complainAt .multipleRepeat start
  | _ :: _ => .ok { reader with mode := .quantified least most }

end Reader

end RoutePattern.Regex
