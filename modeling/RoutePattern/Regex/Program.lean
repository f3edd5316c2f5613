import RoutePattern.Regex.Matching
import RoutePattern.Regex.Reading.Step

/-! # Compiled regular expressions

* `Program` — a written expression together with its abstract form and its groups.
* `Expression.flaw?` — what is wrong with an expression that can be read: a look behind whose
  width is not fixed, or a repetition where templates are asked for.
* `Program.compile` — from text to program, or the error.
* `Program.firstMatch`, `Program.accepts`, `Program.captures?` — matching from the start of a text.
-/

namespace RoutePattern.Regex

def Pace.operatorName : Pace → String
  | .greedy => "MAX_REPEAT"
  | .lazy => "MIN_REPEAT"
  | .possessive => "POSSESSIVE_REPEAT"

/-- The first flaw of an expression, from left to right and from outside in. -/
def Expression.flaw? (template : Bool) : Expression → Option Complaint
  | .empty | .one _ | .anchor _ | .backreference _ _ _ => none
  | .sequence first second => (first.flaw? template).or (second.flaw? template)
  | .choice first second => (first.flaw? template).or (second.flaw? template)
  | .repeated pace _ _ body =>
    if template then some (.templateOperator pace.operatorName) else body.flaw? template
  | .enclosed body => body.flaw? template
  | .captured _ body => body.flaw? template
  | .atomic body => body.flaw? template
  | .look .ahead _ body => body.flaw? template
  | .look .behind _ body =>
    if body.width.least = body.width.greatest then body.flaw? template
    else some .variableLookBehind
  | .conditional _ present absent => (present.flaw? template).or (absent.flaw? template)

structure Program where
  -- The expression as it was written.
  source : String
  expression : Expression
  -- The number of capturing groups.
  groups : Nat
  -- The names of groups, with their numbers.
  names : List (String × Nat)
  deriving DecidableEq, Repr

namespace Program

def compile [Character.Names] (source : String) : Except RegexError Program :=
  match read source.toList with
  | .error error => .error error
  | .ok reader =>
    match reader.content.flaw? reader.globals.template with
    | some complaint => .error (.malformed complaint none)
    | none =>
      .ok
        { source := source
          expression := reader.content
          groups := reader.groups.length
          names := reader.names }

def firstMatch (program : Program) (text : String) : Option Point :=
  program.expression.firstMatch program.groups text.toList

/-- A match begins at the start of the text. -/
def accepts (program : Program) (text : String) : Bool :=
  (program.firstMatch text).isSome

/-- The texts of the groups in the first match, absent for groups that took no part. -/
def captures? (program : Program) (text : String) : Option (List (Option String)) :=
  (program.firstMatch text).map Point.captures

end Program

end RoutePattern.Regex
