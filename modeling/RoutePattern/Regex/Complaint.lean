import RoutePattern.Text.Quoted

/-! # What can be wrong with a regular expression

* `Complaint` — the causes, with `Complaint.message`.
* `RegexError` — a complaint about a place in the expression, or one of the refusals that concern
  no place.
* `RegexError.message` — the wording, which counts lines and columns when the expression has
  more than one line.
-/

namespace RoutePattern.Regex

/-- A reason to refuse an expression. Texts are quoted from the expression. -/
inductive Complaint where
  | trailingBackslash
  | unbalancedParenthesis
  | unterminatedSet
  | badRange (low high : List Char)
  | nothingToRepeat
  | multipleRepeat
  | leastAboveMost
  | unexpectedEnd
  | unknownExtension (written : List Char)
  | unterminatedGroup
  | unterminatedComment
  | missingName (what : String)
  | unterminatedName (terminator : Char)
  | badNameCharacter (name : List Char)
  | unknownName (name : List Char)
  | redefinedName (name : List Char) (number earlier : Nat)
  | openGroup
  | groupOfSameLookBehind
  | badGroupNumber
  | invalidReference (number : Nat)
  | tooManyBranches
  | badEscape (written : List Char)
  | incompleteEscape (written : List Char)
  | octalTooLarge (written : List Char)
  | missingBrace
  | undefinedCharacter (name : List Char)
  | missingFlagEnd
  | missingColon
  | missingFlag
  | unknownFlag
  | localeFlag
  | incompatibleTypes
  | typeTurnedOff
  | globalTurnedOn
  | globalTurnedOff
  | turnedOnAndOff
  | misplacedGlobalFlags
  | variableLookBehind
  | templateOperator (operator : String)
  deriving DecidableEq, Repr

def Complaint.message : Complaint → String
  | .trailingBackslash => "bad escape (end of pattern)"
  | .unbalancedParenthesis => "unbalanced parenthesis"
  | .unterminatedSet => "unterminated character set"
  | .badRange low high =>
    "bad character range " ++ String.ofList low ++ "-" ++ String.ofList high
  | .nothingToRepeat => "nothing to repeat"
  | .multipleRepeat => "multiple repeat"
  | .leastAboveMost => "min repeat greater than max repeat"
  | .unexpectedEnd => "unexpected end of pattern"
  | .unknownExtension written => "unknown extension ?" ++ String.ofList written
  | .unterminatedGroup => "missing ), unterminated subpattern"
  | .unterminatedComment => "missing ), unterminated comment"
  | .missingName what => "missing " ++ what
  | .unterminatedName terminator => "missing " ++ terminator.toString ++ ", unterminated name"
  | .badNameCharacter name =>
    "bad character in group name " ++ Text.quote (String.ofList name)
  | .unknownName name => "unknown group name " ++ Text.quote (String.ofList name)
  | .redefinedName name number earlier =>
    "redefinition of group name " ++ Text.quote (String.ofList name) ++ " as group "
      ++ toString number ++ "; was group " ++ toString earlier
  | .openGroup => "cannot refer to an open group"
  | .groupOfSameLookBehind =>
    "cannot refer to group defined in the same lookbehind subpattern"
  | .badGroupNumber => "bad group number"
  | .invalidReference number => "invalid group reference " ++ toString number
  | .tooManyBranches => "conditional backref with more than two branches"
  | .badEscape written => "bad escape " ++ String.ofList written
  | .incompleteEscape written => "incomplete escape " ++ String.ofList written
  | .octalTooLarge written =>
    "octal escape value " ++ String.ofList written ++ " outside of range 0-0o377"
  | .missingBrace => "missing \x7b"
  | .undefinedCharacter name =>
    "undefined character name " ++ Text.quote (String.ofList name)
  | .missingFlagEnd => "missing -, : or )"
  | .missingColon => "missing :"
  | .missingFlag => "missing flag"
  | .unknownFlag => "unknown flag"
  | .localeFlag => "bad inline flags: cannot use 'L' flag with a str pattern"
  | .incompatibleTypes => "bad inline flags: flags 'a', 'u' and 'L' are incompatible"
  | .typeTurnedOff => "bad inline flags: cannot turn off flags 'a', 'u' and 'L'"
  | .globalTurnedOn => "bad inline flags: cannot turn on global flag"
  | .globalTurnedOff => "bad inline flags: cannot turn off global flag"
  | .turnedOnAndOff => "bad inline flags: flag turned on and off"
  | .misplacedGlobalFlags => "global flags not at the start of the expression"
  | .variableLookBehind => "look-behind requires fixed-width pattern"
  | .templateOperator operator => "internal: unsupported template operator " ++ operator

inductive RegexError where
  -- The expression is malformed, at a place if the complaint concerns one.
  | malformed (complaint : Complaint) (position : Option Nat)
  -- A repetition count lies outside the counted range.
  | repetitionTooLarge
  -- The code of a character lies far outside the range of code points.
  | codeTooLarge
  -- The expression asks for ASCII and for all scripts at once.
  | conflictingAlphabets
  deriving DecidableEq, Repr

/-- The place of a complaint in words. In an expression of several lines the line and the
    distance from the line's start follow. -/
def placeText (expression : List Char) (position : Nat) : String :=
  let before := expression.take position
  let column := (before.reverse.takeWhile (· != '\n')).length + 1
  " at position " ++ toString position ++
    if expression.contains '\n' then
      " (line " ++ toString (before.count '\n' + 1) ++ ", column " ++ toString column ++ ")"
    else ""

def RegexError.message (expression : String) : RegexError → String
  | .malformed complaint position =>
    complaint.message ++ (position.map (placeText expression.toList)).getD ""
  | .repetitionTooLarge => "the repetition number is too large"
  -- The runtime that words it so puts its own name before.
  | .codeTooLarge => "int too large to convert to C int"
  | .conflictingAlphabets => "ASCII and UNICODE flags are incompatible"

end RoutePattern.Regex
