import RoutePattern.Regex.Complaint
import RoutePattern.Segment

/-! # Failures

* `ConfigurationFault` — what is wrong with settings, with a pattern under them, or with the order
  of operations on a table.
* `Failure` — everything an operation can fail with.
* `Failure.message`, `Failure.kind`, `Failure.lineage` — the wording, the name of the kind, and the
  names of the kinds it specialises.
-/

namespace RoutePattern

/-- The setting that holds the capture fragment for placeholders of a reach. -/
def Reach.settingName : Reach → String
  | .single => "single_capture"
  | .multi => "multi_capture"

inductive ConfigurationFault where
  -- A fault in the words of whoever reports it.
  | stated (message : String)
  -- A capture fragment is no regular expression.
  | malformedFragment (reach : Reach) (fragment : String) (error : Regex.RegexError)
  -- A capture fragment has no group, or several.
  | groupCount (reach : Reach) (fragment : String) (found : Nat)
  -- The group of a capture fragment has a name.
  | namedGroup (reach : Reach) (fragment : String)
  -- A capture fragment refers back to a group.
  | backreference (reach : Reach) (fragment : String)
  -- The expression assembled from a pattern is no regular expression.
  | malformedPattern (pattern expression : String) (error : Regex.RegexError)
  -- A pattern is registered in a table that is already compiled.
  | tableCompiled (pattern : String)
  -- A table is searched before it is compiled.
  | tableNotCompiled
  deriving DecidableEq, Repr

def ConfigurationFault.message : ConfigurationFault → String
  | .stated message => message
  | .malformedFragment reach fragment error =>
    reach.settingName ++ " " ++ Text.quote fragment ++ " is not a valid regular expression: "
      ++ error.message fragment
  | .groupCount reach fragment found =>
    reach.settingName ++ " " ++ Text.quote fragment ++ " must contain exactly one group, found "
      ++ toString found
  | .namedGroup reach fragment =>
    reach.settingName ++ " " ++ Text.quote fragment ++ " must not use named groups"
  | .backreference reach fragment =>
    reach.settingName ++ " " ++ Text.quote fragment ++ " must not use backreferences"
  | .malformedPattern pattern expression error =>
    "Pattern " ++ Text.quote pattern ++ " does not compile with the configured captures: "
      ++ error.message expression
  | .tableCompiled pattern =>
    "Cannot add pattern " ++ Text.quote pattern ++ " after compilation."
  | .tableNotCompiled => "MapperTable.compile() must be called before lookups."

/-- Why an operation failed. -/
inductive Failure where
  -- A failure of no particular kind.
  | general (message : String)
  | configuration (fault : ConfigurationFault)
  -- A path does not have the form of a pattern.
  | noMatch (path expression : String)
  -- The supplied values do not cover the placeholders of a pattern.
  | missingValues (supplied required : List String)
  -- No pattern of a table accepts a path.
  | unmatched (path : String)
  -- A regular expression asks for too many repetitions.
  | repetitionTooLarge
  -- A regular expression writes a character by a code far outside the range of code points.
  | codeTooLarge
  -- A regular expression asks for two alphabets at once.
  | conflictingAlphabets
  -- A match has more or fewer groups than the pattern has placeholders.
  | captureCount (placeholders captures : Nat)
  deriving DecidableEq, Repr

namespace Failure

/-- The failure that an unusable regular expression is reported as. Most errors are faults of
    configuration; those that concern no place in the expression are reported as they are. -/
def ofRegexError (asFault : Regex.RegexError → ConfigurationFault) : Regex.RegexError → Failure
  | .repetitionTooLarge => .repetitionTooLarge
  | .codeTooLarge => .codeTooLarge
  | .conflictingAlphabets => .conflictingAlphabets
  | error => .configuration (asFault error)

def message : Failure → String
  | .general message => message
  | .configuration fault => fault.message
  | .noMatch path expression =>
    "Path " ++ Text.quote path ++ " does not match regex " ++ Text.quote expression
  | .missingValues supplied required =>
    "To less params: " ++ ", ".intercalate supplied ++ ". Required: "
      ++ ", ".intercalate required
  | .unmatched path => "No pattern matches " ++ Text.quote path
  | .repetitionTooLarge => Regex.RegexError.message "" .repetitionTooLarge
  | .codeTooLarge => Regex.RegexError.message "" .codeTooLarge
  | .conflictingAlphabets => Regex.RegexError.message "" .conflictingAlphabets
  | .captureCount placeholders captures =>
    "zip() argument 2 is " ++ (if captures < placeholders then "shorter" else "longer")
      ++ " than argument 1"

/-- The name of the most general kind of this library's own failures. -/
def generalKind : String := "PathMapperError"

def kind : Failure → String
  | .general _ => generalKind
  | .configuration _ => "ConfigurationError"
  | .noMatch _ _ => "MatchFailure"
  | .missingValues _ _ => "ToLessParamsFailure"
  | .unmatched _ => "UnmatchedPath"
  | .repetitionTooLarge | .codeTooLarge => "OverflowError"
  | .conflictingAlphabets => "ValueError"
  | .captureCount _ _ => "ValueError"

/-- The kinds that every failure belongs to, from the less general one on. -/
def commonKinds : List String := ["Exception", "BaseException", "object"]

def lineage : Failure → List String
  | .general _ => generalKind :: commonKinds
  | .repetitionTooLarge | .codeTooLarge => "OverflowError" :: "ArithmeticError" :: commonKinds
  | .conflictingAlphabets => "ValueError" :: commonKinds
  | .captureCount _ _ => "ValueError" :: commonKinds
  | failure => failure.kind :: generalKind :: commonKinds

end Failure

end RoutePattern
