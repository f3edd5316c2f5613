import RoutePattern.Escape
import RoutePattern.Journal
import RoutePattern.Settings
import RoutePattern.Text.Pieces

/-! # Templates

* `Part` — a segment of a pattern together with the expression that accepts it.
* `Template` — the parts of a pattern and the program that matches whole paths.
* `expressionText` — the parts' expressions joined by slashes and anchored at both ends.
* `Template.compile` — from a pattern to its template.
* `basePath` — the literal path before the first placeholder.
-/

namespace RoutePattern

/-! ## Parts -/

/-- A segment and the expression that accepts what it stands for. -/
structure Part where
  segment : Segment
  regex : String
  deriving DecidableEq, Repr

/-- A placeholder without its suffix: what values are bound to. -/
structure Placeholder where
  reach : Reach
  name : String
  deriving DecidableEq, Repr

def Placeholder.token (placeholder : Placeholder) : String :=
  placeholder.reach.token placeholder.name

namespace Part

/-- The expression of a segment: literal text stands for itself, and a placeholder accepts what
    its capture fragment accepts, followed by its suffix. -/
def ofSegment (settings : Settings) (segment : Segment) : Part :=
  { segment := segment
    regex :=
      match segment with
      | .literal value => escape value
      | .placeholder reach _ suffix => settings.capture reach ++ escape suffix }

def ofText (settings : Settings) (text : String) : Part :=
  .ofSegment settings (.ofText text)

/-- The placeholder of a part that has one. -/
def placeholder? (part : Part) : Option Placeholder :=
  match part.segment with
  | .literal _ => none
  | .placeholder reach name _ => some { reach := reach, name := name }

def display (part : Part) : String :=
  match part.segment with
  | .literal value =>
    "StaticPart(value=" ++ Text.quote value ++ ", regex=" ++ Text.quote part.regex ++ ")"
  | .placeholder reach name suffix =>
    (match reach with | .single => "SinglePart" | .multi => "MultiPart")
      ++ "(id=" ++ Text.quote name ++ ", suffix=" ++ Text.quote suffix
      ++ ", regex=" ++ Text.quote part.regex ++ ")"

end Part

/-- The literal values before the first placeholder. -/
def literalStart : List Part → List String
  | [] => []
  | part :: rest =>
    match part.segment with
    | .literal value => value :: literalStart rest
    | .placeholder _ _ _ => []

/-- The literal path before the first placeholder. It begins with a slash, and empty segments
    leave no trace in it. -/
def basePath (parts : List Part) : String :=
  "/" ++ "/".intercalate ((literalStart parts).filter (!·.isEmpty))

/-! ## Whole-path expressions -/

def slashText : String := "\\/"

/-- The segments of a pattern. A leading slash is no segment. -/
def patternSegments (pattern : String) : List String :=
  match Text.pieces pattern.toList with
  | [] :: rest => rest.map String.ofList
  | texts => texts.map String.ofList

/-- The pattern begins with a slash, or is empty. -/
def isRooted (pattern : String) : Bool :=
  ((Text.pieces pattern.toList).head?).any List.isEmpty

/-- The expression for whole paths. Slashes at the ends are either optional or exactly as in the
    pattern. -/
def expressionText (settings : Settings) (rooted : Bool) (parts : List Part) : String :=
  let body := slashText.intercalate (parts.map Part.regex)
  if settings.optionalSlashes then "\\A\\/?" ++ body ++ "\\/?\\Z"
  else "\\A" ++ (if rooted then slashText else "") ++ body ++ "\\Z"

/-! ## Templates -/

/-- A pattern in the form in which it is matched. -/
structure Template where
  parts : List Part
  program : Regex.Program
  deriving DecidableEq, Repr

namespace Template

def expression (template : Template) : String :=
  template.program.source

def placeholders (template : Template) : List Placeholder :=
  template.parts.filterMap Part.placeholder?

/-- A template from parts and an expression that are given as they are. -/
def ofParts [Character.Names] (parts : List Part) (expression : String) :
    Except Failure Template :=
  match Regex.Program.compile expression with
  | .error error =>
    .error (.ofRegexError (fun error => .stated (error.message expression)) error)
  | .ok program => .ok { parts := parts, program := program }

def partsOf (settings : Settings) (pattern : String) : List Part :=
  (patternSegments pattern).map (Part.ofText settings)

/-- Compiles a pattern. It fails only if a capture fragment does not fit into the expression. -/
def compile [Character.Names] (settings : Settings) (pattern : String) : Traced Template :=
  let parts := partsOf settings pattern
  let expression := expressionText settings (isRooted pattern) parts
  match Regex.Program.compile expression with
  | .error error => .fail (.ofRegexError (.malformedPattern pattern expression) error)
  | .ok program => do
    .note .compiler
      ("compiled " ++ Text.quote pattern ++ " into " ++ toString parts.length ++ " parts: "
        ++ expression)
    .pure { parts := parts, program := program }

end Template

end RoutePattern
