import RoutePattern.Bindings
import RoutePattern.Template
import RoutePattern.Text.Replace

/-! # Routes

A route ties a pattern to the paths of its form, in both directions:

* `Route.test`, `Route.captures`, `Route.bind` — from a path to the values of the placeholders.
* `Route.fill` — from values to a path.
* `Route.roundTrip` — there and back.
-/

namespace RoutePattern

/-- A pattern together with its compiled form. -/
structure Route where
  pattern : String
  template : Template
  deriving DecidableEq, Repr

structure RoundTrip where
  path : String
  same : Bool
  accepted : Bool
  deriving DecidableEq, Repr

namespace Route

def ofPattern [Character.Names] (settings : Settings) (pattern : String) : Traced Route := do
  let template ← Template.compile settings pattern
  .pure { pattern := pattern, template := template }

def display (route : Route) : String :=
  "PathMapper(" ++ Text.quote route.pattern ++ ")"

def expression (route : Route) : String :=
  route.template.expression

def placeholders (route : Route) : List Placeholder :=
  route.template.placeholders

/-- The names of the placeholders in the order of the pattern; a name may occur repeatedly. -/
def names (route : Route) : List String :=
  route.placeholders.map Placeholder.name

def basePath (route : Route) : String :=
  RoutePattern.basePath route.template.parts

/-! ## From paths to values -/

/-- The path has the form of the pattern. -/
def test (route : Route) (path : String) : Bool :=
  route.template.program.accepts path

/-- The captured texts of a path from left to right, absent where a group took no part. -/
def captures (route : Route) (path : String) : Traced (List (Option String)) :=
  match route.template.program.captures? path with
  | some values => .pure values
  | none => do
    .note .mapper ("no match: " ++ Text.quote path ++ " against " ++ route.expression)
    .fail (.noMatch path route.expression)

/-- Binds the name of each placeholder to its captured value. The k-th group belongs to the k-th
    placeholder, and of several values for one name the last one counts. -/
def bind (route : Route) (path : String) : Traced Bindings := do
  let values ← route.captures path
  if values.length = route.placeholders.length then
    .pure (.ofList (route.names.zip (values.map Value.ofCapture)))
  else .fail (.captureCount route.placeholders.length values.length)

/-! ## From values to paths -/

/-- Replaces the token of each placeholder, where it first occurs in the text so far, by the
    value of its name. -/
def fillTokens (route : Route) (bindings : Bindings) :
    List Placeholder → List Char → Traced (List Char)
  | [], path => .pure path
  | placeholder :: rest, path =>
    match bindings.get? placeholder.name with
    | none => do
      .note .mapper
        ("missing param " ++ Text.quote placeholder.name ++ " for "
          ++ Text.quote route.pattern)
      .fail (.missingValues bindings.names route.names)
    | some value =>
      fillTokens route bindings rest
        (Text.replaceFirst placeholder.token.toList value.display.toList path)

/-- The path that the values describe. There must be as many values as placeholders, and one for
    each placeholder. -/
def fill (route : Route) (bindings : Bindings) : Traced String :=
  if bindings.entries.length = route.placeholders.length then do
    let path ← route.fillTokens bindings route.placeholders route.pattern.toList
    .pure (String.ofList path)
  else do
    .note .mapper
      ("rejected params " ++ Text.quoteAll bindings.names ++ " for "
        ++ Text.quote route.pattern)
    .fail (.missingValues bindings.names route.names)

def roundTrip (route : Route) (path : String) : Traced RoundTrip := do
  let bindings ← route.bind path
  let rebuilt ← route.fill bindings
  .pure { path := rebuilt, same := rebuilt == path, accepted := route.test rebuilt }

end Route

end RoutePattern
