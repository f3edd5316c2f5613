import RoutePattern.Settings
import RoutePattern.Text.Quoted

/-! # The catalogue of public names

* `version` — the version of the library's interface.
* `publicNames` — the names that the interface offers, each with the place that defines it.
* `definedIn` — looks a name up, or says that there is no such name.
-/

namespace RoutePattern

def version : String := "0.1.0"

def interfaceName : String := "pathmapper"

/-- The names of the interface in alphabetical order, capital letters first, with the places that
    define them. -/
def publicNames : List (String × String) :=
  [ ("CompiledPattern", "pathmapper.compiler.parts"),
    ("ConfigurationError", "pathmapper.errors"),
    ("MapperConfig", "pathmapper.config"),
    ("MapperTable", "pathmapper.table"),
    ("MatchFailure", "pathmapper.errors"),
    ("MultiPart", "pathmapper.compiler.parts"),
    ("PathMapper", "pathmapper.mapper"),
    ("PathMapperError", "pathmapper.errors"),
    ("SinglePart", "pathmapper.compiler.parts"),
    ("StaticPart", "pathmapper.compiler.parts"),
    ("TableMatch", "pathmapper.table"),
    ("ToLessParamsFailure", "pathmapper.errors"),
    ("UnmatchedPath", "pathmapper.errors"),
    ("compile_pattern", "pathmapper.compiler.compiler"),
    ("escape_for_regex", "pathmapper.compiler.escape") ]

/-- The place that defines a public name, or the wording of the refusal. -/
def definedIn (name : String) : Except String String :=
  match publicNames.lookup name with
  | some place => .ok place
  | none =>
    .error
      ("module " ++ Text.quote interfaceName ++ " has no attribute " ++ Text.quote name)

end RoutePattern
