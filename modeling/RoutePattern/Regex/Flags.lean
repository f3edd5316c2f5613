import RoutePattern.Regex.Charset

/-! # Flags

* `FlagSet` — the flags named in one group head such as `(?im-s:…)`, on either side of the sign.
* `Flags` — the flags in force at a place of the expression, with `Flags.update` for the places
  inside such a group.
-/

namespace RoutePattern.Regex

structure FlagSet where
  ignoreCase : Bool := false
  multiLine : Bool := false
  dotAll : Bool := false
  verbose : Bool := false
  ascii : Bool := false
  unicode : Bool := false
  template : Bool := false
  deriving DecidableEq, Repr

namespace FlagSet

/-- The letters that name flags; `L` names one that expressions over text never accept. -/
def letters : List Char :=
  ['i', 'L', 'm', 's', 'x', 'a', 't', 'u']

/-- Adds the flag with the given letter; another letter changes nothing. -/
def insert (set : FlagSet) (letter : Char) : FlagSet :=
  match letter with
  | 'i' => { set with ignoreCase := true }
  | 'm' => { set with multiLine := true }
  | 's' => { set with dotAll := true }
  | 'x' => { set with verbose := true }
  | 'a' => { set with ascii := true }
  | 'u' => { set with unicode := true }
  | 't' => { set with template := true }
  | _ => set

def conflicting (set : FlagSet) : Bool :=
  set.ascii && set.unicode

def union (set other : FlagSet) : FlagSet where
  ignoreCase := set.ignoreCase || other.ignoreCase
  multiLine := set.multiLine || other.multiLine
  dotAll := set.dotAll || other.dotAll
  verbose := set.verbose || other.verbose
  ascii := set.ascii || other.ascii
  unicode := set.unicode || other.unicode
  template := set.template || other.template

def meets (set other : FlagSet) : Bool :=
  (set.ignoreCase && other.ignoreCase) || (set.multiLine && other.multiLine)
    || (set.dotAll && other.dotAll) || (set.verbose && other.verbose)
    || (set.ascii && other.ascii) || (set.unicode && other.unicode)
    || (set.template && other.template)

end FlagSet

structure Flags where
  ignoreCase : Bool := false
  multiLine : Bool := false
  dotAll : Bool := false
  verbose : Bool := false
  ascii : Bool := false
  deriving DecidableEq, Repr

namespace Flags

/-- The flags after some are turned on and some off. Naming an alphabet replaces the one in
    force. -/
def update (flags : Flags) (on off : FlagSet) : Flags where
  ignoreCase := (flags.ignoreCase || on.ignoreCase) && !off.ignoreCase
  multiLine := (flags.multiLine || on.multiLine) && !off.multiLine
  dotAll := (flags.dotAll || on.dotAll) && !off.dotAll
  verbose := (flags.verbose || on.verbose) && !off.verbose
  ascii := if on.ascii || on.unicode then on.ascii else flags.ascii

def folding (flags : Flags) : Folding :=
  if flags.ignoreCase then (if flags.ascii then .asciiCase else .anyCase) else .exact

end Flags

end RoutePattern.Regex
