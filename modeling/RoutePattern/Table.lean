import RoutePattern.Route

/-! # Route tables

A table holds routes with a target each. While it is open, routes are added; compiling it sorts
them into buckets by base path, after which it can be searched.

* `Table.add`, `Table.compile` — building.
* `Bucket`, `bucketsOf` — the routes of one base path; longer base paths come first, and routes
  and base paths of one length keep their order of registration.
* `Table.find`, `Table.resolve` — the first route that accepts a path, among the buckets whose base
  path the path begins with.
-/

namespace RoutePattern

structure Entry (τ : Type) where
  route : Route
  target : τ

/-- The nonempty segments of an entry's base path. -/
def Entry.base {τ : Type} (entry : Entry τ) : List String :=
  Text.segments entry.route.basePath

/-- The entries of one base path in order of registration. -/
structure Bucket (τ : Type) where
  base : List String
  entries : List (Entry τ)

structure Hit (τ : Type) where
  route : Route
  bindings : Bindings
  target : τ

/-! ## Buckets -/

/-- Adds an entry to the bucket of its base path, which is created at the end if need be. -/
def addToBuckets {τ : Type} (buckets : List (Bucket τ)) (entry : Entry τ) : List (Bucket τ) :=
  match buckets with
  | [] => [{ base := entry.base, entries := [entry] }]
  | bucket :: rest =>
    if bucket.base = entry.base then
      { bucket with entries := bucket.entries ++ [entry] } :: rest
    else bucket :: addToBuckets rest entry

/-- Puts a bucket before all that are not longer. -/
def insertByLength {τ : Type} (bucket : Bucket τ) : List (Bucket τ) → List (Bucket τ)
  | [] => [bucket]
  | other :: rest =>
    if other.base.length ≤ bucket.base.length then bucket :: other :: rest
    else other :: insertByLength bucket rest

/-- The entries by base path, longer base paths first. -/
def bucketsOf {τ : Type} (entries : List (Entry τ)) : List (Bucket τ) :=
  (entries.foldl addToBuckets []).foldr insertByLength []

/-! ## Tables -/

/-- A set of routes. The buckets are present once the table is compiled. -/
structure Table (τ : Type) where
  settings : Settings
  entries : List (Entry τ) := []
  buckets : Option (List (Bucket τ)) := none

namespace Table

variable {τ : Type}

def empty (settings : Settings) : Table τ :=
  { settings := settings }

def add [Character.Names] (table : Table τ) (pattern : String) (target : τ) :
    Traced (Route × Table τ) :=
  match table.buckets with
  | some _ => .fail (.configuration (.tableCompiled pattern))
  | none => do
    let route ← Route.ofPattern table.settings pattern
    .note .table
      ("registered " ++ Text.quote pattern ++ " under base " ++ Text.quote route.basePath)
    .pure
      (route, { table with entries := table.entries ++ [{ route := route, target := target }] })

/-- Sorts the entries into buckets. No pattern can be added from then on. -/
def compile (table : Table τ) : Traced (Table τ) :=
  let buckets := bucketsOf table.entries
  do
    .note .table
      ("compiled " ++ toString table.entries.length ++ " patterns into "
        ++ toString buckets.length ++ " buckets")
    .pure { table with buckets := some buckets }

/-- Tries entries in order. An entry that does not match gives way to the next one. -/
def firstHit (path : String) : List (Entry τ) → Traced (Option (Hit τ))
  | [] => .pure none
  | entry :: rest =>
    let attempt := entry.route.bind path
    match attempt.outcome with
    | .ok bindings =>
      { records := attempt.records
        outcome :=
          .ok (some { route := entry.route, bindings := bindings, target := entry.target }) }
    | .error (.noMatch _ _) =>
      let others := firstHit path rest
      { records := attempt.records ++ others.records, outcome := others.outcome }
    | .error failure => { records := attempt.records, outcome := .error failure }

/-- The entries whose base path the path begins with, in the order of the buckets. -/
def candidates (buckets : List (Bucket τ)) (path : String) : List (Entry τ) :=
  (buckets.filter fun bucket => bucket.base.isPrefixOf (Text.segments path)).flatMap
    Bucket.entries

def find (table : Table τ) (path : String) : Traced (Option (Hit τ)) :=
  match table.buckets with
  | none => .fail (.configuration .tableNotCompiled)
  | some buckets => firstHit path (candidates buckets path)

/-- The first entry that accepts the path; it is a failure if there is none. -/
def resolve (table : Table τ) (path : String) : Traced (Hit τ) := do
  match ← table.find path with
  | some hit => .pure hit
  | none =>
    .note .table ("no pattern matches " ++ Text.quote path)
    .fail (.unmatched path)

def routes (table : Table τ) : List Route :=
  table.entries.map Entry.route

def size (table : Table τ) : Nat :=
  table.entries.length

end Table

end RoutePattern
