import RoutePattern.Proofs.Buckets

/-! # The history of a table

Patterns are added to a table until it is compiled, and it is searched from then on. In between it
may be asked for anything: what comes too early or too late fails and changes nothing.

* `Request`, `Answer`, `Table.perform` — what a table can be asked for.
* `Event`, `Table.serve`, `Table.run` — requests one after another, with what became of each.
* `Performs`, `performs_of_perform` — all that a request can do to a table.
* `Reflects` — what the past events say about a table; every request keeps it true.
* `run_history` — after any run, the entries are the successful additions, and the buckets, once
  they are made, divide them by base path.
-/

namespace RoutePattern

variable {τ : Type}

/-! ## Requests -/

inductive Request (τ : Type) where
  | add (pattern : String) (target : τ)
  | compile
  | find (path : String)
  | resolve (path : String)
  | size
  | routes

inductive Answer (τ : Type) where
  | added (route : Route)
  | compiled
  | found (hit : Option (Hit τ))
  | resolved (hit : Hit τ)
  | size (count : Nat)
  | routes (routes : List Route)

/-- A request and what became of it. -/
structure Event (τ : Type) where
  request : Request τ
  outcome : Except Failure (Answer τ)

/-- The entry that a successful addition registers. -/
def Event.entry? (event : Event τ) : Option (Entry τ) :=
  match event.request, event.outcome with
  | .add _ target, .ok (.added route) => some { route := route, target := target }
  | _, _ => none

/-- The request only looks at the table. -/
def Request.Looks : Request τ → Prop
  | .add _ _ | .compile => False
  | .find _ | .resolve _ | .size | .routes => True

namespace Table

section

variable [Character.Names]

/-- The answer to a request and the table afterwards. -/
def perform (table : Table τ) : Request τ → Traced (Answer τ × Table τ)
  | .add pattern target => do
    let (route, larger) ← table.add pattern target
    .pure (.added route, larger)
  | .compile => do
    let compiled ← table.compile
    .pure (.compiled, compiled)
  | .find path => do
    let hit ← table.find path
    .pure (.found hit, table)
  | .resolve path => do
    let hit ← table.resolve path
    .pure (.resolved hit, table)
  | .size => .pure (.size table.size, table)
  | .routes => .pure (.routes table.routes, table)

/-- Performs a request. If it fails, the table stays as it was. -/
def serve (table : Table τ) (request : Request τ) : Event τ × Table τ :=
  match (table.perform request).outcome with
  | .ok (answer, next) => ({ request := request, outcome := .ok answer }, next)
  | .error failure => ({ request := request, outcome := .error failure }, table)

/-- Serves requests one after another. -/
def run (table : Table τ) : List (Request τ) → List (Event τ) × Table τ
  | [] => ([], table)
  | request :: rest =>
    let (event, next) := table.serve request
    let (events, last) := next.run rest
    (event :: events, last)

end

end Table

/-! ## One request -/

section

variable [Character.Names]

/-- What a request can do to a table, if it succeeds: add an entry before the table is compiled,
    make the buckets of the entries, or look. -/
inductive Performs (table : Table τ) : Request τ → Answer τ → Table τ → Prop where
  | add {pattern : String} {target : τ} {route : Route} (uncompiled : table.buckets = none)
      (compiled : (Route.ofPattern table.settings pattern).outcome = .ok route) :
      Performs table (.add pattern target) (.added route)
        { table with entries := table.entries ++ [{ route := route, target := target }] }
  | compile :
      Performs table .compile .compiled { table with buckets := some (bucketsOf table.entries) }
  | look {request : Request τ} {answer : Answer τ} (looks : request.Looks) :
      Performs table request answer table

theorem add_of_compiled {table : Table τ} {buckets : List (Bucket τ)}
    (compiled : table.buckets = some buckets) (pattern : String) (target : τ) :
    (table.add pattern target).outcome = .error (.configuration (.tableCompiled pattern)) := by
  rw [Table.add, compiled]
  rfl

theorem add_of_uncompiled {table : Table τ} (uncompiled : table.buckets = none) (pattern : String)
    (target : τ) :
    (table.add pattern target).outcome =
      (Route.ofPattern table.settings pattern).outcome.map fun route =>
        (route, { table with
          entries := table.entries ++ [{ route := route, target := target }] }) := by
  rw [Table.add, uncompiled]
  simp only [Traced.outcome_bind]
  cases (Route.ofPattern table.settings pattern).outcome <;> rfl

theorem performs_of_perform {table next : Table τ} {request : Request τ} {answer : Answer τ}
    (done : (table.perform request).outcome = .ok (answer, next)) :
    Performs table request answer next := by
  cases request with
  | add pattern target =>
    obtain ⟨⟨route, larger⟩, added, same⟩ := Traced.outcome_bind_eq_ok.mp done
    cases same
    cases buckets : table.buckets with
    | some buckets =>
      rw [add_of_compiled ‹_›] at added
      cases added
    | none =>
      rw [add_of_uncompiled buckets] at added
      cases compiled : (Route.ofPattern table.settings pattern).outcome with
      | error failure =>
        rw [compiled] at added
        cases added
      | ok route =>
        rw [compiled] at added
        cases added
        exact .add buckets compiled
  | compile =>
    cases done
    exact .compile
  | find path =>
    obtain ⟨hit, -, same⟩ := Traced.outcome_bind_eq_ok.mp done
    cases same
    exact .look trivial
  | resolve path =>
    obtain ⟨hit, -, same⟩ := Traced.outcome_bind_eq_ok.mp done
    cases same
    exact .look trivial
  | size =>
    cases done
    exact .look trivial
  | routes =>
    cases done
    exact .look trivial

/-- A request fails and leaves the table as it is, or succeeds with one of the known effects. -/
theorem serve_cases (table : Table τ) (request : Request τ) :
    (∃ failure, (table.perform request).outcome = .error failure ∧
      table.serve request = ({ request := request, outcome := .error failure }, table)) ∨
    ∃ answer next, Performs table request answer next ∧
      table.serve request = ({ request := request, outcome := .ok answer }, next) := by
  unfold Table.serve
  cases done : (table.perform request).outcome with
  | error failure => exact .inl ⟨failure, rfl, rfl⟩
  | ok result => exact .inr ⟨result.1, result.2, performs_of_perform done, rfl⟩

/-! ## What the past says about a table -/

/-- The settings are those that the table was made with. The entries are those of the successful
    additions so far, each with the route of its pattern, and the buckets are those of the entries
    from the first compilation on. -/
structure Reflects (settings : Settings) (events : List (Event τ)) (table : Table τ) : Prop where
  sameSettings : table.settings = settings
  entries : table.entries = events.filterMap Event.entry?
  routes : ∀ pattern target route,
    { request := .add pattern target, outcome := .ok (.added route) } ∈ events →
      (Route.ofPattern settings pattern).outcome = .ok route
  uncompiled : .compile ∉ events.map Event.request → table.buckets = none
  compiled : .compile ∈ events.map Event.request →
    table.buckets = some (bucketsOf table.entries)

theorem reflects_empty (settings : Settings) :
    Reflects settings [] (Table.empty settings : Table τ) :=
  ⟨rfl, rfl, by simp, fun _ => rfl, by simp⟩

/-- An event that registers nothing and is no compilation says nothing new about the table. -/
theorem Reflects.unchanged {settings : Settings} {events : List (Event τ)} {table : Table τ}
    (reflects : Reflects settings events table) {event : Event τ}
    (registersNone : event.entry? = none) (other : event.request ≠ .compile) :
    Reflects settings (events ++ [event]) table := by
  have others : .compile ∈ (events ++ [event]).map Event.request ↔
      .compile ∈ events.map Event.request := by
    simp [Ne.symm other]
  refine ⟨reflects.sameSettings, ?_, ?_, ?_, ?_⟩
  · simp [reflects.entries, registersNone]
  · intro pattern target route member
    obtain before | last := List.mem_append.mp member
    · exact reflects.routes pattern target route before
    · rw [← List.mem_singleton.mp last] at registersNone
      cases registersNone
  · rw [others]
    exact reflects.uncompiled
  · rw [others]
    exact reflects.compiled

/-- Every request keeps the table in step with the events. -/
theorem Reflects.serve {settings : Settings} {events : List (Event τ)} {table : Table τ}
    (reflects : Reflects settings events table) (request : Request τ) :
    Reflects settings (events ++ [(table.serve request).1]) (table.serve request).2 := by
  obtain ⟨failure, failed, served⟩ | ⟨answer, next, performs, served⟩ := serve_cases table request
  · rw [served]
    refine reflects.unchanged ?_ ?_
    · cases request <;> rfl
    · intro isCompile
      cases isCompile
      cases failed
  · rw [served]
    cases performs with
    | @add pattern target route uncompiled compiled =>
      refine ⟨reflects.sameSettings, ?_, ?_, ?_, ?_⟩
      · simp [reflects.entries, Event.entry?]
      · intro otherPattern otherTarget otherRoute member
        obtain before | last := List.mem_append.mp member
        · exact reflects.routes otherPattern otherTarget otherRoute before
        · cases List.mem_singleton.mp last
          rw [← reflects.sameSettings]
          exact compiled
      · intro _
        exact uncompiled
      · intro member
        -- A compiled table takes no additions, so its buckets stay those of its entries.
        have before : .compile ∈ events.map Event.request := by simpa using member
        rw [reflects.compiled before] at uncompiled
        cases uncompiled
    | compile =>
      refine ⟨reflects.sameSettings, ?_, ?_, by simp, fun _ => rfl⟩
      · simp [reflects.entries, Event.entry?]
      · intro pattern target route member
        obtain before | last := List.mem_append.mp member
        · exact reflects.routes pattern target route before
        · cases List.mem_singleton.mp last
    | look looks =>
      refine reflects.unchanged ?_ ?_
      · cases request with
        | add pattern target => cases looks
        | _ => rfl
      · intro isCompile
        cases isCompile
        cases looks

theorem Reflects.run {settings : Settings} {events : List (Event τ)} {table : Table τ}
    (reflects : Reflects settings events table) (requests : List (Request τ)) :
    Reflects settings (events ++ (table.run requests).1) (table.run requests).2 := by
  induction requests generalizing events table with
  | nil => simpa [Table.run] using reflects
  | cons request rest ih => simpa [Table.run] using ih (reflects.serve request)

theorem requests_run (table : Table τ) (requests : List (Request τ)) :
    (table.run requests).1.map Event.request = requests := by
  induction requests generalizing table with
  | nil => rfl
  | cons request rest ih =>
    have first : (table.serve request).1.request = request := by
      unfold Table.serve
      split <;> rfl
    simp [Table.run, first, ih]

/-- A run is one request longer if its last table serves this request. -/
theorem run_concat (table : Table τ) (requests : List (Request τ)) (request : Request τ) :
    table.run (requests ++ [request]) =
      ((table.run requests).1 ++ [((table.run requests).2.serve request).1],
        ((table.run requests).2.serve request).2) := by
  induction requests generalizing table with
  | nil => rfl
  | cons first rest ih => simp [Table.run, ih]

/-! ## Failures -/

theorem outcome_serve (table : Table τ) (request : Request τ) :
    (table.serve request).1.outcome = (table.perform request).outcome.map Prod.fst := by
  unfold Table.serve
  cases (table.perform request).outcome <;> rfl

theorem unchanged_of_failed {table : Table τ} {request : Request τ} {failure : Failure}
    (failed : (table.serve request).1.outcome = .error failure) :
    (table.serve request).2 = table := by
  obtain ⟨_, -, served⟩ | ⟨answer, next, -, served⟩ := serve_cases table request
  · rw [served]
  · rw [served] at failed
    cases failed

theorem serve_add_of_compiled {table : Table τ} {buckets : List (Bucket τ)}
    (compiled : table.buckets = some buckets) (pattern : String) (target : τ) :
    (table.serve (.add pattern target)).1.outcome =
      .error (.configuration (.tableCompiled pattern)) := by
  rw [outcome_serve, Table.perform, Traced.outcome_bind, add_of_compiled compiled]
  rfl

theorem serve_add_of_uncompiled {table : Table τ} (uncompiled : table.buckets = none)
    (pattern : String) (target : τ) :
    (table.serve (.add pattern target)).1.outcome =
      (Route.ofPattern table.settings pattern).outcome.map .added := by
  rw [outcome_serve, Table.perform, Traced.outcome_bind, add_of_uncompiled uncompiled]
  cases (Route.ofPattern table.settings pattern).outcome <;> rfl

end

theorem find_of_uncompiled {table : Table τ} (uncompiled : table.buckets = none) (path : String) :
    (table.find path).outcome = .error (.configuration .tableNotCompiled) := by
  rw [Table.find, uncompiled]
  rfl

section

variable [Character.Names]

theorem serve_find_of_uncompiled {table : Table τ} (uncompiled : table.buckets = none)
    (path : String) :
    (table.serve (.find path)).1.outcome = .error (.configuration .tableNotCompiled) := by
  rw [outcome_serve, Table.perform, Traced.outcome_bind, find_of_uncompiled uncompiled]
  rfl

theorem serve_resolve_of_uncompiled {table : Table τ} (uncompiled : table.buckets = none)
    (path : String) :
    (table.serve (.resolve path)).1.outcome = .error (.configuration .tableNotCompiled) := by
  rw [outcome_serve, Table.perform, Traced.outcome_bind, Table.resolve, Traced.outcome_bind,
    find_of_uncompiled uncompiled]
  rfl

/-! ## Runs -/

/-- Whatever a table has been asked for, its entries are those of the successful additions in their
    order. Whatever it is asked for next goes on from there: an addition fails exactly if the table
    is compiled or the pattern has no route, and a request that fails changes nothing. Until the
    table is compiled for the first time, every search fails. From then on every addition fails, and
    the buckets divide the entries by base path: the base paths are distinct, longer ones come first,
    no bucket is empty, each holds the entries of its base path in order of registration, and
    compiling again makes the same buckets. -/
theorem run_history (settings : Settings) (requests : List (Request τ)) :
    ∃ events table, (Table.empty settings).run requests = (events, table) ∧
      events.map Event.request = requests ∧
      (∀ request, (Table.empty settings).run (requests ++ [request]) =
        (events ++ [(table.serve request).1], (table.serve request).2)) ∧
      table.entries = events.filterMap Event.entry? ∧
      (∀ pattern target route,
        { request := .add pattern target, outcome := .ok (.added route) } ∈ events →
          (Route.ofPattern settings pattern).outcome = .ok route) ∧
      (∀ pattern target, (∃ failure,
        (table.serve (.add pattern target)).1.outcome = .error failure) ↔
          .compile ∈ requests ∨
            ∃ failure, (Route.ofPattern settings pattern).outcome = .error failure) ∧
      (∀ request failure, (table.serve request).1.outcome = .error failure →
        (table.serve request).2 = table) ∧
      (.compile ∉ requests → table.buckets = none ∧ ∀ path,
        (table.serve (.find path)).1.outcome = .error (.configuration .tableNotCompiled) ∧
        (table.serve (.resolve path)).1.outcome = .error (.configuration .tableNotCompiled)) ∧
      (.compile ∈ requests →
        (∀ pattern target, (table.serve (.add pattern target)).1.outcome =
          .error (.configuration (.tableCompiled pattern))) ∧
        ∃ buckets, table.buckets = some buckets ∧ Grouped table.entries buckets ∧
          Sorted buckets ∧ (∀ bucket ∈ buckets, bucket.entries ≠ []) ∧
          (table.serve .compile).2.buckets = some buckets) := by
  have reflects := (reflects_empty settings).run requests
  have asked := requests_run (Table.empty settings : Table τ) requests
  have goesOn := run_concat (Table.empty settings : Table τ) requests
  rw [List.nil_append] at reflects
  generalize (Table.empty settings : Table τ).run requests = ran at reflects asked goesOn
  obtain ⟨events, table⟩ := ran
  dsimp only at reflects asked goesOn
  have uncompiled := reflects.uncompiled
  have compiled := reflects.compiled
  rw [asked] at uncompiled compiled
  refine ⟨events, table, rfl, asked, goesOn, reflects.entries, reflects.routes, ?_,
    fun _ _ => unchanged_of_failed, ?_, ?_⟩
  · intro pattern target
    by_cases frozen : .compile ∈ requests
    · simp [serve_add_of_compiled (compiled frozen), frozen]
    · rw [serve_add_of_uncompiled (uncompiled frozen), reflects.sameSettings]
      cases (Route.ofPattern settings pattern).outcome <;> simp [frozen, Except.map]
  · intro early
    exact ⟨uncompiled early, fun path => ⟨serve_find_of_uncompiled (uncompiled early) path,
      serve_resolve_of_uncompiled (uncompiled early) path⟩⟩
  · intro frozen
    exact ⟨serve_add_of_compiled (compiled frozen), _, compiled frozen,
      grouped_bucketsOf table.entries, sorted_bucketsOf table.entries,
      inhabited_bucketsOf table.entries, rfl⟩

end

end RoutePattern
