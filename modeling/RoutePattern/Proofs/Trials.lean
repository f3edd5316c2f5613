import RoutePattern.Proofs.Conditions
import RoutePattern.Proofs.History
import RoutePattern.Proofs.Lookup

/-! # The trials of a search

A search tries the entries whose base path the path begins with, one after another, until one of
them accepts the path. Each entry that refuses it leaves one record, and nothing else does.

* `Entry.MadeWith`, `madeWith_of_run` — the entries of a table are made from their patterns.
* `bind_of_accepted` — a trial that succeeds leaves no record.
* `TrialOrder`, `trialOrder_trialsOf` — which entries are tried, and in which order.
* `find_tries` — a search makes the trials in their order up to the first success.
-/

namespace RoutePattern

variable {τ : Type} {path : String}

/-! ## Entries of a table -/

/-- The route of an entry is the one that its pattern has under the settings. -/
def Entry.MadeWith [Character.Names] (settings : Settings) (entry : Entry τ) : Prop :=
  (Route.ofPattern settings entry.route.pattern).outcome = .ok entry.route

theorem madeWith_of_compiled [Character.Names] {settings : Settings} {pattern : String}
    {entry : Entry τ} (compiled : (Route.ofPattern settings pattern).outcome = .ok entry.route) :
    entry.MadeWith settings := by
  rw [Entry.MadeWith, (ofPattern_eq_ok compiled).1]
  exact compiled

theorem entry?_eq_some {event : Event τ} {entry : Entry τ} (registers : event.entry? = some entry) :
    ∃ pattern, event =
      { request := .add pattern entry.target, outcome := .ok (.added entry.route) } := by
  unfold Event.entry? at registers
  split at registers
  · rename_i pattern target route asked answered
    cases registers
    exact ⟨pattern, by rw [← asked, ← answered]⟩
  · cases registers

theorem reflects_run [Character.Names] (settings : Settings) (requests : List (Request τ)) :
    Reflects settings ((Table.empty settings).run requests).1
      ((Table.empty settings).run requests).2 := by
  have reflects := (reflects_empty settings : Reflects settings [] (Table.empty settings : Table τ)).run
    requests
  rwa [List.nil_append] at reflects

theorem madeWith_of_run [Character.Names] (settings : Settings) (requests : List (Request τ)) :
    ∀ entry ∈ ((Table.empty settings).run requests).2.entries, entry.MadeWith settings := by
  have reflects := reflects_run settings requests
  intro entry member
  rw [reflects.entries] at member
  obtain ⟨event, happened, registers⟩ := List.mem_filterMap.mp member
  obtain ⟨pattern, rfl⟩ := entry?_eq_some registers
  exact madeWith_of_compiled (reflects.routes pattern entry.target entry.route happened)

/-- A route that was made under checked settings binds every path that it accepts, and leaves no
    record. -/
theorem bind_of_accepted [Character.Names] {settings : Settings} (valid : settings.check = .ok ())
    {entry : Entry τ} (made : entry.MadeWith settings) (accepted : entry.route.test path = true) :
    ∃ bindings, entry.route.bind path = .pure bindings := by
  obtain ⟨values, captured, count⟩ := exists_captures accepted
  exact ⟨_, bind_of_captures captured (count.trans (groups_of_compiled valid made))⟩

/-! ## The order of the trials -/

/-- The trials for a path are the registered entries whose base path the path begins with, each with
    the number under which it was registered. Longer base paths come first, and entries of one base
    path in order of registration; so no entry is tried twice. -/
structure TrialOrder (entries : List (Entry τ)) (path : String) (trials : List (Entry τ × Nat)) :
    Prop where
  candidates : ∀ entry index, (entry, index) ∈ trials ↔
    entries[index]? = some entry ∧ entry.base <+: Text.segments path
  ordered : trials.Pairwise fun trial later =>
    later.1.base.length < trial.1.base.length ∨
      trial.1.base = later.1.base ∧ trial.2 < later.2
  once : (trials.map Prod.snd).Nodup

/-- The entries of one base path with their numbers. -/
def numberedAt (entries : List (Entry τ)) (base : List String) : List (Entry τ × Nat) :=
  entries.zipIdx.filter fun trial => decide (trial.1.base = base)

theorem mem_numberedAt {entries : List (Entry τ)} {base : List String} {trial : Entry τ × Nat} :
    trial ∈ numberedAt entries base ↔ entries[trial.2]? = some trial.1 ∧ trial.1.base = base := by
  simp [numberedAt, List.mem_zipIdx_iff_getElem?]

theorem map_numberedAt (entries : List (Entry τ)) (base : List String) :
    (numberedAt entries base).map Prod.fst = entriesAt entries base := by
  have kept : ((entries.zipIdx.map Prod.fst).filter fun entry => decide (entry.base = base)) =
      (numberedAt entries base).map Prod.fst := List.filter_map
  rw [← kept, List.zipIdx_map_fst, entriesAt]

theorem numberedAt_pairwise (entries : List (Entry τ)) (base : List String) :
    (numberedAt entries base).Pairwise fun trial later => trial.2 < later.2 := by
  have numbers : (entries.zipIdx.map Prod.snd).Pairwise (· < ·) := by
    rw [List.zipIdx_map_snd]
    exact List.pairwise_lt_range' 1
  exact (List.pairwise_map.mp numbers).filter _

/-- The numbered entries of all base paths that a path begins with, from the longest to the
    shortest. -/
def trialsOf (entries : List (Entry τ)) (path : String) : List (Entry τ × Nat) :=
  (Text.segments path).inits.reverse.flatMap (numberedAt entries)

theorem mem_trialsOf {entries : List (Entry τ)} {trial : Entry τ × Nat} :
    trial ∈ trialsOf entries path ↔
      entries[trial.2]? = some trial.1 ∧ trial.1.base <+: Text.segments path := by
  simp only [trialsOf, List.mem_flatMap, List.mem_reverse, List.mem_inits, mem_numberedAt]
  constructor
  · rintro ⟨base, begins, registered, rfl⟩
    exact ⟨registered, begins⟩
  · rintro ⟨registered, begins⟩
    exact ⟨_, begins, registered, rfl⟩

theorem trialsOf_pairwise (entries : List (Entry τ)) (path : String) :
    (trialsOf entries path).Pairwise fun trial later =>
      later.1.base.length < trial.1.base.length ∨
        trial.1.base = later.1.base ∧ trial.2 < later.2 := by
  refine List.pairwise_flatMap.mpr ⟨?_, ?_⟩
  · intro base _
    refine (numberedAt_pairwise entries base).imp_of_mem ?_
    intro trial later here there earlier
    exact .inr ⟨(mem_numberedAt.mp here).2.trans (mem_numberedAt.mp there).2.symm, earlier⟩
  · refine (List.pairwise_reverse.mpr (inits_pairwise (Text.segments path))).imp ?_
    intro long short shorter trial here later there
    rw [(mem_numberedAt.mp here).2, (mem_numberedAt.mp there).2]
    exact .inl shorter

theorem trialOrder_trialsOf (entries : List (Entry τ)) (path : String) :
    TrialOrder entries path (trialsOf entries path) := by
  refine ⟨fun entry index => mem_trialsOf, trialsOf_pairwise entries path, ?_⟩
  -- Two trials with one number are of one entry, and its base is not shorter than itself.
  refine List.pairwise_map.mpr ((trialsOf_pairwise entries path).imp_of_mem ?_)
  intro trial later here there before same
  have entry : trial.1 = later.1 := by
    have registered := (mem_trialsOf.mp here).1
    rw [same, (mem_trialsOf.mp there).1] at registered
    exact (Option.some.inj registered).symm
  rw [entry, same] at before
  omega

theorem map_trialsOf (entries : List (Entry τ)) (path : String) :
    (trialsOf entries path).map Prod.fst = Table.candidates (bucketsOf entries) path := by
  simp only [trialsOf, List.map_flatMap, map_numberedAt, candidates_bucketsOf]

/-! ## Searches -/

theorem buckets_of_run [Character.Names] (settings : Settings) {requests : List (Request τ)}
    (frozen : .compile ∈ requests) :
    let table := ((Table.empty settings).run requests).2
    table.buckets = some (bucketsOf table.entries) :=
  (reflects_run settings requests).compiled (by rwa [requests_run])

theorem find_of_compiled {table : Table τ} (compiled : table.buckets = some (bucketsOf table.entries))
    (path : String) :
    table.find path =
      Table.firstHit path (Table.candidates (bucketsOf table.entries) path) := by
  rw [Table.find, compiled]

/-- A search in a compiled table tries the entries whose base path the path begins with, longer base
    paths first and entries of one base path in order of registration. Each entry that refuses the
    path leaves one record with the path and its expression. The first that accepts it is the answer,
    whatever stands behind it; there is none if all refuse the path. There are no other records. -/
theorem find_tries [Character.Names] {settings : Settings} (valid : settings.check = .ok ())
    {requests : List (Request τ)} (frozen : .compile ∈ requests) (path : String) :
    let table := ((Table.empty settings).run requests).2
    ∃ trials, TrialOrder table.entries path trials ∧
      ((∀ trial ∈ trials, trial.1.route.test path = false) ∧
          table.find path =
            { records := trials.map fun trial => trial.1.route.mismatch path
              outcome := .ok none } ∨
        ∃ missed winner index untried bindings, trials = missed ++ (winner, index) :: untried ∧
          (∀ trial ∈ missed, trial.1.route.test path = false) ∧
          winner.route.test path = true ∧ winner.route.bind path = .pure bindings ∧
          table.find path =
            { records := missed.map fun trial => trial.1.route.mismatch path
              outcome := .ok (some
                { route := winner.route, bindings := bindings, target := winner.target }) } ∧
          ∀ others, Table.firstHit path (missed.map Prod.fst ++ winner :: others) =
            table.find path) := by
  intro table
  have made := madeWith_of_run settings requests
  have found := find_of_compiled (buckets_of_run settings frozen) path
  rw [← map_trialsOf] at found
  refine ⟨trialsOf table.entries path, trialOrder_trialsOf table.entries path, ?_⟩
  cases first : (trialsOf table.entries path).find? fun trial => trial.1.route.test path with
  | none =>
    have refused : ∀ trial ∈ trialsOf table.entries path, trial.1.route.test path = false := by
      simpa using List.find?_eq_none.mp first
    refine .inl ⟨refused, ?_⟩
    rw [found, firstHit_of_refused (by simpa using refused), List.map_map]
    rfl
  | some trial =>
    obtain ⟨accepted, missed, untried, split, skipped⟩ := List.find?_eq_some_iff_append.mp first
    have refused : ∀ trial ∈ missed, trial.1.route.test path = false := by simpa using skipped
    have registered : trial.1 ∈ table.entries :=
      List.mem_of_getElem? (mem_trialsOf.mp (List.mem_of_find?_eq_some first)).1
    obtain ⟨bindings, bound⟩ := bind_of_accepted valid (made trial.1 registered) accepted
    have skippedEntries : ∀ entry ∈ missed.map Prod.fst, entry.route.test path = false := by
      simpa using refused
    have search := firstHit_of_split skippedEntries bound
    rw [List.map_map] at search
    have answer := search (untried.map Prod.fst)
    rw [split, List.map_append, List.map_cons, answer] at found
    exact .inr ⟨missed, trial.1, trial.2, untried, bindings, split, refused, accepted, bound, found,
      fun others => (search others).trans found.symm⟩

/-- An entry of the base path refuses the path before another one accepts it; the entry for all paths is
    left over, and the one of another base path is no candidate. -/
theorem find_tries_manual :
    let settings : Settings := { singleCapture := "v?(\\d+)" }
    let requests : List (Request Nat) :=
      [.add "/docs/[id].json" 1, .add "/[...rest]" 2, .find "/docs/a", .add "/docs/[...page]" 3,
        .add "/blog/[id]" 4, .compile, .add "/docs/a" 5]
    let table := ((Table.empty settings).run requests).2
    settings.check = .ok () ∧ .compile ∈ requests ∧
      ∃ trials missed winner untried, TrialOrder table.entries "/docs/a" trials ∧
        trials = missed ++ winner :: untried ∧ winner.1.target = 3 ∧
        (table.find "/docs/a").records =
          missed.map fun trial => trial.1.route.mismatch "/docs/a" := by
  intro settings requests table
  have valid : settings.check = .ok () := by decide +kernel
  have frozen : .compile ∈ requests := by simp [requests]
  obtain ⟨answer, searched, hits⟩ := exists_of_any (table.find "/docs/a").outcome
    (fun found => found.any fun hit => hit.target == 3) (by decide +kernel)
  obtain ⟨trials, order, ⟨-, search⟩ |
    ⟨missed, winner, index, untried, bindings, split, -, -, -, search, -⟩⟩ :=
    find_tries valid frozen "/docs/a"
  · rw [search] at searched
    cases searched
    cases hits
  · refine ⟨valid, frozen, trials, missed, (winner, index), untried, order, split, ?_, by rw [search]⟩
    rw [search] at searched
    cases searched
    simpa using hits

end RoutePattern
