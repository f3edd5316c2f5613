import RoutePattern.Proofs.Lookup
import RoutePattern.Proofs.Trials

/-! # What depends on the order of registration

A path is compared with one bucket for each length of base paths at most, so the order in which
patterns are registered counts among patterns of one base path only.

* `Table.build`, `build_eq` — a table that is asked to add patterns and compiled.
* `entriesAt_eq_of_registered` — what is registered under a base path determines its bucket.
* `find_of_same_order` — tables in which each base path has the same registrations in the same order
  answer every search alike.
* `candidates_insert`, `firstHit_insert` — one more entry among the candidates.
* `find_of_inserted` — one more registration changes the answer of a search only to its own entry.
-/

namespace RoutePattern

variable {τ : Type} {settings : Settings} {path : String}

/-! ## Building a table -/

section

variable [Character.Names]

/-- A table that is asked to add patterns with their targets one after another, and is compiled then.
    A pattern that does not compile is not registered. -/
def Table.build (settings : Settings) (calls : List (String × τ)) : Table τ :=
  ((Table.empty settings).run
    (calls.map (fun call => .add call.1 call.2) ++ [.compile])).2

/-- The entry that is registered for a pattern and its target. -/
def Entry.ofCall? (settings : Settings) (call : String × τ) : Option (Entry τ) :=
  (Route.ofPattern settings call.1).outcome.toOption.map fun route =>
    { route := route, target := call.2 }

theorem serve_add {table : Table τ} (uncompiled : table.buckets = none) (call : String × τ) :
    (table.serve (.add call.1 call.2)).2 =
      { table with
        entries := table.entries ++ (Entry.ofCall? table.settings call).toList } := by
  unfold Table.serve Entry.ofCall?
  rw [Table.perform, Traced.outcome_bind, add_of_uncompiled uncompiled]
  cases (Route.ofPattern table.settings call.1).outcome with
  | error failure => simp [Except.map, Except.bind, Except.toOption]
  | ok route => simp [Except.map, Except.bind, Except.toOption]

theorem run_adds {table : Table τ} (uncompiled : table.buckets = none)
    (calls : List (String × τ)) :
    (table.run (calls.map fun call => .add call.1 call.2)).2 =
      { table with
        entries := table.entries ++ calls.filterMap (Entry.ofCall? table.settings) } := by
  induction calls generalizing table with
  | nil => simp [Table.run]
  | cons call rest ih =>
    have first : (table.run ((call :: rest).map fun call => .add call.1 call.2)).2 =
        ((table.serve (.add call.1 call.2)).2.run
          (rest.map fun call => .add call.1 call.2)).2 := rfl
    have joined : (call :: rest).filterMap (Entry.ofCall? table.settings) =
        (Entry.ofCall? table.settings call).toList ++
          rest.filterMap (Entry.ofCall? table.settings) := by
      rw [List.filterMap_cons]
      cases Entry.ofCall? table.settings call <;> rfl
    let next : Table τ := { table with
      entries := table.entries ++ (Entry.ofCall? table.settings call).toList }
    have later := @ih next uncompiled
    rw [first, serve_add uncompiled, later, joined, List.append_assoc]

/-- The entries of a table are those of the patterns that compile, in the order of the calls. -/
theorem build_eq (settings : Settings) (calls : List (String × τ)) :
    Table.build settings calls =
      { settings := settings
        entries := calls.filterMap (Entry.ofCall? settings)
        buckets := some (bucketsOf (calls.filterMap (Entry.ofCall? settings))) } := by
  have uncompiled : (Table.empty settings : Table τ).buckets = none := rfl
  rw [Table.build, run_concat, run_adds uncompiled]
  rfl

theorem madeWith_build (settings : Settings) (calls : List (String × τ)) :
    ∀ entry ∈ (Table.build settings calls).entries, entry.MadeWith settings :=
  madeWith_of_run settings _

theorem find_build (settings : Settings) (calls : List (String × τ)) (path : String) :
    (Table.build settings calls).find path = Table.firstHit path
      (Table.candidates (bucketsOf (Table.build settings calls).entries) path) := by
  apply find_of_compiled
  rw [build_eq]

/-- A search among entries that were made under checked settings ends in a hit or in none. -/
theorem exists_found (valid : settings.check = .ok ()) {entries : List (Entry τ)}
    (made : ∀ entry ∈ entries, entry.MadeWith settings) (path : String) :
    ∃ found, (Table.firstHit path entries).outcome = .ok found := by
  induction entries with
  | nil => exact ⟨none, rfl⟩
  | cons entry rest ih =>
    rw [List.forall_mem_cons] at made
    cases decided : entry.route.test path with
    | true =>
      obtain ⟨bindings, bound⟩ := bind_of_accepted valid made.1 decided
      exact ⟨_, by rw [firstHit_cons_accepted bound]; rfl⟩
    | false =>
      rw [firstHit_cons_refused decided]
      exact ih made.2

theorem madeWith_of_candidate {entries : List (Entry τ)}
    (made : ∀ entry ∈ entries, entry.MadeWith settings) {entry : Entry τ}
    (candidate : entry ∈ Table.candidates (bucketsOf entries) path) : entry.MadeWith settings := by
  rw [candidates_bucketsOf] at candidate
  obtain ⟨base, -, inBase⟩ := List.mem_flatMap.mp candidate
  exact made entry (mem_entriesAt.mp inBase).1

theorem exists_found_build (valid : settings.check = .ok ()) (calls : List (String × τ))
    (path : String) : ∃ found, ((Table.build settings calls).find path).outcome = .ok found := by
  rw [find_build]
  exact exists_found valid (fun _ => madeWith_of_candidate (madeWith_build settings calls)) path

end

/-! ## Registrations of one base path -/

/-- What is registered under a base path: the patterns and their targets, in order of
    registration. -/
def Table.registered (table : Table τ) (base : String) : List (String × τ) :=
  (table.entries.filter fun entry => decide (entry.route.basePath = base)).map fun entry =>
    (entry.route.pattern, entry.target)

section

variable [Character.Names]

/-- A base path is written as its segments, each behind a slash. -/
theorem basePath_eq {entry : Entry τ} (made : entry.MadeWith settings) :
    entry.route.basePath = "/" ++ "/".intercalate entry.base := by
  rw [Entry.base, Route.basePath, (ofPattern_eq_ok made).2.1,
    segments_basePath (slashFree_literalStart settings _), basePath]

/-- The pattern of an entry and its target register the same entry again. -/
theorem filterMap_ofCall? {entries : List (Entry τ)}
    (made : ∀ entry ∈ entries, entry.MadeWith settings) :
    (entries.map fun entry => (entry.route.pattern, entry.target)).filterMap
      (Entry.ofCall? settings) = entries := by
  rw [List.filterMap_map]
  induction entries with
  | nil => rfl
  | cons entry rest ih =>
    rw [List.forall_mem_cons] at made
    have again : Entry.ofCall? settings (entry.route.pattern, entry.target) = some entry := by
      rw [Entry.ofCall?, made.1]
      rfl
    rw [List.filterMap_cons, Function.comp_apply, again, ih made.2]

/-- The entries of one base are determined by what is registered under the base path. -/
theorem entriesAt_eq_of_registered {table other : Table τ}
    (made : ∀ entry ∈ table.entries, entry.MadeWith settings)
    (otherMade : ∀ entry ∈ other.entries, entry.MadeWith settings)
    (same : ∀ base, table.registered base = other.registered base) (base : List String) :
    entriesAt table.entries base = entriesAt other.entries base := by
  let text := "/" ++ "/".intercalate base
  have under : ∀ entries : List (Entry τ), (∀ entry ∈ entries, entry.MadeWith settings) →
      entriesAt entries base =
        entriesAt (entries.filter fun entry => decide (entry.route.basePath = text)) base := by
    intro entries made
    rw [entriesAt, entriesAt, List.filter_filter]
    refine List.filter_congr fun entry member => ?_
    by_cases atBase : entry.base = base
    · simp [atBase, basePath_eq (made entry member), text]
    · simp [atBase]
  have kept : (table.entries.filter fun entry => decide (entry.route.basePath = text)) =
      other.entries.filter fun entry => decide (entry.route.basePath = text) := by
    rw [← filterMap_ofCall? fun entry member => made entry (List.mem_of_mem_filter member),
      ← filterMap_ofCall? fun entry member => otherMade entry (List.mem_of_mem_filter member)]
    exact congrArg _ (same text)
  rw [under _ made, under _ otherMade, kept]

end

/-- The answer to a resolution, given what a search finds. -/
def resolution (path : String) : Option (Hit τ) → Except Failure (Hit τ)
  | some hit => .ok hit
  | none => .error (.unmatched path)

theorem resolve_of_found {table : Table τ} {found : Option (Hit τ)}
    (search : (table.find path).outcome = .ok found) :
    (table.resolve path).outcome = resolution path found := by
  rw [resolve_eq, search]
  cases found <;> rfl

/-- Two sequences of calls that register the same patterns with the same targets, and in the same
    order under each base path, make tables that answer every search alike: with the same hit, or
    with a miss. -/
theorem find_of_same_order [Character.Names] (valid : settings.check = .ok ())
    {calls others : List (String × τ)}
    (same : ∀ base, (Table.build settings calls).registered base =
      (Table.build settings others).registered base) (path : String) :
    ∃ found,
      ((Table.build settings calls).find path).outcome = .ok found ∧
      ((Table.build settings others).find path).outcome = .ok found ∧
      ((Table.build settings calls).resolve path).outcome = resolution path found ∧
      ((Table.build settings others).resolve path).outcome = resolution path found := by
  have buckets := entriesAt_eq_of_registered (madeWith_build settings calls)
    (madeWith_build settings others) same
  have alike : (Table.build settings calls).find path = (Table.build settings others).find path := by
    simp only [find_build, candidates_bucketsOf, funext buckets]
  obtain ⟨found, search⟩ := exists_found_build valid calls path
  have otherSearch := alike ▸ search
  exact ⟨found, search, otherSearch, resolve_of_found search, resolve_of_found otherSearch⟩

/-- A route for all paths that is registered before or after those of a longer base path. -/
theorem find_of_same_order_manual :
    let settings : Settings := { singleCapture := "v?(\\d+)" }
    let calls := [("/docs/[...page]", 1), ("/docs/[id]", 2), ("/[...rest]", 3)]
    let others := [("/[...rest]", 3), ("/docs/[...page]", 1), ("/docs/[id]", 2)]
    settings.check = .ok () ∧
      (∀ base, (Table.build settings calls).registered base =
        (Table.build settings others).registered base) ∧
      ∃ hit, ((Table.build settings calls).find "/docs/v7").outcome = .ok (some hit) ∧
        ((Table.build settings others).find "/docs/v7").outcome = .ok (some hit) ∧
        hit.target = 1 := by
  intro settings calls others
  have valid : settings.check = .ok () := by decide +kernel
  let row (entry : Entry Nat) := (entry.route.basePath, entry.route.pattern, entry.target)
  have rows : (Table.build settings calls).entries.map row =
      [("/docs", "/docs/[...page]", 1), ("/docs", "/docs/[id]", 2), ("/", "/[...rest]", 3)] := by
    decide +kernel
  have otherRows : (Table.build settings others).entries.map row =
      [("/", "/[...rest]", 3), ("/docs", "/docs/[...page]", 1), ("/docs", "/docs/[id]", 2)] := by
    decide +kernel
  have ofRows : ∀ (table : Table Nat) base, table.registered base =
      ((table.entries.map row).filter fun row => decide (row.1 = base)).map Prod.snd := by
    intro table base
    rw [List.filter_map, List.map_map]
    rfl
  have same : ∀ base, (Table.build settings calls).registered base =
      (Table.build settings others).registered base := by
    intro base
    rw [ofRows, ofRows, rows, otherRows]
    by_cases docs : "/docs" = base
    · subst docs
      decide
    · simp [List.filter_cons, docs]
  obtain ⟨found, search, otherSearch, -, -⟩ := find_of_same_order valid same "/docs/v7"
  obtain ⟨answer, searched, hits⟩ := exists_of_any
    ((Table.build settings calls).find "/docs/v7").outcome
    (fun found => found.any fun hit => hit.target == 1) (by decide +kernel)
  rw [search] at searched
  cases searched
  obtain ⟨hit, rfl, target⟩ := (Option.any_eq_true _ _).mp hits
  exact ⟨valid, same, hit, search, otherSearch, by simpa using target⟩

/-! ## One more registration -/

/-- One more entry stands somewhere among those of its base, and leaves the other bases alone. -/
theorem flatMap_entriesAt_insert (front back : List (Entry τ)) (entry : Entry τ)
    {bases : List (List String)} (distinct : bases.Nodup) :
    bases.flatMap (entriesAt (front ++ entry :: back)) = bases.flatMap (entriesAt (front ++ back)) ∨
      ∃ before after, bases.flatMap (entriesAt (front ++ back)) = before ++ after ∧
        bases.flatMap (entriesAt (front ++ entry :: back)) = before ++ entry :: after := by
  have elsewhere : ∀ others : List (List String), entry.base ∉ others →
      others.flatMap (entriesAt (front ++ entry :: back)) =
        others.flatMap (entriesAt (front ++ back)) := by
    intro others absent
    refine List.flatMap_congr fun base member => ?_
    have other : entry.base ≠ base := fun same => absent (same ▸ member)
    simp [entriesAt, other]
  by_cases listed : entry.base ∈ bases
  · obtain ⟨longer, shorter, rfl⟩ := List.append_of_mem listed
    obtain ⟨fresh, -⟩ := List.nodup_cons.mp (List.perm_middle.nodup_iff.mp distinct)
    rw [List.mem_append, not_or] at fresh
    have here : entriesAt (front ++ entry :: back) entry.base =
        entriesAt front entry.base ++ entry :: entriesAt back entry.base := by
      simp [entriesAt]
    have without : entriesAt (front ++ back) entry.base =
        entriesAt front entry.base ++ entriesAt back entry.base := by
      simp [entriesAt]
    refine .inr ⟨longer.flatMap (entriesAt (front ++ back)) ++ entriesAt front entry.base,
      entriesAt back entry.base ++ shorter.flatMap (entriesAt (front ++ back)), ?_, ?_⟩
    · rw [List.flatMap_append, List.flatMap_cons, without]
      simp only [List.append_assoc]
    · rw [List.flatMap_append, List.flatMap_cons, elsewhere longer fresh.1,
        elsewhere shorter fresh.2, here]
      simp only [List.append_assoc, List.cons_append]
  · exact .inl (elsewhere bases listed)

/-- One more entry stands somewhere among the candidates of a path, or is none of them. -/
theorem candidates_insert (front back : List (Entry τ)) (entry : Entry τ) (path : String) :
    Table.candidates (bucketsOf (front ++ entry :: back)) path =
        Table.candidates (bucketsOf (front ++ back)) path ∨
      ∃ before after, Table.candidates (bucketsOf (front ++ back)) path = before ++ after ∧
        Table.candidates (bucketsOf (front ++ entry :: back)) path = before ++ entry :: after := by
  have distinct : (Text.segments path).inits.reverse.Nodup := by
    refine (List.pairwise_reverse.mpr (inits_pairwise (Text.segments path))).imp ?_
    intro long short shorter same
    rw [same] at shorter
    exact Nat.lt_irrefl _ shorter
  simp only [candidates_bucketsOf]
  exact flatMap_entriesAt_insert front back entry distinct

section

variable [Character.Names]

/-- With one more entry, a search finds what it found without it, or this entry. -/
theorem firstHit_insert (valid : settings.check = .ok ()) {front : List (Entry τ)}
    (made : ∀ entry ∈ front, entry.MadeWith settings) {entry : Entry τ}
    (entryMade : entry.MadeWith settings) (back : List (Entry τ)) (path : String) :
    (Table.firstHit path (front ++ entry :: back)).outcome =
        (Table.firstHit path (front ++ back)).outcome ∨
      ∃ bindings, (entry.route.bind path).outcome = .ok bindings ∧
        (Table.firstHit path (front ++ entry :: back)).outcome =
          .ok (some { route := entry.route, bindings := bindings, target := entry.target }) := by
  induction front with
  | nil =>
    rw [List.nil_append, List.nil_append]
    cases decided : entry.route.test path with
    | true =>
      obtain ⟨bindings, bound⟩ := bind_of_accepted valid entryMade decided
      exact .inr ⟨bindings, by rw [bound]; rfl, by rw [firstHit_cons_accepted bound]; rfl⟩
    | false =>
      rw [firstHit_cons_refused decided]
      exact .inl rfl
  | cons first rest ih =>
    rw [List.forall_mem_cons] at made
    rw [List.cons_append, List.cons_append]
    cases decided : first.route.test path with
    | true =>
      -- The first entry is the hit, whatever stands behind it.
      obtain ⟨bindings, bound⟩ := bind_of_accepted valid made.1 decided
      rw [firstHit_cons_accepted bound, firstHit_cons_accepted bound]
      exact .inl rfl
    | false =>
      rw [firstHit_cons_refused decided, firstHit_cons_refused decided]
      exact ih made.2

/-- With one more entry in the table, a search finds what it found without it, or this entry. -/
theorem searched_insert (valid : settings.check = .ok ()) {before after : List (Entry τ)}
    {entry : Entry τ} (made : ∀ other ∈ before ++ entry :: after, other.MadeWith settings)
    (path : String) :
    (Table.firstHit path (Table.candidates (bucketsOf (before ++ entry :: after)) path)).outcome =
        (Table.firstHit path (Table.candidates (bucketsOf (before ++ after)) path)).outcome ∨
      ∃ bindings, (entry.route.bind path).outcome = .ok bindings ∧
        (Table.firstHit path
            (Table.candidates (bucketsOf (before ++ entry :: after)) path)).outcome =
          .ok (some { route := entry.route, bindings := bindings, target := entry.target }) := by
  obtain same | ⟨earlier, later, candidates, candidatesNow⟩ :=
    candidates_insert before after entry path
  · exact .inl (by rw [same])
  · have earlierMade : ∀ other ∈ earlier, other.MadeWith settings := fun other member =>
      madeWith_of_candidate made (by rw [candidatesNow]; simp [member])
    rw [candidates, candidatesNow]
    exact firstHit_insert valid earlierMade (made entry (by simp)) later path

/-- The calls with one more call among them register one more entry, or the same ones if its pattern
    does not compile. -/
theorem entries_build_insert (settings : Settings) (front back : List (String × τ))
    (call : String × τ) :
    Table.build settings (front ++ call :: back) = Table.build settings (front ++ back) ∨
      ∃ before entry after, (Route.ofPattern settings call.1).outcome = .ok entry.route ∧
        entry.target = call.2 ∧
        (Table.build settings (front ++ back)).entries = before ++ after ∧
        (Table.build settings (front ++ call :: back)).entries = before ++ entry :: after := by
  simp only [build_eq, List.filterMap_append, List.filterMap_cons]
  cases compiled : (Route.ofPattern settings call.1).outcome with
  | error failure =>
    have unregistered : Entry.ofCall? settings call = none := by
      rw [Entry.ofCall?, compiled]
      rfl
    rw [unregistered]
    exact .inl rfl
  | ok route =>
    have registered : Entry.ofCall? settings call = some { route := route, target := call.2 } := by
      rw [Entry.ofCall?, compiled]
      rfl
    rw [registered]
    exact .inr ⟨_, _, _, rfl, rfl, rfl, rfl⟩

/-- One more call among the calls that make a table leaves the answer of every search as it is, or
    the answer is the entry of this call. A path that was resolved is still resolved. -/
theorem find_of_inserted (valid : settings.check = .ok ()) (front back : List (String × τ))
    (call : String × τ) (path : String) :
    ∃ found foundNow,
      ((Table.build settings (front ++ back)).find path).outcome = .ok found ∧
      ((Table.build settings (front ++ call :: back)).find path).outcome = .ok foundNow ∧
      (foundNow = found ∨ ∃ route bindings,
        (Route.ofPattern settings call.1).outcome = .ok route ∧
        (route.bind path).outcome = .ok bindings ∧
        foundNow = some { route := route, bindings := bindings, target := call.2 }) ∧
      ∀ hit, ((Table.build settings (front ++ back)).resolve path).outcome = .ok hit →
        ∃ hitNow, ((Table.build settings (front ++ call :: back)).resolve path).outcome =
          .ok hitNow := by
  obtain ⟨found, search⟩ := exists_found_build valid (front ++ back) path
  obtain ⟨foundNow, searchNow⟩ := exists_found_build valid (front ++ call :: back) path
  have answer : foundNow = found ∨ ∃ route bindings,
      (Route.ofPattern settings call.1).outcome = .ok route ∧
      (route.bind path).outcome = .ok bindings ∧
      foundNow = some { route := route, bindings := bindings, target := call.2 } := by
    obtain same | ⟨before, entry, after, compiled, target, entries, entriesNow⟩ :=
      entries_build_insert settings front back call
    · rw [same] at searchNow
      exact .inl (Except.ok.inj (searchNow.symm.trans search))
    · have made := madeWith_build settings (front ++ call :: back)
      have inserted := searched_insert valid (entriesNow ▸ made) path
      rw [← entries, ← entriesNow, ← find_build, ← find_build, search, searchNow] at inserted
      obtain same | ⟨bindings, bound, hit⟩ := inserted
      · exact .inl (Except.ok.inj same)
      · exact .inr ⟨entry.route, bindings, compiled, bound, target ▸ Except.ok.inj hit⟩
  refine ⟨found, foundNow, search, searchNow, answer, fun hit resolved => ?_⟩
  rw [resolve_of_found search] at resolved
  rw [resolve_of_found searchNow]
  obtain rfl | ⟨route, bindings, -, -, rfl⟩ := answer
  · exact ⟨hit, resolved⟩
  · exact ⟨_, rfl⟩

end

/-- A pattern with a base path of its own is registered between two others, one of which had accepted
    the path before. -/
theorem find_of_inserted_manual :
    let settings : Settings := { singleCapture := "v?(\\d+)" }
    let front := [("/docs/[id]", 1)]
    let back := [("/docs/[...page]", 3)]
    settings.check = .ok () ∧
      ∃ hit hitNow, ((Table.build settings (front ++ back)).resolve "/docs/v7/a").outcome = .ok hit ∧
        ((Table.build settings (front ++ ("/docs/v7/[...page]", 2) :: back)).resolve
          "/docs/v7/a").outcome = .ok hitNow := by
  intro settings front back
  have valid : settings.check = .ok () := by decide +kernel
  obtain ⟨hit, resolved, -⟩ := exists_of_any
    ((Table.build settings (front ++ back)).resolve "/docs/v7/a").outcome
    (fun _ => true) (by decide +kernel)
  obtain ⟨-, -, -, -, -, still⟩ :=
    find_of_inserted valid front back ("/docs/v7/[...page]", 2) "/docs/v7/a"
  obtain ⟨hitNow, resolvedNow⟩ := still hit resolved
  exact ⟨valid, hit, hitNow, resolved, resolvedNow⟩

end RoutePattern
