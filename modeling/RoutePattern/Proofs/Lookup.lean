import RoutePattern.Proofs.BasePath
import RoutePattern.Proofs.Buckets
import RoutePattern.Proofs.Captures

/-! # Searching a table

* `firstHit_of_refused`, `firstHit_append`, `firstHit_of_split` — entries are tried in order, and each
  one that refuses the path leaves a record; the first one that accepts it ends the search.
* `Best` — the entry with the longest base path among those that accept a path, and of these the
  one that was registered first.
* `Table.addAll`, `addAll_standard` — registering patterns one after another.
* `find_best` — a search finds exactly this entry.
-/

namespace RoutePattern

variable {τ : Type} {optional : Bool} {path : String}

/-! ## Trying entries in order -/

theorem firstHit_cons_refused {entry : Entry τ} (refused : entry.route.test path = false)
    (rest : List (Entry τ)) :
    Table.firstHit path (entry :: rest) =
      { records := entry.route.mismatch path :: (Table.firstHit path rest).records
        outcome := (Table.firstHit path rest).outcome } := by
  simp only [Table.firstHit, bind_of_refused refused, List.singleton_append]

theorem firstHit_cons_accepted {entry : Entry τ} {bindings : Bindings}
    (bound : entry.route.bind path = .pure bindings) (rest : List (Entry τ)) :
    Table.firstHit path (entry :: rest) =
      .pure (some { route := entry.route, bindings := bindings, target := entry.target }) := by
  simp only [Table.firstHit, bound]
  rfl

/-- Entries that refuse the path leave one record each and give way to those behind them. -/
theorem firstHit_append {missed : List (Entry τ)}
    (refused : ∀ entry ∈ missed, entry.route.test path = false) (rest : List (Entry τ)) :
    Table.firstHit path (missed ++ rest) =
      { records := missed.map (fun entry => entry.route.mismatch path) ++
          (Table.firstHit path rest).records
        outcome := (Table.firstHit path rest).outcome } := by
  induction missed with
  | nil => rfl
  | cons entry others ih =>
    rw [List.forall_mem_cons] at refused
    rw [List.cons_append, firstHit_cons_refused refused.1, ih refused.2]
    rfl

theorem firstHit_of_refused {entries : List (Entry τ)}
    (refused : ∀ entry ∈ entries, entry.route.test path = false) :
    Table.firstHit path entries =
      { records := entries.map fun entry => entry.route.mismatch path, outcome := .ok none } := by
  have ended : Table.firstHit path ([] : List (Entry τ)) = .pure none := rfl
  have tried := firstHit_append refused []
  rw [List.append_nil, ended] at tried
  simpa [Traced.pure] using tried

/-- The first entry that accepts the path ends the search. -/
theorem firstHit_of_split {missed : List (Entry τ)} {winner : Entry τ} {bindings : Bindings}
    (refused : ∀ entry ∈ missed, entry.route.test path = false)
    (bound : winner.route.bind path = .pure bindings) (others : List (Entry τ)) :
    Table.firstHit path (missed ++ winner :: others) =
      { records := missed.map fun entry => entry.route.mismatch path
        outcome := .ok (some
          { route := winner.route, bindings := bindings, target := winner.target }) } := by
  rw [firstHit_append refused, firstHit_cons_accepted bound]
  simp [Traced.pure]

/-! ## The best entry -/

/-- An entry that accepts a path, with the number under which it was registered. Every other entry
    that accepts the path has a shorter base path, or an equally long one and a later number. -/
structure Best (entries : List (Entry τ)) (path : String) (index : Nat) (entry : Entry τ) :
    Prop where
  registered : entries[index]? = some entry
  accepts : entry.route.test path = true
  first : ∀ (otherIndex : Nat) (other : Entry τ), entries[otherIndex]? = some other →
    other.route.test path = true → other.base.length < entry.base.length ∨
      other.base.length = entry.base.length ∧ index ≤ otherIndex

theorem mem_entriesAt {entries : List (Entry τ)} {base : List String} {entry : Entry τ} :
    entry ∈ entriesAt entries base ↔ entry ∈ entries ∧ entry.base = base := by
  simp [entriesAt]

/-- The first candidate that accepts a path is the best entry, if every entry that accepts the path
    is a candidate. -/
theorem best_of_find? {entries : List (Entry τ)}
    (begins : ∀ entry ∈ entries, entry.route.test path = true →
      entry.base <+: Text.segments path) {entry : Entry τ}
    (found : ((Text.segments path).inits.reverse.flatMap (entriesAt entries)).find?
      (fun entry => entry.route.test path) = some entry) :
    ∃ index, Best entries path index entry := by
  rw [List.find?_flatMap, List.findSome?_eq_some_iff] at found
  obtain ⟨longer, base, shorter, split, foundAt, missed⟩ := found
  have ordered := List.pairwise_reverse.mpr (inits_pairwise (Text.segments path))
  rw [split, List.pairwise_append, List.pairwise_cons] at ordered
  rw [entriesAt, List.find?_filter, List.find?_eq_some_iff_getElem] at foundAt
  obtain ⟨holds, index, bound, here, earliest⟩ := foundAt
  simp only [decide_eq_true_eq] at holds
  refine ⟨index, by simp [here, bound], holds.2, ?_⟩
  intro otherIndex other otherHere accepted
  have member : other ∈ entries := List.mem_of_getElem? otherHere
  have inInits : other.base ∈ longer ++ base :: shorter := by
    rw [← split, List.mem_reverse, List.mem_inits]
    exact begins other member accepted
  obtain inLonger | inRest := List.mem_append.mp inInits
  · -- No entry of a longer base path accepts the path.
    have rejected := List.find?_eq_none.mp (missed _ inLonger) other
      (mem_entriesAt.mpr ⟨member, rfl⟩)
    exact absurd accepted rejected
  · obtain same | inShorter := List.mem_cons.mp inRest
    · right
      refine ⟨by rw [same, holds.1], ?_⟩
      by_contra earlier
      have before : otherIndex < index := by omega
      have rejected := earliest otherIndex before
      obtain ⟨within, there⟩ := List.getElem?_eq_some_iff.mp otherHere
      simp [there, same, accepted] at rejected
    · left
      rw [holds.1]
      exact ordered.2.1.1 other.base inShorter

theorem find?_eq_none_iff {entries : List (Entry τ)}
    (begins : ∀ entry ∈ entries, entry.route.test path = true →
      entry.base <+: Text.segments path) :
    ((Text.segments path).inits.reverse.flatMap (entriesAt entries)).find?
        (fun entry => entry.route.test path) = none ↔
      ∀ entry ∈ entries, entry.route.test path = false := by
  rw [List.find?_eq_none]
  constructor
  · intro rejected entry member
    by_contra accepted
    have accepts : entry.route.test path = true := by simpa using accepted
    have candidate : entry ∈ (Text.segments path).inits.reverse.flatMap (entriesAt entries) := by
      refine List.mem_flatMap.mpr ⟨entry.base, ?_, mem_entriesAt.mpr ⟨member, rfl⟩⟩
      rw [List.mem_reverse, List.mem_inits]
      exact begins entry member accepts
    exact rejected entry candidate accepts
  · intro rejected entry candidate
    obtain ⟨base, -, inBase⟩ := List.mem_flatMap.mp candidate
    simp [rejected entry (mem_entriesAt.mp inBase).1]

/-! ## Registering -/

/-- Registers patterns with their targets one after another. -/
def Table.addAll [Character.Names] (table : Table τ) : List (String × τ) → Traced (Table τ)
  | [] => .pure table
  | (pattern, target) :: rest => do
    let (_, larger) ← table.add pattern target
    larger.addAll rest

def Entry.standard (optional : Bool) (registration : String × τ) : Entry τ where
  route := .standard optional registration.1
  target := registration.2

theorem add_standard [Character.Names] {table : Table τ}
    (settings : table.settings = .standard optional)
    (uncompiled : table.buckets = none) (pattern : String) (target : τ) :
    (table.add pattern target).outcome =
      .ok (.standard optional pattern,
        { table with entries := table.entries ++ [.standard optional (pattern, target)] }) := by
  rw [Table.add, uncompiled, settings]
  simp only [Traced.outcome_bind, ofPattern_standard]
  rfl

theorem addAll_standard [Character.Names] {table : Table τ}
    (settings : table.settings = .standard optional)
    (uncompiled : table.buckets = none) (registrations : List (String × τ)) :
    (table.addAll registrations).outcome =
      .ok { table with
        entries := table.entries ++ registrations.map (Entry.standard optional) } := by
  induction registrations generalizing table with
  | nil => simp [Table.addAll]
  | cons registration rest ih =>
    obtain ⟨pattern, target⟩ := registration
    rw [Table.addAll, Traced.outcome_bind, add_standard settings uncompiled]
    let larger : Table τ :=
      { table with entries := table.entries ++ [.standard optional (pattern, target)] }
    have later := @ih larger settings uncompiled
    simpa [Except.bind, larger] using later

def Table.standard (optional : Bool) (registrations : List (String × τ)) : Table τ where
  settings := .standard optional
  entries := registrations.map (Entry.standard optional)
  buckets := some (bucketsOf (registrations.map (Entry.standard optional)))

theorem compile_addAll [Character.Names] (optional : Bool) (registrations : List (String × τ)) :
    ((Table.empty (.standard optional)).addAll registrations >>= Table.compile).outcome =
      .ok (Table.standard optional registrations) := by
  have uncompiled : (Table.empty (.standard optional) : Table τ).buckets = none := rfl
  rw [Traced.outcome_bind, addAll_standard rfl uncompiled]
  rfl

theorem eq_standard_of_mem {registrations : List (String × τ)} {entry : Entry τ}
    (member : entry ∈ (Table.standard optional registrations).entries) :
    entry.route = Route.standard optional entry.route.pattern := by
  obtain ⟨registration, -, rfl⟩ := List.mem_map.mp member
  rfl

/-! ## Searching -/

theorem base_prefix_of_mem {registrations : List (String × τ)} {entry : Entry τ}
    (member : entry ∈ (Table.standard optional registrations).entries)
    (accepted : entry.route.test path = true) : entry.base <+: Text.segments path := by
  have standard := eq_standard_of_mem member
  rw [standard] at accepted
  rw [Entry.base, standard]
  exact base_prefix_of_test accepted

theorem bind_of_mem {registrations : List (String × τ)} {entry : Entry τ}
    (member : entry ∈ (Table.standard optional registrations).entries)
    (accepted : entry.route.test path = true) :
    ∃ bindings, entry.route.bind path = .pure bindings := by
  rw [eq_standard_of_mem member] at accepted ⊢
  obtain ⟨choice, found, -⟩ := exists_head_of_test accepted
  exact ⟨_, bind_eq_of_head found⟩

theorem find_standard (registrations : List (String × τ)) (path : String) :
    ((Table.standard optional registrations).find path).outcome =
      (Table.firstHit path ((Text.segments path).inits.reverse.flatMap
        (entriesAt (Table.standard optional registrations).entries))).outcome := by
  rw [← candidates_bucketsOf]
  rfl

/-- A search finds nothing, or the best entry with the values that it binds. -/
theorem find_cases (registrations : List (String × τ)) (path : String) :
    let table := Table.standard optional registrations
    ((table.find path).outcome = .ok none ∧
        ∀ entry ∈ table.entries, entry.route.test path = false) ∨
      ∃ index entry bindings, Best table.entries path index entry ∧
        (entry.route.bind path).outcome = .ok bindings ∧
        (table.find path).outcome = .ok (some
          { route := entry.route, bindings := bindings, target := entry.target }) := by
  intro table
  have begins : ∀ entry ∈ table.entries, entry.route.test path = true →
      entry.base <+: Text.segments path := fun entry member => base_prefix_of_mem member
  cases first : ((Text.segments path).inits.reverse.flatMap (entriesAt table.entries)).find?
      fun entry => entry.route.test path with
  | none =>
    refine .inl ⟨?_, (find?_eq_none_iff begins).mp first⟩
    rw [find_standard, firstHit_of_refused (by simpa using List.find?_eq_none.mp first)]
  | some entry =>
    obtain ⟨index, best⟩ := best_of_find? begins first
    obtain ⟨-, missed, untried, split, refused⟩ := List.find?_eq_some_iff_append.mp first
    obtain ⟨bindings, bound⟩ := bind_of_mem (List.mem_of_getElem? best.registered) best.accepts
    refine .inr ⟨index, entry, bindings, best, congrArg Traced.outcome bound, ?_⟩
    rw [find_standard, split, firstHit_of_split (by simpa using refused) bound]

theorem resolve_eq (table : Table τ) (path : String) :
    (table.resolve path).outcome = (table.find path).outcome.bind fun
      | some hit => .ok hit
      | none => .error (.unmatched path) := by
  rw [Table.resolve, Traced.outcome_bind]
  congr 1
  funext found
  cases found <;> rfl

/-- Patterns can be registered and the table compiled, and a search then finds the entry with the
    longest base path among those that accept the path, and of these the one that was registered
    first, with the values that it binds. There is nothing to be found exactly if no entry accepts
    the path. -/
theorem find_best [Character.Names] (optional : Bool) (registrations : List (String × τ)) :
    ∃ table, ((Table.empty (.standard optional)).addAll registrations >>=
        Table.compile).outcome = .ok table ∧
      (table.entries.map fun entry => (entry.route.pattern, entry.target)) = registrations ∧
      (∀ entry ∈ table.entries,
        (Route.ofPattern (.standard optional) entry.route.pattern).outcome = .ok entry.route) ∧
      ∀ path : String,
        ((table.find path).outcome = .ok none ↔
          ∀ entry ∈ table.entries, entry.route.test path = false) ∧
        ((∃ entry ∈ table.entries, entry.route.test path = true) →
          ∃ index entry bindings, Best table.entries path index entry ∧
            (entry.route.bind path).outcome = .ok bindings ∧
            (table.find path).outcome = .ok (some
              { route := entry.route, bindings := bindings, target := entry.target })) ∧
        (∀ hit, (table.resolve path).outcome = .ok hit ↔
          (table.find path).outcome = .ok (some hit)) ∧
        ((table.resolve path).outcome = .error (.unmatched path) ↔
          (table.find path).outcome = .ok none) := by
  refine ⟨Table.standard optional registrations, compile_addAll optional registrations, ?_, ?_, ?_⟩
  · have restored : (fun entry : Entry τ => (entry.route.pattern, entry.target)) ∘
        Entry.standard optional = id := rfl
    rw [Table.standard, List.map_map, restored, List.map_id]
  · intro entry member
    rw [ofPattern_standard, ← eq_standard_of_mem member]
  intro path
  rw [resolve_eq]
  obtain ⟨missed, rejected⟩ | ⟨index, entry, bindings, best, bound, found⟩ :=
    find_cases registrations path
  · rw [missed]
    refine ⟨⟨fun _ => rejected, fun _ => rfl⟩, ?_, ?_, ?_⟩
    · intro ⟨entry, member, accepted⟩
      rw [rejected entry member] at accepted
      cases accepted
    · intro hit
      simp [Except.bind]
    · simp [Except.bind]
  · rw [found]
    have member : entry ∈ (Table.standard optional registrations).entries :=
      List.mem_of_getElem? best.registered
    refine ⟨?_, fun _ => ⟨index, entry, bindings, best, bound, rfl⟩, ?_, ?_⟩
    · constructor
      · intro missed
        cases missed
      · intro rejected
        exact absurd best.accepts (by simp [rejected entry member])
    · intro hit
      simp [Except.bind]
    · simp [Except.bind]

end RoutePattern
