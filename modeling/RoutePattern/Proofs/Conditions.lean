import RoutePattern.Proofs.Anchoring
import RoutePattern.Proofs.Regex.Heeding

/-! # Conditions in capture fragments

A checked fragment holds no reference back, but it may hold a condition, which asks whether its group
has taken part in the match. Unlike the group, the condition is not renumbered when the fragment is
spliced: it asks for the group of the first placeholder wherever it stands.

* `splicedFragments` — the fragments of the placeholders, with the numbers that their groups get.
* `exists_read_past` — reading a pattern that compiles.
* `groups_of_compiled` — an expression has one group for each placeholder.
* `references_spliced` — an expression asks for nothing but what its fragments ask for, and that is
  the group of the first placeholder.
* `condition_asks_elsewhere` — what a placeholder accepts depends on what another one captured.
-/

namespace RoutePattern

open Regex
open Regex.Reader (Done)

/-- The group of a fragment with one group, which has no group inside it. -/
theorem groups_renumber_of_eq_singleton {fragment body : Expression}
    (group : fragment.groups = [(1, body)]) (shift : Nat) :
    (fragment.renumber shift).groups = [(shift + 1, body)] := by
  have member : (1, body) ∈ fragment.groups := by simp [group]
  have inside := Expression.length_groups_lt member
  rw [group, List.length_singleton, Nat.lt_one_iff, List.length_eq_zero_iff] at inside
  rw [Expression.groups_renumber, group]
  simp [Expression.renumberGroup, Expression.renumber_of_groups_eq_nil shift inside, Nat.add_comm]

section

variable [Character.Names]

/-- The expression of a capture fragment on its own. -/
def fragmentOf (settings : Settings) (reach : Reach) : Expression :=
  match Program.compile (settings.capture reach) with
  | .ok program => program.expression
  | .error _ => .empty

/-- The fragments of placeholders from left to right, with the group of the first one numbered one,
    and so on. -/
def splicedFragments (settings : Settings) (placeholders : List Placeholder) : List Expression :=
  placeholders.mapIdx fun index placeholder =>
    (fragmentOf settings placeholder.reach).renumber index

theorem fragmentOf_eq_content {settings : Settings} (valid : settings.check = .ok ()) {reach : Reach}
    {final : Reader} (read : Regex.read (settings.capture reach).toList = .ok final) :
    fragmentOf settings reach = final.content := by
  obtain ⟨program, compiled, -⟩ := checkCapture_eq_ok (checkCapture_of_check valid reach)
  obtain ⟨reader, found, -, rfl⟩ := compile_eq_ok.mp compiled
  cases found.symm.trans read
  simp [fragmentOf, compiled]

theorem splicedFragments_concat (settings : Settings) (front : List Placeholder)
    (last : Placeholder) :
    splicedFragments settings (front ++ [last]) =
      splicedFragments settings front ++ [(fragmentOf settings last.reach).renumber front.length] :=
  List.mapIdx_concat

theorem references_splicedFragments (settings : Settings) (placeholders : List Placeholder) :
    (splicedFragments settings placeholders).flatMap Expression.references =
      placeholders.flatMap fun placeholder => (fragmentOf settings placeholder.reach).references := by
  induction placeholders using List.reverseRecOn with
  | nil => rfl
  | append_singleton front last ih =>
    simp [splicedFragments_concat, ih, Expression.references_renumber]

theorem groups_splicedFragments {settings : Settings} {bodies : Reach → Expression}
    {placeholders : List Placeholder}
    (known : ∀ placeholder ∈ placeholders,
      (fragmentOf settings placeholder.reach).groups = [(1, bodies placeholder.reach)]) :
    (splicedFragments settings placeholders).flatMap Expression.groups =
      numbered (placeholders.map fun placeholder => bodies placeholder.reach) := by
  induction placeholders using List.reverseRecOn with
  | nil => rfl
  | append_singleton front last ih =>
    rw [List.forall_mem_append, List.forall_mem_singleton] at known
    rw [splicedFragments_concat, List.flatMap_append, ih known.1, List.map_append, List.map_singleton,
      numbered_append_singleton]
    simp [groups_renumber_of_eq_singleton known.2]

theorem exists_placeholder_of_getElem? {settings : Settings} {placeholders : List Placeholder}
    {index : Nat} {fragment : Expression}
    (found : (splicedFragments settings placeholders)[index]? = some fragment) :
    ∃ placeholder ∈ placeholders,
      (fragmentOf settings placeholder.reach).renumber index = fragment := by
  obtain ⟨placeholder, atIndex, renumbered⟩ : ∃ placeholder,
      placeholders[index]? = some placeholder ∧
        (fragmentOf settings placeholder.reach).renumber index = fragment := by
    simpa [splicedFragments] using found
  exact ⟨placeholder, List.mem_of_getElem? atIndex, renumbered⟩

/-- A pattern that compiles has been read to its end, past the fragments of all its placeholders, and
    its program was made of what was read. -/
theorem exists_read_past {settings : Settings} (valid : settings.check = .ok ()) {pattern : String}
    {route : Route} (compiled : (Route.ofPattern settings pattern).outcome = .ok route) :
    ∃ finals bodies reader source,
      (∀ reach, Spliced settings True False (finals reach) (bodies reach) reach) ∧
      Past finals bodies (Done False) (segmentsOf pattern) reader ∧
      route.template.program = ⟨source, reader.content, reader.groups.length, reader.names⟩ := by
  have known : ∀ reach, ∃ final body, Spliced settings True False final body reach := by
    intro reach
    obtain ⟨-, final, body, -, -, spliced⟩ := exists_spliced valid (fun _ => trivial) False.elim
    exact ⟨final, body, spliced⟩
  choose finals bodies spliced using known
  have all : AllSpliced settings True False finals bodies (segmentsOf pattern) :=
    fun placeholder _ => spliced placeholder.reach
  obtain ⟨reader, read, -, program⟩ := compile_eq_ok.mp (ofPattern_eq_ok compiled).2.2
  rw [partsOf_eq] at read
  obtain ⟨other, same, past⟩ | ⟨-, error, failed⟩ :=
    (reaches_whole all (isRooted pattern)).read_of_finish fun _ past => past.1.finish
  · cases read.symm.trans same
    exact ⟨finals, bodies, reader, _, spliced, past, program⟩
  · cases read.symm.trans failed

/-- A compiled pattern has one group for each placeholder. -/
theorem groups_of_compiled {settings : Settings} (valid : settings.check = .ok ()) {pattern : String}
    {route : Route} (compiled : (Route.ofPattern settings pattern).outcome = .ok route) :
    route.template.program.groups = route.placeholders.length := by
  obtain ⟨finals, bodies, reader, _, -, ⟨done, -⟩, program⟩ := exists_read_past valid compiled
  have count : reader.groups.length = (bodiesOf bodies (segmentsOf pattern)).length := done.count
  rw [program, count, bodiesOf_partsOf bodies (ofPattern_eq_ok compiled).2.1, List.length_map]

/-- The groups of a compiled pattern are those of the fragments that are spliced, and so are the
    groups that are asked for. The fragment of each placeholder holds the group with the number of
    its place, but what it asks for is always the group with number one. So it depends on its own
    group alone if it is the first, or asks for no group. -/
theorem references_spliced {settings : Settings} (valid : settings.check = .ok ())
    {pattern : String} {route : Route}
    (compiled : (Route.ofPattern settings pattern).outcome = .ok route) :
    let fragments := splicedFragments settings route.placeholders
    route.template.program.expression.groups = fragments.flatMap Expression.groups ∧
      route.template.program.expression.references = fragments.flatMap Expression.references ∧
      ∀ index fragment, fragments[index]? = some fragment →
        fragment.groups.map Prod.fst = [index + 1] ∧
        (∀ number ∈ fragment.references, number = 1) ∧
        (index = 0 ∨ fragment.references = [] → fragment.run.Heeds [index + 1]) := by
  intro fragments
  obtain ⟨finals, bodies, reader, _, spliced, ⟨done, silent⟩, program⟩ :=
    exists_read_past valid compiled
  have content : ∀ reach, fragmentOf settings reach = (finals reach).content :=
    fun reach => fragmentOf_eq_content valid (spliced reach).fragment.read
  have slots : route.placeholders = (segmentsOf pattern).filterMap Segment.slot? :=
    placeholders_of_compiled compiled
  have group : ∀ placeholder ∈ route.placeholders,
      (fragmentOf settings placeholder.reach).groups = [(1, bodies placeholder.reach)] := by
    intro placeholder member
    rw [content]
    exact (spliced placeholder.reach).known (silent placeholder (slots ▸ member))
  refine ⟨?_, ?_, fun index fragment found => ?_⟩
  · rw [program, Reader.groups_content, done.held, bodiesOf, ← slots,
      groups_splicedFragments group]
  · rw [program, Reader.references_content, done.asked, referencesOf, ← slots,
      references_splicedFragments]
    simp only [content]
  · obtain ⟨placeholder, member, rfl⟩ := exists_placeholder_of_getElem? found
    have own : ∀ number ∈ (fragmentOf settings placeholder.reach).references, number = 1 := by
      rw [content]
      exact (spliced placeholder.reach).fragment.eq_one_of_mem_references
    rw [Expression.references_renumber, groups_renumber_of_eq_singleton (group placeholder member)]
    refine ⟨rfl, own, fun onlyOwn => heeds_run _ ?_⟩
    rw [Expression.references_renumber]
    intro number asked
    obtain rfl | none := onlyOwn
    · simpa using own number asked
    · simp [none] at asked

end

/-- The condition of the first placeholder asks for its own group. -/
theorem references_spliced_first :
    let settings : Settings := { singleCapture := "(a)?(?(1)b|c)" }
    settings.check = .ok () ∧
      ∃ route, (Route.ofPattern settings "[first]/[...rest]").outcome = .ok route ∧
        route.template.program.expression.references = [1] ∧
        ((fragmentOf settings .single).renumber 0).run.Heeds [1] := by
  intro settings
  have valid : settings.check = .ok () := by decide +kernel
  obtain ⟨route, compiled, -⟩ := exists_of_any
    (Route.ofPattern settings "[first]/[...rest]").outcome (fun _ => true) (by decide +kernel)
  have slots : route.placeholders = [⟨.single, "first"⟩, ⟨.multi, "rest"⟩] := by
    rw [placeholders_of_compiled compiled]
    decide +kernel
  obtain ⟨-, references, spliced⟩ := references_spliced valid compiled
  rw [slots] at references spliced
  obtain ⟨-, -, heeds⟩ := spliced 0 _ rfl
  exact ⟨valid, route, compiled, references.trans (by decide +kernel), heeds (.inl rfl)⟩

/-- The condition of the second placeholder asks for the group of the first one, so it accepts a text
    behind one value that it refuses behind another. -/
theorem condition_asks_elsewhere :
    let settings : Settings := { singleCapture := "(a)?(?(1)b|c)" }
    settings.check = .ok () ∧
      ∃ route, (Route.ofPattern settings "[first]/[second]").outcome = .ok route ∧
        ((splicedFragments settings route.placeholders)[1]?.any fun fragment =>
          fragment.groups.map Prod.fst == [2] && fragment.references == [1]) = true ∧
        route.template.program.expression.references = [1, 1] ∧
        route.test "ab/ab" = true ∧ route.test "c/c" = true ∧ route.test "ab/c" = false := by
  intro settings
  obtain ⟨route, compiled, found⟩ := exists_of_any
    (Route.ofPattern settings "[first]/[second]").outcome
    (fun route => route.template.program.expression.references == [1, 1] &&
      route.test "ab/ab" && route.test "c/c" && !route.test "ab/c") (by decide +kernel)
  have second : ((splicedFragments settings route.placeholders)[1]?.any fun fragment =>
      fragment.groups.map Prod.fst == [2] && fragment.references == [1]) = true := by
    rw [placeholders_of_compiled compiled]
    decide +kernel
  refine ⟨by decide +kernel, route, compiled, second, ?_⟩
  simpa [and_assoc] using found

end RoutePattern
