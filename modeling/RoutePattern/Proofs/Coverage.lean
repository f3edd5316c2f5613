import Mathlib.Data.List.Perm.Subperm
import RoutePattern.Proofs.Substitution

/-! # When values cover a pattern

A pattern is filled only with exactly one value for each of its placeholders.

* `Bindings.Cover` — there are as many values as placeholders, and each name has one.
* `fill_of_cover`, `fill_of_not_cover` — filling succeeds with such values and with no others.
* `cover_iff_of_nodup` — where no name is repeated, the names of the values are those of the pattern.
* `cover_eraseDups_iff` — distinct names cover the names they are taken from if these are distinct.
* `fill_fails_iff` — the failures of filling, and which captured values can be filled in again.
-/

namespace RoutePattern

/-- There are as many values as names, and each of the names has a value. -/
def Bindings.Cover (bindings : Bindings) (names : List String) : Prop :=
  bindings.names.length = names.length ∧ names ⊆ bindings.names

/-! ## Filling -/

/-- The first placeholder without a value ends the filling, whatever has been filled in before. -/
theorem fillTokens_of_unbound (route : Route) {bindings : Bindings}
    {placeholders : List Placeholder} {placeholder : Placeholder} (member : placeholder ∈ placeholders)
    (unbound : placeholder.name ∉ bindings.names) (text : List Char) :
    (route.fillTokens bindings placeholders text).outcome =
      .error (.missingValues bindings.names route.names) := by
  induction placeholders generalizing text with
  | nil => cases member
  | cons first rest ih =>
    rw [Route.fillTokens]
    cases found : bindings.get? first.name with
    | none => rfl
    | some value =>
      obtain rfl | later := List.mem_cons.mp member
      · cases found.symm.trans (lookup_eq_none unbound)
      · exact ih later _

variable {route : Route} {bindings : Bindings}

theorem fill_of_cover (covered : bindings.Cover route.names) :
    ∃ path, (route.fill bindings).outcome = .ok path := by
  obtain ⟨count, known⟩ := covered
  have provided : List.Forall₂ (Provides bindings) route.placeholders
      (boundTexts bindings route.placeholders) :=
    provides_boundTexts fun placeholder member => known (List.mem_map_of_mem member)
  have enough : bindings.entries.length = route.placeholders.length := by
    simpa [Bindings.names, Route.names] using count
  obtain ⟨filled, total⟩ := fillTokens_total route provided route.pattern.toList
  refine ⟨String.ofList filled, ?_⟩
  rw [Route.fill, if_pos enough, Traced.outcome_bind, total]
  rfl

theorem fill_of_not_cover (uncovered : ¬ bindings.Cover route.names) :
    (route.fill bindings).outcome = .error (.missingValues bindings.names route.names) := by
  by_cases enough : bindings.entries.length = route.placeholders.length
  · have count : bindings.names.length = route.names.length := by
      simpa [Bindings.names, Route.names] using enough
    obtain ⟨name, member, unbound⟩ : ∃ name ∈ route.names, name ∉ bindings.names := by
      by_contra none
      push Not at none
      exact uncovered ⟨count, none⟩
    obtain ⟨placeholder, inPattern, rfl⟩ := List.mem_map.mp member
    rw [Route.fill, if_pos enough, Traced.outcome_bind,
      fillTokens_of_unbound route inPattern unbound]
    rfl
  · rw [Route.fill, if_neg enough, Traced.outcome_bind]
    rfl

/-! ## Counting names -/

/-- As many distinct names as there are names to cover, and all of those among them: there are no
    others. -/
theorem cover_iff_of_nodup {names : List String} (distinct : names.Nodup) :
    bindings.Cover names ↔ ∀ name, name ∈ bindings.names ↔ name ∈ names := by
  constructor
  · rintro ⟨count, known⟩ name
    have within : names.Subperm bindings.names := List.subperm_of_subset distinct known
    exact (within.perm_of_length_le (Nat.le_of_eq count)).mem_iff.symm
  · intro same
    have perm : bindings.names.Perm names :=
      (List.perm_ext_iff_of_nodup bindings.distinct distinct).mpr same
    exact ⟨perm.length_eq, perm.symm.subset⟩

theorem cover_eraseDups_iff {names : List String} (bound : bindings.names = names.eraseDups) :
    bindings.Cover names ↔ names.Nodup := by
  have same : ∀ name, name ∈ bindings.names ↔ name ∈ names := by
    intro name
    rw [bound, List.mem_eraseDups]
  constructor
  · rintro ⟨count, -⟩
    -- Names that are repeated would be more than those they are reduced to.
    have within : bindings.names.Subperm names :=
      List.subperm_of_subset bindings.distinct fun name => (same name).mp
    exact (within.perm_of_length_le (Nat.le_of_eq count.symm)).nodup_iff.mp bindings.distinct
  · intro distinct
    exact (cover_iff_of_nodup distinct).mpr same

/-- What a path binds are the names of the pattern, each of them once. -/
theorem names_of_bind {path : String} (bound : (route.bind path).outcome = .ok bindings) :
    bindings.names = route.names.eraseDups := by
  rw [Route.bind, Traced.outcome_bind_eq_ok] at bound
  obtain ⟨values, -, collected⟩ := bound
  split at collected
  · rename_i count
    cases collected
    have paired : route.names.length ≤ (values.map Value.ofCapture).length := by
      simp [Route.names, count]
    rw [Bindings.names_ofList, List.map_fst_zip paired]
  · cases collected

/-! ## Failures of filling -/

/-- Filling fails exactly if the number of values is not that of the placeholders, or a placeholder has
    no value; the failure tells the names of the values and those of the placeholders. If no name is
    repeated, it fails exactly if the names of the values are not those of the placeholders. So what a
    path binds can be filled in again exactly if the pattern repeats no name; if it repeats one, its
    names were bound once each, in order of first occurrence. -/
theorem fill_fails_iff (route : Route) (bindings : Bindings) :
    let refusal := Failure.missingValues bindings.names route.names
    ((∃ path, (route.fill bindings).outcome = .ok path) ∨
        (route.fill bindings).outcome = .error refusal) ∧
      ((route.fill bindings).outcome = .error refusal ↔
        bindings.names.length ≠ route.names.length ∨ ∃ name ∈ route.names, name ∉ bindings.names) ∧
      (route.names.Nodup → ((route.fill bindings).outcome = .error refusal ↔
        ¬ ∀ name, name ∈ bindings.names ↔ name ∈ route.names)) ∧
      ∀ path, (route.bind path).outcome = .ok bindings →
        bindings.names = route.names.eraseDups ∧
        if route.names.Nodup then ∃ rebuilt, (route.fill bindings).outcome = .ok rebuilt
        else (route.fill bindings).outcome = .error refusal := by
  intro refusal
  have fails : (route.fill bindings).outcome = .error refusal ↔ ¬ bindings.Cover route.names := by
    constructor
    · intro failed covered
      obtain ⟨path, filled⟩ := fill_of_cover covered
      cases failed.symm.trans filled
    · exact fill_of_not_cover
  refine ⟨?_, ?_, fun distinct => ?_, fun path bound => ⟨names_of_bind bound, ?_⟩⟩
  · by_cases covered : bindings.Cover route.names
    · exact .inl (fill_of_cover covered)
    · exact .inr (fill_of_not_cover covered)
  · rw [fails, Bindings.Cover, not_and_or, List.subset_def]
    simp only [not_forall, exists_prop, ne_eq]
  · rw [fails, cover_iff_of_nodup distinct]
  · have covers := cover_eraseDups_iff (names_of_bind bound)
    split
    · exact fill_of_cover (covers.mpr ‹_›)
    · exact fill_of_not_cover (mt covers.mp ‹_›)

/-- A group that took no part in the match leaves its name bound to no text, and the pattern cannot be
    filled in again because it repeats the name. Two values for two names do not suffice if one of
    them is for another name. -/
theorem fill_fails_versions :
    let settings : Settings := { singleCapture := "(\\d+)?", optionalSlashes := false }
    settings.check = .ok () ∧
      (∃ route bindings,
        (Route.ofPattern settings "/[major]/[minor]/[major]").outcome = .ok route ∧
        (route.bind "/1/2/").outcome = .ok bindings ∧ bindings.get? "major" = some .absent ∧
        (route.fill bindings).outcome =
          .error (.missingValues ["major", "minor"] ["major", "minor", "major"])) ∧
      ∃ route, (Route.ofPattern settings "/[major]/[minor]").outcome = .ok route ∧
        route.names.Nodup ∧
        (route.fill (.ofList [("major", .number 1), ("patch", .number 2)])).outcome =
          .error (.missingValues ["major", "patch"] ["major", "minor"]) := by
  intro settings
  refine ⟨by decide +kernel, ?_, ?_⟩
  · obtain ⟨route, compiled, found⟩ := exists_of_any
      (Route.ofPattern settings "/[major]/[minor]/[major]").outcome
      (fun route => (route.bind "/1/2/").outcome.toOption.any fun bindings =>
        bindings.get? "major" == some .absent) (by decide +kernel)
    obtain ⟨bindings, bound, absent⟩ := exists_of_any _ _ found
    have names : route.names = ["major", "minor", "major"] := by
      rw [Route.names, placeholders_of_compiled compiled]
      decide +kernel
    obtain ⟨-, -, -, again⟩ := fill_fails_iff route bindings
    obtain ⟨once, failed⟩ := again "/1/2/" bound
    rw [if_neg (by rw [names]; decide), once, names] at failed
    exact ⟨route, bindings, compiled, bound, by simpa using absent, failed⟩
  · obtain ⟨route, compiled, -⟩ := exists_of_any
      (Route.ofPattern settings "/[major]/[minor]").outcome (fun _ => true) (by decide +kernel)
    have names : route.names = ["major", "minor"] := by
      rw [Route.names, placeholders_of_compiled compiled]
      decide +kernel
    have distinct : route.names.Nodup := by
      rw [names]
      decide
    obtain ⟨-, -, fails, -⟩ :=
      fill_fails_iff route (.ofList [("major", .number 1), ("patch", .number 2)])
    refine ⟨route, compiled, distinct, names ▸ (fails distinct).mpr fun same => ?_⟩
    have unknown : "minor" ∈ ["major", "patch"] := (same "minor").mpr (by rw [names]; decide)
    exact absurd unknown (by decide)

end RoutePattern
