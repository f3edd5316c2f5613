import RoutePattern.Proofs.Filling

/-! # Filling as substitution

Each value takes the place of the leftmost occurrence of its token in the text so far. That is the
place of its own placeholder unless the token occurs before it: in a literal segment, in a suffix or in
a value that has been filled in.

* `boundTexts` — the texts that the placeholders' names are bound to.
* `fillTokens_total` — filling never fails if all names are bound.
* `fill_of_covered`, `fill_substitutes` — with no token before its own placeholder, filling is
  substitution placeholder by placeholder; only the text of the pattern and its parts matter.
* `fill_literal_token` — a token in a literal segment is replaced in place of the placeholder.
-/

namespace RoutePattern

/-- The texts that the names of placeholders are bound to; none for a name that is not bound. -/
def boundTexts (bindings : Bindings) (placeholders : List Placeholder) : List (List Char) :=
  placeholders.map fun placeholder =>
    ((bindings.get? placeholder.name).map fun bound => bound.display.toList).getD []

theorem provides_boundTexts {bindings : Bindings} {placeholders : List Placeholder}
    (known : ∀ placeholder ∈ placeholders, placeholder.name ∈ bindings.names) :
    List.Forall₂ (Provides bindings) placeholders (boundTexts bindings placeholders) := by
  rw [boundTexts, List.forall₂_map_right_iff, List.forall₂_same]
  intro placeholder member
  obtain ⟨⟨name, bound⟩, entry, same⟩ := List.mem_map.mp (known placeholder member)
  have found : bindings.get? placeholder.name = some bound :=
    lookup_of_mem bindings.distinct (same ▸ entry)
  exact ⟨bound, found, by simp [found]⟩

theorem fillTokens_total (route : Route) {bindings : Bindings} {placeholders : List Placeholder}
    {values : List (List Char)} (provided : List.Forall₂ (Provides bindings) placeholders values)
    (text : List Char) :
    ∃ filled, (route.fillTokens bindings placeholders text).outcome = .ok filled := by
  induction provided generalizing text with
  | nil => exact ⟨text, rfl⟩
  | cons first _ ih =>
    obtain ⟨bound, found, -⟩ := first
    rw [Route.fillTokens, found]
    exact ih _

/-- The filled segments of a pattern stand behind a slash exactly if the pattern begins with one. -/
theorem joinPieces_behind_lead (pattern : String) (values : List (List Char)) :
    Text.joinPieces (leadPieces pattern ++ filledPieces (segmentsOf pattern) values) =
      (if ['/'].isPrefixOf pattern.toList then ['/'] else []) ++
        Text.joinPieces (filledPieces (segmentsOf pattern) values) := by
  by_cases empty : pattern = ""
  · subst empty
    rfl
  · rw [joinPieces_leadPieces empty, isPrefixOf_slash empty]

/-- A route with the parts of its pattern can be filled in with bindings of exactly its names. If no
    token occurs before its own placeholder, not even in the values filled in there, then each
    placeholder gives way to its own value, and the literal segments, the suffixes and the other values
    stay as they are. -/
theorem fill_of_covered {settings : Settings} {route : Route} {bindings : Bindings}
    (parts : route.template.parts = Template.partsOf settings route.pattern)
    (covered : bindings.names.Perm route.names) :
    ∃ path, (route.fill bindings).outcome = .ok path ∧
      let segments := route.template.parts.map Part.segment
      let values := boundTexts bindings route.placeholders
      (Undisturbed [] segments values →
        path.toList = (if ['/'].isPrefixOf route.pattern.toList then ['/'] else []) ++
          Text.joinPieces (filledPieces segments values)) := by
  have known : ∀ placeholder ∈ route.placeholders, placeholder.name ∈ bindings.names := by
    intro placeholder member
    exact covered.mem_iff.mpr (List.mem_map_of_mem member)
  have provided := provides_boundTexts known
  have count : bindings.entries.length = route.placeholders.length := by
    simpa [Bindings.names, Route.names] using covered.length_eq
  obtain ⟨filled, total⟩ := fillTokens_total route provided route.pattern.toList
  have found : (route.fill bindings).outcome = .ok (String.ofList filled) := by
    rw [Route.fill, if_pos count, Traced.outcome_bind, total]
    rfl
  refine ⟨String.ofList filled, found, ?_⟩
  rw [parts, segments_partsOf]
  intro segments values undisturbed
  have substituted := fill_of_undisturbed parts provided (count.trans provided.length_eq)
    undisturbed
  rw [Except.ok.inj (found.symm.trans substituted), String.toList_ofList, joinPieces_behind_lead]

/-- Bindings of exactly the names of a pattern can be filled in. If no token occurs before its own
    placeholder, not even in the values filled in there, then each placeholder gives way to its own
    value, and the literal segments, the suffixes and the other values stay as they are. -/
theorem fill_substitutes [Character.Names] {settings : Settings} {pattern : String} {route : Route}
    {bindings : Bindings} (compiled : (Route.ofPattern settings pattern).outcome = .ok route)
    (covered : bindings.names.Perm route.names) :
    ∃ path, (route.fill bindings).outcome = .ok path ∧
      let segments := route.template.parts.map Part.segment
      let values := boundTexts bindings route.placeholders
      (Undisturbed [] segments values →
        path.toList = (if ['/'].isPrefixOf pattern.toList then ['/'] else []) ++
          Text.joinPieces (filledPieces segments values)) := by
  obtain ⟨rfl, parts, -⟩ := ofPattern_eq_ok compiled
  exact fill_of_covered parts covered

/-- Values may hold slashes, brackets and the tokens of placeholders that come before them. -/
theorem fill_substitutes_drafts :
    let bindings := Bindings.ofList [("dir", .text "a/[id]//"), ("id", .text "[...dir")]
    let route := Route.standard true "[id]+[/[...dir][id]"
    (Route.ofPattern (.standard true) "[id]+[/[...dir][id]").outcome = .ok route ∧
      bindings.names.Perm route.names ∧
      (route.fill bindings).outcome = .ok "[...dir+[/a/[id]//[id]" := by
  intro bindings route
  have compiled := ofPattern_standard true "[id]+[/[...dir][id]"
  have covered : bindings.names.Perm route.names := by decide +kernel
  obtain ⟨path, filled, substituted⟩ := fill_substitutes compiled covered
  have text := substituted (by decide +kernel)
  have same : path = "[...dir+[/a/[id]//[id]" := by
    rw [← String.toList_inj, text]
    decide +kernel
  exact ⟨compiled, covered, same ▸ filled⟩

/-- A token in a literal segment is the leftmost one, and gives way in place of the placeholder. -/
theorem fill_literal_token :
    let bindings := Bindings.ofList [("id", .text "x")]
    let route := Route.standard true "/v[id]/[id]"
    (Route.ofPattern (.standard true) "/v[id]/[id]").outcome = .ok route ∧
      route.names.Nodup ∧ bindings.names.Perm route.names ∧
      (route.fill bindings).outcome = .ok "/vx/[id]" ∧
      String.ofList ('/' :: Text.joinPieces (filledPieces (route.template.parts.map Part.segment)
        (boundTexts bindings route.placeholders))) = "/v[id]/x" := by
  intro bindings route
  exact ⟨ofPattern_standard true "/v[id]/[id]", by decide +kernel, by decide +kernel, by decide +kernel,
    by decide +kernel⟩

end RoutePattern
