import RoutePattern.Bindings

/-! # Names bound one after another

* `names_ofList` — the names stand in order of first occurrence.
* `get?_ofList` — a name has the value of its last occurrence.
* `entries_ofList` — distinct names are bound as they come.
-/

namespace RoutePattern

theorem names_upsert (name : String) (value : Value) (entries : List (String × Value)) :
    (upsert name value entries).map Prod.fst =
      if name ∈ entries.map Prod.fst then entries.map Prod.fst
      else entries.map Prod.fst ++ [name] := by
  induction entries with
  | nil => rfl
  | cons entry rest ih =>
    by_cases same : entry.1 = name
    · simp [upsert, same]
    · have differ : name ≠ entry.1 := fun equal => same equal.symm
      simp only [upsert, if_neg same, List.map_cons, ih, List.mem_cons, differ, false_or]
      split <;> rfl

theorem lookup_upsert (name other : String) (value : Value) (entries : List (String × Value)) :
    (upsert name value entries).lookup other =
      if other = name then some value else entries.lookup other := by
  induction entries with
  | nil => simp [upsert, List.lookup_cons]; grind
  | cons entry rest ih =>
    by_cases same : entry.1 = name
    · simp only [upsert, if_pos same]
      grind
    · simp only [upsert, if_neg same]
      grind

theorem upsert_of_fresh {name : String} {value : Value} {entries : List (String × Value)}
    (fresh : name ∉ entries.map Prod.fst) :
    upsert name value entries = entries ++ [(name, value)] := by
  induction entries with
  | nil => rfl
  | cons entry rest ih =>
    simp only [List.map_cons, List.mem_cons, not_or] at fresh
    rw [upsert, if_neg (Ne.symm fresh.1), ih fresh.2, List.cons_append]

theorem lookup_of_mem {name : String} {value : Value} {entries : List (String × Value)}
    (distinct : (entries.map Prod.fst).Nodup) (member : (name, value) ∈ entries) :
    entries.lookup name = some value := by
  induction entries with
  | nil => cases member
  | cons entry rest ih =>
    obtain ⟨fresh, distinctRest⟩ := List.nodup_cons.mp distinct
    obtain rfl | later := List.mem_cons.mp member
    · exact List.lookup_cons_self
    · have inNames : name ∈ rest.map Prod.fst := List.mem_map_of_mem later
      have other : (name == entry.1) = false := by
        have apart : name ≠ entry.1 := fun same => fresh (same ▸ inNames)
        simpa using apart
      rw [List.lookup_cons, other]
      exact ih distinctRest later

theorem lookup_eq_none {name : String} {entries : List (String × Value)}
    (unknown : name ∉ entries.map Prod.fst) : entries.lookup name = none := by
  rw [List.lookup_eq_none_iff]
  intro entry member
  have apart : name ≠ entry.1 := fun same => unknown (same ▸ List.mem_map_of_mem member)
  simpa using apart

namespace Bindings

theorem names_insert (bindings : Bindings) (entry : String × Value) :
    (bindings.insert entry).names =
      if entry.1 ∈ bindings.names then bindings.names else bindings.names ++ [entry.1] :=
  names_upsert entry.1 entry.2 bindings.entries

theorem get?_insert (bindings : Bindings) (entry : String × Value) (name : String) :
    (bindings.insert entry).get? name =
      if name = entry.1 then some entry.2 else bindings.get? name :=
  lookup_upsert entry.1 name entry.2 bindings.entries

theorem names_foldl_insert (entries : List (String × Value)) (bindings : Bindings) :
    (entries.foldl insert bindings).names =
      bindings.names ++ ((entries.map Prod.fst).filter (· ∉ bindings.names)).eraseDups := by
  induction entries generalizing bindings with
  | nil => simp
  | cons entry rest ih =>
    rw [List.foldl_cons, ih, names_insert]
    by_cases known : entry.1 ∈ bindings.names
    · rw [if_pos known, List.map_cons, List.filter_cons_of_neg (by simpa using known)]
    · have later :
          (fun name => decide (name ∉ bindings.names ++ [entry.1])) =
            fun name => !name == entry.1 && decide (name ∉ bindings.names) := by
        funext name
        by_cases equal : name = entry.1 <;> simp [equal]
      rw [if_neg known, List.map_cons, List.filter_cons_of_pos (by simpa using known),
        List.eraseDups_cons, List.filter_filter, later, List.append_assoc]
      rfl

theorem names_ofList (entries : List (String × Value)) :
    (ofList entries).names = (entries.map Prod.fst).eraseDups := by
  have unbound : empty.names = [] := rfl
  rw [ofList, names_foldl_insert, unbound, List.nil_append,
    List.filter_eq_self.mpr fun name _ => by simp]

theorem get?_foldl_insert (entries : List (String × Value)) (bindings : Bindings)
    (name : String) :
    (entries.foldl insert bindings).get? name =
      (entries.reverse.lookup name).or (bindings.get? name) := by
  induction entries generalizing bindings with
  | nil => rfl
  | cons entry rest ih =>
    rw [List.foldl_cons, ih, get?_insert, List.reverse_cons, List.lookup_append]
    have last : [entry].lookup name = if name = entry.1 then some entry.2 else none := by
      grind
    rw [last, Option.or_assoc]
    split <;> rfl

theorem get?_ofList (entries : List (String × Value)) (name : String) :
    (ofList entries).get? name = entries.reverse.lookup name := by
  have unbound : empty.get? name = none := rfl
  rw [ofList, get?_foldl_insert, unbound, Option.or_none]

theorem entries_foldl_insert {entries : List (String × Value)} (bindings : Bindings)
    (distinct : (bindings.names ++ entries.map Prod.fst).Nodup) :
    (entries.foldl insert bindings).entries = bindings.entries ++ entries := by
  induction entries generalizing bindings with
  | nil => simp
  | cons entry rest ih =>
    have fresh : entry.1 ∉ bindings.names := by
      intro known
      exact (List.nodup_append.mp distinct).2.2 _ known _ (by simp) rfl
    have added : (bindings.insert entry).entries = bindings.entries ++ [entry] :=
      upsert_of_fresh fresh
    have distinctAfter : ((bindings.insert entry).names ++ rest.map Prod.fst).Nodup := by
      rw [names, added]
      simpa [names] using distinct
    rw [List.foldl_cons, ih _ distinctAfter, added, List.append_assoc]
    rfl

theorem entries_ofList {entries : List (String × Value)}
    (distinct : (entries.map Prod.fst).Nodup) : (ofList entries).entries = entries :=
  entries_foldl_insert empty distinct

end Bindings

end RoutePattern
