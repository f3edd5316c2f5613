import Mathlib.Data.List.Infix
import RoutePattern.Table

/-! # Buckets

* `Grouped` — the buckets of a table divide its entries by base path and keep their order.
* `grouped_bucketsOf`, `sorted_bucketsOf` — this holds for the buckets that are made, and longer
  base paths come first.
* `inhabited_bucketsOf` — no bucket is empty.
* `candidates_bucketsOf` — a path is compared with the entries of all base paths that it begins
  with, the longest base path first.
-/

namespace RoutePattern

variable {τ : Type}

def entriesAt (entries : List (Entry τ)) (base : List String) : List (Entry τ) :=
  entries.filter fun entry => decide (entry.base = base)

theorem entriesAt_append_of_base {entry : Entry τ} {base : List String} (same : entry.base = base)
    (entries : List (Entry τ)) :
    entriesAt (entries ++ [entry]) base = entriesAt entries base ++ [entry] := by
  simp [entriesAt, same]

theorem entriesAt_append_of_other {entry : Entry τ} {base : List String}
    (other : entry.base ≠ base) (entries : List (Entry τ)) :
    entriesAt (entries ++ [entry]) base = entriesAt entries base := by
  simp [entriesAt, other]

def bases (buckets : List (Bucket τ)) : List (List String) :=
  buckets.map Bucket.base

theorem bases_cons (bucket : Bucket τ) (rest : List (Bucket τ)) :
    bases (bucket :: rest) = bucket.base :: bases rest :=
  rfl

/-- Each bucket holds the entries of its base path, and there is one bucket for each base path. -/
structure Grouped (entries : List (Entry τ)) (buckets : List (Bucket τ)) : Prop where
  distinct : (bases buckets).Nodup
  members : ∀ bucket ∈ buckets, bucket.entries = entriesAt entries bucket.base
  covered : ∀ entry ∈ entries, entry.base ∈ bases buckets

/-! ## Grouping -/

theorem bases_addToBuckets (buckets : List (Bucket τ)) (entry : Entry τ) :
    bases (addToBuckets buckets entry) =
      if entry.base ∈ bases buckets then bases buckets else bases buckets ++ [entry.base] := by
  induction buckets with
  | nil => rfl
  | cons bucket rest ih =>
    by_cases same : bucket.base = entry.base
    · rw [addToBuckets, if_pos same, bases_cons, bases_cons]
      simp [same]
    · have differ : entry.base ≠ bucket.base := fun equal => same equal.symm
      rw [addToBuckets, if_neg same, bases_cons, bases_cons, ih]
      by_cases known : entry.base ∈ bases rest <;> simp [known, differ]

theorem members_addToBuckets {entries : List (Entry τ)} {buckets : List (Bucket τ)}
    {entry : Entry τ} (distinct : (bases buckets).Nodup)
    (members : ∀ bucket ∈ buckets, bucket.entries = entriesAt entries bucket.base)
    (missing : entry.base ∉ bases buckets → entriesAt entries entry.base = []) :
    ∀ bucket ∈ addToBuckets buckets entry,
      bucket.entries = entriesAt (entries ++ [entry]) bucket.base := by
  induction buckets with
  | nil =>
    intro bucket member
    rw [List.mem_singleton.mp member, entriesAt_append_of_base rfl, missing (by simp [bases])]
    rfl
  | cons first rest ih =>
    obtain ⟨fresh, distinctRest⟩ := List.nodup_cons.mp distinct
    have membersRest : ∀ bucket ∈ rest, bucket.entries = entriesAt entries bucket.base :=
      fun bucket member => members bucket (List.mem_cons_of_mem _ member)
    intro bucket member
    rw [addToBuckets] at member
    split at member
    · rename_i same
      obtain rfl | later := List.mem_cons.mp member
      · rw [entriesAt_append_of_base same.symm, members first (by simp)]
      · have apart : entry.base ≠ bucket.base := by
          intro equal
          exact fresh (List.mem_map.mpr ⟨bucket, later, (same.trans equal).symm⟩)
        rw [entriesAt_append_of_other apart, membersRest bucket later]
    · rename_i differ
      obtain rfl | later := List.mem_cons.mp member
      · rw [entriesAt_append_of_other (Ne.symm differ), members bucket (by simp)]
      · refine ih distinctRest membersRest ?_ bucket later
        intro unknown
        apply missing
        simpa [bases, Ne.symm differ] using unknown

theorem grouped_addToBuckets {entries : List (Entry τ)} {buckets : List (Bucket τ)}
    (grouped : Grouped entries buckets) (entry : Entry τ) :
    Grouped (entries ++ [entry]) (addToBuckets buckets entry) := by
  have missing : entry.base ∉ bases buckets → entriesAt entries entry.base = [] := by
    intro unknown
    rw [entriesAt, List.filter_eq_nil_iff]
    intro other member same
    have equal : other.base = entry.base := by simpa using same
    exact unknown (equal ▸ grouped.covered other member)
  refine ⟨?_, members_addToBuckets grouped.distinct grouped.members missing, ?_⟩
  · rw [bases_addToBuckets]
    split
    · exact grouped.distinct
    · rename_i unknown
      refine List.nodup_append.mpr ⟨grouped.distinct, by simp, ?_⟩
      intro base known last isLast equal
      rw [equal, List.mem_singleton.mp isLast] at known
      exact unknown known
  · intro other member
    rw [bases_addToBuckets]
    obtain before | last := List.mem_append.mp member
    · have known := grouped.covered other before
      split
      · exact known
      · exact List.mem_append_left _ known
    · rw [List.mem_singleton.mp last]
      split
      · assumption
      · simp

theorem grouped_foldl_addToBuckets {entries added : List (Entry τ)} {buckets : List (Bucket τ)}
    (grouped : Grouped entries buckets) :
    Grouped (entries ++ added) (added.foldl addToBuckets buckets) := by
  induction added generalizing entries buckets with
  | nil => simpa using grouped
  | cons entry rest ih =>
    have next := ih (grouped_addToBuckets grouped entry)
    simpa using next

/-! ## Sorting -/

theorem perm_insertByLength (bucket : Bucket τ) (buckets : List (Bucket τ)) :
    (insertByLength bucket buckets).Perm (bucket :: buckets) := by
  induction buckets with
  | nil => exact .refl _
  | cons other rest ih =>
    rw [insertByLength]
    split
    · exact .refl _
    · exact (ih.cons other).trans (.swap bucket other rest)

/-- Longer base paths come first. -/
def Sorted (buckets : List (Bucket τ)) : Prop :=
  buckets.Pairwise fun bucket other => other.base.length ≤ bucket.base.length

theorem sorted_insertByLength {bucket : Bucket τ} {buckets : List (Bucket τ)}
    (sorted : Sorted buckets) : Sorted (insertByLength bucket buckets) := by
  induction buckets with
  | nil => exact List.pairwise_singleton _ _
  | cons other rest ih =>
    obtain ⟨first, sortedRest⟩ := List.pairwise_cons.mp sorted
    rw [insertByLength]
    split
    · rename_i longer
      refine List.pairwise_cons.mpr ⟨?_, sorted⟩
      intro later member
      obtain rfl | inRest := List.mem_cons.mp member
      · exact longer
      · exact Nat.le_trans (first later inRest) longer
    · rename_i shorter
      refine List.pairwise_cons.mpr ⟨?_, ih sortedRest⟩
      intro later member
      have inserted := (perm_insertByLength bucket rest).mem_iff.mp member
      obtain rfl | inRest := List.mem_cons.mp inserted
      · omega
      · exact first later inRest

theorem perm_foldr_insertByLength (buckets : List (Bucket τ)) :
    (buckets.foldr insertByLength []).Perm buckets := by
  induction buckets with
  | nil => exact .refl _
  | cons bucket rest ih => exact (perm_insertByLength bucket _).trans (ih.cons bucket)

theorem sorted_foldr_insertByLength (buckets : List (Bucket τ)) :
    Sorted (buckets.foldr insertByLength []) := by
  induction buckets with
  | nil => exact .nil
  | cons bucket rest ih => exact sorted_insertByLength ih

theorem sorted_bucketsOf (entries : List (Entry τ)) : Sorted (bucketsOf entries) :=
  sorted_foldr_insertByLength _

theorem grouped_bucketsOf (entries : List (Entry τ)) : Grouped entries (bucketsOf entries) := by
  have none : Grouped ([] : List (Entry τ)) [] := ⟨by simp [bases], by simp, by simp⟩
  have grouped : Grouped ([] ++ entries) (entries.foldl addToBuckets []) :=
    grouped_foldl_addToBuckets none
  have perm := perm_foldr_insertByLength (entries.foldl addToBuckets [])
  refine ⟨?_, ?_, ?_⟩
  · exact (perm.map Bucket.base).nodup_iff.mpr grouped.distinct
  · intro bucket member
    exact grouped.members bucket (perm.mem_iff.mp member)
  · intro entry member
    exact (perm.map Bucket.base).mem_iff.mpr (grouped.covered entry member)

theorem inhabited_addToBuckets {buckets : List (Bucket τ)}
    (inhabited : ∀ bucket ∈ buckets, bucket.entries ≠ []) (entry : Entry τ) :
    ∀ bucket ∈ addToBuckets buckets entry, bucket.entries ≠ [] := by
  induction buckets with
  | nil => simp [addToBuckets]
  | cons first rest ih =>
    obtain ⟨present, inhabitedRest⟩ := List.forall_mem_cons.mp inhabited
    rw [addToBuckets]
    split
    · exact List.forall_mem_cons.mpr ⟨by simp, inhabitedRest⟩
    · exact List.forall_mem_cons.mpr ⟨present, ih inhabitedRest⟩

/-- A bucket is made for an entry, so none is empty. -/
theorem inhabited_bucketsOf (entries : List (Entry τ)) :
    ∀ bucket ∈ bucketsOf entries, bucket.entries ≠ [] := by
  have grown : ∀ buckets : List (Bucket τ), (∀ bucket ∈ buckets, bucket.entries ≠ []) →
      ∀ bucket ∈ entries.foldl addToBuckets buckets, bucket.entries ≠ [] := by
    induction entries with
    | nil => exact fun buckets inhabited => inhabited
    | cons entry rest ih =>
      exact fun buckets inhabited => ih _ (inhabited_addToBuckets inhabited entry)
  intro bucket member
  exact grown [] (by simp) bucket ((perm_foldr_insertByLength _).mem_iff.mp member)

/-! ## Candidates -/

theorem inits_pairwise (path : List String) :
    path.inits.Pairwise fun short long => short.length < long.length := by
  induction path with
  | nil => exact List.pairwise_singleton _ _
  | cons segment rest ih =>
    rw [List.inits_cons, List.pairwise_cons, List.pairwise_map]
    refine ⟨?_, ih.imp (by simp)⟩
    intro long member
    obtain ⟨_, -, rfl⟩ := List.mem_map.mp member
    simp

/-- The bases that a path begins with are the beginnings of the path for which there is a bucket,
    from the longest to the shortest. -/
theorem bases_filter_eq {buckets : List (Bucket τ)} (distinct : (bases buckets).Nodup)
    (sorted : Sorted buckets) (path : List String) :
    bases (buckets.filter fun bucket => bucket.base.isPrefixOf path) =
      path.inits.reverse.filter fun base => decide (base ∈ bases buckets) := by
  have kept : bases (buckets.filter fun bucket => bucket.base.isPrefixOf path) =
      (bases buckets).filter fun base => base.isPrefixOf path := by
    rw [bases, bases, List.filter_map]
    rfl
  -- Two beginnings of one path that are equally long are equal.
  have ordered : (bases (buckets.filter fun bucket => bucket.base.isPrefixOf path)).Pairwise
      fun long short => short.length < long.length := by
    have sortedBases : (bases buckets).Pairwise fun long short => short.length ≤ long.length :=
      List.pairwise_map.mpr sorted
    rw [kept]
    refine ((sortedBases.and distinct).filter _).imp_of_mem ?_
    intro long short inLong inShort compared
    have longPrefix := List.isPrefixOf_iff_prefix.mp (List.mem_filter.mp inLong).2
    have shortPrefix := List.isPrefixOf_iff_prefix.mp (List.mem_filter.mp inShort).2
    by_contra notShorter
    have within := List.prefix_of_prefix_length_le longPrefix shortPrefix (by omega)
    exact compared.2 (within.eq_of_length (by omega))
  have prefixes : (path.inits.reverse.filter fun base => decide (base ∈ bases buckets)).Pairwise
      fun long short => short.length < long.length :=
    (List.pairwise_reverse.mpr (inits_pairwise path)).filter _
  have irreflexive : ∀ base other : List String, other.length < base.length → base ≠ other := by
    intro base other shorter same
    rw [same] at shorter
    exact Nat.lt_irrefl _ shorter
  refine List.Perm.eq_of_pairwise ?_ ordered prefixes ?_
  · intro base other _ _ shorter longer
    omega
  · rw [List.perm_ext_iff_of_nodup (ordered.imp (irreflexive _ _))
      (prefixes.imp (irreflexive _ _))]
    intro base
    rw [kept]
    simp [List.mem_filter, List.isPrefixOf_iff_prefix, List.mem_inits, and_comm]

theorem flatMap_filter_eq {α β : Type} {keep : α → Bool} {expand : α → List β} {items : List α}
    (dropped : ∀ item, keep item = false → expand item = []) :
    (items.filter keep).flatMap expand = items.flatMap expand := by
  induction items with
  | nil => rfl
  | cons item rest ih =>
    cases kept : keep item with
    | true => rw [List.filter_cons_of_pos kept, List.flatMap_cons, List.flatMap_cons, ih]
    | false =>
      rw [List.filter_cons_of_neg (by simp [kept]), List.flatMap_cons, ih, dropped item kept,
        List.nil_append]

/-- A path is compared with the entries of every base path that it begins with, from the longest
    to the shortest. -/
theorem candidates_bucketsOf (entries : List (Entry τ)) (path : String) :
    Table.candidates (bucketsOf entries) path =
      (Text.segments path).inits.reverse.flatMap (entriesAt entries) := by
  have grouped := grouped_bucketsOf entries
  have ofBases : ∀ buckets : List (Bucket τ),
      (∀ bucket ∈ buckets, bucket.entries = entriesAt entries bucket.base) →
      buckets.flatMap Bucket.entries = (bases buckets).flatMap (entriesAt entries) := by
    intro buckets members
    rw [bases, List.flatMap_map]
    exact List.flatMap_congr members
  rw [Table.candidates, ofBases _ fun bucket member =>
    grouped.members bucket (List.mem_filter.mp member).1,
    bases_filter_eq grouped.distinct (sorted_bucketsOf entries)]
  -- Base paths without a bucket have no entries.
  apply flatMap_filter_eq
  intro base unknown
  rw [entriesAt, List.filter_eq_nil_iff]
  intro entry member same
  have equal : entry.base = base := by simpa using same
  have known := grouped.covered entry member
  simp [← equal, known] at unknown

end RoutePattern
