import Mathlib.Data.List.Infix
import RoutePattern.Text.Pieces
import RoutePattern.Text.Replace

/-! # Texts, pieces and replacements

* `joinPieces_pieces`, `pieces_joinPieces` — cutting at slashes and joining with slashes.
* `presentPieces` — the nonempty pieces, of which joining keeps all.
* `occurrences` — how often a text occurs in another one.
* `replaceFirst_joinPieces` — a text without slashes is replaced in the first piece that holds it.
-/

namespace RoutePattern.Text

/-! ## Joining -/

theorem joinPieces_cons (piece : List Char) (rest : List (List Char)) :
    joinPieces (piece :: rest) = piece ++ rest.flatMap ('/' :: ·) := by
  induction rest generalizing piece with
  | nil => simp [joinPieces]
  | cons next others ih => simp [joinPieces, ih next]

theorem joinPieces_cons_of_ne_nil (piece : List Char) {rest : List (List Char)}
    (present : rest ≠ []) : joinPieces (piece :: rest) = piece ++ '/' :: joinPieces rest := by
  cases rest with
  | nil => exact absurd rfl present
  | cons next others => rfl

theorem flatMap_slash {texts : List (List Char)} (present : texts ≠ []) :
    texts.flatMap ('/' :: ·) = '/' :: joinPieces texts := by
  cases texts with
  | nil => exact absurd rfl present
  | cons text rest => rw [joinPieces_cons, List.flatMap_cons, List.cons_append]

theorem joinPieces_append_cons (front : List (List Char)) (piece : List Char)
    (rest : List (List Char)) :
    joinPieces (front ++ piece :: rest) =
      front.flatMap (· ++ ['/']) ++ joinPieces (piece :: rest) := by
  induction front with
  | nil => rfl
  | cons first others ih =>
    have step : joinPieces (first :: (others ++ piece :: rest)) =
        first ++ '/' :: joinPieces (others ++ piece :: rest) := by
      rw [joinPieces_cons_of_ne_nil _ (by simp)]
    rw [List.cons_append, step, ih]
    simp

/-- A joined text begins with a slash if its first piece does, or is empty and not the only one. -/
theorem head?_joinPieces (first : List Char) (rest : List (List Char)) :
    (joinPieces (first :: rest)).head? = some '/' ↔
      first.head? = some '/' ∨ first = [] ∧ rest ≠ [] := by
  rw [joinPieces_cons]
  cases first with
  | nil => cases rest <;> simp
  | cons c others => simp

theorem getLast?_joinPieces (front : List (List Char)) (last : List Char) :
    (joinPieces (front ++ [last])).getLast? = some '/' ↔
      last.getLast? = some '/' ∨ last = [] ∧ front ≠ [] := by
  rw [joinPieces_append_cons]
  obtain rfl | ⟨others, c, rfl⟩ := List.eq_nil_or_concat last
  · obtain rfl | ⟨before, piece, rfl⟩ := List.eq_nil_or_concat front <;> simp [joinPieces]
  · simp [joinPieces]

/-! ## Cutting -/

theorem pieces_ne_nil (text : List Char) : pieces text ≠ [] := by
  cases text with
  | nil => simp [pieces]
  | cons c rest =>
    rw [pieces]
    split
    · simp
    · cases pieces rest <;> simp [prependToFirst]

theorem pieces_slash (rest : List Char) : pieces ('/' :: rest) = [] :: pieces rest := by
  rw [pieces, if_pos rfl]

/-- Any other character stays in the piece it begins. -/
theorem pieces_cons_other {c : Char} (other : c ≠ '/') (rest : List Char) :
    ∃ first later, pieces rest = first :: later ∧ pieces (c :: rest) = (c :: first) :: later := by
  obtain ⟨first, later, cut⟩ := List.exists_cons_of_ne_nil (pieces_ne_nil rest)
  exact ⟨first, later, cut, by rw [pieces, if_neg other, cut, prependToFirst]⟩

theorem joinPieces_pieces (text : List Char) : joinPieces (pieces text) = text := by
  induction text with
  | nil => rfl
  | cons c rest ih =>
    by_cases slash : c = '/'
    · rw [slash, pieces_slash, joinPieces_cons_of_ne_nil _ (pieces_ne_nil rest), ih, List.nil_append]
    · obtain ⟨first, later, cut, whole⟩ := pieces_cons_other slash rest
      rw [whole, joinPieces_cons, List.cons_append, ← joinPieces_cons, ← cut, ih]

theorem slashFree_of_mem_pieces {text piece : List Char} (member : piece ∈ pieces text) :
    '/' ∉ piece := by
  induction text generalizing piece with
  | nil => simp_all [pieces]
  | cons c rest ih =>
    by_cases slash : c = '/'
    · rw [slash, pieces_slash] at member
      obtain rfl | later := List.mem_cons.mp member
      · simp
      · exact ih later
    · obtain ⟨first, later, cut, whole⟩ := pieces_cons_other slash rest
      rw [whole] at member
      obtain rfl | inLater := List.mem_cons.mp member
      · have free : '/' ∉ first := ih (by simp [cut])
        simpa [free] using Ne.symm slash
      · exact ih (by simp [cut, inLater])

theorem pieces_append_slash (before after : List Char) :
    pieces (before ++ '/' :: after) = pieces before ++ pieces after := by
  induction before with
  | nil => exact pieces_slash after
  | cons c rest ih =>
    by_cases slash : c = '/'
    · rw [slash, List.cons_append, pieces_slash, pieces_slash, ih, List.cons_append]
    · obtain ⟨first, later, cut, whole⟩ := pieces_cons_other slash rest
      rw [whole, List.cons_append, pieces, if_neg slash, ih, cut]
      rfl

theorem pieces_of_slashFree {text : List Char} (free : '/' ∉ text) : pieces text = [text] := by
  induction text with
  | nil => rfl
  | cons c rest ih =>
    simp only [List.mem_cons, not_or] at free
    rw [pieces, if_neg (Ne.symm free.1), ih free.2, prependToFirst]

theorem pieces_joinPieces {texts : List (List Char)} (present : texts ≠ []) :
    pieces (joinPieces texts) = texts.flatMap pieces := by
  induction texts with
  | nil => exact absurd rfl present
  | cons text rest ih =>
    cases rest with
    | nil => simp [joinPieces]
    | cons next others =>
      rw [joinPieces_cons_of_ne_nil _ (by simp), pieces_append_slash, ih (by simp),
        ← List.flatMap_cons]

theorem pieces_joinPieces_of_slashFree {texts : List (List Char)} (present : texts ≠ [])
    (free : ∀ text ∈ texts, '/' ∉ text) : pieces (joinPieces texts) = texts := by
  have single : ∀ text ∈ texts, pieces text = [text] :=
    fun text member => pieces_of_slashFree (free text member)
  rw [pieces_joinPieces present, List.flatMap_congr single, List.flatMap_singleton']

/-! ## Nonempty pieces -/

def presentPieces (text : List Char) : List (List Char) :=
  (pieces text).filter (!·.isEmpty)

theorem segments_eq (path : String) :
    segments path = (presentPieces path.toList).map String.ofList :=
  rfl

@[simp] theorem presentPieces_nil : presentPieces [] = [] := rfl

theorem presentPieces_append_slash (before after : List Char) :
    presentPieces (before ++ '/' :: after) = presentPieces before ++ presentPieces after := by
  rw [presentPieces, pieces_append_slash, List.filter_append]
  rfl

@[simp] theorem presentPieces_slash (rest : List Char) :
    presentPieces ('/' :: rest) = presentPieces rest :=
  presentPieces_append_slash [] rest

theorem presentPieces_joinPieces (texts : List (List Char)) :
    presentPieces (joinPieces texts) = texts.flatMap presentPieces := by
  cases texts with
  | nil => rfl
  | cons text rest =>
    rw [presentPieces, pieces_joinPieces (by simp), List.filter_flatMap]
    rfl

theorem presentPieces_of_slashFree {text : List Char} (free : '/' ∉ text) :
    presentPieces text = [text].filter (!·.isEmpty) := by
  rw [presentPieces, pieces_of_slashFree free]

/-- Texts without slashes are the pieces of what they are joined to. -/
theorem presentPieces_joinPieces_of_slashFree {texts : List (List Char)}
    (free : ∀ text ∈ texts, '/' ∉ text) :
    presentPieces (joinPieces texts) = texts.filter (!·.isEmpty) := by
  rw [presentPieces_joinPieces]
  induction texts with
  | nil => rfl
  | cons text rest ih =>
    have others := ih fun later member => free later (by simp [member])
    rw [List.flatMap_cons, others, presentPieces_of_slashFree (free text (by simp)),
      ← List.filter_append]
    rfl

/-- Where no text is empty, no two slashes stand side by side. -/
theorem not_infix_slashes {texts : List (List Char)}
    (proper : ∀ text ∈ texts, text ≠ [] ∧ '/' ∉ text) :
    ¬ ['/', '/'] <:+: '/' :: joinPieces texts := by
  rintro ⟨before, after, split⟩
  -- Between two slashes stands an empty piece, which is neither the first nor the last.
  have cut : pieces ('/' :: joinPieces texts) = pieces before ++ [] :: pieces after := by
    rw [← split, List.append_assoc, List.cons_append, pieces_append_slash]
    exact congrArg (pieces before ++ ·) (pieces_slash after)
  obtain ⟨first, front, shape⟩ := List.exists_cons_of_ne_nil (pieces_ne_nil before)
  rw [pieces_slash, shape, List.cons_append, List.cons.injEq] at cut
  cases texts with
  | nil =>
    have lengths := congrArg List.length cut.2
    have later := List.length_pos_iff.mpr (pieces_ne_nil after)
    simp only [joinPieces, pieces, List.length_cons, List.length_nil, List.length_append] at lengths
    omega
  | cons text rest =>
    have free : ∀ other ∈ text :: rest, '/' ∉ other := fun other member => (proper other member).2
    rw [pieces_joinPieces_of_slashFree (by simp) free] at cut
    exact (proper [] (by simp [cut.2])).1 rfl

/-- A text behind a slash ends in a slash only if there is nothing behind the slash. -/
theorem getLast?_slash_joinPieces {texts : List (List Char)}
    (proper : ∀ text ∈ texts, text ≠ [] ∧ '/' ∉ text) :
    ('/' :: joinPieces texts).getLast? = some '/' ↔ texts = [] := by
  obtain rfl | ⟨front, last, rfl⟩ := List.eq_nil_or_concat texts
  · simp [joinPieces]
  · obtain ⟨present, free⟩ := proper last (by simp)
    have behind : '/' :: joinPieces (front ++ [last]) = joinPieces (([] :: front) ++ [last]) := by
      rw [List.cons_append, joinPieces_cons_of_ne_nil _ (by simp), List.nil_append]
    rw [List.concat_eq_append, behind, getLast?_joinPieces]
    have inside : last.getLast? ≠ some '/' := fun ends => free (List.mem_of_getLast? ends)
    simp [inside, present]

/-- A text that has no piece but empty ones is made of slashes. -/
theorem eq_slash_of_presentPieces_eq_nil {text : List Char} (none : presentPieces text = []) :
    ∀ c ∈ text, c = '/' := by
  induction text with
  | nil => simp
  | cons c rest ih =>
    by_cases slash : c = '/'
    · rw [slash, presentPieces_slash] at none
      simpa [slash] using ih none
    · obtain ⟨first, later, -, whole⟩ := pieces_cons_other slash rest
      simp [presentPieces, whole] at none

theorem joinPieces_eq_intercalate (texts : List (List Char)) :
    joinPieces texts = ['/'].intercalate texts := by
  induction texts with
  | nil => rfl
  | cons text rest ih =>
    cases rest with
    | nil => simp [joinPieces]
    | cons next others =>
      rw [joinPieces_cons_of_ne_nil _ (by simp), ih, List.intercalate_cons_cons]
      simp

/-! ## Occurrences -/

/-- The number of places at which a text begins in another one. -/
def occurrences (token text : List Char) : Nat :=
  text.tails.countP token.isPrefixOf

theorem occurrences_pos {token text : List Char} :
    0 < occurrences token text ↔ token <:+: text := by
  simp only [occurrences, List.countP_pos_iff, List.mem_tails, List.isPrefixOf_iff_prefix,
    List.infix_iff_prefix_suffix]
  grind

theorem occurrences_append_le {token : List Char} (present : token ≠ [])
    (before after : List Char) :
    occurrences token before + occurrences token after ≤ occurrences token (before ++ after) := by
  induction before with
  | nil =>
    have none : occurrences token [] = 0 := by
      simp [occurrences, List.isPrefixOf_iff_prefix, present]
    simp [none]
  | cons c rest ih =>
    simp only [occurrences, List.cons_append, List.tails_cons, List.countP_cons] at ih ⊢
    have kept : token.isPrefixOf (c :: rest) = true →
        token.isPrefixOf (c :: (rest ++ after)) = true := by
      intro begins
      rw [List.isPrefixOf_iff_prefix] at begins ⊢
      exact begins.trans ⟨after, by simp⟩
    split
    · rw [if_pos (kept ‹_›)]
      omega
    · omega

/-- A text that begins with a character which the first part lacks occurs in the second part. -/
theorem infix_of_infix_append {c : Char} {token before after : List Char} (absent : c ∉ before)
    (occurs : c :: token <:+: before ++ after) : c :: token <:+: after := by
  induction before with
  | nil => exact occurs
  | cons d rest ih =>
    simp only [List.mem_cons, not_or] at absent
    rw [List.cons_append, List.infix_cons_iff] at occurs
    obtain begins | later := occurs
    · exact absurd (List.cons_prefix_cons.mp begins).1 absent.1
    · exact ih absent.2 later

/-! ## Replacing -/

theorem replaceFirst_token (token value rest : List Char) (present : token ≠ []) :
    replaceFirst token value (token ++ rest) = value ++ rest := by
  obtain ⟨c, others, shape⟩ := List.exists_cons_of_ne_nil present
  have begins : token.isPrefixOf (token ++ rest) = true := by
    simp [List.isPrefixOf_iff_prefix]
  rw [shape, List.cons_append] at begins ⊢
  rw [replaceFirst, if_pos begins]
  simp

/-- Nothing is replaced before a character that the replaced text lacks, if it does not occur
    there. -/
theorem replaceFirst_skip {token before : List Char} {mark : Char} (present : token ≠ [])
    (unmarked : mark ∉ token) (absent : ¬ token <:+: before) (value rest : List Char) :
    replaceFirst token value (before ++ mark :: rest) =
      before ++ mark :: replaceFirst token value rest := by
  induction before with
  | nil =>
    have passes : ¬ token.isPrefixOf (mark :: rest) = true := by
      intro begins
      obtain ⟨c, others, shape⟩ := List.exists_cons_of_ne_nil present
      rw [List.isPrefixOf_iff_prefix, shape] at begins
      have same := (List.cons_prefix_cons.mp begins).1
      exact unmarked (by simp [shape, same])
    rw [List.nil_append, replaceFirst, if_neg passes, List.nil_append]
  | cons c others ih =>
    have passes : ¬ token.isPrefixOf (c :: (others ++ mark :: rest)) = true := by
      intro begins
      rw [List.isPrefixOf_iff_prefix] at begins
      -- A token that begins here ends before the mark, so it occurs in the part before it.
      have upToMark : (c :: others) ++ [mark] <+: c :: (others ++ mark :: rest) :=
        ⟨rest, by simp⟩
      obtain inside | outside := List.prefix_or_prefix_of_prefix begins upToMark
      · obtain whole | before := List.prefix_concat_iff.mp inside
        · exact unmarked (by simp [whole])
        · exact absent before.isInfix
      · exact unmarked (outside.subset (by simp))
    rw [List.cons_append, replaceFirst, if_neg passes,
      ih fun later => absent (later.trans (List.infix_cons List.infix_rfl)), List.cons_append]

/-- If no piece before it holds the token, a piece that begins with the token is the one where it
    is replaced. -/
theorem replaceFirst_joinPieces {token : List Char} (present : token ≠ []) (free : '/' ∉ token)
    {front : List (List Char)} (absent : ∀ piece ∈ front, ¬ token <:+: piece)
    (value suffix : List Char) (rest : List (List Char)) :
    replaceFirst token value (joinPieces (front ++ (token ++ suffix) :: rest)) =
      joinPieces (front ++ (value ++ suffix) :: rest) := by
  induction front with
  | nil =>
    simp only [List.nil_append, joinPieces_cons, List.append_assoc]
    exact replaceFirst_token token value _ present
  | cons piece others ih =>
    have skipped := replaceFirst_skip present free (absent piece (by simp)) value
    rw [List.cons_append, List.cons_append, joinPieces_cons_of_ne_nil _ (by simp),
      joinPieces_cons_of_ne_nil _ (by simp), skipped,
      ih fun later member => absent later (by simp [member])]

end RoutePattern.Text
