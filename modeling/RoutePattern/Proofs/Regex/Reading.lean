import RoutePattern.Escape
import RoutePattern.Regex.Program

/-! # Reading an expression piece by piece

An expression that is put together from texts is read one text after the other, as long as no
text ends in the middle of an escape and none begins with a sign that the reader would attach
to the quantifier before it.

* `tokens_append` — the tokens of two texts, one after the other.
* `Reader.Reads` — reading a text leads from one state of the reader to another.
* `Reads.append`, `reads_optional` — texts one after the other, and a part made optional.
* `reads_escape` — an escaped text is read as its characters.
-/

namespace RoutePattern.Regex

/-! ## Tokens of texts one after the other -/

theorem tokens_cons {c : Char} (unescaped : c ≠ '\\') (rest : List Char) :
    tokens (c :: rest) = .plain c :: tokens rest := by
  cases rest <;> simp [tokens, unescaped]

theorem endsInBackslash_cons {c : Char} (unescaped : c ≠ '\\') (rest : List Char) :
    endsInBackslash (c :: rest) = endsInBackslash rest := by
  cases rest <;> simp [endsInBackslash, unescaped]

theorem tokens_append {text : List Char} (whole : endsInBackslash text = false)
    (rest : List Char) : tokens (text ++ rest) = tokens text ++ tokens rest := by
  fun_induction tokens text with
  | case1 => rfl
  | case2 => simp [endsInBackslash] at whole
  | case3 c unescaped => simp [tokens_cons unescaped]
  | case4 next others ih =>
    simp only [endsInBackslash, if_pos] at whole
    simp [tokens, ih whole]
  | case5 c next others unescaped ih =>
    rw [endsInBackslash_cons unescaped] at whole
    rw [List.cons_append, tokens_cons unescaped, ih whole]
    rfl

theorem endsInBackslash_append {text : List Char} (whole : endsInBackslash text = false)
    (rest : List Char) : endsInBackslash (text ++ rest) = endsInBackslash rest := by
  fun_induction tokens text with
  | case1 => rfl
  | case2 => simp [endsInBackslash] at whole
  | case3 c unescaped => simp [endsInBackslash_cons unescaped]
  | case4 next others ih =>
    simp only [endsInBackslash, if_pos] at whole
    simp [endsInBackslash, ih whole]
  | case5 c next others unescaped ih =>
    rw [endsInBackslash_cons unescaped] at whole
    rw [List.cons_append, endsInBackslash_cons unescaped, ih whole]

/-! ## From one state of the reader to another -/

def Expression.literal (c : Char) : Expression :=
  .one (.single .exact c.toNat)

def Expression.optionalSlash : Expression :=
  .repeated .greedy 0 (some 1) (.literal '/')

namespace Reader

/-- Reading a text leads from one state to another. The text ends no escape early, and it does
    not begin with a sign that would change a quantifier before it. -/
structure Reads [Character.Names] (text : List Char) (reader after : Reader) : Prop where
  whole : endsInBackslash text = false
  unsigned : ∀ c ∈ text.head?, c ≠ '?' ∧ c ≠ '+'
  steps : (tokens text).foldlM step reader = .ok after

/-- Between two parts of an expression that has turned on no flags. -/
structure AtRest (reader : Reader) : Prop where
  mode : reader.mode = .ordinary
  flags : reader.flags = {}

/-- The reader after parts that are `width` characters wide and hold groups of given widths. -/
def advance (reader : Reader) (width : Nat) (items : List Expression) (groups : List Width) :
    Reader :=
  { reader with
    position := reader.position + width
    items := items.reverse ++ reader.items
    groups := reader.groups ++ groups.map some }

theorem AtRest.advance {reader : Reader} (atRest : reader.AtRest) (width : Nat)
    (items : List Expression) (groups : List Width) :
    (reader.advance width items groups).AtRest :=
  ⟨atRest.mode, atRest.flags⟩

theorem advance_advance (reader : Reader) (width otherWidth : Nat)
    (items otherItems : List Expression) (groups otherGroups : List Width) :
    (reader.advance width items groups).advance otherWidth otherItems otherGroups =
      reader.advance (width + otherWidth) (items ++ otherItems) (groups ++ otherGroups) := by
  simp [advance, Nat.add_assoc]

theorem reads_nil [Character.Names] (reader : Reader) :
    Reads [] reader (reader.advance 0 [] []) := by
  refine ⟨rfl, by simp, ?_⟩
  simp [advance, tokens, pure, Except.pure]

theorem Reads.append [Character.Names] {text other : List Char} {reader middle after : Reader}
    (first : Reads text reader middle) (second : Reads other middle after) :
    Reads (text ++ other) reader after where
  whole := by rw [endsInBackslash_append first.whole, second.whole]
  unsigned := by
    cases text with
    | nil => exact second.unsigned
    | cons c rest => exact first.unsigned
  steps := by
    rw [tokens_append first.whole, List.foldlM_append, first.steps]
    exact second.steps

/-! ## Single tokens -/

theorem AtRest.vet {reader : Reader} (atRest : reader.AtRest) {token : Token}
    (noClosing : token ≠ .plain ')') (noBar : token ≠ .plain '|') :
    reader.vet token = .ok () := by
  simp [Reader.vet, atRest.mode, noClosing, noBar]

theorem AtRest.step_escaped [Character.Names] {reader : Reader} (atRest : reader.AtRest)
    (c : Char) :
    reader.step (.escaped c) =
      { reader with position := reader.position + 2 }.beginEscape c := by
  have settled : reader.settle (some (.escaped c)) = .ok reader := by
    simp [settle, atRest.mode]
  have vetted : reader.vet (.escaped c) = .ok () := atRest.vet (by simp) (by simp)
  simp only [step, settled, vetted, bind, Except.bind]
  simp [take, atRest.mode, takeOrdinary, Token.width]

theorem AtRest.step_plain [Character.Names] {reader : Reader} (atRest : reader.AtRest) {c : Char}
    (noClosing : c ≠ ')') (noBar : c ≠ '|') :
    reader.step (.plain c) =
      { reader with position := reader.position + 1 }.takePlain c := by
  have settled : reader.settle (some (.plain c)) = .ok reader := by
    simp [settle, atRest.mode]
  have vetted : reader.vet (.plain c) = .ok () :=
    atRest.vet (by simp [noClosing]) (by simp [noBar])
  simp only [step, settled, vetted, bind, Except.bind]
  simp [take, atRest.mode, takeOrdinary, Token.width, atRest.flags]

theorem AtRest.pushCode {reader : Reader} (atRest : reader.AtRest) (width : Nat) (c : Char) :
    { reader with position := reader.position + width }.pushCode c.toNat =
      reader.advance width [.literal c] [] := by
  simp [Reader.pushCode, push, Reader.advance, Expression.literal, atRest.mode, atRest.flags,
    Flags.folding]

/-! ## Escaped text -/

theorem beginEscape_special (reader : Reader) {c : Char} (special : isSpecial c = true) :
    reader.beginEscape c = .ok (reader.pushCode c.toNat) := by
  simp only [isSpecial, List.contains_iff_mem, List.mem_cons, List.not_mem_nil, or_false]
    at special
  rcases special with rfl | rfl | rfl | rfl | rfl | rfl | rfl | rfl | rfl | rfl | rfl | rfl |
    rfl | rfl <;> rfl

theorem takePlain_ordinary (reader : Reader) {c : Char} (ordinary : isSpecial c = false) :
    reader.takePlain c = .ok (reader.pushCode c.toNat) := by
  simp only [isSpecial, List.contains_eq_mem, List.mem_cons, List.not_mem_nil, or_false,
    decide_eq_false_iff_not, not_or] at ordinary
  unfold takePlain
  split <;> simp_all

section

variable [Character.Names]

theorem reads_escapeChar {reader : Reader} (atRest : reader.AtRest) (c : Char) :
    Reads (escapeChar c) reader (reader.advance (escapeChar c).length [.literal c] []) := by
  cases special : isSpecial c with
  | true =>
    simp only [escapeChar, special, if_true]
    refine ⟨by simp [endsInBackslash], by simp, ?_⟩
    have step := (atRest.step_escaped c).trans (beginEscape_special _ special)
    rw [atRest.pushCode] at step
    simp [tokens, step, pure, Except.pure, bind, Except.bind]
  | false =>
    have unlike : ∀ other, isSpecial other = true → c ≠ other := by
      intro other otherSpecial same
      simp [← same, special] at otherSpecial
    have unescaped := unlike '\\' rfl
    simp only [escapeChar, special, Bool.false_eq_true, if_false]
    refine ⟨by simp [endsInBackslash, unescaped],
      by simp [unlike '?' rfl, unlike '+' rfl], ?_⟩
    have step := (atRest.step_plain (unlike ')' rfl) (unlike '|' rfl)).trans
      (takePlain_ordinary _ special)
    rw [atRest.pushCode] at step
    simp [tokens, unescaped, step, pure, Except.pure, bind, Except.bind]

theorem reads_escape {reader : Reader} (atRest : reader.AtRest) (text : List Char) :
    Reads (text.flatMap escapeChar) reader
      (reader.advance (text.flatMap escapeChar).length (text.map .literal) []) := by
  induction text generalizing reader with
  | nil => exact reads_nil reader
  | cons c rest ih =>
    have first := reads_escapeChar atRest c
    have others := ih (atRest.advance (escapeChar c).length [.literal c] [])
    rw [advance_advance] at others
    simpa using first.append others

/-! ## Slashes and anchors -/

theorem AtRest.reads_escaped {reader after : Reader} (atRest : reader.AtRest) {c : Char}
    (begun : { reader with position := reader.position + 2 }.beginEscape c = .ok after) :
    Reads ['\\', c] reader after := by
  refine ⟨by simp [endsInBackslash], by simp, ?_⟩
  have step := (atRest.step_escaped c).trans begun
  simp [tokens, step, pure, Except.pure, bind, Except.bind]

theorem reads_slash {reader : Reader} (atRest : reader.AtRest) :
    Reads ['\\', '/'] reader (reader.advance 2 [.literal '/'] []) :=
  atRest.reads_escaped (congrArg Except.ok (atRest.pushCode 2 '/'))

theorem reads_textStart {reader : Reader} (atRest : reader.AtRest) :
    Reads ['\\', 'A'] reader (reader.advance 2 [.anchor .textStart] []) := by
  apply atRest.reads_escaped
  simp [beginEscape, categoryEscape?, controlEscape?, push, Reader.advance, atRest.mode]

theorem reads_textEnd {reader : Reader} (atRest : reader.AtRest) :
    Reads ['\\', 'Z'] reader (reader.advance 2 [.anchor .textEnd] []) := by
  apply atRest.reads_escaped
  simp [beginEscape, categoryEscape?, controlEscape?, push, Reader.advance, atRest.mode]

/-! ## What is optional -/

/-- A quantifier takes effect once the next token is no sign of its own. -/
theorem step_quantified {reader : Reader} {least : Nat} {most : Option Nat} {item : Expression}
    {rest : List Expression} (mode : reader.mode = .quantified least most)
    (items : reader.items = item :: rest) {token : Token} (unsigned : paceSign? token = none) :
    reader.step token = (reader.repeatLast .greedy least most).step token := by
  have settled : reader.settle (some token) = .ok (reader.repeatLast .greedy least most) := by
    simp [settle, mode, unsigned]
  have steady : (reader.repeatLast .greedy least most).settle (some token) =
      .ok (reader.repeatLast .greedy least most) := by
    simp [settle, repeatLast, items]
  simp only [step, settled, steady]

theorem Reads.firstToken {text : List Char} {reader after : Reader}
    (reads : Reads text reader after) (present : text ≠ []) :
    ∃ token others, tokens text = token :: others ∧ paceSign? token = none := by
  obtain ⟨whole, unsigned, -⟩ := reads
  match text, present with
  | [c], _ =>
    have unescaped : c ≠ '\\' := by
      intro same
      simp [same, endsInBackslash] at whole
    obtain ⟨noMark, noPlus⟩ := unsigned c rfl
    exact ⟨.plain c, [], by simp [tokens, unescaped], by simp [paceSign?, noMark, noPlus]⟩
  | c :: next :: rest, _ =>
    by_cases escaped : c = '\\'
    · exact ⟨.escaped next, tokens rest, by simp [tokens, escaped], rfl⟩
    · obtain ⟨noMark, noPlus⟩ := unsigned c rfl
      exact ⟨.plain c, _, tokens_cons escaped _, by simp [paceSign?, noMark, noPlus]⟩

theorem reads_optionalSlash {reader after : Reader} (atRest : reader.AtRest) {text : List Char}
    (present : text ≠ []) (rest : Reads text (reader.advance 3 [.optionalSlash] []) after) :
    Reads ('\\' :: '/' :: '?' :: text) reader after := by
  obtain ⟨token, others, first, unsigned⟩ := rest.firstToken present
  refine ⟨?_, by simp, ?_⟩
  · simpa [endsInBackslash, endsInBackslash_cons] using rest.whole
  · have slash : reader.step (.escaped '/') = .ok (reader.advance 2 [.literal '/'] []) :=
      (atRest.step_escaped '/').trans (congrArg Except.ok (atRest.pushCode 2 '/'))
    let quantified : Reader :=
      { reader.advance 3 [.literal '/'] [] with mode := .quantified 0 (some 1) }
    have mark : (reader.advance 2 [.literal '/'] []).step (.plain '?') = .ok quantified :=
      (atRest.advance 2 [.literal '/'] []).step_plain (by decide) (by decide)
    have settled : quantified.step token = (reader.advance 3 [.optionalSlash] []).step token := by
      have later : quantified.step token = (quantified.repeatLast .greedy 0 (some 1)).step token :=
        step_quantified rfl rfl unsigned
      have same : quantified.repeatLast .greedy 0 (some 1) =
          reader.advance 3 [.optionalSlash] [] := by
        simp [quantified, repeatLast, Reader.advance, Expression.optionalSlash, atRest.mode]
      rwa [same] at later
    have steps := rest.steps
    rw [first, List.foldlM_cons] at steps
    rw [show tokens ('\\' :: '/' :: '?' :: text) = .escaped '/' :: .plain '?' :: tokens text by
      simp [tokens, tokens_cons], first]
    simp only [List.foldlM_cons, slash, mark, settled, bind, Except.bind] at steps ⊢
    exact steps

end

end Reader

end RoutePattern.Regex
