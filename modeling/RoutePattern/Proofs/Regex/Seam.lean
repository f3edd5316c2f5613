import RoutePattern.Proofs.Regex.Reading
import RoutePattern.Proofs.Regex.Splicing

/-! # Between the pieces of an expression

A fragment may end in the middle of something: after a quantifier, in braces that hold no count, or
in an escape that takes up to three digits. What follows ends it, or becomes part of it, but neither
does harm.

* `Mode.Loose` — the modes in which a fragment may end.
* `settle_of_loose` — what ends them adds no groups.
* `AtSeam` — the reader between two pieces, with the bodies of the groups read so far.
* `AtSeam.step_escaped`, `AtSeam.step_plain` — escaped text leads from seam to seam.
-/

namespace RoutePattern.Regex

open Expression (Sound)

/-! ## Loose ends -/

/-- The mode of a reader that may reach the end of a fragment. -/
def Mode.Loose (items : List Expression) : Mode → Prop
  | .ordinary => True
  | .quantified _ _ => items ≠ []
  | .counts _ _ _ => True
  | .escape .sequence (.octal digits) => ZeroOctal digits
  | .escape .sequence (.hexadecimal letter digits) =>
    hexadecimalLength letter ≤ digits.length ∧ numeral 16 digits ≤ lastCode
  | _ => False

/-- A fragment may end in an octal code or in a hexadecimal code that is complete. -/
theorem Mode.Loose.of_escape {items : List Expression} {site : Site} {pending : Pending}
    (loose : (Mode.escape site pending).Loose items) :
    site = .sequence ∧ ((∃ digits, pending = .octal digits ∧ ZeroOctal digits) ∨
      ∃ letter digits, pending = .hexadecimal letter digits ∧
        hexadecimalLength letter ≤ digits.length ∧ numeral 16 digits ≤ lastCode) := by
  cases site with
  | set draft written => exact loose.elim
  | sequence =>
    cases pending with
    | octal digits => exact ⟨rfl, .inl ⟨digits, rfl, loose⟩⟩
    | hexadecimal letter digits => exact ⟨rfl, .inr ⟨letter, digits, rfl, loose⟩⟩
    | _ => exact loose.elim

/-- The next token, if there is one, does not belong to what the reader is in the middle of. -/
def Mode.Ends (next : Option Token) : Mode → Prop
  | .quantified _ _ => next.bind Reader.paceSign? = none
  | .counts _ low high => next.any (countsContinue low high) = false
  | .escape _ pending => next.any pending.continues = false
  | _ => True

theorem Mode.ends_none (mode : Mode) : mode.Ends none := by
  cases mode <;> simp [Ends]

/-- A backslash ends whatever a fragment may end with. -/
theorem Mode.ends_escaped {items : List Expression} {mode : Mode} (loose : mode.Loose items)
    (c : Char) : mode.Ends (some (.escaped c)) := by
  cases mode with
  | escape site pending =>
    obtain ⟨-, ⟨digits, rfl, -⟩ | ⟨letter, digits, rfl, -⟩⟩ := Loose.of_escape loose <;>
      simp [Ends, Pending.continues]
  | _ => simp [Ends, Reader.paceSign?, countsContinue]

/-- Parts, latest first, that have the same groups as others and ask for the same, and are sound if
    those are. -/
structure Amends (items others : List Expression) : Prop where
  groups : others.reverse.flatMap Expression.groups = items.reverse.flatMap Expression.groups
  references :
    others.reverse.flatMap Expression.references = items.reverse.flatMap Expression.references
  sound : (∀ item ∈ others, item.Sound) ↔ ∀ item ∈ items, item.Sound
  present : items ≠ [] → others ≠ []

theorem Amends.refl (items : List Expression) : Amends items items :=
  ⟨rfl, rfl, Iff.rfl, id⟩

theorem Amends.trans {items middle others : List Expression} (first : Amends items middle)
    (second : Amends middle others) : Amends items others :=
  ⟨second.groups.trans first.groups, second.references.trans first.references,
    second.sound.trans first.sound, second.present ∘ first.present⟩

theorem Amends.held_eq {items others : List Expression} (amends : Amends items others)
    (branches : List Expression) :
    Reader.held branches others = Reader.held branches items := by
  rw [Reader.held, Reader.held, List.flatMap_append, List.flatMap_append, amends.groups]

theorem Amends.referred_eq {items others : List Expression} (amends : Amends items others)
    (branches : List Expression) :
    Reader.referred branches others = Reader.referred branches items := by
  rw [Reader.referred, Reader.referred, List.flatMap_append, List.flatMap_append,
    amends.references]

theorem amends_cons {item : Expression} (bare : item.groups = []) (unasked : item.references = [])
    (sound : item.Sound) (items : List Expression) : Amends items (item :: items) where
  groups := by simp [bare]
  references := by simp [unasked]
  sound := by simp [sound]
  present := by simp

theorem amends_repeated (pace : Pace) (least : Nat) (most : Option Nat) (item : Expression)
    (items : List Expression) : Amends (item :: items) (.repeated pace least most item :: items) where
  groups := by simp [Expression.groups]
  references := by simp [Expression.references]
  sound := by simp [Sound, Expression.flaw?]
  present := by simp

theorem amends_one (set : Charset) (items : List Expression) :
    Amends items (.one set :: items) :=
  amends_cons rfl rfl (by simp [Sound, Expression.flaw?]) items

/-- The value of an octal code that begins with a zero fits a byte. -/
theorem ZeroOctal.numeral_le {digits : List Char} (octal : ZeroOctal digits) :
    numeral 8 digits ≤ 0o377 := by
  have small : ∀ c, isOctalDigit c = true → digitValue c ≤ 7 := by
    intro c digit
    simp only [isOctalDigit, Bool.and_eq_true, Nat.ble_eq] at digit
    simp only [digitValue]
    split <;> omega
  obtain ⟨rest, rfl, short, octal⟩ := octal
  match rest with
  | [] => decide
  | [second] =>
    have := small second (octal second (by simp))
    simp only [numeral, List.foldl]
    have zero : digitValue '0' = 0 := rfl
    omega
  | [second, third] =>
    have := small second (octal second (by simp))
    have := small third (octal third (by simp))
    simp only [numeral, List.foldl]
    have zero : digitValue '0' = 0 := rfl
    omega
  | _ :: _ :: _ :: _ => simp at short

/-- Bodies of groups with the numbers of the groups, from one on. -/
def numbered (bodies : List Expression) : List (Nat × Expression) :=
  (bodies.zipIdx 1).map Prod.swap

theorem numbered_append_singleton (bodies : List Expression) (body : Expression) :
    numbered (bodies ++ [body]) = numbered bodies ++ [(bodies.length + 1, body)] := by
  simp [numbered, List.zipIdx_append, Nat.add_comm]

namespace Reader

theorem abandonCounts_eq (reader : Reader) (low : List Char) (high : Option (List Char)) :
    ∃ items, Amends reader.items items ∧
      { reader.abandonCounts low high with mode := .ordinary } =
        { reader with mode := .ordinary, items := items } := by
  unfold abandonCounts
  generalize '{' :: low ++ (high.map (',' :: ·)).getD [] = written
  dsimp only
  induction written generalizing reader with
  | nil => exact ⟨reader.items, .refl _, rfl⟩
  | cons c rest ih =>
    obtain ⟨items, amends, same⟩ := ih (reader.pushCode c.toNat)
    exact ⟨items, (amends_one _ _).trans amends, same⟩

theorem settle_of_loose {reader : Reader} (loose : reader.mode.Loose reader.items)
    {next : Option Token} (ends : reader.mode.Ends next) :
    ∃ items, Amends reader.items items ∧
      reader.settle next = .ok { reader with mode := .ordinary, items := items } := by
  unfold settle
  cases mode : reader.mode with
  | ordinary =>
    refine ⟨reader.items, .refl _, ?_⟩
    dsimp only
    rw [← mode]
  | quantified least most =>
    rw [mode] at loose ends
    obtain ⟨item, rest, items⟩ := List.exists_cons_of_ne_nil loose
    refine ⟨.repeated .greedy least most item :: rest, items ▸ amends_repeated .., ?_⟩
    simp only [Mode.Ends] at ends
    simp [ends, repeatLast, items]
  | counts start low high =>
    rw [mode] at ends
    simp only [Mode.Ends] at ends
    obtain ⟨items, amends, same⟩ := reader.abandonCounts_eq low high
    exact ⟨items, amends, by simp [ends, same]⟩
  | escape site pending =>
    rw [mode] at loose ends
    simp only [Mode.Ends] at ends
    obtain ⟨rfl, ⟨digits, rfl, octal⟩ | ⟨letter, digits, rfl, complete, small⟩⟩ :=
      Mode.Loose.of_escape loose
    · refine ⟨_, amends_one (.single reader.flags.folding (numeral 8 digits)) _, ?_⟩
      have fits : ¬ 0o377 < numeral 8 digits := Nat.not_lt.mpr octal.numeral_le
      simp [ends, concludeEscape, concludeOctal, fits, deliver, pushCode, push]
    · refine ⟨_, amends_one (.single reader.flags.folding (numeral 16 digits)) _, ?_⟩
      dsimp only
      rw [ends, if_neg Bool.false_ne_true]
      exact concludeHexadecimal_eq_ok.mpr ⟨complete, small, rfl⟩
  | _ => exact absurd loose (by simp [mode, Mode.Loose])

/-! ## Seams -/

/-- The reader between two pieces of an expression. It has read groups with the given bodies, all of
    them closed, and what asks for groups of the given numbers. If the pieces are straight, it has
    read no bar. -/
structure AtSeam (straight : Prop) (bodies : List Expression) (references : List Nat)
    (reader : Reader) : Prop where
  loose : reader.mode.Loose reader.items
  flags : reader.flags = {}
  frames : reader.frames = []
  behindFrom : reader.behindFrom = none
  names : reader.names = []
  globals : reader.globals = {}
  held : held reader.branches reader.items = numbered bodies
  asked : referred reader.branches reader.items = references
  count : reader.groups.length = bodies.length
  closed : ∀ width ∈ reader.groups, width.isSome = true
  sound : (∀ branch ∈ reader.branches, branch.Sound) ∧ ∀ item ∈ reader.items, item.Sound
  conditions : ∀ entry ∈ reader.conditions, entry.1 ≤ reader.groups.length
  branches : straight → reader.branches = []

namespace AtSeam

variable {straight : Prop} {bodies : List Expression} {references : List Nat} {reader : Reader}

/-- What the next token does not belong to is over. -/
theorem settle (seam : reader.AtSeam straight bodies references) {next : Option Token}
    (ends : reader.mode.Ends next) :
    ∃ settled, reader.settle next = .ok settled ∧ settled.AtSeam straight bodies references ∧
      settled.mode = .ordinary ∧ (reader.items ≠ [] → settled.items ≠ []) := by
  obtain ⟨items, amends, settled⟩ := settle_of_loose seam.loose ends
  refine ⟨_, settled, { seam with loose := trivial, held := ?_, asked := ?_, sound := ?_ }, rfl,
    amends.present⟩
  · exact (amends.held_eq _).trans seam.held
  · exact (amends.referred_eq _).trans seam.asked
  · exact ⟨seam.sound.1, amends.sound.mpr seam.sound.2⟩

/-- A new part that neither is a group nor asks for one. -/
theorem push (seam : reader.AtSeam straight bodies references) {item : Expression}
    (bare : item.groups = []) (unasked : item.references = []) (sound : item.Sound) :
    (reader.push item).AtSeam straight bodies references := by
  have amends := amends_cons bare unasked sound reader.items
  refine { seam with loose := trivial, held := ?_, asked := ?_, sound := ?_ }
  · exact (amends.held_eq _).trans seam.held
  · exact (amends.referred_eq _).trans seam.asked
  · exact ⟨seam.sound.1, amends.sound.mpr seam.sound.2⟩

theorem move (seam : reader.AtSeam straight bodies references) (position : Nat) :
    { reader with position := position }.AtSeam straight bodies references :=
  { seam with }

/-- Between two parts a token is taken as it stands. -/
theorem step_of_ordinary [Character.Names] {settled : Reader}
    (seam : settled.AtSeam straight bodies references)
    (ordinary : settled.mode = .ordinary) {token : Token}
    (found : reader.settle (some token) = .ok settled) (noClosing : token ≠ .plain ')')
    (noBar : token ≠ .plain '|') :
    reader.step token =
      { settled with position := settled.position + token.width }.takeOrdinary token := by
  have atRest : settled.AtRest := ⟨ordinary, seam.flags⟩
  simp [step, found, atRest.vet noClosing noBar, bind, Except.bind, take, ordinary]

/-- An escape that means one part. -/
theorem step_escaped [Character.Names] (seam : reader.AtSeam straight bodies references) {c : Char}
    {item : Expression}
    (begun : ∀ settled : Reader, settled.flags = {} → settled.beginEscape c = .ok (settled.push item))
    (bare : item.groups = []) (unasked : item.references = []) (sound : item.Sound) :
    ∃ after : Reader, reader.step (.escaped c) = .ok (after.push item) ∧
      (after.push item).AtSeam straight bodies references := by
  obtain ⟨settled, found, seamSettled, ordinary, -⟩ := seam.settle (Mode.ends_escaped seam.loose c)
  refine ⟨{ settled with position := settled.position + 2 }, ?_, ?_⟩
  · rw [seamSettled.step_of_ordinary ordinary found (by simp) (by simp)]
    exact begun _ seamSettled.flags
  · exact (seamSettled.move _).push bare unasked sound

theorem ne_of_ordinary {c : Char} (ordinary : isSpecial c = false) (other : Char)
    (special : isSpecial other = true) : c ≠ other := by
  rintro rfl
  cases special.symm.trans ordinary

section

variable [Character.Names]

/-- An ordinary character behind a finished part is a part of its own. -/
theorem step_plain_of_ends (seam : reader.AtSeam straight bodies references) {c : Char}
    (ordinary : isSpecial c = false) (ends : reader.mode.Ends (some (.plain c))) :
    ∃ after, reader.step (.plain c) = .ok after ∧ after.AtSeam straight bodies references := by
  obtain ⟨settled, found, seamSettled, atRest, -⟩ := seam.settle ends
  let moved : Reader := { settled with position := settled.position + 1 }
  have pushed : (moved.pushCode c.toNat).AtSeam straight bodies references :=
    (seamSettled.move _).push rfl rfl (by simp [Sound, Expression.flaw?])
  refine ⟨moved.pushCode c.toNat, ?_, pushed⟩
  rw [seamSettled.step_of_ordinary atRest found (by simp [ne_of_ordinary ordinary ')' rfl])
    (by simp [ne_of_ordinary ordinary '|' rfl])]
  have plain : moved.takeOrdinary (.plain c) = moved.takePlain c := by
    simp [takeOrdinary, moved, seamSettled.flags]
  exact plain.trans (takePlain_ordinary moved ordinary)

/-- An ordinary character that goes on with what was begun goes on with braces or with an octal
    code. -/
theorem step_plain_of_not_ends (seam : reader.AtSeam straight bodies references) {c : Char}
    (ordinary : isSpecial c = false) (goesOn : ¬ reader.mode.Ends (some (.plain c))) :
    ∃ after, reader.step (.plain c) = .ok after ∧ after.AtSeam straight bodies references := by
  have loose := seam.loose
  let moved : Reader := { reader with position := reader.position + 1 }
  cases mode : reader.mode with
  | counts start low high =>
    have continues : countsContinue low high (.plain c) = true := by
      simpa [mode, Mode.Ends] using goesOn
    have step : reader.step (.plain c) = moved.takeCount start low high (.plain c) := by
      simp [Reader.step, Reader.settle, mode, continues, vet, take, bind, Except.bind, Token.width,
        moved]
    rw [step]
    unfold takeCount
    rw [if_neg (by simp [ne_of_ordinary ordinary '}' rfl])]
    split
    · split <;> exact ⟨_, rfl, { seam with loose := trivial }⟩
    · exact ⟨_, rfl, { seam with loose := trivial }⟩
  | escape site pending =>
    have continues : pending.continues (.plain c) = true := by simpa [mode, Mode.Ends] using goesOn
    have step : reader.step (.plain c) = moved.continueEscape site pending (.plain c) := by
      simp [Reader.step, Reader.settle, mode, continues, vet, take, bind, Except.bind, Token.width,
        moved]
    rw [mode] at loose
    obtain ⟨rfl, ⟨digits, rfl, octal⟩ | ⟨letter, digits, rfl, complete, -⟩⟩ :=
      Mode.Loose.of_escape loose
    · rw [step]
      exact ⟨_, rfl, { seam with loose := octal.snoc continues }⟩
    · simp [Pending.continues, Nat.not_lt.mpr complete] at continues
  | quantified least most =>
    refine absurd ?_ goesOn
    simp [mode, Mode.Ends, paceSign?, ne_of_ordinary ordinary '?' rfl, ne_of_ordinary ordinary '+' rfl]
  | _ => exact absurd (by simp [mode, Mode.Ends]) goesOn

theorem step_plain (seam : reader.AtSeam straight bodies references) {c : Char}
    (ordinary : isSpecial c = false) :
    ∃ after, reader.step (.plain c) = .ok after ∧ after.AtSeam straight bodies references := by
  by_cases ends : reader.mode.Ends (some (.plain c))
  · exact seam.step_plain_of_ends ordinary ends
  · exact seam.step_plain_of_not_ends ordinary ends

end

end AtSeam

end Reader

end RoutePattern.Regex
