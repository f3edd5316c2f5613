import Mathlib.Logic.Relation
import RoutePattern.Proofs.Regex.Groups
import RoutePattern.Settings

/-! # What reading a token does

A step of the reader either fails or changes it by a few edits, and it leaves the reader in a mode
that fits what was read so far.

* `Reader.Edit`, `Reader.Edits` — one change, and changes one after the other.
* `Mode.Proper` — what holds whenever the reader is in a mode.
* `Leads` — a result, if there is one, comes from a reader by edits and is in a proper mode.
* `leads_step` — every step leads, as long as no numbered reference is read.
-/

namespace RoutePattern.Regex

/-- The number of the group that a pair of parentheses captures. -/
def GroupKind.captures : GroupKind → List Nat
  | .capture number => [number]
  | _ => []

/-- The number of the group that a pair of parentheses asks for. -/
def GroupKind.references : GroupKind → List Nat
  | .conditional number => [number]
  | _ => []

/-! ## Edits -/

namespace Reader

/-- One change of the reader. Where there are no names, parts refer to no group, and conditions ask
    for groups whose numbers are noted. -/
inductive Edit : Reader → Reader → Prop where
  | become (reader : Reader) (position : Nat) (mode : Mode) :
    Edit reader { reader with position := position, mode := mode }
  | push (reader : Reader) {item : Expression} (bare : item.groups = [])
      (named : reader.names = [] → item.references = []) : Edit reader (reader.push item)
  | nextBranch (reader : Reader) (allowed : reader.inLastBranch = false) :
    Edit reader reader.nextBranch
  | repeatLast (reader : Reader) (pace : Pace) (least : Nat) (most : Option Nat) :
    Edit reader (reader.repeatLast pace least most)
  | openGroup (reader : Reader) {kind : GroupKind} (bare : kind.captures = [])
      (noted : reader.names = [] → ∀ number ∈ kind.references,
        number ≠ 0 ∧ number ∈ reader.conditions.map Prod.fst)
      (start : Nat) (flags : Flags) : Edit reader (reader.openGroup kind start flags)
  | openCapture (reader : Reader) (start : Nat) : Edit reader (reader.openCapture start)
  | openBehind (reader : Reader) (negated : Bool) (start : Nat) :
    Edit reader (reader.openBehind negated start)
  | closeGroup (reader : Reader) : Edit reader reader.closeGroup
  | name (reader : Reader) (entry : String × Nat) :
    Edit reader { reader with names := reader.names ++ [entry] }
  | noteCondition (reader : Reader) (number place : Nat) :
    Edit reader (reader.noteCondition number place)
  | turnOn (reader : Reader) {on : FlagSet} (some : on ≠ {}) :
    Edit reader { reader with
      mode := .ordinary
      flags := reader.flags.update on {}
      globals := reader.globals.union on }

def Edits : Reader → Reader → Prop :=
  Relation.ReflTransGen Edit

theorem Edit.edits {reader next : Reader} (edit : Edit reader next) : Edits reader next :=
  .single edit

theorem Edits.trans {reader middle next : Reader} (first : Edits reader middle)
    (second : Edits middle next) : Edits reader next :=
  Relation.ReflTransGen.trans first second

section

variable (reader : Reader)

@[simp] theorem edits_refl : Edits reader reader :=
  Relation.ReflTransGen.refl

@[simp] theorem edits_mode (mode : Mode) : Edits reader { reader with mode := mode } :=
  (Edit.become reader reader.position mode).edits

@[simp] theorem edits_pushOne (set : Charset) : Edits reader (reader.push (.one set)) :=
  (Edit.push reader rfl fun _ => rfl).edits

@[simp] theorem edits_pushAnchor (kind : Anchor) : Edits reader (reader.push (.anchor kind)) :=
  (Edit.push reader rfl fun _ => rfl).edits

theorem edits_pushBackreference (named : reader.names ≠ []) (number : Nat) (width : Width)
    (folding : Folding) : Edits reader (reader.push (.backreference number width folding)) :=
  (Edit.push reader rfl fun none => absurd none named).edits

@[simp] theorem edits_pushCode (code : Nat) : Edits reader (reader.pushCode code) :=
  reader.edits_pushOne _

theorem edits_abandonCounts (low : List Char) (high : Option (List Char)) :
    Edits reader (reader.abandonCounts low high) := by
  unfold abandonCounts
  generalize '{' :: low ++ (high.map (',' :: ·)).getD [] = written
  dsimp only
  induction written generalizing reader with
  | nil => exact reader.edits_refl
  | cons c rest ih => exact (reader.edits_pushCode c.toNat).trans (ih _)

end

end Reader

/-! ## Proper modes -/

/-- The digits of an octal code that begins with a zero. -/
def ZeroOctal (digits : List Char) : Prop :=
  ∃ rest : List Char, digits = '0' :: rest ∧ rest.length ≤ 2 ∧ ∀ c ∈ rest, isOctalDigit c = true

/-- A further octal digit, where the escape goes on with it. -/
theorem ZeroOctal.snoc {digits : List Char} (octal : ZeroOctal digits) {c : Char}
    (goesOn : (Pending.octal digits).continues (.plain c) = true) : ZeroOctal (digits ++ [c]) := by
  obtain ⟨rest, rfl, -, octal⟩ := octal
  simp only [Pending.continues, List.length_cons, Bool.and_eq_true, decide_eq_true_eq] at goesOn
  refine ⟨rest ++ [c], rfl, ?_, ?_⟩
  · simp only [List.length_append, List.length_cons, List.length_nil]
    omega
  · simpa [or_imp, forall_and] using ⟨octal, goesOn.2⟩

/-- What holds of the flags and of the latest parts in a mode: a quantifier has a part before it,
    comments up to the end of the line are verbose, and flags that are being turned on are not
    absent. Escapes are no references, and octal codes between two parts begin with a zero. -/
def Mode.Proper (flags : Flags) (items : List Expression) : Mode → Prop
  | .quantified _ _ => items ≠ []
  | .lineComment => flags.verbose = true
  | .escape _ (.reference _) => False
  | .escape .sequence (.octal digits) => ZeroOctal digits
  | .flagsOn _ on => on ≠ {}
  | _ => True

def Reader.Proper (reader : Reader) : Prop :=
  reader.mode.Proper reader.flags reader.items

@[simp] theorem Reader.proper_mode (reader : Reader) (mode : Mode) :
    { reader with mode := mode }.Proper ↔ mode.Proper reader.flags reader.items :=
  Iff.rfl

/-- A reader between two parts is proper. -/
theorem Reader.proper_of_ordinary {reader : Reader} (ordinary : reader.mode = .ordinary) :
    reader.Proper := by
  simp [Proper, ordinary, Mode.Proper]

@[simp] theorem Reader.proper_push (reader : Reader) (item : Expression) :
    (reader.push item).Proper :=
  proper_of_ordinary rfl

@[simp] theorem Reader.proper_pushCode (reader : Reader) (code : Nat) :
    (reader.pushCode code).Proper :=
  reader.proper_push _

@[simp] theorem Reader.proper_openGroup (reader : Reader) (kind : GroupKind) (start : Nat)
    (flags : Flags) : (reader.openGroup kind start flags).Proper :=
  proper_of_ordinary rfl

theorem FlagSet.insert_ne {set : FlagSet} {letter : Char} (known : letter ∈ FlagSet.letters)
    (text : letter ≠ 'L') : set.insert letter ≠ {} := by
  simp only [FlagSet.letters, List.mem_cons, List.not_mem_nil, or_false] at known
  rcases known with rfl | rfl | rfl | rfl | rfl | rfl | rfl | rfl <;>
    simp_all [FlagSet.insert]

theorem Token.flagLetter?_eq_some {token : Token} {letter : Char}
    (found : token.flagLetter? = some letter) : letter ∈ FlagSet.letters := by
  unfold Token.flagLetter? at found
  split at found
  · split at found
    · cases found
      exact List.contains_iff_mem.mp ‹_›
    · cases found
  · cases found

/-! ## Results -/

/-- If there is a result, the edits lead to it, and it is proper. -/
def Leads (reader : Reader) (outcome : Except Fault Reader) : Prop :=
  ∀ next, outcome = .ok next → reader.Edits next ∧ next.Proper

section

variable {reader : Reader}

@[simp] theorem leads_error (fault : Fault) : Leads reader (.error fault) := by
  intro next found
  cases found

@[simp] theorem leads_ok {next : Reader} :
    Leads reader (.ok next) ↔ reader.Edits next ∧ next.Proper := by
  constructor
  · intro leads
    exact leads next rfl
  · intro reached next found
    cases found
    exact reached

@[simp] theorem leads_ite {condition : Prop} [Decidable condition]
    {first second : Except Fault Reader} :
    Leads reader (if condition then first else second) ↔
      (condition → Leads reader first) ∧ (¬ condition → Leads reader second) := by
  split <;> simp_all

@[simp] theorem leads_complain (other : Reader) (complaint : Complaint) (back : Nat) :
    Leads reader (other.complain complaint back) :=
  leads_error _

@[simp] theorem leads_complainAt (other : Reader) (complaint : Complaint) (position : Nat) :
    Leads reader (other.complainAt complaint position) :=
  leads_error _

@[simp] theorem leads_complainFlag (other : Reader) (token : Token) (missing : Complaint) :
    Leads reader (other.complainFlag token missing) :=
  leads_error _

theorem Leads.bind {α : Type} {check : Except Fault α} {rest : α → Except Fault Reader}
    (leads : ∀ value, check = .ok value → Leads reader (rest value)) :
    Leads reader (check >>= rest) := by
  cases check with
  | error fault => exact leads_error fault
  | ok value => exact leads value rfl

theorem Leads.trans {first : Except Fault Reader} {rest : Reader → Except Fault Reader}
    (leads : Leads reader first)
    (leadsRest : ∀ middle, first = .ok middle → middle.Proper → Leads middle (rest middle)) :
    Leads reader (first >>= rest) := by
  apply Leads.bind
  intro middle found next reached
  obtain ⟨edits, proper⟩ := leads middle found
  obtain ⟨editsRest, properRest⟩ := leadsRest middle found proper next reached
  exact ⟨edits.trans editsRest, properRest⟩

end

namespace Reader

variable (reader : Reader)

/-! ## Escapes and sets -/

@[simp] theorem leads_acceptMember (draft : SetDraft) (element : Member) (written : List Char) :
    Leads reader (reader.acceptMember draft element written) := by
  unfold acceptMember
  split
  · split <;> simp [Mode.Proper]
  · simp [Mode.Proper]

@[simp] theorem leads_deliver (site : Site) (code : Nat) :
    Leads reader (reader.deliver site code) := by
  unfold deliver
  split <;> simp

/-- A decimal digit is a zero, or it begins a reference. -/
theorem isDecimalDigit_of_unreferred {c : Char} (unreferred : isReferenceDigit c = false)
    (nonzero : c ≠ '0') : isDecimalDigit c = false := by
  have other : c.toNat ≠ 0x30 := fun same => nonzero (Char.toNat_inj.mp same)
  simp only [isReferenceDigit, ← Bool.not_eq_true, Bool.and_eq_true, Nat.ble_eq] at unreferred
  simp only [isDecimalDigit, ← Bool.not_eq_true, Bool.and_eq_true, Nat.ble_eq]
  omega

theorem leads_beginEscape {c : Char} (unreferred : isReferenceDigit c = false) :
    Leads reader (reader.beginEscape c) := by
  have digit := isDecimalDigit_of_unreferred unreferred
  unfold beginEscape pushCategory await
  split
  · simp
  · simp
  · simp_all [Mode.Proper, ZeroOctal]

@[simp] theorem leads_beginSetEscape (draft : SetDraft) (c : Char) :
    Leads reader (reader.beginSetEscape draft c) := by
  unfold beginSetEscape await
  split <;> simp [Mode.Proper]

/-- One more token of an escape that goes on. -/
theorem leads_continueEscape [Character.Names] {site : Site} {pending : Pending} {token : Token}
    (proper : (Mode.escape site pending).Proper reader.flags reader.items)
    (goesOn : pending.continues token = true) :
    Leads reader (reader.continueEscape site pending token) := by
  unfold continueEscape await
  split
  · simp [Mode.Proper]
  · cases site with
    | set draft written => simp [Mode.Proper]
    | sequence =>
      cases token with
      | escaped c => simp [Pending.continues] at goesOn
      | plain c => exact leads_ok.mpr ⟨edits_mode _ _, ZeroOctal.snoc proper goesOn⟩
  · exact absurd proper (by simp [Mode.Proper])
  · simp [Mode.Proper]
  · rename_i text
    cases Character.Names.find? text <;> simp [Mode.Proper]

@[simp] theorem leads_concludeOctal (site : Site) (digits : List Char) :
    Leads reader (reader.concludeOctal site digits) := by
  unfold concludeOctal
  simp

/-- A code in hexadecimal digits is handed over if it has all its digits and is a code point. -/
theorem concludeHexadecimal_eq_ok {reader next : Reader} {site : Site} {letter : Char}
    {digits : List Char} :
    reader.concludeEscape site (.hexadecimal letter digits) = .ok next ↔
      hexadecimalLength letter ≤ digits.length ∧ numeral 16 digits ≤ lastCode ∧
        reader.deliver site (numeral 16 digits) = .ok next := by
  unfold concludeEscape complain
  dsimp only
  by_cases complete : digits.length < hexadecimalLength letter
  · have short : ¬ hexadecimalLength letter ≤ digits.length := Nat.not_le.mpr complete
    simp [complete, short]
  · by_cases small : numeral 16 digits ≤ lastCode
    · have allowed : ¬ codeLimit ≤ numeral 16 digits := by
        unfold codeLimit lastCode at *
        omega
      simp [complete, allowed, Nat.not_lt.mpr small, Nat.not_lt.mp complete, small]
    · by_cases allowed : codeLimit ≤ numeral 16 digits
      · simp [complete, allowed, small]
      · simp [complete, allowed, Nat.not_le.mp small, small]

theorem leads_concludeEscape (site : Site) {pending : Pending}
    (unreferred : ∀ digits, pending ≠ .reference digits) :
    Leads reader (reader.concludeEscape site pending) := by
  unfold concludeEscape
  split
  · simp
  · simp
  · exact absurd rfl (unreferred _)
  · simp
  · simp

@[simp] theorem leads_beginMember (draft : SetDraft) (token : Token) :
    Leads reader (reader.beginMember draft token) := by
  unfold beginMember
  split <;> simp

@[simp] theorem leads_takeMember (draft : SetDraft) (token : Token) :
    Leads reader (reader.takeMember draft token) := by
  unfold takeMember closeBracket
  simp

@[simp] theorem leads_takeInBracket (draft : SetDraft) (token : Token) :
    Leads reader (reader.takeInBracket draft token) := by
  unfold takeInBracket closeBracket
  split <;> simp [Mode.Proper]

/-! ## Repetition -/

theorem mode_repeatLast {reader : Reader} (items : reader.items ≠ []) {pace : Pace}
    {least : Nat} {most : Option Nat} :
    (reader.repeatLast pace least most).mode = .ordinary := by
  unfold repeatLast
  split
  · exact absurd ‹reader.items = []› items
  · rfl

@[simp] theorem leads_quantify (start least : Nat) (most : Option Nat) :
    Leads reader (reader.quantify start least most) := by
  unfold quantify
  split
  · simp
  · simp
  · simp
  · rename_i items
    exact leads_ok.mpr ⟨edits_mode _ _, List.ne_nil_of_mem (items ▸ List.mem_cons_self)⟩

@[simp] theorem leads_takeCount (start : Nat) (low : List Char) (high : Option (List Char))
    (token : Token) : Leads reader (reader.takeCount start low high token) := by
  unfold takeCount applyCounts
  split
  · simp
  · split <;> simp [Mode.Proper]

/-! ## Heads of groups -/

theorem leads_openGroup {kind : GroupKind} (bare : kind.captures = [])
    (unasked : kind.references = []) (start : Nat) (flags : Flags) :
    Leads reader (.ok (reader.openGroup kind start flags)) := by
  refine leads_ok.mpr ⟨(Edit.openGroup reader bare ?_ start flags).edits, proper_openGroup _ _ _ _⟩
  simp [unasked]

@[simp] theorem leads_openBehind (negated : Bool) (start : Nat) :
    Leads reader (.ok (reader.openBehind negated start)) :=
  leads_ok.mpr ⟨(Edit.openBehind reader negated start).edits, proper_of_ordinary rfl⟩

theorem leads_openNamed (start : Nat) (name : List Char) :
    Leads reader (reader.openNamed start name) := by
  unfold openNamed
  dsimp only
  split
  · simp
  · have opened := (Edit.openCapture reader start).edits
    exact leads_ok.mpr ⟨opened.trans (Edit.name _ _).edits, proper_of_ordinary rfl⟩

@[simp] theorem leads_takeGroupName (start : Nat) (text : List Char) (token : Token) :
    Leads reader (reader.takeGroupName start text token) := by
  unfold takeGroupName
  split
  · exact .bind fun _ _ => reader.leads_openNamed start text
  · simp [Mode.Proper]

theorem names_ne_nil_of_number? {name : List Char} {number : Nat}
    (found : reader.number? name = some number) : reader.names ≠ [] := by
  intro none
  simp [number?, none] at found

@[simp] theorem leads_takeReferenceName (text : List Char) (token : Token) :
    Leads reader (reader.takeReferenceName text token) := by
  unfold takeReferenceName
  split
  · refine .bind fun _ _ => ?_
    split
    · simp
    · rename_i number found
      split
      · simp
      · refine .bind fun _ _ => leads_ok.mpr ⟨?_, proper_push _ _⟩
        exact reader.edits_pushBackreference (reader.names_ne_nil_of_number? found) _ _ _
  · simp [Mode.Proper]

@[simp] theorem leads_takeNaming (start : Nat) (token : Token) :
    Leads reader (reader.takeNaming start token) := by
  unfold takeNaming
  simp [Mode.Proper]

@[simp] theorem leads_takeBehind (start : Nat) (token : Token) :
    Leads reader (reader.takeBehind start token) := by
  unfold takeBehind
  simp only [leads_ite, leads_openBehind, leads_complain, implies_true, and_self]

/-- A condition that is noted is among those remembered, and no other is new. -/
theorem noteCondition_eq (number place : Nat) :
    ∃ conditions, reader.noteCondition number place = { reader with conditions := conditions } ∧
      reader.conditions ⊆ conditions ∧ number ∈ conditions.map Prod.fst ∧
      ∀ entry ∈ conditions, entry ∈ reader.conditions ∨ entry.1 = number := by
  unfold noteCondition
  split
  · rename_i noted
    refine ⟨reader.conditions, rfl, List.Subset.refl _, ?_, fun _ member => .inl member⟩
    simpa [List.lookup_isSome_iff] using noted
  · exact ⟨_, rfl, List.subset_append_left _ _, by simp, by simp; grind⟩

/-- A condition asks for a group by its name, or by a number other than zero. -/
theorem conditionNumber_eq_ok {text : List Char} {number : Nat} {byNumber : Bool}
    (found : reader.conditionNumber text = .ok (number, byNumber)) :
    if byNumber then number ≠ 0 else reader.names ≠ [] := by
  unfold conditionNumber complain at found
  dsimp only at found
  split at found
  · split at found
    · cases found
    · cases found
      exact reader.names_ne_nil_of_number? ‹_›
  · split at found
    · split at found
      · cases found
      · split at found
        · cases found
        · cases found
          assumption
    · cases found

@[simp] theorem leads_takeCondition (start : Nat) (text : List Char) (token : Token) :
    Leads reader (reader.takeCondition start text token) := by
  unfold takeCondition
  split
  · split
    · simp
    · refine .bind fun asked found => .bind fun _ _ => ?_
      obtain ⟨number, byNumber⟩ := asked
      have known := reader.conditionNumber_eq_ok found
      cases byNumber with
      | false =>
        refine leads_ok.mpr ⟨(Edit.openGroup reader rfl ?_ start _).edits, proper_openGroup _ _ _ _⟩
        exact fun none => absurd none known
      | true =>
        obtain ⟨conditions, same, -, noted, -⟩ :=
          reader.noteCondition_eq number (reader.position - text.length - 1)
        refine leads_ok.mpr ⟨(Edit.noteCondition reader _ _).edits.trans
          (Edit.openGroup _ rfl ?_ start _).edits, proper_openGroup _ _ _ _⟩
        rw [same]
        simpa [GroupKind.references] using fun _ => ⟨known, by simpa using noted⟩
  · simp [Mode.Proper]

@[simp] theorem leads_turnOn (start : Nat) {on : FlagSet} {letter : Char}
    (known : letter ∈ FlagSet.letters) : Leads reader (reader.turnOn start on letter) := by
  unfold turnOn
  split
  · simp
  · simp [Mode.Proper, FlagSet.insert_ne known ‹_›]

@[simp] theorem leads_turnOff (start : Nat) (on off : FlagSet) (letter : Char) :
    Leads reader (reader.turnOff start on off letter) := by
  unfold turnOff
  simp [Mode.Proper]

theorem leads_applyGlobals (start : Nat) {on : FlagSet} (some : on ≠ {}) :
    Leads reader (reader.applyGlobals start on) := by
  unfold applyGlobals
  split
  · exact leads_ok.mpr ⟨(Edit.turnOn reader some).edits, proper_of_ordinary rfl⟩
  · simp

theorem leads_takeFlagOn (start : Nat) {on : FlagSet} (some : on ≠ {}) (token : Token) :
    Leads reader (reader.takeFlagOn start on token) := by
  unfold takeFlagOn
  split
  · exact reader.leads_applyGlobals start some
  · split
    · refine leads_ite.mpr ⟨by simp, fun _ => leads_ite.mpr ⟨?_, ?_⟩⟩
      · simp [Mode.Proper]
      · intro _
        exact reader.leads_openGroup rfl rfl start _
    · split
      · exact reader.leads_turnOn start (Token.flagLetter?_eq_some ‹_›)
      · simp

@[simp] theorem leads_takeFlagOff (start : Nat) (on : FlagSet) (off : Option FlagSet)
    (token : Token) : Leads reader (reader.takeFlagOff start on off token) := by
  unfold takeFlagOff
  split
  · split <;> simp
  · split
    · refine leads_ite.mpr ⟨by simp, fun _ => leads_ite.mpr ⟨by simp, ?_⟩⟩
      intro _
      exact reader.leads_openGroup rfl rfl start _
    · split <;> simp

@[simp] theorem leads_takeExtension (start : Nat) (token : Token) :
    Leads reader (reader.takeExtension start token) := by
  unfold takeExtension
  split
  case h_2 | h_4 | h_5 | h_8 => exact reader.leads_openGroup rfl rfl start _
  case h_10 =>
    split
    · exact reader.leads_turnOn start (Token.flagLetter?_eq_some ‹_›)
    · simp
  all_goals simp [Mode.Proper]

/-! ## Steps -/

theorem leads_takePlain {c : Char} (allowed : c = '|' → reader.inLastBranch = false)
    (ordinary : reader.mode = .ordinary) : Leads reader (reader.takePlain c) := by
  unfold takePlain openBracket
  split
  case h_4 =>
    refine leads_ok.mpr ⟨(Edit.closeGroup reader).edits, proper_of_ordinary ?_⟩
    unfold closeGroup
    split
    · exact ordinary
    · rfl
  case h_5 =>
    exact leads_ok.mpr
      ⟨(Edit.nextBranch reader (allowed rfl)).edits, proper_of_ordinary ordinary⟩
  all_goals simp [Mode.Proper]

theorem leads_settle (next : Option Token) (proper : reader.Proper) :
    Leads reader (reader.settle next) := by
  unfold settle
  split
  · rename_i mode
    have items : reader.items ≠ [] := by simpa [Proper, mode, Mode.Proper] using proper
    refine leads_ite.mpr ⟨fun _ => by simp [proper], fun _ => leads_ok.mpr ⟨?_, ?_⟩⟩
    · exact (Edit.repeatLast reader _ _ _).edits
    · exact proper_of_ordinary (mode_repeatLast items)
  · refine leads_ite.mpr ⟨fun _ => by simp [proper], fun _ => leads_ok.mpr ⟨?_, ?_⟩⟩
    · exact (reader.edits_abandonCounts _ _).trans (edits_mode _ _)
    · exact proper_of_ordinary rfl
  · rename_i mode
    refine leads_ite.mpr ⟨fun _ => by simp [proper], fun _ => reader.leads_concludeEscape _ ?_⟩
    rintro digits rfl
    simp [Proper, mode, Mode.Proper] at proper
  · refine leads_ite.mpr ⟨fun _ => by simp [proper], fun _ => leads_ok.mpr ⟨?_, ?_⟩⟩
    · exact (Edit.openCapture reader _).edits
    · exact proper_of_ordinary rfl
  · simp [proper]

/-- The next token belongs to the escape that the reader is in the middle of, if any. -/
def GoesOn (reader : Reader) (token : Token) : Prop :=
  ∀ site pending, reader.mode = .escape site pending → pending.continues token = true

theorem goesOn_of_mode {reader : Reader} {token : Token}
    (free : ∀ site pending, reader.mode ≠ .escape site pending) : reader.GoesOn token := by
  intro site pending mode
  exact absurd mode (free site pending)

/-- The character of an escape ends it. -/
theorem goesOn_of_deliver {reader next : Reader} {site : Site} {code : Nat} {token : Token}
    (delivered : reader.deliver site code = .ok next) : next.GoesOn token := by
  unfold deliver acceptMember complain at delivered
  apply goesOn_of_mode
  split at delivered
  · cases delivered
    simp [pushCode, push]
  · split at delivered
    · split at delivered
      · split at delivered <;> cases delivered
        simp
      · cases delivered
    · cases delivered
      simp

theorem goesOn_of_concludeOctal {reader next : Reader} {site : Site} {digits : List Char}
    {token : Token} (concluded : reader.concludeOctal site digits = .ok next) :
    next.GoesOn token := by
  unfold concludeOctal complain at concluded
  dsimp only at concluded
  split at concluded
  · cases concluded
  · exact goesOn_of_deliver concluded

theorem goesOn_of_concludeEscape {reader next : Reader} {site : Site} {pending : Pending}
    {token : Token} (unreferred : ∀ digits, pending ≠ .reference digits)
    (concluded : reader.concludeEscape site pending = .ok next) : next.GoesOn token := by
  cases pending with
  | hexadecimal letter digits => exact goesOn_of_deliver (concludeHexadecimal_eq_ok.mp concluded).2.2
  | octal digits => exact goesOn_of_concludeOctal concluded
  | reference digits => exact absurd rfl (unreferred digits)
  | nameOpening => cases concluded
  | name text =>
    unfold concludeEscape complain at concluded
    dsimp only at concluded
    split at concluded <;> cases concluded

theorem goesOn_of_settle {reader next : Reader} {token : Token} (proper : reader.Proper)
    (settled : reader.settle (some token) = .ok next) : next.GoesOn token := by
  unfold settle at settled
  split at settled
  case h_3 site pending mode =>
    split at settled
    · cases settled
      intro otherSite otherPending same
      obtain ⟨-, rfl⟩ : site = otherSite ∧ pending = otherPending := by simpa [mode] using same
      assumption
    · refine goesOn_of_concludeEscape ?_ settled
      rintro digits rfl
      simp [Proper, mode, Mode.Proper] at proper
  case h_1 mode =>
    have items : reader.items ≠ [] := by simpa [Proper, mode, Mode.Proper] using proper
    split at settled <;> cases settled
    · simp [goesOn_of_mode, mode]
    · simp [goesOn_of_mode, mode_repeatLast items]
  case h_5 other _ _ free _ =>
    cases settled
    exact goesOn_of_mode free
  all_goals
    split at settled <;> cases settled <;> simp_all [goesOn_of_mode, openCapture, openGroup]

/-- Between two parts a bar may stand here. -/
theorem inLastBranch_of_vet {token : Token} (vetted : reader.vet token = .ok ())
    (ordinary : reader.mode = .ordinary) (bar : token = .plain '|') :
    reader.inLastBranch = false := by
  simpa [vet, ordinary, bar, complain] using vetted

theorem leads_takeOrdinary {token : Token} (ordinary : reader.mode = .ordinary)
    (unreferred : ∀ c, token = .escaped c → isReferenceDigit c = false)
    (allowed : token = .plain '|' → reader.inLastBranch = false) :
    Leads reader (reader.takeOrdinary token) := by
  unfold takeOrdinary
  split
  · exact reader.leads_beginEscape (unreferred _ rfl)
  · rename_i c
    refine leads_ite.mpr ⟨fun _ => by simp [proper_of_ordinary ordinary], fun _ => ?_⟩
    refine leads_ite.mpr ⟨fun comment => ?_, fun _ => reader.leads_takePlain ?_ ordinary⟩
    · simp only [Bool.and_eq_true] at comment
      exact leads_ok.mpr ⟨edits_mode _ _, comment.1⟩
    · rintro rfl
      exact allowed rfl

section

variable [Character.Names]

theorem leads_take {token : Token} (proper : reader.Proper) (goesOn : reader.GoesOn token)
    (unreferred : ∀ c, token = .escaped c → isReferenceDigit c = false)
    (allowed : reader.mode = .ordinary → token = .plain '|' → reader.inLastBranch = false) :
    Leads reader (reader.take token) := by
  have modeProper := proper
  unfold Proper at modeProper
  unfold take
  split
  case h_1 mode => exact reader.leads_takeOrdinary mode unreferred (allowed mode)
  case h_2 mode =>
    simp only [mode, Mode.Proper] at modeProper
    exact leads_ok.mpr ⟨(Edit.repeatLast _ _ _ _).edits,
      proper_of_ordinary (mode_repeatLast modeProper)⟩
  case h_5 site pending mode =>
    rw [mode] at modeProper
    exact reader.leads_continueEscape modeProper (goesOn site pending mode)
  case h_15 start on mode =>
    simp only [mode, Mode.Proper] at modeProper
    exact reader.leads_takeFlagOn start modeProper token
  case h_4 | h_14 => split <;> simp [proper, Mode.Proper]
  all_goals simp [Mode.Proper]

/-- The part of a step that follows when the reader is settled. -/
def proceed (settled : Reader) (token : Token) : Except Fault Reader := do
  settled.vet token
  { settled with position := settled.position + token.width }.take token

theorem step_eq (token : Token) :
    reader.step token = reader.settle (some token) >>= fun settled => settled.proceed token :=
  rfl

theorem leads_proceed {token : Token} (proper : reader.Proper) (goesOn : reader.GoesOn token)
    (unreferred : ∀ c, token = .escaped c → isReferenceDigit c = false) :
    Leads reader (reader.proceed token) := by
  refine .bind fun _ vetted next taken => ?_
  let moved : Reader := { reader with position := reader.position + token.width }
  obtain ⟨edits, properNext⟩ := moved.leads_take proper goesOn unreferred
    (reader.inLastBranch_of_vet vetted) next taken
  exact ⟨(Edit.become reader _ reader.mode).edits.trans edits, properNext⟩

theorem leads_step {token : Token} (proper : reader.Proper)
    (unreferred : ∀ c, token = .escaped c → isReferenceDigit c = false) :
    Leads reader (reader.step token) := by
  refine (reader.leads_settle _ proper).trans fun settled found properSettled => ?_
  exact settled.leads_proceed properSettled (goesOn_of_settle proper found) unreferred

/-- Reading tokens one after the other. -/
theorem leads_foldlM {tokens : List Token} (proper : reader.Proper)
    (unreferred : ∀ c, .escaped c ∈ tokens → isReferenceDigit c = false) :
    Leads reader (tokens.foldlM step reader) := by
  induction tokens generalizing reader with
  | nil => exact leads_ok.mpr ⟨reader.edits_refl, proper⟩
  | cons token rest ih =>
    rw [List.foldlM_cons]
    have first := reader.leads_step proper fun c same => unreferred c (same ▸ List.mem_cons_self)
    refine first.trans fun middle _ properMiddle => ih middle properMiddle ?_
    intro c member
    exact unreferred c (List.mem_cons_of_mem _ member)

end

end Reader

end RoutePattern.Regex
