import RoutePattern.Proofs.Regex.Alongside

/-! # Reading a text behind another

Two readers that go alongside each other do so after the next token, too.

* `Follows` — if the first reader goes on, so does the second, and they stay alongside each other.
* `follows_beginEscape`, `follows_takeExtension`, … — one lemma for each way to read a token.
* `follows_step`, `follows_foldlM` — a step, and the tokens of a text.

There is one exception. Flags for the whole expression must come first, so behind other parts they
are refused.
-/

namespace RoutePattern.Regex

open Reader (Alongside)

/-! ## Results -/

/-- Where the one outcome is a reader that goes on to be modest, the other is a reader alongside it,
    unless flags for the whole expression have been turned on. -/
def Follows (base : Reader) (outcome otherOutcome : Except Fault Reader) : Prop :=
  ∀ next, outcome = .ok next → next.Modest →
    (∃ other, otherOutcome = .ok other ∧ Alongside base next other) ∨
      (next.globals ≠ {} ∧ ∃ fault, otherOutcome = .error fault)

section

variable {base : Reader}

theorem follows_error {fault : Fault} {otherOutcome : Except Fault Reader} :
    Follows base (.error fault) otherOutcome := by
  intro next found
  cases found

theorem follows_ok {next other : Reader} (along : Alongside base next other) :
    Follows base (.ok next) (.ok other) := by
  intro found same _
  cases same
  exact .inl ⟨other, rfl, along⟩

theorem follows_complain {reader : Reader} {complaint : Complaint} {back : Nat}
    {otherOutcome : Except Fault Reader} :
    Follows base (reader.complain complaint back) otherOutcome :=
  follows_error

theorem follows_complainAt {reader : Reader} {complaint : Complaint} {position : Nat}
    {otherOutcome : Except Fault Reader} :
    Follows base (reader.complainAt complaint position) otherOutcome :=
  follows_error

theorem follows_complainFlag {reader : Reader} {token : Token} {missing : Complaint}
    {otherOutcome : Except Fault Reader} :
    Follows base (reader.complainFlag token missing) otherOutcome :=
  follows_error

theorem follows_ite {condition : Prop} [Decidable condition]
    {first second otherFirst otherSecond : Except Fault Reader}
    (holds : condition → Follows base first otherFirst)
    (fails : ¬ condition → Follows base second otherSecond) :
    Follows base (if condition then first else second)
      (if condition then otherFirst else otherSecond) := by
  split
  · exact holds ‹condition›
  · exact fails ‹¬ condition›

/-- A check that the first reader passes is passed by the second. -/
theorem Follows.bind {α : Type} {check otherCheck : Except Fault α}
    {rest otherRest : α → Except Fault Reader}
    (passes : ∀ value, check = .ok value → otherCheck = .ok value)
    (follows : ∀ value, check = .ok value → Follows base (rest value) (otherRest value)) :
    Follows base (check >>= rest) (otherCheck >>= otherRest) := by
  cases checked : check with
  | error fault => exact follows_error
  | ok value =>
    rw [passes value checked]
    exact follows value checked

/-- One thing after another. What leads on from the first reader keeps the flags for the whole
    expression, if there are any. -/
theorem Follows.trans {first otherFirst : Except Fault Reader}
    {rest otherRest : Reader → Except Fault Reader} (follows : Follows base first otherFirst)
    (leads : ∀ middle, first = .ok middle → Leads middle (rest middle))
    (followsRest : ∀ middle otherMiddle, first = .ok middle →
      Alongside base middle otherMiddle → Follows base (rest middle) (otherRest otherMiddle)) :
    Follows base (first >>= rest) (otherFirst >>= otherRest) := by
  intro next reached modest
  cases found : first with
  | error fault =>
    rw [found] at reached
    cases reached
  | ok middle =>
    rw [found] at reached
    obtain ⟨edits, -⟩ := leads middle found next reached
    obtain ⟨otherMiddle, otherFound, along⟩ | ⟨loud, fault, failed⟩ :=
      follows middle found (edits.modest modest)
    · rw [otherFound]
      exact followsRest middle otherMiddle found along next reached modest
    · rw [failed]
      exact .inr ⟨fun silent => loud (edits.silent silent), fault, rfl⟩

end

namespace Reader.Alongside

variable {base reader other : Reader} (along : Alongside base reader other)

include along

theorem follows_mode {mode otherMode : Mode} (alike : mode.Alike otherMode) :
    Follows base (.ok { reader with mode := mode }) (.ok { other with mode := otherMode }) :=
  follows_ok (along.become alike reader.position other.position)

theorem follows_push {item : Expression} (bare : item.groups = []) :
    Follows base (.ok (reader.push item)) (.ok (other.push item)) :=
  follows_ok (along.push bare)

theorem follows_pushCode (code : Nat) :
    Follows base (.ok (reader.pushCode code)) (.ok (other.pushCode code)) :=
  follows_ok (along.pushCode code)

/-! ## Escapes and sets -/

theorem follows_acceptMember (draft : SetDraft) (start : Nat) (element : Member)
    (written : List Char) :
    Follows base (reader.acceptMember draft element written)
      (other.acceptMember { draft with start := start } element written) := by
  unfold acceptMember
  dsimp only
  split
  · split
    · refine follows_ite (fun _ => follows_complain) fun _ => ?_
      exact along.follows_mode (.bracket _ start)
    · exact follows_complain
  · exact along.follows_mode (.bracket _ start)

theorem follows_deliver {site otherSite : Site} (alike : site.Alike otherSite) (code : Nat) :
    Follows base (reader.deliver site code) (other.deliver otherSite code) := by
  cases alike with
  | sequence => exact along.follows_pushCode code
  | set draft start written => exact along.follows_acceptMember draft start _ written

theorem follows_await {site otherSite : Site} (alike : site.Alike otherSite) (pending : Pending) :
    Follows base (.ok (reader.await site pending)) (.ok (other.await otherSite pending)) :=
  along.follows_mode (.escape alike pending)

theorem follows_pushCategory (kind : Category) (complement : Bool) :
    Follows base (.ok (reader.pushCategory kind complement))
      (.ok (other.pushCategory kind complement)) := by
  unfold pushCategory
  rw [along.flags]
  exact along.follows_push rfl

theorem follows_beginEscape (c : Char) :
    Follows base (reader.beginEscape c) (other.beginEscape c) := by
  unfold beginEscape
  rw [along.flags]
  split
  · exact along.follows_pushCategory _ _
  · exact along.follows_pushCode _
  · refine follows_ite (fun _ => along.follows_push rfl) fun _ => ?_
    refine follows_ite (fun _ => along.follows_push rfl) fun _ => ?_
    refine follows_ite (fun _ => along.follows_push rfl) fun _ => ?_
    refine follows_ite (fun _ => along.follows_push rfl) fun _ => ?_
    refine follows_ite (fun _ => along.follows_await .sequence _) fun _ => ?_
    refine follows_ite (fun _ => along.follows_await .sequence _) fun _ => ?_
    refine follows_ite (fun _ => along.follows_await .sequence _) fun _ => ?_
    refine follows_ite (fun _ => along.follows_await .sequence _) fun _ => ?_
    exact follows_ite (fun _ => follows_complain) fun _ => along.follows_pushCode _

theorem follows_beginSetEscape (draft : SetDraft) (start : Nat) (c : Char) :
    Follows base (reader.beginSetEscape draft c)
      (other.beginSetEscape { draft with start := start } c) := by
  unfold beginSetEscape
  rw [along.flags]
  dsimp only
  split
  · exact along.follows_acceptMember draft start _ _
  · exact along.follows_acceptMember draft start _ _
  · refine follows_ite (fun _ => along.follows_acceptMember draft start _ _) fun _ => ?_
    refine follows_ite (fun _ => along.follows_await (.set draft start _) _) fun _ => ?_
    refine follows_ite (fun _ => along.follows_await (.set draft start _) _) fun _ => ?_
    refine follows_ite (fun _ => along.follows_await (.set draft start _) _) fun _ => ?_
    refine follows_ite (fun _ => follows_complain) fun _ => ?_
    exact along.follows_acceptMember draft start _ _

theorem follows_continueEscape [Character.Names] {site otherSite : Site}
    (alike : site.Alike otherSite) (pending : Pending) (token : Token) :
    Follows base (reader.continueEscape site pending token)
      (other.continueEscape otherSite pending token) := by
  unfold continueEscape
  split
  · exact along.follows_await alike _
  · exact along.follows_await alike _
  · exact along.follows_await alike _
  · exact along.follows_await alike _
  · rename_i text
    refine follows_ite (fun _ => ?_) fun _ => along.follows_await alike _
    refine follows_ite (fun _ => follows_complain) fun _ => ?_
    cases Character.Names.find? text with
    | none => exact follows_complain
    | some c => exact along.follows_deliver alike c.toNat

theorem follows_concludeOctal {site otherSite : Site} (alike : site.Alike otherSite)
    (digits : List Char) :
    Follows base (reader.concludeOctal site digits) (other.concludeOctal otherSite digits) :=
  follows_ite (fun _ => follows_complain) fun _ => along.follows_deliver alike _

theorem follows_concludeEscape {site otherSite : Site} (alike : site.Alike otherSite)
    {pending : Pending} (unreferred : ∀ digits, pending ≠ .reference digits) :
    Follows base (reader.concludeEscape site pending)
      (other.concludeEscape otherSite pending) := by
  unfold concludeEscape
  split
  · refine follows_ite (fun _ => follows_complain) fun _ => ?_
    refine follows_ite (fun _ => follows_error) fun _ => ?_
    exact follows_ite (fun _ => follows_complain) fun _ => along.follows_deliver alike _
  · exact along.follows_concludeOctal alike _
  · exact absurd rfl (unreferred _)
  · exact follows_complain
  · exact follows_ite (fun _ => follows_complain) fun _ => follows_complain

theorem follows_closeBracket (draft : SetDraft) (start : Nat) :
    Follows base (.ok (reader.closeBracket draft))
      (.ok (other.closeBracket { draft with start := start })) := by
  unfold closeBracket
  rw [along.flags]
  exact along.follows_push rfl

theorem follows_beginMember (draft : SetDraft) (start : Nat) (token : Token) :
    Follows base (reader.beginMember draft token)
      (other.beginMember { draft with start := start } token) := by
  cases token with
  | escaped c => exact along.follows_beginSetEscape draft start c
  | plain c => exact along.follows_acceptMember draft start _ _

theorem follows_takeMember (draft : SetDraft) (start : Nat) (token : Token) :
    Follows base (reader.takeMember draft token)
      (other.takeMember { draft with start := start } token) :=
  follows_ite (fun _ => along.follows_closeBracket draft start)
    fun _ => along.follows_beginMember { draft with phase := .member } start token

theorem follows_takeInBracket (draft : SetDraft) (start : Nat) (token : Token) :
    Follows base (reader.takeInBracket draft token)
      (other.takeInBracket { draft with start := start } token) := by
  unfold takeInBracket
  dsimp only
  split
  · refine follows_ite (fun _ => along.follows_mode ?_) fun _ => ?_
    · exact .bracket { draft with complement := true, phase := .member } start
    · exact along.follows_takeMember draft start token
  · exact along.follows_takeMember draft start token
  · refine follows_ite (fun _ => along.follows_mode ?_) fun _ => ?_
    · exact .bracket { draft with phase := .rangeEnd _ _ } start
    · exact along.follows_takeMember (draft.add _) start token
  · refine follows_ite (fun _ => ?_) fun _ => along.follows_beginMember draft start token
    exact along.follows_closeBracket ((draft.add _).add (.code 0x2d)) start

/-! ## Repetition -/

/-- A part can be repeated, or it cannot, whatever the numbers of its groups are. -/
theorem follows_quantify (start otherStart least : Nat) (most : Option Nat) :
    Follows base (reader.quantify start least most) (other.quantify otherStart least most) := by
  have quantified := along.follows_mode (.quantified least most)
  unfold quantify
  cases items : reader.items with
  | nil => exact follows_complainAt
  | cons item rest =>
    have stack := along.stack
    rw [items] at stack
    obtain ⟨others, otherItems, -⟩ := stack.tail
    simp only [items, otherItems] at quantified ⊢
    cases item <;> first | exact follows_complainAt | exact quantified

theorem follows_takeCount (start otherStart : Nat) (low : List Char) (high : Option (List Char))
    (token : Token) :
    Follows base (reader.takeCount start low high token)
      (other.takeCount otherStart low high token) := by
  unfold takeCount applyCounts
  refine follows_ite (fun _ => ?_) fun _ => ?_
  · refine follows_ite (fun _ => follows_error) fun _ => ?_
    refine follows_ite (fun _ => follows_complainAt) fun _ => ?_
    exact along.follows_quantify start otherStart _ _
  · split
    · exact follows_ite (fun _ => along.follows_mode (.counts start otherStart _ _))
        fun _ => along.follows_mode (.counts start otherStart _ _)
    · exact along.follows_mode (.counts start otherStart _ _)

theorem abandonCounts (low : List Char) (high : Option (List Char)) :
    Alongside base (reader.abandonCounts low high) (other.abandonCounts low high) := by
  unfold Reader.abandonCounts
  generalize '{' :: low ++ (high.map (',' :: ·)).getD [] = written
  dsimp only
  induction written generalizing reader other with
  | nil => exact along
  | cons c rest ih => exact ih (along.pushCode c.toNat)

/-! ## Heads of groups -/

theorem follows_openGroup {kind : GroupKind} (bare : kind.captures = []) {flags otherFlags : Flags}
    (same : otherFlags = flags) (start otherStart : Nat) :
    Follows base (.ok (reader.openGroup kind start flags))
      (.ok (other.openGroup kind otherStart otherFlags)) := by
  subst same
  have unnumbered : kind.renumber base.groups.length = kind ∧ kind ≠ .capture 0 := by
    cases kind with
    | capture number => cases bare
    | enclosed | atomic | look _ _ | conditional _ => exact ⟨rfl, nofun⟩
  have opened := along.openGroup kind unnumbered.2 start otherStart otherFlags
  rw [unnumbered.1] at opened
  exact follows_ok opened

omit along in
/-- A modest reader has opened no group with a name. -/
theorem follows_openNamed (start : Nat) (name : List Char) (otherOutcome : Except Fault Reader) :
    Follows base (reader.openNamed start name) otherOutcome := by
  intro next found modest
  unfold openNamed complain at found
  dsimp only at found
  split at found <;> cases found
  exact absurd modest.names (by simp)

omit along in
theorem checkName_of_ok {name : List Char} {value : Unit}
    (checked : reader.checkName name = .ok value) : other.checkName name = .ok value := by
  unfold checkName complain at checked ⊢
  split at checked
  · cases checked
  · split at checked
    · simp_all
    · cases checked

theorem follows_takeGroupName (start otherStart : Nat) (text : List Char) (token : Token) :
    Follows base (reader.takeGroupName start text token)
      (other.takeGroupName otherStart text token) := by
  unfold takeGroupName
  refine follows_ite (fun _ => ?_) fun _ => along.follows_mode (.groupName start otherStart _)
  exact .bind (fun _ => checkName_of_ok) fun _ _ => follows_openNamed start text _

theorem number?_eq_none (name : List Char) : reader.number? name = none := by
  simp [number?, along.names.1]

/-- Without names there is nothing to refer to by name. -/
theorem follows_takeReferenceName (text : List Char) (token : Token) :
    Follows base (reader.takeReferenceName text token) (other.takeReferenceName text token) := by
  unfold takeReferenceName
  refine follows_ite (fun _ => ?_) fun _ => along.follows_mode (.referenceName _)
  simp only [along.number?_eq_none]
  exact .bind (fun _ => checkName_of_ok) fun _ _ => follows_complain

theorem follows_takeNaming (start otherStart : Nat) (token : Token) :
    Follows base (reader.takeNaming start token) (other.takeNaming otherStart token) := by
  refine follows_ite (fun _ => along.follows_mode (.groupName start otherStart _)) fun _ => ?_
  exact follows_ite (fun _ => along.follows_mode (.referenceName _)) fun _ => follows_complain

theorem follows_takeBehind (start otherStart : Nat) (token : Token) :
    Follows base (reader.takeBehind start token) (other.takeBehind otherStart token) := by
  refine follows_ite (fun _ => follows_ok (along.openBehind false start otherStart)) fun _ => ?_
  refine follows_ite (fun _ => follows_ok (along.openBehind true start otherStart)) fun _ => ?_
  exact follows_complain

/-- The number that a condition asks for does not depend on the groups before it. -/
theorem conditionNumber_of_ok {text : List Char} {asked : Nat × Bool}
    (found : reader.conditionNumber text = .ok asked) :
    other.conditionNumber text = .ok asked := by
  unfold conditionNumber complain at found ⊢
  dsimp only at found ⊢
  split at found
  · simp only [along.number?_eq_none] at found
    cases found
  · rename_i unnamed
    rw [if_neg unnamed]
    split at found
    · split at found
      · cases found
      · split at found <;> simp_all
    · cases found

/-- A condition asks for a group that may be asked for behind `base`, too. -/
theorem follows_conditional (closed : ∀ width ∈ base.groups, width.isSome = true)
    (number start otherStart : Nat) :
    Follows base
      (reader.checkBehind number >>= fun _ =>
        .ok (reader.openGroup (.conditional number) start reader.flags))
      (other.checkBehind number >>= fun _ =>
        .ok (other.openGroup (.conditional number) otherStart other.flags)) := by
  intro next found modest
  cases checked : reader.checkBehind number with
  | error fault =>
    rw [checked] at found
    cases found
  | ok value =>
    rw [checked] at found
    have few : reader.groups.length ≤ 1 := by
      cases found
      exact modest.groups
    rw [along.checkBehind few closed checked]
    exact along.follows_openGroup rfl along.flags start otherStart next found modest

theorem follows_takeCondition (closed : ∀ width ∈ base.groups, width.isSome = true)
    (start otherStart : Nat) (text : List Char) (token : Token) :
    Follows base (reader.takeCondition start text token)
      (other.takeCondition otherStart text token) := by
  unfold takeCondition
  refine follows_ite (fun _ => ?_) fun _ => along.follows_mode (.condition start otherStart _)
  refine follows_ite (fun _ => follows_complain) fun _ => ?_
  refine .bind (fun _ => along.conditionNumber_of_ok) fun asked _ => ?_
  obtain ⟨number, byNumber⟩ := asked
  cases byNumber with
  | true => exact (along.noteCondition _ _ _).follows_conditional closed number start otherStart
  | false => exact along.follows_conditional closed number start otherStart

theorem follows_turnOn (start otherStart : Nat) (on : FlagSet) (letter : Char) :
    Follows base (reader.turnOn start on letter) (other.turnOn otherStart on letter) := by
  refine follows_ite (fun _ => follows_complain) fun _ => ?_
  refine follows_ite (fun _ => follows_complain) fun _ => ?_
  exact along.follows_mode (.flagsOn start otherStart _)

theorem follows_turnOff (start otherStart : Nat) (on off : FlagSet) (letter : Char) :
    Follows base (reader.turnOff start on off letter) (other.turnOff otherStart on off letter) := by
  refine follows_ite (fun _ => follows_complain) fun _ => ?_
  exact along.follows_mode (.flagsOff start otherStart _ _)

/-- Behind other parts, flags for the whole expression are refused. -/
theorem follows_applyGlobals (items : base.items ≠ []) (start otherStart : Nat) {on : FlagSet}
    (some : on ≠ {}) :
    Follows base (reader.applyGlobals start on) (other.applyGlobals otherStart on) := by
  intro next found _
  unfold applyGlobals complainAt at found ⊢
  split at found <;> cases found
  rename_i atStart _
  simp only [Bool.and_eq_true, List.isEmpty_iff] at atStart
  refine .inr ⟨fun silent => some (FlagSet.union_eq_empty silent).2, ?_⟩
  have late : other.items ≠ [] := by
    rw [along.stack.start atStart.1.1 atStart.1.2 atStart.2]
    exact items
  simp [late]

theorem follows_takeFlagOn (items : base.items ≠ []) (start otherStart : Nat) {on : FlagSet}
    (some : on ≠ {}) (token : Token) :
    Follows base (reader.takeFlagOn start on token) (other.takeFlagOn otherStart on token) := by
  unfold takeFlagOn
  refine follows_ite (fun _ => along.follows_applyGlobals items _ _ some) fun _ => ?_
  refine follows_ite (fun _ => ?_) fun _ => ?_
  · refine follows_ite (fun _ => follows_complain) fun _ => ?_
    refine follows_ite (fun _ => along.follows_mode (.flagsOff start otherStart _ _)) fun _ => ?_
    exact along.follows_openGroup rfl (by rw [along.flags]) _ _
  · split
    · exact along.follows_turnOn _ _ _ _
    · exact follows_complainFlag

theorem follows_takeFlagOff (start otherStart : Nat) (on : FlagSet) (off : Option FlagSet)
    (token : Token) :
    Follows base (reader.takeFlagOff start on off token)
      (other.takeFlagOff otherStart on off token) := by
  unfold takeFlagOff
  split
  · split
    · exact along.follows_turnOff _ _ _ _ _
    · exact follows_complainFlag
  · refine follows_ite (fun _ => ?_) fun _ => ?_
    · refine follows_ite (fun _ => follows_complain) fun _ => ?_
      refine follows_ite (fun _ => follows_complain) fun _ => ?_
      exact along.follows_openGroup rfl (by rw [along.flags]) _ _
    · split
      · exact along.follows_turnOff _ _ _ _ _
      · exact follows_complainFlag

theorem follows_takeExtension (start otherStart : Nat) (token : Token) :
    Follows base (reader.takeExtension start token) (other.takeExtension otherStart token) := by
  unfold takeExtension
  split
  · exact along.follows_mode (.naming start otherStart)
  · exact along.follows_openGroup rfl along.flags _ _
  · exact along.follows_mode (.comment start otherStart)
  · exact along.follows_openGroup rfl along.flags _ _
  · exact along.follows_openGroup rfl along.flags _ _
  · exact along.follows_mode (.behind start otherStart)
  · exact along.follows_mode (.condition start otherStart _)
  · exact along.follows_openGroup rfl along.flags _ _
  · exact along.follows_mode (.flagsOff start otherStart _ _)
  · split
    · exact along.follows_turnOn _ _ _ _
    · exact follows_complain

/-! ## Steps -/

theorem follows_takePlain (c : Char) :
    Follows base (reader.takePlain c) (other.takePlain c) := by
  unfold takePlain
  split
  · rw [along.flags]
    exact along.follows_push rfl
  · exact along.follows_mode (.bracket _ _)
  · exact along.follows_mode (.parenthesis _ _)
  · exact follows_ok along.closeGroup
  · exact follows_ok along.nextBranch
  · rw [along.flags]
    exact along.follows_push rfl
  · rw [along.flags]
    exact along.follows_push rfl
  · exact along.follows_quantify _ _ _ _
  · exact along.follows_quantify _ _ _ _
  · exact along.follows_quantify _ _ _ _
  · exact along.follows_mode (.counts _ _ _ _)
  · exact along.follows_pushCode _

theorem follows_takeOrdinary (token : Token) :
    Follows base (reader.takeOrdinary token) (other.takeOrdinary token) := by
  unfold takeOrdinary
  cases token with
  | escaped c => exact along.follows_beginEscape c
  | plain c =>
    dsimp only
    rw [along.flags]
    refine follows_ite (fun _ => follows_ok along) fun _ => ?_
    refine follows_ite (fun _ => ?_) fun _ => along.follows_takePlain c
    have comment := along.follows_mode .lineComment
    rwa [along.flags] at comment

theorem follows_settle (proper : reader.Proper) (next : Option Token) :
    Follows base (reader.settle next) (other.settle next) := by
  have same := along.mode
  have modeProper := proper
  unfold Proper at modeProper
  unfold settle
  generalize reader.mode = mode, other.mode = otherMode at same modeProper
  cases same with
  | quantified least most =>
    refine follows_ite (fun _ => follows_ok along) fun _ => ?_
    exact follows_ok (along.repeatLast modeProper .greedy least most)
  | counts start otherStart low high =>
    refine follows_ite (fun _ => follows_ok along) fun _ => ?_
    exact (along.abandonCounts low high).follows_mode .ordinary
  | escape alike pending =>
    refine follows_ite (fun _ => follows_ok along) fun _ => ?_
    refine along.follows_concludeEscape alike ?_
    rintro digits rfl
    exact absurd modeProper (by simp [Mode.Proper])
  | parenthesis start otherStart =>
    refine follows_ite (fun _ => follows_ok along) fun _ => ?_
    exact follows_ok (along.openCapture start otherStart)
  | _ => exact follows_ok along

theorem vet_of_ok {token : Token} {value : Unit} (vetted : reader.vet token = .ok value) :
    other.vet token = .ok value := by
  have same := along.mode
  unfold vet complain at vetted ⊢
  rw [along.isEmpty_frames, along.inLastBranch]
  generalize reader.mode = mode, other.mode = otherMode at same vetted
  cases same with
  | ordinary =>
    dsimp only at vetted ⊢
    split at vetted
    · split at vetted <;> cases vetted
    · rw [if_neg ‹_›]
      split at vetted
      · cases vetted
      · rw [if_neg ‹_›]
  | _ => exact vetted

/-- A comment ends, or it does not. -/
theorem follows_comment (ends : Prop) [Decidable ends] :
    Follows base (.ok (if ends then { reader with mode := .ordinary } else reader))
      (.ok (if ends then { other with mode := .ordinary } else other)) := by
  split
  · exact along.follows_mode .ordinary
  · exact follows_ok along

section

variable [Character.Names]

theorem follows_take (closed : ∀ width ∈ base.groups, width.isSome = true)
    (items : base.items ≠ []) (proper : reader.Proper) (token : Token) :
    Follows base (reader.take token) (other.take token) := by
  have same := along.mode
  have modeProper := proper
  unfold Proper at modeProper
  unfold take
  generalize reader.mode = mode, other.mode = otherMode at same modeProper
  cases same with
  | ordinary => exact along.follows_takeOrdinary token
  | quantified least most => exact follows_ok (along.repeatLast modeProper _ least most)
  | counts start otherStart low high => exact along.follows_takeCount _ _ low high token
  | lineComment => exact along.follows_comment _
  | escape alike pending => exact along.follows_continueEscape alike pending token
  | bracket draft start => exact along.follows_takeInBracket draft start token
  | parenthesis start otherStart => exact along.follows_mode (.extension start otherStart)
  | extension start otherStart => exact along.follows_takeExtension start otherStart token
  | naming start otherStart => exact along.follows_takeNaming start otherStart token
  | groupName start otherStart text => exact along.follows_takeGroupName start otherStart text token
  | referenceName text => exact along.follows_takeReferenceName text token
  | behind start otherStart => exact along.follows_takeBehind start otherStart token
  | condition start otherStart text =>
    exact along.follows_takeCondition closed start otherStart text token
  | comment start otherStart => exact along.follows_comment _
  | flagsOn start otherStart on =>
    exact along.follows_takeFlagOn items start otherStart modeProper token
  | flagsOff start otherStart on off =>
    exact along.follows_takeFlagOff start otherStart on off token

/-- What the first reader does with a token, the second does as well. -/
theorem follows_step (closed : ∀ width ∈ base.groups, width.isSome = true)
    (items : base.items ≠ []) (proper : reader.Proper) (token : Token)
    (unreferred : ∀ c, token = .escaped c → isReferenceDigit c = false) :
    Follows base (reader.step token) (other.step token) := by
  refine (along.follows_settle proper (some token)).trans ?_ ?_
  · intro settled found
    exact settled.leads_proceed (reader.leads_settle _ proper settled found).2
      (goesOn_of_settle proper found) unreferred
  · intro settled otherSettled found alongSettled
    have properSettled := (reader.leads_settle _ proper settled found).2
    have moved := alongSettled.become alongSettled.mode (settled.position + token.width)
      (otherSettled.position + token.width)
    exact .bind (fun _ => alongSettled.vet_of_ok) fun _ _ =>
      moved.follows_take closed items properSettled token

/-- What the first reader does with the tokens of a text, the second does as well. -/
theorem follows_foldlM (closed : ∀ width ∈ base.groups, width.isSome = true)
    (items : base.items ≠ []) (proper : reader.Proper) {tokens : List Token}
    (unreferred : ∀ c, .escaped c ∈ tokens → isReferenceDigit c = false) :
    Follows base (tokens.foldlM step reader) (tokens.foldlM step other) := by
  induction tokens generalizing reader other with
  | nil => exact follows_ok along
  | cons token rest ih =>
    have first : ∀ c, token = .escaped c → isReferenceDigit c = false :=
      fun c same => unreferred c (same ▸ List.mem_cons_self)
    have others : ∀ c, .escaped c ∈ rest → isReferenceDigit c = false :=
      fun c member => unreferred c (List.mem_cons_of_mem _ member)
    rw [List.foldlM_cons, List.foldlM_cons]
    refine (along.follows_step closed items proper token first).trans ?_ ?_
    · intro middle found
      exact middle.leads_foldlM (reader.leads_step proper first middle found).2 others
    · intro middle otherMiddle found alongMiddle
      exact ih alongMiddle (reader.leads_step proper first middle found).2 others

end

end Reader.Alongside

end RoutePattern.Regex
