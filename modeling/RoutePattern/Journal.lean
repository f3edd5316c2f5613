import RoutePattern.Failure

/-! # Journal records

Operations note what they do. A computation that keeps such notes and can fail is a value of
`Traced`: the records, and then either a result or a failure. Records made before a failure are
kept.

* `Origin`, `Record` — a note and the part of the library that made it.
* `Traced` — with `Traced.note`, `Traced.fail` and the monad operations.
-/

namespace RoutePattern

inductive Origin where
  | compiler
  | mapper
  | table
  deriving DecidableEq, Repr

def Origin.name : Origin → String
  | .compiler => "pathmapper.compiler"
  | .mapper => "pathmapper.mapper"
  | .table => "pathmapper.table"

structure Record where
  origin : Origin
  message : String
  deriving DecidableEq, Repr

def Record.level (_ : Record) : String := "DEBUG"

/-- The records of a computation and how it ended. -/
structure Traced (α : Type) where
  records : List Record
  outcome : Except Failure α

namespace Traced

def pure {α : Type} (value : α) : Traced α :=
  { records := [], outcome := .ok value }

def fail {α : Type} (failure : Failure) : Traced α :=
  { records := [], outcome := .error failure }

def note (origin : Origin) (message : String) : Traced Unit :=
  { records := [{ origin := origin, message := message }], outcome := .ok () }

def bind {α β : Type} (first : Traced α) (next : α → Traced β) : Traced β :=
  match first.outcome with
  | .error failure => { records := first.records, outcome := .error failure }
  | .ok value =>
    { records := first.records ++ (next value).records, outcome := (next value).outcome }

instance : Monad Traced where
  pure := pure
  bind := bind

def ofExcept {α : Type} (outcome : Except Failure α) : Traced α :=
  { records := [], outcome := outcome }

variable {α β : Type}

@[simp] theorem outcome_pure (value : α) : (pure value).outcome = .ok value := rfl

@[simp] theorem outcome_fail (failure : Failure) :
    (fail failure : Traced α).outcome = .error failure := rfl

@[simp] theorem outcome_note (origin : Origin) (message : String) :
    (note origin message).outcome = .ok () := rfl

@[simp] theorem outcome_bind (first : Traced α) (next : α → Traced β) :
    (first >>= next).outcome = first.outcome.bind fun value => (next value).outcome := by
  change (bind first next).outcome = _
  unfold bind
  cases first.outcome <;> rfl

@[simp] theorem pure_bind (value : α) (next : α → Traced β) : (pure value >>= next) = next value :=
  rfl

theorem outcome_bind_eq_ok {first : Traced α} {next : α → Traced β} {result : β} :
    (first >>= next).outcome = .ok result ↔
      ∃ value, first.outcome = .ok value ∧ (next value).outcome = .ok result := by
  rw [outcome_bind]
  cases first.outcome <;> simp [Except.bind]

end Traced

end RoutePattern
