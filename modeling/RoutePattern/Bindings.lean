/-! # Bindings

* `Value` — what a name can be bound to, and `Value.display`, the text it contributes to a path.
* `Bindings` — values by name, in the order in which the names were first bound. The names are
  distinct; binding a name again replaces its value and keeps its place.
-/

namespace RoutePattern

/-- A bound value. `absent` is bound when the group of a placeholder took no part in a match. -/
inductive Value where
  | text (content : String)
  | number (value : Int)
  | flag (value : Bool)
  | absent
  deriving DecidableEq, Repr

namespace Value

def display : Value → String
  | .text content => content
  | .number value => toString value
  | .flag true => "True"
  | .flag false => "False"
  | .absent => "None"

def ofCapture (capture : Option String) : Value :=
  (capture.map Value.text).getD .absent

end Value

/-- Replaces the value of a name, or adds the name at the end. -/
def upsert (name : String) (value : Value) : List (String × Value) → List (String × Value)
  | [] => [(name, value)]
  | entry :: rest =>
    if entry.1 = name then (name, value) :: rest else entry :: upsert name value rest

theorem mem_upsert_names {other name : String} {value : Value}
    {entries : List (String × Value)} :
    other ∈ (upsert name value entries).map Prod.fst ↔
      other = name ∨ other ∈ entries.map Prod.fst := by
  induction entries with
  | nil => simp [upsert]
  | cons entry rest ih =>
    by_cases same : entry.1 = name
    · simp only [upsert, List.map_cons, List.mem_cons, ← same]
      grind
    · simp only [upsert, if_neg same, List.map_cons, List.mem_cons, ih]
      grind

theorem nodup_upsert (name : String) (value : Value) {entries : List (String × Value)}
    (distinct : (entries.map Prod.fst).Nodup) :
    ((upsert name value entries).map Prod.fst).Nodup := by
  induction entries with
  | nil => simp [upsert]
  | cons entry rest ih =>
    obtain ⟨fresh, restDistinct⟩ := List.nodup_cons.mp distinct
    by_cases same : entry.1 = name
    · simp only [upsert, if_pos same, List.map_cons, List.nodup_cons]
      exact ⟨same ▸ fresh, restDistinct⟩
    · simp only [upsert, if_neg same, List.map_cons, List.nodup_cons, mem_upsert_names, not_or]
      exact ⟨⟨same, fresh⟩, ih restDistinct⟩

/-- Values by distinct names, in order of first binding. -/
structure Bindings where
  entries : List (String × Value)
  distinct : (entries.map Prod.fst).Nodup

namespace Bindings

def empty : Bindings :=
  { entries := [], distinct := by simp }

def insert (bindings : Bindings) (entry : String × Value) : Bindings :=
  { entries := upsert entry.1 entry.2 bindings.entries
    distinct := nodup_upsert entry.1 entry.2 bindings.distinct }

def ofList (entries : List (String × Value)) : Bindings :=
  entries.foldl insert empty

def names (bindings : Bindings) : List String :=
  bindings.entries.map Prod.fst

def get? (bindings : Bindings) (name : String) : Option Value :=
  bindings.entries.lookup name

end Bindings

end RoutePattern
