import Dataflow.Graph
import Dataflow.Metrics
import Dataflow.Value

namespace Dataflow

structure Slot where
  index : Nat
  ticket : Ticket
  description : String
  /-- empty before the first value is put in, and while the producer runs -/
  value : Option Value := none
  /-- the serial for which the value is right, if it is right for any -/
  computedAt : Option Serial := none
  disabled : Bool := false
  metrics : Metrics := {}
  deriving Repr, Inhabited

namespace Slot

def isOutOfDate (s : Slot) (current : Serial) : Bool := s.computedAt ≠ some current

def fresh? (s : Slot) (current : Serial) : Option Value :=
  if s.disabled || s.isOutOfDate current then none else s.value

theorem fresh?_eq_some_iff {s : Slot} {current : Serial} {v : Value} :
    s.fresh? current = some v ↔
      s.disabled = false ∧ s.computedAt = some current ∧ s.value = some v := by
  cases h : s.disabled <;> by_cases at_ : s.computedAt = some current <;>
    simp [fresh?, isOutOfDate, h, at_]

def markOutOfDate (s : Slot) : Slot := { s with computedAt := none }

def seed (s : Slot) (v : Value) : Slot := { s with value := some v, computedAt := none }

def emptied (s : Slot) : Slot := { s with value := none, computedAt := none }

def restored (s : Slot) (v : Value) (computedAt : Option Serial) : Slot :=
  { s with value := some v, computedAt }

@[simp] theorem fresh?_emptied (s : Slot) (current : Serial) : s.emptied.fresh? current = none := by
  simp [fresh?, emptied]

@[simp] theorem fresh?_seed (s : Slot) (v : Value) (current : Serial) :
    (s.seed v).fresh? current = none := by
  simp [fresh?, seed, isOutOfDate]

def recordHit (s : Slot) : Slot := { s with metrics := s.metrics.recordHit }

/-- Counts a run of the producer. Evaluation reads no clock and records no time. -/
def recordComputation (s : Slot) : Slot := { s with metrics := s.metrics.recordComputation 0 }

def disable (s : Slot) : Slot := { s with disabled := true }

def enable (s : Slot) : Slot := { s with disabled := false }

end Slot

abbrev Cache := List Slot

namespace Cache

def onSlots (c : Cache) (index : Option Nat) (f : Slot → Slot) : Cache :=
  match index with
  | some index => c.modify index f
  | none => c.map f

def disable (c : Cache) : Cache := c.map Slot.disable

def enable (c : Cache) : Cache := c.map Slot.enable

def markOutOfDate (c : Cache) : Cache := c.map Slot.markOutOfDate

end Cache

structure Store where
  graph : Graph := {}
  cache : Cache := []
  deriving Repr, Inhabited

/-- A computation on `σ` that may fail; what it did before it failed stays done. -/
abbrev Attempt (σ α : Type) := EStateM Error σ α

def stateAfter {ε σ α : Type} (f : EStateM ε σ α) (s : σ) : σ :=
  match f s with
  | .ok _ s => s
  | .error _ s => s

def Attempt.step {σ : Type} (f : σ → Except Error σ) : Attempt σ Unit := fun s =>
  match f s with
  | .ok s' => .ok () s'
  | .error e => .error e s

namespace Store

def onGraph (f : Graph → Except Error Graph) : Attempt Store Unit :=
  Attempt.step fun s => return { s with graph := ← f s.graph }

def create (t : Ticket) (description : String) : Attempt Store Unit :=
  onGraph (·.create t description)

def subscribe (subscriber prerequisite : Ticket) : Attempt Store Unit :=
  onGraph (·.subscribe subscriber prerequisite)

def furnish (index : Nat) (t : Ticket) (description : String) (prerequisites : List Ticket) :
    Attempt Store Unit := do
  modify fun s => { s with graph := s.graph.own t index }
  prerequisites.forM (subscribe t)
  modify fun s => { s with cache := s.cache ++ [{ index, ticket := t, description }] }

def addEntry (index : Nat) (t : Ticket) (description : String) (prerequisites : List Ticket) :
    Attempt Store Unit := do
  let s ← get
  if index ≠ s.cache.length then throw (.entryOutOfOrder s.cache.length index)
  else
    create t description
    furnish index t description prerequisites

end Store

end Dataflow
