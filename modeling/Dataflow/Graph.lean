import Dataflow.Error
import Dataflow.Search

namespace Dataflow

structure Tracker where
  ticket : Ticket
  description : String
  prerequisites : List Ticket := []
  subscribers : List Ticket := []
  /-- when this tracker was last stamped, zero if it never was -/
  serial : Serial := 0
  entry : Option Nat := none
  deriving DecidableEq, Repr, Inhabited

def Tracker.isSource (t : Tracker) : Bool := t.prerequisites.isEmpty

/-- Trackers in the order of their creation, no two of one ticket, and the serial of the last
change. -/
structure Graph where
  trackers : List Tracker := []
  latest : Serial := 0
  deriving DecidableEq, Repr, Inhabited

namespace Graph

def tickets (g : Graph) : List Ticket := g.trackers.map (·.ticket)

def find? (g : Graph) (t : Ticket) : Option Tracker := g.trackers.find? (·.ticket = t)

def tracker (g : Graph) (t : Ticket) : Except Error Tracker :=
  match g.find? t with
  | some tracker => .ok tracker
  | none => .error (.unknownTracker t)

def modify (g : Graph) (t : Ticket) (f : Tracker → Tracker) : Graph :=
  { g with
    trackers := g.trackers.map fun tracker =>
      if tracker.ticket = t then f tracker else tracker }

theorem tickets_modify (g : Graph) (t : Ticket) {f : Tracker → Tracker}
    (keeps : ∀ tracker, (f tracker).ticket = tracker.ticket) :
    (g.modify t f).tickets = g.tickets := by
  simp only [tickets, modify, List.map_map]
  refine List.map_congr_left fun tracker _ => ?_
  by_cases h : tracker.ticket = t <;> simp [h, keeps]

theorem find?_eq_none_iff {g : Graph} {t : Ticket} : g.find? t = none ↔ t ∉ g.tickets := by
  simp [find?, tickets]

theorem ticket_of_find? {g : Graph} {t : Ticket} {tracker : Tracker} (h : g.find? t = some tracker) :
    tracker.ticket = t := by
  simpa using List.find?_some h

theorem tracker_eq_ok_iff {g : Graph} {t : Ticket} {found : Tracker} :
    g.tracker t = .ok found ↔ g.find? t = some found := by
  cases h : g.find? t <;> simp [tracker, h]

/-- How many places for trackers there can be. Each ticket has the place of its number in one block of
memory, which takes up less than `2 ^ 63` bytes; a place takes 104. -/
def room : Nat := (Nat.pow 2 63 - 1) / 104

def create (g : Graph) (t : Ticket) (description : String) : Except Error Graph :=
  match g.find? t with
  | some _ => .error (.duplicateTracker t description)
  | none =>
      if t < room then
        .ok { g with trackers := g.trackers ++ [⟨t, description, [], [], 0, none⟩] }
      else .error (.noRoom t)

def own (g : Graph) (t : Ticket) (entry : Nat) : Graph :=
  g.modify t fun tracker => { tracker with entry }

@[simp] theorem tickets_own (g : Graph) (t : Ticket) (entry : Nat) :
    (g.own t entry).tickets = g.tickets := tickets_modify g t fun _ => rfl

def link (g : Graph) (subscriber prerequisite : Ticket) : Graph :=
  let g := g.modify subscriber fun t => { t with prerequisites := t.prerequisites ++ [prerequisite] }
  g.modify prerequisite fun t => { t with subscribers := t.subscribers ++ [subscriber] }

theorem create_eq_ok_iff {g g' : Graph} {t : Ticket} {description : String} :
    g.create t description = .ok g' ↔ t ∉ g.tickets ∧ t < room ∧
      g' = { g with trackers := g.trackers ++ [⟨t, description, [], [], 0, none⟩] } := by
  rw [← find?_eq_none_iff]
  cases found : g.find? t with
  | some tracker => simp [create, found]
  | none => by_cases fits : t < room <;> simp [create, found, fits, eq_comm]

theorem create_eq_error_iff {g : Graph} {t : Ticket} {description : String} {e : Error} :
    g.create t description = .error e ↔ t ∈ g.tickets ∧ e = .duplicateTracker t description ∨
      t ∉ g.tickets ∧ room ≤ t ∧ e = .noRoom t := by
  rw [← Decidable.not_not (p := t ∈ g.tickets), ← find?_eq_none_iff]
  cases found : g.find? t with
  | some tracker => simp [create, found, eq_comm]
  | none =>
      by_cases fits : t < room
      · simp [create, found, fits, Nat.not_le.mpr fits]
      · simp [create, found, fits, Nat.not_lt.mp fits, eq_comm]

theorem tickets_create {g g' : Graph} {t : Ticket} {description : String}
    (h : g.create t description = .ok g') : g'.tickets = g.tickets ++ [t] := by
  obtain ⟨-, -, rfl⟩ := create_eq_ok_iff.mp h
  simp [tickets]

@[simp] theorem tickets_link (g : Graph) (subscriber prerequisite : Ticket) :
    (g.link subscriber prerequisite).tickets = g.tickets := by
  simp only [link]
  rw [tickets_modify, tickets_modify] <;> exact fun _ => rfl

def subscribe (g : Graph) (subscriber prerequisite : Ticket) : Except Error Graph := do
  let _ ← g.tracker prerequisite
  let tracker ← g.tracker subscriber
  if prerequisite ∈ tracker.prerequisites then return g
  return g.link subscriber prerequisite

def subscribersOf (g : Graph) (t : Ticket) : List Ticket :=
  match g.find? t with
  | some tracker => tracker.subscribers
  | none => []

def downstream (g : Graph) (t : Ticket) : List Ticket :=
  Search.breadthFirst g.subscribersOf g.tickets t

def stamp (g : Graph) (touched : List Ticket) : Graph :=
  { trackers := g.trackers.map fun tracker =>
      if tracker.ticket ∈ touched then { tracker with serial := g.latest + 1 } else tracker
    latest := g.latest + 1 }

@[simp] theorem tickets_stamp (g : Graph) (touched : List Ticket) :
    (g.stamp touched).tickets = g.tickets := by
  simp only [tickets, stamp, List.map_map]
  refine List.map_congr_left fun tracker _ => ?_
  by_cases h : tracker.ticket ∈ touched <;> simp [h]

@[simp] theorem latest_stamp (g : Graph) (touched : List Ticket) :
    (g.stamp touched).latest = g.latest + 1 := rfl

def noteChange (g : Graph) (t : Ticket) : Except Error (Graph × List Ticket) := do
  let _ ← g.tracker t
  let touched := g.downstream t
  return (g.stamp touched, touched)

end Graph

end Dataflow
