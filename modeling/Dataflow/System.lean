import Dataflow.Cache
import Dataflow.Deprecation
import Dataflow.Producer
import Dataflow.Naming

namespace Dataflow

structure Source where
  group : SourceGroup
  ticket : Ticket
  description : String
  deriving DecidableEq, Repr

structure Entry where
  ticket : Ticket
  description : String
  /-- ascending -/
  prerequisites : List Ticket
  initial : Value
  producer : Producer
  disabledByDefault : Bool := false

structure System where
  name : String
  typeName : String
  /-- name of the registry that decides on reports of deprecated ports -/
  registry : String
  parent : Option Nat := none
  sources : List Source := []
  inputs : List Port := []
  outputs : List OutputPort := []
  entries : List Entry := []
  nextTicket : Ticket := .firstAssignable

def insertAscending (t : Ticket) : List Ticket → List Ticket
  | [] => [t]
  | u :: rest =>
      if t < u then t :: u :: rest
      else if t = u then u :: rest
      else u :: insertAscending t rest

theorem mem_insertAscending {t u : Ticket} {tickets : List Ticket} :
    u ∈ insertAscending t tickets ↔ u = t ∨ u ∈ tickets := by
  induction tickets with
  | nil => simp [insertAscending]
  | cons v rest ih =>
      simp only [insertAscending]
      split
      · simp
      · split
        · rename_i same
          simp [same]
        · simp only [List.mem_cons, ih]
          exact or_left_comm

theorem pairwise_insertAscending (t : Ticket) {tickets : List Ticket}
    (h : tickets.Pairwise (· < ·)) : (insertAscending t tickets).Pairwise (· < ·) := by
  induction tickets with
  | nil => simp [insertAscending]
  | cons v rest ih =>
      have ⟨above, sorted⟩ := List.pairwise_cons.1 h
      simp only [insertAscending]
      split
      · rename_i less
        refine List.pairwise_cons.2 ⟨fun u mem => ?_, h⟩
        rcases List.mem_cons.1 mem with rfl | mem
        · exact less
        · exact Nat.lt_trans less (above u mem)
      · split
        · exact h
        · refine List.pairwise_cons.2 ⟨fun u mem => ?_, ih sorted⟩
          rcases mem_insertAscending.1 mem with rfl | mem
          · grind
          · exact above u mem

def ascending (tickets : List Ticket) : List Ticket := tickets.foldr insertAscending []

@[simp] theorem mem_ascending {t : Ticket} {tickets : List Ticket} :
    t ∈ ascending tickets ↔ t ∈ tickets := by
  induction tickets with
  | nil => simp [ascending]
  | cons u rest ih => exact mem_insertAscending.trans (by simp [← ih, ascending])

theorem pairwise_ascending (tickets : List Ticket) : (ascending tickets).Pairwise (· < ·) := by
  induction tickets with
  | nil => exact .nil
  | cons t rest ih => exact pairwise_insertAscending t ih

namespace System

def sourcesOf (s : System) (group : SourceGroup) : List Source :=
  s.sources.filter (·.group = group)

def displayName (s : System) : String := Naming.displayName s.name

/-- Whether an entry with ticket `own` may depend on `t`: built-in tickets, and those handed out
already except for its own and those of output ports. -/
def isKnownPrerequisite (s : System) (own t : Ticket) : Bool :=
  t ≠ own && (t.isBuiltIn || (t < s.nextTicket && s.outputs.all (·.ticket ≠ t)))

def addEntry (s : System) (pathname : String) (e : Entry) : Except Error System :=
  match e.prerequisites.find? (!s.isKnownPrerequisite e.ticket ·) with
  | some t => .error (.unknownPrerequisite e.description t pathname)
  | none =>
      if e.prerequisites = [] then .error (.noPrerequisites e.description pathname)
      else .ok { s with entries := s.entries ++ [e] }

def input (s : System) (func pathname : String) (index : Nat) : Except Error Port :=
  match s.inputs[index]? with
  | some port => .ok port
  | none => .error (.outOfRange .inputPort func index s.inputs.length pathname)

def output (s : System) (func pathname : String) (index : Nat) : Except Error OutputPort :=
  match s.outputs[index]? with
  | some port => .ok port
  | none => .error (.outOfRange .outputPort func index s.outputs.length pathname)

def entry (s : System) (func pathname : String) (index : Nat) : Except Error Entry :=
  match s.entries[index]? with
  | some entry => .ok entry
  | none => .error (.outOfRange .cacheEntry func index s.entries.length pathname)

def inputIndex (s : System) (func pathname : String) (raw : Int) : Except Error Nat :=
  if raw < 0 then .error (.negativePort func raw pathname)
  else (s.input func pathname raw.toNat).map fun _ => raw.toNat

def entryFor? (s : System) (t : Ticket) : Option Nat := s.entries.findIdx? (·.ticket = t)

def port? (s : System) (kind : PortKind) (index : Nat) : Option Port :=
  match kind with
  | .input => s.inputs[index]?
  | .output => s.outputs[index]?.map (·.toPort)

inductive Declaration where
  | source (s : Source)
  | input (index : Nat) (p : Port)
  | entry (index : Nat) (e : Entry)
  | output (index : Nat) (p : OutputPort)

def declarations (s : System) : List Declaration :=
  (SourceGroup.all.flatMap s.sourcesOf).map .source ++
  s.inputs.mapIdx .input ++ s.entries.mapIdx .entry ++ s.outputs.mapIdx .output

end System

abbrev Declare (α : Type) := Attempt System α

namespace Declare

def nextTicket : Declare Ticket := do
  let s ← get
  set { s with nextTicket := s.nextTicket.next }
  return s.nextTicket

def input (name : String) (type : PortType) : Declare Nat := do
  let ticket ← nextTicket
  modify fun s => { s with inputs := s.inputs ++ [{ name, ticket, type }] }
  return (← get).inputs.length - 1

def output (name : String) (type : PortType) (child : Option Nat) (dependency : Ticket) :
    Declare Nat := do
  let ticket ← nextTicket
  modify fun s => { s with outputs := s.outputs ++ [{ name, ticket, type, child, dependency }] }
  return (← get).outputs.length - 1

def source (group : SourceGroup) (description : String) : Declare Ticket := do
  let ticket ← nextTicket
  modify fun s => { s with sources := s.sources ++ [⟨group, ticket, description⟩] }
  return ticket

def entryFor (pathname : String) (ticket : Ticket) (description : String) (initial : Value)
    (producer : Producer) (prerequisites : List Ticket) : Declare Nat := do
  let e := { ticket, description, initial, producer, prerequisites := ascending prerequisites }
  Attempt.step fun s => s.addEntry pathname e
  return (← get).entries.length - 1

/-- Declares a cache entry for the next ticket, which is used up even if that fails. -/
def entry (pathname description : String) (initial : Value) (producer : Producer)
    (prerequisites : List Ticket) : Declare Nat := do
  let ticket ← nextTicket
  entryFor pathname ticket description initial producer prerequisites

/-- Contexts set up from now on start with caching disabled for the entry. -/
def disableByDefault (index : Nat) : Declare Unit :=
  modify fun s =>
    { s with entries := s.entries.modify index fun e => { e with disabledByDefault := true } }

def markDeprecated (pathname : String) (kind : PortKind) (index : Nat) (message : String) :
    Declare Unit :=
  Attempt.step fun s => do
    match kind with
    | .input =>
        let _ ← s.input "DeprecateInputPort" pathname index
        return { s with inputs := s.inputs.modify index (·.markDeprecated message) }
    | .output =>
        let _ ← s.output "DeprecateOutputPort" pathname index
        return { s with outputs := s.outputs.modify index fun p =>
          { p with toPort := p.toPort.markDeprecated message } }

end Declare

end Dataflow
