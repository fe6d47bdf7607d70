import Dataflow.Assembly
import Dataflow.Evaluation

/-!
Sessions: systems and diagrams on one side, a tree of contexts on the other, changed by one action
after the other. An action that fails leaves what it has done before it failed.
-/

namespace Dataflow

inductive Clause where
  | takeTicket
  | input (name : String) (type : PortType)
  | output (name : String) (type : PortType) (child : Option Nat) (dependency : Ticket)
  | source (group : SourceGroup) (description : String)
  | entry (description : String) (initial : Value) (producer : Producer)
      (prerequisites : List Ticket)
  | entryFor (ticket : Ticket) (description : String) (initial : Value) (producer : Producer)
      (prerequisites : List Ticket)
  | disableByDefault (index : Nat)
  | markDeprecated (kind : PortKind) (index : Nat) (message : String)

def Clause.declare (pathname : String) : Clause → Declare Unit
  | takeTicket => discard Declare.nextTicket
  | input name type => discard (Declare.input name type)
  | output name type child dependency => discard (Declare.output name type child dependency)
  | source group description => discard (Declare.source group description)
  | entry description initial producer prerequisites =>
      discard (Declare.entry pathname description initial producer prerequisites)
  | entryFor ticket description initial producer prerequisites =>
      discard (Declare.entryFor pathname ticket description initial producer prerequisites)
  | disableByDefault index => Declare.disableByDefault index
  | markDeprecated kind index message => Declare.markDeprecated pathname kind index message

inductive Action where
  | addSystem (name typeName registry : String)
  | declare (id : SystemId) (clause : Clause)
  | addDiagram (d : Diagram)
  | removeDiagram (number : Nat)
  | setParent (id : SystemId) (diagram : Nat)
  | warn (id : SystemId) (kind : PortKind) (index : Nat)
  | setCell (name : String) (x : Float)
  | addContext (parent : Option ContextId)
  | setUp (id : SystemId) (c : ContextId)
  | createContext (id : SystemId) (parent : Option ContextId)
  | noteChange (l : Location)
  | fixInput (c : ContextId) (port : Nat) (v : Value)
  | clearInput (c : ContextId) (port : Nat)
  | subscribe (subscriber prerequisite : Location)
  | linkPorts (kind : LinkKind) (subscriber prerequisite : PortPlace)
  /-- of one slot, or of all slots of the context -/
  | enable (c : ContextId) (index : Option Nat)
  /-- of one slot, or of all slots of the context -/
  | disable (c : ContextId) (index : Option Nat)
  | markOutOfDate (c : ContextId)
  /-- of the context and all below it -/
  | enableBelow (c : ContextId)
  /-- of the context and all below it -/
  | disableBelow (c : ContextId)
  | evaluate (id : SystemId) (c : ContextId) (q : Query)

structure Session where
  blueprint : Blueprint := {}
  run : Run

namespace Session

def start (config : Config) (cells : Cells) (notices : Notices) : Session where
  run := { tree := { config }, cells, notices }

def tree (s : Session) : Tree := s.run.tree

def onBlueprint {ε α : Type} (f : EStateM ε Blueprint α) (s : Session) : Session :=
  { s with blueprint := stateAfter f s.blueprint }

def onRun {ε α : Type} (f : EStateM ε Run α) (s : Session) : Session :=
  { s with run := stateAfter f s.run }

def onCache (c : ContextId) (f : Cache → Cache) (s : Session) : Session :=
  s.onRun (Run.onTree fun t => .ok (t.modifyContext c (·.modifyCache f)))

def apply (s : Session) : Action → Session
  | .addSystem name typeName registry =>
      { s with blueprint := s.blueprint.addSystem name typeName registry }
  | .declare id clause => s.onBlueprint (Blueprint.declare id clause.declare)
  | .addDiagram d => { s with blueprint := (s.blueprint.addDiagram d).2 }
  | .removeDiagram number => { s with blueprint := s.blueprint.removeDiagram number }
  | .setParent id diagram => s.onBlueprint (Blueprint.setParent id diagram)
  | .warn id kind index => { s with run := (s.run.reportPort s.blueprint id kind index).2 }
  | .setCell name x => { s with run := { s.run with cells := s.run.cells.set name x } }
  | .addContext parent => s.onRun (Run.addContext parent)
  | .setUp id c => s.onRun (Run.setUp s.blueprint id c)
  | .createContext id parent => s.onRun (Run.createContext s.blueprint id parent)
  | .noteChange l => s.onRun (Run.noteChange l)
  | .fixInput c port v => s.onRun (Run.fixInput c port v)
  | .clearInput c port => s.onRun (Run.clearInput c port)
  | .subscribe subscriber prerequisite => s.onRun (Run.subscribe subscriber prerequisite)
  | .linkPorts kind subscriber prerequisite => s.onRun (Run.linkPorts kind subscriber prerequisite)
  | .enable c index => s.onCache c (·.onSlots index Slot.enable)
  | .disable c index => s.onCache c (·.onSlots index Slot.disable)
  | .markOutOfDate c => s.onCache c (·.markOutOfDate)
  | .enableBelow c => s.onRun (Run.onTree (·.enableCaching c))
  | .disableBelow c => s.onRun (Run.onTree (·.disableCaching c))
  | .evaluate id c q => s.onRun (evaluate s.blueprint id c q)

def perform (s : Session) (actions : List Action) : Session := actions.foldl apply s

inductive Reachable : Session → Prop
  | start (config : Config) (cells : Cells) (notices : Notices) :
      Reachable (start config cells notices)
  | apply {s : Session} (a : Action) : Reachable s → Reachable (s.apply a)

theorem Reachable.perform {s : Session} (h : s.Reachable) (actions : List Action) :
    (s.perform actions).Reachable := by
  induction actions generalizing s with
  | nil => exact h
  | cons a rest ih => exact ih (h.apply a)

end Session

end Dataflow
