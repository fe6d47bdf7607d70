import Dataflow.System

namespace Dataflow

structure InputSlot where
  name : String
  ticket : Ticket
  type : PortType
  fixed : Option Value := none
  deriving Repr

structure Context extends Store where
  parent : Option ContextId
  cachingEnabled : Bool
  systemName : String := ""
  system : Option SystemId := none
  sources : List (SourceGroup × Ticket) := []
  inputs : List InputSlot := []
  outputs : List Ticket := []
  isSetUp : Bool := false
  deriving Repr

namespace Graph

def builtInTrackers : List (Ticket × String) :=
  [(.nothing, "nothing"), (.time, "t"), (.accuracy, "accuracy"), (.continuousState, "xc"),
   (.discreteState, "xd"), (.abstractState, "xa"), (.allState, "x"), (.numericParameters, "pn"),
   (.abstractParameters, "pa"), (.allParameters, "p"), (.allInputs, "u"),
   (.allExceptInputs, "all sources except input ports"), (.allSources, "all sources")]

def builtInEdges : List (Ticket × Ticket) :=
  [(.allState, .continuousState), (.allState, .discreteState), (.allState, .abstractState),
   (.allParameters, .numericParameters), (.allParameters, .abstractParameters),
   (.allExceptInputs, .time), (.allExceptInputs, .accuracy), (.allExceptInputs, .allState),
   (.allExceptInputs, .allParameters), (.allSources, .allExceptInputs), (.allSources, .allInputs)]

def builtIn : Graph where
  trackers := builtInTrackers.map fun (ticket, description) =>
    { ticket, description
      prerequisites := (builtInEdges.filter (·.1 = ticket)).map (·.2)
      subscribers := (builtInEdges.filter (·.2 = ticket)).map (·.1) }

end Graph

namespace Context

def fresh (parent : Option ContextId) (cachingEnabled : Bool) : Context :=
  { graph := .builtIn, parent, cachingEnabled }

def sourcesOf (c : Context) (group : SourceGroup) : List Ticket :=
  (c.sources.filter (·.1 = group)).map (·.2)

def fixed? (c : Context) (port : Nat) : Option Value := c.inputs[port]?.bind (·.fixed)

def modifySlot (c : Context) (index : Nat) (f : Slot → Slot) : Context :=
  { c with cache := c.cache.modify index f }

def modifyCache (c : Context) (f : Cache → Cache) : Context := { c with cache := f c.cache }

abbrev SetUp (α : Type) := Attempt Context α

def onStore {α : Type} (f : Attempt Store α) : SetUp α := fun c =>
  match f c.toStore with
  | .ok a s => .ok a { c with toStore := s }
  | .error e s => .error e { c with toStore := s }

/-- Subscribes the tracker of an output port that the system itself computes. Those exported from
subsystems are linked across contexts. -/
def subscribeOutput (p : OutputPort) : SetUp Unit :=
  if p.child.isNone then onStore (Store.subscribe p.ticket p.dependency) else pure ()

def replay : System.Declaration → SetUp Unit
  | .source s => do
      onStore (Store.create s.ticket s.description)
      onStore (Store.subscribe s.group.aggregate s.ticket)
      modify fun c => { c with sources := c.sources ++ [(s.group, s.ticket)] }
  | .input index p => do
      onStore (Store.create p.ticket s!"u{index}")
      onStore (Store.subscribe .allInputs p.ticket)
      modify fun c =>
        { c with inputs := c.inputs ++ [{ name := p.name, ticket := p.ticket, type := p.type }] }
  | .entry index e => do
      onStore (Store.addEntry index e.ticket e.description e.prerequisites)
      modify fun c => c.modifySlot index fun slot =>
        let slot := slot.seed e.initial
        if e.disabledByDefault || !c.cachingEnabled then slot.disable else slot
  | .output index p => do
      onStore (Store.create p.ticket s!"y{index}")
      subscribeOutput p
      modify fun c => { c with outputs := c.outputs ++ [p.ticket] }

def setUp (id : SystemId) (s : System) (pathname : String) : SetUp Unit := do
  let c ← get
  if c.isSetUp then throw (.alreadySetUp pathname)
  else
    modify fun c => { c with systemName := s.name, system := some id }
    s.declarations.forM replay
    modify fun c => { c with isSetUp := true }

end Context

end Dataflow
