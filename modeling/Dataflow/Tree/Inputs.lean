import Dataflow.Tree.Change

namespace Dataflow

structure Spread where
  tree : Tree
  start : Location
  touched : Nat

namespace Tree

def spread (t : Tree) (l : Location) : Except Error Spread := do
  let (tree, touched) ← t.noteChange l
  return ⟨tree, l, touched⟩

def inputSlot (t : Tree) (func : String) (id : ContextId) (port : Nat) :
    Except Error InputSlot := do
  let c ← t.context id
  match c.inputs[port]? with
  | some slot => return slot
  | none => throw (.outOfRange .inputPort func port c.inputs.length (t.pathname id))

def setFixed (t : Tree) (id : ContextId) (port : Nat) (v : Option Value) : Tree :=
  t.modifyContext id fun c => { c with inputs := c.inputs.modify port ({ · with fixed := v }) }

def fixInput (t : Tree) (id : ContextId) (port : Nat) (v : Value) : Except Error Spread := do
  let slot ← t.inputSlot "FixInputPort" id port
  if let some (expected, actual) := slot.type.mismatch v then
    throw (.wrongType ⟨"FixInputPort", slot.name, port, t.pathname id⟩ expected actual)
  (t.setFixed id port (some v)).spread ⟨id, slot.ticket⟩

def clearInput (t : Tree) (id : ContextId) (port : Nat) : Except Error (Option Spread) := do
  let slot ← t.inputSlot "ClearFixedInputPort" id port
  if slot.fixed.isNone then return none
  return some (← (t.setFixed id port none).spread ⟨id, slot.ticket⟩)

def requireTracker (t : Tree) (l : Location) : Except Error Unit := do
  let c ← t.context l.context
  let _ ← c.graph.tracker l.ticket

/-- Makes `subscriber` depend on `prerequisite`. The subscriber counts as changed, even if it was
linked before. -/
def subscribe (t : Tree) (subscriber prerequisite : Location) : Except Error Spread := do
  t.requireTracker subscriber
  t.requireTracker prerequisite
  let link := ⟨prerequisite, subscriber⟩
  let links := if link ∈ t.links then t.links else t.links ++ [link]
  { t with links }.spread subscriber

def inputLocation (t : Tree) (func : String) (id : ContextId) (port : Nat) :
    Except Error Location := do
  return ⟨id, (← t.inputSlot func id port).ticket⟩

def outputLocation (t : Tree) (func : String) (id : ContextId) (port : Nat) :
    Except Error Location := do
  let c ← t.context id
  match c.outputs[port]? with
  | some ticket => return ⟨id, ticket⟩
  | none => throw (.outOfRange .outputPort func port c.outputs.length (t.pathname id))

end Tree

inductive LinkKind where
  /-- input port of one child, output port of another -/
  | inputToOutput
  /-- input port of a child, input port of its parent -/
  | inputToInput
  /-- output port of a parent, output port of its child -/
  | outputToOutput
  deriving DecidableEq, Repr

structure PortPlace where
  context : ContextId
  port : Nat
  deriving DecidableEq, Repr

def Tree.linkPorts (t : Tree) (kind : LinkKind) (subscriber prerequisite : PortPlace) :
    Except Error Spread := do
  match kind with
  | .inputToOutput =>
      let l ← t.inputLocation "SubscribeInputToOutput" subscriber.context subscriber.port
      let p ← t.outputLocation "SubscribeInputToOutput" prerequisite.context prerequisite.port
      t.subscribe l p
  | .inputToInput =>
      let l ← t.inputLocation "SubscribeInputToInput" subscriber.context subscriber.port
      let p ← t.inputLocation "SubscribeInputToInput" prerequisite.context prerequisite.port
      t.subscribe l p
  | .outputToOutput =>
      let l ← t.outputLocation "SubscribeOutputToOutput" subscriber.context subscriber.port
      let p ← t.outputLocation "SubscribeOutputToOutput" prerequisite.context prerequisite.port
      t.subscribe l p

end Dataflow
