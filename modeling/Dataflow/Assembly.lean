import Dataflow.Run

namespace Dataflow.Run

def setUp (b : Blueprint) (id : SystemId) (c : ContextId) : Attempt Run Unit := fun r =>
  match Tree.onContext c (Context.setUp id (b.system id) (b.pathname id)) r.tree with
  | .error e tree => .error e { r with tree }
  | .ok _ tree =>
      let r := { r with tree }
      match tree.contexts[c]? with
      | some context =>
          .ok () (r.note (.contextSetUp (b.pathname id) context.graph.trackers.length
            context.cache.length))
      | none => .ok () r

def addContext (parent : Option ContextId) : Attempt Run ContextId := do
  let id := (← get).tree.size
  onTree (·.addContext parent)
  return id

def createContext (b : Blueprint) (id : SystemId) (parent : Option ContextId) :
    Attempt Run ContextId := do
  let c ← addContext parent
  setUp b id c
  return c

def childContext (below : List ContextId) (child : Nat) : Attempt Run ContextId :=
  match below[child]? with
  | some c => pure c
  | none => throw (.unknownContext child)

def wire (d : Diagram) (c : ContextId) (below : List ContextId) : Attempt Run Unit := do
  d.connections.forM fun k => do
    let subscriber ← childContext below k.child
    let prerequisite ← childContext below k.source
    linkPorts .inputToOutput ⟨subscriber, k.input⟩ ⟨prerequisite, k.output⟩
  d.exportedInputs.forM fun e => do
    linkPorts .inputToInput ⟨← childContext below e.child, e.input⟩ ⟨c, e.own⟩
  d.effectiveOutputs.forM fun e => do
    linkPorts .outputToOutput ⟨c, e.own⟩ ⟨← childContext below e.child, e.output⟩

/-- Makes contexts for a system and all systems below it, to at most `depth` further levels. An
error leaves what was made before. -/
def assembleWithin (b : Blueprint) : Nat → SystemId → Option ContextId → Attempt Run ContextId
  | depth, id, parent => do
      let c ← createContext b id parent
      match depth, b.diagram? id with
      | depth + 1, some d =>
          let below ← d.children.mapM fun child => assembleWithin b depth child (some c)
          wire d c below
          return c
      | _, _ => return c

def assemble (b : Blueprint) (id : SystemId) (parent : Option ContextId) :
    Attempt Run ContextId :=
  assembleWithin b b.systems.length id parent

end Dataflow.Run
