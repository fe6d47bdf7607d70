import Dataflow.Diagram
import Dataflow.Event
import Dataflow.Tree.Inputs

namespace Dataflow

abbrev Cells := List (String × Float)

namespace Cells

def get (c : Cells) (name : String) : Float := (c.lookup name).getD 0

def set (c : Cells) (name : String) (x : Float) : Cells := (name, x) :: c.filter (·.1 ≠ name)

end Cells

structure Run where
  tree : Tree
  cells : Cells := []
  notices : Notices := {}
  log : List Event := []

namespace Run

def note (r : Run) (e : Event) : Run := { r with log := r.log ++ [e] }

def modifySlot (r : Run) (id : ContextId) (index : Nat) (f : Slot → Slot) : Run :=
  { r with tree := r.tree.modifySlot id index f }

def reportPort (r : Run) (b : Blueprint) (id : SystemId) (kind : PortKind) (index : Nat) :
    Bool × Run :=
  let s := b.system id
  match s.port? kind index with
  | none => (false, r)
  | some port =>
      match port.deprecation with
      | none => (false, r)
      | some message =>
          let (due, notices) := r.notices.report ⟨id, kind, index⟩ s.registry
            ⟨s.typeName, kind, port.name⟩
          let r := { r with notices }
          if due then
            let description := port.fullDescription kind index (b.pathname id) s.typeName
            (true, r.note (.deprecatedPort description (deprecationDetails message)))
          else (false, r)

def usePort (r : Run) (b : Blueprint) (id : SystemId) (kind : PortKind) (index : Nat) : Run :=
  if r.tree.config.deprecationWarnings then (r.reportPort b id kind index).2 else r

def after (r : Run) (s : Spread) : Run :=
  { r with tree := s.tree }.note (.changed s.start.context s.start.ticket s.touched)

/-- A change of the tree that spreads. It is made as a whole or, on an error, not at all. -/
def spread (f : Tree → Except Error Spread) : Attempt Run Spread := fun r =>
  match f r.tree with
  | .ok s => .ok s (r.after s)
  | .error e => .error e r

def noteChange (l : Location) : Attempt Run Nat := do
  return (← spread (·.spread l)).touched

def fixInput (id : ContextId) (port : Nat) (v : Value) : Attempt Run Unit :=
  discard <| spread (·.fixInput id port v)

def clearInput (id : ContextId) (port : Nat) : Attempt Run Unit := fun r =>
  match r.tree.clearInput id port with
  | .ok (some s) => .ok () (r.after s)
  | .ok none => .ok () r
  | .error e => .error e r

def subscribe (subscriber prerequisite : Location) : Attempt Run Unit :=
  discard <| spread (·.subscribe subscriber prerequisite)

def linkPorts (kind : LinkKind) (subscriber prerequisite : PortPlace) : Attempt Run Unit :=
  discard <| spread (·.linkPorts kind subscriber prerequisite)

def onTree (f : Tree → Except Error Tree) : Attempt Run Unit :=
  Attempt.step fun r => return { r with tree := ← f r.tree }

end Run

end Dataflow
