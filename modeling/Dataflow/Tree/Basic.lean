import Dataflow.Config
import Dataflow.Context
import Dataflow.Lineage

namespace Dataflow

structure Location where
  context : ContextId
  ticket : Ticket
  deriving DecidableEq, Repr

structure Link where
  prerequisite : Location
  subscriber : Location
  deriving DecidableEq, Repr

structure Tree where
  contexts : List Context := []
  /-- in the order in which they were made -/
  links : List Link := []
  config : Config := {}
  deriving Repr, Inhabited

namespace Tree

def size (t : Tree) : Nat := t.contexts.length

def context (t : Tree) (id : ContextId) : Except Error Context :=
  match t.contexts[id]? with
  | some c => .ok c
  | none => .error (.unknownContext id)

def modifyContext (t : Tree) (id : ContextId) (f : Context → Context) : Tree :=
  { t with contexts := t.contexts.modify id f }

def modifySlot (t : Tree) (id : ContextId) (index : Nat) (f : Slot → Slot) : Tree :=
  t.modifyContext id (·.modifySlot index f)

def parent? (t : Tree) (id : ContextId) : Option ContextId := t.contexts[id]?.bind (·.parent)

def children (t : Tree) (id : ContextId) : List ContextId :=
  (List.range t.size).filter fun c => t.parent? c = some id

def lineage (t : Tree) (id : ContextId) : List ContextId :=
  Lineage.ancestors t.parent? t.size id

def root (t : Tree) (id : ContextId) : ContextId := (t.lineage id).getLastD id

def subtree (t : Tree) (id : ContextId) : List ContextId :=
  Lineage.descendants t.children t.size id

def systemName (t : Tree) (id : ContextId) : String :=
  match t.contexts[id]? with
  | some c => c.systemName
  | none => ""

def pathname (t : Tree) (id : ContextId) : String :=
  Naming.pathname ((t.lineage id).reverse.map t.systemName)

def systemOf (t : Tree) (id : ContextId) : Option SystemId := t.contexts[id]?.bind (·.system)

@[simp] theorem size_modifyContext (t : Tree) (id : ContextId) (f : Context → Context) :
    (t.modifyContext id f).size = t.size := by
  simp [size, modifyContext]

def addContext (t : Tree) (parent : Option ContextId) : Except Error Tree := do
  if let some p := parent then let _ ← t.context p
  return { t with contexts := t.contexts ++ [.fresh parent t.config.cachingEnabled] }

def onContext {α : Type} (id : ContextId) (f : Context.SetUp α) : Attempt Tree α := fun t =>
  match t.contexts[id]? with
  | none => .error (.unknownContext id) t
  | some c =>
      match f c with
      | .ok a c => .ok a (t.modifyContext id fun _ => c)
      | .error e c => .error e (t.modifyContext id fun _ => c)

def disableCaching (t : Tree) (id : ContextId) : Except Error Tree := do
  let _ ← t.context id
  return (t.subtree id).foldl (fun t c => t.modifyContext c (·.modifyCache (·.disable))) t

/-- Enables caching in every context at or below `id`; what was computed before is out of date. -/
def enableCaching (t : Tree) (id : ContextId) : Except Error Tree := do
  let _ ← t.context id
  return (t.subtree id).foldl
    (fun t c => t.modifyContext c (·.modifyCache fun cache => cache.enable.markOutOfDate)) t

end Tree

end Dataflow
