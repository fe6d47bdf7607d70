import Dataflow.Tree.Basic

/-!
Changes that reach across contexts. Within a context a change spreads as its dependency graph says;
where it touches a tracker that others are linked to, it goes on in their contexts. Each place that
a change enters a context at is one pass with a serial of its own.
-/

namespace Dataflow.Tree

def linkedTo (t : Tree) (l : Location) : List Location :=
  (t.links.filter (·.prerequisite = l)).map (·.subscriber)

def touchedAt (t : Tree) (l : Location) : List Location :=
  match t.contexts[l.context]? with
  | some c => (c.graph.downstream l.ticket).map (⟨l.context, ·⟩)
  | none => []

def leavingFrom (t : Tree) (l : Location) : List Location := (t.touchedAt l).flatMap t.linkedTo

/-- The places where a change that starts at `l` enters a context, in the order of the passes. -/
def passes (t : Tree) (l : Location) : List Location :=
  Search.depthFirst t.leavingFrom (l :: t.links.map (·.subscriber)) l

/-- One pass: the change spreads within the context of `l`. The number counts the trackers touched
so far. -/
def pass (state : Tree × Nat) (l : Location) : Except Error (Tree × Nat) := do
  let c ← state.1.context l.context
  let (graph, touched) ← c.graph.noteChange l.ticket
  return (state.1.modifyContext l.context ({ · with graph }), state.2 + touched.length)

def noteChange (t : Tree) (l : Location) : Except Error (Tree × Nat) :=
  (t.passes l).foldlM pass (t, 0)

end Dataflow.Tree
