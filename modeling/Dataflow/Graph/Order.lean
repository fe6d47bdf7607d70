import Dataflow.Graph

namespace Dataflow.Graph

/-- Trackers that wait, each with the number of prerequisites not taken yet. -/
abbrev Waiting := List (Ticket × Nat)

def countDown (waiting : Waiting) (t : Ticket) : Waiting :=
  waiting.map fun w => if w.1 = t then (w.1, w.2 - 1) else w

def isReady (w : Ticket × Nat) : Bool := w.2 = 0

def release (ready : List Ticket) (waiting : Waiting) : List Ticket → List Ticket × Waiting
  | [] => (ready, waiting)
  | t :: rest =>
      let counted := countDown waiting t
      release (ready ++ (counted.filter isReady).map (·.1)) (counted.filter (!isReady ·)) rest

/-- Takes ready trackers until none is left; `bound` is the number of trackers not taken. -/
def drain (g : Graph) : Nat → List Ticket → Waiting → List Ticket
  | 0, _, _ => []
  | _ + 1, [], _ => []
  | bound + 1, t :: ready, waiting =>
      let (ready, waiting) := release ready waiting (g.subscribersOf t)
      t :: drain g bound ready waiting

def topologicalOrder (g : Graph) : Option (List Ticket) :=
  let counts := g.trackers.map fun t => (t.ticket, t.prerequisites.length)
  let ready := (counts.filter isReady).map (·.1)
  let order := drain g g.trackers.length ready (counts.filter (!isReady ·))
  if order.length = g.trackers.length then some order else none

end Dataflow.Graph
