import Dataflow.Context
import Dataflow.Proofs.Graph.Downstream
import Dataflow.Proofs.Graph.Edges

namespace Dataflow.Graph

inductive Operation where
  | create (t : Ticket) (description : String)
  | own (t : Ticket) (entry : Nat)
  | subscribe (subscriber prerequisite : Ticket)
  | noteChange (t : Ticket)

def attempt (g : Graph) : Operation → Except Error Graph
  | .create t description => g.create t description
  | .own t entry => .ok (g.own t entry)
  | .subscribe subscriber prerequisite => g.subscribe subscriber prerequisite
  | .noteChange t => (g.noteChange t).map (·.1)

def apply (g : Graph) (o : Operation) : Graph :=
  match g.attempt o with
  | .ok g' => g'
  | .error _ => g

def perform (g : Graph) (operations : List Operation) : Graph := operations.foldl apply g

theorem perform_builtIn :
    perform {} (builtInTrackers.map (fun (t, description) => .create t description) ++
      builtInEdges.map fun (subscriber, prerequisite) => .subscribe subscriber prerequisite) = builtIn := by
  decide +kernel

structure Sound (g : Graph) : Prop where
  wellFormed : g.WellFormed
  linked : ∃ edges, g.Linked edges

variable {g g' : Graph} {t : Ticket} {edges : List (Ticket × Ticket)}

theorem sound_empty : Sound {} where
  wellFormed := ⟨List.nodup_nil, fun _ mem => (List.not_mem_nil mem).elim,
    fun _ mem => (List.not_mem_nil mem).elim⟩
  linked := ⟨[], fun _ _ mem => (List.not_mem_nil mem).elim, fun _ mem => (List.not_mem_nil mem).elim,
    fun _ mem => (List.not_mem_nil mem).elim⟩

theorem Linked.stamp {touched : List Ticket} (h : g.Linked edges) : (g.stamp touched).Linked edges := by
  refine h.retrack (f := fun k => if k.ticket ∈ touched then { k with serial := g.latest + 1 } else k)
    ?_ ?_ ?_ rfl
  all_goals
    intro k
    split <;> rfl

theorem Sound.attempt {o : Operation} (h : g.Sound) (made : g.attempt o = .ok g') : g'.Sound := by
  obtain ⟨wf, edges, linked⟩ := h
  cases o with
  | create t description => exact ⟨wf.create made, edges, linked.create made⟩
  | own t entry =>
      obtain rfl := Except.ok.inj made
      exact ⟨wf.own, edges, linked.own⟩
  | subscribe subscriber prerequisite => exact ⟨wf.subscribe made, _, linked.subscribe made⟩
  | noteChange t =>
      simp only [Graph.attempt] at made
      cases noted : g.noteChange t with
      | error e =>
          rw [noted] at made
          cases made
      | ok result =>
          rw [noted] at made
          obtain ⟨tracked, rfl⟩ := noteChange_eq_ok_iff.mp noted
          obtain rfl := Except.ok.inj made
          exact ⟨(stamped_noteChange tracked).wellFormed wf, edges, linked.stamp⟩

theorem Sound.apply (h : g.Sound) (o : Operation) : (g.apply o).Sound := by
  simp only [Graph.apply]
  cases made : g.attempt o with
  | ok g' => exact h.attempt made
  | error e => exact h

theorem sound_perform (operations : List Operation) : (perform {} operations).Sound :=
  List.foldlRecOn operations _ sound_empty fun _ sound o _ => sound.apply o

end Dataflow.Graph
