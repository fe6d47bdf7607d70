import Dataflow.Proofs.Context
import Dataflow.Proofs.Graph.Downstream
import Dataflow.Proofs.Graph.Edges

namespace Dataflow

namespace Graph

variable {g₀ g g' : Graph} {t p : Ticket} {description : String} {index : Nat}
  {added : List (Ticket × String × Serial)} {edges : List (Ticket × Ticket)}
  {owners : List (Nat × Ticket)}

theorem linked_builtIn : builtIn.Linked builtInEdges where
  tracked t p mem := by
    have ends : ∀ e ∈ builtInEdges, e.1 ∈ builtIn.tickets ∧ e.2 ∈ builtIn.tickets := by decide
    exact ends (t, p) mem
  prerequisites k mem := by
    obtain ⟨⟨ticket, description⟩, builtIn, rfl⟩ := List.mem_map.mp mem
    refine ⟨?_, fun p => by simp⟩
    have nodup : ∀ e ∈ builtInTrackers, ((builtInEdges.filter (·.1 = e.1)).map (·.2)).Nodup := by
      decide
    exact nodup _ builtIn
  subscribers k mem := by
    obtain ⟨⟨ticket, description⟩, builtIn, rfl⟩ := List.mem_map.mp mem
    refine ⟨?_, fun p => by simp⟩
    have nodup : ∀ e ∈ builtInTrackers, ((builtInEdges.filter (·.2 = e.1)).map (·.1)).Nodup := by
      decide
    exact nodup _ builtIn

theorem linked_of_unstamped (h : g.unstamped.Linked edges) : g.Linked edges where
  tracked := by simpa only [tickets_unstamped] using h.tracked
  prerequisites k mem := h.prerequisites { k with serial := 0 } (List.mem_map_of_mem mem)
  subscribers k mem := h.subscribers { k with serial := 0 } (List.mem_map_of_mem mem)

def labels (g : Graph) : List (Ticket × String × Serial) :=
  g.trackers.map fun k => (k.ticket, k.description, k.serial)

theorem tickets_eq_labels (g : Graph) : g.tickets = g.labels.map (·.1) := by
  simp [tickets, Graph.labels]

structure Built (g₀ g : Graph) (added : List (Ticket × String × Serial))
    (edges : List (Ticket × Ticket)) (owners : List (Nat × Ticket)) : Prop where
  labels : g.labels = g₀.labels ++ added
  latest : g.latest = g₀.latest
  nodup : g.tickets.Nodup
  linked : g.Linked edges
  entries : ∀ k ∈ g.trackers, ∀ i, k.entry = some i ↔ (i, k.ticket) ∈ owners
  owned : ∀ i t, (i, t) ∈ owners → t ∈ g.tickets
  placed : ∀ label ∈ added, label.1 < room

theorem Built.create (h : Built g₀ g added edges owners)
    (made : g.create t description = .ok g') :
    Built g₀ g' (added ++ [(t, description, 0)]) edges owners ∧ ∀ i, (i, t) ∉ owners := by
  have linked := h.linked.create made
  have tickets := tickets_create made
  obtain ⟨untracked, fits, rfl⟩ := create_eq_ok_iff.mp made
  have unowned (i : Nat) : (i, t) ∉ owners := fun mem => untracked (h.owned i t mem)
  refine ⟨⟨?_, h.latest, ?_, linked, fun k mem i => ?_, fun i u mem => ?_, ?_⟩, unowned⟩
  · rw [← List.append_assoc, ← h.labels]
    simp [Graph.labels]
  · rw [tickets]
    exact List.nodup_append_comm.mpr (List.nodup_cons.mpr ⟨untracked, h.nodup⟩)
  · rcases List.mem_append.mp mem with old | new
    · exact h.entries k old i
    · simp [List.mem_singleton.mp new, unowned]
  · rw [tickets]
    exact List.mem_append_left _ (h.owned i u mem)
  · intro label mem
    rcases List.mem_append.mp mem with old | new
    · exact h.placed label old
    · rw [List.mem_singleton.mp new]
      exact fits

theorem labels_subscribe (made : g.subscribe t p = .ok g') : g'.labels = g.labels := by
  obtain ⟨-, k, -, rfl⟩ := subscribe_eq_ok_iff.mp made
  split
  · rfl
  · simp [Graph.labels, trackers_link]

theorem Built.subscribe (h : Built g₀ g added edges owners) (made : g.subscribe t p = .ok g') :
    Built g₀ g' added (edges ++ [(t, p)]) owners where
  labels := (labels_subscribe made).trans h.labels
  latest := (latest_subscribe made).trans h.latest
  nodup := tickets_subscribe made ▸ h.nodup
  linked := h.linked.subscribe made
  entries := by
    obtain ⟨-, k, -, rfl⟩ := subscribe_eq_ok_iff.mp made
    split
    · exact h.entries
    · intro k mem i
      rw [trackers_link] at mem
      obtain ⟨old, oldMem, rfl⟩ := List.mem_map.mp mem
      exact h.entries old oldMem i
  owned i u mem := tickets_subscribe made ▸ h.owned i u mem
  placed := h.placed

theorem Built.own (h : Built g₀ g added edges owners) (tracked : t ∈ g.tickets)
    (unowned : ∀ i, (i, t) ∉ owners) :
    Built g₀ (g.own t index) added edges (owners ++ [(index, t)]) where
  labels := by
    rw [← h.labels]
    simp only [Graph.labels, Graph.own, modify, List.map_map]
    apply List.map_congr_left
    intro k _
    by_cases own : k.ticket = t <;> simp [own]
  latest := h.latest
  nodup := by
    rw [tickets_own]
    exact h.nodup
  linked := h.linked.own
  entries := by
    intro k mem i
    obtain ⟨old, oldMem, rfl⟩ := mem_trackers_modify.mp mem
    have before := h.entries old oldMem i
    split
    · rename_i own
      rw [own] at before
      simp [own, unowned, eq_comm]
    · rename_i other
      simp [before, other]
  owned i u mem := by
    rw [tickets_own]
    rcases List.mem_append.mp mem with old | new
    · exact h.owned i u old
    · obtain ⟨-, rfl⟩ := Prod.mk.inj (List.mem_singleton.mp new)
      exact tracked
  placed := h.placed

end Graph

namespace Store

variable {g₀ : Graph} {s s' : Store} {t : Ticket} {description : String} {index : Nat}
  {prerequisites : List Ticket} {added : List (Ticket × String × Serial)}
  {edges : List (Ticket × Ticket)} {owners : List (Nat × Ticket)} {u : Unit}

theorem built_furnish (h : g₀.Built s.graph added edges owners) (tracked : t ∈ s.graph.tickets)
    (unowned : ∀ i, (i, t) ∉ owners)
    (made : furnish index t description prerequisites s = .ok u s') :
    g₀.Built s'.graph added (edges ++ prerequisites.map (t, ·)) (owners ++ [(index, t)]) := by
  obtain ⟨⟨⟩, s₁, own, made⟩ := bind_eq_ok_iff.mp made
  obtain ⟨⟨⟩, s₂, subscribed, appended⟩ := bind_eq_ok_iff.mp made
  cases own
  cases appended
  have start : g₀.Built (s.graph.own t index) added edges (owners ++ [(index, t)]) :=
    h.own tracked unowned
  refine forM_ok (s := { s with graph := s.graph.own t index })
    (I := fun done s₂ => g₀.Built s₂.graph added (edges ++ done.map (t, ·)) (owners ++ [(index, t)]))
    (by simpa using start) (fun done p s₁ s₂ built subscribed => ?_) subscribed
  obtain ⟨graph, made, rfl⟩ := onGraph_eq_ok_iff.mp subscribed
  simpa using built.subscribe made

theorem built_addEntry (h : g₀.Built s.graph added edges owners)
    (made : addEntry index t description prerequisites s = .ok u s') :
    g₀.Built s'.graph (added ++ [(t, description, 0)]) (edges ++ prerequisites.map (t, ·))
      (owners ++ [(index, t)]) := by
  obtain ⟨s₀, s₁, got, made⟩ := bind_eq_ok_iff.mp made
  cases got
  split at made
  · cases made
  · obtain ⟨⟨⟩, s₂, created, made⟩ := bind_eq_ok_iff.mp made
    obtain ⟨graph, create, rfl⟩ := onGraph_eq_ok_iff.mp created
    obtain ⟨built, unowned⟩ := h.create create
    have tracked : t ∈ graph.tickets := by simp [Graph.tickets_create create]
    exact built_furnish built tracked unowned made

end Store

end Dataflow
