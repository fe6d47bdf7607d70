import Dataflow.Proofs.Graph.InPlace
import Dataflow.Proofs.Graph.Operations
import Dataflow.Proofs.Search.Waves

/-!
# What a change notes within one graph

Whatever operations made a graph, with whatever cycles: a change of one of its trackers stamps all that
depends on the tracker, nearest first and each tracker once, and changes nothing else.
-/

namespace Dataflow.Graph

variable {g : Graph} {t : Ticket} {k : Tracker} {touched : List Ticket}

noncomputable def distance (g : Graph) : Ticket → Ticket → Nat := Search.distance g.subscribersOf

/-- `g'` is `g` after a change of `t`, which touched the trackers `touched` in this order. -/
structure Noted (g g' : Graph) (t : Ticket) (touched : List Ticket) : Prop where
  first : touched.head? = some t
  once : touched.Nodup
  reached : ∀ u, u ∈ touched ↔ g.Reaches t u
  nearest : touched.Pairwise fun u v => g.distance t u ≤ g.distance t v
  latest : g'.latest = g.latest + 1
  /-- of a tracker nothing but its serial changes -/
  trackers : g'.trackers = g.trackers.map fun k =>
    { k with serial := if k.ticket ∈ touched then g'.latest else k.serial }
  /-- the new serial is carried by what was touched only -/
  renewed : ∀ k ∈ g'.trackers, k.serial = g'.latest ↔ k.ticket ∈ touched

theorem trackers_stamp : (g.stamp touched).trackers = g.trackers.map fun k =>
    { k with serial := if k.ticket ∈ touched then (g.stamp touched).latest else k.serial } := by
  refine List.map_congr_left fun k _ => ?_
  by_cases mem : k.ticket ∈ touched <;> simp [mem]

theorem serial_stamp (wf : g.WellFormed) (mem : k ∈ (g.stamp touched).trackers) :
    k.serial = (g.stamp touched).latest ↔ k.ticket ∈ touched := by
  rw [trackers_stamp] at mem
  obtain ⟨old, oldMem, rfl⟩ := List.mem_map.mp mem
  have before : old.serial ≠ g.latest + 1 := Nat.ne_of_lt (Nat.lt_succ_of_le (wf.serials old oldMem))
  by_cases inside : old.ticket ∈ touched <;> simp [inside, before]

theorem noted_downstream (wf : g.WellFormed) (tracked : t ∈ g.tickets) :
    g.Noted (g.stamp (g.downstream t)) t (g.downstream t) where
  first := Search.head?_breadthFirst tracked
  once := Search.nodup_visit ..
  reached _ := mem_downstream_iff wf tracked
  nearest := Search.pairwise_breadthFirst tracked fun _ _ => subscribersOf_subset wf
  latest := rfl
  trackers := trackers_stamp
  renewed _ mem := serial_stamp wf mem

theorem noteChange_untracked (untracked : t ∉ g.tickets) :
    g.noteChange t = .error (.unknownTracker t) ∧
      noteChangeInPlace t g = .error (.unknownTracker t) g := by
  have none := find?_eq_none_iff.mpr untracked
  simp [noteChange, tracker, none, noteChangeInPlace, bind, Except.bind]

/-- A change is noted breadth first, also by the loop that stamps the trackers one by one and tells
from their serials which of them it has come to: that loop ends, whatever the cycles. -/
theorem noteChange_breadthFirst (operations : List Operation) (t : Ticket) :
    (t ∈ (perform {} operations).tickets → ∃ g' touched,
      (perform {} operations).noteChange t = .ok (g', touched) ∧
      noteChangeInPlace t (perform {} operations) = .ok touched g' ∧
      (perform {} operations).Noted g' t touched) ∧
    (t ∉ (perform {} operations).tickets →
      (perform {} operations).noteChange t = .error (.unknownTracker t) ∧
      noteChangeInPlace t (perform {} operations) =
        .error (.unknownTracker t) (perform {} operations)) := by
  have wf := (sound_perform operations).wellFormed
  refine ⟨fun tracked => ?_, noteChange_untracked⟩
  have noted := noteChange_eq_ok_iff.mpr ⟨tracked, rfl⟩
  exact ⟨_, _, noted, noteChangeInPlace_ok wf tracked, noted_downstream wf tracked⟩

/-- Two trackers that depend on each other, the first on itself as well, and a third on both. -/
example : ((perform {} [.create 7 "a", .create 2 "b", .create 40 "c", .subscribe 2 7, .subscribe 7 2,
    .subscribe 7 7, .subscribe 40 2, .subscribe 40 7]).noteChange 7).map (·.2) = .ok [7, 2, 40] := by
  decide +kernel

end Dataflow.Graph
