import Dataflow.Proofs.Freshness.Current
import Dataflow.Proofs.Freshness.History
import Dataflow.Proofs.Visits

namespace Dataflow

variable {r r' r₁ r₂ r₃ : Run}

def Run.Lived (moments : List Moment) (r r' : Run) : Prop :=
  ∀ c i, r'.tree.Current c i ↔ Settled c i moments (r.tree.Current c i)

theorem Run.lived_of_same (same : ∀ c i, r'.tree.Current c i ↔ r.tree.Current c i) :
    Run.Lived [] r r' :=
  fun c i => by rw [settled_nil, same]

theorem Run.Lived.append {first later : List Moment} (h : Run.Lived first r₁ r₂)
    (h' : Run.Lived later r₂ r₃) : Run.Lived (first ++ later) r₁ r₃ := by
  intro c i
  rw [h', settled_append]
  exact settled_congr (h c i)

def Visit.moment? : Visit → Option Moment
  | ⟨place, .ran outcome⟩ => some (.ended place.1 place.2 outcome)
  | ⟨_, .served⟩ | ⟨_, .running⟩ => none

namespace Evaluation

variable {c : ContextId} {i : Nat} {slot : Slot} {current : Serial}
  {visits first later : List Visit} {out : Value} {outcome : Outcome} {e : Entry}

def Settles (visits : List Visit) : Run → Run → Prop :=
  Run.Lived (visits.filterMap Visit.moment?)

theorem settles_of_same (silent : visits.filterMap Visit.moment? = [])
    (same : ∀ c i, r'.tree.Current c i ↔ r.tree.Current c i) : Settles visits r r' := by
  rw [Settles, silent]
  exact Run.lived_of_same same

theorem Settles.append (h : Settles first r₁ r₂) (h' : Settles later r₂ r₃) :
    Settles (first ++ later) r₁ r₃ := by
  rw [Settles, List.filterMap_append]
  exact Run.Lived.append h h'

theorem settles_serve : Settles [⟨(c, i), .served⟩] r (r.serve c i) := by
  apply settles_of_same rfl
  intro c' i'
  exact Tree.current_modifyContext_of_iff fun context _ =>
    Context.current_onSlots (f := Slot.recordHit) (fun _ => rfl) (fun _ => rfl) (some i)

theorem settles_refuse (wf : r.tree.WellFormed) (found : slotOf r.tree c i = .ok (slot, current))
    (running : slot.value = none) : Settles [⟨(c, i), .running⟩] r (r.refuse c i) := by
  apply settles_of_same rfl
  intro c' i'
  by_cases own : c = c' ∧ i = i'
  · obtain ⟨rfl, rfl⟩ := own
    obtain ⟨context, k, foundContext, foundSlot, tracked, -⟩ := slotOf_eq_ok_iff.mp found
    have undated : slot.computedAt = none :=
      (wf.context foundContext).running slot (List.mem_of_getElem? foundSlot) running
    have before : r.tree.Current c i ↔ slot.computedAt = some current := Tree.current_iff_of_slotOf found
    have after : (r.refuse c i).tree.Current c i ↔ slot.markOutOfDate.computedAt = some current :=
      Tree.current_modifySlot_self rfl found
    rw [before, after, undated]
    rfl
  · exact Tree.current_modifySlot_ne own

theorem settles_endProducer (found : slotOf r.tree c i = .ok (slot, current)) :
    Settles [⟨(c, i), .ran outcome⟩] r (r.endProducer c i e current out outcome) := by
  intro c' i'
  show _ ↔ Settled c' i' [.ended c i outcome] _
  rw [tree_endProducer]
  by_cases own : c = c' ∧ i = i'
  · obtain ⟨rfl, rfl⟩ := own
    have after : (r.tree.modifySlot c i (·.ending current out outcome)).Current c i ↔
        (slot.ending current out outcome).computedAt = some current :=
      Tree.current_modifySlot_self ticket_ending found
    rw [settled_ended, after]
    simp [Slot.ending, Slot.restored]
  · rw [settled_singleton, Tree.current_modifySlot_ne own]
    · have spared : ¬ (Moment.ended c i outcome).Spoils c' i' := by
        rintro ⟨same, same', -⟩
        exact own ⟨same, same'⟩
      exact (and_iff_left spared).symm
    · rintro ⟨rfl, rfl, -⟩
      exact own ⟨rfl, rfl⟩

/-- While its producer runs, an entry may cease to be current unaccounted for; at the end it is
accounted for again. -/
theorem settles_produced (found : slotOf r'.tree c i = .ok (slot, current))
    (inner : Settles visits (r.beginProducer c i) r') :
    Settles (visits ++ [⟨(c, i), .ran outcome⟩]) r (r'.endProducer c i e current out outcome) := by
  intro c' i'
  by_cases own : c = c' ∧ i = i'
  · -- the end alone tells, whatever went on in between
    obtain ⟨rfl, rfl⟩ := own
    rw [settles_endProducer found, List.filterMap_append, settled_append]
    exact settled_ended.trans settled_ended.symm
  · have begun : (r.beginProducer c i).tree.Current c' i' ↔ r.tree.Current c' i' :=
      Tree.current_modifySlot_ne own
    rw [inner.append (settles_endProducer found)]
    exact settled_congr begun

theorem Makes.settles {b : Blueprint} {id : SystemId} {task : Task} (h : Makes b id c task r visits)
    (wf : r.tree.WellFormed) : Settles visits r (afterTask b id c task r) := by
  suffices Keeping r (afterTask b id c task r) ∧
      (r.tree.WellFormed → Settles visits r (afterTask b id c task r)) from this.2 wf
  refine h.relates (P := fun visits r r' => Keeping r r' ∧ (r.tree.WellFormed → Settles visits r r')) wf
    ?idle ?append ?served ?refused ?ran
  case idle =>
    intro r r' same
    exact ⟨keeping_of_tree same, fun _ => settles_of_same rfl fun _ _ => by rw [same]⟩
  case append =>
    intro first later r₁ r₂ r₃ one more
    exact ⟨Keeping.frame.trans one.1 more.1, fun wf => (one.2 wf).append (more.2 (one.1.2 wf))⟩
  case served =>
    intro r c i slot current v found fresh
    exact ⟨(keeping b).served r c i slot current v found fresh, fun _ => settles_serve⟩
  case refused =>
    intro r c i slot current found empty
    exact ⟨(keeping b).refused r c i slot current found empty, fun wf => settles_refuse wf found empty⟩
  case ran =>
    intro id c i e r r' slot current v out stop visits ran inner
    have begun : Keeping r (r.beginProducer c i) := keeping_modifySlot (fun _ => rfl) undated_emptied
    have upToEnd := Keeping.frame.trans begun inner.1
    obtain ⟨slot', found', -⟩ := slotOf_of_outline upToEnd.1 ran.found
    exact ⟨Keeping.frame.trans upToEnd (keeping_endProducer found'),
      fun wf => settles_produced found' (inner.2 (begun.2 wf))⟩

end Evaluation

end Dataflow
