import Dataflow.Event
import Dataflow.Proofs.Tree.Lineage
import Dataflow.Proofs.Tree.Propagation

namespace Dataflow

variable {c : ContextId} {index : Nat} {before : Prop} {first later moments : List Moment}

inductive Moment where
  /-- a change of the tracker at `start` was noted, in the tree `t` -/
  | changed (t : Tree) (start : Location)
  /-- all slots of a context were marked out of date -/
  | marked (c : ContextId)
  /-- all slots of a context and of those below it were marked out of date -/
  | markedBelow (t : Tree) (top : ContextId)
  /-- the producer of a cache entry came to its end -/
  | ended (c : ContextId) (index : Nat) (outcome : Outcome)

namespace Moment

def Spoils (c : ContextId) (index : Nat) : Moment → Prop
  | .changed t start => ∃ context slot, t.contexts[c]? = some context ∧
      context.cache[index]? = some slot ∧ t.Reaches start ⟨c, slot.ticket⟩
  | .marked c' => c' = c
  | .markedBelow t top => t.Below top c
  | .ended c' index' outcome => c' = c ∧ index' = index ∧ outcome ≠ .value

end Moment

/-- The entry was computed at some moment, and nothing later spoiled its value. -/
def UpToDate (c : ContextId) (index : Nat) (history : List Moment) : Prop :=
  ∃ earlier later, history = earlier ++ .ended c index .value :: later ∧
    ∀ m ∈ later, ¬ m.Spoils c index

def Settled (c : ContextId) (index : Nat) (moments : List Moment) (before : Prop) : Prop :=
  (before ∧ ∀ m ∈ moments, ¬ m.Spoils c index) ∨ UpToDate c index moments

theorem upToDate_append : UpToDate c index (first ++ later) ↔
    Settled c index later (UpToDate c index first) := by
  constructor
  · rintro ⟨earlier, rest, split, kept⟩
    rcases List.append_eq_append_iff.mp split with ⟨middle, rfl, rfl⟩ | ⟨middle, rfl, tail⟩
    · exact .inr ⟨middle, rest, rfl, kept⟩
    · cases middle with
      | nil => exact .inr ⟨[], rest, tail.symm, kept⟩
      | cons m middle =>
          obtain ⟨rfl, rfl⟩ := List.cons.inj tail
          exact .inl ⟨⟨earlier, middle, rfl, fun m mem => kept m (List.mem_append_left _ mem)⟩,
            fun m mem => kept m (List.mem_append_right _ mem)⟩
  · rintro (⟨⟨earlier, rest, rfl, kept⟩, kept'⟩ | ⟨earlier, rest, rfl, kept⟩)
    · refine ⟨earlier, rest ++ later, by simp, ?_⟩
      intro m mem
      exact (List.mem_append.mp mem).elim (kept m) (kept' m)
    · exact ⟨first ++ earlier, rest, by simp, kept⟩

theorem not_upToDate_nil : ¬ UpToDate c index [] := by
  rintro ⟨earlier, later, split, -⟩
  simp at split

theorem settled_append : Settled c index (first ++ later) before ↔
    Settled c index later (Settled c index first before) := by
  simp only [Settled, upToDate_append, List.forall_mem_append]
  tauto

theorem settled_nil : Settled c index [] before ↔ before := by
  simp [Settled, not_upToDate_nil]

theorem settled_congr {before' : Prop} (same : before ↔ before') :
    Settled c index moments before ↔ Settled c index moments before' := by
  rw [propext same]

theorem settled_ended {outcome : Outcome} :
    Settled c index [.ended c index outcome] before ↔ outcome = .value := by
  constructor
  · rintro (⟨-, kept⟩ | ⟨earlier, later, split, -⟩)
    · exact Decidable.not_not.mp fun other => kept _ (List.mem_singleton_self _) ⟨rfl, rfl, other⟩
    · have mem : Moment.ended c index .value ∈ [Moment.ended c index outcome] := by simp [split]
      simpa [eq_comm] using mem
  · rintro rfl
    exact .inr ⟨[], [], rfl, by simp⟩

theorem settled_singleton {m : Moment} (other : m ≠ .ended c index .value) :
    Settled c index [m] before ↔ before ∧ ¬ m.Spoils c index := by
  have none : ¬ UpToDate c index [m] := by
    rintro ⟨earlier, later, split, -⟩
    have mem : Moment.ended c index .value ∈ [m] := by simp [split]
    exact other (List.mem_singleton.mp mem).symm
  simp [Settled, none]

end Dataflow
