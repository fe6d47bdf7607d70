import Dataflow.Context
import Dataflow.Proofs.Store

namespace Dataflow

theorem Graph.wellFormed_builtIn : Graph.builtIn.WellFormed where
  nodup := by decide
  subscribers := by decide
  serials := by decide

namespace Context

variable {c c' : Context} {α : Type} {a : α}

structure Grows (c c' : Context) : Prop where
  store : c.toStore.Grows c'.toStore
  parent : c'.parent = c.parent

theorem Grows.frame : Frame Grows where
  refl _ := ⟨Store.Grows.frame.refl _, rfl⟩
  trans first later := ⟨Store.Grows.frame.trans first.store later.store, later.parent.trans first.parent⟩

theorem wellFormed_fresh {parent : Option ContextId} {cachingEnabled : Bool} :
    (fresh parent cachingEnabled).toStore.WellFormed where
  graph := Graph.wellFormed_builtIn
  tracked := by simp [fresh]
  computed := by simp [fresh]
  running := by simp [fresh]

theorem grows_modifySlot {f : Slot → Slot} (h : Slot.Undated f) (index : Nat) :
    Grows c (c.modifySlot index f) := ⟨Store.grows_onSlots h (some index), rfl⟩

theorem onStore_eq_ok_iff {f : Attempt Store α} : onStore f c = .ok a c' ↔
    ∃ store, f c.toStore = .ok a store ∧ c' = { c with toStore := store } := by
  simp only [onStore]
  cases f c.toStore <;> simp [eq_comm, and_assoc]

theorem grows_onStore {f : Attempt Store α} (h : Keeps Store.Grows f) : Keeps Grows (onStore f) := by
  intro c
  have := h c.toStore
  simp only [KeepsAt, stateAfter, onStore] at this ⊢
  cases result : f c.toStore <;> rw [result] at this <;> exact ⟨this, rfl⟩

theorem grows_subscribeOutput (p : OutputPort) : Keeps Grows (subscribeOutput p) := by
  unfold subscribeOutput
  split
  · exact grows_onStore Store.grows_subscribe
  · exact .pure Grows.frame _

theorem grows_replay (d : System.Declaration) : Keeps Grows (replay d) := by
  have frame := Grows.frame
  have create (t : Ticket) (description : String) : Keeps Grows (onStore (Store.create t description)) :=
    grows_onStore Store.grows_create
  have keep {f : Context → Context} (store : ∀ c, (f c).toStore = c.toStore)
      (parent : ∀ c, (f c).parent = c.parent) : Keeps Grows (modify f : SetUp PUnit) :=
    .modify fun c => ⟨(store c).symm ▸ Store.Grows.frame.refl _, parent c⟩
  cases d with
  | source s =>
      exact .bind frame (create _ _) fun _ => .bind frame (grows_onStore Store.grows_subscribe) fun _ =>
        keep (fun _ => rfl) (fun _ => rfl)
  | input index p =>
      exact .bind frame (create _ _) fun _ => .bind frame (grows_onStore Store.grows_subscribe) fun _ =>
        keep (fun _ => rfl) (fun _ => rfl)
  | entry index e =>
      refine .bind frame (grows_onStore Store.grows_addEntry) fun _ => .modify fun c => ?_
      refine grows_modifySlot ⟨fun slot => ?_, fun slot => .inl ?_⟩ index
      all_goals
        dsimp only
        split <;> rfl
  | output index p =>
      exact .bind frame (create _ _) fun _ => .bind frame (grows_subscribeOutput p) fun _ =>
        keep (fun _ => rfl) (fun _ => rfl)

theorem grows_setUp (id : SystemId) (s : System) (pathname : String) :
    Keeps Grows (setUp id s pathname) := by
  have frame := Grows.frame
  refine .bind frame (.get frame) ?_
  intro c
  split
  · exact .throw frame _
  · refine .bind frame (.modify fun c => ⟨Store.Grows.frame.refl _, rfl⟩) ?_
    intro _
    refine .bind frame (.forM frame fun d _ => grows_replay d) ?_
    intro _
    exact .modify fun c => ⟨Store.Grows.frame.refl _, rfl⟩

end Context

end Dataflow
