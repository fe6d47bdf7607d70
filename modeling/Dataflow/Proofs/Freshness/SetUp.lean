import Dataflow.Proofs.Freshness.Current
import Dataflow.Proofs.Graph.Edges

namespace Dataflow

namespace Graph

variable {g g' : Graph} {t subscriber prerequisite : Ticket} {k : Tracker} {f : Tracker → Tracker}

def KeepsSerials (g g' : Graph) : Prop :=
  ∀ t k, g.find? t = some k → ∃ k', g'.find? t = some k' ∧ k'.serial = k.serial

theorem KeepsSerials.refl : KeepsSerials g g := fun _ k found => ⟨k, found, rfl⟩

theorem KeepsSerials.trans {g'' : Graph} (first : KeepsSerials g g') (later : KeepsSerials g' g'') :
    KeepsSerials g g'' := by
  intro t k found
  obtain ⟨k', found', same'⟩ := first t k found
  obtain ⟨k'', found'', same''⟩ := later t k' found'
  exact ⟨k'', found'', same''.trans same'⟩

theorem keepsSerials_map (made : g'.trackers = g.trackers.map f) (ticket : ∀ k, (f k).ticket = k.ticket)
    (serial : ∀ k, (f k).serial = k.serial) : KeepsSerials g g' := by
  intro t k found
  refine ⟨f k, ?_, serial k⟩
  simp only [find?, made, List.find?_map, Function.comp_def, ticket] at found ⊢
  rw [found, Option.map_some]

theorem keepsSerials_own {entry : Nat} : KeepsSerials g (g.own t entry) := by
  refine keepsSerials_map rfl (fun k => ?_) fun k => ?_
  all_goals
    dsimp only
    split <;> rfl

theorem keepsSerials_create {description : String} (made : g.create t description = .ok g') :
    KeepsSerials g g' := by
  obtain ⟨-, -, rfl⟩ := create_eq_ok_iff.mp made
  intro u k found
  simp only [find?] at found ⊢
  exact ⟨k, by simp [found], rfl⟩

theorem keepsSerials_subscribe (made : g.subscribe subscriber prerequisite = .ok g') :
    KeepsSerials g g' := by
  obtain ⟨-, k, -, rfl⟩ := subscribe_eq_ok_iff.mp made
  split
  · exact .refl
  · exact keepsSerials_map trackers_link (fun _ => rfl) fun _ => rfl

end Graph

namespace Store

variable {s s' : Store} {t : Ticket} {index : Nat} {description : String}
  {prerequisites : List Ticket} {u : Unit}

structure Extends (s s' : Store) : Prop where
  graph : s.graph.KeepsSerials s'.graph
  cache : ∃ added : Cache, s'.cache = s.cache ++ added ∧ ∀ slot ∈ added, slot.computedAt = none

theorem Extends.frame : Frame Extends where
  refl s := ⟨.refl, [], by simp, by simp⟩
  trans first later := by
    obtain ⟨added, same, fresh⟩ := first.cache
    obtain ⟨added', same', fresh'⟩ := later.cache
    refine ⟨first.graph.trans later.graph, added ++ added', by simp [same', same], ?_⟩
    intro slot mem
    exact (List.mem_append.mp mem).elim (fresh slot) (fresh' slot)

theorem extends_onGraph {f : Graph → Except Error Graph}
    (h : ∀ g g', f g = .ok g' → g.KeepsSerials g') : Keeps Extends (onGraph f) := by
  apply keeps_onGraph Extends.frame
  intro s graph result
  exact ⟨h _ _ result, [], by simp, by simp⟩

theorem extends_create : Keeps Extends (create t description) :=
  extends_onGraph fun _ _ => Graph.keepsSerials_create

theorem extends_subscribe {p : Ticket} : Keeps Extends (subscribe t p) :=
  extends_onGraph fun _ _ => Graph.keepsSerials_subscribe

theorem extends_furnish : Keeps Extends (furnish index t description prerequisites) := by
  have frame := Extends.frame
  exact .bind frame (.modify fun s => ⟨Graph.keepsSerials_own, [], by simp, by simp⟩) fun _ =>
    .bind frame (.forM frame fun p _ => extends_subscribe) fun _ =>
      .modify fun s => ⟨.refl, _, rfl, by simp⟩

theorem extends_addEntry : Keeps Extends (addEntry index t description prerequisites) := by
  have frame := Extends.frame
  refine .bind frame (.get frame) ?_
  intro s
  split
  · exact .throw frame _
  · exact .bind frame extends_create fun _ => extends_furnish

end Store

namespace Context

variable {c c' : Context} {i : Nat} {α : Type}

def Extends (c c' : Context) : Prop := c.toStore.Extends c'.toStore

theorem Extends.frame : Frame Extends where
  refl _ := Store.Extends.frame.refl _
  trans := Store.Extends.frame.trans

theorem extends_onStore {f : Attempt Store α} (h : Keeps Store.Extends f) :
    Keeps Extends (onStore f) := by
  intro c
  have := h c.toStore
  simp only [KeepsAt, stateAfter, onStore] at this ⊢
  cases result : f c.toStore <;> rw [result] at this <;> exact this

theorem extends_subscribeOutput (p : OutputPort) : Keeps Extends (subscribeOutput p) := by
  unfold subscribeOutput
  split
  · exact extends_onStore Store.extends_subscribe
  · exact .pure Extends.frame _

theorem extends_replay_entry {index : Nat} {e : Entry} : Keeps Extends (replay (.entry index e)) := by
  intro c
  have added : Extends c
      (stateAfter (onStore (Store.addEntry index e.ticket e.description e.prerequisites)) c) :=
    extends_onStore Store.extends_addEntry c
  cases result : onStore (Store.addEntry index e.ticket e.description e.prerequisites) c with
  | error error c' =>
      rw [stateAfter_error result] at added
      simpa [KeepsAt, stateAfter, replay, bind_apply, result] using added
  | ok u c' =>
      rw [stateAfter_ok result] at added
      obtain ⟨s, made, rfl⟩ := onStore_eq_ok_iff.mp result
      obtain ⟨rfl, cache⟩ := Store.cache_addEntry made
      simp only [KeepsAt, stateAfter, replay, bind_apply, result]
      refine ⟨added.graph, _, (congrArg (List.modify · _ _) cache).trans (Cache.modify_last ..), ?_⟩
      intro slot mem
      rw [List.mem_singleton.mp mem]
      dsimp only
      split <;> rfl

theorem extends_replay (d : System.Declaration) : Keeps Extends (replay d) := by
  have frame := Extends.frame
  have create (t : Ticket) (description : String) :
      Keeps Extends (onStore (Store.create t description)) := extends_onStore Store.extends_create
  cases d with
  | source s =>
      exact .bind frame (create _ _) fun _ => .bind frame (extends_onStore Store.extends_subscribe)
        fun _ => .modify fun c => Store.Extends.frame.refl _
  | input index p =>
      exact .bind frame (create _ _) fun _ => .bind frame (extends_onStore Store.extends_subscribe)
        fun _ => .modify fun c => Store.Extends.frame.refl _
  | entry index e => exact extends_replay_entry
  | output index p =>
      exact .bind frame (create _ _) fun _ => .bind frame (extends_subscribeOutput p) fun _ =>
        .modify fun c => Store.Extends.frame.refl _

theorem extends_setUp (id : SystemId) (s : System) (pathname : String) :
    Keeps Extends (setUp id s pathname) := by
  have frame := Extends.frame
  refine .bind frame (.get frame) ?_
  intro c
  split
  · exact .throw frame _
  · exact .bind frame (.modify fun c => Store.Extends.frame.refl _) fun _ =>
      .bind frame (.forM frame fun d _ => extends_replay d) fun _ =>
        .modify fun c => Store.Extends.frame.refl _

theorem current_of_extends (wf : c.toStore.WellFormed) (h : Extends c c') :
    c'.Current i ↔ c.Current i := by
  obtain ⟨added, same, fresh⟩ := h.cache
  by_cases old : i < c.cache.length
  · obtain ⟨slot, found⟩ : ∃ slot, c.cache[i]? = some slot := ⟨_, List.getElem?_eq_getElem old⟩
    obtain ⟨k, tracked⟩ := Graph.mem_tickets_iff.mp (wf.tracked slot (List.mem_of_getElem? found))
    obtain ⟨k', tracked', serial⟩ := h.graph _ k tracked
    simp [Current, same, List.getElem?_append_left old, found, tracked, tracked', serial]
  · have absent : c.cache[i]? = none := List.getElem?_eq_none (Nat.le_of_not_lt old)
    have undated : ∀ slot, c'.cache[i]? = some slot → slot.computedAt = none := by
      intro slot found
      rw [same, List.getElem?_append_right (Nat.le_of_not_lt old)] at found
      exact fresh slot (List.mem_of_getElem? found)
    simp only [Current, absent, reduceCtorEq, false_and, exists_false, iff_false]
    rintro ⟨slot, k, found, -, computedAt⟩
    rw [undated slot found] at computedAt
    cases computedAt

end Context

theorem Tree.current_setUp {t : Tree} {id : SystemId} {s : System} {pathname : String} {c c' : ContextId}
    {i : Nat} (wf : t.WellFormed) :
    (stateAfter (Tree.onContext c (Context.setUp id s pathname)) t).Current c' i ↔ t.Current c' i := by
  simp only [stateAfter, onContext]
  cases found : t.contexts[c]? with
  | none => rfl
  | some context =>
      have grown : context.Extends (stateAfter (Context.setUp id s pathname) context) :=
        Context.extends_setUp id s pathname context
      have update {context' : Context} (h : context.Extends context') :
          (t.modifyContext c fun _ => context').Current c' i ↔ t.Current c' i :=
        current_modifyContext_of_iff fun old same =>
          Option.some.inj (found.symm.trans same) ▸ Context.current_of_extends (wf.context found) h
      cases result : Context.setUp id s pathname context <;>
        simp only [stateAfter, result] at grown ⊢ <;> exact update grown

end Dataflow
