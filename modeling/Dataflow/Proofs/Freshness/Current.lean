import Dataflow.Proofs.Evaluation.Outline
import Dataflow.Proofs.Tree.Lineage

namespace Dataflow

def Context.Current (c : Context) (i : Nat) : Prop :=
  ∃ slot k, c.cache[i]? = some slot ∧ c.graph.find? slot.ticket = some k ∧
    slot.computedAt = some k.serial

def Tree.Current (t : Tree) (c : ContextId) (i : Nat) : Prop :=
  ∃ context, t.contexts[c]? = some context ∧ context.Current i

namespace Context

variable {c c' : Context} {i j : Nat} {slot : Slot} {f : Slot → Slot}

theorem current_iff_of_slot (graph : c'.graph = c.graph) (h : ∀ slot, c.cache[i]? = some slot →
      ∃ slot', c'.cache[i]? = some slot' ∧ slot'.ticket = slot.ticket ∧
        slot'.computedAt = slot.computedAt)
    (absent : c.cache[i]? = none → c'.cache[i]? = none) : c'.Current i ↔ c.Current i := by
  cases found : c.cache[i]? with
  | none => simp [Current, found, absent found]
  | some slot =>
      obtain ⟨slot', found', ticket, computedAt⟩ := h slot found
      simp [Current, found, found', ticket, computedAt, graph]

theorem current_onSlots (ticket : ∀ s, (f s).ticket = s.ticket)
    (computedAt : ∀ s, (f s).computedAt = s.computedAt) (index : Option Nat) :
    (c.modifyCache (·.onSlots index f)).Current i ↔ c.Current i := by
  refine current_iff_of_slot rfl (fun slot found => ?_) (fun absent => ?_)
  · cases index with
    | none => exact ⟨f slot, by simp [modifyCache, Cache.onSlots, found], ticket slot, computedAt slot⟩
    | some index =>
        by_cases same : index = i
        · exact ⟨f slot, by simp [modifyCache, Cache.onSlots, found, same], ticket slot,
            computedAt slot⟩
        · exact ⟨slot, by simp [modifyCache, Cache.onSlots, found, same], rfl, rfl⟩
  · cases index <;> simp [modifyCache, Cache.onSlots, List.getElem?_modify, absent]

theorem not_current_markOutOfDate : ¬ (c.modifyCache (·.markOutOfDate)).Current i := by
  rintro ⟨slot, k, found, -, computedAt⟩
  simp only [modifyCache, Cache.markOutOfDate, List.getElem?_map, Option.map_eq_some_iff] at found
  obtain ⟨old, -, rfl⟩ := found
  cases computedAt

theorem current_modifySlot_ne (other : j ≠ i) : (c.modifySlot j f).Current i ↔ c.Current i := by
  simp [Current, modifySlot, other]

theorem current_modifySlot_self (found : c.cache[i]? = some slot) {k : Tracker}
    (tracked : c.graph.find? slot.ticket = some k) (ticket : (f slot).ticket = slot.ticket) :
    (c.modifySlot i f).Current i ↔ (f slot).computedAt = some k.serial := by
  simp [Current, modifySlot, found, ticket, tracked]

theorem current_stamped {graph : Graph} {touched : Ticket → Prop} (wf : c.toStore.WellFormed)
    (stamped : c.graph.Stamped graph touched) :
    Current { c with graph } i ↔
      c.Current i ∧ ∀ slot, c.cache[i]? = some slot → ¬ touched slot.ticket := by
  cases found : c.cache[i]? with
  | none => simp [Current, found]
  | some slot =>
      have mem := List.mem_of_getElem? found
      obtain ⟨k, tracked⟩ := Graph.mem_tickets_iff.mp (wf.tracked slot mem)
      by_cases reached : touched slot.ticket
      · obtain ⟨serial, above, -, tracked'⟩ := stamped.changed _ k tracked reached
        have past : slot.computedAt ≠ some serial := fun computed =>
          Nat.not_le_of_gt above (wf.computed slot mem serial computed)
        simp [Current, found, tracked', past, reached]
      · simp [Current, found, (stamped.kept _ reached).trans tracked, tracked, reached]

end Context

namespace Tree
open Evaluation

variable {t t' : Tree} {c c' : ContextId} {i i' : Nat} {slot : Slot} {n : Serial}

theorem current_iff_slotOf :
    t.Current c i ↔ ∃ slot n, slotOf t c i = .ok (slot, n) ∧ slot.computedAt = some n := by
  simp only [Current, Context.Current, slotOf_eq_ok_iff]
  constructor
  · rintro ⟨context, found, slot, k, foundSlot, tracked, computedAt⟩
    exact ⟨slot, k.serial, ⟨context, k, found, foundSlot, tracked, rfl⟩, computedAt⟩
  · rintro ⟨slot, n, ⟨context, k, found, foundSlot, tracked, rfl⟩, computedAt⟩
    exact ⟨context, found, slot, k, foundSlot, tracked, computedAt⟩

theorem current_iff_of_slotOf (found : slotOf t c i = .ok (slot, n)) :
    t.Current c i ↔ slot.computedAt = some n := by
  simp only [current_iff_slotOf, found, Except.ok.injEq, Prod.mk.injEq]
  constructor
  · rintro ⟨_, _, ⟨rfl, rfl⟩, computedAt⟩
    exact computedAt
  · intro computedAt
    exact ⟨slot, n, ⟨rfl, rfl⟩, computedAt⟩

theorem current_modifyContext {f : Context → Context} {P : Prop}
    (h : ∀ context, t.contexts[c]? = some context → ((f context).Current i ↔ context.Current i ∧ P)) :
    (t.modifyContext c f).Current c' i ↔ t.Current c' i ∧ (c = c' → P) := by
  simp only [Current, contexts_modifyContext]
  by_cases same : c = c'
  · subst same
    cases found : t.contexts[c]? with
    | none => simp
    | some context => simp [h context found]
  · simp [same]

theorem current_modifyContext_of_iff {f : Context → Context}
    (h : ∀ context, t.contexts[c]? = some context → ((f context).Current i ↔ context.Current i)) :
    (t.modifyContext c f).Current c' i ↔ t.Current c' i := by
  rw [current_modifyContext (P := True) fun context found => by simp [h context found]]
  simp

theorem current_stamped {touched : Location → Prop} (wf : t.WellFormed)
    (stamped : Stamped t t' touched) : t'.Current c i ↔ t.Current c i ∧
      ¬ ∃ context slot, t.contexts[c]? = some context ∧ context.cache[i]? = some slot ∧
        touched ⟨c, slot.ticket⟩ := by
  cases found : t.contexts[c]? with
  | none => simp [Current, found, stamped.contexts_eq_none found]
  | some context =>
      obtain ⟨graph, found', passes⟩ := stamped.contexts c context found
      simp [Current, found, found', Context.current_stamped (wf.context found) passes]

theorem current_modifySlot_ne {f : Slot → Slot} (other : ¬ (c = c' ∧ i = i')) :
    (t.modifySlot c i f).Current c' i' ↔ t.Current c' i' := by
  by_cases same : c = c'
  · exact current_modifyContext_of_iff fun context _ =>
      Context.current_modifySlot_ne fun index => other ⟨same, index⟩
  · simp [Current, modifySlot, contexts_modifyContext, same]

theorem current_modifySlot_self {f : Slot → Slot} (ticket : (f slot).ticket = slot.ticket)
    (found : slotOf t c i = .ok (slot, n)) :
    (t.modifySlot c i f).Current c i ↔ (f slot).computedAt = some n := by
  obtain ⟨context, k, foundContext, foundSlot, tracked, rfl⟩ := slotOf_eq_ok_iff.mp found
  simp [Current, modifySlot, contexts_modifyContext, foundContext,
    Context.current_modifySlot_self foundSlot tracked ticket]

theorem current_foldl {f : Context → Context} {P : Prop}
    (h : ∀ context : Context, (f context).Current i ↔ context.Current i ∧ P) (ids : List ContextId) :
    (ids.foldl (fun t c => t.modifyContext c f) t).Current c i ↔
      t.Current c i ∧ (c ∈ ids → P) := by
  induction ids generalizing t with
  | nil => simp
  | cons id rest ih =>
      rw [List.foldl_cons, ih, current_modifyContext fun context _ => h context, List.mem_cons]
      by_cases same : id = c
      · simp only [same, true_or, forall_const]
        tauto
      · simp [same, Ne.symm same]

theorem current_disableCaching (made : t.disableCaching c' = .ok t') :
    t'.Current c i ↔ t.Current c i := by
  obtain ⟨-, rfl⟩ := disableCaching_eq_ok_iff.mp made
  have kept (context : Context) :
      (context.modifyCache (·.disable)).Current i ↔ context.Current i ∧ True := by
    rw [and_true]
    exact Context.current_onSlots (f := Slot.disable) (fun _ => rfl) (fun _ => rfl) none
  simp [current_foldl kept]

theorem current_enableCaching (wf : t.WellFormed) (made : t.enableCaching c' = .ok t') :
    t'.Current c i ↔ t.Current c i ∧ ¬ t.Below c' c := by
  obtain ⟨-, rfl⟩ := enableCaching_eq_ok_iff.mp made
  have marked (context : Context) :
      (context.modifyCache fun cache => cache.enable.markOutOfDate).Current i ↔
        context.Current i ∧ False := by
    rw [and_false, iff_false]
    exact Context.not_current_markOutOfDate (c := context.modifyCache (·.enable))
  simp only [current_foldl marked, wf.mem_subtree_iff]

theorem not_below_of_current (wf : t.WellFormed) {e : Error} (failed : t.enableCaching c' = .error e)
    (current : t.Current c i) : ¬ t.Below c' c := by
  intro below
  obtain ⟨context, found, -⟩ := current
  have inside := (List.getElem?_eq_some_iff.mp found).1
  have bound := Nat.lt_of_le_of_lt (wf.le_of_below below) inside
  have made := enableCaching_eq_ok_iff.mpr ⟨⟨_, List.getElem?_eq_getElem bound⟩, rfl⟩
  rw [failed] at made
  cases made

theorem current_addContext {parent : Option ContextId} (made : t.addContext parent = .ok t') :
    t'.Current c i ↔ t.Current c i := by
  obtain ⟨rfl, -⟩ := contexts_addContext made
  simp only [Current]
  by_cases old : c < t.contexts.length
  · simp [List.getElem?_append_left old]
  · have new := Nat.le_of_not_lt old
    simp only [List.getElem?_append_right new, List.getElem?_eq_none new, List.getElem?_singleton]
    split <;> simp [Context.Current, Context.fresh]

end Tree

end Dataflow
