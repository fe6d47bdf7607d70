import Dataflow.Proofs.Evaluation.Outline
import Mathlib.Data.Finset.Card

namespace Dataflow
open Evaluation

def Context.value? (context : Context) (i : Nat) : Option Value := context.cache[i]?.bind (·.value)

theorem Context.value?_onSlots {context : Context} {i : Nat} {f : Slot → Slot}
    (keeps : ∀ s, (f s).value = s.value) (index : Option Nat) :
    (context.modifyCache (·.onSlots index f)).value? i = context.value? i := by
  simp only [value?, modifyCache]
  cases index with
  | none =>
      simp only [Cache.onSlots, List.getElem?_map]
      cases context.cache[i]? <;> simp [keeps]
  | some index =>
      simp only [Cache.onSlots, List.getElem?_modify]
      cases context.cache[i]? with
      | none => rfl
      | some slot => by_cases same : index = i <;> simp [same, keeps]

abbrev Place := ContextId × Nat

namespace Tree

variable {t : Tree} {c c' id : ContextId} {i i' : Nat} {slot : Slot} {n : Serial} {f : Slot → Slot}
  {p : Place}

def value? (t : Tree) (c : ContextId) (i : Nat) : Option Value :=
  t.contexts[c]?.bind (·.value? i)

theorem value?_of_slotOf (found : slotOf t c i = .ok (slot, n)) : t.value? c i = slot.value := by
  obtain ⟨context, k, foundContext, foundSlot, -, -⟩ := slotOf_eq_ok_iff.mp found
  simp [value?, foundContext, Context.value?, foundSlot]

theorem value?_modifyContext {f : Context → Context}
    (keeps : ∀ context, (f context).value? i = context.value? i) :
    (t.modifyContext id f).value? c i = t.value? c i := by
  simp only [value?, contexts_modifyContext]
  split
  · cases t.contexts[c]? <;> simp [keeps]
  · rfl

theorem value?_modifySlot_self (found : slotOf t c i = .ok (slot, n)) :
    (t.modifySlot c i f).value? c i = (f slot).value := by
  obtain ⟨context, k, foundContext, foundSlot, -, -⟩ := slotOf_eq_ok_iff.mp found
  simp [value?, modifySlot, contexts_modifyContext, foundContext, Context.value?, Context.modifySlot,
    foundSlot]

theorem value?_modifySlot_ne (other : ¬ (c = c' ∧ i = i')) :
    (t.modifySlot c i f).value? c' i' = t.value? c' i' := by
  simp only [value?, modifySlot, contexts_modifyContext]
  by_cases same : c = c'
  · have index : i ≠ i' := fun index => other ⟨same, index⟩
    subst same
    cases t.contexts[c]? <;> simp [Context.value?, Context.modifySlot, index]
  · simp [same]

def places (t : Tree) : List Place :=
  t.contexts.zipIdx.flatMap fun (context, c) => (List.range context.cache.length).map (c, ·)

theorem length_places : t.places.length = t.slotCount := by
  have lengths (contexts : List Context) (first : Nat) :
      ((contexts.zipIdx first).flatMap fun (context, c) =>
        (List.range context.cache.length).map (c, ·)).length =
      (contexts.flatMap (·.cache)).length := by
    induction contexts generalizing first with
    | nil => rfl
    | cons context rest ih => simp [List.flatMap_cons, ih (first + 1)]
  exact lengths t.contexts 0

theorem mem_places_of_value? {v : Value} (held : t.value? c i = some v) : (c, i) ∈ t.places := by
  obtain ⟨context, found, held⟩ := Option.bind_eq_some_iff.mp held
  obtain ⟨slot, foundSlot, -⟩ := Option.bind_eq_some_iff.mp held
  refine List.mem_flatMap.mpr ⟨(context, c), List.mk_mem_zipIdx_iff_getElem?.mpr found, ?_⟩
  exact List.mem_map.mpr ⟨i, List.mem_range.mpr (List.getElem?_eq_some_iff.mp foundSlot).1, rfl⟩

def filled (t : Tree) : Finset Place := t.places.toFinset.filter fun p => (t.value? p.1 p.2).isSome

theorem mem_filled_iff : p ∈ t.filled ↔ (t.value? p.1 p.2).isSome := by
  simp only [filled, Finset.mem_filter, List.mem_toFinset, and_iff_right_iff_imp]
  intro held
  obtain ⟨v, held⟩ := Option.isSome_iff_exists.mp held
  exact mem_places_of_value? held

theorem card_filled_le : t.filled.card ≤ t.slotCount :=
  calc t.filled.card ≤ t.places.toFinset.card := Finset.card_filter_le _ _
    _ ≤ t.places.length := t.places.toFinset_card_le
    _ = t.slotCount := length_places

theorem mem_filled_of_slotOf (found : slotOf t c i = .ok (slot, n)) :
    (c, i) ∈ t.filled ↔ slot.value.isSome := by
  rw [mem_filled_iff, value?_of_slotOf found]

theorem filled_modifySlot (keeps : ∀ s, (f s).value = s.value) :
    (t.modifySlot c i f).filled = t.filled := by
  ext p
  have same : (t.modifySlot c i f).value? p.1 p.2 = t.value? p.1 p.2 :=
    value?_modifyContext fun context => Context.value?_onSlots keeps (some i)
  rw [mem_filled_iff, mem_filled_iff, same]

theorem mem_filled_modifySlot (found : slotOf t c i = .ok (slot, n)) :
    p ∈ (t.modifySlot c i f).filled ↔
      if p = (c, i) then (f slot).value.isSome = true else p ∈ t.filled := by
  split
  · rename_i same
    subst same
    rw [mem_filled_iff, value?_modifySlot_self found]
  · rename_i other
    have other : ¬ (c = p.1 ∧ i = p.2) := fun same => other (Prod.ext same.1.symm same.2.symm)
    rw [mem_filled_iff, mem_filled_iff, value?_modifySlot_ne other]

theorem filled_emptied (found : slotOf t c i = .ok (slot, n)) :
    (t.modifySlot c i Slot.emptied).filled = t.filled.erase (c, i) := by
  ext p
  by_cases same : p = (c, i) <;> simp [mem_filled_modifySlot found, same, Slot.emptied]

theorem filled_ending {current : Serial} {out : Value} {outcome : Outcome}
    (found : slotOf t c i = .ok (slot, n)) :
    (t.modifySlot c i (·.ending current out outcome)).filled = insert (c, i) t.filled := by
  ext p
  by_cases same : p = (c, i) <;>
    simp [mem_filled_modifySlot found, same, Slot.ending, Slot.restored]

theorem size_of_outline {t' : Tree} (same : t'.outline = t.outline) : t'.size = t.size := by
  have sizes := congrArg Tree.size same
  simpa only [outline, size, List.length_map] using sizes

theorem slotCount_of_outline {t' : Tree} (same : t'.outline = t.outline) :
    t'.slotCount = t.slotCount := by
  have count (t : Tree) : t.outline.slotCount = t.slotCount := by
    simp only [outline, slotCount, List.flatMap_map, List.length_flatMap, Context.outline,
      List.length_map]
  rw [← count t', same, count t]

theorem depthBound_of_outline {t' : Tree} (same : t'.outline = t.outline) :
    t'.depthBound = t.depthBound := by
  rw [depthBound, depthBound, slotCount_of_outline same, size_of_outline same]

end Tree

namespace Evaluation

variable {r r' : Run}

def Balanced (r r' : Run) : Prop := Keeping r r' ∧ r'.tree.filled = r.tree.filled

theorem Balanced.frame : Frame Balanced where
  refl r := ⟨Keeping.frame.refl r, rfl⟩
  trans first later := ⟨Keeping.frame.trans first.1 later.1, later.2.trans first.2⟩

theorem balanced_of_tree (same : r'.tree = r.tree) : Balanced r r' :=
  ⟨keeping_of_tree same, congrArg Tree.filled same⟩

theorem balanced (b : Blueprint) : Respects b Balanced where
  frame := Balanced.frame
  cells _ _ := balanced_of_tree rfl
  usePort _ _ _ _ := balanced_of_tree tree_usePort
  served r c index slot current v found fresh :=
    ⟨(keeping b).served r c index slot current v found fresh, Tree.filled_modifySlot fun _ => rfl⟩
  refused r c index slot current found running :=
    ⟨(keeping b).refused r c index slot current found running, Tree.filled_modifySlot fun _ => rfl⟩
  produced r r' c index e slot current v out outcome found stale value inner := by
    have keep := (keeping b).produced r r' c index e slot current v out outcome found stale value inner.1
    refine ⟨keep, ?_⟩
    have begun : Keeping r (r.beginProducer c index) :=
      keeping_modifySlot (fun _ => rfl) undated_emptied
    obtain ⟨slot', found', -⟩ := slotOf_of_outline (Keeping.frame.trans begun inner.1).1 found
    have full : (c, index) ∈ r.tree.filled := by simp [Tree.mem_filled_of_slotOf found, value]
    calc (r'.endProducer c index e current out outcome).tree.filled
        = insert (c, index) r'.tree.filled := by rw [tree_endProducer, Tree.filled_ending found']
      _ = insert (c, index) (r.tree.filled.erase (c, index)) := by
          rw [inner.2]
          exact congrArg _ (Tree.filled_emptied found)
      _ = r.tree.filled := Finset.insert_erase full

end Evaluation

end Dataflow
