import Dataflow.Proofs.Evaluation.Steps
import Dataflow.Proofs.Tree.Operations

namespace Dataflow

def Slot.outline (s : Slot) : Slot := { s with value := none, computedAt := none, metrics := {} }

def Context.outline (c : Context) : Context := { c with cache := c.cache.map Slot.outline }

def Tree.outline (t : Tree) : Tree := { t with contexts := t.contexts.map Context.outline }

namespace Tree

variable {t t' : Tree} {id : ContextId} {index : Nat} {c c' : Context} {slot : Slot}
  {current : Serial}

theorem outline_modifySlot {f : Slot → Slot} (keeps : ∀ s, (f s).outline = s.outline) :
    (t.modifySlot id index f).outline = t.outline := by
  have cache (c : Context) : (c.modifySlot index f).outline = c.outline := by
    simp only [Context.outline, Context.modifySlot, Context.mk.injEq, Store.mk.injEq, true_and,
      and_true]
    apply List.ext_getElem?
    intro i
    simp only [List.getElem?_map, List.getElem?_modify]
    cases c.cache[i]? with
    | none => rfl
    | some s => by_cases same : index = i <;> simp [same, keeps]
  simp only [outline, modifySlot, modifyContext, Tree.mk.injEq, and_true]
  apply List.ext_getElem?
  intro i
  simp only [List.getElem?_map, List.getElem?_modify]
  cases t.contexts[i]? with
  | none => rfl
  | some c => by_cases same : id = i <;> simp [same, cache]

theorem contexts_of_outline (same : t'.outline = t.outline) (found : t.contexts[id]? = some c) :
    ∃ c', t'.contexts[id]? = some c' ∧ c'.outline = c.outline := by
  have contexts := congrArg (fun t : Tree => t.contexts[id]?) same
  simp only [outline, List.getElem?_map, found, Option.map_some] at contexts
  exact Option.map_eq_some_iff.mp contexts

theorem graph_of_outline (same : c'.outline = c.outline) : c'.graph = c.graph := by
  have graphs := congrArg (fun c : Context => c.graph) same
  exact graphs

theorem slot_of_outline (same : c'.outline = c.outline) (found : c.cache[index]? = some slot) :
    ∃ slot', c'.cache[index]? = some slot' ∧ slot'.outline = slot.outline := by
  have slots := congrArg (fun c : Context => c.cache[index]?) same
  simp only [Context.outline, List.getElem?_map, found, Option.map_some] at slots
  exact Option.map_eq_some_iff.mp slots

end Tree

namespace Evaluation

variable {t t' : Tree} {c : ContextId} {index : Nat} {slot : Slot} {current : Serial}

theorem slotOf_eq_ok_iff : slotOf t c index = .ok (slot, current) ↔
    ∃ context k, t.contexts[c]? = some context ∧ context.cache[index]? = some slot ∧
      context.graph.find? slot.ticket = some k ∧ k.serial = current := by
  simp only [slotOf, bind, Except.bind]
  cases found : t.contexts[c]? with
  | none => simp [Tree.context, found]
  | some context =>
      simp only [Tree.context_eq_ok_iff.mpr found]
      cases foundSlot : context.cache[index]? with
      | none => simp [throw, throwThe, MonadExceptOf.throw, foundSlot]
      | some s =>
          dsimp only
          cases tracked : context.graph.find? s.ticket with
          | none =>
              simp only [Graph.tracker, tracked, reduceCtorEq, false_iff]
              rintro ⟨_, k, ⟨rfl⟩, same, tracked', -⟩
              obtain rfl := Option.some.inj (foundSlot.symm.trans same)
              rw [tracked] at tracked'
              cases tracked'
          | some k =>
              simp only [Graph.tracker_eq_ok_iff.mpr tracked, pure, Except.pure, Except.ok.injEq,
                Prod.mk.injEq]
              constructor
              · rintro ⟨rfl, rfl⟩
                exact ⟨context, k, rfl, foundSlot, tracked, rfl⟩
              · rintro ⟨_, k', ⟨rfl⟩, same, tracked', rfl⟩
                obtain rfl := Option.some.inj (foundSlot.symm.trans same)
                obtain rfl := Option.some.inj (tracked.symm.trans tracked')
                exact ⟨rfl, rfl⟩

theorem slotOf_of_outline (same : t'.outline = t.outline)
    (found : slotOf t c index = .ok (slot, current)) :
    ∃ slot', slotOf t' c index = .ok (slot', current) ∧ slot'.outline = slot.outline := by
  obtain ⟨context, k, foundContext, foundSlot, tracked, serial⟩ := slotOf_eq_ok_iff.mp found
  obtain ⟨context', foundContext', sameContext⟩ := Tree.contexts_of_outline same foundContext
  obtain ⟨slot', foundSlot', sameSlot⟩ := Tree.slot_of_outline sameContext foundSlot
  have ticket : slot'.ticket = slot.ticket := congrArg (·.ticket) sameSlot
  refine ⟨slot', slotOf_eq_ok_iff.mpr ⟨context', k, foundContext', foundSlot', ?_, serial⟩, sameSlot⟩
  rw [Tree.graph_of_outline sameContext, ticket]
  exact tracked

def Keeping (r r' : Run) : Prop :=
  r'.tree.outline = r.tree.outline ∧ (r.tree.WellFormed → r'.tree.WellFormed)

theorem Keeping.frame : Frame Keeping where
  refl _ := ⟨rfl, id⟩
  trans first later := ⟨later.1.trans first.1, later.2 ∘ first.2⟩

theorem keeping_of_tree {r r' : Run} (same : r'.tree = r.tree) : Keeping r r' := by
  rw [Keeping, same]
  exact ⟨rfl, id⟩

theorem keeping_modifySlot {r : Run} {f : Slot → Slot} (keeps : ∀ s, (f s).outline = s.outline)
    (undated : Slot.Undated f) : Keeping r (r.modifySlot c index f) :=
  ⟨Tree.outline_modifySlot keeps, fun h => h.modifyCache undated (some index)⟩

theorem tree_reportPort {r : Run} {b : Blueprint} {id : SystemId} {kind : PortKind} {index : Nat} :
    (r.reportPort b id kind index).2.tree = r.tree := by
  unfold Run.reportPort
  dsimp only
  split
  · rfl
  · split
    · rfl
    · split <;> rfl

theorem tree_usePort {r : Run} {b : Blueprint} {id : SystemId} {kind : PortKind} {index : Nat} :
    (r.usePort b id kind index).tree = r.tree := by
  unfold Run.usePort
  split
  · exact tree_reportPort
  · rfl

theorem undated_recordHit : Slot.Undated Slot.recordHit := ⟨fun _ => rfl, fun _ => .inr ⟨rfl, id⟩⟩

theorem undated_emptied : Slot.Undated Slot.emptied := ⟨fun _ => rfl, fun _ => .inl rfl⟩

theorem tree_endProducer {r : Run} {e : Entry} {out : Value} {outcome : Outcome} :
    (r.endProducer c index e current out outcome).tree =
      r.tree.modifySlot c index (·.ending current out outcome) := by
  unfold Run.endProducer
  dsimp only
  split <;> rfl

theorem log_endProducer {r : Run} {e : Entry} {out : Value} {outcome : Outcome} :
    (r.endProducer c index e current out outcome).log = r.log ++ .ended c index outcome ::
      if outcome = .value then [.recomputed e.description current] else [] := by
  unfold Run.endProducer
  dsimp only
  split <;> simp [Run.note, Run.modifySlot]

theorem ticket_ending {out : Value} {outcome : Outcome} :
    (slot.ending current out outcome).ticket = slot.ticket := by
  unfold Slot.ending
  dsimp only
  split <;> rfl

theorem outline_ending {out : Value} {outcome : Outcome} :
    (slot.ending current out outcome).outline = slot.outline := by
  unfold Slot.ending
  dsimp only
  split <;> rfl

theorem keeping_endProducer {r : Run} {e : Entry} {out : Value} {outcome : Outcome}
    (found : slotOf r.tree c index = .ok (slot, current)) :
    Keeping r (r.endProducer c index e current out outcome) := by
  rw [Keeping, tree_endProducer]
  refine ⟨Tree.outline_modifySlot fun _ => outline_ending, ?_⟩
  intro h
  obtain ⟨context, k, foundContext, foundSlot, tracked, rfl⟩ := slotOf_eq_ok_iff.mp found
  apply h.modifyContext
  intro context' foundContext'
  obtain rfl := Option.some.inj (foundContext.symm.trans foundContext')
  have bound := (h.context foundContext).graph.serials k (Graph.mem_of_find? tracked)
  refine ⟨⟨fun store => store.dated (fun _ => ticket_ending) (fun s => ?_) (fun s n at_ => ?_)
    (some index), List.Subset.refl _⟩, rfl⟩
  · simp [Slot.ending, Slot.restored]
  · simp only [Slot.ending, Slot.restored, Option.ite_none_right_eq_some, Option.some.injEq] at at_
    exact at_.2 ▸ bound

theorem keeping (b : Blueprint) : Respects b Keeping where
  frame := Keeping.frame
  cells _ _ := keeping_of_tree rfl
  usePort _ _ _ _ := keeping_of_tree tree_usePort
  served _ _ _ _ _ _ _ _ := keeping_modifySlot (fun _ => rfl) undated_recordHit
  refused _ _ _ _ _ _ _ := keeping_modifySlot (fun _ => rfl) Tree.undated_markOutOfDate
  produced r r' c index e slot current v out outcome found stale value inner := by
    have begun : Keeping r (r.beginProducer c index) :=
      keeping_modifySlot (fun _ => rfl) undated_emptied
    have upToEnd := Keeping.frame.trans begun inner
    obtain ⟨slot', found', -⟩ := slotOf_of_outline upToEnd.1 found
    exact Keeping.frame.trans upToEnd (keeping_endProducer found')

end Evaluation

end Dataflow
