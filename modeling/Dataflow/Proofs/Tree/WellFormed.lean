import Dataflow.Proofs.Context
import Dataflow.Tree.Inputs

namespace Dataflow

namespace Tree

variable {t t' : Tree} {id other : ContextId} {c c' : Context} {f : Context → Context}
  {l l' : Location}

def Tracks (t : Tree) (l : Location) : Prop :=
  ∃ c, t.contexts[l.context]? = some c ∧ l.ticket ∈ c.graph.tickets

structure WellFormed (t : Tree) : Prop where
  contexts : ∀ c ∈ t.contexts, c.toStore.WellFormed
  links : ∀ k ∈ t.links, t.Tracks k.prerequisite ∧ t.Tracks k.subscriber
  parents : ∀ id p, t.parent? id = some p → p < id

theorem WellFormed.context (h : t.WellFormed) (found : t.contexts[id]? = some c) :
    c.toStore.WellFormed :=
  h.contexts c (List.mem_of_getElem? found)

theorem context_eq_ok_iff : t.context id = .ok c ↔ t.contexts[id]? = some c := by
  cases found : t.contexts[id]? <;> simp [Tree.context, found]

theorem contexts_modifyContext :
    (t.modifyContext id f).contexts[other]? =
      if id = other then t.contexts[other]?.map f else t.contexts[other]? := by
  simp only [modifyContext, List.getElem?_modify]
  split <;> simp

theorem contexts_modifyContext_self (found : t.contexts[id]? = some c) :
    (t.modifyContext id f).contexts[id]? = some (f c) := by
  simp [contexts_modifyContext, found]

theorem contexts_modifyContext_ne (other_ne : id ≠ other) :
    (t.modifyContext id f).contexts[other]? = t.contexts[other]? := by
  simp [contexts_modifyContext, other_ne]

theorem Tracks.modifyContext (h : t.Tracks l)
    (tickets : ∀ c, t.contexts[id]? = some c → c.graph.tickets ⊆ (f c).graph.tickets) :
    (t.modifyContext id f).Tracks l := by
  obtain ⟨c, found, mem⟩ := h
  by_cases same : id = l.context
  · subst same
    exact ⟨f c, contexts_modifyContext_self found, tickets c found mem⟩
  · exact ⟨c, (contexts_modifyContext_ne same).trans found, mem⟩

theorem WellFormed.modifyContext (h : t.WellFormed)
    (grows : ∀ c, t.contexts[id]? = some c → c.Grows (f c)) : (t.modifyContext id f).WellFormed where
  contexts := by
    intro c mem
    obtain ⟨other, found⟩ := List.mem_iff_getElem?.mp mem
    rw [contexts_modifyContext] at found
    split at found
    · rename_i same
      subst same
      obtain ⟨old, foundOld, rfl⟩ := Option.map_eq_some_iff.mp found
      exact (grows old foundOld).store.wellFormed (h.context foundOld)
    · exact h.context found
  links k mem :=
    have tickets c found := (grows c found).store.tickets
    ⟨(h.links k mem).1.modifyContext tickets, (h.links k mem).2.modifyContext tickets⟩
  parents child p step := by
    refine h.parents child p ?_
    simp only [parent?, contexts_modifyContext] at step ⊢
    split at step
    · rename_i same
      subst same
      cases found : t.contexts[id]? with
      | none => simp [found] at step
      | some c => simpa [found, (grows c found).parent] using step
    · exact step

end Tree

end Dataflow
