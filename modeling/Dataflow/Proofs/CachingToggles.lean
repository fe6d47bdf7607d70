import Dataflow.Proofs.Origin
import Dataflow.Proofs.Tree.ChildLists

/-!
# Switching caching below a context

A tree comes about by adding contexts below others that are there. Switching caching for a context then ends,
and comes to that context and all below it, once to each, and to no other; of these nothing
changes but the flags and the dates of the slots.
-/

namespace Dataflow

variable {l : ChildLists} {t t' : Tree} {id : ContextId} {s : Session}

namespace Tree

theorem Rests.parents (h : t.Rests t') : t'.parents = t.parents := by
  apply List.ext_getElem?
  intro c
  simp only [Tree.parents, List.getElem?_map]
  cases found : t.contexts[c]? with
  | none =>
      have outside : t'.size ≤ c := h.size ▸ List.getElem?_eq_none_iff.mp found
      rw [List.getElem?_eq_none outside]
  | some context =>
      obtain ⟨context', found', rests⟩ := h.contexts c context found
      have parent := congrArg Context.parent rests.skeleton
      rw [found', Option.map_some, Option.map_some]
      exact congrArg some parent

end Tree

namespace Run

variable {r : Run} {b : Blueprint} {system : SystemId} {c : ContextId} {parent : Option ContextId}

theorem parents_setUp : (stateAfter (setUp b system c) r).tree.parents = r.tree.parents := by
  rw [tree_setUp]
  cases found : r.tree.contexts[c]? with
  | none => rfl
  | some before =>
      refine Tree.parents_modifyContext fun context same => ?_
      obtain rfl := Option.some.inj (found.symm.trans same)
      have grown : before.Grows (stateAfter (Context.setUp system (b.system system) (b.pathname system))
          before) := Context.grows_setUp system (b.system system) (b.pathname system) before
      exact grown.parent

theorem follows_addContext (h : l.Follows r.tree) :
    (l.add parent).Follows (stateAfter (addContext parent) r).tree := by
  simp only [stateAfter, addContext_eq]
  cases made : r.tree.addContext parent with
  | ok t => exact h.added made
  | error e => exact h.refused made

theorem follows_createContext (h : l.Follows r.tree) :
    (l.add parent).Follows (stateAfter (createContext b system parent) r).tree := by
  cases made : r.tree.addContext parent with
  | ok t =>
      rw [tree_createContext made]
      exact (h.added made).changed parents_setUp
  | error e =>
      rw [tree_createContext_refused made]
      exact h.refused made

end Run

theorem Session.Reachable.follows (h : s.Reachable) : ∃ l : ChildLists, l.Follows s.tree := by
  induction h with
  | start config cells notices => exact ⟨.empty, .start config⟩
  | @apply s a reachable ih =>
      obtain ⟨l, follows⟩ := ih
      cases builds : a.builds with
      | false =>
          obtain ⟨-, rests⟩ := rests_apply a builds reachable.wellFormed
          exact ⟨l, follows.changed rests.parents⟩
      | true =>
          cases a with
          | addContext parent => exact ⟨l.add parent, Run.follows_addContext follows⟩
          | setUp id c => exact ⟨l, follows.changed Run.parents_setUp⟩
          | createContext id parent => exact ⟨l.add parent, Run.follows_createContext follows⟩
          | _ => cases builds

namespace ChildLists

variable {f : Context → Context}

theorem forAllBelow_known (wf : t.WellFormed) (follows : l.Follows t) (known : id < t.size) :
    l.forAllBelow f id t = .ok () ((t.subtree id).foldl (fun t c => t.modifyContext c f) t) := by
  have walked : l.walk f t [id] =
      .ok () (([id].flatMap t.subtree).foldl (fun t c => t.modifyContext c f) t) :=
    walk_eq wf follows.agrees.2 rfl (by simpa using known)
  rwa [List.flatMap_singleton] at walked

theorem forAllBelow_unknown (unknown : t.size ≤ id) :
    l.forAllBelow f id t = .error (.unknownContext id) t := by
  have absent : t.contexts[id]? = none := List.getElem?_eq_none unknown
  rw [forAllBelow, walk, absent]

end ChildLists

/-- Each session has lists of children with its tree. Along those, caching is disabled and enabled in exactly
the contexts that come to the given one by going to the parent again and again: the slots there get
another flag and, on enabling, lose their dates. Without the context, nothing changes. -/
theorem caching_toggles_exact :
    (∀ s : Session, s.Reachable → s.tree.WellFormed ∧ ∃ l : ChildLists, l.Follows s.tree) ∧
    ∀ (l : ChildLists) (t : Tree) (id : ContextId), t.WellFormed → l.Follows t →
      (id < t.size → ∃ disabled enabled : Tree,
        (l.disableCaching id t = .ok () disabled ∧ t.disableCaching id = .ok disabled ∧
          t.ChangedBelow disabled id fun context => { context with
            cache := context.cache.map fun slot => { slot with disabled := true } }) ∧
        l.enableCaching id t = .ok () enabled ∧ t.enableCaching id = .ok enabled ∧
          t.ChangedBelow enabled id fun context => { context with
            cache := context.cache.map fun slot =>
              { slot with disabled := false, computedAt := none } }) ∧
      (t.size ≤ id →
        (l.disableCaching id t = .error (.unknownContext id) t ∧
          t.disableCaching id = .error (.unknownContext id)) ∧
        l.enableCaching id t = .error (.unknownContext id) t ∧
          t.enableCaching id = .error (.unknownContext id)) := by
  refine ⟨fun s reachable => ⟨reachable.wellFormed, reachable.follows⟩, fun l t id wf follows =>
    ⟨fun known => ?_, fun unknown => ?_⟩⟩
  · have found : ∃ context, t.contexts[id]? = some context := ⟨_, List.getElem?_eq_getElem known⟩
    refine ⟨_, _, ⟨ChildLists.forAllBelow_known wf follows known,
      Tree.disableCaching_eq_ok_iff.mpr ⟨found, rfl⟩, wf.changedBelow id _⟩,
      ChildLists.forAllBelow_known wf follows known, Tree.enableCaching_eq_ok_iff.mpr ⟨found, rfl⟩, ?_⟩
    refine (wf.changedBelow id _).congr fun context => ?_
    simp [Context.modifyCache, Cache.enable, Cache.markOutOfDate, Function.comp_def, Slot.enable,
      Slot.markOutOfDate]
  · have unreached : t.context id = .error (.unknownContext id) := by
      simp [Tree.context, List.getElem?_eq_none unknown]
    refine ⟨⟨ChildLists.forAllBelow_unknown unknown, ?_⟩, ChildLists.forAllBelow_unknown unknown, ?_⟩
    · simp [Tree.disableCaching, unreached, bind, Except.bind]
    · simp [Tree.enableCaching, unreached, bind, Except.bind]

namespace Session

def orchard : Session := (start {} [] {}).perform
  [.addSystem "tree" "Tree" "", .declare 0 (.entry "height" .unit .finish [.time]),
    .createContext 0 none, .createContext 0 none, .createContext 0 (some 0), .createContext 0 (some 2),
    .createContext 0 (some 1), .disableBelow 0, .createContext 0 (some 7)]

theorem orchard_toggled : ∃ (l : ChildLists) (enabled : Tree), l.Follows orchard.tree ∧
    l.enableCaching 2 orchard.tree = .ok () enabled ∧
      orchard.tree.contexts.map (·.cache.map (·.disabled)) = [[true], [false], [true], [true], [false]] ∧
      enabled.contexts.map (·.cache.map (·.disabled)) = [[true], [false], [false], [false], [false]] ∧
      l.enableCaching 5 orchard.tree = .error (.unknownContext 5) orchard.tree := by
  obtain ⟨wf, l, follows⟩ := caching_toggles_exact.1 orchard ((Reachable.start {} [] {}).perform _)
  have toggles := caching_toggles_exact.2 l orchard.tree
  obtain ⟨disabled, enabled, -, walked, made, -⟩ := (toggles 2 wf follows).1 (by decide +kernel)
  obtain ⟨-, unknown, -⟩ := (toggles 5 wf follows).2 (by decide +kernel)
  have flags : (orchard.tree.enableCaching 2).toOption.map (fun t =>
      t.contexts.map (·.cache.map (·.disabled))) = some [[true], [false], [false], [false], [false]] := by
    decide +kernel
  rw [made] at flags
  exact ⟨l, enabled, follows, walked, by decide +kernel, Option.some.inj flags, unknown⟩

end Session

end Dataflow
