import Dataflow.Proofs.Tree.Lineage
import Mathlib.Data.List.Perm.Basic

namespace Dataflow.Tree
open Relation

variable {t t' : Tree} {top c c' other : ContextId} {bound bound' : Nat} {f : Context → Context}
  {ids ids' : List ContextId}

theorem WellFormed.of_mem_children (h : t.WellFormed) (mem : c ∈ t.children top) :
    top < c ∧ c < t.size := by
  have step := mem_children_iff.mp mem
  exact ⟨h.parents c top step, lt_size_of_parent step⟩

theorem WellFormed.children_eq_nil (h : t.WellFormed) (last : t.size ≤ top + 1) :
    t.children top = [] := by
  refine List.eq_nil_iff_forall_not_mem.mpr fun c mem => ?_
  obtain ⟨above, inside⟩ := h.of_mem_children mem
  exact Nat.not_lt_of_ge (Nat.le_trans last above) inside

theorem WellFormed.descendants_eq (h : t.WellFormed) (enough : t.size ≤ top + bound)
    (enough' : t.size ≤ top + bound') :
    Lineage.descendants t.children bound top = Lineage.descendants t.children bound' top := by
  induction bound generalizing top bound' with
  | zero =>
      have alone : t.children top = [] := h.children_eq_nil (Nat.le_succ_of_le enough)
      cases bound' <;> simp [Lineage.descendants, alone]
  | succ bound ih =>
      cases bound' with
      | zero =>
          have alone : t.children top = [] := h.children_eq_nil (Nat.le_succ_of_le enough')
          simp [Lineage.descendants, alone]
      | succ bound' =>
          simp only [Lineage.descendants]
          congr 1
          refine List.flatMap_congr fun c mem => ?_
          have enough_below {bound : Nat} (enough : t.size ≤ top + (bound + 1)) : t.size ≤ c + bound := by
            refine Nat.le_trans enough ?_
            rw [Nat.add_comm bound, ← Nat.add_assoc]
            exact Nat.add_le_add_right (h.of_mem_children mem).1 bound
          exact ih (enough_below enough) (enough_below enough')

theorem WellFormed.subtree_eq (h : t.WellFormed) :
    t.subtree top = top :: (t.children top).flatMap t.subtree := by
  have oneMore : t.subtree top = Lineage.descendants t.children (t.size + 1) top :=
    h.descendants_eq (Nat.le_add_left _ _) (Nat.le_trans (Nat.le_succ _) (Nat.le_add_left _ _))
  rw [oneMore]
  rfl

theorem Below.total (first : t.Below c top) (second : t.Below c' top) :
    t.Below c c' ∨ t.Below c' c := by
  have oneParent : Relator.RightUnique (Function.swap fun parent child => t.parent? child = some parent) :=
    fun child parent parent' step step' => Option.some.inj (step.symm.trans step')
  have up {c c' : ContextId} : ReflTransGen (Function.swap fun parent child =>
      t.parent? child = some parent) c c' ↔ t.Below c' c := reflTransGen_swap
  exact (ReflTransGen.total_of_right_unique oneParent (up.mpr first) (up.mpr second)).symm.imp up.mp up.mp

theorem WellFormed.disjoint_subtree (h : t.WellFormed) (child : c ∈ t.children top)
    (child' : c' ∈ t.children top) (different : c ≠ c') : (t.subtree c).Disjoint (t.subtree c') := by
  have apart {c c' : ContextId} (child : c ∈ t.children top) (child' : c' ∈ t.children top)
      (different : c ≠ c') : ¬ t.Below c c' := by
    intro below
    rcases ReflTransGen.cases_tail below with same | ⟨parent, below, step⟩
    · exact different same.symm
    · obtain rfl := Option.some.inj (step.symm.trans (mem_children_iff.mp child'))
      exact Nat.not_lt_of_ge (h.le_of_below below) (h.of_mem_children child).1
  intro common mem mem'
  rcases Below.total (h.mem_subtree_iff.mp mem) (h.mem_subtree_iff.mp mem') with below | below
  · exact apart child child' different below
  · exact apart child' child different.symm below

theorem WellFormed.nodup_subtree (h : t.WellFormed) (top : ContextId) : (t.subtree top).Nodup := by
  -- downwards: the children have greater numbers, so there are fewer levels below them
  rw [h.subtree_eq, List.nodup_cons, List.nodup_flatMap]
  refine ⟨fun mem => ?_, fun c child => ?_, ?_⟩
  · obtain ⟨c, child, mem⟩ := List.mem_flatMap.mp mem
    exact Nat.not_lt_of_ge (h.le_of_below (h.mem_subtree_iff.mp mem)) (h.of_mem_children child).1
  · exact nodup_subtree h c
  · have once : (t.children top).Nodup := List.nodup_range.filter _
    exact once.pairwise_of_forall_ne fun c child c' child' => h.disjoint_subtree child child'
termination_by t.size - top
decreasing_by exact Nat.sub_lt_sub_left (Nat.lt_trans (h.of_mem_children child).1
  (h.of_mem_children child).2) (h.of_mem_children child).1

theorem modifyContext_comm : (t.modifyContext c f).modifyContext c' f =
    (t.modifyContext c' f).modifyContext c f := by
  have contexts : ((t.contexts.modify c f).modify c' f) = ((t.contexts.modify c' f).modify c f) := by
    apply List.ext_getElem?
    intro i
    simp only [List.getElem?_modify]
    cases t.contexts[i]? with
    | none => rfl
    | some context => by_cases here : c = i <;> by_cases here' : c' = i <;> simp [here, here']
  simp only [modifyContext, contexts]

theorem foldl_modifyContext_perm (same : ids.Perm ids') :
    ids.foldl (fun t c => t.modifyContext c f) t = ids'.foldl (fun t c => t.modifyContext c f) t :=
  have : RightCommutative fun (t : Tree) (c : ContextId) => t.modifyContext c f :=
    ⟨fun _ _ _ => modifyContext_comm⟩
  same.foldl_eq t

theorem contexts_foldl_modifyContext (once : ids.Nodup) :
    (ids.foldl (fun t c => t.modifyContext c f) t).contexts[other]? =
      if other ∈ ids then t.contexts[other]?.map f else t.contexts[other]? := by
  induction ids generalizing t with
  | nil => simp
  | cons c rest ih =>
      obtain ⟨new, once⟩ := List.nodup_cons.mp once
      rw [List.foldl_cons, ih once, contexts_modifyContext]
      by_cases here : c = other
      · subst here
        simp [new]
      · simp [here, Ne.symm here]

/-- `t'` is `t` after the same change of all contexts at or below `top`. -/
structure ChangedBelow (t t' : Tree) (top : ContextId) (f : Context → Context) : Prop where
  links : t'.links = t.links
  config : t'.config = t.config
  size : t'.size = t.size
  below : ∀ c context, t.contexts[c]? = some context → t.Below top c →
    t'.contexts[c]? = some (f context)
  others : ∀ c context, t.contexts[c]? = some context → ¬ t.Below top c →
    t'.contexts[c]? = some context

theorem ChangedBelow.congr {g : Context → Context} (h : t.ChangedBelow t' top f)
    (same : ∀ context, f context = g context) : t.ChangedBelow t' top g :=
  (funext same : f = g) ▸ h

theorem WellFormed.changedBelow (h : t.WellFormed) (top : ContextId) (f : Context → Context) :
    t.ChangedBelow ((t.subtree top).foldl (fun t c => t.modifyContext c f) t) top f := by
  have rest (ids : List ContextId) (t : Tree) :
      (ids.foldl (fun t c => t.modifyContext c f) t).links = t.links ∧
        (ids.foldl (fun t c => t.modifyContext c f) t).config = t.config ∧
        (ids.foldl (fun t c => t.modifyContext c f) t).size = t.size := by
    induction ids generalizing t with
    | nil => exact ⟨rfl, rfl, rfl⟩
    | cons c ids ih =>
        obtain ⟨links, config, size⟩ := ih (t.modifyContext c f)
        exact ⟨links, config, size.trans (size_modifyContext t c f)⟩
  obtain ⟨links, config, size⟩ := rest (t.subtree top) t
  refine ⟨links, config, size, fun c context found below => ?_, fun c context found apart => ?_⟩
  · rw [contexts_foldl_modifyContext (h.nodup_subtree top), if_pos (h.mem_subtree_iff.mpr below), found,
      Option.map_some]
  · rw [contexts_foldl_modifyContext (h.nodup_subtree top),
      if_neg fun mem => apart (h.mem_subtree_iff.mp mem), found]

end Dataflow.Tree
