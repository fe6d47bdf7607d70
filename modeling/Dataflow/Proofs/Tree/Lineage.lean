import Dataflow.Proofs.Tree.WellFormed
import Mathlib.Logic.Relation

namespace Dataflow.Tree
open Relation

variable {t t' : Tree} {top c p id : ContextId} {bound : Nat}

def Below (t : Tree) (top c : ContextId) : Prop :=
  ReflTransGen (fun parent child => t.parent? child = some parent) top c

theorem lt_size_of_parent (step : t.parent? c = some p) : c < t.size := by
  by_contra outside
  simp [parent?, List.getElem?_eq_none (Nat.le_of_not_lt outside)] at step

theorem mem_children_iff : c ∈ t.children p ↔ t.parent? c = some p := by
  simpa [children] using lt_size_of_parent

theorem WellFormed.le_of_below (h : t.WellFormed) (below : t.Below top c) : top ≤ c := by
  induction below with
  | refl => exact Nat.le_refl top
  | tail _ step ih => exact Nat.le_trans ih (Nat.le_of_lt (h.parents _ _ step))

theorem WellFormed.mem_descendants_iff (h : t.WellFormed) (enough : t.size ≤ top + bound) :
    c ∈ Lineage.descendants t.children bound top ↔ t.Below top c := by
  have inside {child : ContextId} {parent : ContextId} (step : t.parent? child = some parent) :
      parent < child ∧ child < t.size := by
    refine ⟨h.parents _ _ step, ?_⟩
    by_contra outside
    simp [parent?, List.getElem?_eq_none (Nat.le_of_not_lt outside)] at step
  -- a child has a greater number than its parent, so that a level less suffices below it
  induction bound generalizing top with
  | zero =>
      simp only [Lineage.descendants, List.mem_singleton]
      refine ⟨fun same => same ▸ .refl, ?_⟩
      intro below
      rcases ReflTransGen.cases_head below with same | ⟨child, step, -⟩
      · exact same.symm
      · obtain ⟨above, bounded⟩ := inside step
        exact absurd enough (Nat.not_le_of_gt (Nat.lt_trans above bounded))
  | succ bound ih =>
      simp only [Lineage.descendants, List.mem_cons, List.mem_flatMap, mem_children_iff]
      have child_enough {child : ContextId} (step : t.parent? child = some top) :
          t.size ≤ child + bound := by
        refine Nat.le_trans enough ?_
        rw [Nat.add_comm bound, ← Nat.add_assoc]
        exact Nat.add_le_add_right (inside step).1 bound
      constructor
      · rintro (rfl | ⟨child, step, below⟩)
        · exact .refl
        · exact .head step ((ih (child_enough step)).mp below)
      · intro below
        rcases ReflTransGen.cases_head below with same | ⟨child, step, below⟩
        · exact .inl same.symm
        · exact .inr ⟨child, step, (ih (child_enough step)).mpr below⟩

theorem WellFormed.mem_subtree_iff (h : t.WellFormed) : c ∈ t.subtree top ↔ t.Below top c :=
  h.mem_descendants_iff (Nat.le_add_left _ _)

def parents (t : Tree) : List (Option ContextId) := t.contexts.map (·.parent)

theorem children_congr (same : t'.parents = t.parents) : t'.children c = t.children c := by
  have size (t : Tree) : t.size = t.parents.length := by simp [Tree.size, parents]
  have parent (t : Tree) (id : ContextId) : t.parent? id = t.parents[id]?.join := by
    simp only [parent?, parents, List.getElem?_map]
    cases t.contexts[id]? <;> rfl
  simp only [children, size, parent, same]

theorem parents_modifyContext {f : Context → Context}
    (keeps : ∀ context, t.contexts[id]? = some context → (f context).parent = context.parent) :
    (t.modifyContext id f).parents = t.parents := by
  apply List.ext_getElem?
  intro i
  simp only [parents, List.getElem?_map, contexts_modifyContext]
  split
  · rename_i here
    subst here
    cases found : t.contexts[id]? with
    | none => rfl
    | some context => simp [keeps context found]
  · rfl

end Dataflow.Tree
