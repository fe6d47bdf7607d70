namespace Dataflow.Search

variable {α : Type} [DecidableEq α]

/-- Visits the nodes reachable from `pending` in turn; `merge fresh rest` is what is pending after a
visit that found `fresh`. -/
def visit (next : α → List α) (merge : List α → List α → List α) :
    Nat → List α → List α → List α
  | 0, _, _ => []
  | bound + 1, unseen, pending =>
      match pending.dropWhile (· ∉ unseen) with
      | [] => []
      | node :: rest =>
          node :: visit next merge bound (unseen.filter (· ≠ node)) (merge (next node) rest)

theorem mem_unseen_of_mem_visit {next : α → List α} {merge : List α → List α → List α} {bound : Nat}
    {unseen pending : List α} {node : α} (h : node ∈ visit next merge bound unseen pending) :
    node ∈ unseen := by
  induction bound generalizing unseen pending with
  | zero => simp [visit] at h
  | succ bound ih =>
      simp only [visit] at h
      split at h
      · simp at h
      · rename_i first rest found
        rcases List.mem_cons.1 h with rfl | later
        · have seen := List.head?_dropWhile_not (fun x => decide (x ∉ unseen)) pending
          rw [found] at seen
          simpa using seen
        · exact (List.mem_filter.1 (ih later)).1

theorem nodup_visit (next : α → List α) (merge : List α → List α → List α) (bound : Nat)
    (unseen pending : List α) : (visit next merge bound unseen pending).Nodup := by
  induction bound generalizing unseen pending with
  | zero => simp [visit]
  | succ bound ih =>
      simp only [visit]
      split
      · simp
      · rename_i node rest _
        refine List.nodup_cons.2 ⟨fun again => ?_, ih _ _⟩
        simpa using mem_unseen_of_mem_visit again

def breadthFirst (next : α → List α) (nodes : List α) (start : α) : List α :=
  visit next (fun fresh rest => rest ++ fresh) nodes.length nodes [start]

def depthFirst (next : α → List α) (nodes : List α) (start : α) : List α :=
  visit next (fun fresh rest => fresh.reverse ++ rest) nodes.length nodes [start]

end Dataflow.Search
