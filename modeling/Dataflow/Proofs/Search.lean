import Dataflow.Search
import Mathlib.Data.List.TakeWhile
import Mathlib.Logic.Relation

namespace Dataflow.Search
open Relation

variable {α : Type} [DecidableEq α]

def Leads (next : α → List α) (a b : α) : Prop := b ∈ next a

theorem length_filter_ne_lt {nodes : List α} {node : α} (mem : node ∈ nodes) :
    (nodes.filter (· ≠ node)).length < nodes.length :=
  List.length_filter_lt_length_iff_exists.mpr ⟨node, mem, by simp⟩

theorem dropWhile_seen {unseen pending rest : List α} {node : α}
    (h : pending.dropWhile (· ∉ unseen) = node :: rest) :
    node ∈ unseen ∧ ∀ p ∈ pending, p ∈ unseen → p = node ∨ p ∈ rest := by
  induction pending with
  | nil => simp at h
  | cons first later ih =>
      by_cases seen : first ∈ unseen
      · simp only [List.dropWhile_cons, seen, not_true_eq_false, decide_false, Bool.false_eq_true,
          ↓reduceIte, List.cons.injEq] at h
        obtain ⟨rfl, rfl⟩ := h
        exact ⟨seen, fun p mem _ => List.mem_cons.mp mem⟩
      · simp only [List.dropWhile_cons, seen, not_false_eq_true, decide_true, ↓reduceIte] at h
        refine ⟨(ih h).1, ?_⟩
        intro p mem new
        rcases List.mem_cons.mp mem with rfl | mem
        · exact absurd new seen
        · exact (ih h).2 p mem new

theorem subset_of_dropWhile_seen {unseen pending rest : List α} {node : α}
    (h : pending.dropWhile (· ∉ unseen) = node :: rest) : node ∈ pending ∧ rest ⊆ pending := by
  have sub : pending.dropWhile (· ∉ unseen) ⊆ pending := (List.dropWhile_suffix _).subset
  rw [h] at sub
  exact ⟨sub List.mem_cons_self, fun p mem => sub (List.mem_cons_of_mem _ mem)⟩

variable {next : α → List α} {merge : List α → List α → List α}

theorem visit_nil {bound : Nat} {unseen : List α} : visit next merge bound unseen [] = [] := by
  cases bound <;> rfl

theorem visit_seen {bound : Nat} {unseen rest : List α} {node : α} (seen : node ∉ unseen) :
    visit next merge bound unseen (node :: rest) = visit next merge bound unseen rest := by
  cases bound with
  | zero => rfl
  | succ bound => simp [visit, seen]

theorem visit_unseen {bound : Nat} {unseen rest : List α} {node : α} (new : node ∈ unseen) :
    visit next merge (bound + 1) unseen (node :: rest) =
      node :: visit next merge bound (unseen.filter (· ≠ node)) (merge (next node) rest) := by
  simp [visit, new]

theorem reachable_of_mem_visit (mergeMem : ∀ fresh rest x, x ∈ merge fresh rest → x ∈ fresh ∨ x ∈ rest)
    {bound : Nat} {unseen pending : List α} {node : α}
    (h : node ∈ visit next merge bound unseen pending) :
    ∃ p ∈ pending, ReflTransGen (Leads next) p node := by
  induction bound generalizing unseen pending with
  | zero => simp [visit] at h
  | succ bound ih =>
      simp only [visit] at h
      split at h
      · simp at h
      · rename_i first rest found
        obtain ⟨firstMem, restMem⟩ := subset_of_dropWhile_seen found
        rcases List.mem_cons.mp h with rfl | later
        · exact ⟨node, firstMem, .refl⟩
        · obtain ⟨p, mem, path⟩ := ih later
          rcases mergeMem _ _ p mem with fresh | old
          · exact ⟨first, firstMem, .head fresh path⟩
          · exact ⟨p, restMem old, path⟩

/-- With a bound that is large enough, a search takes up all that is pending and follows it up, as
far as it is unseen. -/
theorem visit_closed (memMerge : ∀ fresh rest x, x ∈ fresh ∨ x ∈ rest → x ∈ merge fresh rest)
    {bound : Nat} {unseen : List α} (enough : unseen.length ≤ bound) (pending : List α) :
    (∀ p ∈ pending, p ∈ unseen → p ∈ visit next merge bound unseen pending) ∧
    ∀ a ∈ visit next merge bound unseen pending, ∀ b ∈ next a, b ∈ unseen →
      b ∈ visit next merge bound unseen pending := by
  induction bound generalizing unseen pending with
  | zero =>
      have : unseen = [] := List.length_eq_zero_iff.mp (Nat.le_zero.mp enough)
      simp [visit, this]
  | succ bound ih =>
      simp only [visit]
      split
      · rename_i none
        have seen : ∀ p ∈ pending, p ∉ unseen := by simpa [List.dropWhile_eq_nil_iff] using none
        exact ⟨fun p mem new => absurd new (seen p mem), by simp⟩
      · rename_i node rest found
        obtain ⟨new, taken⟩ := dropWhile_seen found
        have less := length_filter_ne_lt new
        have fewer : (unseen.filter (· ≠ node)).length ≤ bound := by omega
        obtain ⟨start, close⟩ := ih fewer (merge (next node) rest)
        -- what comes later is searched for among the nodes without `node`
        have enter (b : α) (mem : b ∈ unseen) (h : b ∈ next node ∨ b ∈ rest) :
            b ∈ node :: visit next merge bound (unseen.filter (· ≠ node)) (merge (next node) rest) := by
          by_cases same : b = node
          · simp [same]
          · exact List.mem_cons_of_mem _ (start b (memMerge _ _ b h) (by simp [mem, same]))
        refine ⟨?_, ?_⟩
        · intro p mem newp
          rcases taken p mem newp with rfl | mem
          · exact List.mem_cons_self
          · exact enter p newp (.inr mem)
        · intro a mema b step memb
          rcases List.mem_cons.mp mema with rfl | mema
          · exact enter b memb (.inl step)
          · by_cases same : b = node
            · simp [same]
            · exact List.mem_cons_of_mem _ (close a mema b step (by simp [memb, same]))

theorem mem_visit_iff (mergeIff : ∀ fresh rest x, x ∈ merge fresh rest ↔ x ∈ fresh ∨ x ∈ rest)
    {nodes : List α} {start : α} (known : start ∈ nodes)
    (closed : ∀ a ∈ nodes, ∀ b ∈ next a, b ∈ nodes) (node : α) :
    node ∈ visit next merge nodes.length nodes [start] ↔ ReflTransGen (Leads next) start node := by
  constructor
  · intro found
    obtain ⟨p, mem, path⟩ := reachable_of_mem_visit (fun _ _ _ => (mergeIff _ _ _).mp) found
    rw [List.mem_singleton] at mem
    exact mem ▸ path
  · intro path
    have ⟨begin, close⟩ : _ ∧ ∀ a ∈ visit next merge nodes.length nodes [start], _ :=
      visit_closed (fun _ _ _ => (mergeIff _ _ _).mpr) (Nat.le_refl nodes.length) [start]
    induction path with
    | refl => exact begin start (by simp) known
    | tail _ step ih =>
        exact close _ ih _ step (closed _ (mem_unseen_of_mem_visit ih) _ step)

theorem mem_breadthFirst_iff {nodes : List α} {start : α} (known : start ∈ nodes)
    (closed : ∀ a ∈ nodes, ∀ b ∈ next a, b ∈ nodes) (node : α) :
    node ∈ breadthFirst next nodes start ↔ ReflTransGen (Leads next) start node :=
  mem_visit_iff (fun _ _ _ => by simp [or_comm]) known closed node

theorem mem_depthFirst_iff {nodes : List α} {start : α} (known : start ∈ nodes)
    (closed : ∀ a ∈ nodes, ∀ b ∈ next a, b ∈ nodes) (node : α) :
    node ∈ depthFirst next nodes start ↔ ReflTransGen (Leads next) start node :=
  mem_visit_iff (fun _ _ _ => by simp) known closed node

end Dataflow.Search
