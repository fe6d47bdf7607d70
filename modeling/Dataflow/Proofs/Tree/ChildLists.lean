import Dataflow.Proofs.Tree.Operations
import Dataflow.Proofs.Tree.Subtree

namespace Dataflow

structure ChildLists where
  lists : List (List ContextId) := []
  /-- children have greater numbers than their parents -/
  rising : ∀ (p : ContextId) (children : List ContextId), lists[p]? = some children →
    ∀ c ∈ children, p < c

namespace ChildLists

variable {l : ChildLists} {t t₀ t' : Tree} {c p : ContextId} {parent : Option ContextId}
  {f : Context → Context} {pending : List ContextId}

def children (l : ChildLists) (p : ContextId) : List ContextId := l.lists[p]?.getD []

theorem lt_of_mem_children (mem : c ∈ l.children p) : p < c := by
  rw [children] at mem
  cases found : l.lists[p]? with
  | none =>
      rw [found] at mem
      cases mem
  | some listed =>
      rw [found] at mem
      exact l.rising p listed found c mem

def empty : ChildLists := ⟨[], by simp⟩

def push (l : ChildLists) : ChildLists where
  lists := l.lists ++ [[]]
  rising p children found c mem := by
    by_cases old : p < l.lists.length
    · rw [List.getElem?_append_left old] at found
      exact l.rising p children found c mem
    · rw [List.getElem?_append_right (Nat.le_of_not_lt old)] at found
      rw [List.mem_singleton.mp (List.mem_of_getElem? found)] at mem
      cases mem

def join (l : ChildLists) (p c : ContextId) (less : p < c) : ChildLists where
  lists := l.lists.modify p (· ++ [c])
  rising q children found d mem := by
    rw [List.getElem?_modify] at found
    obtain ⟨listed, foundOld, rfl⟩ := Option.map_eq_some_iff.mp found
    have old := l.rising q listed foundOld d
    split at mem
    · rename_i here
      subst here
      rcases List.mem_append.mp mem with mem | mem
      · exact old mem
      · exact List.mem_singleton.mp mem ▸ less
    · exact old mem

def add (l : ChildLists) (parent : Option ContextId) : ChildLists :=
  match parent with
  | none => l.push
  | some p => if known : p < l.lists.length then l.push.join p l.lists.length known else l

/-- The lists as they are stored while the tree comes about. All other changes of the tree leave its contexts
where they are. -/
inductive Follows : ChildLists → Tree → Prop
  | start (config : Config) : Follows empty { config }
  | added {l : ChildLists} {t t' : Tree} {parent : Option ContextId} :
      Follows l t → t.addContext parent = .ok t' → Follows (l.add parent) t'
  | refused {l : ChildLists} {t : Tree} {parent : Option ContextId} {e : Error} :
      Follows l t → t.addContext parent = .error e → Follows (l.add parent) t
  | changed {l : ChildLists} {t t' : Tree} : Follows l t → t'.parents = t.parents → Follows l t'

theorem children_addContext (made : t.addContext parent = .ok t') :
    t'.size = t.size + 1 ∧ t'.children p =
      if parent = some p then t.children p ++ [t.size] else t.children p := by
  obtain ⟨grown, -⟩ := Tree.contexts_addContext made
  have contexts : t'.contexts = t.contexts ++ [.fresh parent t.config.cachingEnabled] := by rw [grown]
  have size : t'.size = t.size + 1 := by simp [Tree.size, contexts]
  have before {c : ContextId} (old : c < t.size) : t'.parent? c = t.parent? c := by
    rw [Tree.parent?, contexts, List.getElem?_append_left old, Tree.parent?]
  have last : t'.parent? t.size = parent := by simp [Tree.parent?, Tree.size, contexts, Context.fresh]
  have old : (List.range t.size).filter (fun c => t'.parent? c = some p) = t.children p :=
    List.filter_congr fun c mem => by rw [before (List.mem_range.mp mem)]
  refine ⟨size, ?_⟩
  rw [Tree.children, size, List.range_succ, List.filter_append, old]
  by_cases here : parent = some p <;> simp [last, here]

theorem children_push : l.push.children = l.children := by
  funext p
  by_cases old : p < l.lists.length
  · simp only [children, push, List.getElem?_append_left old]
  · have new := Nat.le_of_not_lt old
    simp only [children, push, List.getElem?_append_right new, List.getElem?_eq_none new]
    cases found : [([] : List ContextId)][p - l.lists.length]? with
    | none => rfl
    | some listed => simp [List.mem_singleton.mp (List.mem_of_getElem? found)]

theorem children_join {less : p < c} (inside : p < l.lists.length) (q : ContextId) :
    (l.join p c less).children q = if p = q then l.children q ++ [c] else l.children q := by
  simp only [children, join, List.getElem?_modify]
  by_cases here : p = q
  · subst here
    simp [List.getElem?_eq_getElem inside]
  · cases l.lists[q]? <;> simp [here]

theorem Follows.agrees (h : l.Follows t) : l.lists.length = t.size ∧ l.children = t.children := by
  induction h with
  | start config => exact ⟨rfl, rfl⟩
  | @added l t t' parent _ made ih =>
      obtain ⟨length, same⟩ := ih
      have grown (p : ContextId) := children_addContext (p := p) made
      have bound := (Tree.contexts_addContext made).2
      cases parent with
      | none =>
          refine ⟨?_, ?_⟩
          · simp [add, push, length, (grown 0).1]
          · funext p
            rw [(grown p).2, add, children_push, same]
            rfl
      | some q =>
          have known : q < l.lists.length := length.symm ▸ bound q rfl
          rw [add, dif_pos known]
          refine ⟨by simp [join, push, length, (grown 0).1], ?_⟩
          funext p
          have room : q < l.push.lists.length := by simpa [push] using Nat.lt_succ_of_lt known
          rw [(grown p).2, children_join room, children_push, same, length]
          simp
  | @refused l t parent e _ failed ih =>
      obtain ⟨q, rfl, absent⟩ := Tree.unknown_of_addContext failed
      have unknown : ¬ q < l.lists.length :=
        Nat.not_lt_of_le (ih.1 ▸ List.getElem?_eq_none_iff.mp absent)
      rwa [add, dif_neg unknown]
  | @changed l t t' _ same ih =>
      have size (t : Tree) : t.size = t.parents.length := by simp [Tree.size, Tree.parents]
      refine ⟨by rw [ih.1, size, size, same], ?_⟩
      funext p
      rw [ih.2, Tree.children_congr same]

def below (l : ChildLists) (c : ContextId) : List ContextId :=
  Lineage.descendants l.children (l.lists.length - c) c

theorem length_flatMap_le {α β : Type} {xs : List α} {few many : α → List β}
    (less : ∀ x ∈ xs, (few x).length ≤ (many x).length) :
    (xs.flatMap few).length ≤ (xs.flatMap many).length := by
  induction xs with
  | nil => exact Nat.le_refl _
  | cons x rest ih =>
      obtain ⟨here, later⟩ := List.forall_mem_cons.mp less
      simp only [List.flatMap_cons, List.length_append]
      exact Nat.add_le_add here (ih later)

theorem length_descendants_mono {children : ContextId → List ContextId} {few many : Nat}
    (less : few ≤ many) (c : ContextId) :
    (Lineage.descendants children few c).length ≤ (Lineage.descendants children many c).length := by
  induction few generalizing many c with
  | zero => cases many <;> simp [Lineage.descendants]
  | succ few ih =>
      obtain ⟨many, rfl⟩ := Nat.exists_eq_add_of_le' less
      simp only [Lineage.descendants, List.length_cons]
      exact Nat.succ_le_succ (length_flatMap_le fun child _ => ih (Nat.le_add_left few many) child)

theorem length_below_children_lt : ((l.children c).flatMap l.below).length < (l.below c).length := by
  cases levels : l.lists.length - c with
  | zero =>
      have outside : l.children c = [] := by
        simp [children, List.getElem?_eq_none (Nat.le_of_sub_eq_zero levels)]
      simp [outside, below, levels, Lineage.descendants]
  | succ bound =>
      have fewer : ∀ child ∈ l.children c, (l.below child).length ≤
          (Lineage.descendants l.children bound child).length := by
        intro child mem
        have enough : l.lists.length - child ≤ bound := by
          have less := Nat.sub_le_sub_left (Nat.succ_le_of_lt (lt_of_mem_children mem)) l.lists.length
          rwa [Nat.sub_succ, levels] at less
        exact length_descendants_mono enough child
      rw [below, levels, Lineage.descendants, List.length_cons]
      exact Nat.lt_succ_of_le (length_flatMap_le fewer)

/-- Goes to the contexts that are pending, the first one first, and to all below them. -/
def walk (l : ChildLists) (f : Context → Context) (t : Tree) :
    List ContextId → EStateM.Result Error Tree Unit
  | [] => .ok () t
  | next :: rest =>
      match t.contexts[next]? with
      | none => .error (.unknownContext next) t
      | some _ => walk l f (t.modifyContext next f) ((l.children next).reverse ++ rest)
termination_by pending => (pending.flatMap l.below).length
decreasing_by
  rw [List.flatMap_append, List.length_append, List.flatMap_cons, List.length_append,
    ((List.reverse_perm _).flatMap_right _).length_eq]
  exact Nat.add_lt_add_right length_below_children_lt _

/-- The walk comes to all contexts at or below those that are pending, and to each of them as often as it is
there: the order does not matter, for the change is always the same. -/
theorem walk_eq (wf : t₀.WellFormed) (agrees : l.children = t₀.children) (size : t.size = t₀.size)
    (known : ∀ c ∈ pending, c < t₀.size) : l.walk f t pending =
      .ok () ((pending.flatMap t₀.subtree).foldl (fun t c => t.modifyContext c f) t) := by
  induction t, pending using walk.induct l f with
  | case1 t => rw [walk]; rfl
  | case2 t next rest absent =>
      have inside := known next List.mem_cons_self
      rw [← size] at inside
      cases absent.symm.trans (List.getElem?_eq_getElem inside)
  | case3 t next rest context found ih =>
      obtain ⟨-, known⟩ := List.forall_mem_cons.mp known
      have below : ∀ c ∈ l.children next, c < t₀.size := by
        rw [agrees]
        exact fun c mem => (wf.of_mem_children mem).2
      have all : ∀ c ∈ (l.children next).reverse ++ rest, c < t₀.size :=
        List.forall_mem_append.mpr ⟨fun c mem => below c (List.mem_reverse.mp mem), known⟩
      have later := ih ((Tree.size_modifyContext t next f).trans size) all
      have order : (((l.children next).reverse ++ rest).flatMap t₀.subtree).Perm
          ((t₀.children next).flatMap t₀.subtree ++ rest.flatMap t₀.subtree) := by
        rw [agrees, List.flatMap_append]
        exact ((List.reverse_perm _).flatMap_right _).append_right _
      rw [walk, found]
      dsimp only
      rw [later, Tree.foldl_modifyContext_perm order, List.flatMap_cons, wf.subtree_eq]
      rfl

def forAllBelow (l : ChildLists) (f : Context → Context) (id : ContextId) : Attempt Tree Unit :=
  fun t => l.walk f t [id]

def disableCaching (l : ChildLists) (id : ContextId) : Attempt Tree Unit :=
  l.forAllBelow (·.modifyCache (·.disable)) id

def enableCaching (l : ChildLists) (id : ContextId) : Attempt Tree Unit :=
  l.forAllBelow (fun c => (c.modifyCache (·.enable)).modifyCache (·.markOutOfDate)) id

end ChildLists

end Dataflow
