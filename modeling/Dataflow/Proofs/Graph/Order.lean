import Dataflow.Graph.Order
import Dataflow.Proofs.Graph.Edges
import Mathlib.Data.Set.Finite.Basic
import Mathlib.Data.List.Perm.Basic
import Mathlib.Logic.Relation
import Mathlib.Order.WellFounded

namespace Dataflow.Graph
open Relation

variable {g : Graph} {t : Ticket} {edges : List (Ticket × Ticket)} {order taken ready : List Ticket}
  {waiting : Waiting}

def DependsOn (g : Graph) (t p : Ticket) : Prop := p ∈ g.prerequisitesOf t

def Acyclic (g : Graph) : Prop := ∀ t, ¬ TransGen g.DependsOn t t

def InOrder (g : Graph) (order : List Ticket) : Prop :=
  ∀ before t rest, order = before ++ t :: rest → ∀ p ∈ g.prerequisitesOf t, p ∈ before

structure Sorted (g : Graph) (order : List Ticket) : Prop where
  perm : order.Perm g.tickets
  inOrder : g.InOrder order

theorem acyclic_of_rank (rank : Ticket → Nat) (less : ∀ t p, g.DependsOn t p → rank p < rank t) :
    g.Acyclic := by
  intro t cycle
  have path {p q : Ticket} (path : TransGen g.DependsOn p q) : rank q < rank p := by
    induction path with
    | single step => exact less _ _ step
    | tail _ step ih => exact Nat.lt_trans (less _ _ step) ih
  exact Nat.lt_irrefl _ (path cycle)

theorem InOrder.snoc (h : g.InOrder taken) (inside : ∀ p ∈ g.prerequisitesOf t, p ∈ taken) :
    g.InOrder (taken ++ [t]) := by
  intro before u rest split p mem
  rcases List.eq_nil_or_concat rest with rfl | ⟨rest, last, rfl⟩
  · obtain ⟨rfl, same⟩ := List.append_inj' split rfl
    obtain rfl := List.singleton_inj.mp same
    exact inside p mem
  · rw [List.concat_eq_append, ← List.cons_append, ← List.append_assoc] at split
    obtain ⟨rfl, -⟩ := List.append_inj' split rfl
    exact h before u rest rfl p mem

theorem Sorted.acyclic (h : g.Sorted order) (linked : g.Linked edges) : g.Acyclic := by
  refine acyclic_of_rank order.idxOf ?_
  intro t p depends
  have tracked := (linked.tracked t p (linked.mem_prerequisitesOf_iff.mp depends)).1
  obtain ⟨before, rest, split, first⟩ := List.eq_append_cons_of_mem (h.perm.mem_iff.mpr tracked)
  have earlier := h.inOrder before t rest split p depends
  rw [split, List.idxOf_append_of_mem earlier, List.idxOf_append_of_notMem first]
  exact Nat.lt_add_right _ (List.idxOf_lt_length_of_mem earlier)

section Release

variable {f : Ticket → Nat}

/-- Everything that waits waits for as many prerequisites as `f` says, and for one at least. -/
def Counted (f : Ticket → Nat) (waiting : Waiting) : Prop := ∀ w ∈ waiting, w.2 = f w.1 ∧ 0 < w.2

theorem map_countDown : (countDown waiting t).map (·.1) = waiting.map (·.1) := by
  simp only [countDown, List.map_map]
  apply List.map_congr_left
  intro w _
  by_cases same : w.1 = t <;> simp [same]

theorem mem_countDown (counted : Counted f waiting) {w : Ticket × Nat}
    (mem : w ∈ countDown waiting t) : w.2 = f w.1 - [t].count w.1 := by
  obtain ⟨old, oldMem, rfl⟩ := List.mem_map.mp mem
  have number := (counted old oldMem).1
  by_cases same : old.1 = t
  · subst same
    simp [number]
  · simp [same, Ne.symm same, number]

/-- What a taken tracker releases: nothing gets lost, what still waits is told of the tracker, and
what became ready waits for nothing else. -/
theorem release_spec (subscribers : List Ticket) (ready : List Ticket) (counted : Counted f waiting) :
    ((release ready waiting subscribers).1 ++
      (release ready waiting subscribers).2.map (·.1)).Perm (ready ++ waiting.map (·.1)) ∧
    Counted (fun t => f t - subscribers.count t) (release ready waiting subscribers).2 ∧
    ∀ t ∈ (release ready waiting subscribers).1, t ∈ ready ∨ f t - subscribers.count t = 0 := by
  induction subscribers generalizing ready waiting f with
  | nil => exact ⟨.refl _, by simpa [release] using counted, fun t mem => .inl mem⟩
  | cons u rest ih =>
      have told : Counted (fun t => f t - [u].count t) ((countDown waiting u).filter (!isReady ·)) := by
        intro w mem
        obtain ⟨mem, unready⟩ := List.mem_filter.mp mem
        refine ⟨mem_countDown counted mem, Nat.pos_of_ne_zero ?_⟩
        simpa [isReady] using unready
      have total (t : Ticket) : f t - [u].count t - rest.count t = f t - (u :: rest).count t := by
        rw [Nat.sub_sub, ← List.count_append, List.singleton_append]
      obtain ⟨perm, later, fresh⟩ := ih (ready ++ ((countDown waiting u).filter isReady).map (·.1)) told
      simp only [total] at later fresh
      refine ⟨perm.trans ?_, later, ?_⟩
      · rw [List.append_assoc, ← List.map_append]
        refine .append_left ready ?_
        have all := (List.filter_append_perm isReady (countDown waiting u)).map (·.1)
        rwa [map_countDown] at all
      · intro t mem
        rcases fresh t mem with earlier | none
        · rcases List.mem_append.mp earlier with old | new
          · exact .inl old
          · obtain ⟨w, wMem, rfl⟩ := List.mem_map.mp new
            obtain ⟨wMem, zero⟩ := List.mem_filter.mp wMem
            have zero : w.2 = 0 := by simpa [isReady] using zero
            refine .inr ?_
            rw [← total, ← mem_countDown counted wMem, zero, Nat.zero_sub]
        · exact .inr none

end Release

def missing (g : Graph) (taken : List Ticket) (t : Ticket) : List Ticket :=
  (g.prerequisitesOf t).filter (· ∉ taken)

/-- The trackers that were taken are in order, those that are ready wait for nothing, and the others
for what is missing. -/
structure Draining (g : Graph) (taken ready : List Ticket) (waiting : Waiting) : Prop where
  perm : (taken ++ (ready ++ waiting.map (·.1))).Perm g.tickets
  inOrder : g.InOrder taken
  ready : ∀ t ∈ ready, ∀ p ∈ g.prerequisitesOf t, p ∈ taken
  counted : Counted (fun t => (g.missing taken t).length) waiting

theorem length_missing (linked : g.Linked edges) (new : t ∉ taken) (u : Ticket) :
    (g.missing (taken ++ [t]) u).length = (g.missing taken u).length - (g.subscribersOf t).count u := by
  have split : g.missing (taken ++ [t]) u = (g.missing taken u).erase t := by
    have nodup : (g.missing taken u).Nodup := linked.nodup_prerequisitesOf.filter _
    rw [nodup.erase_eq_filter, missing, missing, List.filter_filter]
    apply List.filter_congr
    intro p _
    by_cases same : p = t <;> simp [same]
  have both : t ∈ g.missing taken u ↔ u ∈ g.subscribersOf t := by
    simp [missing, new, linked.mem_prerequisitesOf_iff, linked.mem_subscribersOf_iff]
  rw [split, List.length_erase, linked.nodup_subscribersOf.count]
  by_cases mem : u ∈ g.subscribersOf t <;> simp [mem, both]

theorem mem_of_missing_eq_nil {p : Ticket} (none : g.missing taken t = [])
    (mem : p ∈ g.prerequisitesOf t) : p ∈ taken := by
  by_contra absent
  have waits : p ∈ g.missing taken t := List.mem_filter.mpr ⟨mem, by simpa using absent⟩
  rw [none] at waits
  exact List.not_mem_nil waits

theorem Draining.new (h : g.Draining taken (t :: ready) waiting) (nodup : g.tickets.Nodup) :
    t ∉ taken := by
  intro mem
  exact (List.nodup_append'.mp (h.perm.nodup_iff.mpr nodup)).2.2 mem List.mem_cons_self

theorem Draining.step (h : g.Draining taken (t :: ready) waiting) (linked : g.Linked edges)
    (nodup : g.tickets.Nodup) :
    g.Draining (taken ++ [t]) (release ready waiting (g.subscribersOf t)).1
      (release ready waiting (g.subscribersOf t)).2 := by
  obtain ⟨perm, counted, fresh⟩ := release_spec (g.subscribersOf t) ready h.counted
  have told (u : Ticket) := length_missing linked (h.new nodup) u
  simp only [← told] at counted fresh
  refine ⟨?_, h.inOrder.snoc (h.ready t List.mem_cons_self), ?_, counted⟩
  · rw [List.append_assoc]
    exact ((perm.cons t).append_left taken).trans h.perm
  · intro u mem p prerequisite
    rcases fresh u mem with old | none
    · exact List.mem_append_left _ (h.ready u (List.mem_cons_of_mem _ old) p prerequisite)
    · exact mem_of_missing_eq_nil (List.length_eq_zero_iff.mp none) prerequisite

theorem Draining.drain (h : g.Draining taken ready waiting) (linked : g.Linked edges)
    (nodup : g.tickets.Nodup) (bound : Nat) (enough : ready.length + waiting.length ≤ bound) :
    ∃ left, g.Draining (taken ++ g.drain bound ready waiting) [] left := by
  induction bound generalizing taken ready waiting with
  | zero =>
      obtain rfl : ready = [] := List.length_eq_zero_iff.mp (by omega)
      exact ⟨waiting, by simpa [Graph.drain] using h⟩
  | succ bound ih =>
      cases ready with
      | nil => exact ⟨waiting, by simpa [Graph.drain] using h⟩
      | cons t ready =>
          have next := h.step linked nodup
          have fewer := next.perm.length_eq.trans h.perm.length_eq.symm
          simp only [List.length_append, List.length_map, List.length_cons, List.length_nil]
            at fewer enough
          obtain ⟨left, done⟩ := ih next (by omega)
          refine ⟨left, ?_⟩
          rwa [List.append_assoc] at done

theorem length_prerequisites (linked : g.Linked edges) {k : Tracker} (mem : k ∈ g.trackers) :
    k.prerequisites.length = (g.missing [] k.ticket).length := by
  have ⟨nodup, ends⟩ := linked.prerequisites k mem
  have all : g.missing [] k.ticket = g.prerequisitesOf k.ticket := by simp [missing]
  rw [all]
  refine ((List.perm_ext_iff_of_nodup nodup linked.nodup_prerequisitesOf).mpr ?_).length_eq
  exact fun p => (ends p).trans linked.mem_prerequisitesOf_iff.symm

theorem draining_start (linked : g.Linked edges) {counts : Waiting}
    (counted : counts = g.trackers.map fun k => (k.ticket, k.prerequisites.length)) :
    g.Draining [] ((counts.filter isReady).map (·.1)) (counts.filter (!isReady ·)) := by
  have number : ∀ w ∈ counts, w.2 = (g.missing [] w.1).length := by
    intro w mem
    rw [counted] at mem
    obtain ⟨k, kMem, rfl⟩ := List.mem_map.mp mem
    exact length_prerequisites linked kMem
  refine ⟨?_, ?_, ?_, ?_⟩
  · have all : counts.map (·.1) = g.tickets := by simp [counted, tickets, Function.comp_def]
    rw [List.nil_append, ← List.map_append, ← all]
    exact (List.filter_append_perm isReady counts).map (·.1)
  · intro before t rest split
    simp at split
  · intro t mem p prerequisite
    obtain ⟨w, wMem, rfl⟩ := List.mem_map.mp mem
    obtain ⟨wMem, zero⟩ := List.mem_filter.mp wMem
    have none := (number w wMem).symm.trans (by simpa [isReady] using zero)
    exact mem_of_missing_eq_nil (List.length_eq_zero_iff.mp none) prerequisite
  · intro w mem
    obtain ⟨mem, unready⟩ := List.mem_filter.mp mem
    exact ⟨number w mem, Nat.pos_of_ne_zero (by simpa [isReady] using unready)⟩

theorem Draining.empty_of_acyclic (h : g.Draining taken [] waiting) (linked : g.Linked edges)
    (acyclic : g.Acyclic) : waiting = [] := by
  by_contra nonempty
  obtain ⟨first, firstMem⟩ := List.exists_mem_of_ne_nil waiting nonempty
  let Below (t p : { t // t ∈ waiting.map (·.1) }) : Prop := TransGen g.DependsOn p.1 t.1
  have : Finite { t // t ∈ waiting.map (·.1) } := (waiting.map (·.1)).finite_toSet.to_subtype
  have : IsTrans _ Below := ⟨fun _ _ _ low high => high.trans low⟩
  have : Std.Irrefl Below := ⟨fun t => acyclic t.1⟩
  obtain ⟨⟨least, leastMem⟩, -, lowest⟩ :=
    (Finite.wellFounded_of_trans_of_irrefl Below).has_min Set.univ
      ⟨⟨first.1, List.mem_map_of_mem firstMem⟩, trivial⟩
  obtain ⟨w, wMem, rfl⟩ := List.mem_map.mp leastMem
  obtain ⟨number, positive⟩ := h.counted w wMem
  obtain ⟨p, pMem⟩ := List.exists_mem_of_length_pos (number ▸ positive)
  obtain ⟨depends, untaken⟩ := List.mem_filter.mp pMem
  have tracked := (linked.tracked w.1 p (linked.mem_prerequisitesOf_iff.mp depends)).2
  rcases List.mem_append.mp (h.perm.mem_iff.mpr tracked) with before | waits
  · simp [before] at untaken
  · exact lowest ⟨p, waits⟩ trivial (.single depends)

theorem exists_draining_topologicalOrder (linked : g.Linked edges) (nodup : g.tickets.Nodup) :
    ∃ taken left, g.Draining taken [] left ∧
      g.topologicalOrder = if taken.length = g.trackers.length then some taken else none := by
  have start := draining_start linked rfl
  have enough := start.perm.length_eq
  simp only [List.nil_append, List.length_append, List.length_map, tickets] at enough
  obtain ⟨left, done⟩ := start.drain linked nodup g.trackers.length (by simpa using enough.le)
  exact ⟨_, left, done, rfl⟩

theorem sorted_of_topologicalOrder (linked : g.Linked edges) (nodup : g.tickets.Nodup)
    (found : g.topologicalOrder = some order) : g.Sorted order := by
  obtain ⟨taken, left, done, result⟩ := exists_draining_topologicalOrder linked nodup
  rw [result] at found
  split at found
  · rename_i all
    obtain rfl := Option.some.inj found
    have total := done.perm.length_eq
    simp only [List.length_append, List.length_map, List.length_nil, tickets] at total
    obtain rfl : left = [] := List.length_eq_zero_iff.mp (by omega)
    exact ⟨by simpa using done.perm, done.inOrder⟩
  · cases found

theorem Acyclic.exists_topologicalOrder (acyclic : g.Acyclic) (linked : g.Linked edges)
    (nodup : g.tickets.Nodup) : ∃ order, g.topologicalOrder = some order := by
  obtain ⟨taken, left, done, result⟩ := exists_draining_topologicalOrder linked nodup
  obtain rfl := done.empty_of_acyclic linked acyclic
  have total := done.perm.length_eq
  simp only [List.length_append, List.length_map, List.length_nil, tickets] at total
  exact ⟨taken, by rw [result, if_pos (by omega)]⟩

theorem topologicalOrder_eq_none_iff (linked : g.Linked edges) (nodup : g.tickets.Nodup) :
    g.topologicalOrder = none ↔ ¬ g.Acyclic := by
  constructor
  · intro none acyclic
    obtain ⟨order, some⟩ := acyclic.exists_topologicalOrder linked nodup
    rw [none] at some
    cases some
  · intro cyclic
    cases found : g.topologicalOrder with
    | none => rfl
    | some order => exact (cyclic ((sorted_of_topologicalOrder linked nodup found).acyclic linked)).elim

end Dataflow.Graph
