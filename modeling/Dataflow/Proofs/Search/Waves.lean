import Dataflow.Proofs.Search
import Mathlib.Order.Lattice.Nat

namespace Dataflow.Search
open Relation

variable {α : Type} {next : α → List α} {nodes unseen near far : List α} {start a : α} {n : Nat}

inductive Walk (next : α → List α) (start : α) : Nat → α → Prop
  | start : Walk next start 0 start
  | step {n : Nat} {a b : α} : Walk next start n a → b ∈ next a → Walk next start (n + 1) b

noncomputable def distance (next : α → List α) (start a : α) : Nat := sInf {n | Walk next start n a}

theorem exists_walk (path : ReflTransGen (Leads next) start a) : ∃ n, Walk next start n a := by
  induction path with
  | refl => exact ⟨0, .start⟩
  | tail _ step ih =>
      obtain ⟨n, walk⟩ := ih
      exact ⟨n + 1, walk.step step⟩

theorem Walk.distance_le (walk : Walk next start n a) : distance next start a ≤ n := Nat.sInf_le walk

theorem walk_distance (path : ReflTransGen (Leads next) start a) :
    Walk next start (distance next start a) a :=
  Nat.sInf_mem (s := {n | Walk next start n a}) (exists_walk path)

theorem Walk.mem (known : start ∈ nodes) (closed : ∀ a ∈ nodes, ∀ b ∈ next a, b ∈ nodes)
    (walk : Walk next start n a) : a ∈ nodes := by
  induction walk with
  | start => exact known
  | step _ step ih => exact closed _ ih _ step

/-- In the search from `start`, what is pending is the rest of the nodes that are `n` steps away, and
behind it what was found one step further. -/
structure Wave (next : α → List α) (nodes : List α) (start : α) (unseen near far : List α) (n : Nat) :
    Prop where
  ahead : ∀ a ∈ unseen, ∀ m, Walk next start m a → n ≤ m
  here : ∀ a ∈ near, Walk next start n a
  beyond : ∀ a ∈ far, Walk next start (n + 1) a
  rest : ∀ a ∈ unseen, Walk next start n a → a ∈ near
  found : ∀ a ∈ nodes, a ∉ unseen → ∀ b ∈ next a, b ∈ unseen → b ∈ near ∨ b ∈ far

theorem wave_start : Wave next nodes start nodes [start] [] 0 where
  ahead _ _ _ _ := Nat.zero_le _
  here _ mem := List.mem_singleton.mp mem ▸ .start
  beyond _ mem := (List.not_mem_nil mem).elim
  rest _ _ walk := by
    cases walk
    exact List.mem_singleton_self _
  found _ mem seen := absurd mem seen

theorem Wave.skip (h : Wave next nodes start unseen (a :: near) far n) (seen : a ∉ unseen) :
    Wave next nodes start unseen near far n where
  ahead := h.ahead
  here b mem := h.here b (List.mem_cons_of_mem _ mem)
  beyond := h.beyond
  rest b new walk := (List.mem_cons.mp (h.rest b new walk)).resolve_left fun same => seen (same ▸ new)
  found c mem visited b step new := by
    rcases h.found c mem visited b step new with here | later
    · exact .inl ((List.mem_cons.mp here).resolve_left fun same => seen (same ▸ new))
    · exact .inr later

/-- When no node of the wave is left, what was found behind it is the next wave, and all of it: a node
that far away follows one of the wave that was. -/
theorem Wave.pass (known : start ∈ nodes) (closed : ∀ a ∈ nodes, ∀ b ∈ next a, b ∈ nodes)
    (h : Wave next nodes start unseen [] far n) : Wave next nodes start unseen far [] (n + 1) := by
  have farther (b : α) (new : b ∈ unseen) : ¬ Walk next start n b := fun walk =>
    List.not_mem_nil (h.rest b new walk)
  refine ⟨?_, h.beyond, fun _ mem => (List.not_mem_nil mem).elim, ?_, ?_⟩
  · intro b new m walk
    refine Nat.lt_of_le_of_ne (h.ahead b new m walk) ?_
    rintro rfl
    exact farther b new walk
  · intro b new walk
    cases walk with
    | @step _ c _ before step =>
        have visited : c ∉ unseen := fun new => farther c new before
        exact (h.found c (before.mem known closed) visited b step new).resolve_left List.not_mem_nil
  · intro c mem visited b step new
    exact .inl ((h.found c mem visited b step new).resolve_left List.not_mem_nil)

variable [DecidableEq α]

theorem Wave.take (h : Wave next nodes start unseen (a :: near) far n) :
    Wave next nodes start (unseen.filter (· ≠ a)) near (far ++ next a) n where
  ahead b new := h.ahead b (List.mem_filter.mp new).1
  here b mem := h.here b (List.mem_cons_of_mem _ mem)
  beyond := List.forall_mem_append.mpr ⟨h.beyond, fun _ step => (h.here a List.mem_cons_self).step step⟩
  rest b new walk := by
    obtain ⟨new, other⟩ := List.mem_filter.mp new
    exact (List.mem_cons.mp (h.rest b new walk)).resolve_left (by simpa using other)
  found c mem visited b step new := by
    obtain ⟨new, other⟩ := List.mem_filter.mp new
    by_cases same : c = a
    · exact .inr (List.mem_append_right _ (same ▸ step))
    · have visited : c ∉ unseen := fun unseen => visited (by simp [unseen, same])
      rcases h.found c mem visited b step new with here | later
      · exact .inl ((List.mem_cons.mp here).resolve_left (by simpa using other))
      · exact .inr (List.mem_append_left _ later)

theorem Wave.pairwise_visit (known : start ∈ nodes) (closed : ∀ a ∈ nodes, ∀ b ∈ next a, b ∈ nodes)
    (bound : Nat) (unseen near far : List α) (n : Nat) (h : Wave next nodes start unseen near far n) :
    (visit next (fun fresh rest => rest ++ fresh) bound unseen (near ++ far)).Pairwise fun a b =>
      ∀ m, Walk next start m b → distance next start a ≤ m := by
  match near, far with
  | [], [] =>
      rw [List.append_nil, visit_nil]
      exact .nil
  | [], b :: far =>
      have later := pairwise_visit known closed bound unseen (b :: far) [] (n + 1) (h.pass known closed)
      rwa [List.append_nil] at later
  | a :: near, far =>
      rw [List.cons_append]
      by_cases new : a ∈ unseen
      · match bound with
        | 0 => exact .nil
        | bound + 1 =>
            rw [visit_unseen new, List.append_assoc]
            refine List.pairwise_cons.mpr ⟨?_, pairwise_visit known closed bound _ _ _ n h.take⟩
            intro b later m walk
            -- whatever comes later is unseen by now, and so not nearer than the wave
            have unseen := (List.mem_filter.mp (mem_unseen_of_mem_visit later)).1
            exact (h.here a List.mem_cons_self).distance_le.trans (h.ahead b unseen m walk)
      · rw [visit_seen new]
        exact pairwise_visit known closed bound unseen near far n (h.skip new)
termination_by (bound, near.length + 2 * far.length)

theorem pairwise_breadthFirst (known : start ∈ nodes)
    (closed : ∀ a ∈ nodes, ∀ b ∈ next a, b ∈ nodes) :
    (breadthFirst next nodes start).Pairwise fun a b =>
      distance next start a ≤ distance next start b := by
  have sorted := Wave.pairwise_visit known closed nodes.length nodes [start] [] 0 wave_start
  refine sorted.imp_of_mem fun _ mem nearest => ?_
  exact nearest _ (walk_distance ((mem_breadthFirst_iff known closed _).mp mem))

theorem head?_breadthFirst (known : start ∈ nodes) :
    (breadthFirst next nodes start).head? = some start := by
  obtain ⟨bound, size⟩ := Nat.exists_eq_add_one.mpr (List.length_pos_of_mem known)
  rw [breadthFirst, size, visit_unseen known]
  rfl

end Dataflow.Search
