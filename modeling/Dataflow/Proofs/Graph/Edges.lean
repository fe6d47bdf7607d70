import Dataflow.Proofs.Graph.WellFormed

namespace Dataflow.Graph

variable {g g' : Graph} {t subscriber prerequisite : Ticket} {edges : List (Ticket × Ticket)}

structure Linked (g : Graph) (edges : List (Ticket × Ticket)) : Prop where
  tracked : ∀ t p, (t, p) ∈ edges → t ∈ g.tickets ∧ p ∈ g.tickets
  prerequisites : ∀ k ∈ g.trackers, k.prerequisites.Nodup ∧
    ∀ p, p ∈ k.prerequisites ↔ (k.ticket, p) ∈ edges
  subscribers : ∀ k ∈ g.trackers, k.subscribers.Nodup ∧
    ∀ t, t ∈ k.subscribers ↔ (t, k.ticket) ∈ edges

def prerequisitesOf (g : Graph) (t : Ticket) : List Ticket :=
  match g.find? t with
  | some k => k.prerequisites
  | none => []

theorem Linked.mem_subscribersOf_iff (h : g.Linked edges) :
    subscriber ∈ g.subscribersOf prerequisite ↔ (subscriber, prerequisite) ∈ edges := by
  simp only [subscribersOf]
  cases found : g.find? prerequisite with
  | none =>
      have untracked := find?_eq_none_iff.mp found
      simpa using fun edge => untracked (h.tracked _ _ edge).2
  | some k =>
      have ends := (h.subscribers k (mem_of_find? found)).2 subscriber
      rwa [ticket_of_find? found] at ends

theorem Linked.mem_prerequisitesOf_iff (h : g.Linked edges) :
    prerequisite ∈ g.prerequisitesOf subscriber ↔ (subscriber, prerequisite) ∈ edges := by
  simp only [prerequisitesOf]
  cases found : g.find? subscriber with
  | none =>
      have untracked := find?_eq_none_iff.mp found
      simpa using fun edge => untracked (h.tracked _ _ edge).1
  | some k =>
      have ends := (h.prerequisites k (mem_of_find? found)).2 prerequisite
      rwa [ticket_of_find? found] at ends

theorem Linked.nodup_prerequisitesOf (h : g.Linked edges) : (g.prerequisitesOf t).Nodup := by
  simp only [prerequisitesOf]
  cases found : g.find? t with
  | none => exact List.nodup_nil
  | some k => exact (h.prerequisites k (mem_of_find? found)).1

theorem Linked.nodup_subscribersOf (h : g.Linked edges) : (g.subscribersOf t).Nodup := by
  simp only [subscribersOf]
  cases found : g.find? t with
  | none => exact List.nodup_nil
  | some k => exact (h.subscribers k (mem_of_find? found)).1

theorem Linked.congr {others : List (Ticket × Ticket)} (h : g.Linked edges)
    (same : ∀ e, e ∈ edges ↔ e ∈ others) : g.Linked others where
  tracked t p mem := h.tracked t p ((same _).mpr mem)
  prerequisites k mem := ⟨(h.prerequisites k mem).1, fun p =>
    ((h.prerequisites k mem).2 p).trans (same _)⟩
  subscribers k mem := ⟨(h.subscribers k mem).1, fun t =>
    ((h.subscribers k mem).2 t).trans (same _)⟩

theorem Linked.retrack (h : g.Linked edges) {f : Tracker → Tracker}
    (ticket : ∀ k, (f k).ticket = k.ticket)
    (prerequisites : ∀ k, (f k).prerequisites = k.prerequisites)
    (subscribers : ∀ k, (f k).subscribers = k.subscribers)
    (made : g'.trackers = g.trackers.map f) : g'.Linked edges where
  tracked t p mem := by
    have tickets : g'.tickets = g.tickets := by simp [tickets, made, Function.comp_def, ticket]
    exact tickets ▸ h.tracked t p mem
  prerequisites k mem := by
    rw [made] at mem
    obtain ⟨old, oldMem, rfl⟩ := List.mem_map.mp mem
    rw [prerequisites, ticket]
    exact h.prerequisites old oldMem
  subscribers k mem := by
    rw [made] at mem
    obtain ⟨old, oldMem, rfl⟩ := List.mem_map.mp mem
    rw [subscribers, ticket]
    exact h.subscribers old oldMem

theorem subscribe_eq_error_iff {e : Error} (tracked : subscriber ∈ g.tickets) :
    g.subscribe subscriber prerequisite = .error e ↔
      prerequisite ∉ g.tickets ∧ e = .unknownTracker prerequisite := by
  obtain ⟨k, found⟩ := mem_tickets_iff.mp tracked
  cases known : g.find? prerequisite with
  | none => simp [subscribe, tracker, known, find?_eq_none_iff.mp known, bind, Except.bind, eq_comm]
  | some p =>
      have tracked' : prerequisite ∈ g.tickets := mem_tickets_iff.mpr ⟨p, known⟩
      by_cases already : prerequisite ∈ k.prerequisites <;>
        simp [subscribe, tracker, known, found, already, tracked', bind, Except.bind, pure, Except.pure]

theorem Linked.create {description : String} (h : g.Linked edges)
    (made : g.create t description = .ok g') : g'.Linked edges := by
  obtain ⟨untracked, -, rfl⟩ := create_eq_ok_iff.mp made
  refine ⟨?_, ?_, ?_⟩
  · intro u p mem
    have ⟨first, second⟩ := h.tracked u p mem
    simp only [tickets, List.map_append, List.mem_append]
    exact ⟨.inl first, .inl second⟩
  · intro k mem
    rcases List.mem_append.mp mem with old | new
    · exact h.prerequisites k old
    · rw [List.mem_singleton.mp new]
      refine ⟨List.nodup_nil, ?_⟩
      intro p
      simpa using fun edge => untracked (h.tracked t p edge).1
  · intro k mem
    rcases List.mem_append.mp mem with old | new
    · exact h.subscribers k old
    · rw [List.mem_singleton.mp new]
      refine ⟨List.nodup_nil, ?_⟩
      intro u
      simpa using fun edge => untracked (h.tracked u t edge).2

theorem Linked.own {t : Ticket} {entry : Nat} (h : g.Linked edges) : (g.own t entry).Linked edges := by
  refine h.retrack (f := fun k => if k.ticket = t then { k with entry } else k) ?_ ?_ ?_ rfl
  all_goals
    intro k
    split <;> rfl

theorem trackers_link : (g.link subscriber prerequisite).trackers = g.trackers.map fun k =>
    { k with
      prerequisites := if k.ticket = subscriber then k.prerequisites ++ [prerequisite]
        else k.prerequisites
      subscribers := if k.ticket = prerequisite then k.subscribers ++ [subscriber]
        else k.subscribers } := by
  simp only [link, modify, List.map_map]
  apply List.map_congr_left
  intro k _
  by_cases first : k.ticket = subscriber <;> by_cases second : k.ticket = prerequisite <;>
    simp_all

theorem Linked.link (h : g.Linked edges) (tracked : subscriber ∈ g.tickets)
    (tracked' : prerequisite ∈ g.tickets) (new : (subscriber, prerequisite) ∉ edges) :
    (g.link subscriber prerequisite).Linked (edges ++ [(subscriber, prerequisite)]) := by
  refine ⟨fun t p mem => ?_, fun k mem => ?_, fun k mem => ?_⟩
  · rw [tickets_link]
    rcases List.mem_append.mp mem with old | new
    · exact h.tracked t p old
    · obtain ⟨rfl, rfl⟩ := Prod.mk.inj (List.mem_singleton.mp new)
      exact ⟨tracked, tracked'⟩
  all_goals
    rw [trackers_link] at mem
    obtain ⟨old, oldMem, rfl⟩ := List.mem_map.mp mem
    dsimp only
  · have ⟨nodup, ends⟩ := h.prerequisites old oldMem
    by_cases same : old.ticket = subscriber
    · have absent : prerequisite ∉ old.prerequisites := fun mem => new (same ▸ (ends _).mp mem)
      rw [if_pos same]
      exact ⟨List.nodup_append_comm.mpr (List.nodup_cons.mpr ⟨absent, nodup⟩),
        fun p => by simp [same, ends]⟩
    · simp only [same, if_false, nodup, true_and, ends, List.mem_append, List.mem_singleton,
        Prod.mk.injEq, false_and, or_false, implies_true]
  · have ⟨nodup, ends⟩ := h.subscribers old oldMem
    by_cases same : old.ticket = prerequisite
    · have absent : subscriber ∉ old.subscribers := fun mem => new (same ▸ (ends _).mp mem)
      rw [if_pos same]
      exact ⟨List.nodup_append_comm.mpr (List.nodup_cons.mpr ⟨absent, nodup⟩),
        fun t => by simp [same, ends]⟩
    · simp only [same, if_false, nodup, true_and, ends, List.mem_append, List.mem_singleton,
        Prod.mk.injEq, and_false, or_false, implies_true]

theorem Linked.subscribe (h : g.Linked edges) (made : g.subscribe subscriber prerequisite = .ok g') :
    g'.Linked (edges ++ [(subscriber, prerequisite)]) := by
  obtain ⟨tracked', k, found, rfl⟩ := subscribe_eq_ok_iff.mp made
  have tracked := mem_tickets_iff.mpr ⟨k, found⟩
  have edge := (h.prerequisites k (mem_of_find? found)).2 prerequisite
  rw [ticket_of_find? found] at edge
  split
  · rename_i already
    refine h.congr fun e => ⟨List.mem_append_left _, fun mem => ?_⟩
    rcases List.mem_append.mp mem with old | new
    · exact old
    · exact List.mem_singleton.mp new ▸ edge.mp already
  · rename_i fresh
    exact h.link tracked tracked' fun mem => fresh (edge.mpr mem)

end Dataflow.Graph
