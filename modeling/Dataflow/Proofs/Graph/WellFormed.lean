import Dataflow.Graph
import Mathlib.Data.List.Nodup

namespace Dataflow.Graph

variable {g g' : Graph} {t u subscriber prerequisite : Ticket} {k : Tracker}

structure WellFormed (g : Graph) : Prop where
  nodup : g.tickets.Nodup
  subscribers : ∀ k ∈ g.trackers, ∀ t ∈ k.subscribers, t ∈ g.tickets
  serials : ∀ k ∈ g.trackers, k.serial ≤ g.latest

theorem ticket_mem (h : k ∈ g.trackers) : k.ticket ∈ g.tickets := List.mem_map_of_mem h

theorem mem_of_find? (h : g.find? t = some k) : k ∈ g.trackers := List.mem_of_find?_eq_some h

theorem mem_tickets_iff : t ∈ g.tickets ↔ ∃ k, g.find? t = some k := by
  have := g.find?_eq_none_iff (t := t)
  cases h : g.find? t <;> simp_all

theorem subscribersOf_subset (h : g.WellFormed) : ∀ u ∈ g.subscribersOf t, u ∈ g.tickets := by
  intro u mem
  cases found : g.find? t with
  | none => simp [subscribersOf, found] at mem
  | some k =>
      simp only [subscribersOf, found] at mem
      exact h.subscribers k (mem_of_find? found) u mem

theorem mem_trackers_modify {f : Tracker → Tracker} :
    k ∈ (g.modify t f).trackers ↔
      ∃ old ∈ g.trackers, (if old.ticket = t then f old else old) = k := by
  simp [modify]

theorem find?_modify {f : Tracker → Tracker} (ticket : ∀ k, (f k).ticket = k.ticket) :
    (g.modify t f).find? u = if u = t then (g.find? u).map f else g.find? u := by
  have keeps (k : Tracker) : (if k.ticket = t then f k else k).ticket = k.ticket := by
    split
    · exact ticket k
    · rfl
  simp only [find?, modify, List.find?_map, Function.comp_def, keeps]
  cases found : g.trackers.find? (·.ticket = u) with
  | none => simp
  | some k =>
      have own : k.ticket = u := ticket_of_find? found
      by_cases here : u = t <;> simp [own, here]

theorem WellFormed.modify (h : g.WellFormed) {f : Tracker → Tracker}
    (ticket : ∀ k, (f k).ticket = k.ticket) (serial : ∀ k, (f k).serial = k.serial)
    (subscribers : ∀ k, ∀ u ∈ (f k).subscribers, u ∈ k.subscribers ∨ u ∈ g.tickets) :
    (g.modify t f).WellFormed where
  nodup := by rw [tickets_modify g t ticket]; exact h.nodup
  subscribers := by
    intro k mem u sub
    rw [tickets_modify g t ticket]
    obtain ⟨old, oldMem, rfl⟩ := mem_trackers_modify.mp mem
    split at sub
    · rcases subscribers old u sub with sub | known
      · exact h.subscribers old oldMem u sub
      · exact known
    · exact h.subscribers old oldMem u sub
  serials := by
    intro k mem
    obtain ⟨old, oldMem, rfl⟩ := mem_trackers_modify.mp mem
    have bound := h.serials old oldMem
    split
    · rw [serial old]
      exact bound
    · exact bound

theorem WellFormed.create {description : String} (h : g.WellFormed)
    (made : g.create t description = .ok g') : g'.WellFormed := by
  have tickets := tickets_create made
  obtain ⟨untracked, -, rfl⟩ := create_eq_ok_iff.mp made
  refine ⟨?_, ?_, ?_⟩
  · rw [tickets, List.nodup_append]
    refine ⟨h.nodup, List.nodup_singleton t, ?_⟩
    intro u mem v single
    rw [List.mem_singleton.mp single]
    exact fun same => untracked (same ▸ mem)
  · intro k mem u sub
    rw [tickets]
    rcases List.mem_append.mp mem with mem | mem
    · exact List.mem_append_left _ (h.subscribers k mem u sub)
    · rw [List.mem_singleton.mp mem] at sub
      simp at sub
  · intro k mem
    rcases List.mem_append.mp mem with mem | mem
    · exact h.serials k mem
    · rw [List.mem_singleton.mp mem]
      exact Nat.zero_le _

theorem latest_create {description : String} (made : g.create t description = .ok g') :
    g'.latest = g.latest := by
  obtain ⟨-, -, rfl⟩ := create_eq_ok_iff.mp made
  rfl

theorem WellFormed.own (h : g.WellFormed) {entry : Nat} : (g.own t entry).WellFormed :=
  h.modify (fun _ => rfl) (fun _ => rfl) fun _ _ => .inl

theorem WellFormed.link (h : g.WellFormed) (tracked : subscriber ∈ g.tickets) :
    (g.link subscriber prerequisite).WellFormed := by
  have first := h.modify (t := subscriber)
    (f := fun k => { k with prerequisites := k.prerequisites ++ [prerequisite] })
    (fun _ => rfl) (fun _ => rfl) (fun _ _ sub => .inl sub)
  refine first.modify (fun _ => rfl) (fun _ => rfl) ?_
  intro k u sub
  rcases List.mem_append.mp sub with sub | sub
  · exact .inl sub
  · rw [List.mem_singleton.mp sub, tickets_modify]
    · exact .inr tracked
    · exact fun _ => rfl

theorem subscribe_eq_ok_iff :
    g.subscribe subscriber prerequisite = .ok g' ↔
      prerequisite ∈ g.tickets ∧ ∃ k, g.find? subscriber = some k ∧
        g' = if prerequisite ∈ k.prerequisites then g else g.link subscriber prerequisite := by
  cases known : g.find? prerequisite with
  | none => simp [subscribe, tracker, known, find?_eq_none_iff.mp known, bind, Except.bind]
  | some p =>
      have tracked : prerequisite ∈ g.tickets := mem_tickets_iff.mpr ⟨p, known⟩
      cases found : g.find? subscriber with
      | none => simp [subscribe, tracker, known, found, bind, Except.bind]
      | some k =>
          by_cases already : prerequisite ∈ k.prerequisites <;>
            simp [subscribe, tracker, known, found, already, tracked, bind, Except.bind, pure,
              Except.pure, eq_comm]

theorem WellFormed.subscribe (h : g.WellFormed)
    (made : g.subscribe subscriber prerequisite = .ok g') : g'.WellFormed := by
  obtain ⟨-, k, found, rfl⟩ := subscribe_eq_ok_iff.mp made
  split
  · exact h
  · exact h.link (mem_tickets_iff.mpr ⟨k, found⟩)

theorem tickets_subscribe (made : g.subscribe subscriber prerequisite = .ok g') :
    g'.tickets = g.tickets := by
  obtain ⟨-, k, -, rfl⟩ := subscribe_eq_ok_iff.mp made
  split
  · rfl
  · exact g.tickets_link _ _

theorem latest_subscribe (made : g.subscribe subscriber prerequisite = .ok g') :
    g'.latest = g.latest := by
  obtain ⟨-, k, -, rfl⟩ := subscribe_eq_ok_iff.mp made
  split <;> rfl

end Dataflow.Graph
