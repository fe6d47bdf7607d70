import Dataflow.Proofs.Graph.WellFormed
import Dataflow.Proofs.Search

namespace Dataflow.Graph
open Relation

variable {g g' : Graph} {t u : Ticket} {k : Tracker} {touched : List Ticket}

def Reaches (g : Graph) (t u : Ticket) : Prop := ReflTransGen (Search.Leads g.subscribersOf) t u

def unstamped (g : Graph) : Graph where
  trackers := g.trackers.map ({ · with serial := 0 })

theorem find?_unstamped : g.unstamped.find? t = (g.find? t).map ({ · with serial := 0 }) := by
  simp only [find?, unstamped, List.find?_map]
  rfl

theorem subscribersOf_unstamped : g.unstamped.subscribersOf t = g.subscribersOf t := by
  simp only [subscribersOf, find?_unstamped]
  cases g.find? t <;> rfl

theorem tickets_unstamped : g.unstamped.tickets = g.tickets := by
  simp [tickets, unstamped, Function.comp_def]

theorem subscribersOf_congr (same : g'.unstamped = g.unstamped) :
    g'.subscribersOf = g.subscribersOf := by
  funext t
  rw [← subscribersOf_unstamped, same, subscribersOf_unstamped]

theorem tickets_congr (same : g'.unstamped = g.unstamped) : g'.tickets = g.tickets := by
  rw [← tickets_unstamped, same, tickets_unstamped]

theorem downstream_congr (same : g'.unstamped = g.unstamped) : g'.downstream = g.downstream := by
  funext t
  simp only [downstream, subscribersOf_congr same, tickets_congr same]

theorem reaches_congr (same : g'.unstamped = g.unstamped) : g'.Reaches = g.Reaches := by
  funext t u
  simp only [Reaches, subscribersOf_congr same]

theorem mem_downstream_iff (h : g.WellFormed) (tracked : t ∈ g.tickets) :
    u ∈ g.downstream t ↔ g.Reaches t u :=
  Search.mem_breadthFirst_iff tracked (fun _ _ => subscribersOf_subset h) u

theorem self_mem_downstream (tracked : t ∈ g.tickets) : t ∈ g.downstream t :=
  (Search.visit_closed (fun fresh rest x h => by simpa using h.symm) (Nat.le_refl _) _).1 t
    (by simp) tracked

@[simp] theorem unstamped_stamp : (g.stamp touched).unstamped = g.unstamped := by
  simp only [unstamped, stamp, List.map_map, Graph.mk.injEq, and_true]
  apply List.map_congr_left
  intro k _
  by_cases mem : k.ticket ∈ touched <;> simp [mem]

theorem find?_stamp :
    (g.stamp touched).find? t = (g.find? t).map fun k =>
      if t ∈ touched then { k with serial := g.latest + 1 } else k := by
  have keeps (k : Tracker) :
      (if k.ticket ∈ touched then { k with serial := g.latest + 1 } else k).ticket = k.ticket := by
    split <;> rfl
  simp only [find?, stamp, List.find?_map, Function.comp_def, keeps]
  cases found : g.trackers.find? (·.ticket = t) with
  | none => rfl
  | some k => simp [(ticket_of_find? found : k.ticket = t)]

theorem noteChange_eq_ok_iff {result : Graph × List Ticket} :
    g.noteChange t = .ok result ↔
      t ∈ g.tickets ∧ result = (g.stamp (g.downstream t), g.downstream t) := by
  cases found : g.find? t with
  | none =>
      simp [noteChange, tracker, found, find?_eq_none_iff.mp found, bind, Except.bind]
  | some k =>
      simp [noteChange, tracker, found, mem_tickets_iff.mpr ⟨k, found⟩, bind, Except.bind, pure,
        Except.pure, eq_comm]

/-- `g'` is `g` after some passes of changes, which together have touched the trackers `touched`. -/
structure Stamped (g g' : Graph) (touched : Ticket → Prop) : Prop where
  unstamped : g'.unstamped = g.unstamped
  latest : g.latest ≤ g'.latest
  changed : ∀ t k, g.find? t = some k → touched t →
    ∃ serial, g.latest < serial ∧ serial ≤ g'.latest ∧ g'.find? t = some { k with serial }
  kept : ∀ t, ¬ touched t → g'.find? t = g.find? t
  idle : (∀ t ∈ g.tickets, ¬ touched t) → g' = g

theorem Stamped.rfl : Stamped g g fun _ => False where
  unstamped := Eq.refl _
  latest := Nat.le_refl _
  changed _ _ _ none := none.elim
  kept _ _ := Eq.refl _
  idle _ := Eq.refl _

theorem Stamped.trans {g₁ g₂ g₃ : Graph} {first later : Ticket → Prop}
    (h₁ : Stamped g₁ g₂ first) (h₂ : Stamped g₂ g₃ later) :
    Stamped g₁ g₃ fun t => first t ∨ later t where
  unstamped := h₂.unstamped.trans h₁.unstamped
  latest := h₁.latest.trans h₂.latest
  changed := by
    intro t k found touched
    by_cases again : later t
    · -- the later passes decide on the serial, whether or not the first ones gave one
      by_cases before : first t
      · obtain ⟨_, _, _, found₂⟩ := h₁.changed t k found before
        obtain ⟨serial, above, bound, found₃⟩ := h₂.changed t _ found₂ again
        exact ⟨serial, h₁.latest.trans_lt above, bound, found₃⟩
      · obtain ⟨serial, above, bound, found₃⟩ :=
          h₂.changed t k ((h₁.kept t before).trans found) again
        exact ⟨serial, h₁.latest.trans_lt above, bound, found₃⟩
    · obtain ⟨serial, above, bound, found₂⟩ := h₁.changed t k found (touched.resolve_right again)
      exact ⟨serial, above, bound.trans h₂.latest, (h₂.kept t again).trans found₂⟩
  kept t untouched := by
    rw [h₂.kept t fun later => untouched (.inr later), h₁.kept t fun first => untouched (.inl first)]
  idle untouched := by
    have same := h₁.idle fun t mem first => untouched t mem (.inl first)
    subst same
    exact h₂.idle fun t mem later => untouched t mem (.inr later)

theorem Stamped.congr {first second : Ticket → Prop} (h : Stamped g g' first)
    (same : ∀ t, first t ↔ second t) : Stamped g g' second := by
  rwa [show second = first from funext fun t => propext (same t).symm]

theorem Stamped.tickets {touched : Ticket → Prop} (h : Stamped g g' touched) :
    g'.tickets = g.tickets := tickets_congr h.unstamped

theorem Stamped.find?_eq_some {touched : Ticket → Prop} (h : Stamped g g' touched)
    (found : g'.find? t = some k) :
    ∃ old, g.find? t = some old ∧ k = { old with serial := k.serial } ∧
      (k.serial ≤ g'.latest ∨ k.serial = old.serial) := by
  have tracked : t ∈ g.tickets := h.tickets ▸ mem_tickets_iff.mpr ⟨k, found⟩
  obtain ⟨old, foundOld⟩ := mem_tickets_iff.mp tracked
  refine ⟨old, foundOld, ?_⟩
  by_cases mem : touched t
  · obtain ⟨serial, -, bound, foundNew⟩ := h.changed t old foundOld mem
    obtain rfl := Option.some.inj (found.symm.trans foundNew)
    exact ⟨Eq.refl _, .inl bound⟩
  · obtain rfl := Option.some.inj ((h.kept t mem).symm.trans found |>.symm.trans foundOld)
    exact ⟨Eq.refl _, .inr (Eq.refl _)⟩

theorem Stamped.wellFormed {touched : Ticket → Prop} (h : Stamped g g' touched)
    (wf : g.WellFormed) : g'.WellFormed := by
  have nodup : g'.tickets.Nodup := h.tickets ▸ wf.nodup
  have origin (k : Tracker) (mem : k ∈ g'.trackers) :
      ∃ old, g.find? k.ticket = some old ∧ k = { old with serial := k.serial } ∧
        (k.serial ≤ g'.latest ∨ k.serial = old.serial) := by
    obtain ⟨k', found⟩ := mem_tickets_iff.mp (ticket_mem mem)
    obtain rfl := List.inj_on_of_nodup_map nodup (mem_of_find? found) mem (ticket_of_find? found)
    exact h.find?_eq_some found
  refine ⟨nodup, ?_, ?_⟩
  · intro k mem u sub
    obtain ⟨old, found, same, -⟩ := origin k mem
    rw [h.tickets]
    rw [same] at sub
    exact wf.subscribers old (mem_of_find? found) u sub
  · intro k mem
    obtain ⟨old, found, -, bound | same⟩ := origin k mem
    · exact bound
    · rw [same]
      exact (wf.serials old (mem_of_find? found)).trans h.latest

theorem stamped_noteChange (tracked : t ∈ g.tickets) :
    Stamped g (g.stamp (g.downstream t)) (· ∈ g.downstream t) where
  unstamped := unstamped_stamp
  latest := Nat.le_succ _
  changed u k found mem := by
    refine ⟨g.latest + 1, Nat.lt_succ_self _, Nat.le_refl _, ?_⟩
    simp [find?_stamp, found, mem]
  kept u untouched := by
    rw [find?_stamp]
    cases g.find? u <;> simp [untouched]
  idle untouched := absurd (self_mem_downstream tracked) (untouched t tracked)

end Dataflow.Graph
