import Dataflow.Proofs.Attempt
import Dataflow.Proofs.Graph.WellFormed

namespace Dataflow

structure Slot.Undated (f : Slot → Slot) : Prop where
  ticket : ∀ slot, (f slot).ticket = slot.ticket
  computed : ∀ slot, (f slot).computedAt = none ∨
    (f slot).computedAt = slot.computedAt ∧ ((f slot).value = none → slot.value = none)

theorem Cache.mem_onSlots {c : Cache} {index : Option Nat} {f : Slot → Slot} {slot : Slot}
    (h : slot ∈ c.onSlots index f) : ∃ old ∈ c, slot = old ∨ slot = f old := by
  cases index with
  | none =>
      obtain ⟨old, mem, rfl⟩ := List.mem_map.mp h
      exact ⟨old, mem, .inr rfl⟩
  | some index =>
      obtain ⟨i, found⟩ := List.mem_iff_getElem?.mp h
      rw [Cache.onSlots, List.getElem?_modify] at found
      obtain ⟨old, foundOld, rfl⟩ := Option.map_eq_some_iff.mp found
      refine ⟨old, List.mem_of_getElem? foundOld, ?_⟩
      split
      · exact .inr rfl
      · exact .inl rfl

theorem Cache.modify_last (c : Cache) (slot : Slot) (f : Slot → Slot) :
    List.modify (c ++ [slot]) c.length f = c ++ [f slot] :=
  List.modifyTailIdx_add (List.modifyHead f) 0 c [slot]

theorem map_modify {α β : Type} {f : α → α} {g : α → β} (same : ∀ a, g (f a) = g a) (xs : List α)
    (i : Nat) : (xs.modify i f).map g = xs.map g := by
  refine List.ext_getElem? fun j => ?_
  rw [List.getElem?_map, List.getElem?_map, List.getElem?_modify]
  cases xs[j]? with
  | none => rfl
  | some a => by_cases here : i = j <;> simp [here, same]

theorem getElem?_of_map_isPrefix {α β : Type} {g : α → β} {xs ys : List α} {i : Nat} {a : α}
    (kept : xs.map g <+: ys.map g) (listed : xs[i]? = some a) :
    ∃ a', ys[i]? = some a' ∧ g a' = g a := by
  have mapped : (xs.map g)[i]? = some (g a) := by rw [List.getElem?_map, listed, Option.map_some]
  obtain ⟨inside, same⟩ := List.getElem?_eq_some_iff.mp mapped
  have there := List.prefix_iff_getElem?.mp kept i inside
  rw [same, List.getElem?_map] at there
  exact Option.map_eq_some_iff.mp there

namespace Store

variable {s s' : Store} {t : Ticket}

structure WellFormed (s : Store) : Prop where
  graph : s.graph.WellFormed
  tracked : ∀ slot ∈ s.cache, slot.ticket ∈ s.graph.tickets
  computed : ∀ slot ∈ s.cache, ∀ n, slot.computedAt = some n → n ≤ s.graph.latest
  running : ∀ slot ∈ s.cache, slot.value = none → slot.computedAt = none

structure Grows (s s' : Store) : Prop where
  wellFormed : s.WellFormed → s'.WellFormed
  tickets : s.graph.tickets ⊆ s'.graph.tickets

theorem Grows.frame : Frame Grows where
  refl _ := ⟨id, List.Subset.refl _⟩
  trans first later := ⟨later.wellFormed ∘ first.wellFormed, List.Subset.trans first.tickets later.tickets⟩

theorem WellFormed.withGraph (h : s.WellFormed) {graph : Graph} (wf : graph.WellFormed)
    (tickets : s.graph.tickets ⊆ graph.tickets) (latest : s.graph.latest ≤ graph.latest) :
    WellFormed { s with graph } where
  graph := wf
  tracked slot mem := tickets (h.tracked slot mem)
  computed slot mem n at_ := Nat.le_trans (h.computed slot mem n at_) latest
  running := h.running

theorem grows_onSlots {f : Slot → Slot} (h : Slot.Undated f) (index : Option Nat) :
    Grows s { s with cache := s.cache.onSlots index f } := by
  refine ⟨fun wf => ⟨wf.graph, ?_, ?_, ?_⟩, List.Subset.refl _⟩
  all_goals
    intro slot mem
    obtain ⟨old, oldMem, rfl | rfl⟩ := Cache.mem_onSlots mem
  · exact wf.tracked slot oldMem
  · rw [h.ticket]
    exact wf.tracked old oldMem
  · exact wf.computed slot oldMem
  · intro n at_
    rcases h.computed old with none | ⟨same, -⟩
    · rw [none] at at_
      cases at_
    · exact wf.computed old oldMem n (same ▸ at_)
  · exact wf.running slot oldMem
  · intro empty
    rcases h.computed old with none | ⟨same, value⟩
    · exact none
    · rw [same]
      exact wf.running old oldMem (value empty)

theorem WellFormed.dated (h : s.WellFormed) {f : Slot → Slot}
    (ticket : ∀ slot, (f slot).ticket = slot.ticket) (value : ∀ slot, (f slot).value ≠ none)
    (bound : ∀ slot n, (f slot).computedAt = some n → n ≤ s.graph.latest) (index : Option Nat) :
    WellFormed { s with cache := s.cache.onSlots index f } := by
  refine ⟨h.graph, ?_, ?_, ?_⟩
  all_goals
    intro slot mem
    obtain ⟨old, oldMem, rfl | rfl⟩ := Cache.mem_onSlots mem
  · exact h.tracked slot oldMem
  · rw [ticket]
    exact h.tracked old oldMem
  · exact h.computed slot oldMem
  · exact bound old
  · exact h.running slot oldMem
  · exact fun empty => absurd empty (value old)

theorem onGraph_eq_ok_iff {f : Graph → Except Error Graph} {u : Unit} : onGraph f s = .ok u s' ↔
    ∃ graph, f s.graph = .ok graph ∧ s' = { s with graph } := by
  simp only [onGraph, step_eq_ok_iff, bind, Except.bind]
  cases f s.graph <;> simp [pure, Except.pure, eq_comm]

theorem keeps_onGraph {R : Store → Store → Prop} (frame : Frame R) {f : Graph → Except Error Graph}
    (h : ∀ (s : Store) (graph : Graph), f s.graph = .ok graph → R s { s with graph }) :
    Keeps R (onGraph f) := by
  refine .step frame ?_
  intro s s' made
  obtain ⟨graph, result, rfl⟩ := onGraph_eq_ok_iff.mp (step_eq_ok_iff (u := ()).mpr made)
  exact h s graph result

theorem grows_create {description : String} : Keeps Grows (create t description) := by
  apply keeps_onGraph Grows.frame
  intro s graph result
  have tickets : s.graph.tickets ⊆ graph.tickets := by
    rw [Graph.tickets_create result]
    exact List.subset_append_left _ _
  exact ⟨fun h => h.withGraph (h.graph.create result) tickets
    (Nat.le_of_eq (Graph.latest_create result).symm), tickets⟩

theorem grows_subscribe {subscriber prerequisite : Ticket} :
    Keeps Grows (subscribe subscriber prerequisite) := by
  apply keeps_onGraph Grows.frame
  intro s graph result
  have tickets : s.graph.tickets ⊆ graph.tickets := by
    rw [Graph.tickets_subscribe result]
    exact List.Subset.refl _
  exact ⟨fun h => h.withGraph (h.graph.subscribe result) tickets
    (Nat.le_of_eq (Graph.latest_subscribe result).symm), tickets⟩

theorem Grows.frameFrom (t : Ticket) : Frame fun s s' => t ∈ s.graph.tickets → Grows s s' where
  refl s _ := Grows.frame.refl s
  trans first later tracked :=
    Grows.frame.trans (first tracked) (later ((first tracked).tickets tracked))

theorem grows_furnish {index : Nat} {description : String} {prerequisites : List Ticket} :
    Keeps (fun s s' => t ∈ s.graph.tickets → Grows s s')
      (furnish index t description prerequisites) := by
  have frame := Grows.frameFrom t
  refine .bind frame (.modify fun s _ => ?_) fun _ =>
    .bind frame (.forM frame fun p _ s _ => grows_subscribe s) fun _ => .modify fun s tracked => ?_
  · have tickets : s.graph.tickets ⊆ (s.graph.own t index).tickets := by simp
    exact ⟨fun h => h.withGraph h.graph.own tickets (Nat.le_refl _), tickets⟩
  · refine ⟨fun h => ⟨h.graph, ?_, ?_, ?_⟩, List.Subset.refl _⟩
    all_goals
      intro slot mem
      rcases List.mem_append.mp mem with old | new
    · exact h.tracked slot old
    · rw [List.mem_singleton.mp new]
      exact tracked
    · exact h.computed slot old
    · simp [List.mem_singleton.mp new]
    · exact h.running slot old
    · simp [List.mem_singleton.mp new]

theorem mem_tickets_of_create {description : String} {u : Unit}
    (made : create t description s = .ok u s') : t ∈ s'.graph.tickets := by
  obtain ⟨graph, result, rfl⟩ := onGraph_eq_ok_iff.mp made
  simp [Graph.tickets_create result]

theorem grows_addEntry {index : Nat} {description : String} {prerequisites : List Ticket} :
    Keeps Grows (addEntry index t description prerequisites) := by
  intro s
  refine .bind Grows.frame (Keeps.get Grows.frame s) ?_
  intro a s₁ _
  split
  · exact Keeps.throw Grows.frame _ _
  · refine .bind Grows.frame (grows_create s₁) ?_
    intro u s₂ made
    exact grows_furnish s₂ (mem_tickets_of_create made)

theorem cache_addEntry {index : Nat} {description : String} {prerequisites : List Ticket} {u : Unit}
    (made : addEntry index t description prerequisites s = .ok u s') :
    index = s.cache.length ∧ s'.cache = s.cache ++ [{ index, ticket := t, description }] := by
  obtain ⟨s₀, s₁, got, made⟩ := bind_eq_ok_iff.mp made
  cases got
  split at made
  · cases made
  · rename_i inOrder
    obtain ⟨⟨⟩, s₂, created, made⟩ := bind_eq_ok_iff.mp made
    obtain ⟨graph, -, rfl⟩ := onGraph_eq_ok_iff.mp created
    obtain ⟨⟨⟩, s₃, own, made⟩ := bind_eq_ok_iff.mp made
    obtain ⟨⟨⟩, s₄, subscribed, appended⟩ := bind_eq_ok_iff.mp made
    cases own
    cases appended
    have kept : s₄.cache = s.cache := by
      refine forM_ok (I := fun _ s₄ => s₄.cache = s.cache) (Eq.refl _) (fun _ p s₁ s₂ same made => ?_)
        subscribed
      obtain ⟨graph, -, rfl⟩ := onGraph_eq_ok_iff.mp made
      exact same
    exact ⟨Decidable.not_not.mp inOrder, congrArg (· ++ _) kept⟩

end Store

end Dataflow
