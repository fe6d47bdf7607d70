import Dataflow.Proofs.Replay

namespace Dataflow

open Relation

namespace System

variable {s : System} {t : Ticket} {n : Nat} {d : Declaration}

def Declaration.isComputed : Declaration → Bool
  | .source _ | .input _ _ => false
  | .entry _ _ | .output _ _ => true

def Declaration.ticket (d : Declaration) : Ticket := d.label.1

theorem Declaration.ends_of_mem_edges {d : Declaration} {t p : Ticket} (edge : (t, p) ∈ d.edges) :
    if d.isComputed then t = d.ticket else p = d.ticket := by
  cases d with
  | source x => exact (Prod.mk.inj (List.mem_singleton.mp edge)).2
  | input index port => exact (Prod.mk.inj (List.mem_singleton.mp edge)).2
  | entry index e =>
      obtain ⟨u, -, same⟩ := List.mem_map.mp edge
      exact (Prod.mk.inj same).1.symm
  | output index port =>
      simp only [edges] at edge
      split at edge
      · exact (Prod.mk.inj (List.mem_singleton.mp edge)).1
      · cases edge

theorem getElem?_append_iff {α : Type} {xs ys : List α} {a : α} :
    (xs ++ ys)[n]? = some a ↔ xs[n]? = some a ∨ ∃ i, ys[i]? = some a ∧ n = xs.length + i := by
  rcases Nat.lt_or_ge n xs.length with inside | beyond
  · have apart (i : Nat) : n ≠ xs.length + i := by omega
    simp [List.getElem?_append_left inside, apart]
  · obtain ⟨i, rfl⟩ := Nat.exists_eq_add_of_le beyond
    simp [List.getElem?_append_right beyond]

theorem getElem?_declarations_iff : s.declarations[n]? = some d ↔
    (∃ x, (SourceGroup.all.flatMap s.sourcesOf)[n]? = some x ∧ d = .source x) ∨
    (∃ (i : Nat) (p : Port), s.inputs[i]? = some p ∧ d = .input i p ∧
      n = (SourceGroup.all.flatMap s.sourcesOf).length + i) ∨
    (∃ (i : Nat) (e : Entry), s.entries[i]? = some e ∧ d = .entry i e ∧
      n = (SourceGroup.all.flatMap s.sourcesOf).length + s.inputs.length + i) ∨
    ∃ (i : Nat) (p : OutputPort), s.outputs[i]? = some p ∧ d = .output i p ∧
      n = (SourceGroup.all.flatMap s.sourcesOf).length + s.inputs.length + s.entries.length + i := by
  have indexed {α : Type} {xs : List α} {f : Nat → α → Declaration} {k : Nat} :
      (∃ i, (xs.mapIdx f)[i]? = some d ∧ n = k + i) ↔
        ∃ i x, xs[i]? = some x ∧ d = f i x ∧ n = k + i := by
    simp only [List.getElem?_mapIdx, Option.map_eq_some_iff, eq_comm (a := d), exists_and_right,
      ← and_assoc]
  simp only [declarations, getElem?_append_iff, List.length_append, List.length_map,
    List.length_mapIdx, indexed, List.getElem?_map, Option.map_eq_some_iff, eq_comm (b := d), or_assoc]

theorem entry_position {i : Nat} {e : Entry} (found : s.entries[i]? = some e) :
    s.declarations[(SourceGroup.all.flatMap s.sourcesOf).length + s.inputs.length + i]? =
      some (.entry i e) :=
  getElem?_declarations_iff.mpr (.inr (.inr (.inl ⟨i, e, found, rfl, rfl⟩)))

theorem output_position {i : Nat} {p : OutputPort} (found : s.outputs[i]? = some p) :
    s.declarations[(SourceGroup.all.flatMap s.sourcesOf).length + s.inputs.length +
      s.entries.length + i]? = some (.output i p) :=
  getElem?_declarations_iff.mpr (.inr (.inr (.inr ⟨i, p, found, rfl, rfl⟩)))

theorem mem_tickets_take_iff {ds : List Declaration} :
    t ∈ (ds.take n).map Declaration.ticket ↔ ∃ m d, m < n ∧ ds[m]? = some d ∧ d.ticket = t := by
  simp only [List.mem_map, List.mem_take_iff_getElem, List.getElem?_eq_some_iff]
  constructor
  · rintro ⟨_, ⟨m, inside, rfl⟩, same⟩
    exact ⟨m, _, by omega, ⟨by omega, rfl⟩, same⟩
  · rintro ⟨m, _, before, ⟨inside, rfl⟩, same⟩
    exact ⟨_, ⟨m, by omega, rfl⟩, same⟩

end System

namespace Context

variable {c₀ c : Context} {s : System} {t : Ticket} {n m : Nat} {d d' : System.Declaration}

theorem Laid.tickets {done : List System.Declaration} (h : Laid c₀ done c) :
    c.graph.tickets = c₀.graph.tickets ++ done.map System.Declaration.ticket := by
  rw [Graph.tickets_eq_labels, h.graph.labels, Graph.tickets_eq_labels]
  simp [Function.comp_def, System.Declaration.ticket]

theorem Laid.position_unique (h : Laid c₀ s.declarations c) (found : s.declarations[n]? = some d)
    (found' : s.declarations[m]? = some d') (same : d.ticket = d'.ticket) : n = m := by
  have nodup := h.graph.nodup
  rw [h.tickets] at nodup
  have inside : n < (s.declarations.map System.Declaration.ticket).length := by
    simpa using (List.getElem?_eq_some_iff.mp found).1
  refine (List.getElem?_inj inside (List.Nodup.of_append_right nodup)).mp ?_
  rw [List.getElem?_map, List.getElem?_map, found, found', Option.map_some, Option.map_some, same]

theorem Laid.not_mem_start (h : Laid c₀ s.declarations c) (found : s.declarations[n]? = some d) :
    d.ticket ∉ c₀.graph.tickets := by
  have nodup := h.graph.nodup
  rw [h.tickets] at nodup
  intro old
  exact (List.nodup_append.mp nodup).2.2 _ old _
    (List.mem_map_of_mem (List.mem_of_getElem? found)) rfl

/-- Whatever subscribes to something computed is computed itself, and comes no earlier. -/
theorem Laid.subscriber_position (h : Laid c₀ s.declarations c) (fresh : c₀.IsFresh)
    (found : s.declarations[n]? = some d) (computed : d.isComputed = true)
    (subscribed : t ∈ c.graph.subscribersOf d.ticket) :
    ∃ m d', s.declarations[m]? = some d' ∧ d'.isComputed = true ∧ d'.ticket = t ∧ n ≤ m := by
  rcases List.mem_append.mp (h.graph.linked.mem_subscribersOf_iff.mp subscribed) with builtIn | declared
  · have tracked := (Graph.linked_builtIn.tracked _ _ builtIn).2
    rw [← fresh.graph, Graph.tickets_unstamped] at tracked
    exact absurd tracked (h.not_mem_start found)
  · obtain ⟨d', mem, edge⟩ := List.mem_flatMap.mp declared
    obtain ⟨m, found'⟩ := List.mem_iff_getElem?.mp mem
    have ends := d'.ends_of_mem_edges edge
    cases computed' : d'.isComputed with
    | false =>
        -- a source or an input port is subscribed to, and would be the computed thing itself
        simp only [computed', Bool.false_eq_true, if_false] at ends
        obtain rfl := h.position_unique found found' ends
        obtain rfl := Option.some.inj (found.symm.trans found')
        rw [computed] at computed'
        cases computed'
    | true =>
        simp only [computed', if_true] at ends
        refine ⟨m, d', found', computed', ends.symm, ?_⟩
        rcases List.mem_append.mp (h.ordered m d' found' _ edge).2 with old | new
        · exact absurd old (h.not_mem_start found)
        · obtain ⟨l, other, before, foundOther, same⟩ := System.mem_tickets_take_iff.mp new
          obtain rfl := h.position_unique found foundOther same.symm
          exact Nat.le_of_lt_succ before

theorem Laid.reached_position (h : Laid c₀ s.declarations c) (fresh : c₀.IsFresh)
    (found : s.declarations[n]? = some d) (computed : d.isComputed = true)
    (reached : c.graph.Reaches d.ticket t) :
    ∃ m d', s.declarations[m]? = some d' ∧ d'.isComputed = true ∧ d'.ticket = t ∧ n ≤ m := by
  -- from something computed, a path leads to computed things only
  induction reached with
  | refl => exact ⟨n, d, found, computed, rfl, Nat.le_refl n⟩
  | tail _ step ih =>
      obtain ⟨m, d', found', computed', rfl, earlier⟩ := ih
      obtain ⟨l, d'', found'', computed'', same, later⟩ :=
        h.subscriber_position fresh found' computed' step
      exact ⟨l, d'', found'', computed'', same, Nat.le_trans earlier later⟩

end Context

end Dataflow
