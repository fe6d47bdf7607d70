import Dataflow.Proofs.Graph.Operations
import Dataflow.Proofs.Graph.Order

/-!
# Topological order by counters

Whatever operations made a graph: it has a topological order exactly if its subscriptions have no
cycle. The order is found by counting, for each tracker in an arena with a place for every ticket, the
prerequisites that were not taken yet; no counter is looked up outside of the arena, and none goes
below zero.
-/

namespace Dataflow.Graph

inductive Fault where
  | outOfBounds (index : Nat)
  | belowZero (index : Nat)

/-- One place for each ticket up to the largest one in use, which need not be in use itself. -/
def arena (g : Graph) : List (Option Tracker) :=
  (List.range (g.tickets.foldr (fun t size => max (t + 1) size) 0)).map g.find?

def remaining (g : Graph) : List Nat :=
  g.arena.map fun place => (place.map (·.prerequisites.length)).getD 0

def zeroes (counters : List Nat) : List Ticket → Except Fault (List Ticket)
  | [] => .ok []
  | t :: rest =>
      match counters[t]? with
      | none => .error (.outOfBounds t)
      | some count => (zeroes counters rest).map fun later => if count = 0 then t :: later else later

def tell (counters : List Nat) (ready : List Ticket) : List Ticket → Except Fault (List Nat × List Ticket)
  | [] => .ok (counters, ready)
  | u :: rest =>
      match counters[u]? with
      | none => .error (.outOfBounds u)
      | some 0 => .error (.belowZero u)
      | some (count + 1) => tell (counters.set u count) (if count = 0 then ready ++ [u] else ready) rest

/-- What is left to count down and to take; each tracker that is taken lessens it. -/
def load (counters : List Nat) (ready : List Ticket) : Nat := counters.foldr (· + ·) 0 + ready.length

theorem load_set {counters : List Nat} {u count : Nat} (found : counters[u]? = some (count + 1))
    (ready : List Ticket) : load (counters.set u count) ready + 1 = load counters ready := by
  have total : (counters.set u count).foldr (· + ·) 0 + 1 = counters.foldr (· + ·) 0 := by
    induction counters generalizing u with
    | nil => cases found
    | cons first rest ih =>
        cases u with
        | zero =>
            obtain rfl := Option.some.inj found
            simp only [List.set_cons_zero, List.foldr_cons]
            omega
        | succ u =>
            have less := ih (u := u) (by simpa using found)
            simp only [List.set_cons_succ, List.foldr_cons]
            omega
  simp only [load]
  omega

theorem load_tell {counters counters' : List Nat} {ready ready' subscribers : List Ticket}
    (told : tell counters ready subscribers = .ok (counters', ready')) :
    load counters' ready' ≤ load counters ready := by
  induction subscribers generalizing counters ready with
  | nil =>
      obtain ⟨rfl, rfl⟩ := Prod.mk.inj (Except.ok.inj told)
      exact Nat.le_refl _
  | cons u rest ih =>
      simp only [tell] at told
      split at told
      · cases told
      · cases told
      · rename_i count found
        have less := load_set found ready
        have bound := ih told
        split at bound
        · simp only [load, List.length_append, List.length_singleton] at less bound ⊢
          omega
        · omega

def takeReady (g : Graph) (order : List Ticket) (counters : List Nat) :
    List Ticket → Except Fault (Option (List Ticket))
  | [] => .ok (some order)
  | t :: ready =>
      match g.find? t with
      | none => .ok none
      | some k =>
          match _told : tell counters ready k.subscribers with
          | .error fault => .error fault
          | .ok (counters, ready) => takeReady g (order ++ [t]) counters ready
termination_by ready => load counters ready
decreasing_by exact Nat.lt_of_le_of_lt (load_tell _told) (Nat.lt_succ_self _)

def countedOrder (g : Graph) : Except Fault (Option (List Ticket)) := do
  let ready ← zeroes g.remaining g.tickets
  let order ← takeReady g [] g.remaining ready
  return order.filter fun order => order.length = g.trackers.length

variable {g : Graph} {t : Ticket} {k : Tracker} {edges : List (Ticket × Ticket)} {counters : List Nat}
  {taken ready subscribers : List Ticket} {waiting : Waiting}

theorem lt_size_of_mem {tickets : List Ticket} (mem : t ∈ tickets) :
    t < tickets.foldr (fun t size => max (t + 1) size) 0 := by
  induction tickets with
  | nil => cases mem
  | cons u rest ih =>
      simp only [List.foldr_cons]
      rcases List.mem_cons.mp mem with rfl | mem
      · exact Nat.lt_of_lt_of_le (Nat.lt_succ_self t) (Nat.le_max_left _ _)
      · exact Nat.lt_of_lt_of_le (ih mem) (Nat.le_max_right _ _)

theorem getElem?_remaining (nodup : g.tickets.Nodup) (mem : k ∈ g.trackers) :
    g.remaining[k.ticket]? = some k.prerequisites.length := by
  obtain ⟨k', found⟩ := mem_tickets_iff.mp (ticket_mem mem)
  obtain rfl := List.inj_on_of_nodup_map nodup (mem_of_find? found) mem (ticket_of_find? found)
  have inside := lt_size_of_mem (ticket_mem mem)
  simp [remaining, arena, inside, found]

theorem zeroes_eq (counted : ∀ w ∈ waiting, counters[w.1]? = some w.2) :
    zeroes counters (waiting.map (·.1)) = .ok ((waiting.filter isReady).map (·.1)) := by
  induction waiting with
  | nil => rfl
  | cons w rest ih =>
      obtain ⟨here, later⟩ := List.forall_mem_cons.mp counted
      by_cases zero : w.2 = 0 <;> simp [zeroes, here, ih later, Except.map, isReady, zero]

/-- The counters agree with what waits, and nothing that waits is ready. -/
structure Counts (counters : List Nat) (waiting : Waiting) : Prop where
  nodup : (waiting.map (·.1)).Nodup
  counted : ∀ w ∈ waiting, counters[w.1]? = some w.2
  positive : ∀ w ∈ waiting, 0 < w.2

theorem countDown_of_notMem (absent : t ∉ waiting.map (·.1)) : countDown waiting t = waiting := by
  have other : ∀ w ∈ waiting, w.1 ≠ t := fun w mem same => absent (same ▸ List.mem_map_of_mem mem)
  refine (List.map_congr_left fun w mem => ?_).trans (List.map_id waiting)
  simp [other w mem]

theorem filter_isReady_of_positive (positive : ∀ w ∈ waiting, 0 < w.2) :
    waiting.filter isReady = [] ∧ waiting.filter (!isReady ·) = waiting := by
  have unready : ∀ w ∈ waiting, isReady w = false := fun w mem => by
    simpa [isReady] using Nat.ne_of_gt (positive w mem)
  exact ⟨List.filter_eq_nil_iff.mpr (by simpa using unready),
    List.filter_eq_self.mpr (by simpa using unready)⟩

theorem Counts.countDown {before after : Waiting} {count : Nat}
    (h : Counts counters (before ++ (t, count + 1) :: after)) :
    Graph.countDown (before ++ (t, count + 1) :: after) t = before ++ (t, count) :: after := by
  have nodup := h.nodup
  simp only [List.map_append, List.map_cons, List.nodup_append', List.nodup_cons,
    List.disjoint_cons_right] at nodup
  obtain ⟨-, ⟨absent, -⟩, absent', -⟩ := nodup
  have first := countDown_of_notMem absent'
  have last := countDown_of_notMem absent
  simp only [Graph.countDown] at first last ⊢
  simp [first, last]

theorem Counts.set {before after : Waiting} {count : Nat}
    (h : Counts counters (before ++ (t, count + 1) :: after)) : Counts (counters.set t count)
      ((before ++ (t, count) :: after).filter (!isReady ·)) := by
  have keys : (before ++ (t, count) :: after).map (·.1) =
      (before ++ (t, count + 1) :: after).map (·.1) := by simp
  have found := h.counted (t, count + 1) (by simp)
  refine ⟨?_, fun w mem => ?_, fun w mem => ?_⟩
  · exact (keys ▸ h.nodup).sublist ((List.filter_sublist).map _)
  · obtain ⟨mem, -⟩ := List.mem_filter.mp mem
    by_cases same : w.1 = t
    · have alone : w = (t, count) :=
        List.inj_on_of_nodup_map (keys ▸ h.nodup) mem (by simp) same
      have inside := (List.getElem?_eq_some_iff.mp found).1
      simp [alone, inside]
    · rw [List.getElem?_set_ne (Ne.symm same)]
      refine h.counted w ?_
      simp only [List.mem_append, List.mem_cons] at mem ⊢
      rcases mem with first | rfl | last
      · exact .inl first
      · exact absurd rfl same
      · exact .inr (.inr last)
  · simpa [isReady, Nat.pos_iff_ne_zero] using (List.mem_filter.mp mem).2

theorem Counts.ready_of_countDown {before after : Waiting} {count : Nat}
    (h : Counts counters (before ++ (t, count + 1) :: after)) :
    ((before ++ (t, count) :: after).filter isReady).map (·.1) = if count = 0 then [t] else [] := by
  obtain ⟨first, -, last⟩ := List.forall_mem_append.mp h.positive |>.imp_right List.forall_mem_cons.mp
  by_cases zero : count = 0 <;>
    simp [filter_isReady_of_positive first, filter_isReady_of_positive last, isReady, zero]

theorem Counts.tell_release (h : Counts counters waiting) (ready : List Ticket)
    (distinct : subscribers.Nodup) (wait : ∀ u ∈ subscribers, u ∈ waiting.map (·.1)) : ∃ counters',
      tell counters ready subscribers = .ok (counters', (release ready waiting subscribers).1) ∧
      Counts counters' (release ready waiting subscribers).2 := by
  induction subscribers generalizing counters ready waiting with
  | nil => exact ⟨counters, rfl, h⟩
  | cons u rest ih =>
      obtain ⟨new, apart⟩ := List.nodup_cons.mp distinct
      obtain ⟨here, later⟩ := List.forall_mem_cons.mp wait
      obtain ⟨⟨u, total⟩, mem, rfl⟩ := List.mem_map.mp here
      obtain ⟨count, rfl⟩ := Nat.exists_eq_add_one.mpr (h.positive _ mem)
      have found := h.counted _ mem
      obtain ⟨before, after, rfl⟩ := List.append_of_mem mem
      -- the others among the subscribers have not been told yet, and so still wait
      have still : ∀ v ∈ rest,
          v ∈ ((before ++ (u, count) :: after).filter (!isReady ·)).map (·.1) := by
        intro v told
        obtain ⟨w, wMem, rfl⟩ := List.mem_map.mp (later v told)
        have other : w.1 ≠ u := fun same => new (same ▸ told)
        have waits : w ∈ before ++ (u, count) :: after := by
          simp only [List.mem_append, List.mem_cons] at wMem ⊢
          rcases wMem with first | rfl | last
          · exact .inl first
          · exact absurd rfl other
          · exact .inr (.inr last)
        have unready : (!isReady w) = true := by
          simpa [isReady] using Nat.ne_of_gt (h.positive w wMem)
        exact List.mem_map_of_mem (List.mem_filter.mpr ⟨waits, unready⟩)
      obtain ⟨counters', told, counts⟩ :=
        ih h.set (if count = 0 then ready ++ [u] else ready) apart still
      have same : (if count = 0 then ready ++ [u] else ready) =
          ready ++ if count = 0 then [u] else [] := by
        by_cases zero : count = 0 <;> simp [zero]
      rw [same] at told counts
      refine ⟨counters', ?_, ?_⟩
      · simp only [tell, found, release, h.countDown, h.ready_of_countDown, same, told]
      · simpa only [release, h.countDown, h.ready_of_countDown] using counts

/-- Whoever depends on a tracker that is ready waits: it was not taken before that tracker, and is
not ready while that was not taken. -/
theorem Draining.waits (h : g.Draining taken (t :: ready) waiting) (linked : g.Linked edges)
    (nodup : g.tickets.Nodup) {u : Ticket} (subscribed : u ∈ g.subscribersOf t) :
    u ∈ waiting.map (·.1) := by
  have edge := linked.mem_subscribersOf_iff.mp subscribed
  have depends := linked.mem_prerequisitesOf_iff.mpr edge
  have tracked := h.perm.mem_iff.mpr (linked.tracked _ _ edge).1
  have new := h.new nodup
  simp only [List.mem_append] at tracked
  rcases tracked with before | pending | waits
  · obtain ⟨first, rest, split⟩ := List.append_of_mem before
    have earlier := h.inOrder first u rest split t depends
    exact absurd (split ▸ List.mem_append_left _ earlier) new
  · exact absurd (h.ready u pending t depends) new
  · exact waits

theorem Draining.takeReady (h : g.Draining taken ready waiting) (counts : Counts counters waiting)
    (linked : g.Linked edges) (nodup : g.tickets.Nodup) (bound : Nat)
    (enough : ready.length + waiting.length ≤ bound) :
    g.takeReady taken counters ready = .ok (some (taken ++ g.drain bound ready waiting)) := by
  induction bound generalizing taken counters ready waiting with
  | zero =>
      obtain rfl : ready = [] := List.length_eq_zero_iff.mp (by omega)
      simp [Graph.takeReady, Graph.drain]
  | succ bound ih =>
      cases ready with
      | nil => simp [Graph.takeReady, Graph.drain]
      | cons t ready =>
          obtain ⟨k, found⟩ := mem_tickets_iff.mp (h.perm.mem_iff.mp (by simp : t ∈ _))
          have subscribers : k.subscribers = g.subscribersOf t := by simp [subscribersOf, found]
          obtain ⟨counters', told, counts'⟩ := counts.tell_release ready
            linked.nodup_subscribersOf fun u => h.waits linked nodup
          rw [← subscribers] at told
          have next := h.step linked nodup
          have fewer := next.perm.length_eq.trans h.perm.length_eq.symm
          simp only [List.length_append, List.length_map, List.length_cons, List.length_nil]
            at fewer enough
          have rest := ih next counts' (by omega)
          rw [List.append_assoc] at rest
          rw [Graph.takeReady]
          split
          · simp_all
          · rename_i k' found'
            obtain rfl := Option.some.inj (found.symm.trans found')
            split
            · rename_i fault failed
              rw [told] at failed
              cases failed
            · rename_i counters₁ ready₁ told₁
              obtain ⟨rfl, rfl⟩ := Prod.mk.inj (Except.ok.inj (told.symm.trans told₁))
              rw [subscribers]
              exact rest

theorem countedOrder_eq (linked : g.Linked edges) (nodup : g.tickets.Nodup) :
    g.countedOrder = .ok g.topologicalOrder := by
  have start := draining_start linked rfl
  have enough := start.perm.length_eq
  simp only [List.nil_append, List.length_append, List.length_map, tickets] at enough
  have counted : ∀ w ∈ g.trackers.map fun k => (k.ticket, k.prerequisites.length),
      g.remaining[w.1]? = some w.2 := by
    intro w mem
    obtain ⟨k, kMem, rfl⟩ := List.mem_map.mp mem
    exact getElem?_remaining nodup kMem
  have keys : (g.trackers.map fun k => (k.ticket, k.prerequisites.length)).map (·.1) = g.tickets := by
    simp [tickets, Function.comp_def]
  have counts : Counts g.remaining
      ((g.trackers.map fun k => (k.ticket, k.prerequisites.length)).filter (!isReady ·)) := by
    refine ⟨(keys ▸ nodup).sublist (List.filter_sublist.map _), fun w mem => ?_, fun w mem => ?_⟩
    · exact counted w (List.mem_filter.mp mem).1
    · simpa [isReady, Nat.pos_iff_ne_zero] using (List.mem_filter.mp mem).2
  have ready := zeroes_eq counted
  rw [keys] at ready
  have taken := start.takeReady counts linked nodup g.trackers.length (by simpa using enough.le)
  rw [List.nil_append] at taken
  simp only [countedOrder, ready, bind, Except.bind]
  rw [taken]
  simp [topologicalOrder, pure, Except.pure, Option.filter]

/-- Whatever the graph, with gaps between its tickets, repeated subscriptions and cycles. -/
theorem topologicalOrder_counted (operations : List Operation) :
    (perform {} operations).countedOrder = .ok (perform {} operations).topologicalOrder ∧
    ((∃ order, (perform {} operations).topologicalOrder = some order) ↔
      (perform {} operations).Acyclic) ∧
    ∀ order, (perform {} operations).topologicalOrder = some order →
      (perform {} operations).Sorted order := by
  obtain ⟨wf, edges, linked⟩ := sound_perform operations
  refine ⟨countedOrder_eq linked wf.nodup, ⟨fun ⟨order, found⟩ => ?_, fun acyclic => ?_⟩, fun order => ?_⟩
  · exact (sorted_of_topologicalOrder linked wf.nodup found).acyclic linked
  · exact acyclic.exists_topologicalOrder linked wf.nodup
  · exact sorted_of_topologicalOrder linked wf.nodup

/-- Where only one end of an edge knows of it, which no operation brings about, a counter would go below
zero. -/
example : (match countedOrder { trackers := [⟨4, "a", [], [9], 0, none⟩, ⟨9, "b", [], [], 0, none⟩] } with
    | .error (.belowZero 9) => true
    | _ => false) = true := by
  cbv

end Dataflow.Graph
