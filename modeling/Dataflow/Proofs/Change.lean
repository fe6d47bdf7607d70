import Dataflow.Proofs.Session

/-!
# What a change reaches

A change of any tracker in any tree that a session comes to: it is noted without an error, it gives
a new serial to what depends on the tracker within contexts and across them, whatever cycles the
links make, and nothing else happens to the tree.
-/

namespace Dataflow.Tree

variable {t t' : Tree} {start l : Location} {id : ContextId} {c : Context}

def tracker? (t : Tree) (l : Location) : Option Tracker :=
  t.contexts[l.context]?.bind (·.graph.find? l.ticket)

theorem tracker?_eq_some_iff {k : Tracker} : t.tracker? l = some k ↔
    ∃ c, t.contexts[l.context]? = some c ∧ c.graph.find? l.ticket = some k := by
  simp [tracker?, Option.bind_eq_some_iff]

structure Changed (t t' : Tree) (start : Location) : Prop where
  links : t'.links = t.links
  config : t'.config = t.config
  size : t'.size = t.size
  /-- of a context nothing but its graph changes -/
  contexts : ∀ (id : ContextId) (c : Context), t.contexts[id]? = some c →
    ∃ graph : Graph, t'.contexts[id]? = some { c with graph }
  /-- of a tracker nothing but its serial changes, and only if it depends on `start` -/
  trackers : ∀ (l : Location) (k : Tracker), t.tracker? l = some k →
    ∃ serial, t'.tracker? l = some { k with serial } ∧ (serial ≠ k.serial ↔ t.Reaches start l)
  untracked : ∀ l, t.tracker? l = none → t'.tracker? l = none
  /-- a new serial is above all that were in the context, on trackers and on slots -/
  above : ∀ (l : Location) (c : Context) (k : Tracker), t.Reaches start l →
    t.contexts[l.context]? = some c → t'.tracker? l = some k →
    (∀ other ∈ c.graph.trackers, other.serial < k.serial) ∧
    ∀ slot ∈ c.cache, ∀ n, slot.computedAt = some n → n < k.serial
  /-- a context without a tracker that depends on `start` is left alone, its latest serial included -/
  idle : ∀ (id : ContextId) (c : Context), t.contexts[id]? = some c →
    (∀ u, ¬ t.Reaches start ⟨id, u⟩) → t'.contexts[id]? = some c

theorem Stamped.serial {touched : Location → Prop} (h : Stamped t t' touched) {k : Tracker}
    (found : t.contexts[l.context]? = some c) (reached : touched l)
    (after : t'.tracker? l = some k) : c.graph.latest < k.serial := by
  obtain ⟨graph, found', stamped⟩ := h.contexts _ c found
  obtain ⟨c', same, tracked'⟩ := tracker?_eq_some_iff.mp after
  obtain rfl := Option.some.inj (found'.symm.trans same)
  obtain ⟨old, tracked, -, -⟩ := stamped.find?_eq_some tracked'
  obtain ⟨serial, above, -, tracked''⟩ := stamped.changed _ old tracked reached
  obtain rfl := Option.some.inj (tracked'.symm.trans tracked'')
  exact above

theorem Stamped.tracker? {touched : Location → Prop} (h : Stamped t t' touched) {k : Tracker}
    (wf : t.WellFormed) (before : t.tracker? l = some k) :
    ∃ serial, t'.tracker? l = some { k with serial } ∧ (serial ≠ k.serial ↔ touched l) := by
  obtain ⟨c, found, tracked⟩ := tracker?_eq_some_iff.mp before
  obtain ⟨graph, found', stamped⟩ := h.contexts _ c found
  by_cases reached : touched l
  · obtain ⟨serial, above, -, tracked'⟩ := stamped.changed _ k tracked reached
    have old := (wf.context found).graph.serials k (Graph.mem_of_find? tracked)
    have new : serial ≠ k.serial := Nat.ne_of_gt (Nat.lt_of_le_of_lt old above)
    exact ⟨serial, tracker?_eq_some_iff.mpr ⟨_, found', tracked'⟩, by simp [new, reached]⟩
  · have same := (stamped.kept l.ticket reached).trans tracked
    exact ⟨k.serial, tracker?_eq_some_iff.mpr ⟨_, found', same⟩, by simp [reached]⟩

theorem Stamped.tracker?_eq_none {touched : Location → Prop} (h : Stamped t t' touched)
    (before : t.tracker? l = none) : t'.tracker? l = none := by
  simp only [Tree.tracker?] at before ⊢
  cases found : t.contexts[l.context]? with
  | none => simp [h.contexts_eq_none found]
  | some c =>
      obtain ⟨graph, found', stamped⟩ := h.contexts _ c found
      simp only [found, found', Option.bind_some, Graph.find?_eq_none_iff] at before ⊢
      rwa [stamped.tickets]

theorem Stamped.toChanged (h : Stamped t t' (t.Reaches start)) (wf : t.WellFormed) :
    t.Changed t' start where
  links := h.links
  config := h.config
  size := h.size
  contexts id c found := (h.contexts id c found).imp fun graph => And.left
  trackers l k before := h.tracker? wf before
  untracked l before := h.tracker?_eq_none before
  above l c k reached found after := by
    have above := h.serial found reached after
    have store := wf.context found
    exact ⟨fun other mem => Nat.lt_of_le_of_lt (store.graph.serials other mem) above,
      fun slot mem n at_ => Nat.lt_of_le_of_lt (store.computed slot mem n at_) above⟩
  idle id c found unreached := by
    obtain ⟨graph, found', stamped⟩ := h.contexts id c found
    rw [found', stamped.idle fun u _ => unreached u]

/-- In whatever tree, a change of a tracker that exists succeeds and reaches exactly what depends on
the tracker. -/
theorem noteChange_exact {s : Session} (reachable : s.Reachable) {start : Location}
    (tracked : s.tree.Tracks start) :
    ∃ t' n, s.tree.noteChange start = .ok (t', n) ∧ s.tree.Changed t' start := by
  have wf := reachable.wellFormed
  obtain ⟨t', n, noted, stamped⟩ := noteChange_ok wf tracked
  exact ⟨t', n, noted, stamped.toChanged wf⟩

def cyclic : Session :=
  (Session.start {} [] {}).perform
    [.addContext none, .addContext (some 0), .subscribe ⟨1, .accuracy⟩ ⟨0, .allSources⟩,
      .subscribe ⟨0, .time⟩ ⟨1, .allExceptInputs⟩, .subscribe ⟨0, .allInputs⟩ ⟨0, .time⟩]

theorem noteChange_cyclic : cyclic.Reachable ∧ cyclic.tree.Tracks ⟨1, .time⟩ ∧
    ∃ t' n, cyclic.tree.noteChange ⟨1, .time⟩ = .ok (t', n) ∧
      cyclic.tree.Changed t' ⟨1, .time⟩ :=
  have reachable := (Session.Reachable.start {} [] {}).perform _
  have tracked := requireTracker_eq_ok_iff.mp (by decide)
  ⟨reachable, tracked, noteChange_exact reachable tracked⟩

end Dataflow.Tree
