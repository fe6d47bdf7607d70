import Dataflow.Proofs.Contents
import Dataflow.Proofs.Evaluation.Runs
import Dataflow.Proofs.Visits

/-!
# What the counters of a cache entry count

In whatever session: of the visits that all evaluations have made, the hit counter of a cache entry counts
those that its slot answered, and its computation counter those for which its producer ran and returned.
No other visit is counted, and nothing else.
-/

namespace Dataflow
open Evaluation

variable {t t' t'' : Tree} {c c' : ContextId} {i i' : Nat} {slot : Slot} {current : Serial}
  {f : Slot → Slot} {p : Place} {first later visits : List Visit}

theorem hitsAt_append : hitsAt p (first ++ later) = hitsAt p first + hitsAt p later :=
  List.count_append

theorem returnsAt_append : returnsAt p (first ++ later) = returnsAt p first + returnsAt p later :=
  List.countP_append

theorem hitsAt_eq_zero (elsewhere : ∀ visit ∈ visits, visit.place ≠ p) : hitsAt p visits = 0 :=
  List.count_eq_zero.mpr fun mem => elsewhere _ mem rfl

theorem returnsAt_eq_zero (elsewhere : ∀ visit ∈ visits, visit.place ≠ p) : returnsAt p visits = 0 :=
  List.countP_eq_zero.mpr fun visit mem => by simp [elsewhere visit mem]

namespace Tree

def metricsOf (t : Tree) (c : ContextId) (i : Nat) : Metrics := ((t.content? c i).map (·.2)).getD {}

theorem content?_of_slotOf (found : slotOf t c i = .ok (slot, current)) :
    t.content? c i = some slot.content := by
  obtain ⟨context, k, foundContext, foundSlot, -, -⟩ := slotOf_eq_ok_iff.mp found
  simp [content?, foundContext, Context.content?, foundSlot]

theorem metricsOf_of_slotOf (found : slotOf t c i = .ok (slot, current)) :
    t.metricsOf c i = slot.metrics := by
  rw [metricsOf, content?_of_slotOf found]
  rfl

theorem content?_modifySlot_ne (other : ¬ (c = c' ∧ i = i')) :
    (t.modifySlot c i f).content? c' i' = t.content? c' i' := by
  simp only [content?, modifySlot, contexts_modifyContext]
  by_cases same : c = c'
  · have index : i ≠ i' := fun index => other ⟨same, index⟩
    subst same
    cases t.contexts[c]? <;> simp [Context.content?, Context.modifySlot, index]
  · simp [same]

theorem SparesSlots.metricsOf (h : t.SparesSlots t') : t'.metricsOf c i = t.metricsOf c i := by
  unfold Tree.metricsOf
  rcases h c i with same | ⟨absent, v, new⟩
  · rw [same]
  · rw [absent, new]
    rfl

structure Counts (visits : List Visit) (t t' : Tree) : Prop where
  hits : ∀ c i, (t'.metricsOf c i).hits = (t.metricsOf c i).hits + hitsAt (c, i) visits
  computations : ∀ c i,
    (t'.metricsOf c i).computations = (t.metricsOf c i).computations + returnsAt (c, i) visits

theorem counts_of_same (same : ∀ c i, t'.metricsOf c i = t.metricsOf c i) : Counts [] t t' where
  hits c i := by rw [same]; rfl
  computations c i := by rw [same]; rfl

theorem Counts.append (h : Counts first t t') (h' : Counts later t' t'') :
    Counts (first ++ later) t t'' where
  hits c i := by rw [h'.hits, h.hits, hitsAt_append, Nat.add_assoc]
  computations c i := by rw [h'.computations, h.computations, returnsAt_append, Nat.add_assoc]

theorem counts_modifySlot (found : slotOf t c i = .ok (slot, current))
    (ticket : ∀ s, (f s).ticket = s.ticket) (here : ∀ visit ∈ visits, visit.place = (c, i))
    (hits : (f slot).metrics.hits = slot.metrics.hits + hitsAt (c, i) visits)
    (computations : (f slot).metrics.computations =
      slot.metrics.computations + returnsAt (c, i) visits) :
    Counts visits t (t.modifySlot c i f) := by
  have before := metricsOf_of_slotOf found
  have changed := slotOf_modifySlot (c := c) (i := i) ticket found
  rw [if_pos ⟨rfl, rfl⟩] at changed
  have after := metricsOf_of_slotOf changed
  have elsewhere {c' : ContextId} {i' : Nat} (other : ¬ (c = c' ∧ i = i')) :
      (t.modifySlot c i f).metricsOf c' i' = t.metricsOf c' i' ∧
        ∀ visit ∈ visits, visit.place ≠ (c', i') := by
    refine ⟨by rw [metricsOf, metricsOf, content?_modifySlot_ne other], fun visit mem same => ?_⟩
    obtain ⟨rfl, rfl⟩ := Prod.mk.inj ((here visit mem).symm.trans same)
    exact other ⟨rfl, rfl⟩
  constructor
  all_goals
    intro c' i'
    by_cases own : c = c' ∧ i = i'
  · obtain ⟨rfl, rfl⟩ := own
    rw [after, before, hits]
  · obtain ⟨same, none⟩ := elsewhere own
    rw [same, hitsAt_eq_zero none, Nat.add_zero]
  · obtain ⟨rfl, rfl⟩ := own
    rw [after, before, computations]
  · obtain ⟨same, none⟩ := elsewhere own
    rw [same, returnsAt_eq_zero none, Nat.add_zero]

end Tree

namespace Evaluation

variable {b : Blueprint} {id : SystemId} {q : Query} {r r' : Run} {index : Nat} {e : Entry} {v : Value}
  {task : Task}

theorem counts_ran {out : Value} {outcome : Outcome} (found : slotOf r.tree c i = .ok (slot, current))
    (keeping : Keeping (r.beginProducer c i) r')
    (inner : Tree.Counts visits (r.beginProducer c i).tree r'.tree) :
    Tree.Counts (visits ++ [⟨(c, i), .ran outcome⟩]) r.tree
      (r'.endProducer c i e current out outcome).tree := by
  -- a slot that is emptied keeps its counters; they are only written to at the end
  have begun : Tree.Counts [] r.tree (r.beginProducer c i).tree :=
    Tree.counts_modifySlot (f := Slot.emptied) found (fun _ => rfl) (by simp) rfl rfl
  have emptied := slotOf_modifySlot (c := c) (i := i) (f := Slot.emptied) (fun _ => rfl) found
  obtain ⟨slot', found', -⟩ := slotOf_of_outline keeping.1 emptied
  have ended : Tree.Counts [⟨(c, i), .ran outcome⟩] r'.tree
      (r'.tree.modifySlot c i (·.ending current out outcome)) := by
    refine Tree.counts_modifySlot found' (fun _ => ticket_ending) (by simp) ?_ ?_
    all_goals cases outcome <;> simp [Slot.ending, Slot.restored, Slot.recordComputation,
      Metrics.recordComputation, Outcome.isReturn, hitsAt, returnsAt, Fate.isReturn]
  rw [tree_endProducer]
  exact begun.append (inner.append ended)

theorem Makes.counts (h : Makes b id c task r visits) (wf : r.tree.WellFormed) :
    Tree.Counts visits r.tree (afterTask b id c task r).tree := by
  refine h.relates (P := fun visits r r' => Tree.Counts visits r.tree r'.tree) wf ?idle ?append ?served
    ?refused ?ran
  case idle =>
    intro r r' same
    exact Tree.counts_of_same fun c i => by rw [same]
  case append => exact fun first later => first.append later
  case served =>
    intro r c i slot current v found fresh
    exact Tree.counts_modifySlot (f := Slot.recordHit) found (fun _ => rfl) (by simp)
      (by simp [Slot.recordHit, Metrics.recordHit, hitsAt])
      (by simp [Slot.recordHit, Metrics.recordHit, returnsAt, Fate.isReturn])
  case refused =>
    intro r c i slot current found empty
    exact Tree.counts_modifySlot (f := Slot.markOutOfDate) found (fun _ => rfl) (by simp)
      (by simp [Slot.markOutOfDate, hitsAt]) (by simp [Slot.markOutOfDate, returnsAt, Fate.isReturn])
  case ran =>
    intro id c i e r r' slot current v out stop visits ran inner
    exact counts_ran ran.found ran.keeping inner

def Rejected (b : Blueprint) (id : SystemId) (c : ContextId) (index : Nat) (r : Run) : Prop :=
  (∃ e, validate b r.tree id c = .error e) ∨ (b.system id).entries[index]? = none ∨
    ∃ e, slotOf r.tree c index = .error e

theorem Rejected.unreached {current : Serial} (h : Rejected b id c index r)
    (reaches : Reaches b r id c (.entry index) i e r' slot current) : False := by
  obtain ⟨⟨valid, reads, declared⟩, found⟩ := reaches
  cases reads
  rcases h with ⟨_, invalid⟩ | undeclared | ⟨_, absent⟩
  · rw [valid] at invalid
    cases invalid
  · rw [declared] at undeclared
    cases undeclared
  · rw [found] at absent
    cases absent

theorem Rejected.unvisited (h : Rejected b id c index r)
    (makes : Makes b id c (.question (.entry index)) r visits) : visits = [] := by
  cases makes with
  | alone => rfl
  | referred refers later =>
      cases refers.passed with
      | ownInput asked | sibling asked => cases asked
  | served reaches | running reaches | ran reaches => exact (h.unreached reaches).elim

end Evaluation

namespace Session

variable {s : Session}

/-- The session has come about by operations in which these visits were made. Beside the actions, the
producer of an entry may be run on a value that is in no slot. -/
inductive Visited : Session → List Visit → Prop
  | start (config : Config) (cells : Cells) (notices : Notices) :
      Visited (start config cells notices) []
  | evaluate {s : Session} {visits more : List Visit} (id : SystemId) (c : ContextId) (q : Query) :
      Visited s visits → Makes s.blueprint id c (.question q) s.run more →
        Visited (s.apply (.evaluate id c q)) (visits ++ more)
  | produce {s : Session} {visits more : List Visit} (id : SystemId) (c : ContextId) (e : Entry)
      (v : Value) : Visited s visits → Makes s.blueprint id c (.script (e.producer v)) s.run more →
        Visited (s.onRun (runProducer s.blueprint id c e v)) (visits ++ more)
  | apply {s : Session} {visits : List Visit} (a : Action) (quiet : a.evaluates = false) :
      Visited s visits → Visited (s.apply a) visits

theorem Reachable.visited (h : s.Reachable) : ∃ visits, s.Visited visits := by
  induction h with
  | start config cells notices => exact ⟨[], .start config cells notices⟩
  | @apply s a reachable ih =>
      obtain ⟨visits, visited⟩ := ih
      cases evaluates : a.evaluates with
      | false => exact ⟨visits, visited.apply a evaluates⟩
      | true =>
          cases a with
          | evaluate id c q =>
              obtain ⟨more, makes⟩ : ∃ more, Makes s.blueprint id c (.question q) s.run more :=
                exists_makes reachable.wellFormed
              exact ⟨visits ++ more, visited.evaluate id c q makes⟩
          | _ => cases evaluates

theorem Visited.wellFormed (h : s.Visited visits) : s.tree.WellFormed := by
  induction h with
  | start config cells notices => exact (Reachable.start config cells notices).wellFormed
  | evaluate id c q _ _ ih => exact wellFormed_apply ih _
  | apply a _ _ ih => exact wellFormed_apply ih a
  | @produce s visits more id c e v before _ ih =>
      have balanced : Balanced s.run (afterTask s.blueprint id c (.script (e.producer v)) s.run) :=
        balanced_afterTask
      exact balanced.1.2 ih

theorem Visited.counts (h : s.Visited visits) : Tree.Counts visits {} s.tree := by
  induction h with
  | start config cells notices => exact Tree.counts_of_same fun _ _ => rfl
  | evaluate id c q before makes ih => exact ih.append (makes.counts before.wellFormed)
  | produce id c e v before makes ih => exact ih.append (makes.counts before.wellFormed)
  | @apply s visits a quiet before ih =>
      have same : Tree.Counts [] s.tree (s.apply a).tree :=
        Tree.counts_of_same fun _ _ => (sparesSlots_apply a quiet).metricsOf
      rw [← List.append_nil visits]
      exact ih.append same

/-- In whatever session, with the visits that were made in it: a slot counts as hits those that it
answered, and as computations those for which the producer of its entry ran and returned. No visit is made
by an evaluation that is rejected. -/
theorem metrics_account : (∀ s : Session, s.Reachable → ∃ visits, s.Visited visits) ∧
    (∀ (s : Session) (visits : List Visit), s.Visited visits →
      ∀ (c : ContextId) (i : Nat) (context : Context) (slot : Slot),
        s.tree.contexts[c]? = some context → context.cache[i]? = some slot →
          slot.metrics.hits = hitsAt (c, i) visits ∧
            slot.metrics.computations = returnsAt (c, i) visits) ∧
    ∀ (b : Blueprint) (id : SystemId) (c : ContextId) (index : Nat) (r : Run) (visits : List Visit),
      Rejected b id c index r → Makes b id c (.question (.entry index)) r visits → visits = [] := by
  refine ⟨fun s reachable => reachable.visited, ?_,
    fun b id c index r visits rejected makes => rejected.unvisited makes⟩
  intro s visits visited c i context slot found foundSlot
  have counters : s.tree.metricsOf c i = slot.metrics := by
    simp [Tree.metricsOf, Tree.content?, found, Context.content?, foundSlot, Slot.content]
  have counts := visited.counts
  have none : (({} : Tree).metricsOf c i) = {} := rfl
  constructor
  · rw [← counters, counts.hits, none, Nat.zero_add]
  · rw [← counters, counts.computations, none, Nat.zero_add]

def stalled : Session := (start {} [] {}).perform
  [.addSystem "motor" "Motor" "", .declare 0 (.entry "load" .unit .finish [.time]),
    .declare 0 (.entry "torque" .unit
      (fun v => .ask v (.entry 0) fun _ => .ask v (.entry 0) fun _ => .stop v (.panicked "stall"))
      [.time]), .createContext 0 none, .evaluate 0 0 (.entry 1), .evaluate 0 0 (.entry 1)]

theorem stalled_accounted : ∃ visits, stalled.Visited visits ∧ hitsAt (0, 0) visits = 3 ∧
    returnsAt (0, 0) visits = 1 ∧ hitsAt (0, 1) visits = 0 ∧ returnsAt (0, 1) visits = 0 := by
  obtain ⟨visits, visited⟩ := metrics_account.1 stalled ((Reachable.start {} [] {}).perform _)
  have account := metrics_account.2.1 stalled visits visited
  have counters : stalled.tree.contexts[0]?.map (·.cache.map fun slot =>
      (slot.metrics.hits, slot.metrics.computations)) = some [(3, 1), (0, 0)] := by decide +kernel
  obtain ⟨context, found, slots⟩ := Option.map_eq_some_iff.mp counters
  have counter (i : Nat) (counts : Nat × Nat) (at_ : [(3, 1), (0, 0)][i]? = some counts) :
      hitsAt (0, i) visits = counts.1 ∧ returnsAt (0, i) visits = counts.2 := by
    rw [← slots, List.getElem?_map] at at_
    obtain ⟨slot, foundSlot, rfl⟩ := Option.map_eq_some_iff.mp at_
    obtain ⟨hits, computations⟩ := account 0 i context slot found foundSlot
    exact ⟨hits.symm, computations.symm⟩
  obtain ⟨hits, returns⟩ := counter 0 (3, 1) rfl
  obtain ⟨hits', returns'⟩ := counter 1 (0, 0) rfl
  exact ⟨visits, visited, hits, returns, hits', returns'⟩

end Session

end Dataflow
