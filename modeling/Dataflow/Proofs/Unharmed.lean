import Dataflow.Proofs.Evaluation.Depth
import Dataflow.Proofs.Evaluation.Runs
import Dataflow.Proofs.Origin

/-!
# What an evaluation leaves behind

Whatever the producers do, and however the evaluation ends: each slot holds a value again, what was
fresh is as it was, and a slot differs from before only if its producer ran.
-/

namespace Dataflow

namespace Evaluation

variable {b : Blueprint} {id : SystemId} {c : ContextId} {i index : Nat} {r r' : Run} {slot : Slot}
  {current : Serial} {v : Value} {events : List Event} {outcome : Outcome}

/-- What an evaluation that logs `events` on the way from `r` to `r'` leaves of the tree. -/
structure Unharmed (r r' : Run) (events : List Event) : Prop where
  log : r'.log = r.log ++ events
  /-- graphs with their serials, links, fixed values and flags are as they were -/
  outline : r'.tree.outline = r.tree.outline
  filled : ∀ context ∈ r'.tree.contexts, context.Filled
  fresh : ∀ c i slot current v, slotOf r.tree c i = .ok (slot, current) →
    slot.fresh? current = some v → ∃ slot', slotOf r'.tree c i = .ok (slot', current) ∧
      slot'.fresh? current = some v
  /-- an entry whose producer did not run has the value and the date that it had -/
  idle : ∀ c i slot current, slotOf r.tree c i = .ok (slot, current) → .began c i ∉ events →
    ∃ slot', slotOf r'.tree c i = .ok (slot', current) ∧ slot'.value = slot.value ∧
      slot'.computedAt = slot.computedAt ∧ slot'.fresh? current = slot.fresh? current
  ended : ∀ c i slot current, slotOf r.tree c i = .ok (slot, current) → .began c i ∈ events →
    ∃ outcome, LastRun (c, i) events outcome
  /-- an entry is out of date after its last run if that failed or was cut short, and only then -/
  dated : ∀ c i slot current outcome, slotOf r.tree c i = .ok (slot, current) →
    LastRun (c, i) events outcome → ∃ slot', slotOf r'.tree c i = .ok (slot', current) ∧
      (slot'.isOutOfDate current = true ↔ outcome ≠ .value)

theorem unharmed_of_tracing (wf : r.tree.WellFormed)
    (filled : ∀ context ∈ r'.tree.contexts, context.Filled) (h : Tracing r r') :
    ∃ events, Unharmed r r' events := by
  obtain ⟨events, log, leaves⟩ := h.2 wf
  refine ⟨events, log, h.1.1, filled, ?fresh, ?idle, ?ended, ?dated⟩
  case fresh =>
    intro c i slot current v found fresh
    obtain ⟨slot', found', outline⟩ := slotOf_of_outline h.1.1 found
    refine ⟨slot', found', ?_⟩
    cases leaves c i slot slot' current found found' with
    | idle idle value computedAt => rw [fresh?_of_same value computedAt outline, fresh]
    | ran stale =>
        rw [stale] at fresh
        cases fresh
  case idle =>
    intro c i slot current found unbegun
    obtain ⟨slot', found', outline⟩ := slotOf_of_outline h.1.1 found
    cases leaves c i slot slot' current found found' with
    | idle idle value computedAt =>
        exact ⟨slot', found', value, computedAt, fresh?_of_same value computedAt outline⟩
    | ran _ outcome last => exact absurd last.began unbegun
  case ended =>
    intro c i slot current found began
    obtain ⟨slot', found', -⟩ := slotOf_of_outline h.1.1 found
    cases leaves c i slot slot' current found found' with
    | idle idle => exact absurd began idle.not_began
    | ran _ outcome last => exact ⟨outcome, last⟩
  case dated =>
    intro c i slot current outcome found last
    obtain ⟨slot', found', -⟩ := slotOf_of_outline h.1.1 found
    refine ⟨slot', found', ?_⟩
    cases leaves c i slot slot' current found found' with
    | idle idle => exact absurd last.began idle.not_began
    | ran _ outcome' last' computedAt =>
        obtain rfl := last.unique last'
        simp [Slot.isOutOfDate, computedAt]

theorem entryValue_ok {ask : Answerer} (answered : entryValue b ask id c index r = .ok v r') :
    ∃ slot current, slotOf r.tree c index = .ok (slot, current) ∧
      ((slot.fresh? current = some v ∧ r' = r.serve c index) ∨
        ∃ e held, slot.fresh? current = none ∧ recompute ask id c index e held current r = .ok v r') := by
  rw [entryValue_eq] at answered
  cases declared : (b.system id).entry "EvalCacheEntry" (b.pathname id) index with
  | error e =>
      rw [declared] at answered
      cases answered
  | ok e =>
      rw [declared] at answered
      cases found : slotOf r.tree c index with
      | error e =>
          rw [found] at answered
          cases answered
      | ok result =>
          obtain ⟨slot, current⟩ := result
          refine ⟨slot, current, rfl, ?_⟩
          rw [found] at answered
          dsimp only at answered
          cases fresh : slot.fresh? current with
          | some held =>
              rw [fresh] at answered
              cases answered
              exact .inl ⟨rfl, rfl⟩
          | none =>
              cases value : slot.value with
              | none =>
                  rw [fresh, value] at answered
                  cases answered
              | some held =>
                  rw [fresh, value] at answered
                  exact .inr ⟨e, held, rfl, answered⟩

theorem recompute_ok {ask : Answerer} {e : Entry} {held : Value}
    (answered : recompute ask id c index e held current r = .ok v r') : ∃ r₁,
      (e.producer held).run (ask id c) (r.beginProducer c index) = ((v, none), r₁) ∧
        r' = r₁.endProducer c index e current v .value := by
  simp only [recompute] at answered
  cases ended : (e.producer held).run (ask id c) (r.beginProducer c index) with | mk result r₁
  obtain ⟨out, stop⟩ := result
  rw [ended] at answered
  cases stop with
  | some stop => cases answered
  | none =>
      cases answered
      exact ⟨r₁, rfl, rfl⟩

theorem slot_of_entryValue {ask : Answerer} (asks : ∀ id c q, Keeps Keeping (ask id c q))
    (answered : entryValue b ask id c index r = .ok v r') : ∃ slot current,
      slotOf r'.tree c index = .ok (slot, current) ∧ slot.value = some v ∧
        slot.isOutOfDate current = false := by
  obtain ⟨slot, current, found, ⟨fresh, rfl⟩ | ⟨e, held, -, answered⟩⟩ := entryValue_ok answered
  · obtain ⟨-, computedAt, value⟩ := Slot.fresh?_eq_some_iff.mp fresh
    have kept := slotOf_modifySlot (c := c) (i := index) (f := Slot.recordHit) (fun _ => rfl) found
    rw [if_pos ⟨rfl, rfl⟩] at kept
    exact ⟨slot.recordHit, current, kept, value, by simp [Slot.isOutOfDate, Slot.recordHit, computedAt]⟩
  · obtain ⟨r₁, ran, rfl⟩ := recompute_ok answered
    have inner : Keeping (r.beginProducer c index) r₁ := by
      have kept := (e.producer held).run_keeps Keeping.frame (fun _ _ => keeping_of_tree rfl)
        (asks id c) (r.beginProducer c index)
      rwa [ran] at kept
    have begun : Keeping r (r.beginProducer c index) :=
      keeping_modifySlot (fun _ => rfl) undated_emptied
    obtain ⟨slot₁, found₁, -⟩ := slotOf_of_outline (Keeping.frame.trans begun inner).1 found
    have ended := slotOf_modifySlot (c := c) (i := index)
      (f := (·.ending current v .value)) (fun _ => ticket_ending) found₁
    rw [if_pos ⟨rfl, rfl⟩, ← tree_endProducer (e := e)] at ended
    exact ⟨_, current, ended, rfl, by simp [Slot.isOutOfDate, Slot.ending, Slot.restored]⟩

theorem slot_of_evaluate {answer : Option Value} (wf : r.tree.WellFormed)
    (answered : evaluate b id c (.entry index) r = .ok answer r') : ∃ v slot current,
      answer = some v ∧ slotOf r'.tree c index = .ok (slot, current) ∧ slot.value = some v ∧
        slot.isOutOfDate current = false := by
  rw [(ends wf).unfolds] at answered
  obtain ⟨r₁, r₂, got, answered⟩ := bind_eq_ok_iff.mp answered
  cases got
  obtain ⟨⟨⟩, r₃, valid, answered⟩ := bind_eq_ok_iff.mp answered
  obtain ⟨v, r₄, held, same⟩ := bind_eq_ok_iff.mp answered
  cases same
  obtain ⟨slot, current, held⟩ := slot_of_entryValue
    (fun _ _ q => keeps_evaluate (keeping b) q) held
  exact ⟨v, slot, current, rfl, held⟩

end Evaluation

namespace Session
open Evaluation

variable {s : Session}

/-- In any session, for any producers and any question, whether it is answered or not: the evaluation
leaves the tree unharmed, and an entry that was asked for with success holds what was returned. -/
theorem Reachable.evaluation_unharmed (h : s.Reachable) (b : Blueprint) (id : SystemId)
    (c : ContextId) (q : Query) :
    (∀ context ∈ s.tree.contexts, context.Filled) ∧
    (∃ events, Unharmed s.run (stateAfter (evaluate b id c q) s.run) events) ∧
    ∀ index answer r', q = .entry index → evaluate b id c q s.run = .ok answer r' →
      ∃ v slot current, answer = some v ∧ slotOf r'.tree c index = .ok (slot, current) ∧
        slot.value = some v ∧ slot.isOutOfDate current = false := by
  have wf := h.wellFormed
  have balanced : Balanced s.run (stateAfter (evaluate b id c q) s.run) :=
    keeps_evaluate (balanced b) q s.run
  have tracing : Tracing s.run (stateAfter (evaluate b id c q) s.run) :=
    keeps_evaluate (tracing b) q s.run
  refine ⟨h.filled, ?_, ?_⟩
  · refine unharmed_of_tracing wf (fun context mem => ?_) tracing
    obtain ⟨id, found⟩ := List.mem_iff_getElem?.mp mem
    obtain ⟨before, found', rests⟩ := (rests_of_balanced balanced).origin found
    exact rests.filled (h.filled before (List.mem_of_getElem? found'))
  · rintro index answer r' rfl answered
    exact slot_of_evaluate wf answered

def mishap : Session := (start {} [] {}).perform
  [.addSystem "motor" "Motor" "", .declare 0 (.entry "load" .unit .finish [.time]),
    .declare 0 (.entry "torque" .unit (fun v => .ask v (.entry 0) fun _ => .stop v (.panicked "stall"))
      [.time]), .createContext 0 none]

theorem mishap_unharmed : mishap.Reachable ∧ ∃ events,
    Unharmed mishap.run (stateAfter (evaluate mishap.blueprint 0 0 (.entry 1)) mishap.run) events ∧
      LastRun (0, 0) events .value ∧ LastRun (0, 1) events .aborted := by
  have reachable : mishap.Reachable := (Reachable.start {} [] {}).perform _
  obtain ⟨-, ⟨events, unharmed⟩, -⟩ :=
    reachable.evaluation_unharmed mishap.blueprint 0 0 (.entry 1)
  have logged : (stateAfter (evaluate mishap.blueprint 0 0 (.entry 1)) mishap.run).log =
      mishap.run.log ++ [.began 0 1, .began 0 0, .ended 0 0 .value, .recomputed "load" 0,
        .ended 0 1 .aborted] := by decide +kernel
  obtain rfl := List.append_cancel_left (unharmed.log.symm.trans logged)
  refine ⟨reachable, _, unharmed, ⟨[.began 0 1, .began 0 0], _, rfl, by simp, ?_⟩,
    ⟨[.began 0 1, .began 0 0, .ended 0 0 .value, .recomputed "load" 0], _, rfl, by simp, ?_⟩⟩
  · simp [Idle, Event.place?]
  · simp [Idle]

end Session

end Dataflow
