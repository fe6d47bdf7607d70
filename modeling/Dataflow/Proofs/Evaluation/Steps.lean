import Dataflow.Evaluation
import Dataflow.Proofs.Attempt

namespace Dataflow

variable {b : Blueprint} {R : Run → Run → Prop} {ask : Answerer} {id : SystemId} {c : ContextId}
  {index : Nat} {α : Type}

namespace Evaluation

/-- `R` relates a run to what it becomes by a step of an evaluation. Of a producer it has to hold
from before the beginning to after the end if it holds of what happens between. -/
structure Respects (b : Blueprint) (R : Run → Run → Prop) : Prop where
  frame : Frame R
  cells : ∀ (r : Run) (cells : Cells), R r { r with cells }
  usePort : ∀ (r : Run) (id : SystemId) (kind : PortKind) (index : Nat),
    R r (r.usePort b id kind index)
  served : ∀ (r : Run) (c : ContextId) (index : Nat) (slot : Slot) (current : Serial) (v : Value),
    slotOf r.tree c index = .ok (slot, current) → slot.fresh? current = some v →
    R r (r.serve c index)
  refused : ∀ (r : Run) (c : ContextId) (index : Nat) (slot : Slot) (current : Serial),
    slotOf r.tree c index = .ok (slot, current) → slot.value = none → R r (r.refuse c index)
  produced : ∀ (r r' : Run) (c : ContextId) (index : Nat) (e : Entry) (slot : Slot)
    (current : Serial) (v out : Value) (outcome : Outcome),
    slotOf r.tree c index = .ok (slot, current) → slot.fresh? current = none →
    slot.value = some v → R (r.beginProducer c index) r' →
    R r (r'.endProducer c index e current out outcome)

end Evaluation

theorem Eval.ok_apply (a : α) (r : Run) : Eval.ofExcept (.ok a) r = .ok a r := rfl

theorem Eval.error_apply (e : Error) (r : Run) :
    (Eval.ofExcept (.error e) : Eval α) r = .error (.fault (.failed e)) r := rfl

theorem Keeps.ofExcept (frame : Frame R) (x : Except Error α) : Keeps R (Eval.ofExcept x) := by
  cases x with
  | ok a => exact .pure frame a
  | error e => exact .throw frame _

theorem Keeps.fail (frame : Frame R) (e : Error) : Keeps R (Eval.fail e : Eval α) :=
  .throw frame _

namespace Script

theorem run_keeps {ask : Query → Eval (Option Value)} (frame : Frame R)
    (cells : ∀ (r : Run) (cells : Cells), R r { r with cells }) (asks : ∀ q, Keeps R (ask q))
    (script : Script) (r : Run) : R r (script.run ask r).2 := by
  induction script generalizing r with
  | finish out => exact frame.refl r
  | stop out f => exact frame.refl r
  | ask out q resume ih =>
      have step : R r (stateAfter (ask q) r) := asks q r
      simp only [run]
      cases answer : ask q r with
      | ok v r' =>
          rw [stateAfter_ok answer] at step
          exact frame.trans step (ih _ r')
      | error stop r' =>
          rw [stateAfter_error answer] at step
          -- a script hears of an error, and of nothing else that stops an evaluation
          cases stop with
          | exhausted => exact step
          | fault f =>
              cases f with
              | panicked message => exact step
              | failed e => exact frame.trans step (ih _ r')
  | read cell resume ih => exact ih _ r
  | write cell x rest ih => exact frame.trans (cells r _) (ih _)

end Script

namespace Evaluation

theorem entryValue_eq (r : Run) : entryValue b ask id c index r =
    match (b.system id).entry "EvalCacheEntry" (b.pathname id) index with
    | .error e => .error (.fault (.failed e)) r
    | .ok e =>
        match slotOf r.tree c index with
        | .error e => .error (.fault (.failed e)) r
        | .ok (slot, current) =>
            match slot.fresh? current, slot.value with
            | some v, _ => .ok v (r.serve c index)
            | none, some v => recompute ask id c index e v current r
            | none, none => .error (.fault (.failed (.reentered slot.description))) (r.refuse c index) := by
  simp only [entryValue, bind_apply, get_apply]
  cases (b.system id).entry "EvalCacheEntry" (b.pathname id) index with
  | error e => rfl
  | ok e =>
      simp only [Eval.ok_apply]
      cases slotOf r.tree c index with
      | error e => rfl
      | ok found =>
          obtain ⟨slot, current⟩ := found
          simp only [Eval.ok_apply]
          cases slot.fresh? current with
          | some v => rfl
          | none => cases slot.value <;> rfl

variable (h : Respects b R)
include h

theorem keeps_recompute (asks : ∀ id c q, Keeps R (ask id c q)) {e : Entry} {v : Value} {slot : Slot}
    {current : Serial} {r : Run} (found : slotOf r.tree c index = .ok (slot, current))
    (stale : slot.fresh? current = none) (value : slot.value = some v) :
    KeepsAt R (recompute ask id c index e v current) r := by
  have inner := (e.producer v).run_keeps h.frame h.cells (asks id c) (r.beginProducer c index)
  simp only [KeepsAt, stateAfter, recompute]
  cases ended : (e.producer v).run (ask id c) (r.beginProducer c index) with | mk result r'
  obtain ⟨out, stop⟩ := result
  rw [ended] at inner
  cases stop <;> exact h.produced r r' c index e slot current v out _ found stale value inner

theorem keeps_entryValue (asks : ∀ id c q, Keeps R (ask id c q)) :
    Keeps R (entryValue b ask id c index) := by
  intro r
  simp only [KeepsAt, stateAfter, entryValue_eq]
  cases (b.system id).entry "EvalCacheEntry" (b.pathname id) index with
  | error e => exact h.frame.refl r
  | ok e =>
      cases found : slotOf r.tree c index with
      | error e => exact h.frame.refl r
      | ok result =>
          obtain ⟨slot, current⟩ := result
          dsimp only
          cases fresh : slot.fresh? current with
          | some v => exact h.served r c index slot current v found fresh
          | none =>
              cases value : slot.value with
              | some v => exact keeps_recompute h asks found fresh value
              | none => exact h.refused r c index slot current found value

theorem keeps_usePort {kind : PortKind} : Keeps R (modify (·.usePort b id kind index) : Eval PUnit) :=
  fun r => h.usePort r id kind index

theorem keeps_childOutput (asks : ∀ id c q, Keeps R (ask id c q)) (d : Diagram)
    (child output : Nat) : Keeps R (childOutput ask d c child output) := by
  refine .bind h.frame (.get h.frame) ?_
  intro r
  split
  · exact asks _ _ _
  · exact .fail h.frame _

theorem keeps_fedInput (asks : ∀ id c q, Keeps R (ask id c q)) (d : Diagram) (port : Nat) :
    Keeps R (fedInput ask d c id port) := by
  unfold fedInput
  split
  · exact .pure h.frame _
  · split
    · exact .pure h.frame _
    · exact asks _ _ _
    · exact .pure h.frame _
    · exact keeps_childOutput h asks d _ _

theorem keeps_inputValue (asks : ∀ id c q, Keeps R (ask id c q)) (func : String) (port : Nat) :
    Keeps R (inputValue b ask func id c port) := by
  have frame := h.frame
  refine .bind frame (.ofExcept frame _) fun _ => .bind frame (keeps_usePort h) fun _ =>
    .bind frame (.get frame) fun r => .bind frame (.ofExcept frame _) fun context => ?_
  split
  · exact .pure frame _
  · split
    · exact keeps_fedInput h asks _ _
    · exact .pure frame _

theorem keeps_typedInput (asks : ∀ id c q, Keeps R (ask id c q)) (type : ValueType) (port : Nat) :
    Keeps R (typedInput b ask type id c port) := by
  have frame := h.frame
  refine .bind frame (keeps_inputValue h asks _ _) ?_
  intro v
  split
  · exact .pure frame _
  · split
    · exact .pure frame _
    · exact .bind frame (.ofExcept frame _) fun _ => .fail frame _

theorem keeps_outputValue (asks : ∀ id c q, Keeps R (ask id c q)) :
    Keeps R (outputValue b ask id c index) := by
  have frame := h.frame
  refine .bind frame (.ofExcept frame _) fun port => .bind frame (keeps_usePort h) fun _ => ?_
  split
  · exact keeps_entryValue h asks
  · exact .fail frame _

theorem keeps_respond (asks : ∀ id c q, Keeps R (ask id c q)) (q : Query) :
    Keeps R (respond b ask id c q) := by
  have frame := h.frame
  have output (index : Nat) : Keeps R (do return some (← outputValue b ask id c index)) :=
    .bind frame (keeps_outputValue h asks) fun v => .pure frame _
  refine .bind frame (.get frame) fun r => .bind frame (.ofExcept frame _) fun _ => ?_
  cases q with
  | input port => exact keeps_inputValue h asks _ _
  | requiredInput port =>
      refine .bind frame (keeps_inputValue h asks _ _) ?_
      intro v
      split
      · exact .pure frame _
      · exact .bind frame (.ofExcept frame _) fun _ => .fail frame _
  | inputAs type port => exact keeps_typedInput h asks _ _
  | vectorInput port =>
      refine .bind frame (.ofExcept frame _) ?_
      intro declared
      split
      · exact keeps_typedInput h asks _ _
      · exact .fail frame _
  | entry index => exact .bind frame (keeps_entryValue h asks) fun v => .pure frame _
  | output index => exact output index
  | boundaryOutput index =>
      dsimp only
      split
      · exact output index
      · split
        · exact output index
        · exact keeps_childOutput h asks _ _ _

theorem keeps_answer (depth : Nat) (id : SystemId) (c : ContextId) (q : Query) :
    Keeps R (answer b depth id c q) := by
  induction depth generalizing id c q with
  | zero => exact .throw h.frame _
  | succ depth ih => exact keeps_respond h ih q

theorem keeps_evaluate (q : Query) : Keeps R (evaluate b id c q) := by
  intro r
  have whole : R r (stateAfter (answer b r.tree.depthBound id c q) r) := keeps_answer h _ id c q r
  simpa only [KeepsAt, stateAfter, evaluate] using whole

end Evaluation

end Dataflow
