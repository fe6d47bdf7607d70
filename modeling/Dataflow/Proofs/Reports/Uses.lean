import Dataflow.Proofs.Reports.Calls
import Dataflow.Proofs.Visits

namespace Dataflow
open Evaluation

def Run.reportAll (b : Blueprint) (ports : List PortObject) (r : Run) : Run :=
  ports.foldl (fun r o => (r.reportPort b o.system o.kind o.index).2) r

namespace Evaluation

def ownPort (b : Blueprint) (id : SystemId) (q : Query) : List PortObject :=
  (portOf b id q).toList.map fun port => ⟨id, port.1, port.2⟩

/-- The ports that a question reaches, or what is left of a producer, from a run on, in their order. -/
inductive Uses (b : Blueprint) : SystemId → ContextId → Task → Run → List PortObject → Prop
  | rejected {id : SystemId} {c : ContextId} {q : Query} {r : Run} {e : Error}
      (invalid : validate b r.tree id c = .error e) : Uses b id c (.question q) r []
  | alone {id : SystemId} {c : ContextId} {q : Query} {r : Run} (valid : validate b r.tree id c = .ok ())
      (unreferred : ∀ id' c' q' r', ¬ Refers b r id c q id' c' q' r')
      (unreached : ∀ index e r' slot current, ¬ Reaches b r id c q index e r' slot current) :
      Uses b id c (.question q) r (ownPort b id q)
  | referred {id id' : SystemId} {c c' : ContextId} {q q' : Query} {r r' : Run}
      {ports : List PortObject} (refers : Refers b r id c q id' c' q' r')
      (later : Uses b id' c' (.question q') r' ports) :
      Uses b id c (.question q) r (ownPort b id q ++ ports)
  /-- the slot is fresh, or its producer is running already -/
  | idle {id : SystemId} {c : ContextId} {q : Query} {r r' : Run} {index : Nat} {e : Entry}
      {slot : Slot} {current : Serial} (reaches : Reaches b r id c q index e r' slot current)
      (idle : (slot.fresh? current).isSome ∨ slot.value = none) :
      Uses b id c (.question q) r (ownPort b id q)
  | ran {id : SystemId} {c : ContextId} {q : Query} {r r' : Run} {index : Nat} {e : Entry}
      {slot : Slot} {current : Serial} {v : Value} {ports : List PortObject}
      (reaches : Reaches b r id c q index e r' slot current) (stale : slot.fresh? current = none)
      (value : slot.value = some v)
      (inner : Uses b id c (.script (e.producer v)) (r'.beginProducer c index) ports) :
      Uses b id c (.question q) r (ownPort b id q ++ ports)
  | finish {id : SystemId} {c : ContextId} {r : Run} {out : Value} :
      Uses b id c (.script (.finish out)) r []
  | stop {id : SystemId} {c : ContextId} {r : Run} {out : Value} {f : Fault} :
      Uses b id c (.script (.stop out f)) r []
  | answered {id : SystemId} {c : ContextId} {q : Query} {r r' : Run} {out : Value}
      {resume : Except Error (Option Value) → Script} {v : Option Value} {first later : List PortObject}
      (asked : Uses b id c (.question q) r first) (answer : evaluate b id c q r = .ok v r')
      (rest : Uses b id c (.script (resume (.ok v))) r' later) :
      Uses b id c (.script (.ask out q resume)) r (first ++ later)
  | heard {id : SystemId} {c : ContextId} {q : Query} {r r' : Run} {out : Value}
      {resume : Except Error (Option Value) → Script} {e : Error} {first later : List PortObject}
      (asked : Uses b id c (.question q) r first)
      (answer : evaluate b id c q r = .error (.fault (.failed e)) r')
      (rest : Uses b id c (.script (resume (.error e))) r' later) :
      Uses b id c (.script (.ask out q resume)) r (first ++ later)
  /-- a panic further within ends the producer -/
  | cut {id : SystemId} {c : ContextId} {q : Query} {r r' : Run} {out : Value}
      {resume : Except Error (Option Value) → Script} {stop : Stop} {ports : List PortObject}
      (asked : Uses b id c (.question q) r ports) (answer : evaluate b id c q r = .error stop r')
      (unheard : ∀ e, stop ≠ .fault (.failed e)) : Uses b id c (.script (.ask out q resume)) r ports
  | read {id : SystemId} {c : ContextId} {r : Run} {cell : String} {resume : Float → Script}
      {ports : List PortObject} (rest : Uses b id c (.script (resume (r.cells.get cell))) r ports) :
      Uses b id c (.script (.read cell resume)) r ports
  | write {id : SystemId} {c : ContextId} {r : Run} {cell : String} {x : Float} {script : Script}
      {ports : List PortObject}
      (rest : Uses b id c (.script script) { r with cells := r.cells.set cell x } ports) :
      Uses b id c (.script (.write cell x script)) r ports

variable {b : Blueprint} {id id' : SystemId} {c c' : ContextId} {q q' : Query} {r r' r₁ r₂ r₃ : Run}
  {index : Nat} {e : Entry} {slot : Slot} {current : Serial} {task : Task} {ports first later : List PortObject}

theorem Makes.uses {visits : List Visit} (h : Makes b id c task r visits) :
    ∃ ports, Uses b id c task r ports := by
  induction h with
  | @alone id c q r unreferred unreached =>
      cases valid : validate b r.tree id c with
      | error e => exact ⟨_, .rejected valid⟩
      | ok u => exact ⟨_, .alone valid unreferred unreached⟩
  | referred refers later ih =>
      obtain ⟨ports, later⟩ := ih
      exact ⟨_, .referred refers later⟩
  | served reaches fresh => exact ⟨_, .idle reaches (.inl (by simp [fresh]))⟩
  | running reaches empty => exact ⟨_, .idle reaches (.inr empty)⟩
  | ran reaches stale value inner ended ih =>
      obtain ⟨ports, inner⟩ := ih
      exact ⟨_, .ran reaches stale value inner⟩
  | finish => exact ⟨_, .finish⟩
  | stop => exact ⟨_, .stop⟩
  | answered asked answer rest first later =>
      obtain ⟨first, asked⟩ := first
      obtain ⟨later, rest⟩ := later
      exact ⟨_, .answered asked answer rest⟩
  | heard asked answer rest first later =>
      obtain ⟨first, asked⟩ := first
      obtain ⟨later, rest⟩ := later
      exact ⟨_, .heard asked answer rest⟩
  | cut asked answer unheard ih =>
      obtain ⟨ports, asked⟩ := ih
      exact ⟨_, .cut asked answer unheard⟩
  | read rest ih =>
      obtain ⟨ports, rest⟩ := ih
      exact ⟨_, .read rest⟩
  | write rest ih =>
      obtain ⟨ports, rest⟩ := ih
      exact ⟨_, .write rest⟩

theorem Reads.used_eq (h : Reads b r id q index r') : r' = used b id q r := by
  cases h with
  | entry | output => rfl
  | boundaryOutput own => simp [used, portOf, own]

theorem stateAfter_vectorInput {ask : Answerer} {port : Nat} (valid : validate b r.tree id c = .ok ())
    (other : (b.system id).inputs[port]?.any (·.type.isVector) = false) :
    stateAfter (respond b ask id c (.vectorInput port)) r = r := by
  simp only [stateAfter, respond_of_valid valid rfl, bind_apply]
  cases listed : (b.system id).inputs[port]? with
  | none =>
      simp only [System.input, listed]
      rfl
  | some p =>
      simp only [listed, Option.any_some] at other
      simp only [System.input, listed, Eval.ok_apply, other]
      rfl

theorem Refers.used_eq (h : Refers b r id c q id' c' q' r') : r' = used b id q r := by
  have input {port : Nat} (asked : q.inputPort? = some port) (same : r' = r.usePort b id .input port) :
      r' = used b id q r := by
    cases q with
    | input | requiredInput | inputAs =>
        cases asked
        exact same
    | vectorInput port' =>
        cases asked
        cases vector : (b.system id).inputs[port]?.any (·.type.isVector) with
        | true => rw [same, used, portOf, if_pos vector]
        | false =>
            -- whoever else were asked could then leave any run at all
            have left := (stateAfter_vectorInput h.valid vector).symm.trans
              (h.only fun _ _ _ _ => .ok none { r with cells := ("", 0) :: r.cells })
            have longer := congrArg (·.cells.length) left
            simp [stateAfter] at longer
    | entry | output | boundaryOutput => cases asked
  cases h.passed with
  | ownInput asked => exact input asked rfl
  | sibling asked => exact input asked rfl
  | exported diagram exported => simp [used, portOf, diagram, exported]

structure SameReports (r r' : Run) : Prop where
  notices : r'.notices = r.notices
  warnings : r'.warnings = r.warnings

theorem SameReports.report {o : PortObject} (h : SameReports r r') :
    SameReports (r.reportPort b o.system o.kind o.index).2 (r'.reportPort b o.system o.kind o.index).2 := by
  have warnings := h.warnings
  simp only [Run.warnings] at warnings
  simp only [Run.reportPort_eq]
  cases b.call? ⟨o.system, o.kind, o.index⟩ with
  | none => exact h
  | some x => exact ⟨by simp [h.notices], by simp [Run.warnings, h.notices, warnings]⟩

theorem SameReports.reportAll (h : SameReports r r') :
    SameReports (r.reportAll b ports) (r'.reportAll b ports) := by
  induction ports generalizing r r' with
  | nil => exact h
  | cons o rest ih => exact ih h.report

/-- Where warnings are on, `r'` has told of deprecated ports what `r` and calls for these ports have; where
they are off, what `r` has. -/
structure Tells (b : Blueprint) (ports : List PortObject) (r r' : Run) : Prop where
  config : r'.tree.config = r.tree.config
  same : SameReports (if r.tree.config.deprecationWarnings then r.reportAll b ports else r) r'

theorem tells_of_same (config : r'.tree.config = r.tree.config) (notices : r'.notices = r.notices)
    (warnings : r'.warnings = r.warnings) : Tells b [] r r' :=
  ⟨config, by split <;> exact ⟨notices, warnings⟩⟩

theorem Tells.append (h : Tells b first r₁ r₂) (h' : Tells b later r₂ r₃) :
    Tells b (first ++ later) r₁ r₃ := by
  refine ⟨h'.config.trans h.config, ?_⟩
  obtain ⟨config, same⟩ := h
  have same' := h'.same
  rw [config] at same'
  cases on : r₁.tree.config.deprecationWarnings with
  | false =>
      simp only [on] at same same'
      exact ⟨same'.notices.trans same.notices, same'.warnings.trans same.warnings⟩
  | true =>
      simp only [on, if_true, Run.reportAll, List.foldl_append] at same same' ⊢
      have all : SameReports (List.foldl _ _ later) (r₂.reportAll b later) := same.reportAll
      exact ⟨same'.notices.trans all.notices, same'.warnings.trans all.warnings⟩

theorem Tells.then_quiet (h : Tells b ports r₁ r₂) (h' : Tells b [] r₂ r₃) : Tells b ports r₁ r₃ :=
  List.append_nil ports ▸ h.append h'

theorem tells_used : Tells b (ownPort b id q) r (used b id q r) := by
  refine ⟨congrArg Tree.config tree_used, ?_⟩
  unfold ownPort used
  cases portOf b id q with
  | none => split <;> exact ⟨rfl, rfl⟩
  | some port =>
      simp only [Run.usePort]
      split <;> exact ⟨rfl, rfl⟩

theorem tells_serve : Tells b [] r (r.serve c index) :=
  tells_of_same rfl rfl (by simp [Run.warnings, Run.serve, Run.note, Run.modifySlot, Event.level])

theorem tells_refuse : Tells b [] r (r.refuse c index) :=
  tells_of_same rfl rfl (by simp [Run.warnings, Run.refuse, Run.note, Run.modifySlot, Event.level])

theorem tells_beginProducer : Tells b [] r (r.beginProducer c index) :=
  tells_of_same rfl rfl (by simp [Run.warnings, Run.beginProducer, Run.note, Run.modifySlot, Event.level])

theorem tells_endProducer {out : Value} {outcome : Outcome} :
    Tells b [] r (r.endProducer c index e current out outcome) := by
  unfold Run.endProducer
  dsimp only
  split <;> exact tells_of_same rfl rfl
    (by simp [Run.warnings, Run.note, Run.modifySlot, Event.level])

theorem tells_recompute {v : Value} (inner : Tells b ports (r.beginProducer c index)
      ((e.producer v).run (evaluate b id c) (r.beginProducer c index)).2) :
    Tells b ports r (stateAfter (recompute (evaluate b) id c index e v current) r) := by
  have begun : Tells b ports r
      ((e.producer v).run (evaluate b id c) (r.beginProducer c index)).2 :=
    tells_beginProducer.append inner
  simp only [stateAfter, recompute]
  cases result : (e.producer v).run (evaluate b id c) (r.beginProducer c index) with | mk got r'
  obtain ⟨out, stop⟩ := got
  rw [result] at begun
  cases stop <;> exact begun.then_quiet tells_endProducer

theorem Uses.tells (h : Uses b id c task r ports) (wf : r.tree.WellFormed) :
    Tells b ports r (afterTask b id c task r) := by
  induction h with
  | rejected invalid =>
      rw [afterTask, stateAfter_evaluate wf, stateAfter_error (respond_invalid invalid)]
      exact tells_of_same rfl rfl rfl
  | alone valid unreferred unreached =>
      rw [afterTask, stateAfter_evaluate wf, stateAfter_of_alone valid unreferred unreached]
      exact tells_used
  | referred refers later ih =>
      have own := refers.used_eq
      have more := ih (refers.passed.tree_eq ▸ wf)
      rw [afterTask, stateAfter_evaluate wf, refers.only]
      subst own
      exact tells_used.append more
  | @idle id c q r r' index e slot current reaches idle =>
      have own := reaches.visits.reads.used_eq
      rw [afterTask, reaches.stateAfter_evaluate wf]
      subst own
      cases fresh : slot.fresh? current with
      | some v => exact tells_used.then_quiet tells_serve
      | none =>
          have empty : slot.value = none := by simpa [fresh] using idle
          rw [empty]
          exact tells_used.then_quiet tells_refuse
  | @ran id c q r r' index e slot current v ports reaches stale value inner ih =>
      have tree := reaches.visits.reads.tree_eq
      have own := reaches.visits.reads.used_eq
      have begun : Keeping r' (r'.beginProducer c index) :=
        keeping_modifySlot (fun _ => rfl) undated_emptied
      have inner := ih (begun.2 (tree ▸ wf))
      rw [afterTask, reaches.stateAfter_evaluate wf, stale, value]
      subst own
      exact tells_used.append (tells_recompute inner)
  | finish => exact tells_of_same rfl rfl rfl
  | stop => exact tells_of_same rfl rfl rfl
  | answered asked answer rest first later =>
      have one := first wf
      have more := later (wellFormed_evaluate wf (stateAfter_ok answer))
      rw [afterTask, stateAfter_ok answer] at one
      simp only [afterTask, Script.run, answer] at more ⊢
      exact one.append more
  | heard asked answer rest first later =>
      have one := first wf
      have more := later (wellFormed_evaluate wf (stateAfter_error answer))
      rw [afterTask, stateAfter_error answer] at one
      simp only [afterTask, Script.run, answer] at more ⊢
      exact one.append more
  | @cut id c q r r' out resume stop ports asked answer unheard ih =>
      have one := ih wf
      rw [afterTask, stateAfter_error answer] at one
      have ended : (Script.ask out q resume).run (evaluate b id c) r = ((out, some stop), r') := by
        simp only [Script.run, answer]
      rw [afterTask, ended]
      exact one
  | read rest ih => exact ih wf
  | @write id c r cell x script ports rest ih =>
      have set : Tells b [] r { r with cells := r.cells.set cell x } := tells_of_same rfl rfl rfl
      exact set.append (ih wf)

end Evaluation

end Dataflow
