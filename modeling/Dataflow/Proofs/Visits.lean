import Dataflow.Proofs.Evaluation.Turns

namespace Dataflow

inductive Fate where
  /-- it was answered from the slot -/
  | served
  /-- the producer was running already -/
  | running
  | ran (outcome : Outcome)
  deriving DecidableEq

structure Visit where
  place : Place
  fate : Fate
  deriving DecidableEq

def Fate.isReturn : Fate → Bool
  | .ran outcome => outcome.isReturn
  | .served | .running => false

def hitsAt (p : Place) (visits : List Visit) : Nat := visits.count ⟨p, .served⟩

def returnsAt (p : Place) (visits : List Visit) : Nat :=
  visits.countP fun visit => visit.place = p ∧ visit.fate.isReturn

namespace Evaluation

/-- The visits that come of a question, or of what is left of a producer, from a run on. Those that
end first come first. -/
inductive Makes (b : Blueprint) : SystemId → ContextId → Task → Run → List Visit → Prop
  /-- the context is rejected, or the index, or the answer takes no cache entry -/
  | alone {id : SystemId} {c : ContextId} {q : Query} {r : Run}
      (unreferred : ∀ id' c' q' r', ¬ Refers b r id c q id' c' q' r')
      (unreached : ∀ index e r' slot current, ¬ Reaches b r id c q index e r' slot current) :
      Makes b id c (.question q) r []
  | referred {id id' : SystemId} {c c' : ContextId} {q q' : Query} {r r' : Run} {visits : List Visit}
      (refers : Refers b r id c q id' c' q' r') (later : Makes b id' c' (.question q') r' visits) :
      Makes b id c (.question q) r visits
  | served {id : SystemId} {c : ContextId} {q : Query} {r r' : Run} {index : Nat} {e : Entry}
      {slot : Slot} {current : Serial} {v : Value}
      (reaches : Reaches b r id c q index e r' slot current) (fresh : slot.fresh? current = some v) :
      Makes b id c (.question q) r [⟨(c, index), .served⟩]
  | running {id : SystemId} {c : ContextId} {q : Query} {r r' : Run} {index : Nat} {e : Entry}
      {slot : Slot} {current : Serial} (reaches : Reaches b r id c q index e r' slot current)
      (empty : slot.value = none) : Makes b id c (.question q) r [⟨(c, index), .running⟩]
  | ran {id : SystemId} {c : ContextId} {q : Query} {r r' : Run} {index : Nat} {e : Entry}
      {slot : Slot} {current : Serial} {v : Value} {visits : List Visit} {stop : Option Stop}
      (reaches : Reaches b r id c q index e r' slot current) (stale : slot.fresh? current = none)
      (value : slot.value = some v)
      (inner : Makes b id c (.script (e.producer v)) (r'.beginProducer c index) visits)
      (ended : ((e.producer v).run (evaluate b id c) (r'.beginProducer c index)).1.2 = stop) :
      Makes b id c (.question q) r (visits ++ [⟨(c, index), .ran (outcomeOf stop)⟩])
  | finish {id : SystemId} {c : ContextId} {r : Run} {out : Value} :
      Makes b id c (.script (.finish out)) r []
  | stop {id : SystemId} {c : ContextId} {r : Run} {out : Value} {f : Fault} :
      Makes b id c (.script (.stop out f)) r []
  | answered {id : SystemId} {c : ContextId} {q : Query} {r r' : Run} {out : Value}
      {resume : Except Error (Option Value) → Script} {v : Option Value} {first later : List Visit}
      (asked : Makes b id c (.question q) r first) (answer : evaluate b id c q r = .ok v r')
      (rest : Makes b id c (.script (resume (.ok v))) r' later) :
      Makes b id c (.script (.ask out q resume)) r (first ++ later)
  | heard {id : SystemId} {c : ContextId} {q : Query} {r r' : Run} {out : Value}
      {resume : Except Error (Option Value) → Script} {e : Error} {first later : List Visit}
      (asked : Makes b id c (.question q) r first)
      (answer : evaluate b id c q r = .error (.fault (.failed e)) r')
      (rest : Makes b id c (.script (resume (.error e))) r' later) :
      Makes b id c (.script (.ask out q resume)) r (first ++ later)
  /-- a panic further within ends the producer -/
  | cut {id : SystemId} {c : ContextId} {q : Query} {r r' : Run} {out : Value}
      {resume : Except Error (Option Value) → Script} {stop : Stop} {visits : List Visit}
      (asked : Makes b id c (.question q) r visits) (answer : evaluate b id c q r = .error stop r')
      (unheard : ∀ e, stop ≠ .fault (.failed e)) : Makes b id c (.script (.ask out q resume)) r visits
  | read {id : SystemId} {c : ContextId} {r : Run} {cell : String} {resume : Float → Script}
      {visits : List Visit} (rest : Makes b id c (.script (resume (r.cells.get cell))) r visits) :
      Makes b id c (.script (.read cell resume)) r visits
  | write {id : SystemId} {c : ContextId} {r : Run} {cell : String} {x : Float} {script : Script}
      {visits : List Visit}
      (rest : Makes b id c (.script script) { r with cells := r.cells.set cell x } visits) :
      Makes b id c (.script (.write cell x script)) r visits

variable {b : Blueprint} {id : SystemId} {c : ContextId} {q : Query} {r r' : Run} {index : Nat}
  {e : Entry} {slot : Slot} {current : Serial} {n : Nat}

theorem stateAfter_evaluate (wf : r.tree.WellFormed) :
    stateAfter (evaluate b id c q) r = stateAfter (respond b (evaluate b) id c q) r := by
  simp only [stateAfter, (ends wf).unfolds]

theorem exists_makes_script {script : Script} (wf : r.tree.WellFormed)
    (enough : Stage.need ⟨[], id, c, .script script, r⟩ ≤ n)
    (asks : ∀ q r, r.tree.WellFormed → Stage.need ⟨[], id, c, .question q, r⟩ < n →
      ∃ visits, Makes b id c (.question q) r visits) :
    ∃ visits, Makes b id c (.script script) r visits := by
  -- the slots are filled as before when a question comes back, so the rest needs no more
  induction script generalizing r with
  | finish out => exact ⟨_, .finish⟩
  | stop out f => exact ⟨_, .stop⟩
  | ask out q resume ih =>
      obtain ⟨first, asked⟩ := asks q r wf (Nat.lt_of_lt_of_le Stage.need_question_lt enough)
      have after : Balanced r (stateAfter (evaluate b id c q) r) := keeps_evaluate (balanced b) q r
      have later {r' : Run} (after : Balanced r r') (a : Except Error (Option Value)) :
          ∃ visits, Makes b id c (.script (resume a)) r' visits :=
        ih a (after.1.2 wf) (Nat.le_trans (Nat.le_of_eq (Stage.need_script after)) enough)
      cases answer : evaluate b id c q r with
      | ok v r' =>
          rw [stateAfter_ok answer] at after
          obtain ⟨visits, rest⟩ := later after (.ok v)
          exact ⟨_, .answered asked answer rest⟩
      | error stop r' =>
          rw [stateAfter_error answer] at after
          by_cases heard : ∃ e, stop = .fault (.failed e)
          · obtain ⟨e, rfl⟩ := heard
            obtain ⟨visits, rest⟩ := later after (.error e)
            exact ⟨_, .heard asked answer rest⟩
          · exact ⟨_, .cut asked answer fun e same => heard ⟨e, same⟩⟩
  | read cell resume ih =>
      obtain ⟨visits, rest⟩ := ih (r.cells.get cell) wf enough
      exact ⟨visits, .read rest⟩
  | write cell x script ih =>
      obtain ⟨visits, rest⟩ := ih (r := { r with cells := r.cells.set cell x }) wf enough
      exact ⟨visits, .write rest⟩

theorem exists_makes (wf : r.tree.WellFormed) : ∃ visits, Makes b id c (.question q) r visits := by
  suffices ∀ n id c q r, r.tree.WellFormed → Stage.need ⟨[], id, c, .question q, r⟩ ≤ n →
      ∃ visits, Makes b id c (.question q) r visits from this _ id c q r wf (Nat.le_refl _)
  -- a question that is passed on needs less, and so does a producer, whose slot is empty
  intro n
  induction n with
  | zero =>
      intro id c q r _ enough
      exact absurd enough (by simp [Stage.need])
  | succ n ih =>
      intro id c q r wf enough
      by_cases referred : ∃ id' c' q' r', Refers b r id c q id' c' q' r'
      · obtain ⟨id', c', q', r', refers⟩ := referred
        have less := (Stage.sound_start wf).need_passOn refers.passed
        obtain ⟨visits, later⟩ := ih id' c' q' r' (refers.passed.tree_eq ▸ wf)
          (Nat.le_of_lt_succ (Nat.lt_of_lt_of_le less enough))
        exact ⟨visits, .referred refers later⟩
      by_cases reached : ∃ index e r' slot current, Reaches b r id c q index e r' slot current
      · obtain ⟨index, e, r', slot, current, reaches⟩ := reached
        have tree := reaches.visits.reads.tree_eq
        cases fresh : slot.fresh? current with
        | some v => exact ⟨_, .served reaches fresh⟩
        | none =>
            cases value : slot.value with
            | none => exact ⟨_, .running reaches value⟩
            | some v =>
                have begun : Keeping r' (r'.beginProducer c index) :=
                  keeping_modifySlot (fun _ => rfl) undated_emptied
                have less : Stage.need ⟨[(c, index)], id, c, .script (e.producer v),
                    r'.beginProducer c index⟩ < Stage.need ⟨[], id, c, .question q, r⟩ :=
                  Stage.need_begin tree (tree ▸ reaches.found) value
                obtain ⟨visits, inner⟩ : ∃ visits,
                    Makes b id c (.script (e.producer v)) (r'.beginProducer c index) visits :=
                  exists_makes_script (begun.2 (tree ▸ wf)) (Nat.le_refl _) fun q' r'' wf' less' =>
                    ih id c q' r'' wf' (Nat.le_of_lt_succ
                      (Nat.lt_of_lt_of_le (Nat.lt_trans less' less) enough))
                exact ⟨_, .ran reaches fresh value inner rfl⟩
      · refine ⟨[], .alone (fun id' c' q' r' refers => referred ⟨id', c', q', r', refers⟩) ?_⟩
        exact fun index e r' slot current reaches => reached ⟨index, e, r', slot, current, reaches⟩

def afterTask (b : Blueprint) (id : SystemId) (c : ContextId) : Task → Run → Run
  | .question q, r => stateAfter (evaluate b id c q) r
  | .script script, r => (script.run (evaluate b id c) r).2

theorem Reaches.stateAfter_evaluate (h : Reaches b r id c q index e r' slot current)
    (wf : r.tree.WellFormed) : stateAfter (evaluate b id c q) r =
      match slot.fresh? current, slot.value with
      | some _, _ => r'.serve c index
      | none, some v => stateAfter (recompute (evaluate b) id c index e v current) r'
      | none, none => r'.refuse c index := by
  rw [Evaluation.stateAfter_evaluate wf]
  simp only [stateAfter, h.visits.respond_eq, bind_apply, entryValue_eq, System.entry,
    h.visits.declared, h.found]
  cases slot.fresh? current with
  | some v => rfl
  | none =>
      cases slot.value with
      | none => rfl
      | some v =>
          dsimp only
          cases recompute (evaluate b) id c index e v current r' <;> rfl

theorem balanced_afterTask {task : Task} : Balanced r (afterTask b id c task r) := by
  cases task with
  | question q => exact keeps_evaluate (balanced b) q r
  | script script =>
      exact script.run_keeps Balanced.frame (fun _ _ => balanced_of_tree rfl)
        (fun q => keeps_evaluate (balanced b) q) r

theorem wellFormed_evaluate (wf : r.tree.WellFormed) (after : stateAfter (evaluate b id c q) r = r') :
    r'.tree.WellFormed := by
  have kept : Balanced r (afterTask b id c (.question q) r) := balanced_afterTask
  exact after ▸ kept.1.2 wf

theorem exists_makes_task {task : Task} (wf : r.tree.WellFormed) :
    ∃ visits, Makes b id c task r visits := by
  cases task with
  | question q => exact exists_makes wf
  | script script => exact exists_makes_script wf (Nat.le_refl _) fun q r wf _ => exists_makes wf

structure Ran (b : Blueprint) (id : SystemId) (c : ContextId) (i : Nat) (e : Entry) (r r' : Run)
    (slot : Slot) (current : Serial) (v out : Value) (stop : Option Stop) : Prop where
  valid : validate b r.tree id c = .ok ()
  declared : (b.system id).entries[i]? = some e
  found : slotOf r.tree c i = .ok (slot, current)
  stale : slot.fresh? current = none
  value : slot.value = some v
  result : (e.producer v).run (evaluate b id c) (r.beginProducer c i) = ((out, stop), r')

theorem Ran.keeping {v out : Value} {stop : Option Stop}
    (h : Ran b id c index e r r' slot current v out stop) : Keeping (r.beginProducer c index) r' := by
  have kept : Keeping (r.beginProducer c index)
      ((e.producer v).run (evaluate b id c) (r.beginProducer c index)).2 :=
    (e.producer v).run_keeps Keeping.frame (fun _ _ => keeping_of_tree rfl)
      (fun q => keeps_evaluate (Evaluation.keeping b) q) _
  rwa [h.result] at kept

theorem Ran.stateAfter_recompute {v out : Value} {stop : Option Stop}
    (h : Ran b id c index e r r' slot current v out stop) :
    stateAfter (recompute (evaluate b) id c index e v current) r =
      r'.endProducer c index e current out (outcomeOf stop) := by
  simp only [stateAfter, recompute, h.result]
  cases stop <;> rfl

/-- What holds of each visit, and adds up, holds of all visits that come of a question or of a script. -/
theorem Makes.relates {P : List Visit → Run → Run → Prop} {task : Task} {visits : List Visit}
    (h : Makes b id c task r visits) (wf : r.tree.WellFormed)
    (idle : ∀ {r r' : Run}, r'.tree = r.tree → P [] r r')
    (append : ∀ {first later : List Visit} {r₁ r₂ r₃ : Run}, P first r₁ r₂ → P later r₂ r₃ →
      P (first ++ later) r₁ r₃)
    (served : ∀ {r : Run} {c : ContextId} {i : Nat} {slot : Slot} {current : Serial} {v : Value},
      slotOf r.tree c i = .ok (slot, current) → slot.fresh? current = some v →
        P [⟨(c, i), .served⟩] r (r.serve c i))
    (refused : ∀ {r : Run} {c : ContextId} {i : Nat} {slot : Slot} {current : Serial},
      slotOf r.tree c i = .ok (slot, current) → slot.value = none →
        P [⟨(c, i), .running⟩] r (r.refuse c i))
    (ran : ∀ {id : SystemId} {c : ContextId} {i : Nat} {e : Entry} {r r' : Run} {slot : Slot}
      {current : Serial} {v out : Value} {stop : Option Stop} {visits : List Visit},
      Ran b id c i e r r' slot current v out stop → P visits (r.beginProducer c i) r' →
        P (visits ++ [⟨(c, i), .ran (outcomeOf stop)⟩]) r
          (r'.endProducer c i e current out (outcomeOf stop))) :
    P visits r (afterTask b id c task r) := by
  have onward {visits : List Visit} {r r₁ r₂ : Run} (tree : r₁.tree = r.tree) (later : P visits r₁ r₂) :
      P visits r r₂ := append (idle tree) later
  induction h with
  | alone unreferred unreached =>
      refine idle ?_
      rw [afterTask, stateAfter_evaluate wf, tree_of_alone unreferred unreached]
  | referred refers later ih =>
      have tree := refers.passed.tree_eq
      rw [afterTask, stateAfter_evaluate wf, refers.only]
      exact onward tree (ih (tree ▸ wf))
  | served reaches fresh =>
      rw [afterTask, reaches.stateAfter_evaluate wf, fresh]
      exact onward reaches.visits.reads.tree_eq (served reaches.found fresh)
  | @running id c q r r' index e slot current reaches empty =>
      have stale : slot.fresh? current = none := by simp [Slot.fresh?, empty]
      rw [afterTask, reaches.stateAfter_evaluate wf, stale, empty]
      exact onward reaches.visits.reads.tree_eq (refused reaches.found empty)
  | @ran id c q r r' index e slot current v visits stop reaches stale value inner ended ih =>
      have tree := reaches.visits.reads.tree_eq
      have begun : Keeping r' (r'.beginProducer c index) :=
        keeping_modifySlot (fun _ => rfl) undated_emptied
      have inner := ih (begun.2 (tree ▸ wf))
      cases result : (e.producer v).run (evaluate b id c) (r'.beginProducer c index) with | mk got r₁
      obtain ⟨out, stop'⟩ := got
      rw [result] at ended
      obtain rfl : stop' = stop := ended
      have run : Ran b id c index e r' r₁ slot current v out stop' :=
        ⟨tree ▸ reaches.visits.valid, reaches.visits.declared, reaches.found, stale, value, result⟩
      rw [afterTask, result] at inner
      rw [afterTask, reaches.stateAfter_evaluate wf, stale, value]
      dsimp only
      rw [run.stateAfter_recompute]
      exact onward tree (ran run inner)
  | finish => exact idle rfl
  | stop => exact idle rfl
  | answered asked answer rest first later =>
      have one := first wf
      have more := later (wellFormed_evaluate wf (stateAfter_ok answer))
      rw [afterTask, stateAfter_ok answer] at one
      simp only [afterTask, Script.run, answer] at more ⊢
      exact append one more
  | heard asked answer rest first later =>
      have one := first wf
      have more := later (wellFormed_evaluate wf (stateAfter_error answer))
      rw [afterTask, stateAfter_error answer] at one
      simp only [afterTask, Script.run, answer] at more ⊢
      exact append one more
  | @cut id c q r r' out resume stop visits asked answer unheard ih =>
      have one := ih wf
      rw [afterTask, stateAfter_error answer] at one
      have ended : (Script.ask out q resume).run (evaluate b id c) r = ((out, some stop), r') := by
        simp only [Script.run, answer]
      rw [afterTask, ended]
      exact one
  | read rest ih => exact ih wf
  | @write id c r cell x script visits rest ih =>
      have tree : { r with cells := r.cells.set cell x }.tree = r.tree := rfl
      exact onward tree (ih wf)

end Evaluation

end Dataflow
