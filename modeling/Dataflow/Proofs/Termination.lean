import Dataflow.Proofs.Evaluation.Depth
import Dataflow.Proofs.Session

/-!
Every evaluation ends, however systems are wired and whatever their producers ask. A question that
comes back to an entry whose producer runs is refused there, and the producer does not run again.
-/

namespace Dataflow
open Relation

namespace Evaluation

variable {b : Blueprint} {ask : Answerer} {t : Tree} {x : Stage} {id : SystemId} {c : ContextId}
  {q : Query} {r r' : Run} {output index : Nat} {e : Entry}

theorem outputValue_of_backs (backs : Backs (b.system id) output index) :
    outputValue b ask id c output r =
      entryValue b ask id c index (r.usePort b id .output output) := by
  obtain ⟨port, declared, own, backed⟩ := backs
  simp only [outputValue, bind_apply, System.output, declared, Eval.ok_apply, own, backed, ↓reduceIte]
  rfl

theorem Visits.respond_eq (h : Visits b r id c q index e r') :
    respond b ask id c q r = (do return some (← entryValue b ask id c index)) r' := by
  obtain ⟨valid, reads, -⟩ := h
  have output {output : Nat} (backs : Backs (b.system id) output index) :
      (do return some (← outputValue b ask id c output)) r =
        (do return some (← entryValue b ask id c index)) (r.usePort b id .output output) := by
    simp only [bind_apply, outputValue_of_backs backs]
  simp only [respond]
  rw [bind_apply, get_apply]
  simp only [bind_apply, valid, Eval.ok_apply]
  cases reads with
  | entry => rfl
  | output backs => exact output backs
  | boundaryOutput own backs =>
      cases diagram : b.diagram? id with
      | none => exact output backs
      | some d =>
          simp only [diagram, Option.bind_some] at own
          simp only [own]
          exact output backs

/-- A question that comes to an entry whose producer runs is answered by an error that names the entry.
No producer runs for it: the run goes on as it was when the entry was reached, but for the refusal. -/
theorem Stage.Sound.reentered (h : x.Sound t) (visits : Visits b x.run x.id x.c q index e r')
    (running : (x.c, index) ∈ x.running) : ∃ slot current,
      slotOf r'.tree x.c index = .ok (slot, current) ∧ evaluate b x.id x.c q x.run =
        .error (.fault (.failed (.reentered slot.description))) (r'.refuse x.c index) := by
  have tree := visits.reads.tree_eq
  obtain ⟨-, slot, current, found⟩ := h.begun _ running
  obtain ⟨slot, found, -⟩ := slotOf_of_outline (tree ▸ h.outline) found
  have empty : slot.value = none := by
    have unfilled : (x.c, index) ∉ r'.tree.filled := by simp [tree, h.filled, running]
    simpa [Tree.mem_filled_of_slotOf found] using unfilled
  have stale : slot.fresh? current = none := by simp [Slot.fresh?, empty]
  refine ⟨slot, current, found, ?_⟩
  rw [(ends h.wellFormed).unfolds, visits.respond_eq, bind_apply, entryValue_eq]
  simp only [System.entry, visits.declared, found, stale, empty]

end Evaluation

namespace Session
open Evaluation

variable {s : Session}

/-- In a session, with any systems and diagrams: the evaluation of any question to any system in any
context ends. At each of its stages the entries whose producers run are distinct and no more than
there are slots; and a question that comes to one of them is refused with an error that names the
entry, without a run of its producer. -/
theorem Reachable.evaluation_ends (h : s.Reachable) (b : Blueprint) (id : SystemId) (c : ContextId)
    (q : Query) : Ends b id c q s.run ∧ ∀ stage,
      ReflTransGen (Leads b (evaluate b)) ⟨[], id, c, .question q, s.run⟩ stage →
        stage.running.Nodup ∧ stage.running.length ≤ s.tree.slotCount ∧
        ∀ q' index e r', stage.task = .question q' →
          Visits b stage.run stage.id stage.c q' index e r' → (stage.c, index) ∈ stage.running →
            ∃ slot current, slotOf r'.tree stage.c index = .ok (slot, current) ∧
              evaluate b stage.id stage.c q' stage.run =
                .error (.fault (.failed (.reentered slot.description))) (r'.refuse stage.c index) := by
  refine ⟨ends h.wellFormed, fun stage path => ?_⟩
  have sound : stage.Sound s.tree :=
    ((Stage.sound_start h.wellFormed).later (fun _ _ q => keeps_evaluate (balanced b) q) path).1
  exact ⟨sound.distinct, sound.length_running_le, fun q' index e r' _ visits running =>
    sound.reentered visits running⟩

def echo : Producer := fun v => .ask v (.input 0) fun _ => .finish v

def loopback : Diagram := { owner := 0, children := [1], connections := [⟨0, 0, 0, 0⟩] }

def feedback : Session := (start {} [] {}).perform
  [.addSystem "plant" "Plant" "", .addSystem "loop" "Loop" "", .declare 1 (.input "u" (.named "()")),
    .declare 1 (.entry "echo" .unit echo [.allInputs]), .declare 1 (.output "y" (.named "()") none 14),
    .addDiagram loopback, .createContext 0 none, .createContext 1 (some 0)]

theorem feedback_evaluation_ends : feedback.Reachable ∧
    Ends feedback.blueprint 1 1 (.entry 0) feedback.run ∧ ∃ r, ∃ slot : Slot,
      ReflTransGen (Leads feedback.blueprint (evaluate feedback.blueprint))
        ⟨[], 1, 1, .question (.entry 0), feedback.run⟩
        ⟨[(1, 0)], 1, 1, .question (.boundaryOutput 0), r⟩ ∧
      [((1, 0) : Place)].length ≤ feedback.tree.slotCount ∧
      evaluate feedback.blueprint 1 1 (.boundaryOutput 0) r =
        .error (.fault (.failed (.reentered slot.description)))
          ((r.usePort feedback.blueprint 1 .output 0).refuse 1 0) := by
  have reachable : feedback.Reachable := (Reachable.start {} [] {}).perform _
  obtain ⟨ended, stages⟩ := reachable.evaluation_ends feedback.blueprint 1 1 (.entry 0)
  have slots : (slotOf feedback.tree 1 0).toOption.map (fun found =>
      ((found.1.fresh? found.2).isNone, found.1.value.isSome)) = some (true, true) := by
    decide +kernel
  obtain ⟨⟨slot, current⟩, found, states⟩ := Option.map_eq_some_iff.mp slots
  obtain ⟨stale, filled⟩ := Prod.mk.inj states
  obtain ⟨v, value⟩ := Option.isSome_iff_exists.mp filled
  have found : slotOf feedback.tree 1 0 = .ok (slot, current) := by
    cases result : slotOf feedback.tree 1 0 <;> simp_all [Except.toOption]
  obtain ⟨e, declared, producer⟩ : ∃ e, (feedback.blueprint.system 1).entries[0]? = some e ∧
      e.producer = echo := ⟨_, rfl, rfl⟩
  have begins : Leads feedback.blueprint (evaluate feedback.blueprint)
      ⟨[], 1, 1, .question (.entry 0), feedback.run⟩
      ⟨[(1, 0)], 1, 1, .script (e.producer v), feedback.run.beginProducer 1 0⟩ :=
    .begin ⟨by decide +kernel, .entry, declared⟩ found (Option.isNone_iff_eq_none.mp stale) value
  rw [producer] at begins
  have contexts : (feedback.run.beginProducer 1 0).tree.contexts[1]?.map (fun context =>
      ((context.fixed? 0).isNone, context.parent)) = some (true, some 0) := by decide +kernel
  obtain ⟨context, foundContext, joined⟩ := Option.map_eq_some_iff.mp contexts
  obtain ⟨free, parent⟩ := Prod.mk.inj joined
  have feed : FeedOf feedback.blueprint (feedback.run.beginProducer 1 0).tree 1 1 0 loopback 0
      (.sibling 0 0) :=
    ⟨context, 0, foundContext, Option.isNone_iff_eq_none.mp free, rfl, parent, rfl, rfl⟩
  have child : HasChild loopback (feedback.run.beginProducer 1 0).tree 0 0 1 1 :=
    ⟨by decide +kernel, rfl⟩
  have path := ((ReflTransGen.single begins).tail .ask).tail
    (.passOn (by decide +kernel) (.sibling rfl feed child))
  have back : Visits feedback.blueprint
      ((feedback.run.beginProducer 1 0).usePort feedback.blueprint 1 .input 0) 1 1
      (.boundaryOutput 0) 0 e _ :=
    ⟨by decide +kernel, .boundaryOutput rfl ⟨_, rfl, rfl, rfl⟩, declared⟩
  obtain ⟨-, bounded, refused⟩ := stages _ path
  dsimp only at bounded refused
  obtain ⟨slot, -, -, evaluated⟩ := refused _ 0 e _ rfl back List.mem_cons_self
  exact ⟨reachable, ended, _, slot, path, bounded, evaluated⟩

end Session

end Dataflow
