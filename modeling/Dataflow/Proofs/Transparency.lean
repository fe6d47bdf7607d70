import Dataflow.Proofs.Transparency.Session

/-!
# Caching never changes a result

In a context of its own, and whatever is done to it: a question to a system whose producers keep to what
they declare comes to the value or the error that it would come to if no value was ever kept.
-/

namespace Dataflow.Session

variable {s : Session} {id : SystemId} {c : ContextId} {context : Context} {r : Run}
  {content : Nat → Value → Prop} {actions : List Action}

theorem faithful_of_createContext (wf : s.tree.WellFormed)
    (made : Run.createContext s.blueprint id none s.run = .ok c r)
    (found : r.tree.contexts[c]? = some context)
    (disciplined : (s.blueprint.system id).Disciplined context.graph content) :
    (s.blueprint.system id).Ordered context.graph ∧
      (s.apply (.createContext id none)).Faithful id c context.graph content := by
  obtain ⟨context', hosts, ordered, initial⟩ := Run.hosts_of_createContext wf made
  obtain rfl := Option.some.inj (found.symm.trans hosts.found)
  have tree : (s.apply (.createContext id none)).tree = r.tree :=
    congrArg Run.tree (stateAfter_ok made)
  refine ⟨ordered, ⟨context, tree ▸ hosts⟩, ?_⟩
  intro i bound
  have declared := List.getElem?_eq_getElem bound
  obtain ⟨slot, foundSlot, value, computedAt⟩ := initial i _ declared
  rw [tree]
  refine ⟨_, ?_, (disciplined i _ declared).initial, ?_⟩
  · simp [Tree.value?, found, Context.value?, foundSlot, value]
  · rintro ⟨context', found', slot', k, foundSlot', _, at_⟩
    obtain rfl := Option.some.inj (found.symm.trans found')
    obtain rfl := Option.some.inj (foundSlot.symm.trans foundSlot')
    rw [computedAt] at at_
    cases at_

/-- In whatever session, and whatever is done to a root context after it was created: each question to
its system comes to the value or the error that it comes to without slots, on the values that are fixed on
its input ports by then. -/
theorem evaluate_eq_reference (reachable : s.Reachable)
    (made : Run.createContext s.blueprint id none s.run = .ok c r)
    (found : r.tree.contexts[c]? = some context)
    (disciplined : (s.blueprint.system id).Disciplined context.graph content)
    (on : ∀ a ∈ actions, a.isOn c = true) (q : Query) : ∃ reply r',
    Reference.evaluate s.blueprint id
        (((s.apply (.createContext id none)).perform actions).tree.fixed? c) q = some reply ∧
      evaluate s.blueprint id c q ((s.apply (.createContext id none)).perform actions).run =
        Eval.ofExcept reply r' := by
  obtain ⟨ordered, faithful⟩ :=
    faithful_of_createContext reachable.wellFormed made found disciplined
  have after : Faithful ((s.apply (.createContext id none)).perform actions) id c context.graph content :=
    Faithful.perform (s := s.apply (.createContext id none)) ordered disciplined faithful on
  have blueprint : ((s.apply (.createContext id none)).perform actions).blueprint = s.blueprint :=
    blueprint_perform on
  rw [← blueprint] at ordered disciplined
  obtain ⟨reply, r', known, evaluated, -⟩ := after.evaluate_eq ordered disciplined q
  rw [blueprint] at known evaluated
  exact ⟨reply, r', known, evaluated⟩

def copied (v : Value) : Script :=
  .ask v (.inputAs .flag 0) fun
    | .ok (some x) => .finish x
    | .ok none => .stop v (.failed (.computationFailed "high" "no level"))
    | .error e => .stop v (.failed e)

def opposite (v : Value) : Script :=
  .ask v (.entry 0) fun
    | .ok (some (.flag x)) => .finish (.flag !x)
    | .ok _ => .stop v (.failed (.computationFailed "quiet" "no flag"))
    | .error e => .stop v (.failed e)

def alarm : Session :=
  (start {} [] {}).perform
    [.addSystem "alarm" "Alarm" "", .declare 0 (.input "level" (.named "bool")),
      .declare 0 (.entry "high" (.flag false) (.typed .flag "high" copied) [.allInputs]),
      .declare 0 (.entry "quiet" (.flag true) (.typed .flag "quiet" opposite) [14])]

theorem disciplined_alarm {g : Graph} (level : g.Reaches 13 14) (high : g.Reaches 14 15) :
    (alarm.blueprint.system 0).Disciplined g fun _ v => v.type = .flag := by
  have typed {v : Value} {description : String} {p : Producer} (type : v.type = .flag) :
      Producer.typed .flag description p v = p v := if_pos type
  intro i e found
  match i with
  | 0 =>
    obtain rfl := Option.some.inj found
    have covered : (alarm.blueprint.system 0).Covers g 0 14 (.inputAs .flag 0) := .input rfl rfl level
    refine ⟨rfl, ?_, ?_⟩
    · intro v type
      change (Producer.typed .flag "high" copied v).Confined _ _ _
      rw [typed type]
      refine .ask covered ?_
      intro reply admitted
      rcases reply with e | _ | x
      · exact .stop type
      · exact .stop type
      · exact .finish admitted
    · intro v replies type known
      obtain ⟨reply, known, -⟩ := known _ covered
      have outcome {v : Value} : (copied v).outcome replies = (copied (.flag false)).outcome replies := by
        simp only [copied, Script.outcome, known]
        rcases reply with e | _ | x <;> rfl
      exact (congrArg _ (typed type)).trans outcome
  | 1 =>
    obtain rfl := Option.some.inj found
    have covered : (alarm.blueprint.system 0).Covers g 1 15 (.entry 0) := .entry (by decide) rfl high
    refine ⟨rfl, ?_, ?_⟩
    · intro v type
      change (Producer.typed .flag "quiet" opposite v).Confined _ _ _
      rw [typed type]
      refine .ask covered ?_
      intro reply admitted
      rcases reply with e | _ | x
      · exact .stop type
      · exact .stop type
      · cases x <;> first | exact .finish rfl | exact .stop type
    · intro v replies type known
      obtain ⟨reply, known, -⟩ := known _ covered
      have outcome {v : Value} :
          (opposite v).outcome replies = (opposite (.flag true)).outcome replies := by
        simp only [opposite, Script.outcome, known]
        rcases reply with e | _ | x
        · rfl
        · rfl
        · cases x <;> rfl
      exact (congrArg _ (typed type)).trans outcome
  | _ + 2 => cases found

def sounded : List Action :=
  [.evaluate 0 0 (.entry 1), .fixInput 0 0 (.flag true), .evaluate 0 0 (.entry 1), .disable 0 (some 0),
    .evaluate 0 0 (.entry 1), .fixInput 0 0 (.flag false), .enableBelow 0, .evaluate 0 0 (.entry 0)]

theorem sounded_eq_reference : alarm.Reachable ∧ ∃ r context reply r',
    Run.createContext alarm.blueprint 0 none alarm.run = .ok 0 r ∧
      r.tree.contexts[0]? = some context ∧
      ((alarm.blueprint.system 0).Disciplined context.graph fun _ v => v.type = .flag) ∧
      (∀ a ∈ sounded, a.isOn 0 = true) ∧
      Reference.evaluate alarm.blueprint 0
        (((alarm.apply (.createContext 0 none)).perform sounded).tree.fixed? 0) (.entry 1) =
          some reply ∧
      evaluate alarm.blueprint 0 0 (.entry 1)
        ((alarm.apply (.createContext 0 none)).perform sounded).run = Eval.ofExcept reply r' := by
  have reachable : alarm.Reachable := (Reachable.start {} [] {}).perform _
  obtain ⟨c, made⟩ := ok_of_succeeds (f := Run.createContext alarm.blueprint 0 none) (s := alarm.run)
    (by decide +kernel)
  obtain rfl : c = 0 := (Run.createContext_ok made).1.trans (by decide +kernel)
  have edges : (stateAfter (Run.createContext alarm.blueprint 0 none) alarm.run).tree.contexts[0]?.map
      (fun context => [13, 10, 14].map context.graph.subscribersOf) =
        some [[10], [12, 14], [15]] := by decide +kernel
  obtain ⟨context, found, edges⟩ := Option.map_eq_some_iff.mp edges
  simp only [List.map_cons, List.map_nil, List.cons.injEq, and_true] at edges
  have step {t u : Ticket} (subscribed : u ∈ context.graph.subscribersOf t) :
      context.graph.Reaches t u := .single subscribed
  have level : context.graph.Reaches 13 10 := step (by simp [edges])
  have high : context.graph.Reaches 10 14 := step (by simp [edges])
  have quiet : context.graph.Reaches 14 15 := step (by simp [edges])
  have disciplined := disciplined_alarm (level.trans high) quiet
  have on : ∀ a ∈ sounded, a.isOn 0 = true := by decide
  obtain ⟨reply, r', known, evaluated⟩ :=
    evaluate_eq_reference reachable made found disciplined on (.entry 1)
  exact ⟨reachable, _, context, reply, r', made, found, disciplined, on, known, evaluated⟩

end Dataflow.Session
