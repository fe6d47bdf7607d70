import Dataflow.Proofs.Evaluation.Direct
import Dataflow.Proofs.Termination
import Dataflow.Proofs.Validation

namespace Dataflow.Evaluation

variable {b : Blueprint} {ask : Answerer} {id system : SystemId} {c above below : ContextId} {d : Diagram}
  {port child output index : Nat} {feed : Feed} {v : Value} {r r' : Run}

theorem childOutput_eq (has : HasChild d r.tree c child system below) :
    childOutput ask d c child output r = ask system below (.boundaryOutput output) r := by
  simp only [childOutput, bind_apply, get_apply, has.1, has.2]

theorem hasChild_of_childOutput {a : Option Value}
    (answered : childOutput ask d c child output r = .ok a r') :
    ∃ system below, HasChild d r.tree c child system below := by
  simp only [childOutput, bind_apply, get_apply] at answered
  cases foundBelow : (r.tree.children c)[child]? with
  | none =>
      rw [foundBelow] at answered
      cases answered
  | some below =>
      cases foundSystem : d.children[child]? with
      | none =>
          rw [foundBelow, foundSystem] at answered
          cases answered
      | some system => exact ⟨system, below, foundBelow, foundSystem⟩

def follow (ask : Answerer) (d : Diagram) (above : ContextId) : Feed → Eval (Option Value)
  | .ownInput own => ask d.owner above (.input own)
  | .constant v => pure (some v)
  | .sibling source output => childOutput ask d above source output

theorem inputValue_of_feed {p : Port} {func : String}
    (declared : (b.system id).inputs[port]? = some p) (fed : FeedOf b r.tree id c port d above feed) :
    inputValue b ask func id c port r = follow ask d above feed (r.usePort b id .input port) := by
  obtain ⟨context, child, found, free, diagram, parent, index, fed⟩ := fed
  rw [inputValue_eq declared found, free, diagram, parent]
  simp only [fedInput, index, fed]
  cases feed <;> rfl

theorem declared_of_inputValue {func : String} {a : Option Value}
    (answered : inputValue b ask func id c port r = .ok a r') :
    ∃ p, (b.system id).inputs[port]? = some p := by
  cases declared : (b.system id).inputs[port]? with
  | some p => exact ⟨p, rfl⟩
  | none =>
      simp only [inputValue, System.input, declared] at answered
      cases answered

theorem feed_of_inputValue {func : String} {context : Context}
    (found : r.tree.contexts[c]? = some context) (free : context.fixed? port = none)
    (answered : inputValue b ask func id c port r = .ok (some v) r') :
    ∃ d above feed, FeedOf b r.tree id c port d above feed ∧
      follow ask d above feed (r.usePort b id .input port) = .ok (some v) r' := by
  obtain ⟨p, declared⟩ := declared_of_inputValue answered
  rw [inputValue_eq declared found, free] at answered
  cases diagram : b.parentDiagram? id with
  | none => simp [diagram] at answered
  | some d =>
      cases parent : context.parent with
      | none => simp [diagram, parent] at answered
      | some above =>
          cases index : d.childIndex? id with
          | none =>
              simp only [diagram, parent, fedInput, index] at answered
              cases answered
          | some child =>
              cases fed : d.feed? child port with
              | none =>
                  simp only [diagram, parent, fedInput, index, fed] at answered
                  cases answered
              | some feed =>
                  have feeds : FeedOf b r.tree id c port d above feed :=
                    ⟨context, child, found, free, diagram, parent, index, fed⟩
                  refine ⟨d, above, feed, feeds, ?_⟩
                  simp only [diagram, parent, fedInput, index, fed] at answered
                  cases feed <;> exact answered

theorem backs_of_outputValue (returned : outputValue b ask id c output r = .ok v r') :
    ∃ index e, Backs (b.system id) output index ∧ (b.system id).entries[index]? = some e := by
  simp only [outputValue, bind_apply, System.output] at returned
  cases declared : (b.system id).outputs[output]? with
  | none =>
      rw [declared] at returned
      cases returned
  | some p =>
      rw [declared] at returned
      simp only [Eval.ok_apply] at returned
      by_cases own : p.child.isNone = true
      · cases entry : (b.system id).entryFor? p.dependency with
        | none =>
            simp only [own, if_true, entry] at returned
            cases returned
        | some index =>
            have inside : index < (b.system id).entries.length :=
              (List.findIdx?_eq_some_iff_getElem.mp entry).1
            exact ⟨index, _, ⟨p, declared, own, entry⟩, List.getElem?_eq_getElem inside⟩
      · simp only [own] at returned
        cases returned

theorem respond_exported {e : ExportedOutput} (valid : validate b r.tree id c = .ok ())
    (diagram : b.diagram? id = some d) (exported : d.exportedOutput? output = some e) :
    respond b ask id c (.boundaryOutput output) r = childOutput ask d c e.child e.output r := by
  refine (respond_of_valid valid rfl).trans ?_
  simp only [diagram, exported]

theorem respond_own (valid : validate b r.tree id c = .ok ())
    (own : (b.diagram? id).bind (·.exportedOutput? output) = none) :
    respond b ask id c (.boundaryOutput output) r =
      (do return some (← outputValue b ask id c output)) r := by
  refine (respond_of_valid valid rfl).trans ?_
  cases diagram : b.diagram? id with
  | none => rfl
  | some d =>
      simp only [diagram, Option.bind_some] at own
      simp only [own]

theorem valid_of_respond {q : Query} {a : Option Value} (answered : respond b ask id c q r = .ok a r') :
    validate b r.tree id c = .ok () := by
  cases valid : validate b r.tree id c with
  | ok u => rfl
  | error e =>
      rw [respond_invalid valid] at answered
      cases answered

theorem Visits.evaluate_eq {q : Query} {e : Entry} (h : Visits b r id c q index e r')
    (wf : r.tree.WellFormed) : evaluate b id c q r = evaluate b id c (.entry index) r' := by
  have tree := h.reads.tree_eq
  have direct : Visits b r' id c (.entry index) index e r' := ⟨tree ▸ h.valid, .entry, h.declared⟩
  rw [(ends wf).unfolds, (ends (tree ▸ wf)).unfolds, h.respond_eq, direct.respond_eq]

theorem typedInput_eq_some_iff {type : ValueType} {p : Port} {context : Context}
    (declared : (b.system id).inputs[port]? = some p) (found : r.tree.contexts[c]? = some context) :
    typedInput b ask type id c port r = .ok (some v) r' ↔
      v.type = type ∧ inputValue b ask "EvalAbstractInput" id c port r = .ok (some v) r' := by
  have value : inputValue b ask "EvalInputValue" id c port r =
      inputValue b ask "EvalAbstractInput" id c port r := by
    rw [inputValue_eq declared found, inputValue_eq declared found]
  simp only [typedInput, bind_apply, value]
  rcases inputValue b ask "EvalAbstractInput" id c port r with ⟨_ | v', r₁⟩ | ⟨stop, r₁⟩
  · simp [pure, EStateM.pure]
  · by_cases typed : v'.type = type
    · simp only [typed, if_true]
      constructor
      · rintro ⟨⟩
        exact ⟨typed, rfl⟩
      · rintro ⟨-, ⟨⟩⟩
        rfl
    · simp only [typed, if_false, System.input, declared]
      constructor
      · rintro ⟨⟩
      · rintro ⟨typed', ⟨⟩⟩
        exact absurd typed' typed
  · simp

theorem vectorInput_eq_some_iff {p : Port} (wf : r.tree.WellFormed)
    (declared : (b.system id).inputs[port]? = some p) (vector : p.type.isVector = true) :
    evaluate b id c (.vectorInput port) r = .ok (some v) r' ↔
      v.type = .vector ∧ evaluate b id c (.input port) r = .ok (some v) r' := by
  rw [(ends wf).unfolds, (ends wf).unfolds]
  cases valid : validate b r.tree id c with
  | error e => simp [respond_invalid valid]
  | ok u =>
      obtain ⟨context, found, -⟩ := validate_eq_ok_iff.mp valid
      have typed : respond b (evaluate b) id c (.vectorInput port) r =
          typedInput b (evaluate b) .vector id c port r := by
        refine (respond_of_valid valid rfl).trans ?_
        simp only [bind_apply, System.input, declared, Eval.ok_apply, vector, if_true]
      rw [typed, respond_input valid, typedInput_eq_some_iff declared found]

end Dataflow.Evaluation
