import Dataflow.Proofs.Evaluation.Outline

namespace Dataflow.Evaluation

variable {b : Blueprint} {ask : Answerer} {id : SystemId} {c : ContextId} {q : Query} {r r' : Run}
  {port : Nat} {p : Port} {context : Context} {v : Value} {func : String}

theorem evaluate_of_respond {result : EStateM.Result Stop Run (Option Value)}
    (responds : ∀ ask, respond b ask id c q r = result) : evaluate b id c q r = result := by
  have positive : 0 < r.tree.depthBound := Nat.mul_pos (Nat.succ_pos _) (Nat.succ_pos _)
  obtain ⟨depth, bound⟩ := Nat.exists_eq_add_one.mpr positive
  rw [evaluate, bound]
  exact responds _

theorem respond_invalid {e : Error} (invalid : validate b r.tree id c = .error e) :
    respond b ask id c q r = .error (.fault (.failed e)) r := by
  simp only [respond, bind_apply, get_apply, invalid]
  rfl

theorem respond_of_valid {answer : Eval (Option Value)} (valid : validate b r.tree id c = .ok ())
    (body : respond b ask id c q =
      (do Eval.ofExcept (validate b (← get).tree id c); answer)) :
    respond b ask id c q r = answer r := by
  rw [body, bind_apply, get_apply]
  simp only [bind_apply, valid, Eval.ok_apply]

section
variable (declared : (b.system id).inputs[port]? = some p) (found : r.tree.contexts[c]? = some context)
include declared found

theorem inputValue_eq : inputValue b ask func id c port r =
    match context.fixed? port, b.parentDiagram? id, context.parent with
    | some v, _, _ => .ok (some v) (r.usePort b id .input port)
    | none, some d, some above => fedInput ask d above id port (r.usePort b id .input port)
    | none, _, _ => .ok none (r.usePort b id .input port) := by
  have used : (r.usePort b id .input port).tree.context c = .ok context := by
    rw [tree_usePort]
    exact Tree.context_eq_ok_iff.mpr found
  have use : (modify (·.usePort b id .input port) : Eval PUnit) r =
      .ok ⟨⟩ (r.usePort b id .input port) := rfl
  simp only [inputValue, System.input, declared, bind_apply, Eval.ok_apply, use, get_apply, used]
  cases context.fixed? port with
  | some v => rfl
  | none => cases b.parentDiagram? id <;> cases context.parent <;> rfl

theorem inputValue_fixed (held : context.fixed? port = some v) :
    inputValue b ask func id c port r = .ok (some v) (r.usePort b id .input port) := by
  rw [inputValue_eq declared found, held]

theorem inputValue_free (free : context.fixed? port = none)
    (alone : context.parent = none ∨ b.parentDiagram? id = none) :
    inputValue b ask func id c port r = .ok none (r.usePort b id .input port) := by
  rw [inputValue_eq declared found, free]
  rcases alone with root | unattached
  · rw [root]
    cases b.parentDiagram? id <;> rfl
  · rw [unattached]

end

theorem respond_input (valid : validate b r.tree id c = .ok ()) :
    respond b ask id c (.input port) r = inputValue b ask "EvalAbstractInput" id c port r :=
  respond_of_valid valid rfl

/-- The question is for the value of the port as it is, or for one of a type that all of its values
have. -/
inductive AsksFor (p : Port) (port : Nat) : Query → Prop
  | input : AsksFor p port (.input port)
  | requiredInput : AsksFor p port (.requiredInput port)
  | inputAs (type : ValueType) (always : ∀ v, p.type.mismatch v = none → v.type = type) :
      AsksFor p port (.inputAs type port)
  | vectorInput (vector : p.type.isVector = true) : AsksFor p port (.vectorInput port)

theorem AsksFor.of_type {p' : Port} (h : AsksFor p port q) (same : p'.type = p.type) :
    AsksFor p' port q := by
  cases h with
  | input => exact .input
  | requiredInput => exact .requiredInput
  | inputAs type always => exact .inputAs type (same ▸ always)
  | vectorInput vector => exact .vectorInput (same ▸ vector)

theorem type_of_vector {type : PortType} (vector : type.isVector = true)
    (fits : type.mismatch v = none) : v.type = .vector := by
  cases type with
  | named name => cases vector
  | vector size => cases v <;> first | rfl | cases fits

theorem typedInput_fixed {type : ValueType} (typed : v.type = type)
    (held : inputValue b ask "EvalInputValue" id c port r = .ok (some v) r') :
    typedInput b ask type id c port r = .ok (some v) r' := by
  simp [typedInput, bind_apply, held, typed, pure, EStateM.pure]

theorem respond_fixed (valid : validate b r.tree id c = .ok ())
    (declared : (b.system id).inputs[port]? = some p) (found : r.tree.contexts[c]? = some context)
    (held : context.fixed? port = some v) (fits : p.type.mismatch v = none)
    (asks : AsksFor p port q) :
    respond b ask id c q r = .ok (some v) (r.usePort b id .input port) := by
  have value (func : String) : inputValue b ask func id c port r = .ok (some v) _ :=
    inputValue_fixed declared found held
  cases asks with
  | input => exact (respond_input valid).trans (value _)
  | requiredInput =>
      refine (respond_of_valid valid rfl).trans ?_
      simp only [bind_apply, value]
      rfl
  | inputAs type always =>
      exact (respond_of_valid valid rfl).trans (typedInput_fixed (always v fits) (value _))
  | vectorInput vector =>
      refine (respond_of_valid valid rfl).trans ?_
      simp only [bind_apply, System.input, declared, Eval.ok_apply, vector, if_true]
      exact typedInput_fixed (type_of_vector vector fits) (value _)

theorem respond_free (valid : validate b r.tree id c = .ok ())
    (declared : (b.system id).inputs[port]? = some p) (found : r.tree.contexts[c]? = some context)
    (free : context.fixed? port = none) (alone : context.parent = none ∨ b.parentDiagram? id = none) :
    respond b ask id c (.input port) r = .ok none (r.usePort b id .input port) ∧
      respond b ask id c (.requiredInput port) r =
        .error (.fault (.failed (.unconnected ⟨"EvalRequiredInput", p.name, port, b.pathname id⟩)))
          (r.usePort b id .input port) := by
  have value (func : String) : inputValue b ask func id c port r = .ok none _ :=
    inputValue_free declared found free alone
  refine ⟨(respond_input valid).trans (value _), (respond_of_valid valid rfl).trans ?_⟩
  simp only [bind_apply, value, System.input, declared, Eval.ok_apply]
  rfl

end Dataflow.Evaluation
