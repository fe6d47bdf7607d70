import Dataflow.Proofs.Evaluation.Steps
import Dataflow.Proofs.Transparency.Reference

namespace Dataflow

variable {P : Run → Prop} {α β : Type} {f : Eval α} {g : α → Eval β} {x : Except Error α}

def Eval.Yields (P : Run → Prop) (f : Eval α) (x : Except Error α) : Prop :=
  ∀ r, P r → ∃ r', f r = Eval.ofExcept x r' ∧ P r'

namespace Eval.Yields

theorem ofExcept (x : Except Error α) : Yields P (Eval.ofExcept x) x := fun r h => ⟨r, rfl, h⟩

theorem pure (a : α) : Yields P (Pure.pure a) (.ok a) := fun r h => ⟨r, rfl, h⟩

theorem fail (e : Error) : Yields P (Eval.fail e : Eval α) (.error e) := fun r h => ⟨r, rfl, h⟩

theorem modify {f : Run → Run} (keeps : ∀ r, P r → P (f r)) :
    Yields P (modify f : Eval PUnit) (.ok ⟨⟩) := fun r h => ⟨f r, rfl, keeps r h⟩

theorem bind_error {e : Error} (first : Yields P f (.error e)) : Yields P (f >>= g) (.error e) := by
  intro r holds
  obtain ⟨r', same, holds'⟩ := first r holds
  refine ⟨r', ?_, holds'⟩
  simp only [bind_apply, same, error_apply]

theorem bind_ok {a : α} {y : Except Error β} (first : Yields P f (.ok a))
    (later : Yields P (g a) y) : Yields P (f >>= g) y := by
  intro r holds
  obtain ⟨r', same, holds'⟩ := first r holds
  obtain ⟨r'', same', holds''⟩ := later r' holds'
  refine ⟨r'', ?_, holds''⟩
  simpa only [bind_apply, same, ok_apply] using same'

theorem bind {h : α → Except Error β} (first : Yields P f x) (later : ∀ a, Yields P (g a) (h a)) :
    Yields P (f >>= g) (x >>= h) := by
  cases x with
  | error e => exact bind_error first
  | ok a => exact bind_ok first (later a)

theorem map (first : Yields P f x) (g : α → β) :
    Yields P (do return g (← f)) (x.map g) := by
  have mapped : x.map g = x >>= fun a => .ok (g a) := by cases x <;> rfl
  exact mapped ▸ first.bind fun a => pure (g a)

theorem get_bind {f : Run → Eval α} (h : ∀ r, P r → Yields P (f r) x) :
    Yields P (get >>= f) x := fun r holds => h r holds r holds

end Eval.Yields

theorem Script.Confined.run_eq {allowed : Query → Prop} {admits : Query → Reply → Prop}
    {content : Value → Prop} {script : Script} {replies : Replies} {ask : Query → Eval (Option Value)}
    (confined : script.Confined allowed admits content)
    (cells : ∀ (r : Run) (cells : Cells), P r → P { r with cells })
    (asks : ∀ q, allowed q →
      ∃ reply, replies q = some reply ∧ admits q reply ∧ Eval.Yields P (ask q) reply)
    {r : Run} (holds : P r) : ∃ out stop r', script.run ask r = ((out, stop), r') ∧ P r' ∧ content out ∧
      ((stop = none ∧ script.outcome replies = some (.ok out)) ∨
        ∃ e, stop = some (.fault (.failed e)) ∧ script.outcome replies = some (.error e)) := by
  induction confined generalizing r with
  | @finish out left => exact ⟨out, none, r, rfl, holds, left, .inl ⟨rfl, rfl⟩⟩
  | @stop out e left => exact ⟨out, _, r, rfl, holds, left, .inr ⟨e, rfl, rfl⟩⟩
  | @ask out q resume may _ ih =>
      obtain ⟨reply, known, admitted, yields⟩ := asks q may
      obtain ⟨r', asked, holds'⟩ := yields r holds
      have goesOn : (Script.ask out q resume).run ask r = (resume reply).run ask r' := by
        cases reply <;> simp only [run, asked, Eval.ok_apply, Eval.error_apply]
      simpa only [goesOn, outcome, known] using ih reply admitted holds'
  | write _ ih => exact ih (cells _ _ holds)

namespace Evaluation

variable {b : Blueprint} {ask : Answerer} {id : SystemId} {c : ContextId} {fixed : Nat → Option Value}
  {replies : Replies} {q : Query}

structure Suits (b : Blueprint) (id : SystemId) (c : ContextId) (fixed : Nat → Option Value)
    (P : Run → Prop) : Prop where
  context : ∀ r, P r → ∃ context, r.tree.context c = .ok context ∧ context.parent = none ∧
    context.fixed? = fixed
  valid : ∀ r, P r → validate b r.tree id c = .ok ()
  alone : ∀ r, P r → r.tree.children c = []
  usePort : ∀ (r : Run) (kind : PortKind) (index : Nat), P r → P (r.usePort b id kind index)

variable (suits : Suits b id c fixed P)
include suits

theorem yields_inputValue (func : String) (port : Nat) : Eval.Yields P
    (inputValue b ask func id c port) (Reference.inputValue b id fixed func port) := by
  refine .bind (.ofExcept _) fun _ =>
    .bind_ok (.modify fun r holds => suits.usePort r .input port holds) (.get_bind fun r holds => ?_)
  obtain ⟨context, known, root, same⟩ := suits.context r holds
  rw [known]
  refine .bind_ok (.ofExcept _) ?_
  rw [same]
  cases fixed port with
  | some v => exact .pure _
  | none =>
      dsimp only
      rw [root]
      split
      · rename_i none
        cases none
      · exact .pure _

theorem yields_typedInput (type : ValueType) (port : Nat) : Eval.Yields P
    (typedInput b ask type id c port) (Reference.typedInput b id fixed type port) := by
  refine .bind (yields_inputValue suits _ _) ?_
  intro v
  cases v with
  | none => exact .pure _
  | some v =>
      dsimp only
      split
      · exact .pure _
      · exact .bind (.ofExcept _) fun _ => .fail _

theorem yields_outputValue {index : Nat} (entries : ∀ i, ∃ x,
      Reference.entryValue b id replies i = some x ∧ Eval.Yields P (entryValue b ask id c i) x) : ∃ x,
    Reference.outputValue b id replies index = some x ∧ Eval.Yields P (outputValue b ask id c index) x := by
  simp only [Reference.outputValue, outputValue]
  cases (b.system id).output "EvalOutput" (b.pathname id) index with
  | error e => exact ⟨.error e, rfl, .bind_error (.fail e)⟩
  | ok port =>
      have reported : Eval.Yields P (modify (·.usePort b id .output index)) (.ok ⟨⟩) :=
        .modify fun r holds => suits.usePort r .output index holds
      dsimp only
      cases own : if port.child.isNone then (b.system id).entryFor? port.dependency else none with
      | none =>
          refine ⟨_, rfl, .bind_ok (.ofExcept _) (.bind_ok reported ?_)⟩
          simp only [own]
          exact .fail _
      | some i =>
          obtain ⟨x, known, yields⟩ := entries i
          refine ⟨x, known, .bind_ok (.ofExcept _) (.bind_ok reported ?_)⟩
          simpa only [own] using yields

theorem yields_validated {α : Type} {f : Eval α} {x : Except Error α} (h : Eval.Yields P f x) :
    Eval.Yields P (do Eval.ofExcept (validate b (← get).tree id c); f) x := by
  refine .get_bind ?_
  intro r holds
  rw [suits.valid r holds]
  exact .bind_ok (.ofExcept _) h

theorem yields_respond_entry {i : Nat} {x : Except Error Value}
    (h : Eval.Yields P (entryValue b ask id c i) x) :
    Eval.Yields P (respond b ask id c (.entry i)) (x.map some) :=
  yields_validated suits (h.map some)

theorem yields_respond_port {port : Nat} (about : q.port? = some port) : ∃ reply,
    Reference.respond b id fixed replies q = some reply ∧ Eval.Yields P (respond b ask id c q) reply := by
  cases q with
  | input port => exact ⟨_, rfl, yields_validated suits (yields_inputValue suits _ _)⟩
  | requiredInput port =>
      refine ⟨_, rfl, yields_validated suits (.bind (yields_inputValue suits _ _) fun v => ?_)⟩
      cases v with
      | some v => exact .pure _
      | none => exact .bind (.ofExcept _) fun _ => .fail _
  | inputAs type port => exact ⟨_, rfl, yields_validated suits (yields_typedInput suits _ _)⟩
  | vectorInput port =>
      refine ⟨_, rfl, yields_validated suits (.bind (.ofExcept _) fun declared => ?_)⟩
      split
      · exact yields_typedInput suits _ _
      · exact .fail _
  | entry | output | boundaryOutput => cases about

theorem yields_respond (entries : ∀ i, ∃ x,
      Reference.entryValue b id replies i = some x ∧ Eval.Yields P (entryValue b ask id c i) x) :
    ∃ reply, Reference.respond b id fixed replies q = some reply ∧
      Eval.Yields P (respond b ask id c q) reply := by
  have output (index : Nat) : ∃ reply,
      (Reference.outputValue b id replies index).map (·.map some) = some reply ∧
        Eval.Yields P (do return some (← outputValue b ask id c index)) reply := by
    obtain ⟨x, known, yields⟩ : ∃ x, Reference.outputValue b id replies index = some x ∧
        Eval.Yields P (outputValue b ask id c index) x := yields_outputValue suits entries
    exact ⟨x.map some, by simp [known], yields.map some⟩
  cases q with
  | input port | requiredInput port | inputAs type port | vectorInput port =>
      exact yields_respond_port suits rfl
  | entry index =>
      obtain ⟨x, known, yields⟩ := entries index
      exact ⟨x.map some, by simp [Reference.respond, known], yields_respond_entry suits yields⟩
  | output index =>
      obtain ⟨reply, known, yields⟩ := output index
      exact ⟨reply, known, yields_validated suits yields⟩
  | boundaryOutput index =>
      obtain ⟨reply, known, yields⟩ := output index
      simp only [Reference.respond]
      cases own : b.diagram? id with
      | none => exact ⟨reply, known, yields_validated suits (by simpa only [own] using yields)⟩
      | some d =>
          cases exported : d.exportedOutput? index with
          | none =>
              refine ⟨reply, by simpa [exported] using known, yields_validated suits ?_⟩
              simpa only [own, exported] using yields
          | some e =>
              refine ⟨.error (.unknownContext e.child), by simp [exported], yields_validated suits ?_⟩
              simp only [own, exported]
              refine .get_bind ?_
              intro r holds
              simp only [suits.alone r holds, List.getElem?_nil]
              exact .fail _

end Evaluation

end Dataflow
