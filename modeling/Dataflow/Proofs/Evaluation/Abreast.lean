import Dataflow.Proofs.Evaluation.Steps

namespace Dataflow

variable {b : Blueprint} {forget forget' : Notices → Notices} {R Fresh : Run → Run → Prop}
  {ask ask' : Answerer} {id : SystemId} {c : ContextId} {q : Query} {index : Nat} {r r' : Run}
  {ε α β : Type}

namespace Run

def forgetting (forget : Notices → Notices) (r : Run) : Run :=
  { r with notices := forget r.notices }

def silently (r : Run) (t : Tree) (events : List Event) : Run :=
  { r with tree := t, log := r.log ++ events }

end Run

namespace Evaluation

/-- Answers questions like `answer`, but remembers of reports no more than `forget` leaves when a
question is put. A question uses one port at most before it leads to others. -/
def answerForgetting (forget : Notices → Notices) (b : Blueprint) : Nat → Answerer
  | 0 => fun _ _ _ => throw .exhausted
  | depth + 1 => fun id c q r =>
      respond b (answerForgetting forget b depth) id c q (r.forgetting forget)

end Evaluation

def evaluateForgetting (forget : Notices → Notices) (b : Blueprint) (id : SystemId) (c : ContextId)
    (q : Query) : Eval (Option Value) :=
  fun r => Evaluation.answerForgetting forget b r.tree.depthBound id c q r

theorem evaluateForgetting_self : evaluateForgetting (fun n => n) b = evaluate b := by
  have depths (depth : Nat) :
      Evaluation.answerForgetting (fun n => n) b depth = Evaluation.answer b depth := by
    induction depth with
    | zero => rfl
    | succ depth ih =>
        simp only [Evaluation.answerForgetting, Evaluation.answer, ih]
        rfl
  funext id c q r
  simp only [evaluateForgetting, evaluate, depths]

def Abreast (R : Run → Run → Prop) (f f' : EStateM ε Run α) (r r' : Run) : Prop :=
  match f r, f' r' with
  | .ok a s, .ok a' s' => a = a' ∧ R s s'
  | .error stop s, .error stop' s' => stop = stop' ∧ R s s'
  | _, _ => False

namespace Abreast

theorem pure (rel : R r r') (a : α) :
    Abreast R (Pure.pure a : EStateM ε Run α) (Pure.pure a) r r' := ⟨rfl, rel⟩

theorem fail (rel : R r r') (e : Error) : Abreast R (Eval.fail e : Eval α) (Eval.fail e) r r' :=
  ⟨rfl, rel⟩

theorem bind {x x' : EStateM ε Run α} {f f' : α → EStateM ε Run β} (first : Abreast R x x' r r')
    (later : ∀ a s s', R s s' → Abreast R (f a) (f' a) s s') :
    Abreast R (x >>= f) (x' >>= f') r r' := by
  simp only [Abreast, bind_apply] at first ⊢
  cases made : x r with
  | ok a s =>
      cases made' : x' r' with
      | ok a' s' =>
          simp only [made, made'] at first ⊢
          obtain ⟨rfl, rel⟩ := first
          exact later a s s' rel
      | error stop' s' => simp only [made, made'] at first
  | error stop s =>
      cases made' : x' r' with
      | ok a' s' => simp only [made, made'] at first
      | error stop' s' => simpa only [made, made'] using first

theorem bindOfExcept {x : Except Error α} {f f' : α → Eval β} (rel : R r r')
    (later : ∀ a, Abreast R (f a) (f' a) r r') :
    Abreast R (Eval.ofExcept x >>= f) (Eval.ofExcept x >>= f') r r' := by
  cases x with
  | error e => exact ⟨rfl, rel⟩
  | ok a => exact later a

theorem bindGet {f f' : Run → EStateM ε Run β} (later : Abreast R (f r) (f' r') r r') :
    Abreast R (get >>= f) (get >>= f') r r' := later

theorem bindModify {g : Run → Run} {f f' : PUnit → EStateM ε Run β}
    (later : Abreast R (f ⟨⟩) (f' ⟨⟩) (g r) (g r')) :
    Abreast R (modify g >>= f) (modify g >>= f') r r' := later

theorem after {f f' : EStateM ε Run α} (h : Abreast R f f' r r') :
    R (stateAfter f r) (stateAfter f' r') := by
  simp only [Abreast, stateAfter] at h ⊢
  cases made : f r <;> cases made' : f' r' <;> simp only [made, made'] at h ⊢
  · exact h.2
  · exact h.2

theorem mono {R' : Run → Run → Prop} {f f' : EStateM ε Run α} (h : Abreast R f f' r r')
    (weaker : ∀ {s s' : Run}, R s s' → R' s s') : Abreast R' f f' r r' := by
  simp only [Abreast] at h ⊢
  cases made : f r <;> cases made' : f' r' <;> simp only [made, made'] at h ⊢
  · exact ⟨h.1, weaker h.2⟩
  · exact ⟨h.1, weaker h.2⟩

end Abreast

namespace Evaluation

/-- `R` is kept by steps that two runs take together, of which they may forget what `forget` and
`forget'` do not leave; reports are made by runs that are `Fresh` from forgetting. -/
structure Parallel (b : Blueprint) (forget forget' : Notices → Notices)
    (Fresh R : Run → Run → Prop) : Prop where
  tree : ∀ {r r' : Run}, R r r' → r'.tree = r.tree
  cells : ∀ {r r' : Run}, R r r' → r'.cells = r.cells
  setCells : ∀ {r r' : Run}, R r r' → ∀ cells : Cells, R { r with cells } { r' with cells }
  silently : ∀ {r r' : Run}, R r r' → ∀ (t : Tree) (events : List Event),
    (∀ e ∈ events, e.level ≠ .warn) → R (r.silently t events) (r'.silently t events)
  forgetting : ∀ {r r' : Run}, R r r' → Fresh (r.forgetting forget) (r'.forgetting forget')
  stale : ∀ {r r' : Run}, Fresh r r' → R r r'
  report : ∀ {r r' : Run}, Fresh r r' → ∀ (id : SystemId) (kind : PortKind) (index : Nat),
    R (r.reportPort b id kind index).2 (r'.reportPort b id kind index).2

variable (h : Parallel b forget forget' Fresh R)
include h

namespace Parallel

theorem usePort (fresh : Fresh r r') (id : SystemId) (kind : PortKind) (index : Nat) :
    R (r.usePort b id kind index) (r'.usePort b id kind index) := by
  simp only [Run.usePort, h.tree (h.stale fresh)]
  split
  · exact h.report fresh id kind index
  · exact h.stale fresh

theorem note (rel : R r r') {e : Event} (silent : e.level ≠ .warn) : R (r.note e) (r'.note e) := by
  have noted := h.silently rel r.tree [e] (by simpa using silent)
  have same : r'.note e = r'.silently r.tree [e] := by
    rw [← h.tree rel]
    rfl
  rw [same]
  exact noted

theorem setTree (rel : R r r') (t : Tree) : R { r with tree := t } { r' with tree := t } := by
  have changed := h.silently rel t [] (by simp)
  simpa only [Run.silently, List.append_nil] using changed

theorem modifySlot (rel : R r r') (f : Slot → Slot) :
    R (r.modifySlot c index f) (r'.modifySlot c index f) := by
  have modified := h.setTree rel (r.tree.modifySlot c index f)
  simp only [Run.modifySlot, h.tree rel]
  exact modified

theorem endProducer (rel : R r r') (e : Entry) (current : Serial) (out : Value)
    (outcome : Outcome) :
    R (r.endProducer c index e current out outcome)
      (r'.endProducer c index e current out outcome) := by
  have ended := h.note rel (e := .ended c index outcome) (by simp [Event.level])
  unfold Run.endProducer
  dsimp only
  split
  · exact h.modifySlot (h.note ended (by simp [Event.level])) _
  · exact h.modifySlot ended _

end Parallel

variable (asks : ∀ id c q r r', R r r' → Abreast R (ask id c q) (ask' id c q) r r')
include asks

theorem abreast_run {script : Script} (rel : R r r') :
    (script.run (ask id c) r).1 = (script.run (ask' id c) r').1 ∧
      R (script.run (ask id c) r).2 (script.run (ask' id c) r').2 := by
  induction script generalizing r r' with
  | finish out => exact ⟨rfl, rel⟩
  | stop out f => exact ⟨rfl, rel⟩
  | ask out q resume ih =>
      have answers := asks id c q r r' rel
      simp only [Abreast] at answers
      simp only [Script.run]
      cases answer : ask id c q r with
      | ok v s =>
          cases answer' : ask' id c q r' with
          | ok v' s' =>
              simp only [answer, answer'] at answers
              obtain ⟨rfl, rel⟩ := answers
              exact ih _ rel
          | error stop' s' => simp only [answer, answer'] at answers
      | error stop s =>
          cases answer' : ask' id c q r' with
          | ok v' s' => simp only [answer, answer'] at answers
          | error stop' s' =>
              simp only [answer, answer'] at answers
              obtain ⟨rfl, rel⟩ := answers
              cases stop with
              | exhausted => exact ⟨rfl, rel⟩
              | fault f =>
                  cases f with
                  | panicked message => exact ⟨rfl, rel⟩
                  | failed e => exact ih _ rel
  | read cell resume ih =>
      simp only [Script.run, h.cells rel]
      exact ih _ rel
  | write cell x rest ih =>
      simp only [Script.run, h.cells rel]
      exact ih (h.setCells rel _)

theorem abreast_recompute (rel : R r r') {e : Entry} {v : Value} {current : Serial} :
    Abreast R (recompute ask id c index e v current) (recompute ask' id c index e v current)
      r r' := by
  have begun : R (r.beginProducer c index) (r'.beginProducer c index) :=
    h.modifySlot (h.note rel (by simp [Event.level])) Slot.emptied
  have ran : ((e.producer v).run (ask id c) (r.beginProducer c index)).1 =
      ((e.producer v).run (ask' id c) (r'.beginProducer c index)).1 ∧
      R ((e.producer v).run (ask id c) (r.beginProducer c index)).2
        ((e.producer v).run (ask' id c) (r'.beginProducer c index)).2 := abreast_run h asks begun
  simp only [Abreast, recompute]
  cases ended : (e.producer v).run (ask id c) (r.beginProducer c index) with | mk result s
  cases ended' : (e.producer v).run (ask' id c) (r'.beginProducer c index) with | mk result' s'
  rw [ended, ended'] at ran
  obtain ⟨rfl, rel⟩ := ran
  obtain ⟨out, stop⟩ := result
  cases stop <;> exact ⟨rfl, h.endProducer rel e current out _⟩

theorem abreast_entryValue (rel : R r r') :
    Abreast R (entryValue b ask id c index) (entryValue b ask' id c index) r r' := by
  simp only [Abreast, entryValue_eq, h.tree rel]
  cases (b.system id).entry "EvalCacheEntry" (b.pathname id) index with
  | error e => exact ⟨rfl, rel⟩
  | ok e =>
      cases slotOf r.tree c index with
      | error e => exact ⟨rfl, rel⟩
      | ok result =>
          obtain ⟨slot, current⟩ := result
          dsimp only
          cases slot.fresh? current with
          | some v => exact ⟨rfl, h.modifySlot (h.note rel (by simp [Event.level])) Slot.recordHit⟩
          | none =>
              cases slot.value with
              | some v => exact abreast_recompute h asks rel
              | none =>
                  exact ⟨rfl, h.modifySlot (h.note rel (by simp [Event.level])) Slot.markOutOfDate⟩

theorem abreast_childOutput (rel : R r r') {d : Diagram} {child output : Nat} :
    Abreast R (childOutput ask d c child output) (childOutput ask' d c child output) r r' := by
  refine .bindGet ?_
  rw [h.tree rel]
  cases (r.tree.children c)[child]? with
  | none => exact .fail rel _
  | some below =>
      cases d.children[child]? with
      | none => exact .fail rel _
      | some system => exact asks system below _ r r' rel

theorem abreast_fedInput (rel : R r r') {d : Diagram} {port : Nat} :
    Abreast R (fedInput ask d c id port) (fedInput ask' d c id port) r r' := by
  unfold fedInput
  cases d.childIndex? id with
  | none => exact .pure rel _
  | some child =>
      dsimp only
      cases d.feed? child port with
      | none => exact .pure rel _
      | some feed =>
          cases feed with
          | ownInput own => exact asks d.owner c _ r r' rel
          | constant v => exact .pure rel _
          | sibling source output => exact abreast_childOutput h asks rel

theorem abreast_inputValue (fresh : Fresh r r') {func : String} {port : Nat} :
    Abreast R (inputValue b ask func id c port) (inputValue b ask' func id c port) r r' := by
  refine .bindOfExcept (h.stale fresh) fun _ => .bindModify ?_
  have used := h.usePort fresh id .input port
  refine .bindGet ?_
  rw [h.tree used]
  refine .bindOfExcept used fun context => ?_
  cases context.fixed? port with
  | some v => exact .pure used _
  | none =>
      cases b.parentDiagram? id with
      | none => exact .pure used _
      | some d =>
          cases context.parent with
          | none => exact .pure used _
          | some above => exact abreast_fedInput h asks used

theorem abreast_typedInput (fresh : Fresh r r') {type : ValueType} {port : Nat} :
    Abreast R (typedInput b ask type id c port) (typedInput b ask' type id c port) r r' := by
  refine .bind (abreast_inputValue h asks fresh) fun v s s' rel => ?_
  cases v with
  | none => exact .pure rel _
  | some v =>
      dsimp only
      split
      · exact .pure rel _
      · exact .bindOfExcept rel fun _ => .fail rel _

theorem abreast_outputValue (fresh : Fresh r r') {output : Nat} :
    Abreast R (outputValue b ask id c output) (outputValue b ask' id c output) r r' := by
  refine .bindOfExcept (h.stale fresh) fun port => .bindModify ?_
  have used := h.usePort fresh id .output output
  cases (if port.child.isNone then (b.system id).entryFor? port.dependency else none) with
  | none => exact .fail used _
  | some index => exact abreast_entryValue h asks used

theorem abreast_respond (fresh : Fresh r r') :
    Abreast R (respond b ask id c q) (respond b ask' id c q) r r' := by
  have rel := h.stale fresh
  have output (index : Nat) : Abreast R (do return some (← outputValue b ask id c index))
      (do return some (← outputValue b ask' id c index)) r r' :=
    .bind (abreast_outputValue h asks fresh) fun v _ _ rel => .pure rel _
  refine .bindGet ?_
  rw [h.tree rel]
  refine .bindOfExcept rel fun _ => ?_
  cases q with
  | input port => exact abreast_inputValue h asks fresh
  | requiredInput port =>
      refine .bind (abreast_inputValue h asks fresh) fun v s s' rel => ?_
      cases v with
      | none => exact .bindOfExcept rel fun _ => .fail rel _
      | some v => exact .pure rel _
  | inputAs type port => exact abreast_typedInput h asks fresh
  | vectorInput port =>
      refine .bindOfExcept rel fun declared => ?_
      cases declared.type.isVector with
      | false => exact .fail rel _
      | true => exact abreast_typedInput h asks fresh
  | entry index => exact .bind (abreast_entryValue h asks rel) fun v _ _ rel => .pure rel _
  | output index => exact output index
  | boundaryOutput index =>
      dsimp only
      cases b.diagram? id with
      | none => exact output index
      | some d =>
          dsimp only
          cases d.exportedOutput? index with
          | none => exact output index
          | some e => exact abreast_childOutput h asks rel

omit asks in
theorem abreast_evaluate (rel : R r r') : Abreast R (evaluateForgetting forget b id c q)
    (evaluateForgetting forget' b id c q) r r' := by
  suffices depths : ∀ depth id c q r r', R r r' → Abreast R (answerForgetting forget b depth id c q)
      (answerForgetting forget' b depth id c q) r r' by
    have whole := depths r.tree.depthBound id c q r r' rel
    simp only [Abreast, evaluateForgetting, h.tree rel] at whole ⊢
    exact whole
  intro depth
  induction depth with
  | zero => exact fun id c q r r' rel => ⟨rfl, rel⟩
  | succ depth ih =>
      intro id c q r r' rel
      have answered : Abreast R (respond b (answerForgetting forget b depth) id c q)
          (respond b (answerForgetting forget' b depth) id c q) (r.forgetting forget)
          (r'.forgetting forget') := abreast_respond h ih (h.forgetting rel)
      exact answered

end Evaluation

end Dataflow
