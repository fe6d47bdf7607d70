import Dataflow.Proofs.Evaluation.Passing

namespace Dataflow.Evaluation

variable {α β : Type} {b : Blueprint} {ask : Answerer} {id id' : SystemId} {c c' : ContextId}
  {q q' : Query} {r r' : Run} {index port : Nat} {d : Diagram} {F : Answerer → Eval α}

/-- The port of its own that a system gets asked for. -/
def portOf (b : Blueprint) (id : SystemId) : Query → Option (PortKind × Nat)
  | .input port | .requiredInput port | .inputAs _ port => some (.input, port)
  | .vectorInput port =>
      if (b.system id).inputs[port]?.any (·.type.isVector) then some (.input, port) else none
  | .entry _ => none
  | .output output => some (.output, output)
  | .boundaryOutput output =>
      if ((b.diagram? id).bind (·.exportedOutput? output)).isSome then none else some (.output, output)

def used (b : Blueprint) (id : SystemId) (q : Query) (r : Run) : Run :=
  match portOf b id q with
  | some (kind, index) => r.usePort b id kind index
  | none => r

theorem used_of_portOf {kind : PortKind} (own : portOf b id q = some (kind, index)) :
    used b id q r = r.usePort b id kind index := by
  rw [used, own]

theorem used_of_undeclared {kind : PortKind} (own : portOf b id q = some (kind, index))
    (undeclared : (b.system id).port? kind index = none) : used b id q r = r := by
  rw [used_of_portOf own]
  unfold Run.usePort Run.reportPort
  dsimp only
  rw [undeclared]
  split <;> rfl

theorem tree_used : (used b id q r).tree = r.tree := by
  unfold used
  split
  · exact tree_usePort
  · rfl

structure Refers (b : Blueprint) (r : Run) (id : SystemId) (c : ContextId) (q : Query)
    (id' : SystemId) (c' : ContextId) (q' : Query) (r' : Run) : Prop where
  valid : validate b r.tree id c = .ok ()
  passed : PassedOn b r id c q id' c' q' r'
  only : ∀ ask, stateAfter (respond b ask id c q) r = stateAfter (ask id' c' q') r'

structure Reaches (b : Blueprint) (r : Run) (id : SystemId) (c : ContextId) (q : Query) (index : Nat)
    (e : Entry) (r' : Run) (slot : Slot) (current : Serial) : Prop where
  visits : Visits b r id c q index e r'
  found : slotOf r'.tree c index = .ok (slot, current)

inductive Turn (b : Blueprint) (r : Run) (id : SystemId) (c : ContextId) (q : Query)
    (F : Answerer → Eval α) : Prop
  | spot (alone : ∀ ask, stateAfter (F ask) r = used b id q r)
  | refers (id' : SystemId) (c' : ContextId) (q' : Query) (r' : Run)
      (passed : PassedOn b r id c q id' c' q' r')
      (only : ∀ ask, stateAfter (F ask) r = stateAfter (ask id' c' q') r')
  | reaches (index : Nat) (e : Entry) (r' : Run) (slot : Slot) (current : Serial)
      (reaches : Reaches b r id c q index e r' slot current)

theorem stateAfter_bind {x : Eval α} {k : α → Eval β} (quiet : ∀ a r, stateAfter (k a) r = r) :
    stateAfter (x >>= k) r = stateAfter x r := by
  simp only [stateAfter, bind_apply] at quiet ⊢
  cases x r with
  | ok a r' => exact quiet a r'
  | error stop r' => rfl

theorem Turn.bind {k : α → Eval β} (h : Turn b r id c q F) (quiet : ∀ a r, stateAfter (k a) r = r) :
    Turn b r id c q fun ask => F ask >>= k := by
  cases h with
  | spot alone => exact .spot fun ask => (stateAfter_bind quiet).trans (alone ask)
  | refers id' c' q' r' passed only =>
      exact .refers id' c' q' r' passed fun ask => (stateAfter_bind quiet).trans (only ask)
  | reaches index e r' slot current reaches => exact .reaches index e r' slot current reaches

theorem Turn.afterExcept {x : Except Error β} {G : β → Answerer → Eval α}
    (refused : ∀ e, x = .error e → used b id q r = r)
    (later : ∀ a, x = .ok a → Turn b r id c q (G a)) :
    Turn b r id c q fun ask => Eval.ofExcept x >>= fun a => G a ask := by
  cases x with
  | error e => exact .spot fun _ => (refused e rfl).symm
  | ok a => exact later a rfl

theorem stateAfter_childOutput {child output : Nat}
    (alone : ¬ ∃ system below, HasChild d r.tree c child system below) :
    stateAfter (childOutput ask d c child output) r = r := by
  simp only [stateAfter, childOutput, bind_apply, get_apply]
  cases foundBelow : (r.tree.children c)[child]? with
  | none => rfl
  | some below =>
      cases foundSystem : d.children[child]? with
      | none => rfl
      | some system => exact (alone ⟨system, below, foundBelow, foundSystem⟩).elim

theorem turn_follow {above : ContextId} {feed : Feed} (asked : q.inputPort? = some port)
    (own : portOf b id q = some (.input, port))
    (fed : FeedOf b r.tree id c port d above feed)
    (after : ∀ ask, stateAfter (F ask) r =
      stateAfter (follow ask d above feed) (r.usePort b id .input port)) : Turn b r id c q F := by
  cases feed with
  | ownInput own => exact .refers _ _ _ _ (.ownInput asked fed) after
  | constant v => exact .spot fun ask => (after ask).trans (used_of_portOf own).symm
  | sibling source output =>
      have kept : (r.usePort b id .input port).tree = r.tree := tree_usePort
      by_cases child : ∃ system below, HasChild d r.tree above source system below
      · obtain ⟨system, below, child⟩ := child
        refine .refers _ _ _ _ (.sibling asked fed child) fun ask => (after ask).trans ?_
        rw [← kept] at child
        simp only [stateAfter, follow, childOutput_eq child]
      · refine .spot fun ask => (after ask).trans ?_
        rw [← kept] at child
        simp only [follow]
        rw [stateAfter_childOutput child, used_of_portOf own]

theorem turn_inputValue {func : String} (valid : validate b r.tree id c = .ok ())
    (asked : q.inputPort? = some port) (own : portOf b id q = some (.input, port)) :
    Turn b r id c q fun ask => inputValue b ask func id c port := by
  obtain ⟨context, found, -⟩ := validate_eq_ok_iff.mp valid
  cases declared : (b.system id).inputs[port]? with
  | none =>
      refine .spot fun ask => ?_
      rw [used_of_undeclared own declared]
      simp only [stateAfter, inputValue, System.input, declared]
      rfl
  | some p =>
      have value (ask : Answerer) : inputValue b ask func id c port r = _ :=
        inputValue_eq declared found
      have quiet {a : Option Value} (same : ∀ ask, inputValue b ask func id c port r =
          .ok a (r.usePort b id .input port)) :
          Turn b r id c q fun ask => inputValue b ask func id c port :=
        .spot fun ask => (stateAfter_ok (same ask)).trans (used_of_portOf own).symm
      -- wherever something is missing on the way to a feed, the port was used and that is all
      cases held : context.fixed? port with
      | some v => exact quiet fun ask => inputValue_fixed declared found held
      | none =>
          cases diagram : b.parentDiagram? id with
          | none => exact quiet fun ask => inputValue_free declared found held (.inr diagram)
          | some d =>
              cases parent : context.parent with
              | none => exact quiet fun ask => inputValue_free declared found held (.inl parent)
              | some above =>
                  simp only [held, diagram, parent, fedInput] at value
                  cases index : d.childIndex? id with
                  | none =>
                      simp only [index] at value
                      exact quiet value
                  | some child =>
                      simp only [index] at value
                      cases fed : d.feed? child port with
                      | none =>
                          simp only [fed] at value
                          exact quiet value
                      | some feed =>
                          have feeds : FeedOf b r.tree id c port d above feed :=
                            ⟨context, child, found, held, diagram, parent, index, fed⟩
                          refine turn_follow asked own feeds fun ask => ?_
                          simp only [stateAfter, inputValue_of_feed declared feeds]

theorem turn_typedInput {type : ValueType} (valid : validate b r.tree id c = .ok ())
    (asked : q.inputPort? = some port) (own : portOf b id q = some (.input, port)) :
    Turn b r id c q fun ask => typedInput b ask type id c port := by
  have input : Turn b r id c q fun ask => inputValue b ask "EvalInputValue" id c port :=
    turn_inputValue valid asked own
  refine input.bind fun v r => ?_
  cases v with
  | none => rfl
  | some v =>
      dsimp only
      split
      · rfl
      · cases (b.system id).input "EvalInputValue" (b.pathname id) port <;> rfl

theorem turn_entryValue (valid : validate b r.tree id c = .ok ()) (reads : Reads b r id q index r')
    (own : used b id q r = r')
    (after : ∀ ask, stateAfter (F ask) r = stateAfter (entryValue b ask id c index) r') :
    Turn b r id c q F := by
  have quiet (same : ∀ ask, stateAfter (entryValue b ask id c index) r' = r') : Turn b r id c q F :=
    .spot fun ask => ((after ask).trans (same ask)).trans own.symm
  cases declared : (b.system id).entries[index]? with
  | none =>
      refine quiet fun ask => ?_
      simp only [stateAfter, entryValue_eq, System.entry, declared]
  | some e =>
      cases found : slotOf r'.tree c index with
      | error cause =>
          refine quiet fun ask => ?_
          simp only [stateAfter, entryValue_eq, System.entry, declared, found]
      | ok result => exact .reaches index e r' result.1 result.2 ⟨⟨valid, reads, declared⟩, found⟩

theorem turn_outputValue {output : Nat} (valid : validate b r.tree id c = .ok ())
    (own : portOf b id q = some (.output, output))
    (reads : ∀ index, Backs (b.system id) output index →
      Reads b r id q index (r.usePort b id .output output)) :
    Turn b r id c q fun ask => outputValue b ask id c output := by
  cases declared : (b.system id).outputs[output]? with
  | none =>
      refine .spot fun ask => ?_
      rw [used_of_undeclared own (by simp [System.port?, declared])]
      simp only [stateAfter, outputValue, System.output, declared]
      rfl
  | some p =>
      by_cases backed : ∃ index, Backs (b.system id) output index
      · obtain ⟨index, backs⟩ := backed
        refine turn_entryValue valid (reads index backs) (used_of_portOf own) fun ask => ?_
        simp only [stateAfter, outputValue_of_backs backs]
      · refine .spot fun ask => ?_
        have unbacked : (if p.child.isNone then (b.system id).entryFor? p.dependency else none) = none := by
          split
          · rename_i childless
            cases entry : (b.system id).entryFor? p.dependency with
            | none => rfl
            | some index => exact (backed ⟨index, p, declared, childless, entry⟩).elim
          · rfl
        rw [used_of_portOf own]
        simp only [stateAfter, outputValue, bind_apply, System.output, declared, Eval.ok_apply, unbacked]
        rfl

theorem turn_respond (valid : validate b r.tree id c = .ok ()) :
    Turn b r id c q fun ask => respond b ask id c q := by
  -- every answer begins with the same check of the context
  have opened {G : Answerer → Eval (Option Value)} (body : ∀ ask, respond b ask id c q =
      (do Eval.ofExcept (validate b (← get).tree id c); G ask)) (turn : Turn b r id c q G) :
      Turn b r id c q fun ask => respond b ask id c q := by
    have same (ask : Answerer) : stateAfter (respond b ask id c q) r = stateAfter (G ask) r := by
      simp only [stateAfter, respond_of_valid valid (body ask)]
    cases turn with
    | spot alone => exact .spot fun ask => (same ask).trans (alone ask)
    | refers id' c' q' r' passed only =>
        exact .refers id' c' q' r' passed fun ask => (same ask).trans (only ask)
    | reaches index e r' slot current reaches => exact .reaches index e r' slot current reaches
  cases q with
  | input port => exact opened (fun _ => rfl) (turn_inputValue valid rfl rfl)
  | requiredInput port =>
      refine opened (fun _ => rfl) ((turn_inputValue valid rfl rfl).bind fun v r => ?_)
      cases v with
      | some v => rfl
      | none => cases (b.system id).input "EvalRequiredInput" (b.pathname id) port <;> rfl
  | inputAs type port => exact opened (fun _ => rfl) (turn_typedInput valid rfl rfl)
  | vectorInput port =>
      have own : portOf b id (.vectorInput port) = if (b.system id).inputs[port]?.any (·.type.isVector)
          then some (.input, port) else none := rfl
      refine opened (fun _ => rfl) (.afterExcept (fun e refused => ?_) fun p declared => ?_)
      · cases listed : (b.system id).inputs[port]? with
        | none => simp [used, own, listed]
        | some p => simp [System.input, listed] at refused
      · cases listed : (b.system id).inputs[port]? with
        | none => simp [System.input, listed] at declared
        | some p' =>
            obtain rfl : p' = p := by simpa [System.input, listed] using declared
            simp only [listed, Option.any_some] at own
            cases vector : p'.type.isVector with
            | true => exact turn_typedInput valid rfl (by simp [own, vector])
            | false => exact .spot fun _ => by simp [used, own, vector]; rfl
  | entry index =>
      exact opened (fun _ => rfl) ((turn_entryValue valid .entry rfl fun _ => rfl).bind fun _ _ => rfl)
  | output output =>
      exact opened (fun _ => rfl)
        ((turn_outputValue valid rfl fun index backs => .output backs).bind fun _ _ => rfl)
  | boundaryOutput output =>
      have ownOutput (own : (b.diagram? id).bind (·.exportedOutput? output) = none) :
          Turn b r id c (.boundaryOutput output)
            fun ask => do return some (← outputValue b ask id c output) :=
        (turn_outputValue valid (by simp [portOf, own]) fun index backs =>
          .boundaryOutput own backs).bind fun _ _ => rfl
      refine opened (fun _ => rfl) ?_
      cases diagram : b.diagram? id with
      | none => exact ownOutput (by simp [diagram])
      | some d =>
          dsimp only
          cases exported : d.exportedOutput? output with
          | none => exact ownOutput (by simp [diagram, exported])
          | some e =>
              dsimp only
              by_cases child : ∃ system below, HasChild d r.tree c e.child system below
              · obtain ⟨system, below, child⟩ := child
                refine .refers _ _ _ _ (.exported diagram exported child) fun ask => ?_
                simp only [stateAfter, childOutput_eq child]
              · refine .spot fun ask => (stateAfter_childOutput child).trans ?_
                simp [used, portOf, diagram, exported]

theorem stateAfter_of_alone (valid : validate b r.tree id c = .ok ())
    (unreferred : ∀ id' c' q' r', ¬ Refers b r id c q id' c' q' r')
    (unreached : ∀ index e r' slot current, ¬ Reaches b r id c q index e r' slot current) :
    stateAfter (respond b ask id c q) r = used b id q r := by
  cases turn_respond (q := q) valid with
  | spot alone => exact alone ask
  | refers id' c' q' r' passed only => exact (unreferred id' c' q' r' ⟨valid, passed, only⟩).elim
  | reaches index e r' slot current reaches => exact (unreached index e r' slot current reaches).elim

theorem tree_of_alone (unreferred : ∀ id' c' q' r', ¬ Refers b r id c q id' c' q' r')
    (unreached : ∀ index e r' slot current, ¬ Reaches b r id c q index e r' slot current) :
    (stateAfter (respond b ask id c q) r).tree = r.tree := by
  cases valid : validate b r.tree id c with
  | error e => rw [stateAfter_error (respond_invalid valid)]
  | ok u => rw [stateAfter_of_alone valid unreferred unreached, tree_used]

end Dataflow.Evaluation
