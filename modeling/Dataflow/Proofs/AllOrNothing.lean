import Dataflow.Proofs.Furnished
import Dataflow.Proofs.Tree.InPlace

/-!
Operations on values and links are all or nothing. Each of them changes the tree first and then
follows the change through other contexts, where it could still fail; in a session it never does. So
an error comes before the first change, and is the fault of an argument.
-/

namespace Dataflow

inductive Operation where
  | noteChange (l : Location)
  | fixInput (c : ContextId) (port : Nat) (v : Value)
  | clearInput (c : ContextId) (port : Nat)
  | subscribe (subscriber prerequisite : Location)
  | linkPorts (kind : LinkKind) (subscriber prerequisite : PortPlace)

def Attempt.ofExcept {σ α : Type} : Except Error α → Attempt σ α
  | .ok a => pure a
  | .error e => throw e

namespace Attempt

variable {σ α β : Type} {f : α → Attempt σ β} {s : σ}

theorem ofExcept_ok_bind {a : α} : (ofExcept (.ok a) >>= f) s = f a s := rfl

theorem ofExcept_error_bind {e : Error} : (ofExcept (.error e) >>= f) s = .error e s := rfl

theorem get_bind {f : σ → Attempt σ β} : (get >>= f) s = f s s := rfl

theorem set_bind {f : PUnit → Attempt σ β} {s' : σ} : (set s' >>= f) s = f ⟨⟩ s' := rfl

end Attempt

namespace Tree

def fixInPlace (id : ContextId) (port : Nat) (v : Value) : Attempt Tree Unit := do
  let t ← get
  let slot ← Attempt.ofExcept (t.inputSlot "FixInputPort" id port)
  match slot.type.mismatch v with
  | some (expected, actual) =>
      throw (.wrongType ⟨"FixInputPort", slot.name, port, t.pathname id⟩ expected actual)
  | none =>
      set (t.setFixed id port (some v))
      discard (noteChangeInPlace ⟨id, slot.ticket⟩)

def clearInPlace (id : ContextId) (port : Nat) : Attempt Tree Unit := do
  let t ← get
  let slot ← Attempt.ofExcept (t.inputSlot "ClearFixedInputPort" id port)
  if slot.fixed.isSome then
    set (t.setFixed id port none)
    discard (noteChangeInPlace ⟨id, slot.ticket⟩)

def subscribeInPlace (subscriber prerequisite : Location) : Attempt Tree Unit := do
  let t ← get
  Attempt.ofExcept (t.requireTracker subscriber)
  Attempt.ofExcept (t.requireTracker prerequisite)
  set (t.linked subscriber prerequisite)
  discard (noteChangeInPlace subscriber)

def linkEnds (t : Tree) (kind : LinkKind) (subscriber prerequisite : PortPlace) :
    Except Error (Location × Location) := do
  match kind with
  | .inputToOutput =>
      let l ← t.inputLocation "SubscribeInputToOutput" subscriber.context subscriber.port
      let p ← t.outputLocation "SubscribeInputToOutput" prerequisite.context prerequisite.port
      return (l, p)
  | .inputToInput =>
      let l ← t.inputLocation "SubscribeInputToInput" subscriber.context subscriber.port
      let p ← t.inputLocation "SubscribeInputToInput" prerequisite.context prerequisite.port
      return (l, p)
  | .outputToOutput =>
      let l ← t.outputLocation "SubscribeOutputToOutput" subscriber.context subscriber.port
      let p ← t.outputLocation "SubscribeOutputToOutput" prerequisite.context prerequisite.port
      return (l, p)

def linkInPlace (kind : LinkKind) (subscriber prerequisite : PortPlace) : Attempt Tree Unit := do
  let t ← get
  let (l, p) ← Attempt.ofExcept (t.linkEnds kind subscriber prerequisite)
  subscribeInPlace l p

end Tree

namespace Operation

/-- The operation step by step: what it did before an error stays done. -/
def inPlace : Operation → Attempt Tree Unit
  | noteChange l => discard (Tree.noteChangeInPlace l)
  | fixInput c port v => Tree.fixInPlace c port v
  | clearInput c port => Tree.clearInPlace c port
  | subscribe subscriber prerequisite => Tree.subscribeInPlace subscriber prerequisite
  | linkPorts kind subscriber prerequisite => Tree.linkInPlace kind subscriber prerequisite

def run : Operation → Attempt Run Unit
  | noteChange l => discard (Run.noteChange l)
  | fixInput c port v => Run.fixInput c port v
  | clearInput c port => Run.clearInput c port
  | subscribe subscriber prerequisite => Run.subscribe subscriber prerequisite
  | linkPorts kind subscriber prerequisite => Run.linkPorts kind subscriber prerequisite

def whole (t : Tree) : Operation → Except Error Tree
  | noteChange l => (t.spread l).map (·.tree)
  | fixInput c port v => (t.fixInput c port v).map (·.tree)
  | clearInput c port => (t.clearInput c port).map fun s => (s.map (·.tree)).getD t
  | subscribe subscriber prerequisite => (t.subscribe subscriber prerequisite).map (·.tree)
  | linkPorts kind subscriber prerequisite => (t.linkPorts kind subscriber prerequisite).map (·.tree)

def contexts : Operation → List ContextId
  | noteChange l => [l.context]
  | fixInput c _ _ | clearInput c _ => [c]
  | subscribe subscriber prerequisite => [subscriber.context, prerequisite.context]
  | linkPorts _ subscriber prerequisite => [subscriber.context, prerequisite.context]

def locations : Operation → List Location
  | noteChange l => [l]
  | subscribe subscriber prerequisite => [subscriber, prerequisite]
  | _ => []

def inputs : Operation → List (String × PortPlace)
  | fixInput c port _ => [("FixInputPort", ⟨c, port⟩)]
  | clearInput c port => [("ClearFixedInputPort", ⟨c, port⟩)]
  | linkPorts .inputToOutput subscriber _ => [("SubscribeInputToOutput", subscriber)]
  | linkPorts .inputToInput subscriber prerequisite =>
      [("SubscribeInputToInput", subscriber), ("SubscribeInputToInput", prerequisite)]
  | _ => []

def outputs : Operation → List (String × PortPlace)
  | linkPorts .inputToOutput _ prerequisite => [("SubscribeInputToOutput", prerequisite)]
  | linkPorts .outputToOutput subscriber prerequisite =>
      [("SubscribeOutputToOutput", subscriber), ("SubscribeOutputToOutput", prerequisite)]
  | _ => []

inductive Refused (t : Tree) (op : Operation) : Error → Prop
  | unknownContext {c : ContextId} (named : c ∈ op.contexts) (unknown : t.contexts[c]? = none) :
      Refused t op (.unknownContext c)
  | unknownTicket {l : Location} {c : Context} (named : l ∈ op.locations)
      (found : t.contexts[l.context]? = some c) (unknown : l.ticket ∉ c.graph.tickets) :
      Refused t op (.unknownTracker l.ticket)
  | noInput {func : String} {p : PortPlace} {c : Context} (named : (func, p) ∈ op.inputs)
      (found : t.contexts[p.context]? = some c) (beyond : c.inputs.length ≤ p.port) :
      Refused t op (.outOfRange .inputPort func p.port c.inputs.length (t.pathname p.context))
  | noOutput {func : String} {p : PortPlace} {c : Context} (named : (func, p) ∈ op.outputs)
      (found : t.contexts[p.context]? = some c) (beyond : c.outputs.length ≤ p.port) :
      Refused t op (.outOfRange .outputPort func p.port c.outputs.length (t.pathname p.context))
  | wrongType {id : ContextId} {port : Nat} {v : Value} {c : Context} {slot : InputSlot}
      {expected actual : String} (fix : op = .fixInput id port v) (found : t.contexts[id]? = some c)
      (declared : c.inputs[port]? = some slot) (mismatch : slot.type.mismatch v = some (expected, actual)) :
      Refused t op
        (.wrongType ⟨"FixInputPort", slot.name, port, t.pathname id⟩ expected actual)

def Settles (t : Tree) (op : Operation) : Prop :=
  match op.inPlace t with
  | .ok _ t' => op.whole t = .ok t'
  | .error e t' => t' = t ∧ op.whole t = .error e ∧ op.Refused t e

end Operation

namespace Tree

variable {t : Tree} {id : ContextId} {port : Nat} {func : String} {e : Error} {l p : Location}

theorem inputSlot_error (refused : t.inputSlot func id port = .error e) :
    (t.contexts[id]? = none ∧ e = .unknownContext id) ∨
      ∃ c, t.contexts[id]? = some c ∧ c.inputs.length ≤ port ∧
        e = .outOfRange .inputPort func port c.inputs.length (t.pathname id) := by
  simp only [inputSlot, bind, Except.bind] at refused
  cases found : t.contexts[id]? with
  | none => exact .inl ⟨rfl, by simpa [Tree.context, found] using refused.symm⟩
  | some c =>
      rw [context_eq_ok_iff.mpr found] at refused
      cases declared : c.inputs[port]? with
      | none =>
          refine .inr ⟨c, rfl, List.getElem?_eq_none_iff.mp declared, ?_⟩
          simpa [declared, throw, throwThe, MonadExceptOf.throw] using refused.symm
      | some slot => simp [declared, pure, Except.pure] at refused

theorem spreadInPlace (wf : t.WellFormed) (tracked : t.Tracks l) :
    ∃ s, t.spread l = .ok s ∧ discard (noteChangeInPlace l) t = .ok () s.tree := by
  obtain ⟨t', n, noted, inPlace⟩ := noteChangeInPlace_ok wf tracked
  refine ⟨⟨t', l, n⟩, ?_, ?_⟩
  · simp [Tree.spread, noted, bind, Except.bind, pure, Except.pure]
  · simp [discard, Functor.discard, Functor.mapConst, EStateM.map, inPlace]

theorem outputLocation_error (refused : t.outputLocation func id port = .error e) :
    (t.contexts[id]? = none ∧ e = .unknownContext id) ∨
      ∃ c, t.contexts[id]? = some c ∧ c.outputs.length ≤ port ∧
        e = .outOfRange .outputPort func port c.outputs.length (t.pathname id) := by
  simp only [outputLocation, bind, Except.bind] at refused
  cases found : t.contexts[id]? with
  | none => exact .inl ⟨rfl, by simpa [Tree.context, found] using refused.symm⟩
  | some c =>
      rw [context_eq_ok_iff.mpr found] at refused
      cases declared : c.outputs[port]? with
      | none =>
          refine .inr ⟨c, rfl, List.getElem?_eq_none_iff.mp declared, ?_⟩
          simpa [declared, throw, throwThe, MonadExceptOf.throw] using refused.symm
      | some slot => simp [declared, pure, Except.pure] at refused

theorem inputLocation_eq : t.inputLocation func id port =
    (t.inputSlot func id port).map fun slot => ⟨id, slot.ticket⟩ := by
  simp only [inputLocation, bind, Except.bind]
  cases t.inputSlot func id port <;> rfl

theorem Furnished.inputLocation (h : t.Furnished) (known : t.inputLocation func id port = .ok l) :
    t.Tracks l := by
  rw [inputLocation_eq] at known
  cases declared : t.inputSlot func id port with
  | error e => simp [declared, Except.map] at known
  | ok slot =>
      obtain ⟨c, found, listed⟩ := inputSlot_eq_ok_iff.mp declared
      simp only [declared, Except.map, Except.ok.injEq] at known
      exact known ▸ ⟨c, found, (h id c found).inputs slot (List.mem_of_getElem? listed)⟩

theorem Furnished.outputLocation (h : t.Furnished) (known : t.outputLocation func id port = .ok l) :
    t.Tracks l := by
  simp only [Tree.outputLocation, bind, Except.bind] at known
  cases found : t.contexts[id]? with
  | none => simp [Tree.context, found] at known
  | some c =>
      rw [context_eq_ok_iff.mpr found] at known
      cases listed : c.outputs[port]? with
      | none => simp [listed, throw, throwThe, MonadExceptOf.throw] at known
      | some ticket =>
          simp only [listed, pure, Except.pure, Except.ok.injEq] at known
          exact known ▸ ⟨c, found, (h id c found).outputs ticket (List.mem_of_getElem? listed)⟩

theorem linkPorts_eq {kind : LinkKind} {subscriber prerequisite : PortPlace} :
    t.linkPorts kind subscriber prerequisite =
      (t.linkEnds kind subscriber prerequisite).bind fun ends => t.subscribe ends.1 ends.2 := by
  cases kind
  all_goals
    simp only [linkPorts, linkEnds, bind, Except.bind]
    split
    · rfl
    · split <;> rfl

theorem Furnished.spread_setFixed {slot : InputSlot} (h : t.Furnished) (wf : t.WellFormed)
    (known : t.inputSlot func id port = .ok slot) (v : Option Value) :
    ∃ s, (t.setFixed id port v).spread ⟨id, slot.ticket⟩ = .ok s ∧
      discard (noteChangeInPlace ⟨id, slot.ticket⟩) (t.setFixed id port v) = .ok () s.tree := by
  obtain ⟨c, found, listed⟩ := inputSlot_eq_ok_iff.mp known
  have tracked : t.Tracks ⟨id, slot.ticket⟩ :=
    ⟨c, found, (h id c found).inputs slot (List.mem_of_getElem? listed)⟩
  exact spreadInPlace (wf.setFixed v) (tracked.modifyContext fun _ _ => List.Subset.refl _)

end Tree

namespace Operation

variable {t : Tree}

theorem settles_of_ok {op : Operation} {t' : Tree} (inPlace : op.inPlace t = .ok () t')
    (whole : op.whole t = .ok t') : op.Settles t := by
  simp only [Settles, inPlace, whole]

theorem settles_of_error {op : Operation} {e : Error} (inPlace : op.inPlace t = .error e t)
    (whole : op.whole t = .error e) (refused : op.Refused t e) : op.Settles t := by
  simp only [Settles, inPlace, whole, refused, true_and]

theorem refused_of_requireTracker {op : Operation} {l : Location} {e : Error}
    (context : l.context ∈ op.contexts) (location : l ∈ op.locations)
    (failed : t.requireTracker l = .error e) : op.Refused t e := by
  rcases Tree.requireTracker_error failed with ⟨unknown, rfl⟩ | ⟨c, found, unknown, rfl⟩
  · exact .unknownContext context unknown
  · exact .unknownTicket location found unknown

theorem refused_of_inputSlot {op : Operation} {func : String} {id : ContextId} {port : Nat} {e : Error}
    (context : id ∈ op.contexts) (input : (func, ⟨id, port⟩) ∈ op.inputs)
    (failed : t.inputSlot func id port = .error e) : op.Refused t e := by
  rcases Tree.inputSlot_error failed with ⟨unknown, rfl⟩ | ⟨c, found, beyond, rfl⟩
  · exact .unknownContext context unknown
  · exact .noInput input found beyond

theorem settles_noteChange (wf : t.WellFormed) (l : Location) : (noteChange l).Settles t := by
  cases known : t.requireTracker l with
  | ok _ =>
      obtain ⟨s, spread, inPlace⟩ := Tree.spreadInPlace wf (Tree.requireTracker_eq_ok_iff.mp known)
      exact settles_of_ok inPlace (by simp [whole, spread, Except.map])
  | error e =>
      obtain ⟨noted, inPlace⟩ := Tree.noteChange_refused known
      refine settles_of_error ?_ ?_
        (refused_of_requireTracker (by simp [contexts]) (by simp [locations]) known)
      · simp [Operation.inPlace, discard, Functor.discard, Functor.mapConst, EStateM.map, inPlace]
      · simp [whole, Tree.spread, noted, bind, Except.bind, Except.map]

theorem settles_fixInput (wf : t.WellFormed) (furnished : t.Furnished) (c : ContextId) (port : Nat)
    (v : Value) : (fixInput c port v).Settles t := by
  have start : (fixInput c port v).inPlace t = Tree.fixInPlace c port v t := rfl
  simp only [Tree.fixInPlace, Attempt.get_bind] at start
  cases known : t.inputSlot "FixInputPort" c port with
  | error e =>
      rw [known, Attempt.ofExcept_error_bind] at start
      refine settles_of_error start ?_
        (refused_of_inputSlot (by simp [contexts]) (by simp [inputs]) known)
      simp [whole, Tree.fixInput, known, bind, Except.bind, Except.map]
  | ok slot =>
      obtain ⟨context, found, declared⟩ := Tree.inputSlot_eq_ok_iff.mp known
      rw [known, Attempt.ofExcept_ok_bind] at start
      cases fits : slot.type.mismatch v with
      | some types =>
          rw [fits] at start
          refine settles_of_error start ?_ (.wrongType rfl found declared fits)
          simp [whole, Tree.fixInput, known, bind, Except.bind, Except.map, fits, throw, throwThe,
            MonadExceptOf.throw]
      | none =>
          obtain ⟨s, spread, inPlace⟩ := furnished.spread_setFixed wf known (some v)
          simp only [fits, Attempt.set_bind, inPlace] at start
          refine settles_of_ok start ?_
          simp [whole, Tree.fixInput, known, bind, Except.bind, Except.map, fits, spread]

theorem settles_clearInput (wf : t.WellFormed) (furnished : t.Furnished) (c : ContextId) (port : Nat) :
    (clearInput c port).Settles t := by
  have start : (clearInput c port).inPlace t = Tree.clearInPlace c port t := rfl
  simp only [Tree.clearInPlace, Attempt.get_bind] at start
  cases known : t.inputSlot "ClearFixedInputPort" c port with
  | error e =>
      rw [known, Attempt.ofExcept_error_bind] at start
      refine settles_of_error start ?_
        (refused_of_inputSlot (by simp [contexts]) (by simp [inputs]) known)
      simp [whole, Tree.clearInput, known, bind, Except.bind, Except.map]
  | ok slot =>
      rw [known, Attempt.ofExcept_ok_bind] at start
      cases fixed : slot.fixed with
      | none =>
          simp only [fixed] at start
          refine settles_of_ok start ?_
          simp [whole, Tree.clearInput, known, bind, Except.bind, Except.map, fixed, pure, Except.pure]
      | some v =>
          obtain ⟨s, spread, inPlace⟩ := furnished.spread_setFixed wf known none
          simp only [fixed, Option.isSome_some, if_true, Attempt.set_bind, inPlace] at start
          refine settles_of_ok start ?_
          simp [whole, Tree.clearInput, known, bind, Except.bind, Except.map, fixed, spread, pure,
            Except.pure]

theorem subscribe_tracked {l p : Location} (wf : t.WellFormed) (known : t.Tracks l)
    (known' : t.Tracks p) :
    ∃ s, t.subscribe l p = .ok s ∧ Tree.subscribeInPlace l p t = .ok () s.tree := by
  obtain ⟨s, spread, inPlace⟩ := Tree.spreadInPlace (wf.linked known known') known
  refine ⟨s, ?_, ?_⟩
  · simpa [Tree.subscribe, Tree.requireTracker_eq_ok_iff.mpr known,
      Tree.requireTracker_eq_ok_iff.mpr known', bind, Except.bind, Tree.linked] using spread
  · simp only [Tree.subscribeInPlace, Attempt.get_bind, Tree.requireTracker_eq_ok_iff.mpr known,
      Tree.requireTracker_eq_ok_iff.mpr known', Attempt.ofExcept_ok_bind, Attempt.set_bind, inPlace]

theorem settles_subscribe (wf : t.WellFormed) (l p : Location) : (subscribe l p).Settles t := by
  have start : (subscribe l p).inPlace t = Tree.subscribeInPlace l p t := rfl
  simp only [Tree.subscribeInPlace, Attempt.get_bind] at start
  cases first : t.requireTracker l with
  | error e =>
      rw [first, Attempt.ofExcept_error_bind] at start
      refine settles_of_error start ?_
        (refused_of_requireTracker (by simp [contexts]) (by simp [locations]) first)
      simp [whole, Tree.subscribe, first, bind, Except.bind, Except.map]
  | ok _ =>
      rw [first, Attempt.ofExcept_ok_bind] at start
      cases second : t.requireTracker p with
      | error e =>
          rw [second, Attempt.ofExcept_error_bind] at start
          refine settles_of_error start ?_
            (refused_of_requireTracker (by simp [contexts]) (by simp [locations]) second)
          simp [whole, Tree.subscribe, first, second, bind, Except.bind, Except.map]
      | ok _ =>
          obtain ⟨s, made, inPlace⟩ := subscribe_tracked wf (Tree.requireTracker_eq_ok_iff.mp first)
            (Tree.requireTracker_eq_ok_iff.mp second)
          exact settles_of_ok inPlace (by simp [whole, made, Except.map])

theorem pair_error {α : Type} {x y : Except Error α} {e : Error}
    (failed : (do
      let a ← x
      let b ← y
      return (a, b)) = .error e) : x = .error e ∨ y = .error e := by
  cases x with
  | error e' =>
      cases failed
      exact .inl rfl
  | ok a =>
      cases y with
      | error e' =>
          cases failed
          exact .inr rfl
      | ok b => cases failed

theorem pair_ok {α : Type} {x y : Except Error α} {a b : α}
    (made : (do
      let a ← x
      let b ← y
      return (a, b)) = .ok (a, b)) : x = .ok a ∧ y = .ok b := by
  cases x with
  | error e => cases made
  | ok a =>
      cases y with
      | error e => cases made
      | ok b =>
          cases made
          exact ⟨rfl, rfl⟩

theorem refused_of_inputLocation {op : Operation} {func : String} {p : PortPlace} {e : Error}
    (context : p.context ∈ op.contexts) (input : (func, p) ∈ op.inputs)
    (failed : t.inputLocation func p.context p.port = .error e) : op.Refused t e := by
  rw [Tree.inputLocation_eq] at failed
  cases declared : t.inputSlot func p.context p.port with
  | error e' =>
      rw [declared] at failed
      cases failed
      exact refused_of_inputSlot context input declared
  | ok slot => simp [declared, Except.map] at failed

theorem refused_of_outputLocation {op : Operation} {func : String} {p : PortPlace} {e : Error}
    (context : p.context ∈ op.contexts) (output : (func, p) ∈ op.outputs)
    (failed : t.outputLocation func p.context p.port = .error e) : op.Refused t e := by
  rcases Tree.outputLocation_error failed with ⟨unknown, rfl⟩ | ⟨c, found, beyond, rfl⟩
  · exact .unknownContext context unknown
  · exact .noOutput output found beyond

theorem refused_of_linkEnds {kind : LinkKind} {subscriber prerequisite : PortPlace} {e : Error}
    (failed : t.linkEnds kind subscriber prerequisite = .error e) :
    (linkPorts kind subscriber prerequisite).Refused t e := by
  have first : subscriber.context ∈ (linkPorts kind subscriber prerequisite).contexts :=
    List.mem_cons_self
  have second : prerequisite.context ∈ (linkPorts kind subscriber prerequisite).contexts :=
    List.mem_cons_of_mem _ List.mem_cons_self
  cases kind with
  | inputToOutput =>
      rcases pair_error failed with failed | failed
      · exact refused_of_inputLocation first (by simp [inputs]) failed
      · exact refused_of_outputLocation second (by simp [outputs]) failed
  | inputToInput =>
      rcases pair_error failed with failed | failed
      · exact refused_of_inputLocation first (by simp [inputs]) failed
      · exact refused_of_inputLocation second (by simp [inputs]) failed
  | outputToOutput =>
      rcases pair_error failed with failed | failed
      · exact refused_of_outputLocation first (by simp [outputs]) failed
      · exact refused_of_outputLocation second (by simp [outputs]) failed

theorem tracks_of_linkEnds {kind : LinkKind} {subscriber prerequisite : PortPlace} {l p : Location}
    (furnished : t.Furnished) (known : t.linkEnds kind subscriber prerequisite = .ok (l, p)) :
    t.Tracks l ∧ t.Tracks p := by
  cases kind with
  | inputToOutput =>
      obtain ⟨first, second⟩ := pair_ok known
      exact ⟨furnished.inputLocation first, furnished.outputLocation second⟩
  | inputToInput =>
      obtain ⟨first, second⟩ := pair_ok known
      exact ⟨furnished.inputLocation first, furnished.inputLocation second⟩
  | outputToOutput =>
      obtain ⟨first, second⟩ := pair_ok known
      exact ⟨furnished.outputLocation first, furnished.outputLocation second⟩

theorem settles_linkPorts (wf : t.WellFormed) (furnished : t.Furnished) (kind : LinkKind)
    (subscriber prerequisite : PortPlace) : (linkPorts kind subscriber prerequisite).Settles t := by
  have start : (linkPorts kind subscriber prerequisite).inPlace t =
      Tree.linkInPlace kind subscriber prerequisite t := rfl
  simp only [Tree.linkInPlace, Attempt.get_bind] at start
  cases known : t.linkEnds kind subscriber prerequisite with
  | error e =>
      rw [known, Attempt.ofExcept_error_bind] at start
      refine settles_of_error start ?_ (refused_of_linkEnds known)
      simp [whole, Tree.linkPorts_eq, known, Except.bind, Except.map]
  | ok ends =>
      obtain ⟨first, second⟩ := tracks_of_linkEnds furnished known
      rw [known, Attempt.ofExcept_ok_bind] at start
      obtain ⟨s, made, inPlace⟩ := subscribe_tracked wf first second
      refine settles_of_ok (start.trans inPlace) ?_
      simp [whole, Tree.linkPorts_eq, known, Except.bind, made, Except.map]

theorem settles (wf : t.WellFormed) (furnished : t.Furnished) (op : Operation) : op.Settles t := by
  cases op with
  | noteChange l => exact settles_noteChange wf l
  | fixInput c port v => exact settles_fixInput wf furnished c port v
  | clearInput c port => exact settles_clearInput wf furnished c port
  | subscribe l p => exact settles_subscribe wf l p
  | linkPorts kind subscriber prerequisite =>
      exact settles_linkPorts wf furnished kind subscriber prerequisite

theorem discard_spread {f : Tree → Except Error Spread} {r : Run} :
    discard (Run.spread f) r = match f r.tree with
      | .ok s => .ok () (r.after s)
      | .error e => .error e r := by
  simp only [discard, Functor.discard, Functor.mapConst, EStateM.map, Function.comp, Run.spread]
  cases f r.tree <;> rfl

theorem discard_noteChange {l : Location} {r : Run} :
    discard (Run.noteChange l) r = discard (Run.spread (·.spread l)) r := by
  simp only [discard, Functor.discard, Functor.mapConst, EStateM.map, Function.comp, Run.noteChange,
    bind_apply]
  cases Run.spread (·.spread l) r <;> rfl

theorem run_whole (op : Operation) (r : Run) :
    match op.whole r.tree with
    | .ok t => ∃ r', op.run r = .ok () r' ∧ r'.tree = t
    | .error e => op.run r = .error e r := by
  have spread (f : Tree → Except Error Spread) :
      match (f r.tree).map (·.tree) with
      | .ok t => ∃ r', discard (Run.spread f) r = .ok () r' ∧ r'.tree = t
      | .error e => discard (Run.spread f) r = .error e r := by
    rw [discard_spread]
    cases f r.tree with
    | ok s => exact ⟨r.after s, rfl, rfl⟩
    | error e => rfl
  cases op with
  | noteChange l =>
      simp only [run, discard_noteChange]
      exact spread (·.spread l)
  | fixInput c port v => exact spread (·.fixInput c port v)
  | clearInput c port =>
      simp only [whole, run, Run.clearInput]
      rcases r.tree.clearInput c port with e | _ | s
      · rfl
      · exact ⟨r, rfl, rfl⟩
      · exact ⟨r.after s, rfl, rfl⟩
  | subscribe l p => exact spread (·.subscribe l p)
  | linkPorts kind l p => exact spread (·.linkPorts kind l p)

end Operation

namespace Session

variable {s : Session}

/-- In a session, an operation on values or links that is made step by step either ends as the
operation of the session does, or fails before its first step, the session's operation with it, and
an argument names what does not exist or does not fit. -/
theorem Reachable.all_or_nothing (h : s.Reachable) (op : Operation) :
    match op.inPlace s.tree with
    | .ok _ t => ∃ r, op.run s.run = .ok () r ∧ r.tree = t
    | .error e t => t = s.tree ∧ op.run s.run = .error e s.run ∧ op.Refused s.tree e := by
  have settles : op.Settles s.tree := Operation.settles h.wellFormed h.furnished op
  have ran := op.run_whole s.run
  simp only [Operation.Settles] at settles
  cases result : op.inPlace s.tree with
  | ok u t =>
      rw [result] at settles
      simpa only [show op.whole s.run.tree = _ from settles] using ran
  | error e t =>
      rw [result] at settles
      obtain ⟨same, failed, refused⟩ := settles
      exact ⟨same, by simpa only [show op.whole s.run.tree = _ from failed] using ran, refused⟩

def plugged : Session := (start {} [] {}).perform
  [.addSystem "plug" "Plug" "", .declare 0 (.input "u" (.vector 1)), .createContext 0 none]

theorem plugged_all_or_nothing : plugged.Reachable ∧ ∃ t,
    (Operation.subscribe ⟨0, 13⟩ ⟨0, 14⟩).inPlace plugged.tree = .error (.unknownTracker 14) t ∧
      t = plugged.tree ∧
      (Operation.subscribe ⟨0, 13⟩ ⟨0, 14⟩).run plugged.run = .error (.unknownTracker 14) plugged.run := by
  have reachable : plugged.Reachable := (Reachable.start {} [] {}).perform _
  have failed := error_of_refusal? (f := (Operation.subscribe ⟨0, 13⟩ ⟨0, 14⟩).inPlace)
    (s := plugged.tree) (e := .unknownTracker 14) (by decide +kernel)
  have outcome := reachable.all_or_nothing (.subscribe ⟨0, 13⟩ ⟨0, 14⟩)
  rw [failed] at outcome
  exact ⟨reachable, _, failed, outcome.1, outcome.2.1⟩

end Session

end Dataflow
