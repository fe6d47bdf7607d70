import Dataflow.Proofs.Contents
import Dataflow.Proofs.Freshness.Changes
import Dataflow.Proofs.Freshness.Evaluation
import Dataflow.Proofs.Freshness.SetUp

namespace Dataflow
open Evaluation

variable {c : ContextId} {i : Nat}

namespace Run

variable {r r' : Run} {b : Blueprint} {id : SystemId} {m? : Option Moment}

theorem lived_spread {f : Tree → Except Error Spread} (h : ∀ s, f r.tree = .ok s →
      ∃ m, m? = some m ∧ ∀ c i, s.tree.Current c i ↔ Settled c i [m] (r.tree.Current c i)) :
    Lived (if succeeds (spread f) r then m? else none).toList r (stateAfter (spread f) r) := by
  cases made : f r.tree with
  | ok s =>
      have result : spread f r = .ok s (r.after s) := by simp only [spread, made]
      obtain ⟨m, rfl, settled⟩ := h s made
      simp only [succeeds, stateAfter, result]
      exact settled
  | error e =>
      have result : spread f r = .error e r := by simp only [spread, made]
      simp only [succeeds, stateAfter, result]
      exact lived_of_same fun _ _ => .rfl

theorem succeeds_noteChange {l : Location} :
    succeeds (noteChange l) r = succeeds (spread (·.spread l)) r := by
  simp only [succeeds, noteChange, bind_apply]
  cases spread (·.spread l) r <;> rfl

theorem lived_discard {f : Tree → Except Error Spread} (h : ∀ s, f r.tree = .ok s →
      ∃ m, m? = some m ∧ ∀ c i, s.tree.Current c i ↔ Settled c i [m] (r.tree.Current c i)) :
    Lived (if succeeds (discard (spread f)) r then m? else none).toList r
      (stateAfter (discard (spread f)) r) := by
  have same : succeeds (discard (spread f)) r = succeeds (spread f) r := by
    simp only [succeeds, discard, Functor.discard, Functor.mapConst, EStateM.map, Function.comp]
    cases spread f r <;> rfl
  rw [same, discard, ← Functor.discard, stateAfter_discard]
  exact lived_spread h

theorem lived_onTree {f : Tree → Except Error Tree} {moments : List Moment}
    (h : ∀ t, f r.tree = .ok t → ∀ c i, t.Current c i ↔ Settled c i moments (r.tree.Current c i))
    (failed : (∃ e, f r.tree = .error e) →
      ∀ c i, r.tree.Current c i ↔ Settled c i moments (r.tree.Current c i)) :
    Lived moments r (stateAfter (onTree f) r) := by
  apply stateAfter_onTree
  · exact h
  · exact fun e made => failed ⟨e, made⟩

theorem quiet_onTree {f : Tree → Except Error Tree}
    (h : ∀ t, f r.tree = .ok t → ∀ c i, t.Current c i ↔ r.tree.Current c i) :
    Lived [] r (stateAfter (onTree f) r) :=
  lived_onTree (fun t made c i => (h t made c i).trans settled_nil.symm)
    fun _ _ _ => settled_nil.symm

theorem quiet_setUp (wf : r.tree.WellFormed) : Lived [] r (stateAfter (setUp b id c) r) := by
  have kept (c' : ContextId) (i : Nat) : (stateAfter
      (Tree.onContext c (Context.setUp id (b.system id) (b.pathname id))) r.tree).Current c' i ↔
        r.tree.Current c' i := Tree.current_setUp wf
  simp only [stateAfter, setUp] at kept ⊢
  cases result : Tree.onContext c (Context.setUp id (b.system id) (b.pathname id)) r.tree with
  | error e t =>
      simp only [result] at kept
      exact lived_of_same kept
  | ok u t =>
      simp only [result] at kept
      cases found : t.contexts[c]? <;> simpa only [found] using lived_of_same kept

theorem quiet_addContext {parent : Option ContextId} :
    Lived [] r (stateAfter (addContext parent) r) := by
  have added : stateAfter (addContext parent) r = stateAfter (onTree (·.addContext parent)) r := by
    simp only [stateAfter, addContext, bind_apply, get_apply]
    cases onTree (·.addContext parent) r <;> rfl
  rw [added]
  exact quiet_onTree fun t made c i => Tree.current_addContext made

theorem quiet_createContext {parent : Option ContextId} (wf : r.tree.WellFormed) :
    Lived [] r (stateAfter (createContext b id parent) r) := by
  have frame : Frame fun r r' => Safe r r' ∧ (r.tree.WellFormed → Lived [] r r') :=
    ⟨fun r => ⟨Safe.frame.refl r, fun _ => lived_of_same fun _ _ => .rfl⟩, fun first later =>
      ⟨Safe.frame.trans first.1 later.1, fun wf => (first.2 wf).append (later.2 (first.1 wf).1)⟩⟩
  have whole : Keeps (fun r r' => Safe r r' ∧ (r.tree.WellFormed → Lived [] r r'))
      (createContext b id parent) :=
    .bind frame (fun r => ⟨safe_addContext parent r, fun _ => quiet_addContext⟩) fun c =>
      .bind frame (fun r => ⟨safe_setUp r, fun wf => quiet_setUp wf⟩) fun _ => .pure frame _
  exact (whole r).2 wf

end Run

namespace Session

variable {s : Session} {a : Action} {history : List Moment}

/-- The change that an action notes: where it starts, and in the tree with the links it then has. An
action that fails notes none, and neither does one that takes a value away where none is fixed. -/
def change? (s : Session) : Action → Option Moment
  | .noteChange l => if succeeds (Run.noteChange l) s.run then some (.changed s.tree l) else none
  | .fixInput c port v =>
      if succeeds (Run.fixInput c port v) s.run then
        (s.tree.portTracker? .input ⟨c, port⟩).map (.changed s.tree) else none
  | .clearInput c port =>
      if succeeds (Run.clearInput c port) s.run && (s.tree.fixed? c port).isSome then
        (s.tree.portTracker? .input ⟨c, port⟩).map (.changed s.tree) else none
  | .subscribe l p =>
      if succeeds (Run.subscribe l p) s.run then some (.changed (s.tree.linked l p) l) else none
  | .linkPorts kind subscriber prerequisite =>
      if succeeds (Run.linkPorts kind subscriber prerequisite) s.run then do
        let l ← s.tree.portTracker? kind.ports.1 subscriber
        let p ← s.tree.portTracker? kind.ports.2 prerequisite
        return .changed (s.tree.linked l p) l
      else none
  | _ => none

def moments (s : Session) : Action → List Moment
  | .markOutOfDate c => [.marked c]
  | .enableBelow top => [.markedBelow s.tree top]
  | a => (s.change? a).toList

/-- What the actions, one after the other, do to the values of cache entries: what each of them asks
for, and what comes of the visits that the evaluations make. -/
inductive Lives : Session → List Action → List Moment → Prop
  | nil {s : Session} : Lives s [] []
  | evaluate {s : Session} {id : SystemId} {c : ContextId} {q : Query} {visits : List Visit}
      {rest : List Action} {history : List Moment}
      (makes : Makes s.blueprint id c (.question q) s.run visits)
      (later : Lives (s.apply (.evaluate id c q)) rest history) :
      Lives s (.evaluate id c q :: rest) (visits.filterMap Visit.moment? ++ history)
  | act {s : Session} {a : Action} {rest : List Action} {history : List Moment}
      (quiet : a.evaluates = false) (later : Lives (s.apply a) rest history) :
      Lives s (a :: rest) (s.moments a ++ history)

theorem exists_lives (wf : s.tree.WellFormed) (actions : List Action) :
    ∃ history, s.Lives actions history := by
  induction actions generalizing s with
  | nil => exact ⟨[], .nil⟩
  | cons a rest ih =>
      obtain ⟨history, later⟩ := ih (wellFormed_apply wf a)
      cases evaluates : a.evaluates with
      | false => exact ⟨_, .act evaluates later⟩
      | true =>
          cases a with
          | evaluate id c q =>
              obtain ⟨visits, makes⟩ : ∃ visits, Makes s.blueprint id c (.question q) s.run visits :=
                exists_makes wf
              exact ⟨_, .evaluate makes later⟩
          | _ => cases evaluates

theorem quiet_onCache {f : Cache → Cache}
    (same : ∀ (context : Context) (i : Nat), (context.modifyCache f).Current i ↔ context.Current i) :
    Run.Lived [] s.run (s.onCache c f).run := by
  refine Run.quiet_onTree fun t made c i => ?_
  obtain rfl := Except.ok.inj made
  exact Tree.current_modifyContext_of_iff fun context _ => same context i

theorem lived_clearInput {port : Nat} (wf : s.tree.WellFormed) :
    Run.Lived (s.moments (.clearInput c port)) s.run (s.apply (.clearInput c port)).run := by
  have idle : Run.Lived [] s.run s.run := Run.lived_of_same fun _ _ => .rfl
  show Run.Lived _ s.run (stateAfter (Run.clearInput c port) s.run)
  cases made : s.run.tree.clearInput c port with
  | error e => simpa [moments, change?, succeeds, stateAfter, Run.clearInput, made] using idle
  | ok cleared =>
      have held : (s.tree.fixed? c port).isSome = cleared.isSome := Tree.isSome_fixed?_of_clearInput made
      cases cleared with
      | none => simpa [moments, change?, succeeds, stateAfter, Run.clearInput, made, held] using idle
      | some t =>
          obtain ⟨context, slot, found, listed, spread⟩ := Tree.clearInput_ok made
          have start : s.tree.portTracker? .input ⟨c, port⟩ = some ⟨c, slot.ticket⟩ :=
            Tree.portTracker?_of_input found listed
          simp only [moments, change?, succeeds, stateAfter, Run.clearInput, made, held, start]
          exact fun c i => Tree.current_spread_setFixed wf spread

theorem lived_apply (wf : s.tree.WellFormed) (a : Action) (quiet : a.evaluates = false) :
    Run.Lived (s.moments a) s.run (s.apply a).run := by
  have idle : Run.Lived [] s.run s.run := Run.lived_of_same fun _ _ => .rfl
  cases a with
  | evaluate => cases quiet
  | addSystem | declare | addDiagram | removeDiagram | setParent => exact idle
  | setCell name x => exact Run.lived_of_same fun _ _ => .rfl
  | warn id kind index => exact Run.lived_of_same fun _ _ => by rw [apply, tree_reportPort]
  | addContext parent => exact Run.quiet_addContext
  | setUp id c => exact Run.quiet_setUp wf
  | createContext id parent => exact Run.quiet_createContext wf
  | noteChange l =>
      have noted : Run.Lived (if succeeds (Run.spread (·.spread l)) s.run then
          some (.changed s.tree l) else none).toList s.run (stateAfter (Run.spread (·.spread l)) s.run) :=
        Run.lived_spread fun t made => ⟨_, rfl, fun c i => Tree.current_spread wf made⟩
      rwa [← Run.succeeds_noteChange, ← Run.stateAfter_noteChange] at noted
  | fixInput c port v =>
      refine Run.lived_discard fun t made => ?_
      obtain ⟨context, slot, found, listed, -, spread⟩ := Tree.fixInput_ok made
      have start : s.tree.portTracker? .input ⟨c, port⟩ = some ⟨c, slot.ticket⟩ :=
        Tree.portTracker?_of_input found listed
      exact ⟨_, by rw [start]; rfl, fun c i => Tree.current_spread_setFixed wf spread⟩
  | clearInput c port => exact lived_clearInput wf
  | subscribe l p =>
      exact Run.lived_discard fun t made => ⟨_, rfl, fun c i => Tree.current_subscribe wf made⟩
  | linkPorts kind subscriber prerequisite =>
      refine Run.lived_discard fun t made => ?_
      obtain ⟨l, p, start, origin, made⟩ := Tree.linkPorts_ends made
      refine ⟨.changed (s.tree.linked l p) l, ?_, fun c i => Tree.current_subscribe wf made⟩
      simp [tree, start, origin]
  | enable c index =>
      exact quiet_onCache fun context i =>
        Context.current_onSlots (f := Slot.enable) (fun _ => rfl) (fun _ => rfl) index
  | disable c index =>
      exact quiet_onCache fun context i =>
        Context.current_onSlots (f := Slot.disable) (fun _ => rfl) (fun _ => rfl) index
  | markOutOfDate c =>
      refine Run.lived_onTree (fun t made c' i => ?_) ?_
      · obtain rfl := Except.ok.inj made
        have marked (context : Context) :
            (context.modifyCache (·.markOutOfDate)).Current i ↔ context.Current i ∧ False := by
          rw [and_false, iff_false]
          exact Context.not_current_markOutOfDate
        rw [Tree.current_modifyContext fun context _ => marked context, moments,
          settled_singleton (by simp)]
        rfl
      · rintro ⟨e, failed⟩
        cases failed
  | enableBelow top =>
      refine Run.lived_onTree (fun t made c i => ?_) ?_
      · rw [Tree.current_enableCaching wf made, moments, settled_singleton (by simp)]
        rfl
      · rintro ⟨e, failed⟩ c i
        rw [moments, settled_singleton (by simp)]
        exact (and_iff_left_of_imp (Tree.not_below_of_current wf failed)).symm
  | disableBelow top => exact Run.quiet_onTree fun t made c i => Tree.current_disableCaching made

theorem Lives.lived {actions : List Action} (h : s.Lives actions history) (wf : s.tree.WellFormed) :
    Run.Lived history s.run (s.perform actions).run := by
  induction h with
  | nil => exact Run.lived_of_same fun _ _ => .rfl
  | evaluate makes later ih =>
      exact Run.Lived.append (makes.settles wf) (ih (wellFormed_apply wf _))
  | act quiet later ih => exact (lived_apply wf _ quiet).append (ih (wellFormed_apply wf _))

theorem Lives.current_iff {config : Config} {cells : Cells} {notices : Notices} {actions : List Action}
    (h : (start config cells notices).Lives actions history) :
    ((start config cells notices).perform actions).tree.Current c i ↔ UpToDate c i history := by
  have none : ¬ (start config cells notices).tree.Current c i := by
    rintro ⟨context, found, -⟩
    simp [tree, start] at found
  rw [tree, h.lived (Reachable.start config cells notices).wellFormed c i, Settled, ← tree]
  simp [none]

end Session

end Dataflow
