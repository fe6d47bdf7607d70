import Dataflow.Proofs.Evaluation.Slots
import Dataflow.Proofs.Tree.Skeleton
import Dataflow.Session

namespace Dataflow

namespace Evaluation

theorem rests_of_balanced {r r' : Run} (h : Balanced r r') : r.tree.Rests r'.tree := by
  refine ⟨Tree.size_of_outline h.1.1, fun c context found => ?_⟩
  obtain ⟨context', found', outline⟩ := Tree.contexts_of_outline h.1.1 found
  refine ⟨context', found', Context.skeleton_of_outline outline, fun filled slot' mem' => ?_⟩
  obtain ⟨i, foundSlot'⟩ := List.mem_iff_getElem?.mp mem'
  obtain ⟨slot, foundSlot, -⟩ := Tree.slot_of_outline outline.symm foundSlot'
  have before : (c, i) ∈ r.tree.filled := by
    simpa [Tree.mem_filled_iff, Tree.value?, found, Context.value?, foundSlot] using
      filled slot (List.mem_of_getElem? foundSlot)
  rw [← h.2] at before
  simpa [Tree.mem_filled_iff, Tree.value?, found', Context.value?, foundSlot'] using before

end Evaluation

namespace Run

variable {f : Tree → Except Error Spread} {id : SystemId} {c : ContextId} {b : Blueprint}

def Safe (r r' : Run) : Prop :=
  r.tree.WellFormed → r'.tree.WellFormed ∧ r.tree.Retains r'.tree

theorem Safe.refl (r : Run) : Safe r r := fun wf => ⟨wf, Tree.Retains.frame.refl _⟩

theorem Safe.frame : Frame Safe where
  refl := Safe.refl
  trans first later wf := by
    obtain ⟨wf, retains⟩ := first wf
    obtain ⟨wf, retains'⟩ := later wf
    exact ⟨wf, Tree.Retains.frame.trans retains retains'⟩

def Rests (r r' : Run) : Prop :=
  r.tree.WellFormed → r'.tree.WellFormed ∧ r.tree.Rests r'.tree

theorem Rests.safe {r r' : Run} (h : Rests r r') : Safe r r' := fun wf =>
  (h wf).imp_right Tree.Rests.retains

theorem Rests.refl (r : Run) : Rests r r := fun wf => ⟨wf, Tree.Rests.frame.refl _⟩

theorem Rests.frame : Frame Rests where
  refl := Rests.refl
  trans first later wf := by
    obtain ⟨wf, rests⟩ := first wf
    obtain ⟨wf, rests'⟩ := later wf
    exact ⟨wf, Tree.Rests.frame.trans rests rests'⟩

theorem stateAfter_noteChange {r : Run} {l : Location} :
    stateAfter (noteChange l) r = stateAfter (spread (·.spread l)) r := by
  simp only [stateAfter, noteChange, bind_apply]
  cases spread (·.spread l) r <;> rfl

theorem stateAfter_spread {r : Run} {P : Run → Prop} (ok : ∀ s, f r.tree = .ok s → P (r.after s))
    (failed : P r) : P (stateAfter (spread f) r) := by
  simp only [stateAfter, spread]
  cases made : f r.tree with
  | ok s => exact ok s made
  | error e => exact failed

theorem stateAfter_clearInput {r : Run} {port : Nat} {P : Run → Prop}
    (ok : ∀ s, r.tree.clearInput c port = .ok (some s) → P (r.after s)) (idle : P r) :
    P (stateAfter (clearInput c port) r) := by
  simp only [stateAfter, clearInput]
  rcases made : r.tree.clearInput c port with e | _ | s
  · exact idle
  · exact idle
  · exact ok s made

theorem stateAfter_onTree {f : Tree → Except Error Tree} {r : Run} {P : Run → Prop}
    (ok : ∀ t, f r.tree = .ok t → P { r with tree := t })
    (failed : ∀ e, f r.tree = .error e → P r) : P (stateAfter (onTree f) r) := by
  simp only [stateAfter, onTree, Attempt.step, bind, Except.bind]
  cases made : f r.tree with
  | ok t => exact ok t made
  | error e => exact failed e made

theorem rests_spread
    (h : ∀ t s, t.WellFormed → f t = .ok s → s.tree.WellFormed ∧ t.Rests s.tree) :
    Keeps Rests (spread f) := by
  intro r
  apply stateAfter_spread
  · intro s made wf
    exact h r.tree s wf made
  · exact Rests.refl r

theorem rests_noteChange (l : Location) : Keeps Rests (noteChange l) :=
  .bind Rests.frame (rests_spread fun _ _ wf made => ⟨wf.spread made, Tree.rests_spread made⟩)
    fun _ => .pure Rests.frame _

theorem rests_fixInput (port : Nat) (v : Value) : Keeps Rests (fixInput c port v) :=
  .discard <| rests_spread fun _ _ wf made => ⟨wf.fixInput made, Tree.rests_fixInput made⟩

theorem rests_clearInput (port : Nat) : Keeps Rests (clearInput c port) := by
  intro r
  apply stateAfter_clearInput
  · intro s made wf
    exact ⟨wf.clearInput made, Tree.rests_clearInput made⟩
  · exact Rests.refl r

theorem rests_subscribe (subscriber prerequisite : Location) :
    Keeps Rests (subscribe subscriber prerequisite) :=
  .discard <| rests_spread fun _ _ wf made => ⟨wf.subscribe made, Tree.rests_subscribe made⟩

theorem rests_linkPorts (kind : LinkKind) (subscriber prerequisite : PortPlace) :
    Keeps Rests (linkPorts kind subscriber prerequisite) :=
  .discard <| rests_spread fun _ _ wf made => ⟨wf.linkPorts made, Tree.rests_linkPorts made⟩

theorem rests_onTree {f : Tree → Except Error Tree}
    (h : ∀ t t', t.WellFormed → f t = .ok t' → t'.WellFormed ∧ t.Rests t') :
    Keeps Rests (onTree f) := by
  intro r
  apply stateAfter_onTree
  · intro t made wf
    exact h r.tree t wf made
  · intro e _
    exact Rests.refl r

theorem safe_addContext (parent : Option ContextId) : Keeps Safe (addContext parent) := by
  have frame := Safe.frame
  have grown : Keeps Safe (onTree (·.addContext parent)) := by
    intro r
    apply stateAfter_onTree
    · intro t made wf
      exact ⟨wf.addContext made, Tree.retains_addContext made⟩
    · intro e _
      exact Safe.refl r
  exact .bind frame (.get frame) fun _ => .bind frame grown fun _ => .pure frame _

theorem safe_setUp : Keeps Safe (setUp b id c) := by
  intro r wf
  have grows := Context.grows_setUp id (b.system id) (b.pathname id)
  have kept : (stateAfter (Tree.onContext c _) r.tree).WellFormed :=
    Tree.wellFormed_onContext grows r.tree wf
  have retained : r.tree.Retains
      (stateAfter (Tree.onContext c (Context.setUp id (b.system id) (b.pathname id))) r.tree) :=
    Tree.retains_setUp r.tree
  simp only [stateAfter, setUp] at kept retained ⊢
  cases result : Tree.onContext c (Context.setUp id (b.system id) (b.pathname id)) r.tree with
  | error e t =>
      simp only [result] at kept retained
      exact ⟨kept, retained⟩
  | ok u t =>
      simp only [result] at kept retained
      cases found : t.contexts[c]? <;> simpa [found, note] using And.intro kept retained

theorem safe_createContext (parent : Option ContextId) : Keeps Safe (createContext b id parent) :=
  .bind Safe.frame (safe_addContext parent) fun _ =>
    .bind Safe.frame safe_setUp fun _ => .pure Safe.frame _

end Run

def Action.builds : Action → Bool
  | .addContext _ | .setUp .. | .createContext .. => true
  | _ => false

namespace Session

variable {s : Session}

theorem rests_apply (a : Action) (builds : a.builds = false) : Run.Rests s.run (s.apply a).run := by
  have slots (c : ContextId) (f : Slot → Slot) (undated : Slot.Undated f)
      (skeleton : ∀ slot, (f slot).skeleton = slot.skeleton) (value : ∀ slot, (f slot).value = slot.value)
      (index : Option Nat) : Run.Rests s.run (s.onCache c (·.onSlots index f)).run := by
    refine Run.rests_onTree (fun t t' wf made => ?_) s.run
    obtain rfl := Except.ok.inj made
    exact ⟨wf.modifyCache undated index,
      Tree.rests_modifyContext fun context _ => context.rests_onSlots skeleton value index⟩
  cases a with
  | addContext | setUp | createContext => cases builds
  | addSystem | declare | addDiagram | removeDiagram | setParent | setCell => exact Run.Rests.refl s.run
  | warn id kind index =>
      intro wf
      simpa only [apply, Evaluation.tree_reportPort] using Run.Rests.refl s.run wf
  | noteChange l => exact Run.rests_noteChange l s.run
  | fixInput c port v => exact Run.rests_fixInput port v s.run
  | clearInput c port => exact Run.rests_clearInput port s.run
  | subscribe subscriber prerequisite => exact Run.rests_subscribe subscriber prerequisite s.run
  | linkPorts kind subscriber prerequisite =>
      exact Run.rests_linkPorts kind subscriber prerequisite s.run
  | enable c index =>
      exact slots c Slot.enable Tree.undated_enable (fun _ => rfl) (fun _ => rfl) index
  | disable c index =>
      exact slots c Slot.disable Tree.undated_disable (fun _ => rfl) (fun _ => rfl) index
  | markOutOfDate c =>
      exact slots c Slot.markOutOfDate Tree.undated_markOutOfDate (fun _ => rfl) (fun _ => rfl) none
  | enableBelow c =>
      exact Run.rests_onTree
        (fun _ _ wf made => ⟨wf.enableCaching made, Tree.rests_enableCaching made⟩) s.run
  | disableBelow c =>
      exact Run.rests_onTree
        (fun _ _ wf made => ⟨wf.disableCaching made, Tree.rests_disableCaching made⟩) s.run
  | evaluate id c q =>
      intro wf
      have kept : Evaluation.Balanced s.run (stateAfter (evaluate s.blueprint id c q) s.run) :=
        Evaluation.keeps_evaluate (Evaluation.balanced s.blueprint) q s.run
      exact ⟨kept.1.2 wf, Evaluation.rests_of_balanced kept⟩

theorem safe_apply (a : Action) : Run.Safe s.run (s.apply a).run := by
  cases builds : a.builds with
  | false => exact (rests_apply a builds).safe
  | true =>
      cases a with
      | addContext parent => exact Run.safe_addContext parent s.run
      | setUp id c => exact Run.safe_setUp s.run
      | createContext id parent => exact Run.safe_createContext parent s.run
      | _ => cases builds

theorem wellFormed_apply (h : s.tree.WellFormed) (a : Action) : (s.apply a).tree.WellFormed :=
  (safe_apply a h).1

theorem perform_append (actions more : List Action) :
    s.perform (actions ++ more) = (s.perform actions).perform more := List.foldl_append

theorem safe_perform (actions : List Action) : Run.Safe s.run (s.perform actions).run :=
  (Run.Safe.frame.on Session.run).foldl (fun _ => safe_apply) actions s

theorem wellFormed_perform (h : s.tree.WellFormed) (actions : List Action) :
    (s.perform actions).tree.WellFormed := by
  induction actions generalizing s with
  | nil => exact h
  | cons a rest ih => exact ih (wellFormed_apply h a)

theorem Reachable.wellFormed (h : s.Reachable) : s.tree.WellFormed := by
  induction h with
  | start config cells notices =>
      exact ⟨fun _ mem => (List.not_mem_nil mem).elim, fun _ mem => (List.not_mem_nil mem).elim,
        fun _ _ step => by simp [tree, Session.start, Tree.parent?] at step⟩
  | apply a _ ih => exact wellFormed_apply ih a

end Session

end Dataflow
