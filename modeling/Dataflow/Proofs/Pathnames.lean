import Dataflow.Proofs.Hierarchy

/-!
# Pathnames of systems and of their contexts

A system goes up through the diagrams it belongs to, a context goes up to the contexts it was created below,
and names come into contexts once, when they are set up. The two pathnames are the same all the same.
-/

namespace Dataflow

namespace Lineage

variable {α : Type} {parent : α → Option α} {x : α} {line : List α} {bound : Nat}

inductive Line (parent : α → Option α) : α → List α → Prop
  | top {x : α} (root : parent x = none) : Line parent x [x]
  | down {x above : α} {line : List α} (step : parent x = some above) (rest : Line parent above line) :
      Line parent x (line ++ [x])

theorem Line.climbs (h : Line parent x line) :
    ∃ top n, parent top = none ∧ Climbs parent top n x ∧ line.length = n + 1 := by
  induction h with
  | top root => exact ⟨_, 0, root, .here, rfl⟩
  | down step _ ih =>
      obtain ⟨top, n, root, climbs, length⟩ := ih
      exact ⟨top, n + 1, root, .up step climbs, by simp [length]⟩

theorem Line.reverse_ancestors (h : Line parent x line) (enough : line.length ≤ bound + 1) :
    (ancestors parent bound x).reverse = line := by
  induction h generalizing bound with
  | top root => cases bound <;> simp [ancestors, root]
  | @down x above line step rest ih =>
      obtain ⟨top, n, -, -, length⟩ := rest.climbs
      rw [List.length_append, List.length_singleton, length] at enough
      obtain ⟨bound, rfl⟩ := Nat.exists_eq_add_one_of_ne_zero
        (Nat.ne_of_gt (Nat.lt_of_lt_of_le (Nat.succ_pos n) (Nat.le_of_succ_le_succ enough)))
      simp only [ancestors, step, List.reverse_cons]
      rw [ih (length.trans_le (Nat.le_of_succ_le_succ enough))]

theorem Line.lineage {parent : Nat → Option Nat} {x size : Nat} {line : List Nat}
    (inside : ∀ x y, parent x = some y → x < size) (h : Line parent x line) :
    (ancestors parent size x).reverse = line := by
  obtain ⟨top, n, root, climbs, length⟩ := h.climbs
  exact h.reverse_ancestors (length.trans_le (Nat.succ_le_succ (climbs.le root inside)))

end Lineage

namespace Naming

def written (names : List String) : String :=
  String.join (names.map fun name => separator ++ displayName name)

theorem pathname_eq_written (names : List String) : pathname names = written names := by
  induction names using List.reverseRecOn with
  | nil => rfl
  | append_singleton names name ih =>
      simp [pathname_concat, ih, join, written, String.join_append, String.append_assoc]

/-- Pathnames that are written along lines are those put together on the way up. -/
theorem join_of_line {α : Type} {parent : α → Option α} {name path : α → String} {x : α} {line : List α}
    (along : ∀ x line, Lineage.Line parent x line → path x = written (line.map name))
    (h : Lineage.Line parent x line) : path x = join ((parent x).elim "" path) (name x) := by
  rw [along x line h]
  cases h with
  | top root => rw [root]; rfl
  | down step rest =>
      rw [step, Option.elim_some, along _ _ rest, ← pathname_eq_written, ← pathname_eq_written,
        List.map_append, List.map_singleton, pathname_concat]

end Naming

namespace Blueprint

variable {b b' : Blueprint} {id : SystemId} {line : List SystemId}

theorem pathname_of_line (h : Lineage.Line b.parent? id line) :
    b.pathname id = Naming.written (line.map fun x => (b.system x).name) := by
  rw [pathname, lineage, h.lineage fun _ _ => lt_length_of_parent, Naming.pathname_eq_written]

def names (b : Blueprint) : List String := b.systems.map (·.name)

def KeepsNames (b b' : Blueprint) : Prop := b.names <+: b'.names

theorem KeepsNames.frame : Frame KeepsNames where
  refl _ := List.prefix_rfl
  trans := List.IsPrefix.trans

theorem KeepsNames.name (h : b.KeepsNames b') (inside : id < b.systems.length) :
    (b'.system id).name = (b.system id).name := by
  have inside' : id < b'.systems.length :=
    Nat.lt_of_lt_of_le inside (by simpa [names] using h.length_le)
  have same := h.getElem (i := id) (by simpa [names] using inside)
  simpa [names, system, List.getD_eq_getElem?_getD, inside, inside'] using same.symm

theorem names_set {s : System} (name : s.name = (b.system id).name) :
    names { b with systems := b.systems.set id s } = b.names := by
  have again : b.names.set id (b.system id).name = b.names := by
    by_cases inside : id < b.names.length
    · have here : (b.system id).name = b.names[id] := by
        rw [names, List.length_map] at inside
        simp [names, system, List.getD_eq_getElem?_getD, inside]
      rw [here, List.set_getElem_self]
    · exact List.set_eq_of_length_le (Nat.le_of_not_lt inside)
  rw [names, List.map_set, name]
  exact again

theorem names_declare {α : Type} {f : String → Declare α}
    (kept : ∀ pathname s, (stateAfter (f pathname) s).name = s.name) :
    Keeps KeepsNames (declare id f) := by
  intro b
  have made := kept (b.pathname id) (b.system id)
  simp only [KeepsAt, KeepsNames, stateAfter, declare] at made ⊢
  cases result : f (b.pathname id) (b.system id) <;> rw [result] at made <;> rw [names_set made]

theorem names_setParent {diagram : Nat} : Keeps KeepsNames (setParent id diagram) := by
  refine names_declare fun pathname s => ?_
  simp only [stateAfter, Attempt.step]
  cases s.parent.isSome <;> rfl

theorem names_addDiagram {d : Diagram} : KeepsNames b (b.addDiagram d).2 :=
  keeps_addDiagram KeepsNames.frame (fun _ _ => names_setParent) fun b _ => KeepsNames.frame.refl b

end Blueprint

theorem System.Step.name {s s' : System} (h : s.Step s') : s'.name = s.name := by
  cases h <;> rfl

namespace Tree

variable {t : Tree} {c : ContextId} {line : List ContextId}

theorem pathname_of_line (h : Lineage.Line t.parent? c line) :
    t.pathname c = Naming.written (line.map t.systemName) := by
  rw [pathname, lineage, h.lineage fun _ _ => lt_size_of_parent, Naming.pathname_eq_written]

end Tree

namespace Session

variable {s : Session} {id top : SystemId} {c : ContextId} {actions : List Action}

theorem keepsNames_apply (a : Action) : s.blueprint.KeepsNames (s.apply a).blueprint := by
  cases a with
  | addSystem name typeName registry =>
      simp [apply, Blueprint.addSystem, Blueprint.KeepsNames, Blueprint.names]
  | declare id clause =>
      exact Blueprint.names_declare (fun pathname _ => (Declare.step_clause clause).name) s.blueprint
  | addDiagram d => exact Blueprint.names_addDiagram
  | setParent id diagram => exact Blueprint.names_setParent s.blueprint
  | _ => exact Blueprint.KeepsNames.frame.refl _

theorem keepsNames_perform (actions : List Action) :
    s.blueprint.KeepsNames (s.perform actions).blueprint :=
  (Blueprint.KeepsNames.frame.on Session.blueprint).foldl (fun _ => keepsNames_apply) actions s

def CreatesKnown (s : Session) (actions : List Action) (id : SystemId) (c : ContextId) : Prop :=
  ∃ before parent after r, actions = before ++ .createContext id parent :: after ∧
    id < (s.perform before).blueprint.systems.length ∧
    Run.createContext (s.perform before).blueprint id parent (s.perform before).run = .ok c r

theorem systemName_of_createContext {parent : Option ContextId} {r : Run}
    (made : Run.createContext s.blueprint id parent s.run = .ok c r) :
    ∃ context, (s.apply (.createContext id parent)).tree.contexts[c]? = some context ∧
      context.isSetUp = true ∧ context.systemName = (s.blueprint.system id).name := by
  have tree : (s.apply (.createContext id parent)).tree = r.tree :=
    congrArg Run.tree (stateAfter_ok made)
  obtain ⟨rfl, context, ready, grown⟩ := Run.createContext_ok made
  have laid := Context.laid_setUp Context.isFresh_fresh ready
  refine ⟨context, ?_, congrArg Context.isSetUp laid.rest, congrArg Context.systemName laid.rest⟩
  rw [tree, grown]
  exact List.getElem?_concat_length

theorem systemName_perform {context : Context} (wf : s.tree.WellFormed)
    (found : s.tree.contexts[c]? = some context) (ready : context.isSetUp = true)
    (actions : List Action) : (s.perform actions).tree.systemName c = context.systemName := by
  obtain ⟨context', found', same⟩ := (safe_perform actions wf).2 c context found
  have name := congrArg Context.systemName (same ready)
  rw [Tree.systemName, tree, found']
  exact name

theorem CreatesKnown.systemName (wf : s.tree.WellFormed) (h : s.CreatesKnown actions id c) :
    (s.perform actions).tree.systemName c = ((s.perform actions).blueprint.system id).name := by
  obtain ⟨before, parent, after, r, rfl, known, made⟩ := h
  obtain ⟨context, found, ready, named⟩ := systemName_of_createContext made
  rw [perform_append]
  calc ((s.perform before).perform (.createContext id parent :: after)).tree.systemName c
      = context.systemName :=
        systemName_perform (wellFormed_apply (wellFormed_perform wf before) _) found ready after
    _ = ((s.perform before).blueprint.system id).name := named
    _ = _ := ((keepsNames_perform _).name known).symm

/-- The context was created for the system, and so were those above it for those above the system, up to
one at the top for one at the top. -/
inductive Aligned (s : Session) (created : SystemId → ContextId → Prop) : SystemId → ContextId → Prop
  | top {id : SystemId} {c : ContextId} (made : created id c)
      (system : s.blueprint.parent? id = none) (context : s.tree.parent? c = none) :
      Aligned s created id c
  | down {id above : SystemId} {c above' : ContextId} (made : created id c)
      (system : s.blueprint.parent? id = some above) (context : s.tree.parent? c = some above')
      (rest : Aligned s created above above') : Aligned s created id c

theorem Aligned.lines {created : SystemId → ContextId → Prop} (h : s.Aligned created id c) :
    ∃ systems contexts, Lineage.Line s.blueprint.parent? id systems ∧
      Lineage.Line s.tree.parent? c contexts ∧ List.Forall₂ created systems contexts := by
  induction h with
  | top made system context => exact ⟨_, _, .top system, .top context, .cons made .nil⟩
  | down made system context _ ih =>
      obtain ⟨systems, contexts, up, up', related⟩ := ih
      exact ⟨_, _, .down system up, .down context up', List.rel_append related (.cons made .nil)⟩

theorem Mirrored.aligned {created : SystemId → ContextId → Prop} (mirrored : s.Mirrored top created)
    (owned : ∀ id c, created id c → s.tree.systemOf c = some id) (wf : s.tree.WellFormed)
    (made : created id c) (inside : c < s.tree.size) : s.Aligned created id c := by
  induction c using Nat.strong_induction_on generalizing id with
  | _ c ih =>
      obtain ⟨id', made', -, parents⟩ := mirrored c inside
      obtain rfl : id' = id := Option.some.inj ((owned id' c made').symm.trans (owned id c made))
      generalize system : s.blueprint.parent? id' = above, context : s.tree.parent? c = above' at parents
      cases parents with
      | none => exact .top made system context
      | some madeAbove =>
          have less := wf.parents c _ context
          exact .down made system context (ih _ less madeAbove (Nat.lt_trans less inside))

/-- Whatever was done in a session: a system and its context have the same pathname, if the contexts above
stand for the systems above. Both put it together going up, and what comes of that are the names from the top
down, each one after a separator; names that are empty have a mark in their place. -/
theorem pathnames_agree {config : Config} {cells : Cells} {notices : Notices}
    (aligned : ((start config cells notices).perform actions).Aligned
      ((start config cells notices).CreatesKnown actions) id c) :
    let now := (start config cells notices).perform actions
    (now.blueprint.pathname id = Naming.join
      ((now.blueprint.parent? id).elim "" now.blueprint.pathname) (now.blueprint.system id).name) ∧
    (now.tree.pathname c = Naming.join
      ((now.tree.parent? c).elim "" now.tree.pathname) (now.tree.systemName c)) ∧
    now.blueprint.pathname id = now.tree.pathname c ∧
    ∃ line, Lineage.Line now.blueprint.parent? id line ∧
      now.blueprint.pathname id = Naming.written (line.map fun x => (now.blueprint.system x).name) := by
  intro now
  have begun : (start config cells notices).Reachable := .start config cells notices
  obtain ⟨systems, contexts, up, up', related⟩ := aligned.lines
  have names : contexts.map now.tree.systemName =
      systems.map fun x => (now.blueprint.system x).name := by
    have same := related.imp fun id c made => made.systemName begun.wellFormed
    rw [← List.forall₂_eq_eq_eq, List.forall₂_map_left_iff, List.forall₂_map_right_iff]
    exact same.flip
  have written := Blueprint.pathname_of_line up
  refine ⟨Naming.join_of_line (fun _ _ => Blueprint.pathname_of_line) up,
    Naming.join_of_line (fun _ _ => Tree.pathname_of_line) up', ?_, systems, up, written⟩
  rw [written, Tree.pathname_of_line up', names]

theorem createsKnown_of_getElem? {n : Nat} {parent : Option ContextId}
    (done : actions[n]? = some (.createContext id parent))
    (known : id < (s.perform (actions.take n)).blueprint.systems.length)
    (succeeded : succeeds (Run.createContext (s.perform (actions.take n)).blueprint id parent)
      (s.perform (actions.take n)).run = true) :
    s.CreatesKnown actions id (s.perform (actions.take n)).tree.size := by
  obtain ⟨r, split, made⟩ := createContext_of_getElem? done succeeded
  exact ⟨_, parent, _, r, split, known, made⟩

def station : List Action :=
  [.addSystem "station" "Station" "", .addSystem "" "Bay" "", .addSystem "arm" "Arm" "",
    .addDiagram { owner := 0, children := [1] }, .addDiagram { owner := 1, children := [2] },
    .createContext 0 none, .createContext 1 (some 0), .createContext 2 (some 1)]

theorem station_pathnames :
    ((start {} [] {}).perform station).Aligned ((start {} [] {}).CreatesKnown station) 2 2 ∧
    ((start {} [] {}).perform station).blueprint.pathname 2 = "::station::_::arm" ∧
    ((start {} [] {}).perform station).tree.pathname 2 = "::station::_::arm" := by
  have top : (start {} [] {}).CreatesKnown station 0 0 :=
    createsKnown_of_getElem? (n := 5) rfl (by decide +kernel) (by decide +kernel)
  have bay : (start {} [] {}).CreatesKnown station 1 1 :=
    createsKnown_of_getElem? (n := 6) rfl (by decide +kernel) (by decide +kernel)
  have arm : (start {} [] {}).CreatesKnown station 2 2 :=
    createsKnown_of_getElem? (n := 7) rfl (by decide +kernel) (by decide +kernel)
  have aligned : ((start {} [] {}).perform station).Aligned
      ((start {} [] {}).CreatesKnown station) 2 2 :=
    .down arm (by decide +kernel) (by decide +kernel)
      (.down bay (by decide +kernel) (by decide +kernel)
        (.top top (by decide +kernel) (by decide +kernel)))
  obtain ⟨-, -, same, -⟩ := pathnames_agree aligned
  have written : ((start {} [] {}).perform station).blueprint.pathname 2 = "::station::_::arm" := by
    decide +kernel
  exact ⟨aligned, written, same ▸ written⟩

end Session

end Dataflow
