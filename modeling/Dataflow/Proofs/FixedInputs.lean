import Dataflow.Proofs.Categories
import Dataflow.Proofs.Evaluation.Direct
import Dataflow.Proofs.FixedInputs.Slots
import Dataflow.Proofs.Validation

/-!
# What an input port holds

A value that was fixed on an input port is there until another one is fixed or it is taken away, whatever
else is done and whatever fails in between. While it is there, it fits the port and answers all questions
for it.
-/

namespace Dataflow

def Port.plain (p : Port) : Port := { p with deprecation := none }

namespace System

variable {s s' : System} {port : Nat} {p : Port}

def KeepsInputs (s s' : System) : Prop := s.inputs.map Port.plain <+: s'.inputs.map Port.plain

theorem KeepsInputs.frame : Frame KeepsInputs := ⟨fun _ => List.prefix_rfl, List.IsPrefix.trans⟩

theorem Step.keepsInputs (h : s.Step s') : s.KeepsInputs s' := by
  cases h with
  | input name type =>
      rw [KeepsInputs, List.map_append]
      exact List.prefix_append _ _
  | markInput index message =>
      have same : (s.inputs.modify index (·.markDeprecated message)).map Port.plain =
          s.inputs.map Port.plain := map_modify (fun _ => by rfl) _ _
      rw [KeepsInputs, same]
  | _ => exact List.prefix_rfl

theorem lasting_keepsInputs : Lasting KeepsInputs where
  frame := KeepsInputs.frame
  declare _ clause _ := (Declare.step_clause clause).keepsInputs
  attach _ _ := List.prefix_rfl
  new _ _ _ := List.nil_prefix

theorem KeepsInputs.declared (h : s.KeepsInputs s') (declared : s.inputs[port]? = some p) :
    ∃ p', s'.inputs[port]? = some p' ∧ p'.name = p.name ∧ p'.type = p.type := by
  obtain ⟨p', declared', same⟩ := getElem?_of_map_isPrefix h declared
  exact ⟨p', declared', congrArg (·.name) same, congrArg (·.type) same⟩

end System

namespace Session
open Evaluation

variable {s : Session} {id : SystemId} {parent : Option ContextId} {d : System} {c : ContextId}
  {context : Context} {port : Nat} {p : Port} {a : Action} {place : PortPlace} {v : Value}
  {actions first later : List Action} {r : Run}

theorem lasts_perform {R : System → System → Prop} (lasting : System.Lasting R)
    (actions : List Action) : Blueprint.Lasts R s.blueprint (s.perform actions).blueprint :=
  ((Blueprint.Lasts.frame lasting.frame).on Session.blueprint).foldl
    (fun _ => lasts_apply lasting) actions s

structure Stands (s : Session) (id : SystemId) (parent : Option ContextId) (d : System)
    (c : ContextId) (context : Context) : Prop where
  found : s.tree.contexts[c]? = some context
  mirrors : context.Mirrors d
  system : context.system = some id
  parent : context.parent = parent

theorem Stands.perform (wf : s.tree.WellFormed) (h : s.Stands id parent d c context)
    (actions : List Action) : ∃ context', (s.perform actions).Stands id parent d c context' := by
  obtain ⟨context', found, same⟩ := (safe_perform actions wf).2 c context h.found
  have same := same h.mirrors.isSetUp
  have parent := congrArg Context.parent same
  exact ⟨context', found, h.mirrors.of_skeleton same,
    (Context.system_of_skeleton same).trans h.system, parent.trans h.parent⟩

theorem stands_of_createContext (made : Run.createContext s.blueprint id parent s.run = .ok c r) :
    ∃ context, (s.apply (.createContext id parent)).Stands id parent (s.blueprint.system id) c
      context := by
  have tree : (s.apply (.createContext id parent)).tree = r.tree :=
    congrArg Run.tree (stateAfter_ok made)
  obtain ⟨rfl, context, ready, grown⟩ := Run.createContext_ok made
  have laid := Context.laid_setUp Context.isFresh_fresh ready
  refine ⟨context, ?_, ⟨_, context, Context.isFresh_fresh.renamed, laid,
    congrArg Context.isSetUp laid.rest, rfl⟩, congrArg Context.system laid.rest,
    congrArg Context.parent laid.rest⟩
  rw [tree, grown]
  exact List.getElem?_concat_length

def Leaves (place : PortPlace) : Session → List Action → Prop
  | _, [] => True
  | s, a :: rest => (s.fixes? a).map Prod.fst ≠ some place ∧ Leaves place (s.apply a) rest

instance decidableLeaves (place : PortPlace) :
    (s : Session) → (actions : List Action) → Decidable (Leaves place s actions)
  | _, [] => .isTrue trivial
  | s, a :: rest =>
      have := decidableLeaves place (s.apply a) rest
      inferInstanceAs (Decidable (_ ∧ _))

theorem leaves_append : Leaves place s (first ++ later) ↔
    Leaves place s first ∧ Leaves place (s.perform first) later := by
  induction first generalizing s with
  | nil => simp [Leaves, perform]
  | cons a rest ih => simp only [List.cons_append, Leaves, ih, and_assoc, perform, List.foldl_cons]

/-- Among the actions, `v` was fixed on the input port with success, and after that nothing else was
and it was not taken away with success. -/
def LastFixed (s : Session) (actions : List Action) (place : PortPlace) (v : Value) : Prop :=
  ∃ earlier later, actions = earlier ++ .fixInput place.context place.port v :: later ∧
    succeeds (Run.fixInput place.context place.port v) (s.perform earlier).run = true ∧
    Leaves place ((s.perform earlier).apply (.fixInput place.context place.port v)) later

theorem fixes?_eq_some_iff : s.fixes? a = some (place, some v) ↔
    a = .fixInput place.context place.port v ∧
      succeeds (Run.fixInput place.context place.port v) s.run = true := by
  obtain ⟨c, port⟩ := place
  cases a with
  | fixInput c' port' v' =>
      simp only [fixes?, Option.ite_none_right_eq_some, Option.some.injEq, Prod.mk.injEq,
        PortPlace.mk.injEq, Action.fixInput.injEq]
      constructor
      · rintro ⟨done, ⟨rfl, rfl⟩, rfl⟩
        exact ⟨⟨rfl, rfl, rfl⟩, done⟩
      · rintro ⟨⟨rfl, rfl, rfl⟩, done⟩
        exact ⟨done, ⟨rfl, rfl⟩, rfl⟩
  | clearInput c' port' => simp [fixes?]
  | _ => simp [fixes?]

theorem lastFixed_concat : s.LastFixed (actions ++ [a]) place v ↔
    (s.perform actions).fixes? a = some (place, some v) ∨
      ((s.perform actions).fixes? a).map Prod.fst ≠ some place ∧ s.LastFixed actions place v := by
  constructor
  · rintro ⟨earlier, later, split, done, leaves⟩
    rcases List.eq_nil_or_concat' later with rfl | ⟨between, last, rfl⟩
    · obtain ⟨rfl, same⟩ := List.append_inj' split rfl
      exact .inl (fixes?_eq_some_iff.mpr ⟨List.singleton_inj.mp same, done⟩)
    · rw [← List.cons_append, ← List.append_assoc] at split
      obtain ⟨rfl, same⟩ := List.append_inj' split rfl
      obtain rfl := List.singleton_inj.mp same
      obtain ⟨before, idle, -⟩ := leaves_append.mp leaves
      rw [perform_append]
      exact .inr ⟨idle, earlier, between, rfl, done, before⟩
  · rintro (fixes | ⟨idle, earlier, later, rfl, done, leaves⟩)
    · obtain ⟨rfl, done⟩ := fixes?_eq_some_iff.mp fixes
      exact ⟨actions, [], rfl, done, trivial⟩
    · refine ⟨earlier, later ++ [a], by simp, done, leaves_append.mpr ⟨leaves, ?_, trivial⟩⟩
      rwa [perform_append] at idle

theorem fixed?_eq_some_iff (place : PortPlace)
    (free : s.tree.fixed? place.context place.port = none) :
    (s.perform actions).tree.fixed? place.context place.port = some v ↔
      s.LastFixed actions place v := by
  induction actions using List.reverseRecOn with
  | nil =>
      rw [perform, List.foldl_nil, free]
      simp [LastFixed]
  | append_singleton actions a ih =>
      rw [lastFixed_concat, ← ih, perform_append]
      exact (s.perform actions).fixed?_apply place a

structure Holds (s : Session) (id : SystemId) (c : ContextId) (port : Nat) (p : Port) (v : Value) :
    Prop where
  fixed : s.tree.fixed? c port = some v
  fits : p.type.mismatch v = none
  answers : ∀ q, AsksFor p port q →
    evaluate s.blueprint id c q s.run = .ok (some v) (s.run.usePort s.blueprint id .input port) ∧
    ∀ ask, respond s.blueprint ask id c q s.run =
      .ok (some v) (s.run.usePort s.blueprint id .input port)

/-- Nothing is on the input port. Unless the parent's diagram has a value for it, it has none, and an
error tells so if one is required. -/
structure Bare (s : Session) (id : SystemId) (c : ContextId) (parent : Option ContextId) (port : Nat)
    (p : Port) : Prop where
  free : s.tree.fixed? c port = none
  unanswered : parent = none ∨ s.blueprint.parentDiagram? id = none →
    evaluate s.blueprint id c (.input port) s.run =
        .ok none (s.run.usePort s.blueprint id .input port) ∧
      evaluate s.blueprint id c (.requiredInput port) s.run =
        .error (.fault (.failed (.unconnected
          ⟨"EvalRequiredInput", p.name, port, s.blueprint.pathname id⟩)))
          (s.run.usePort s.blueprint id .input port)

section
variable (stands : s.Stands id parent d c context) (declared : d.inputs[port]? = some p)
  (kept : d.KeepsInputs (s.blueprint.system id))
include stands declared kept

theorem Stands.holds (typed : s.tree.WellTyped) (fixed : s.tree.fixed? c port = some v) :
    s.Holds id c port p v := by
  obtain ⟨p', declared', -, type⟩ := kept.declared declared
  have valid : validate s.blueprint s.run.tree id c = .ok () :=
    validate_eq_ok_iff.mpr ⟨context, stands.found, stands.system⟩
  have held : context.fixed? port = some v := by
    rwa [Tree.fixed?_of_found stands.found] at fixed
  obtain ⟨slot, listed, on⟩ := Option.bind_eq_some_iff.mp held
  have slotType : slot.type = p.type := by
    have same := stands.mirrors.port port
    rw [listed, declared] at same
    exact congrArg Prod.snd (Option.some.inj same)
  have fits : p.type.mismatch v = none := by
    rw [← slotType]
    refine typed c slot ?_ v on
    rw [Tree.inputSlots_of_found stands.found]
    exact List.mem_of_getElem? listed
  refine ⟨fixed, fits, fun q asks => ?_⟩
  have responds (ask : Answerer) : respond s.blueprint ask id c q s.run = .ok (some v) _ :=
    respond_fixed valid declared' stands.found held (type ▸ fits) (asks.of_type type)
  exact ⟨evaluate_of_respond responds, responds⟩

theorem Stands.bare (free : s.tree.fixed? c port = none) : s.Bare id c parent port p := by
  obtain ⟨p', declared', name, -⟩ := kept.declared declared
  have valid : validate s.blueprint s.run.tree id c = .ok () :=
    validate_eq_ok_iff.mpr ⟨context, stands.found, stands.system⟩
  have unheld : context.fixed? port = none := by
    rwa [Tree.fixed?_of_found stands.found] at free
  refine ⟨free, fun alone => ?_⟩
  rw [← stands.parent] at alone
  rw [← name]
  constructor
  · exact evaluate_of_respond fun _ => (respond_free valid declared' stands.found unheld alone).1
  · exact evaluate_of_respond fun _ => (respond_free valid declared' stands.found unheld alone).2

end

/-- Whatever is done after a context was created, and whatever of it fails: an input port holds the value
that was fixed on it last, unless that was taken away; and questions for the port are answered
accordingly. -/
theorem Reachable.inputs_hold_fixed (h : s.Reachable)
    (made : Run.createContext s.blueprint id parent s.run = .ok c r)
    (declared : (s.blueprint.system id).inputs[port]? = some p) (actions : List Action) :
    let created := s.apply (.createContext id parent)
    (∀ v, created.LastFixed actions ⟨c, port⟩ v → (created.perform actions).Holds id c port p v) ∧
      ((∀ v, ¬ created.LastFixed actions ⟨c, port⟩ v) →
        (created.perform actions).Bare id c parent port p) := by
  intro created
  have reachable : created.Reachable := h.apply _
  have kept : (s.blueprint.system id).KeepsInputs ((created.perform actions).blueprint.system id) :=
    lasts_perform (s := created) System.lasting_keepsInputs actions id
  obtain ⟨before, stands⟩ := stands_of_createContext made
  obtain ⟨context, stands⟩ := stands.perform reachable.wellFormed actions
  have free : created.tree.fixed? c port = none := by
    refine Option.eq_none_iff_forall_ne_some.mpr fun v held => ?_
    rcases (fixed?_apply ⟨c, port⟩ _).mp held with fixes | ⟨-, held⟩
    · cases fixes
    · rw [(Run.createContext_ok made).1] at held
      simp [Tree.fixed?, tree, Tree.size] at held
  constructor
  · intro v last
    exact stands.holds declared kept (reachable.perform actions).wellTyped
      ((fixed?_eq_some_iff ⟨c, port⟩ free).mpr last)
  · intro never
    refine stands.bare declared kept (Option.eq_none_iff_forall_ne_some.mpr fun v held => ?_)
    exact never v ((fixed?_eq_some_iff ⟨c, port⟩ free).mp held)

def pumphouse : Session := (start {} [] {}).perform
  [.addSystem "plant" "Plant" "", .addSystem "pump" "Pump" "",
    .declare 1 (.input "speeds" (.vector 2)), .declare 1 (.input "on" (.named "bool")),
    .createContext 0 none]

def pumpActions : List Action :=
  [.fixInput 1 0 (.vector [1, 2]), .fixInput 1 0 (.vector [3]), .fixInput 1 1 (.flag true),
    .clearInput 1 1, .clearInput 1 2, .evaluate 1 1 (.entry 0)]

theorem pumphouse_inputs : pumphouse.Reachable ∧
    ((pumphouse.apply (.createContext 1 (some 0))).perform pumpActions).Holds 1 1 0
      { name := "speeds", ticket := 13, type := .vector 2 } (.vector [1, 2]) ∧
    ((pumphouse.apply (.createContext 1 (some 0))).perform pumpActions).Bare 1 1 (some 0) 1
      { name := "on", ticket := 14, type := .named "bool" } := by
  have reachable : pumphouse.Reachable := (Reachable.start {} [] {}).perform _
  obtain ⟨c, made⟩ := ok_of_succeeds (f := Run.createContext pumphouse.blueprint 1 (some 0))
    (s := pumphouse.run) (by decide +kernel)
  obtain rfl : c = 1 := (Run.createContext_ok made).1.trans (by decide +kernel)
  have speeds : (pumphouse.blueprint.system 1).inputs[0]? =
      some { name := "speeds", ticket := 13, type := .vector 2 } := by decide +kernel
  have on : (pumphouse.blueprint.system 1).inputs[1]? =
      some { name := "on", ticket := 14, type := .named "bool" } := by decide +kernel
  obtain ⟨holds, -⟩ := reachable.inputs_hold_fixed made speeds pumpActions
  obtain ⟨-, bare⟩ := reachable.inputs_hold_fixed made on pumpActions
  refine ⟨reachable, holds _ ?_, bare fun v last => ?_⟩
  · exact ⟨[], _, rfl, by decide +kernel, by decide +kernel⟩
  · have free : (pumphouse.apply (.createContext 1 (some 0))).tree.fixed? 1 1 = none :=
      Option.isNone_iff_eq_none.mp (by decide +kernel)
    have cleared : (((pumphouse.apply (.createContext 1 (some 0))).perform
        pumpActions).tree.fixed? 1 1).isNone = true := by decide +kernel
    have held := (fixed?_eq_some_iff ⟨1, 1⟩ free).mpr last
    rw [held] at cleared
    cases cleared

end Session

end Dataflow
