import Dataflow.Proofs.Declarations
import Dataflow.Proofs.Reports.Calls

namespace Dataflow

namespace System

variable {s s' : System} {kind : PortKind} {index : Nat}

def KeepsPorts (s s' : System) : Prop :=
  ∀ kind index port, s.port? kind index = some port → s'.typeName = s.typeName ∧
    s'.registry = s.registry ∧ ∃ port', s'.port? kind index = some port' ∧ port'.name = port.name ∧
      (port.deprecation.isSome → port'.deprecation.isSome)

theorem KeepsPorts.frame : Frame KeepsPorts where
  refl _ _ _ port found := ⟨rfl, rfl, port, found, rfl, id⟩
  trans first later kind index port found := by
    obtain ⟨typeName, registry, port', found', name, deprecated⟩ := first kind index port found
    obtain ⟨typeName', registry', port'', found'', name', deprecated'⟩ :=
      later kind index port' found'
    exact ⟨typeName'.trans typeName, registry'.trans registry, port'', found'', name'.trans name,
      deprecated' ∘ deprecated⟩

theorem keepsPorts_of_same (typeName : s'.typeName = s.typeName)
    (registry : s'.registry = s.registry) (inputs : s.inputs <+: s'.inputs)
    (outputs : s.outputs <+: s'.outputs) : s.KeepsPorts s' := by
  have stays {α : Type} {xs ys : List α} {i : Nat} {a : α} (first : xs <+: ys)
      (found : xs[i]? = some a) : ys[i]? = some a := by
    obtain ⟨inside, rfl⟩ := List.getElem?_eq_some_iff.mp found
    exact List.prefix_iff_getElem?.mp first i inside
  intro kind index port found
  refine ⟨typeName, registry, port, ?_, rfl, id⟩
  cases kind with
  | input => exact stays inputs found
  | output =>
      obtain ⟨p, listed, rfl⟩ := Option.map_eq_some_iff.mp found
      simp only [port?, stays outputs listed, Option.map_some]

theorem keepsPorts_markInput (s : System) (index : Nat) (message : String) :
    s.KeepsPorts { s with inputs := s.inputs.modify index (·.markDeprecated message) } := by
  intro kind i port found
  refine ⟨rfl, rfl, ?_⟩
  cases kind with
  | output => exact ⟨port, found, rfl, id⟩
  | input =>
      have listed : s.inputs[i]? = some port := found
      simp only [port?, List.getElem?_modify, listed]
      by_cases same : index = i <;> simp [same, Port.markDeprecated]

theorem keepsPorts_markOutput (s : System) (index : Nat) (message : String) :
    s.KeepsPorts { s with outputs := s.outputs.modify index fun p =>
      { p with toPort := p.toPort.markDeprecated message } } := by
  intro kind i port found
  refine ⟨rfl, rfl, ?_⟩
  cases kind with
  | input => exact ⟨port, found, rfl, id⟩
  | output =>
      obtain ⟨p, listed, rfl⟩ := Option.map_eq_some_iff.mp found
      simp only [port?, List.getElem?_modify, listed]
      by_cases same : index = i <;> simp [same, Port.markDeprecated]

theorem Step.keepsPorts (h : s.Step s') : s.KeepsPorts s' := by
  cases h with
  | refused => exact KeepsPorts.frame.refl s
  | markInput index message => exact keepsPorts_markInput s index message
  | markOutput index message => exact keepsPorts_markOutput s index message
  | input name type => exact keepsPorts_of_same rfl rfl (List.prefix_append _ _) (List.prefix_refl _)
  | output name type child dependency =>
      exact keepsPorts_of_same rfl rfl (List.prefix_refl _) (List.prefix_append _ _)
  | takeTicket | source | entryFor | entry | disableByDefault =>
      exact keepsPorts_of_same rfl rfl (List.prefix_refl _) (List.prefix_refl _)

theorem lasting_keepsPorts : Lasting KeepsPorts where
  frame := KeepsPorts.frame
  declare _ clause _ := (Declare.step_clause clause).keepsPorts
  attach _ _ := keepsPorts_of_same rfl rfl (List.prefix_refl _) (List.prefix_refl _)
  new name typeName registry kind index port found := by
    cases kind <;> simp [Blueprint.noSystem, port?] at found

end System

namespace Blueprint

variable {b b' : Blueprint} {o : PortObject} {x : Call}

def KeepsPorts (b b' : Blueprint) : Prop := ∀ id, (b.system id).KeepsPorts (b'.system id)

theorem KeepsPorts.call? (h : b.KeepsPorts b') (called : b.call? o = some x) :
    ∃ x', b'.call? o = some x' ∧ x'.subject = x.subject := by
  simp only [Blueprint.call?, Option.bind_eq_bind, Option.bind_eq_some_iff, Option.pure_def,
    Option.some.injEq] at called
  obtain ⟨port, found, message, deprecated, rfl⟩ := called
  obtain ⟨typeName, registry, port', found', name, still⟩ := h o.system o.kind o.index port found
  obtain ⟨message', deprecated'⟩ := Option.isSome_iff_exists.mp (still (by simp [deprecated]))
  simp only [Blueprint.call?, found', Option.bind_eq_bind, Option.bind_some, deprecated',
    Option.pure_def]
  exact ⟨_, rfl, by simp [Call.subject, typeName, registry, name]⟩

end Blueprint

theorem Notices.Backed.mono {b b' : Blueprint} {n : Notices} (h : n.Backed b)
    (kept : b.KeepsPorts b') : n.Backed b' := by
  refine ⟨h.remembering, fun o asked => ?_⟩
  obtain ⟨x, keys, called, set, known⟩ := h.asked o asked
  obtain ⟨x', called', same⟩ := kept.call? called
  obtain ⟨registry, key⟩ := Prod.mk.inj same
  exact ⟨x', keys, called', registry ▸ set, key ▸ known⟩

theorem Session.keepsPorts_apply {s : Session} (a : Action) :
    s.blueprint.KeepsPorts (s.apply a).blueprint :=
  lasts_apply System.lasting_keepsPorts a

end Dataflow
