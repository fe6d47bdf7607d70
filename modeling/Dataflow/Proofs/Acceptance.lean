import Dataflow.Proofs.Declarations
import Dataflow.Proofs.Store
import Mathlib.Data.List.Nodup

/-!
# Which prerequisites a cache entry is accepted with

A system whose tickets are all handed out by its declarations accepts a cache entry exactly if it names
some prerequisite, and each that it names is built in, or belongs to a source, an input port or a cache
entry declared before, or was lost to an entry whose declaration failed. Only the last is not asked for:
nothing has such a ticket.
-/

namespace Dataflow

def Clause.isPlain : Clause → Bool
  | .takeTicket | .entryFor .. => false
  | _ => true

/-- The ticket that goes with an entry whose declaration fails. -/
def Clause.loses (pathname : String) (s : System) : Clause → List Ticket
  | .entry description initial producer prerequisites =>
      if succeeds (Declare.entry pathname description initial producer prerequisites) s then []
      else [s.nextTicket]
  | _ => []

namespace System

/-- Systems made by declarations that each take a ticket of their own, with the tickets that were lost
on the way. -/
inductive Plain : System → List Ticket → Prop
  | new (name typeName registry : String) : Plain { name, typeName, registry } []
  | attach {s : System} {lost : List Ticket} (diagram : Nat) :
      Plain s lost → Plain { s with parent := some diagram } lost
  | declare {s : System} {lost : List Ticket} (pathname : String) (clause : Clause)
      (plain : clause.isPlain = true) : Plain s lost →
      Plain (stateAfter (clause.declare pathname) s) (lost ++ clause.loses pathname s)

def dependable (s : System) : List Ticket :=
  s.sources.map (·.ticket) ++ s.inputs.map (·.ticket) ++ s.entries.map (·.ticket)

def owned (s : System) : List Ticket := s.dependable ++ s.outputs.map (·.ticket)

variable {s s' : System} {lost lost' : List Ticket} {t : Ticket}

/-- Every ticket that was handed out has one owner, or else was lost. -/
structure Accounted (s : System) (lost : List Ticket) : Prop where
  start : Ticket.firstAssignable ≤ s.nextTicket
  owners : (s.owned ++ lost).Perm
    (List.range' Ticket.firstAssignable (s.nextTicket - Ticket.firstAssignable))

theorem Accounted.mem_iff (h : s.Accounted lost) :
    t ∈ s.owned ++ lost ↔ t.isBuiltIn = false ∧ t < s.nextTicket := by
  rw [h.owners.mem_iff, List.mem_range'_1, Nat.add_sub_cancel' h.start]
  simp only [Ticket.isBuiltIn, decide_eq_false_iff_not, Nat.not_lt]

theorem Accounted.nodup (h : s.Accounted lost) : (s.owned ++ lost).Nodup :=
  h.owners.nodup_iff.mpr List.nodup_range'

theorem Accounted.same (h : s.Accounted lost) (next : s'.nextTicket = s.nextTicket)
    (sources : s'.sources.map (·.ticket) = s.sources.map (·.ticket))
    (inputs : s'.inputs.map (·.ticket) = s.inputs.map (·.ticket))
    (entries : s'.entries.map (·.ticket) = s.entries.map (·.ticket))
    (outputs : s'.outputs.map (·.ticket) = s.outputs.map (·.ticket)) : s'.Accounted lost := by
  refine ⟨next ▸ h.start, ?_⟩
  rw [next, owned, dependable, sources, inputs, entries, outputs]
  exact h.owners

theorem Accounted.take (h : s.Accounted lost) (next : s'.nextTicket = s.nextTicket.next)
    (owners : (s'.owned ++ lost').Perm (s.owned ++ lost ++ [s.nextTicket])) : s'.Accounted lost' := by
  have start := h.start
  have range : List.range' Ticket.firstAssignable (s'.nextTicket - Ticket.firstAssignable) =
      List.range' Ticket.firstAssignable (s.nextTicket - Ticket.firstAssignable) ++ [s.nextTicket] := by
    have size : s'.nextTicket - Ticket.firstAssignable =
        s.nextTicket - Ticket.firstAssignable + 1 := by
      rw [next, Ticket.next, Nat.sub_add_comm start]
    rw [size, List.range'_1_concat, Nat.add_sub_cancel' start]
  refine ⟨next ▸ Nat.le_succ_of_le start, ?_⟩
  rw [range]
  exact owners.trans (h.owners.append_right _)

theorem Accounted.known_iff (h : s.Accounted lost) :
    s.advanced.isKnownPrerequisite s.nextTicket t = true ↔
      t.isBuiltIn = true ∨ t ∈ s.dependable ∨ t ∈ lost := by
  have issued := h.mem_iff (t := t)
  have nodup := h.nodup
  simp only [owned, List.mem_append, List.nodup_append'] at issued nodup
  have apart (output : t ∈ s.outputs.map (·.ticket)) : t ∉ s.dependable ∧ t ∉ lost :=
    ⟨fun mem => nodup.1.2.2 mem output, fun mem => nodup.2.2 (List.mem_append_right _ output) mem⟩
  have known : s.advanced.isKnownPrerequisite s.nextTicket t = true ↔ t ≠ s.nextTicket ∧
      (t.isBuiltIn = true ∨ t < s.nextTicket.next ∧ t ∉ s.outputs.map (·.ticket)) := by
    simp only [isKnownPrerequisite, Bool.and_eq_true, Bool.or_eq_true, decide_eq_true_eq,
      List.all_eq_true, List.mem_map, not_exists, not_and]
    rfl
  rw [known]
  constructor
  · rintro ⟨other, builtIn | ⟨issued', internal⟩⟩
    · exact .inl builtIn
    · have before : t < s.nextTicket := Nat.lt_of_le_of_ne (Nat.le_of_lt_succ issued') other
      cases builtIn : t.isBuiltIn with
      | true => exact .inl rfl
      | false =>
          rcases issued.mpr ⟨builtIn, before⟩ with (owner | output) | lost
          · exact .inr (.inl owner)
          · exact absurd output internal
          · exact .inr (.inr lost)
  · rintro (builtIn | owner)
    · have small : t < Ticket.firstAssignable := by simpa [Ticket.isBuiltIn] using builtIn
      exact ⟨Nat.ne_of_lt (Nat.lt_of_lt_of_le small h.start), .inl builtIn⟩
    · have before := (issued.mp (owner.imp_left .inl)).2
      have internal : t ∉ s.outputs.map (·.ticket) := fun output =>
        owner.elim (apart output).1 (apart output).2
      exact ⟨Nat.ne_of_lt before, .inr ⟨Nat.lt_succ_of_lt before, internal⟩⟩

theorem addEntry_eq_ok_iff {e : Entry} {pathname : String} : s.addEntry pathname e = .ok s' ↔
    (∀ t ∈ e.prerequisites, s.isKnownPrerequisite e.ticket t = true) ∧ e.prerequisites ≠ [] ∧
      s' = { s with entries := s.entries ++ [e] } := by
  simp only [addEntry]
  split
  · rename_i t found
    have unknown := List.find?_some found
    have named := List.mem_of_find?_eq_some found
    simp only [reduceCtorEq, false_iff]
    rintro ⟨known, -⟩
    simp [known t named] at unknown
  · rename_i none
    have known : ∀ t ∈ e.prerequisites, s.isKnownPrerequisite e.ticket t = true := by
      simpa using List.find?_eq_none.mp none
    split
    · rename_i empty
      simp [empty]
    · rename_i nonempty
      constructor
      · intro made
        exact ⟨known, nonempty, (Except.ok.inj made).symm⟩
      · rintro ⟨-, -, rfl⟩
        rfl

end System

namespace Declare

variable {s : System} {pathname description : String} {initial : Value} {producer : Producer}
  {prerequisites : List Ticket} {lost : List Ticket}

def Welcome (s : System) (prerequisites : List Ticket) : Prop :=
  prerequisites ≠ [] ∧ ∀ t ∈ prerequisites, s.advanced.isKnownPrerequisite s.nextTicket t = true

theorem addEntry_ascending {e : Entry} (next : e.ticket = s.nextTicket)
    (named : e.prerequisites = ascending prerequisites) :
    (∃ s', s.advanced.addEntry pathname e = .ok s') ↔ Welcome s prerequisites := by
  have empty : ascending prerequisites = [] ↔ prerequisites = [] := by
    simp only [List.eq_nil_iff_forall_not_mem, mem_ascending]
  simp only [System.addEntry_eq_ok_iff, next, named, mem_ascending, ne_eq, empty, Welcome,
    exists_and_left, exists_eq, and_true]
  exact and_comm

theorem entry_outcome :
    (Welcome s prerequisites ∧ ∃ e : Entry, e.ticket = s.nextTicket ∧
      entry pathname description initial producer prerequisites s =
        .ok s.entries.length { s.advanced with entries := s.entries ++ [e] }) ∨
    (¬ Welcome s prerequisites ∧ ∃ error,
      entry pathname description initial producer prerequisites s = .error error s.advanced) := by
  let e : Entry :=
    { ticket := s.nextTicket, description, initial, producer,
      prerequisites := ascending prerequisites }
  have run : entry pathname description initial producer prerequisites s =
      ((Attempt.step fun s => s.addEntry pathname e) >>= fun _ => do
        return (← get).entries.length - 1 : Declare Nat) s.advanced := rfl
  have welcome := @addEntry_ascending s pathname prerequisites e rfl rfl
  rw [run, bind_apply]
  simp only [Attempt.step]
  cases made : s.advanced.addEntry pathname e with
  | ok s' =>
      obtain ⟨-, -, rfl⟩ := System.addEntry_eq_ok_iff.mp made
      refine .inl ⟨welcome.mp ⟨_, made⟩, e, rfl, ?_⟩
      simp [bind_apply, get_apply, System.advanced, pure, EStateM.pure]
  | error error =>
      refine .inr ⟨fun ok => ?_, error, rfl⟩
      obtain ⟨s', same⟩ := welcome.mpr ok
      cases made.symm.trans same

theorem entry_ok_iff :
    (∃ index s', entry pathname description initial producer prerequisites s = .ok index s') ↔
      Welcome s prerequisites := by
  rcases @entry_outcome s pathname description initial producer prerequisites
    with ⟨welcome, e, -, result⟩ | ⟨unwelcome, error, result⟩
  · exact ⟨fun _ => welcome, fun _ => ⟨_, _, result⟩⟩
  · simp [result, unwelcome]

end Declare

namespace System

open Declare

variable {s : System} {lost : List Ticket} {pathname : String}

theorem accounted_new (name typeName registry : String) :
    System.Accounted { name, typeName, registry } [] where
  start := Nat.le_refl _
  owners := .refl []

theorem Accounted.markDeprecated (h : s.Accounted lost) {kind : PortKind} {index : Nat}
    {message : String} :
    (stateAfter (Declare.markDeprecated pathname kind index message) s).Accounted lost := by
  cases kind
  all_goals simp only [stateAfter, Declare.markDeprecated, Attempt.step, bind, Except.bind]
  · cases s.input "DeprecateInputPort" pathname index with
    | error e => exact h
    | ok port => exact h.same rfl rfl (map_modify (fun _ => by rfl) _ _) rfl rfl
  · cases s.output "DeprecateOutputPort" pathname index with
    | error e => exact h
    | ok port => exact h.same rfl rfl rfl rfl (map_modify (fun _ => by rfl) _ _)

theorem Accounted.entry (h : s.Accounted lost) {description : String} {initial : Value}
    {producer : Producer} {prerequisites : List Ticket} :
    (stateAfter (Declare.entry pathname description initial producer prerequisites) s).Accounted
      (lost ++ (Clause.entry description initial producer prerequisites).loses pathname s) := by
  rcases @entry_outcome s pathname description initial producer prerequisites
    with ⟨-, e, next, result⟩ | ⟨-, error, result⟩
  · simp only [stateAfter_ok result, Clause.loses, succeeds, result, if_true]
    refine h.take rfl (List.perm_iff_count.mpr fun t => ?_)
    simp only [owned, dependable, advanced, List.map_append, List.map_cons, List.map_nil, next,
      List.count_append, List.append_nil]
    omega
  · simp only [stateAfter_error result, Clause.loses, succeeds, result, Bool.false_eq_true, if_false]
    refine h.take rfl (List.perm_iff_count.mpr fun t => ?_)
    simp only [owned, dependable, advanced, List.append_assoc]

theorem Accounted.declare (h : s.Accounted lost) {clause : Clause} (plain : clause.isPlain = true) :
    (stateAfter (clause.declare pathname) s).Accounted (lost ++ clause.loses pathname s) := by
  have kept {s' : System} (accounted : s'.Accounted lost) : s'.Accounted (lost ++ []) :=
    (List.append_nil lost).symm ▸ accounted
  have taken {s' : System} (next : s'.nextTicket = s.nextTicket.next)
      (counted : ∀ t, s'.owned.count t = s.owned.count t + [s.nextTicket].count t) :
      s'.Accounted (lost ++ []) := by
    refine h.take next (List.perm_iff_count.mpr fun t => ?_)
    simp only [List.count_append, counted, List.append_nil]
    omega
  cases clause with
  | takeTicket => cases plain
  | entryFor => cases plain
  | entry =>
      rw [Clause.declare, stateAfter_discard]
      exact h.entry
  | input name type =>
      let declared : System :=
        { s.advanced with inputs := s.inputs ++ [{ name, ticket := s.nextTicket, type }] }
      change declared.Accounted (lost ++ [])
      refine taken rfl fun t => ?_
      simp only [owned, dependable, declared, advanced, List.map_append, List.map_cons, List.map_nil,
        List.count_append]
      omega
  | output name type child dependency =>
      let declared : System := { s.advanced with
        outputs := s.outputs ++ [{ name, ticket := s.nextTicket, type, child, dependency }] }
      change declared.Accounted (lost ++ [])
      refine taken rfl fun t => ?_
      simp only [owned, dependable, declared, advanced, List.map_append, List.map_cons, List.map_nil,
        List.count_append]
      omega
  | source group description =>
      let declared : System :=
        { s.advanced with sources := s.sources ++ [⟨group, s.nextTicket, description⟩] }
      change declared.Accounted (lost ++ [])
      refine taken rfl fun t => ?_
      simp only [owned, dependable, declared, advanced, List.map_append, List.map_cons, List.map_nil,
        List.count_append]
      omega
  | disableByDefault index => exact kept (h.same rfl rfl rfl (map_modify (fun _ => by rfl) _ _) rfl)
  | markDeprecated kind index message => exact kept h.markDeprecated

theorem Plain.accounted (h : s.Plain lost) : s.Accounted lost := by
  induction h with
  | new name typeName registry => exact accounted_new name typeName registry
  | attach diagram _ ih => exact ih.same rfl rfl rfl rfl rfl
  | declare pathname clause plain _ ih => exact ih.declare plain

end System

namespace Declare

variable {s : System} {lost : List Ticket}

/-- A cache entry is accepted, whatever computes it, if each of its prerequisites is built in, was
declared before or was lost; the lost tickets are those that were handed out and that nothing has. -/
theorem entry_accepted_iff (history : s.Plain lost) (pathname description : String) (initial : Value)
    (producer : Producer) (prerequisites : List Ticket) :
    ((∃ index s', entry pathname description initial producer prerequisites s = .ok index s') ↔
      prerequisites ≠ [] ∧ ∀ t ∈ prerequisites, t.isBuiltIn = true ∨ t ∈ s.dependable ∨ t ∈ lost) ∧
    ∀ t, t ∈ lost ↔ t.isBuiltIn = false ∧ t < s.nextTicket ∧ t ∉ s.owned := by
  have accounted := history.accounted
  constructor
  · rw [entry_ok_iff, Welcome]
    exact and_congr_right fun _ => forall₂_congr fun _ _ => accounted.known_iff
  · intro t
    have issued := accounted.mem_iff (t := t)
    have apart := (List.nodup_append'.mp accounted.nodup).2.2
    constructor
    · intro mem
      obtain ⟨builtIn, before⟩ := issued.mp (List.mem_append_right _ mem)
      exact ⟨builtIn, before, fun owner => apart owner mem⟩
    · rintro ⟨builtIn, before, unowned⟩
      exact (List.mem_append.mp (issued.mpr ⟨builtIn, before⟩)).resolve_left unowned

def plant : System := .declaredBy "plant" [
  .source .numericParameter "mass", .input "force" (.vector 1),
  .entry "acceleration" .unit .finish [.allParameters, 13, 14],
  .output "out" (.named "f64") none 15, .entry "jerk" .unit .finish [16]]

theorem plain_plant : plant.Plain [17] := by
  have history := System.Plain.new "plant" "plant" ""
    |>.declare "::plant" (.source .numericParameter "mass") rfl
    |>.declare "::plant" (.input "force" (.vector 1)) rfl
    |>.declare "::plant" (.entry "acceleration" .unit .finish [.allParameters, 13, 14]) rfl
    |>.declare "::plant" (.output "out" (.named "f64") none 15) rfl
    |>.declare "::plant" (.entry "jerk" .unit .finish [16]) rfl
  exact history

theorem plant_accepts_iff : plant.Plain [17] ∧ ∀ prerequisites,
    (∃ index s', entry "::plant" "energy" .unit .finish prerequisites plant = .ok index s') ↔
      prerequisites ≠ [] ∧
      ∀ t ∈ prerequisites, t.isBuiltIn = true ∨ t ∈ plant.dependable ∨ t ∈ [17] :=
  ⟨plain_plant, fun prerequisites =>
    (entry_accepted_iff plain_plant "::plant" "energy" .unit .finish prerequisites).1⟩

theorem plant_accepts_lost : plant.Plain [17] ∧
    succeeds (entry "::plant" "energy" .unit .finish [17]) plant = true ∧
    Ticket.isBuiltIn 17 = false ∧ 17 ∉ plant.dependable :=
  ⟨plain_plant, by decide, by decide, by decide⟩

end Declare

end Dataflow
