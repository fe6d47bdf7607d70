import Dataflow.Proofs.Attempt
import Dataflow.Session

namespace Dataflow

namespace System

variable {s s' : System} {e : Entry} {pathname : String}

structure Accepts (s : System) (e : Entry) : Prop where
  known : ∀ t ∈ e.prerequisites, s.isKnownPrerequisite e.ticket t = true
  nonempty : e.prerequisites ≠ []
  ascending : e.prerequisites.Pairwise (· < ·)

def advanced (s : System) : System := { s with nextTicket := s.nextTicket.next }

inductive Step : System → System → Prop
  | refused (s : System) : Step s s
  | takeTicket (s : System) : Step s s.advanced
  | input (s : System) (name : String) (type : PortType) :
      Step s { s.advanced with inputs := s.inputs ++ [{ name, ticket := s.nextTicket, type }] }
  | output (s : System) (name : String) (type : PortType) (child : Option Nat) (dependency : Ticket) :
      Step s { s.advanced with
        outputs := s.outputs ++ [{ name, ticket := s.nextTicket, type, child, dependency }] }
  | source (s : System) (group : SourceGroup) (description : String) :
      Step s { s.advanced with sources := s.sources ++ [⟨group, s.nextTicket, description⟩] }
  | entryFor {s : System} {e : Entry} (accepted : s.Accepts e) :
      Step s { s with entries := s.entries ++ [e] }
  | entry {s : System} {e : Entry} (next : e.ticket = s.nextTicket) (accepted : s.advanced.Accepts e) :
      Step s { s.advanced with entries := s.entries ++ [e] }
  | disableByDefault (s : System) (index : Nat) :
      Step s { s with entries := s.entries.modify index fun e => { e with disabledByDefault := true } }
  | markInput (s : System) (index : Nat) (message : String) :
      Step s { s with inputs := s.inputs.modify index (·.markDeprecated message) }
  | markOutput (s : System) (index : Nat) (message : String) :
      Step s { s with outputs := s.outputs.modify index fun p =>
        { p with toPort := p.toPort.markDeprecated message } }

theorem addEntry_ok (ascending : e.prerequisites.Pairwise (· < ·))
    (made : s.addEntry pathname e = .ok s') :
    s.Accepts e ∧ s' = { s with entries := s.entries ++ [e] } := by
  simp only [addEntry] at made
  split at made
  · cases made
  · rename_i known
    split at made
    · cases made
    · rename_i nonempty
      refine ⟨⟨?_, nonempty, ascending⟩, (Except.ok.inj made).symm⟩
      intro t mem
      simpa using List.find?_eq_none.mp known t mem

end System

namespace Declare

variable {s : System} {pathname description : String} {ticket : Ticket} {initial : Value}
  {producer : Producer} {prerequisites : List Ticket}

theorem stateAfter_entryFor :
    stateAfter (entryFor pathname ticket description initial producer prerequisites) s = s ∨
    ∃ e : Entry, e.ticket = ticket ∧ s.Accepts e ∧
      stateAfter (entryFor pathname ticket description initial producer prerequisites) s =
        { s with entries := s.entries ++ [e] } := by
  simp only [stateAfter, entryFor, bind_apply, Attempt.step]
  cases made : s.addEntry pathname
      { ticket, description, initial, producer, prerequisites := ascending prerequisites } with
  | error e => exact .inl rfl
  | ok s' =>
      obtain ⟨accepted, rfl⟩ := System.addEntry_ok (pairwise_ascending prerequisites) made
      exact .inr ⟨_, rfl, accepted, rfl⟩

theorem step_markDeprecated {kind : PortKind} {index : Nat} {message : String} :
    s.Step (stateAfter (markDeprecated pathname kind index message) s) := by
  cases kind
  all_goals simp only [stateAfter, markDeprecated, Attempt.step, bind, Except.bind]
  · cases s.input "DeprecateInputPort" pathname index with
    | error e => exact .refused s
    | ok port => exact .markInput s index message
  · cases s.output "DeprecateOutputPort" pathname index with
    | error e => exact .refused s
    | ok port => exact .markOutput s index message

theorem step_clause (clause : Clause) : s.Step (stateAfter (clause.declare pathname) s) := by
  cases clause with
  | takeTicket => exact .takeTicket s
  | input name type => exact .input s name type
  | output name type child dependency => exact .output s name type child dependency
  | source group description => exact .source s group description
  | entry description initial producer prerequisites =>
      simp only [Clause.declare, stateAfter_discard]
      have advance : stateAfter (entry pathname description initial producer prerequisites) s =
          stateAfter (entryFor pathname s.nextTicket description initial producer prerequisites)
            s.advanced := rfl
      rw [advance]
      rcases stateAfter_entryFor (s := s.advanced) with same | ⟨e, next, accepted, added⟩
      · exact same.symm ▸ .takeTicket s
      · exact added.symm ▸ .entry next accepted
  | entryFor ticket description initial producer prerequisites =>
      simp only [Clause.declare, stateAfter_discard]
      rcases stateAfter_entryFor (s := s) with same | ⟨e, -, accepted, added⟩
      · exact same.symm ▸ .refused s
      · exact added.symm ▸ .entryFor accepted
  | disableByDefault index => exact .disableByDefault s index
  | markDeprecated kind index message => exact step_markDeprecated

end Declare

structure Entry.Proper (e : Entry) : Prop where
  ascending : e.prerequisites.Pairwise (· < ·)
  other : e.ticket ∉ e.prerequisites

namespace System

variable {s s' : System} {e : Entry}

/-- Systems made by declarations, in whatever order, and attached to diagrams or not. -/
inductive Declared : System → Prop
  | new (name typeName registry : String) : Declared { name, typeName, registry }
  | declare {s : System} (pathname : String) (clause : Clause) :
      Declared s → Declared (stateAfter (clause.declare pathname) s)
  | attach {s : System} (diagram : Nat) : Declared s → Declared { s with parent := some diagram }

def declaredBy (name : String) (clauses : List Clause) : System :=
  clauses.foldl (fun s clause => stateAfter (clause.declare s!"::{name}") s)
    { name, typeName := name, registry := "" }

theorem declared_declaredBy {name : String} {clauses : List Clause} :
    (declaredBy name clauses).Declared :=
  List.foldlRecOn clauses _ (.new ..) fun _ declared clause _ => declared.declare _ clause

theorem Accepts.proper (h : s.Accepts e) : e.Proper where
  ascending := h.ascending
  other own := by simpa [isKnownPrerequisite] using h.known _ own

theorem Step.proper (h : s.Step s') (before : ∀ e ∈ s.entries, e.Proper) :
    ∀ e ∈ s'.entries, e.Proper := by
  have extended {new : Entry} (proper : new.Proper) : ∀ e ∈ s.entries ++ [new], e.Proper :=
    List.forall_mem_append.mpr ⟨before, by simpa using proper⟩
  cases h with
  | entryFor accepted => exact extended accepted.proper
  | entry next accepted => exact extended accepted.proper
  | disableByDefault index =>
      intro e mem
      obtain ⟨i, found⟩ := List.mem_iff_getElem?.mp mem
      rw [List.getElem?_modify] at found
      obtain ⟨old, foundOld, rfl⟩ := Option.map_eq_some_iff.mp found
      have proper := before old (List.mem_of_getElem? foundOld)
      split
      · exact ⟨proper.ascending, proper.other⟩
      · exact proper
  | _ => exact before

theorem Declared.proper (h : s.Declared) : ∀ e ∈ s.entries, e.Proper := by
  induction h with
  | new => simp
  | declare pathname clause _ ih => exact (Declare.step_clause clause).proper ih
  | attach diagram _ ih => exact ih

end System

namespace System

/-- `R` relates each system to what becomes of it by a clause or by being attached to a diagram, and
a system that does not exist to each new one. -/
structure Lasting (R : System → System → Prop) : Prop where
  frame : Frame R
  declare : ∀ (pathname : String) (clause : Clause) (s : System),
    R s (stateAfter (clause.declare pathname) s)
  attach : ∀ (s : System) (diagram : Nat), R s { s with parent := some diagram }
  new : ∀ name typeName registry : String, R Blueprint.noSystem { name, typeName, registry }

theorem lasting_declared : Lasting fun s s' => s.Declared → s'.Declared where
  frame := ⟨fun _ => id, fun first later => later ∘ first⟩
  declare pathname clause _ declared := declared.declare pathname clause
  attach _ diagram declared := declared.attach diagram
  new name typeName registry _ := .new name typeName registry

end System

namespace Blueprint

variable {R : System → System → Prop} {b b' : Blueprint} {id : SystemId}

def Lasts (R : System → System → Prop) (b b' : Blueprint) : Prop :=
  ∀ id, R (b.system id) (b'.system id)

theorem Lasts.frame (frame : Frame R) : Frame (Lasts R) where
  refl b id := frame.refl (b.system id)
  trans first later id := frame.trans (first id) (later id)

theorem lasts_set (frame : Frame R) {s : System} (kept : R (b.system id) s) :
    Lasts R b { b with systems := b.systems.set id s } := by
  intro other
  by_cases same : id = other
  · subst same
    by_cases inside : id < b.systems.length
    · simpa [system, List.getD_eq_getElem?_getD, inside] using kept
    · simpa [system, List.getD_eq_getElem?_getD, inside] using frame.refl _
  · simpa [system, List.getD_eq_getElem?_getD, same] using frame.refl _

theorem lasts_declare {α : Type} (frame : Frame R) {f : String → Declare α}
    (kept : ∀ pathname, Keeps R (f pathname)) : Keeps (Lasts R) (declare id f) := by
  intro b
  have made := kept (b.pathname id) (b.system id)
  simp only [KeepsAt, stateAfter, declare] at made ⊢
  cases result : f (b.pathname id) (b.system id) <;> rw [result] at made <;>
    exact lasts_set frame made

theorem keeps_attach {R : Blueprint → Blueprint → Prop} (frame : Frame R) {diagram : Nat}
    {children : List SystemId} (attaches : ∀ child, Keeps R (setParent child diagram)) :
    R b (attach diagram children b).2 := by
  induction children generalizing b with
  | nil => exact frame.refl b
  | cons child rest ih =>
      have first : R b (stateAfter (setParent child diagram) b) := attaches child b
      simp only [attach, stateAfter] at first ⊢
      cases result : setParent child diagram b <;> rw [result] at first <;> exact frame.trans first ih

theorem keeps_addDiagram {R : Blueprint → Blueprint → Prop} (frame : Frame R) {d : Diagram}
    (attaches : ∀ child diagram, Keeps R (setParent child diagram))
    (idle : ∀ (b : Blueprint) (diagrams : List (Option Diagram)), R b { b with diagrams }) :
    R b (b.addDiagram d).2 := by
  have attached : R b
      (attach b.diagrams.length d.children { b with diagrams := b.diagrams ++ [some d] }).2 :=
    frame.trans (idle b _) (keeps_attach frame fun child => attaches child _)
  simp only [addDiagram]
  cases b.diagramNumber? d.owner with
  | none => exact attached
  | some earlier => exact frame.trans attached (idle _ _)

variable (lasting : System.Lasting R)
include lasting

theorem lasts_setParent {diagram : Nat} : Keeps (Lasts R) (setParent id diagram) := by
  refine lasts_declare lasting.frame fun pathname => .step lasting.frame fun s s' made => ?_
  split at made
  · cases made
  · obtain rfl := Except.ok.inj made
    exact lasting.attach s diagram

theorem lasts_addDiagram {d : Diagram} : Lasts R b (b.addDiagram d).2 :=
  keeps_addDiagram (Lasts.frame lasting.frame) (fun _ _ => lasts_setParent lasting)
    fun _ _ _ => lasting.frame.refl _

theorem lasts_addSystem {name typeName registry : String} :
    Lasts R b (b.addSystem name typeName registry) := by
  intro id
  simp only [system, addSystem, List.getD_eq_getElem?_getD]
  rcases Nat.lt_trichotomy id b.systems.length with old | rfl | beyond
  · rw [List.getElem?_append_left old]
    exact lasting.frame.refl _
  · simpa using lasting.new name typeName registry
  · rw [List.getElem?_eq_none (Nat.le_of_lt beyond),
      List.getElem?_eq_none (by simpa using Nat.succ_le_of_lt beyond)]
    exact lasting.frame.refl _

end Blueprint

namespace Session

variable {R : System → System → Prop} {s : Session}

theorem lasts_apply (lasting : System.Lasting R) (a : Action) :
    Blueprint.Lasts R s.blueprint (s.apply a).blueprint := by
  cases a with
  | addSystem name typeName registry => exact Blueprint.lasts_addSystem lasting
  | declare id clause =>
      exact Blueprint.lasts_declare lasting.frame (fun pathname => lasting.declare pathname clause)
        s.blueprint
  | addDiagram d => exact Blueprint.lasts_addDiagram lasting
  | setParent id diagram => exact Blueprint.lasts_setParent lasting s.blueprint
  | _ => exact (Blueprint.Lasts.frame lasting.frame).refl _

theorem Reachable.declared (h : s.Reachable) (id : SystemId) : (s.blueprint.system id).Declared := by
  induction h with
  | start => exact .new "" "" ""
  | apply a _ ih => exact lasts_apply System.lasting_declared a id ih

end Session

end Dataflow
