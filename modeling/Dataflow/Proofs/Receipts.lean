import Dataflow.Proofs.Acceptance

/-!
# What a system keeps of its declarations

Every source, port and cache entry stands where its declaration has put it, with the ticket that goes with
it. The tickets that the system has chosen itself are all different, and no entry depends on an output
port of the system, not on one that was declared after it either.
-/

namespace Dataflow

inductive Receipt where
  | source (ticket : Ticket)
  | port (kind : PortKind) (index : Nat) (ticket : Ticket)
  /-- `chosen` tells whether the caller has named the ticket -/
  | entry (index : Nat) (ticket : Ticket) (chosen : Bool)
  deriving DecidableEq, Repr

namespace Receipt

def source? : Receipt → Option Ticket
  | source ticket => some ticket
  | _ => none

def port? (kind : PortKind) : Receipt → Option (Ticket × Nat)
  | port kind' index ticket => if kind' = kind then some (ticket, index) else none
  | _ => none

def entry? : Receipt → Option (Ticket × Nat)
  | entry index ticket _ => some (ticket, index)
  | _ => none

def issued? : Receipt → Option Ticket
  | source ticket | port _ _ ticket | entry _ ticket false => some ticket
  | entry _ _ true => none

end Receipt

def answer? {ε σ α : Type} (f : EStateM ε σ α) (s : σ) : Option α :=
  match f s with
  | .ok a _ => some a
  | .error _ _ => none

namespace Clause

def receipt? (pathname : String) (s : System) : Clause → Option Receipt
  | .source group description => (answer? (Declare.source group description) s).map .source
  | .input name type => (answer? (Declare.input name type) s).map (.port .input · s.nextTicket)
  | .output name type child dependency =>
      (answer? (Declare.output name type child dependency) s).map (.port .output · s.nextTicket)
  | .entry description initial producer prerequisites =>
      (answer? (Declare.entry pathname description initial producer prerequisites) s).map
        (.entry · s.nextTicket false)
  | .entryFor ticket description initial producer prerequisites =>
      (answer? (Declare.entryFor pathname ticket description initial producer prerequisites) s).map
        (.entry · ticket true)
  | .takeTicket | .disableByDefault _ | .markDeprecated .. => none

/-- What is left of a system that refuses the clause: an entry takes its ticket nevertheless. -/
def refused (s : System) : Clause → System
  | .entry .. => s.advanced
  | _ => s

end Clause

namespace Declare

variable {s s' : System} {pathname description : String} {ticket : Ticket} {initial : Value}
  {producer : Producer} {prerequisites : List Ticket} {error : Error}

theorem entryFor_outcome :
    (∃ e : Entry, e.ticket = ticket ∧ s.Accepts e ∧
      entryFor pathname ticket description initial producer prerequisites s =
        .ok s.entries.length { s with entries := s.entries ++ [e] }) ∨
    ∃ error, entryFor pathname ticket description initial producer prerequisites s = .error error s := by
  let e : Entry := { ticket, description, initial, producer, prerequisites := ascending prerequisites }
  have run : entryFor pathname ticket description initial producer prerequisites s =
      ((Attempt.step fun s => s.addEntry pathname e) >>= fun _ => do
        return (← get).entries.length - 1 : Declare Nat) s := rfl
  rw [run, bind_apply]
  simp only [Attempt.step]
  cases made : s.addEntry pathname e with
  | error error => exact .inr ⟨error, rfl⟩
  | ok s' =>
      obtain ⟨accepted, rfl⟩ := System.addEntry_ok (pairwise_ascending prerequisites) made
      exact .inl ⟨e, rfl, accepted, by simp [bind_apply, get_apply, pure, EStateM.pure]⟩

theorem error_of_discard {ε σ α : Type} {f : EStateM ε σ α} {s s' : σ} {e : ε}
    (failed : Functor.discard f s = .error e s') : f s = .error e s' := by
  simp only [Functor.discard, Functor.mapConst, EStateM.map, Function.comp] at failed
  cases result : f s with
  | ok a t => simp [result] at failed
  | error e' t => simpa [result] using failed

theorem state_of_refused {clause : Clause} (failed : clause.declare pathname s = .error error s') :
    s' = clause.refused s := by
  cases clause with
  | takeTicket | input | output | source | disableByDefault => cases failed
  | entry description initial producer prerequisites =>
      have failed := error_of_discard failed
      rcases @entry_outcome s pathname description initial producer prerequisites
        with ⟨-, e, -, made⟩ | ⟨-, error, refused⟩
      · cases made.symm.trans failed
      · cases refused.symm.trans failed
        rfl
  | entryFor ticket description initial producer prerequisites =>
      have failed := error_of_discard failed
      rcases entryFor_outcome (s := s) with ⟨e, -, -, made⟩ | ⟨error, refused⟩
      · cases made.symm.trans failed
      · cases refused.symm.trans failed
        rfl
  | markDeprecated kind index message =>
      simp only [Clause.declare, markDeprecated, Attempt.step] at failed
      split at failed <;> cases failed
      rfl

end Declare

structure Issued (tickets : List Ticket) (next : Ticket) : Prop where
  ascending : tickets.Pairwise (· < ·)
  bounds : ∀ t ∈ tickets, Ticket.firstAssignable ≤ t ∧ t < next

namespace Issued

variable {tickets : List Ticket} {next : Ticket}

theorem skip (h : Issued tickets next) : Issued tickets next.next where
  ascending := h.ascending
  bounds t mem := (h.bounds t mem).imp_right Nat.lt_succ_of_lt

theorem take (h : Issued tickets next) (start : Ticket.firstAssignable ≤ next) :
    Issued (tickets ++ [next]) next.next where
  ascending := List.pairwise_append.mpr ⟨h.ascending, List.pairwise_singleton _ _, fun t mem _ last =>
    List.mem_singleton.mp last ▸ (h.bounds t mem).2⟩
  bounds := List.forall_mem_append.mpr
    ⟨h.skip.bounds, List.forall_mem_singleton.mpr ⟨start, Nat.lt_succ_self next⟩⟩

end Issued

def System.portTickets (s : System) : PortKind → List Ticket
  | .input => s.inputs.map (·.ticket)
  | .output => s.outputs.map (·.ticket)

/-- The entry depends on something, on what the system has handed out, and on no output port. -/
structure Entry.Kept (s : System) (e : Entry) : Prop where
  nonempty : e.prerequisites ≠ []
  other : e.ticket ∉ e.prerequisites
  known : ∀ t ∈ e.prerequisites, t.isBuiltIn = true ∨ t < s.nextTicket
  internal : ∀ t ∈ e.prerequisites, t ∉ s.portTickets .output

theorem Entry.Kept.later {s s' : System} {e : Entry} (h : e.Kept s) (start : Ticket.firstAssignable ≤ s.nextTicket)
    (next : s.nextTicket ≤ s'.nextTicket)
    (outputs : ∀ t ∈ s'.portTickets .output, t ∈ s.portTickets .output ∨ s.nextTicket ≤ t) :
    e.Kept s' := by
  refine ⟨h.nonempty, h.other, fun t named => ?_, fun t named listed => ?_⟩
  · exact (h.known t named).imp_right fun before => Nat.lt_of_lt_of_le before next
  · rcases outputs t listed with old | later
    · exact h.internal t named old
    · refine Nat.not_lt_of_le later ?_
      rcases h.known t named with builtIn | before
      · exact Nat.lt_of_lt_of_le (of_decide_eq_true builtIn) start
      · exact before

namespace System

variable {s s' : System} {e : Entry} {receipts : List Receipt}

structure Settled (s : System) : Prop where
  start : Ticket.firstAssignable ≤ s.nextTicket
  outputs : ∀ t ∈ s.portTickets .output, Ticket.firstAssignable ≤ t
  entries : ∀ e ∈ s.entries, e.Kept s

theorem Accepts.kept (h : s.Accepts e)
    (outputs : ∀ t ∈ s.portTickets .output, Ticket.firstAssignable ≤ t) : e.Kept s := by
  have known (t : Ticket) (mem : t ∈ e.prerequisites) :
      t.isBuiltIn = true ∨ t < s.nextTicket ∧ t ∉ s.portTickets .output := by
    have known := h.known t mem
    simp only [isKnownPrerequisite, Bool.and_eq_true, Bool.or_eq_true, decide_eq_true_eq,
      List.all_eq_true] at known
    exact known.2.imp_right (And.imp_right fun apart listed => by
      obtain ⟨p, mem, same⟩ := List.mem_map.mp listed
      exact apart p mem same)
  refine ⟨h.nonempty, h.proper.other, fun t mem => (known t mem).imp_right And.left, ?_⟩
  intro t mem listed
  rcases known t mem with builtIn | ⟨-, internal⟩
  · exact Nat.not_lt_of_le (outputs t listed) (of_decide_eq_true builtIn)
  · exact internal listed

theorem Step.settled (h : s.Step s') (before : s.Settled) : s'.Settled := by
  have start := before.start
  have next : s.nextTicket ≤ s.nextTicket.next := Nat.le_succ _
  have later : Ticket.firstAssignable ≤ s.nextTicket.next := Nat.le_trans start next
  have same {s' : System} {e : Entry} (kept : e.Kept s) (next : s.nextTicket ≤ s'.nextTicket)
      (outputs : s'.portTickets .output = s.portTickets .output) : e.Kept s' :=
    kept.later start next fun t listed => .inl (outputs ▸ listed)
  cases h with
  | refused => exact before
  | takeTicket | input | source =>
      exact ⟨later, before.outputs, fun e mem => same (before.entries e mem) next rfl⟩
  | output name type child dependency =>
      have tickets : s.portTickets .output ++ [s.nextTicket] =
          System.portTickets { s.advanced with outputs := s.outputs ++
            [{ name, ticket := s.nextTicket, type, child, dependency }] } .output := by
        simp [portTickets]
      refine ⟨later, ?_, fun e mem => (before.entries e mem).later start next ?_⟩
      all_goals rw [← tickets]
      · exact List.forall_mem_append.mpr ⟨before.outputs, List.forall_mem_singleton.mpr start⟩
      · exact List.forall_mem_append.mpr
          ⟨fun _ => .inl, List.forall_mem_singleton.mpr (.inr (Nat.le_refl _))⟩
  | entryFor accepted =>
      refine ⟨start, before.outputs, fun e mem => ?_⟩
      rcases List.mem_append.mp mem with old | new
      · exact same (before.entries e old) (Nat.le_refl _) rfl
      · obtain rfl := List.mem_singleton.mp new
        exact same (accepted.kept before.outputs) (Nat.le_refl _) rfl
  | entry _ accepted =>
      refine ⟨later, before.outputs, fun e mem => ?_⟩
      rcases List.mem_append.mp mem with old | new
      · exact same (before.entries e old) next rfl
      · obtain rfl := List.mem_singleton.mp new
        exact (accepted.kept before.outputs).later later (Nat.le_refl _) fun _ => .inl
  | disableByDefault index =>
      refine ⟨start, before.outputs, fun e mem => ?_⟩
      obtain ⟨i, found⟩ := List.mem_iff_getElem?.mp mem
      rw [List.getElem?_modify] at found
      obtain ⟨old, foundOld, rfl⟩ := Option.map_eq_some_iff.mp found
      have kept := before.entries old (List.mem_of_getElem? foundOld)
      split
      · exact ⟨kept.nonempty, kept.other, kept.known, kept.internal⟩
      · exact same kept (Nat.le_refl _) rfl
  | markInput index message =>
      exact ⟨start, before.outputs, fun e mem => same (before.entries e mem) (Nat.le_refl _) rfl⟩
  | markOutput index message =>
      let marked : System := { s with outputs := s.outputs.modify index fun p =>
        { p with toPort := p.toPort.markDeprecated message } }
      have tickets : marked.portTickets .output = s.portTickets .output :=
        map_modify (fun _ => by rfl) _ _
      exact ⟨start, fun t listed => before.outputs t (tickets ▸ listed),
        fun e mem => same (before.entries e mem) (Nat.le_refl _) tickets⟩

/-- All that the system has declared is where the receipts say, and nothing else is there. -/
structure Books (s : System) (receipts : List Receipt) : Prop where
  issued : Issued (receipts.filterMap Receipt.issued?) s.nextTicket
  sources : s.sources.map (·.ticket) = receipts.filterMap Receipt.source?
  ports : ∀ kind, (s.portTickets kind).zipIdx = receipts.filterMap (Receipt.port? kind)
  entries : (s.entries.map (·.ticket)).zipIdx = receipts.filterMap Receipt.entry?

theorem Books.extend (h : s.Books receipts) (more : List Receipt)
    (issued : Issued (receipts.filterMap Receipt.issued? ++ more.filterMap Receipt.issued?)
      s'.nextTicket)
    (sources : s'.sources.map (·.ticket) = s.sources.map (·.ticket) ++ more.filterMap Receipt.source?)
    (ports : ∀ kind, (s'.portTickets kind).zipIdx =
      (s.portTickets kind).zipIdx ++ more.filterMap (Receipt.port? kind))
    (entries : (s'.entries.map (·.ticket)).zipIdx =
      (s.entries.map (·.ticket)).zipIdx ++ more.filterMap Receipt.entry?) :
    s'.Books (receipts ++ more) := by
  refine ⟨?_, ?_, fun kind => ?_, ?_⟩ <;> rw [List.filterMap_append]
  · exact issued
  · rw [sources, h.sources]
  · rw [ports, h.ports]
  · rw [entries, h.entries]

theorem Books.quiet (h : s.Books receipts)
    (issued : Issued (receipts.filterMap Receipt.issued?) s'.nextTicket)
    (sources : s'.sources.map (·.ticket) = s.sources.map (·.ticket))
    (ports : ∀ kind, s'.portTickets kind = s.portTickets kind)
    (entries : s'.entries.map (·.ticket) = s.entries.map (·.ticket)) : s'.Books (receipts ++ []) :=
  h.extend [] (by simpa using issued) (by simpa using sources) (fun kind => by simp [ports])
    (by simp [entries])

theorem Books.markDeprecated (h : s.Books receipts) {pathname message : String} {kind : PortKind}
    {index : Nat} : (stateAfter (Declare.markDeprecated pathname kind index message) s).Books
      (receipts ++ []) := by
  have same : s.Books (receipts ++ []) := h.quiet h.issued rfl (fun _ => rfl) rfl
  cases kind
  all_goals simp only [stateAfter, Declare.markDeprecated, Attempt.step, bind, Except.bind]
  · cases s.input "DeprecateInputPort" pathname index with
    | error e => exact same
    | ok port =>
        refine h.quiet h.issued rfl (fun kind => ?_) rfl
        cases kind
        · exact map_modify (fun _ => by rfl) _ _
        · rfl
  · cases s.output "DeprecateOutputPort" pathname index with
    | error e => exact same
    | ok port =>
        refine h.quiet h.issued rfl (fun kind => ?_) rfl
        cases kind
        · rfl
        · exact map_modify (fun _ => by rfl) _ _

theorem length_concat_pred {α : Type} (xs : List α) (x : α) : (xs ++ [x]).length - 1 = xs.length := by
  simp

theorem Books.declare (h : s.Books receipts) (start : Ticket.firstAssignable ≤ s.nextTicket)
    {pathname : String} {clause : Clause} : (stateAfter (clause.declare pathname) s).Books
      (receipts ++ (clause.receipt? pathname s).toList) := by
  have issued := h.issued.take start
  have nothing {α : Type} {xs : List α} : xs = xs ++ [] := (List.append_nil xs).symm
  cases clause with
  | takeTicket => exact h.quiet h.issued.skip rfl (fun _ => rfl) rfl
  | source group description =>
      let declared : System :=
        { s.advanced with sources := s.sources ++ [⟨group, s.nextTicket, description⟩] }
      change declared.Books (receipts ++ [.source s.nextTicket])
      exact h.extend _ issued List.map_append (fun _ => nothing) nothing
  | input name type =>
      let declared : System :=
        { s.advanced with inputs := s.inputs ++ [{ name, ticket := s.nextTicket, type }] }
      have index : answer? (Declare.input name type) s = some s.inputs.length :=
        congrArg some (length_concat_pred s.inputs _)
      rw [Clause.receipt?, index]
      change declared.Books (receipts ++ [.port .input s.inputs.length s.nextTicket])
      refine h.extend _ issued nothing (fun kind => ?_) nothing
      cases kind
      · simp [declared, portTickets, List.zipIdx_append, Receipt.port?]
      · exact nothing
  | output name type child dependency =>
      let declared : System := { s.advanced with
        outputs := s.outputs ++ [{ name, ticket := s.nextTicket, type, child, dependency }] }
      have index : answer? (Declare.output name type child dependency) s = some s.outputs.length :=
        congrArg some (length_concat_pred s.outputs _)
      rw [Clause.receipt?, index]
      change declared.Books (receipts ++ [.port .output s.outputs.length s.nextTicket])
      refine h.extend _ issued nothing (fun kind => ?_) nothing
      cases kind
      · exact nothing
      · simp [declared, portTickets, List.zipIdx_append, Receipt.port?]
  | entry description initial producer prerequisites =>
      rw [Clause.declare, stateAfter_discard, Clause.receipt?]
      rcases @Declare.entry_outcome s pathname description initial producer prerequisites
        with ⟨-, e, ticket, made⟩ | ⟨-, error, failed⟩
      · rw [stateAfter_ok made]
        simp only [answer?, made, Option.map_some, Option.toList_some]
        refine h.extend _ issued nothing (fun _ => nothing) ?_
        simp [ticket, List.zipIdx_append, Receipt.entry?]
      · rw [stateAfter_error failed]
        simp only [answer?, failed, Option.map_none, Option.toList_none]
        exact h.quiet h.issued.skip rfl (fun _ => rfl) rfl
  | entryFor ticket description initial producer prerequisites =>
      rw [Clause.declare, stateAfter_discard, Clause.receipt?]
      rcases Declare.entryFor_outcome (s := s) with ⟨e, same, -, made⟩ | ⟨error, failed⟩
      · rw [stateAfter_ok made]
        simp only [answer?, made, Option.map_some, Option.toList_some]
        refine h.extend _ ?_ nothing (fun _ => nothing) ?_
        · exact (List.append_nil _).symm ▸ h.issued
        · simp [same, List.zipIdx_append, Receipt.entry?]
      · rw [stateAfter_error failed]
        simp only [answer?, failed, Option.map_none, Option.toList_none]
        exact h.quiet h.issued rfl (fun _ => rfl) rfl
  | disableByDefault index =>
      exact h.quiet h.issued rfl (fun _ => rfl) (map_modify (fun _ => by rfl) _ _)
  | markDeprecated kind index message => exact h.markDeprecated

/-- Systems made by any clauses, refused ones included, with the receipts of those that declared
something. -/
inductive Booked : System → List Receipt → Prop
  | new (name typeName registry : String) : Booked { name, typeName, registry } []
  | attach {s : System} {receipts : List Receipt} (diagram : Nat) :
      Booked s receipts → Booked { s with parent := some diagram } receipts
  | declare {s : System} {receipts : List Receipt} (pathname : String) (clause : Clause) :
      Booked s receipts → Booked (stateAfter (clause.declare pathname) s)
        (receipts ++ (clause.receipt? pathname s).toList)

theorem Booked.settled (h : s.Booked receipts) : s.Settled := by
  induction h with
  | new name typeName registry => exact ⟨Nat.le_refl _, nofun, nofun⟩
  | @attach s _ diagram _ ih =>
      have kept (e : Entry) (mem : e ∈ s.entries) : e.Kept { s with parent := some diagram } :=
        (ih.entries e mem).later ih.start (Nat.le_refl _) fun _ => .inl
      exact ⟨ih.start, ih.outputs, kept⟩
  | declare pathname clause _ ih => exact (Declare.step_clause clause).settled ih

theorem Booked.books (h : s.Booked receipts) : s.Books receipts := by
  induction h with
  | new name typeName registry =>
      exact ⟨⟨.nil, nofun⟩, rfl, fun kind => by cases kind <;> rfl, rfl⟩
  | attach diagram _ ih => exact ⟨ih.issued, ih.sources, ih.ports, ih.entries⟩
  | declare pathname clause booked ih => exact ih.declare booked.settled.start

/-- Whatever clauses a system was declared by: all that it has declared is where the receipts say, with
tickets that are all different but for those that the caller has named; no entry depends on itself, on a
ticket not handed out yet or on an output port; and a clause that is refused changes nothing, but for the
next ticket if it is one of an entry that takes it. -/
theorem Booked.bookkeeping (h : s.Booked receipts) : s.Books receipts ∧ (∀ e ∈ s.entries, e.Kept s) ∧
    ∀ (pathname : String) (clause : Clause) (error : Error) (s' : System),
      clause.declare pathname s = .error error s' → s' = clause.refused s :=
  ⟨h.books, h.settled.entries, fun _ _ _ _ => Declare.state_of_refused⟩

def desk : System := .declaredBy "desk" [
  .source .discreteState "stack", .input "tray" (.vector 2), .takeTicket,
  .entry "sorted" .unit .finish [.allInputs, 13, 15], .output "file" (.named "()") none 16,
  .entry "filed" .unit .finish [17], .entryFor 40 "waste" .unit .finish [14, 16],
  .markDeprecated .input 7 "no such tray", .output "bin" (.named "()") none 40]

def deskReceipts : List Receipt :=
  [.source 13, .port .input 0 14, .entry 0 16 false, .port .output 0 17, .entry 1 40 true,
    .port .output 1 19]

theorem booked_desk : desk.Booked deskReceipts := by
  have history := Booked.new "desk" "desk" ""
    |>.declare "::desk" (.source .discreteState "stack")
    |>.declare "::desk" (.input "tray" (.vector 2))
    |>.declare "::desk" .takeTicket
    |>.declare "::desk" (.entry "sorted" .unit .finish [.allInputs, 13, 15])
    |>.declare "::desk" (.output "file" (.named "()") none 16)
    |>.declare "::desk" (.entry "filed" .unit .finish [17])
    |>.declare "::desk" (.entryFor 40 "waste" .unit .finish [14, 16])
    |>.declare "::desk" (.markDeprecated .input 7 "no such tray")
    |>.declare "::desk" (.output "bin" (.named "()") none 40)
  exact history

theorem desk_bookkeeping : desk.Booked deskReceipts ∧ desk.Books deskReceipts ∧
    (∀ e ∈ desk.entries, e.Kept desk) ∧
    (Clause.entry "filed" .unit .finish [17]).declare "::desk" desk =
      .error (.unknownPrerequisite "filed" 17 "::desk") desk.advanced := by
  obtain ⟨books, kept, refused⟩ := booked_desk.bookkeeping
  have failed := error_of_refusal? (f := (Clause.entry "filed" .unit .finish [17]).declare "::desk")
    (s := desk) (e := .unknownPrerequisite "filed" 17 "::desk") (by decide)
  refine ⟨booked_desk, books, kept, ?_⟩
  rwa [refused _ _ _ _ failed] at failed

end System

end Dataflow
