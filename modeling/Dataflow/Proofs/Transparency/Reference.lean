import Dataflow.Evaluation
import Dataflow.Proofs.Graph.Downstream

namespace Dataflow

abbrev Reply := Except Error (Option Value)

/-- What questions come to; absent where that is not known. -/
abbrev Replies := Query → Option Reply

namespace Query

def port? : Query → Option Nat
  | input port | requiredInput port | inputAs _ port | vectorInput port => some port
  | entry _ | output _ | boundaryOutput _ => none

def Admits (content : Nat → Value → Prop) : Query → Reply → Prop
  | _, .error _ => True
  | requiredInput _, .ok v => v ≠ none
  | inputAs type _, .ok (some v) => v.type = type
  | vectorInput _, .ok (some v) => v.type = .vector
  | entry index, .ok v => ∃ x, v = some x ∧ content index x
  | _, .ok _ => True

end Query

namespace Script

/-- What a script comes to that gets these replies. There is no outcome if a reply is absent, if the
script panics, or if it reads a number from outside. -/
def outcome (replies : Replies) : Script → Option (Except Error Value)
  | finish out => some (.ok out)
  | stop _ (.failed e) => some (.error e)
  | stop _ (.panicked _) => none
  | ask _ q resume =>
      match replies q with
      | some reply => outcome replies (resume reply)
      | none => none
  | read _ _ => none
  | write _ _ rest => outcome replies rest

/-- A script that reads nothing from outside, asks allowed questions only, and ends with a value or
an error and with such content. -/
inductive Confined (allowed : Query → Prop) (admits : Query → Reply → Prop) (content : Value → Prop) :
    Script → Prop
  | finish {out : Value} : content out → Confined allowed admits content (finish out)
  | stop {out : Value} {e : Error} : content out → Confined allowed admits content (stop out (.failed e))
  | ask {out : Value} {q : Query} {resume : Reply → Script} : allowed q →
      (∀ reply, admits q reply → Confined allowed admits content (resume reply)) →
      Confined allowed admits content (ask out q resume)
  | write {cell : String} {x : Float} {rest : Script} : Confined allowed admits content rest →
      Confined allowed admits content (write cell x rest)

variable {allowed : Query → Prop} {admits : Query → Reply → Prop} {content : Value → Prop}
  {script : Script} {replies replies' : Replies}

theorem Confined.outcome_eq (h : script.Confined allowed admits content)
    (known : ∀ q, allowed q →
      ∃ reply, replies q = some reply ∧ replies' q = some reply ∧ admits q reply) :
    ∃ x, script.outcome replies = some x ∧ script.outcome replies' = some x ∧
      ∀ v, x = .ok v → content v := by
  induction h with
  | @finish out holds =>
      refine ⟨.ok out, rfl, rfl, ?_⟩
      intro v same
      cases same
      exact holds
  | @stop out e _ => exact ⟨.error e, rfl, rfl, by simp⟩
  | @ask out q resume may _ ih =>
      obtain ⟨reply, first, second, admitted⟩ := known q may
      simpa only [outcome, first, second] using ih reply admitted
  | write _ ih => exact ih

end Script

/-- The question is about an input port, or about an entry other than `index`, with a tracker that
leads to the tracker `t`. -/
inductive System.Covers (s : System) (g : Graph) (index : Nat) (t : Ticket) : Query → Prop
  | input {q : Query} {port : Nat} {p : Port} : q.port? = some port → s.inputs[port]? = some p →
      g.Reaches p.ticket t → Covers s g index t q
  | entry {j : Nat} {e : Entry} : j ≠ index → s.entries[j]? = some e → g.Reaches e.ticket t →
      Covers s g index t (.entry j)

/-- The producer of entry `index` keeps to what the entry declares, and does not mind what the slot
holds when it begins. -/
structure System.Disciplines (s : System) (g : Graph) (content : Nat → Value → Prop) (index : Nat)
    (e : Entry) : Prop where
  initial : content index e.initial
  confined : ∀ v, content index v →
    (e.producer v).Confined (s.Covers g index e.ticket) (Query.Admits content) (content index)
  independent : ∀ (v : Value) (replies : Replies), content index v →
    (∀ q, s.Covers g index e.ticket q → ∃ reply, replies q = some reply ∧ q.Admits content reply) →
    (e.producer v).outcome replies = (e.producer e.initial).outcome replies

/-- All producers of the system do so, where each entry has content of some kind of its own. -/
def System.Disciplined (s : System) (g : Graph) (content : Nat → Value → Prop) : Prop :=
  ∀ (i : Nat) (e : Entry), s.entries[i]? = some e → s.Disciplines g content i e

def System.Ordered (s : System) (g : Graph) : Prop :=
  ∀ (i j : Nat) (e e' : Entry), s.entries[i]? = some e → s.entries[j]? = some e' →
    g.Reaches e.ticket e'.ticket → i ≤ j

namespace Reference

variable (b : Blueprint) (id : SystemId) (fixed : Nat → Option Value) (replies : Replies)

def inputValue (func : String) (port : Nat) : Reply := do
  let _ ← (b.system id).input func (b.pathname id) port
  return fixed port

def typedInput (type : ValueType) (port : Nat) : Reply := do
  match ← inputValue b id fixed "EvalInputValue" port with
  | none => return none
  | some v =>
      if v.type = type then return some v
      let declared ← (b.system id).input "EvalInputValue" (b.pathname id) port
      throw (.wrongType ⟨"EvalInputValue", declared.name, port, b.pathname id⟩
        type.name v.type.name)

def requiredInput (port : Nat) : Reply := do
  match ← inputValue b id fixed "EvalRequiredInput" port with
  | some v => return some v
  | none =>
      let declared ← (b.system id).input "EvalRequiredInput" (b.pathname id) port
      throw (.unconnected ⟨"EvalRequiredInput", declared.name, port, b.pathname id⟩)

def vectorInput (port : Nat) : Reply := do
  let declared ← (b.system id).input "EvalVectorInput" (b.pathname id) port
  if declared.type.isVector then typedInput b id fixed .vector port
  else throw (.notVector ⟨"EvalVectorInput", declared.name, port, b.pathname id⟩)

def entryValue (index : Nat) : Option (Except Error Value) :=
  match (b.system id).entry "EvalCacheEntry" (b.pathname id) index with
  | .ok e => (e.producer e.initial).outcome replies
  | .error e => some (.error e)

def outputValue (index : Nat) : Option (Except Error Value) :=
  match (b.system id).output "EvalOutput" (b.pathname id) index with
  | .error e => some (.error e)
  | .ok port =>
      match if port.child.isNone then (b.system id).entryFor? port.dependency else none with
      | some e => entryValue b id replies e
      | none => some (.error (.notCacheBacked ⟨"EvalOutput", port.name, index, b.pathname id⟩))

/-- What a question comes to, given what those come to that it leads to. The system has no subsystems
that could compute an output port for it. -/
def respond : Replies
  | .input port => some (inputValue b id fixed "EvalAbstractInput" port)
  | .requiredInput port => some (requiredInput b id fixed port)
  | .inputAs type port => some (typedInput b id fixed type port)
  | .vectorInput port => some (vectorInput b id fixed port)
  | .entry index => (entryValue b id replies index).map (·.map some)
  | .output index => (outputValue b id replies index).map (·.map some)
  | .boundaryOutput index =>
      match (b.diagram? id).bind (·.exportedOutput? index) with
      | some e => some (.error (.unknownContext e.child))
      | none => (outputValue b id replies index).map (·.map some)

def answer : Nat → Replies
  | 0 => fun _ => none
  | depth + 1 => respond b id fixed (answer depth)

/-- What the entry `index` comes to. No entry leads to others through more steps than there are
entries. -/
def value (index : Nat) : Option (Except Error Value) :=
  entryValue b id (answer b id fixed (b.system id).entries.length) index

def evaluate : Replies := answer b id fixed ((b.system id).entries.length + 1)

variable {b id fixed replies} {fixed' : Nat → Option Value} {replies' : Replies}
  {content : Nat → Value → Prop} {g : Graph}

theorem admits_typedInput {type : ValueType} {port : Nat} {v : Value}
    (h : typedInput b id fixed type port = .ok (some v)) : v.type = type := by
  simp only [typedInput, inputValue, bind, Except.bind, pure, Except.pure] at h
  cases known : (b.system id).input "EvalInputValue" (b.pathname id) port with
  | error e => simp [known] at h
  | ok p =>
      simp only [known] at h
      split at h
      · cases h
      · split at h
        · rename_i right
          obtain rfl := Option.some.inj (Except.ok.inj h)
          exact right
        · cases h

theorem admits_requiredInput {port : Nat} {v : Option Value}
    (h : requiredInput b id fixed port = .ok v) : v ≠ none := by
  simp only [requiredInput, bind, Except.bind, pure, Except.pure] at h
  split at h
  · cases h
  · split at h
    · exact Except.ok.inj h ▸ Option.some_ne_none _
    · split at h <;> cases h

theorem admits_vectorInput {port : Nat} {v : Value}
    (h : vectorInput b id fixed port = .ok (some v)) : v.type = .vector := by
  simp only [vectorInput, bind, Except.bind] at h
  split at h
  · cases h
  · split at h
    · exact admits_typedInput h
    · cases h

theorem respond_port {q : Query} {port : Nat} (about : q.port? = some port)
    (same : fixed' port = fixed port) : ∃ reply, respond b id fixed replies q = some reply ∧
      respond b id fixed' replies' q = some reply ∧ q.Admits content reply := by
  have value (func : String) : inputValue b id fixed' func port = inputValue b id fixed func port := by
    simp only [inputValue, same]
  have typed (type : ValueType) :
      typedInput b id fixed' type port = typedInput b id fixed type port := by
    simp only [typedInput, value]
  cases q with
  | input p =>
      obtain rfl := Option.some.inj about
      refine ⟨_, rfl, congrArg some (value _), ?_⟩
      cases inputValue b id fixed "EvalAbstractInput" p <;> trivial
  | requiredInput p =>
      obtain rfl := Option.some.inj about
      refine ⟨requiredInput b id fixed p, rfl, by simp only [respond, requiredInput, value], ?_⟩
      cases reply : requiredInput b id fixed p with
      | error e => trivial
      | ok v => exact admits_requiredInput reply
  | inputAs type p =>
      obtain rfl := Option.some.inj about
      refine ⟨typedInput b id fixed type p, rfl, congrArg some (typed type), ?_⟩
      rcases reply : typedInput b id fixed type p with e | _ | v
      · trivial
      · trivial
      · exact admits_typedInput reply
  | vectorInput p =>
      obtain rfl := Option.some.inj about
      refine ⟨vectorInput b id fixed p, rfl, by simp only [respond, vectorInput, typed], ?_⟩
      rcases reply : vectorInput b id fixed p with e | _ | v
      · trivial
      · trivial
      · exact admits_vectorInput reply
  | entry | output | boundaryOutput => cases about

theorem admits_port {q : Query} {port : Nat} {reply : Reply} (about : q.port? = some port)
    (known : respond b id fixed replies q = some reply) : q.Admits content reply := by
  obtain ⟨reply', same, -, admitted⟩ : ∃ reply, respond b id fixed replies q = some reply ∧
      respond b id fixed replies q = some reply ∧ q.Admits content reply := respond_port about rfl
  exact Option.some.inj (known.symm.trans same) ▸ admitted

variable {i depth depth' : Nat} {e : Entry}

theorem entryValue_of_found (found : (b.system id).entries[i]? = some e) :
    entryValue b id replies i = (e.producer e.initial).outcome replies := by
  simp [entryValue, System.entry, found]

def Agree (s : System) (g : Graph) (t : Ticket) (fixed fixed' : Nat → Option Value) : Prop :=
  ∀ (port : Nat) (p : Port), s.inputs[port]? = some p → g.Reaches p.ticket t →
    fixed' port = fixed port

theorem entryValue_eq (ordered : (b.system id).Ordered g)
    (disciplined : (b.system id).Disciplined g content)
    (found : (b.system id).entries[i]? = some e) (deep : i < depth) (deep' : i < depth')
    (agree : Agree (b.system id) g e.ticket fixed fixed') :
    ∃ x, entryValue b id (answer b id fixed depth) i = some x ∧
      entryValue b id (answer b id fixed' depth') i = some x ∧ ∀ v, x = .ok v → content i v := by
  -- an entry leads to others through entries with smaller numbers only
  induction i using Nat.strong_induction_on generalizing e depth depth' with
  | _ i ih =>
      have ⟨initial, confined, _⟩ := disciplined i e found
      rw [entryValue_of_found found, entryValue_of_found found]
      apply (confined e.initial initial).outcome_eq
      intro q covered
      obtain ⟨depth, rfl⟩ := Nat.exists_eq_add_of_lt deep
      obtain ⟨depth', rfl⟩ := Nat.exists_eq_add_of_lt deep'
      cases covered with
      | input about known reached => exact respond_port about (agree _ _ known reached)
      | @entry j e' other known reached =>
          have less : j < i :=
            Nat.lt_of_le_of_ne (ordered j i e' e known found reached) other
          obtain ⟨x, first, second, holds⟩ :
              ∃ x, entryValue b id (answer b id fixed (i + depth)) j = some x ∧
                entryValue b id (answer b id fixed' (i + depth')) j = some x ∧
                ∀ v, x = .ok v → content j v :=
            ih j less known (Nat.lt_add_right _ less) (Nat.lt_add_right _ less)
              fun port p declared leads => agree port p declared (leads.trans reached)
          refine ⟨x.map some, by simp [answer, respond, first], by simp [answer, respond, second], ?_⟩
          cases x with
          | error e => trivial
          | ok v => exact ⟨v, rfl, holds v rfl⟩

theorem agree_refl {s : System} {t : Ticket} : Agree s g t fixed fixed := fun _ _ _ _ => rfl

variable (ordered : (b.system id).Ordered g) (disciplined : (b.system id).Disciplined g content)
include ordered disciplined

theorem value_eq (found : (b.system id).entries[i]? = some e)
    (agree : Agree (b.system id) g e.ticket fixed fixed') :
    ∃ x, value b id fixed i = some x ∧ value b id fixed' i = some x ∧ ∀ v, x = .ok v → content i v :=
  have bound := (List.getElem?_eq_some_iff.mp found).1
  entryValue_eq ordered disciplined found bound bound agree

theorem value_of_deep (found : (b.system id).entries[i]? = some e) (deep : i < depth) :
    entryValue b id (answer b id fixed depth) i = value b id fixed i := by
  have bound := (List.getElem?_eq_some_iff.mp found).1
  obtain ⟨x, first, second, -⟩ : ∃ x, entryValue b id (answer b id fixed depth) i = some x ∧
      value b id fixed i = some x ∧ ∀ v, x = .ok v → content i v :=
    entryValue_eq ordered disciplined found deep bound agree_refl
  exact first.trans second.symm

end Reference

end Dataflow
