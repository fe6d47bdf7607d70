import Dataflow.Program
import Dataflow.Proofs.Unharmed
import Dataflow.Proofs.Visits

namespace Dataflow

variable {type : ValueType} {p : Producer} {initial : Value}

namespace Script

def InPlace (type : ValueType) : Script → Prop
  | finish out => out.type = type
  | stop out _ => out.type = type
  | ask out _ resume => out.type = type ∧ ∀ answer, (resume answer).InPlace type
  | read _ resume => ∀ x, (resume x).InPlace type
  | write _ _ rest => rest.InPlace type

theorem InPlace.type_run {script : Script} (h : script.InPlace type)
    (ask : Query → Eval (Option Value)) (r : Run) : (script.run ask r).1.1.type = type := by
  induction script generalizing r with
  | finish out => exact h
  | stop out f => exact h
  | ask out q resume ih =>
      obtain ⟨here, later⟩ := h
      simp only [run]
      cases ask q r with
      | ok v r' => exact ih _ (later (.ok v)) r'
      | error stop r' =>
          cases stop with
          | exhausted => exact here
          | fault f =>
              cases f with
              | panicked message => exact here
              | failed e => exact ih _ (later (.error e)) r'
  | read cell resume ih => exact ih _ (h _) r
  | write cell x rest ih => exact ih h _

end Script

/-- The producer works in place on the values of the type. -/
def Producer.InPlace (type : ValueType) (p : Producer) : Prop :=
  ∀ v, v.type = type → (p v).InPlace type

theorem Producer.typed_of_type {description : String} {v : Value} (right : v.type = type) :
    Producer.typed type description p v = p v := if_pos right

theorem Program.inPlace_script {description : String} (program : Program) (register : Float) :
    Producer.InPlace type (program.script description Value.store register) := by
  intro out right
  induction program generalizing register out with
  | nil => exact (out.type_store register).trans right
  | cons instruction rest ih =>
      cases instruction with
      | add x | mul x | previous => exact ih _ out right
      | cell name | bump name => exact fun x => ih _ out right
      | input | intInput | vectorInput | anyInput | requiredInput | entry | output =>
          refine ⟨right, fun answer => ?_⟩
          cases answer with
          | ok answer => exact ih _ out right
          | error cause => exact right
      | store => exact ih _ _ ((out.type_store register).trans right)
      | fail message => exact right
      | unknown => exact right
      | failIfNegative message | panicIfNegative message =>
          simp only [script]
          split
          · exact right
          · exact ih _ out right

structure Entry.Typed (e : Entry) (initial : Value) (p : Producer) : Prop where
  starts : e.initial = initial
  producer : e.producer = .typed initial.type e.description p
  inPlace : p.InPlace initial.type

variable {e : Entry} {c c' : ContextId} {i i' : Nat} {id id' : SystemId}

theorem Entry.Typed.run {v : Value} (h : e.Typed initial p) (right : v.type = initial.type) :
    e.producer v = p v ∧ (e.producer v).InPlace initial.type := by
  have same : e.producer v = p v := by rw [h.producer, Producer.typed_of_type right]
  exact ⟨same, same ▸ h.inPlace v right⟩

/-- The context `c` is set up for the system `id`, and its slot `i` holds no value of another type. -/
structure Tree.Types (t : Tree) (id : SystemId) (c : ContextId) (i : Nat) (type : ValueType) : Prop where
  context : ∃ context, t.contexts[c]? = some context ∧ context.isSetUp = true ∧ context.system = some id
  value : ∀ v, t.value? c i = some v → v.type = type

namespace Tree.Types

variable {t : Tree} {slot : Slot} {current : Serial} {f : Slot → Slot}

theorem valid_iff {b : Blueprint} (h : t.Types id c i type) :
    validate b t id' c = .ok () ↔ id' = id := by
  obtain ⟨context, found, -, system⟩ := h.context
  simp [validate_eq_ok_iff, found, system, eq_comm]

theorem modifySlot (h : t.Types id c i type) (found : Evaluation.slotOf t c' i' = .ok (slot, current))
    (right : c' = c → i' = i → ∀ v, (f slot).value = some v → v.type = type) :
    (t.modifySlot c' i' f).Types id c i type where
  context := by
    obtain ⟨context, foundContext, ready, system⟩ := h.context
    by_cases here : c' = c
    · subst here
      exact ⟨_, contexts_modifyContext_self foundContext, ready, system⟩
    · exact ⟨context, (contexts_modifyContext_ne here).trans foundContext, ready, system⟩
  value v held := by
    by_cases here : c' = c ∧ i' = i
    · obtain ⟨rfl, rfl⟩ := here
      rw [value?_modifySlot_self found] at held
      exact right rfl rfl v held
    · rw [value?_modifySlot_ne here] at held
      exact h.value v held

theorem keepSlot (h : t.Types id c i type) (found : Evaluation.slotOf t c' i' = .ok (slot, current))
    (keeps : (f slot).value = slot.value) : (t.modifySlot c' i' f).Types id c i type := by
  refine h.modifySlot found fun sameContext sameIndex v held => h.value v ?_
  rw [← sameContext, ← sameIndex, value?_of_slotOf found, ← keeps, held]

end Tree.Types

namespace Evaluation
open Relation

variable {b : Blueprint} {q : Query} {r r' : Run} {task : Task} {visits : List Visit}
  {x y : Stage} {running : List Place} {slot : Slot} {current : Serial}

def HasTyped (b : Blueprint) (id : SystemId) (i : Nat) (initial : Value) (p : Producer) : Prop :=
  ∃ e, (b.system id).entries[i]? = some e ∧ e.Typed initial p

theorem Ran.types {v out : Value} {stop : Option Stop} (declared : HasTyped b id i initial p)
    (ran : Ran b id' c' i' e r r' slot current v out stop) (h : r.tree.Types id c i initial.type)
    (inner : (r.beginProducer c' i').tree.Types id c i initial.type →
      r'.tree.Types id c i initial.type) :
    (r'.endProducer c' i' e current out (outcomeOf stop)).tree.Types id c i initial.type := by
  have begun : (r.beginProducer c' i').tree.Types id c i initial.type :=
    h.modifySlot ran.found fun _ _ v emptied => by cases emptied
  have emptied := slotOf_modifySlot (c := c') (i := i') (f := Slot.emptied) (fun _ => rfl) ran.found
  obtain ⟨slot', found', -⟩ := slotOf_of_outline ran.keeping.1 emptied
  rw [tree_endProducer]
  refine (inner begun).modifySlot found' fun sameContext sameIndex w left => ?_
  subst sameContext sameIndex
  obtain rfl : out = w := Option.some.inj left
  obtain rfl := h.valid_iff.mp ran.valid
  obtain ⟨e', declared', typed⟩ := declared
  obtain rfl := Option.some.inj (ran.declared.symm.trans declared')
  -- it began, so the slot held a value then, and that is the one it works on
  have given : v.type = initial.type :=
    h.value v ((Tree.value?_of_slotOf ran.found).trans ran.value)
  have leaves := (typed.run given).2.type_run (evaluate b id' c') (r.beginProducer c' i')
  rwa [ran.result] at leaves

theorem Makes.types (declared : HasTyped b id i initial p) (makes : Makes b id' c' task r visits)
    (wf : r.tree.WellFormed) (h : r.tree.Types id c i initial.type) :
    (afterTask b id' c' task r).tree.Types id c i initial.type := by
  refine makes.relates (P := fun _ r r' =>
    r.tree.Types id c i initial.type → r'.tree.Types id c i initial.type) wf ?idle ?append ?served ?refused
    ?ran h
  case idle => exact fun same h => same ▸ h
  case append => exact fun first later h => later (first h)
  case served => exact fun found _ h => h.keepSlot found rfl
  case refused => exact fun found _ h => h.keepSlot found rfl
  case ran => exact fun ran inner h => ran.types declared h inner

theorem types_afterTask (declared : HasTyped b id i initial p) (wf : r.tree.WellFormed)
    (h : r.tree.Types id c i initial.type) :
    (afterTask b id' c' task r).tree.Types id c i initial.type := by
  obtain ⟨visits, makes⟩ : ∃ visits, Makes b id' c' task r visits := exists_makes_task wf
  exact makes.types declared wf h

theorem types_evaluate (declared : HasTyped b id i initial p) (wf : r.tree.WellFormed)
    (h : r.tree.Types id c i initial.type) (after : stateAfter (evaluate b id' c' q) r = r') :
    r'.tree.Types id c i initial.type := by
  have types : (afterTask b id' c' (.question q) r).tree.Types id c i initial.type :=
    types_afterTask declared wf h
  exact after ▸ types

namespace Stage

theorem types_step (declared : HasTyped b id i initial p) (wf : x.run.tree.WellFormed)
    (h : x.run.tree.Types id c i initial.type) (leads : Leads b (evaluate b) x y) :
    y.run.tree.Types id c i initial.type := by
  cases leads with
  | passOn valid passed => exact passed.tree_eq ▸ h
  | begin visits found stale value =>
      rw [← visits.reads.tree_eq] at h
      exact h.modifySlot found fun _ _ v emptied => by cases emptied
  | ask | read | write => exact h
  | answered answer => exact types_evaluate declared wf h (stateAfter_ok answer)
  | heard error => exact types_evaluate declared wf h (stateAfter_error error)

/-- What the stage of an evaluation tells of the slot `i` of the context `c`, which is for values of the type
and whose producer is `p`. -/
structure Tells (b : Blueprint) (id : SystemId) (c : ContextId) (i : Nat) (type : ValueType)
    (p : Producer) (x : Stage) : Prop where
  /-- unless its producer runs, the slot holds a value of the type -/
  held : (c, i) ∉ x.running → ∃ v, x.run.tree.value? c i = some v ∧ v.type = type
  /-- if its producer is about to run, it runs on a value of the type, and does not reject that -/
  runs : ∀ running id' q r e r' slot current v, x = ⟨running, id', c, .question q, r⟩ →
    Reaches b r id' c q i e r' slot current → slot.value = some v →
      id' = id ∧ v.type = type ∧ e.producer v = p v
  /-- if the question is for the entry and is answered, the answer is of the type -/
  answers : ∀ running id' q r e r' answer r'', x = ⟨running, id', c, .question q, r⟩ →
    Visits b r id' c q i e r' → evaluate b id' c q r = .ok answer r'' →
      ∃ v, answer = some v ∧ v.type = type

theorem Sound.tells {t : Tree} (declared : HasTyped b id i initial p) (sound : x.Sound t)
    (full : (c, i) ∈ t.filled) (h : x.run.tree.Types id c i initial.type) :
    Tells b id c i initial.type p x where
  held idle := by
    have filled : (c, i) ∈ x.run.tree.filled := by
      rw [sound.filled]
      exact Finset.mem_sdiff.mpr ⟨full, by simpa using idle⟩
    obtain ⟨v, held⟩ := Option.isSome_iff_exists.mp (Tree.mem_filled_iff.mp filled)
    exact ⟨v, held, h.value v held⟩
  runs running id' q r e r' slot current v stage reaches value := by
    subst stage
    obtain rfl := h.valid_iff.mp reaches.visits.valid
    obtain ⟨e', declared', typed⟩ := declared
    obtain rfl := Option.some.inj (reaches.visits.declared.symm.trans declared')
    have held : r'.tree.value? c i = some v := (Tree.value?_of_slotOf reaches.found).trans value
    rw [reaches.visits.reads.tree_eq] at held
    have right := h.value v held
    exact ⟨rfl, right, (typed.run right).1⟩
  answers running id' q r e r' answer r'' stage visits answered := by
    subst stage
    have after : r''.tree.Types id c i initial.type :=
      types_evaluate declared sound.wellFormed h (stateAfter_ok answered)
    have wf : r'.tree.WellFormed := visits.reads.tree_eq ▸ sound.wellFormed
    rw [visits.evaluate_eq sound.wellFormed] at answered
    obtain ⟨v, slot, current, rfl, found, value, -⟩ := slot_of_evaluate wf answered
    exact ⟨v, rfl, after.value v ((Tree.value?_of_slotOf found).trans value)⟩

theorem tells_later (declared : HasTyped b id i initial p) (wf : r.tree.WellFormed)
    (full : (c, i) ∈ r.tree.filled) (h : r.tree.Types id c i initial.type)
    (path : ReflTransGen (Leads b (evaluate b)) ⟨[], id', c', task, r⟩ x) :
    Tells b id c i initial.type p x := by
  have asks : ∀ id c q, Keeps Balanced (evaluate b id c q) := fun _ _ q => keeps_evaluate (balanced b) q
  suffices x.Sound r.tree ∧ x.run.tree.Types id c i initial.type from this.1.tells declared full this.2
  induction path with
  | refl => exact ⟨sound_start wf, h⟩
  | tail _ leads ih =>
      obtain ⟨sound, types⟩ := ih
      exact ⟨sound.step asks leads, types_step declared sound.wellFormed types leads⟩

end Stage

end Evaluation

end Dataflow
