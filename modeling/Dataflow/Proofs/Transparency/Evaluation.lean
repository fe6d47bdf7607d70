import Dataflow.Proofs.Evaluation.Slots
import Dataflow.Proofs.Transparency.Host
import Dataflow.Proofs.Transparency.Yields

namespace Dataflow
open Evaluation

namespace Tree

variable {t : Tree} {c : ContextId} {i : Nat}

def Holds (t : Tree) (c : ContextId) (i : Nat) (content : Value → Prop)
    (right : Option (Except Error Value)) : Prop :=
  ∃ v, t.value? c i = some v ∧ content v ∧ (t.Current c i → right = some (.ok v))

theorem Holds.congr {t' : Tree} {content : Value → Prop} {right : Option (Except Error Value)}
    (h : t.Holds c i content right) (value : t'.value? c i = t.value? c i)
    (current : t'.Current c i → t.Current c i) : t'.Holds c i content right := by
  obtain ⟨v, held, holds, served⟩ := h
  exact ⟨v, value.trans held, holds, fun still => served (current still)⟩

end Tree

/-- A system in a context that stands alone, with producers that keep to what they declare, at the
beginning of an evaluation. -/
structure Setting where
  blueprint : Blueprint
  id : SystemId
  c : ContextId
  graph : Graph
  content : Nat → Value → Prop
  start : Run
  context : Context
  hosts : start.tree.Hosts c id (blueprint.system id) graph context
  ordered : (blueprint.system id).Ordered graph
  disciplined : (blueprint.system id).Disciplined graph content

namespace Setting

variable (S : Setting) {held : Nat → Prop} {r r' : Run} {i depth : Nat} {e : Entry}

def system : System := S.blueprint.system S.id

def right (i : Nat) : Option (Except Error Value) :=
  Reference.value S.blueprint S.id S.context.fixed? i

/-- The run is one of the evaluation, and its slots hold what they should, those that are not `held`
excepted. -/
structure Sound (held : Nat → Prop) (r : Run) : Prop where
  keeping : Keeping S.start r
  holds : ∀ i, held i → r.tree.Holds S.c i (S.content i) (S.right i)

variable {S}

theorem Sound.hosts (h : S.Sound held r) : ∃ context,
    r.tree.Hosts S.c S.id S.system S.graph context ∧ context.fixed? = S.context.fixed? := by
  obtain ⟨context, hosts, same⟩ :=
    S.hosts.of_outline (h.keeping.2 S.hosts.wellFormed) h.keeping.1
  have inputs : context.outline.inputs = S.context.outline.inputs := congrArg Context.inputs same
  refine ⟨context, hosts, funext fun port => ?_⟩
  exact congrArg (fun slots : List InputSlot => slots[port]?.bind (·.fixed)) inputs

theorem Sound.of_tree (h : S.Sound held r) (same : r'.tree = r.tree) : S.Sound held r' where
  keeping := Keeping.frame.trans h.keeping (keeping_of_tree same)
  holds i is := same ▸ h.holds i is

theorem Sound.slotOf (h : S.Sound held r) (declared : S.system.entries[i]? = some e) :
    ∃ slot n, slotOf r.tree S.c i = .ok (slot, n) := by
  obtain ⟨context, hosts, -⟩ := h.hosts
  obtain ⟨slot, n, found, -⟩ := hosts.slotOf declared
  exact ⟨slot, n, found⟩

theorem suits (held : Nat → Prop) :
    Suits S.blueprint S.id S.c S.context.fixed? (S.Sound held) where
  context r h := by
    obtain ⟨context, hosts, fixed⟩ := h.hosts
    exact ⟨context, Tree.context_eq_ok_iff.mpr hosts.found, hosts.belongs.root, fixed⟩
  valid r h := by
    obtain ⟨context, hosts, -⟩ := h.hosts
    simp [validate, Tree.systemOf, hosts.found, hosts.belongs.system]
  alone r h := by
    obtain ⟨context, hosts, -⟩ := h.hosts
    exact hosts.alone
  usePort r kind index h := h.of_tree tree_usePort

theorem Sound.serve (h : S.Sound held r) : S.Sound held (r.serve S.c i) where
  keeping := Keeping.frame.trans h.keeping (keeping_modifySlot (fun _ => rfl) undated_recordHit)
  holds j is := by
    refine (h.holds j is).congr ?_ fun current => ?_
    · exact Tree.value?_modifyContext fun context =>
        Context.value?_onSlots (f := Slot.recordHit) (fun _ => rfl) (some i)
    · exact (Tree.current_modifyContext_of_iff fun context _ =>
        Context.current_onSlots (f := Slot.recordHit) (fun _ => rfl) (fun _ => rfl) (some i)).mp current

theorem Sound.beginProducer (h : S.Sound held r) :
    S.Sound (fun j => held j ∧ j ≠ i) (r.beginProducer S.c i) where
  keeping := Keeping.frame.trans h.keeping (keeping_modifySlot (fun _ => rfl) undated_emptied)
  holds j is := by
    have other : ¬ (S.c = S.c ∧ i = j) := fun same => is.2 same.2.symm
    exact (h.holds j is.1).congr (Tree.value?_modifySlot_ne other)
      (Tree.current_modifySlot_ne other).mp

theorem Sound.endProducer {slot : Slot} {n : Serial} {out : Value} {outcome : Outcome}
    (h : S.Sound (fun j => held j ∧ j ≠ i) r) (found : Evaluation.slotOf r.tree S.c i = .ok (slot, n))
    (content : S.content i out) (right : outcome = .value → S.right i = some (.ok out)) :
    S.Sound held (r.endProducer S.c i e n out outcome) where
  keeping := Keeping.frame.trans h.keeping (keeping_endProducer found)
  holds j is := by
    rw [tree_endProducer]
    by_cases same : i = j
    · subst same
      refine ⟨out, Tree.value?_modifySlot_self found, content, fun current => right ?_⟩
      have dated := (Tree.current_modifySlot_self (f := (·.ending n out outcome)) ticket_ending found).mp
        current
      simpa [Slot.ending, Slot.restored] using dated
    · have other : ¬ (S.c = S.c ∧ i = j) := fun both => same both.2
      exact (h.holds j ⟨is, Ne.symm same⟩).congr (Tree.value?_modifySlot_ne other)
        (Tree.current_modifySlot_ne other).mp

theorem recompute_eq {ask : Answerer} {replies : Replies} {slot : Slot} {n : Serial} {v : Value}
    {x : Except Error Value} (h : S.Sound held r) (declared : S.system.entries[i]? = some e)
    (found : Evaluation.slotOf r.tree S.c i = .ok (slot, n)) (content : S.content i v)
    (right : S.right i = some x) (comes : (e.producer e.initial).outcome replies = some x)
    (asks : ∀ q, S.system.Covers S.graph i e.ticket q → ∃ reply, replies q = some reply ∧
      q.Admits S.content reply ∧
      Eval.Yields (S.Sound fun j => held j ∧ j ≠ i) (ask S.id S.c q) reply) :
    ∃ r', recompute ask S.id S.c i e v n r = Eval.ofExcept x r' ∧ S.Sound held r' := by
  have ⟨_, confined, independent⟩ := S.disciplined i e declared
  have begun : S.Sound (fun j => held j ∧ j ≠ i) (r.beginProducer S.c i) := h.beginProducer
  obtain ⟨out, stop, r', ran, sound, left, ended⟩ := (confined v content).run_eq
    (fun r cells holds => holds.of_tree rfl) asks begun
  have same := independent v replies content fun q covered => by
    obtain ⟨reply, known, admitted, -⟩ := asks q covered
    exact ⟨reply, known, admitted⟩
  -- the serial of the tracker is the one from before the producer ran
  have upToEnd : r'.tree.outline = r.tree.outline := sound.keeping.1.trans h.keeping.1.symm
  obtain ⟨slot', found', -⟩ := slotOf_of_outline upToEnd found
  rw [same, comes] at ended
  rcases ended with ⟨rfl, value⟩ | ⟨error, rfl, value⟩
  · obtain rfl := Option.some.inj value
    have sound' : S.Sound held (r'.endProducer S.c i e n out .value) :=
      sound.endProducer found' left fun _ => right
    refine ⟨_, ?_, sound'⟩
    simp only [recompute, ran]
    rfl
  · obtain rfl := Option.some.inj value
    have sound' : S.Sound held (r'.endProducer S.c i e n out .error) :=
      sound.endProducer found' left fun absurd => by cases absurd
    refine ⟨_, ?_, sound'⟩
    simp only [recompute, ran]
    rfl

variable (S) in
def Comes (held : Nat → Prop) (depth i : Nat) : Prop := ∃ x, S.right i = some x ∧
  (∀ v, x = .ok v → S.content i v) ∧
    Eval.Yields (S.Sound held) (entryValue S.blueprint (answer S.blueprint depth) S.id S.c i) x

theorem yields_covered {q : Query} (declared : S.system.entries[i]? = some e)
    (below : ∀ j e', j < i → S.system.entries[j]? = some e' → S.Comes held depth j)
    (covered : S.system.Covers S.graph i e.ticket q) : ∃ reply,
      Reference.answer S.blueprint S.id S.context.fixed? S.system.entries.length q = some reply ∧
      q.Admits S.content reply ∧
      Eval.Yields (S.Sound held) (answer S.blueprint (depth + 1) S.id S.c q) reply := by
  obtain ⟨count, number⟩ : ∃ count, S.system.entries.length = i + count + 1 :=
    Nat.exists_eq_add_of_lt (List.getElem?_eq_some_iff.mp declared).1
  rw [number]
  cases covered with
  | input about known reached =>
      obtain ⟨reply, first, yields⟩ := yields_respond_port (suits _) about
      exact ⟨reply, first, Reference.admits_port about first, yields⟩
  | @entry j e' other known reached =>
      have less : j < i := Nat.lt_of_le_of_ne (S.ordered j i e' e known declared reached) other
      obtain ⟨x, right, holds, yields⟩ := below j e' less known
      have deep' : Reference.entryValue S.blueprint S.id
          (Reference.answer S.blueprint S.id S.context.fixed? (i + count)) j = S.right j :=
        Reference.value_of_deep S.ordered S.disciplined known (Nat.lt_add_right count less)
      refine ⟨x.map some, ?_, ?_, yields_respond_entry (suits _) yields⟩
      · simp [Reference.answer, Reference.respond, deep', right]
      · cases x with
        | error e => trivial
        | ok v => exact ⟨v, rfl, holds v rfl⟩

/-- An entry comes to what it would come to without its slot, if the slots up to its own hold what they
should. -/
theorem comes (declared : S.system.entries[i]? = some e) (upTo : ∀ j ≤ i, held j) (deep : i < depth) :
    S.Comes held depth i := by
  -- an entry asks for entries with smaller numbers only
  induction i using Nat.strong_induction_on generalizing e held depth with
  | _ i ih =>
      obtain ⟨x, right, -, holds⟩ : ∃ x, S.right i = some x ∧ S.right i = some x ∧
          ∀ v, x = .ok v → S.content i v :=
        Reference.value_eq S.ordered S.disciplined declared Reference.agree_refl
      refine ⟨x, right, holds, ?_⟩
      intro r h
      obtain ⟨v, value, content, served⟩ := h.holds i (upTo i (Nat.le_refl i))
      obtain ⟨slot, n, found⟩ := h.slotOf declared
      rw [Tree.value?_of_slotOf found] at value
      have entry : (S.blueprint.system S.id).entry "EvalCacheEntry" (S.blueprint.pathname S.id) i =
          .ok e := by
        simp only [System.entry, show (S.blueprint.system S.id).entries[i]? = some e from declared]
      simp only [entryValue_eq, entry, found]
      cases fresh : slot.fresh? n with
      | some v' =>
          obtain ⟨-, computedAt, value'⟩ := Slot.fresh?_eq_some_iff.mp fresh
          obtain rfl := Option.some.inj (value.symm.trans value')
          have current : r.tree.Current S.c i :=
            Tree.current_iff_slotOf.mpr ⟨slot, n, found, computedAt⟩
          obtain rfl := Option.some.inj (right.symm.trans (served current))
          exact ⟨r.serve S.c i, rfl, h.serve⟩
      | none =>
          simp only [value]
          obtain ⟨more, rfl⟩ := Nat.exists_eq_add_of_lt deep
          have comes := (Reference.entryValue_of_found declared).symm.trans right
          apply recompute_eq h declared found content right comes
          intro q covered
          -- the slot of the entry itself is held while its producer runs
          refine yields_covered declared (fun j e' less known => ?_) covered
          refine ih j less known (fun k bound => ?_) (Nat.lt_add_right _ less)
          have before := Nat.lt_of_le_of_lt bound less
          exact ⟨upTo k (Nat.le_of_lt before), Nat.ne_of_lt before⟩

theorem entry_comes (upTo : ∀ i < S.system.entries.length, held i)
    (deep : S.system.entries.length ≤ depth) (i : Nat) : ∃ x,
    Reference.entryValue S.blueprint S.id
      (Reference.answer S.blueprint S.id S.context.fixed? S.system.entries.length) i = some x ∧
      Eval.Yields (S.Sound held) (entryValue S.blueprint (answer S.blueprint depth) S.id S.c i) x := by
  cases declared : S.system.entries[i]? with
  | some e =>
      have bound := (List.getElem?_eq_some_iff.mp declared).1
      obtain ⟨x, right, -, yields⟩ := S.comes declared
        (fun j before => upTo j (Nat.lt_of_le_of_lt before bound)) (Nat.lt_of_lt_of_le bound deep)
      exact ⟨x, right, yields⟩
  | none =>
      have entry : (S.blueprint.system S.id).entry "EvalCacheEntry" (S.blueprint.pathname S.id) i =
          .error (.outOfRange .cacheEntry "EvalCacheEntry" i S.system.entries.length
            (S.blueprint.pathname S.id)) := by
        simp only [System.entry, show (S.blueprint.system S.id).entries[i]? = none from declared]
        rfl
      simp only [Reference.entryValue, entryValue, entry]
      exact ⟨_, rfl, .bind_error (.fail _)⟩

theorem length_le_slotCount : S.system.entries.length ≤ S.start.tree.slotCount := by
  have slots := congrArg List.length S.hosts.belongs.slots
  simp only [List.length_map] at slots
  have mem := List.mem_of_getElem? S.hosts.found
  have inside := List.sublist_flatten_of_mem (List.mem_map_of_mem (f := (·.cache)) mem)
  rw [← List.flatMap_def] at inside
  exact Nat.le_trans (Nat.le_of_eq slots.symm) inside.length_le

theorem evaluate_eq (h : S.Sound (· < S.system.entries.length) S.start) (q : Query) : ∃ reply r',
    Reference.evaluate S.blueprint S.id S.context.fixed? q = some reply ∧
      evaluate S.blueprint S.id S.c q S.start = Eval.ofExcept reply r' ∧
      S.Sound (· < S.system.entries.length) r' := by
  have enough : S.system.entries.length < S.start.tree.depthBound := by
    have slots := S.length_le_slotCount
    have twice : (S.start.tree.slotCount + 1) * 2 ≤ S.start.tree.depthBound :=
      Nat.mul_le_mul_left _ (Nat.le_add_left 2 _)
    omega
  obtain ⟨more, depth⟩ := Nat.exists_eq_add_of_lt enough
  have entries := S.entry_comes (fun _ bound => bound) (Nat.le_add_right _ more)
  obtain ⟨reply, known, yields⟩ := yields_respond (q := q) (suits _) entries
  obtain ⟨r', evaluated, sound⟩ := yields S.start h
  refine ⟨reply, r', known, ?_, sound⟩
  simpa only [evaluate, depth, answer] using evaluated

end Setting

end Dataflow
