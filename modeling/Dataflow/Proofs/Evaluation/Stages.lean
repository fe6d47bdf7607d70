import Dataflow.Proofs.Evaluation.Slots
import Dataflow.Proofs.Tree.Lineage

namespace Dataflow
open Relation

namespace Query

def inputPort? : Query → Option Nat
  | .input port | .requiredInput port | .inputAs _ port | .vectorInput port => some port
  | .entry _ | .output _ | .boundaryOutput _ => none

/-- How many more contexts a question may be passed through: input ports up the tree and then down
again, output ports down. -/
def climb (size : Nat) (c : ContextId) : Query → Nat
  | .input _ | .requiredInput _ | .inputAs _ _ | .vectorInput _ => size + min c size
  | .boundaryOutput _ => size - c
  | .entry _ | .output _ => 0

theorem climb_le {size : Nat} {c : ContextId} {q : Query} : q.climb size c ≤ 2 * size := by
  cases q <;> simp only [climb] <;> omega

theorem climb_of_inputPort {size port : Nat} {c : ContextId} {q : Query}
    (asked : q.inputPort? = some port) : q.climb size c = size + min c size := by
  cases q <;> simp_all [inputPort?, climb]

end Query

namespace Tree

variable {t : Tree} {c p : ContextId} {i : Nat}

theorem WellFormed.child (h : t.WellFormed) (found : (t.children p)[i]? = some c) :
    p < c ∧ c < t.size := by
  have step : t.parent? c = some p := mem_children_iff.mp (List.mem_of_getElem? found)
  exact ⟨h.parents c p step, lt_size_of_parent step⟩

end Tree

namespace Evaluation

/-- In context `c`, the system `id` gets its input port `port` from `feed`, through a diagram whose
context is `above`. -/
def FeedOf (b : Blueprint) (t : Tree) (id : SystemId) (c : ContextId) (port : Nat) (d : Diagram)
    (above : ContextId) (feed : Feed) : Prop :=
  ∃ context child, t.contexts[c]? = some context ∧ context.fixed? port = none ∧
    b.parentDiagram? id = some d ∧ context.parent = some above ∧
    d.childIndex? id = some child ∧ d.feed? child port = some feed

def HasChild (d : Diagram) (t : Tree) (c : ContextId) (child : Nat) (system : SystemId)
    (below : ContextId) : Prop :=
  (t.children c)[child]? = some below ∧ d.children[child]? = some system

inductive PassedOn (b : Blueprint) (r : Run) (id : SystemId) (c : ContextId) :
    Query → SystemId → ContextId → Query → Run → Prop
  | ownInput {q : Query} {port own : Nat} {d : Diagram} {above : ContextId}
      (asked : q.inputPort? = some port) (feed : FeedOf b r.tree id c port d above (.ownInput own)) :
      PassedOn b r id c q d.owner above (.input own) (r.usePort b id .input port)
  | sibling {q : Query} {port source output : Nat} {d : Diagram} {above below : ContextId}
      {system : SystemId} (asked : q.inputPort? = some port)
      (feed : FeedOf b r.tree id c port d above (.sibling source output))
      (child : HasChild d r.tree above source system below) :
      PassedOn b r id c q system below (.boundaryOutput output) (r.usePort b id .input port)
  | exported {index : Nat} {d : Diagram} {e : ExportedOutput} {below : ContextId} {system : SystemId}
      (diagram : b.diagram? id = some d) (exported : d.exportedOutput? index = some e)
      (child : HasChild d r.tree c e.child system below) :
      PassedOn b r id c (.boundaryOutput index) system below (.boundaryOutput e.output) r

def Backs (s : System) (output index : Nat) : Prop :=
  ∃ port, s.outputs[output]? = some port ∧ port.child.isNone ∧ s.entryFor? port.dependency = some index

/-- The question comes down to the cache entry `index`, which is reached in the run that is last. -/
inductive Reads (b : Blueprint) (r : Run) (id : SystemId) : Query → Nat → Run → Prop
  | entry {index : Nat} : Reads b r id (.entry index) index r
  | output {output index : Nat} (backs : Backs (b.system id) output index) :
      Reads b r id (.output output) index (r.usePort b id .output output)
  | boundaryOutput {output index : Nat}
      (own : (b.diagram? id).bind (·.exportedOutput? output) = none)
      (backs : Backs (b.system id) output index) :
      Reads b r id (.boundaryOutput output) index (r.usePort b id .output output)

structure Visits (b : Blueprint) (r : Run) (id : SystemId) (c : ContextId) (q : Query) (index : Nat)
    (e : Entry) (r' : Run) : Prop where
  valid : validate b r.tree id c = .ok ()
  reads : Reads b r id q index r'
  declared : (b.system id).entries[index]? = some e

inductive Task where
  | question (q : Query)
  /-- what is left of a producer -/
  | script (rest : Script)

/-- What an evaluation is at, for which system and in which context. The entries whose producers run
are `running`, the one that began last at the head. -/
structure Stage where
  running : List Place
  id : SystemId
  c : ContextId
  task : Task
  run : Run

/-- What comes next after a stage, or within it, if `ask` answers what producers ask. -/
inductive Leads (b : Blueprint) (ask : Answerer) : Stage → Stage → Prop
  | passOn {running : List Place} {id id' : SystemId} {c c' : ContextId} {q q' : Query} {r r' : Run}
      (valid : validate b r.tree id c = .ok ()) (passed : PassedOn b r id c q id' c' q' r') :
      Leads b ask ⟨running, id, c, .question q, r⟩ ⟨running, id', c', .question q', r'⟩
  | begin {running : List Place} {id : SystemId} {c : ContextId} {q : Query} {r r' : Run}
      {index : Nat} {e : Entry} {slot : Slot} {current : Serial} {v : Value}
      (visits : Visits b r id c q index e r') (found : slotOf r'.tree c index = .ok (slot, current))
      (stale : slot.fresh? current = none) (value : slot.value = some v) :
      Leads b ask ⟨running, id, c, .question q, r⟩
        ⟨(c, index) :: running, id, c, .script (e.producer v), r'.beginProducer c index⟩
  | ask {running : List Place} {id : SystemId} {c : ContextId} {q : Query} {r : Run} {out : Value}
      {resume : Except Error (Option Value) → Script} :
      Leads b ask ⟨running, id, c, .script (.ask out q resume), r⟩ ⟨running, id, c, .question q, r⟩
  | answered {running : List Place} {id : SystemId} {c : ContextId} {q : Query} {r r' : Run}
      {out : Value} {resume : Except Error (Option Value) → Script} {v : Option Value}
      (answer : ask id c q r = .ok v r') :
      Leads b ask ⟨running, id, c, .script (.ask out q resume), r⟩
        ⟨running, id, c, .script (resume (.ok v)), r'⟩
  | heard {running : List Place} {id : SystemId} {c : ContextId} {q : Query} {r r' : Run}
      {out : Value} {resume : Except Error (Option Value) → Script} {e : Error}
      (error : ask id c q r = .error (.fault (.failed e)) r') :
      Leads b ask ⟨running, id, c, .script (.ask out q resume), r⟩
        ⟨running, id, c, .script (resume (.error e)), r'⟩
  | read {running : List Place} {id : SystemId} {c : ContextId} {r : Run} {cell : String}
      {resume : Float → Script} :
      Leads b ask ⟨running, id, c, .script (.read cell resume), r⟩
        ⟨running, id, c, .script (resume (r.cells.get cell)), r⟩
  | write {running : List Place} {id : SystemId} {c : ContextId} {r : Run} {cell : String}
      {x : Float} {rest : Script} :
      Leads b ask ⟨running, id, c, .script (.write cell x rest), r⟩
        ⟨running, id, c, .script rest, { r with cells := r.cells.set cell x }⟩

variable {b : Blueprint} {ask : Answerer} {t : Tree} {x y : Stage} {running : List Place}
  {id id' : SystemId} {c c' : ContextId} {q q' : Query} {r r' : Run} {index : Nat} {e : Entry}

theorem PassedOn.tree_eq (h : PassedOn b r id c q id' c' q' r') : r'.tree = r.tree := by
  cases h with
  | ownInput | sibling => exact tree_usePort
  | exported => rfl

theorem Reads.tree_eq (h : Reads b r id q index r') : r'.tree = r.tree := by
  cases h with
  | entry => rfl
  | output | boundaryOutput => exact tree_usePort

theorem FeedOf.above_lt {port : Nat} {d : Diagram} {above : ContextId} {feed : Feed}
    (h : FeedOf b t id c port d above feed) (wf : t.WellFormed) : above < c ∧ c < t.size := by
  obtain ⟨context, child, found, -, -, parent, -⟩ := h
  have step : t.parent? c = some above := by simp [Tree.parent?, found, parent]
  exact ⟨wf.parents c above step, Tree.lt_size_of_parent step⟩

theorem PassedOn.climb_lt (h : PassedOn b r id c q id' c' q' r') (wf : r.tree.WellFormed) :
    q'.climb r.tree.size c' < q.climb r.tree.size c := by
  have up {size above c : Nat} (less : above < c) (inside : c < size) :
      size + min above size < size + min c size := by omega
  have across {size c below : Nat} (inside : below < size) (notFirst : 0 < below) :
      size - below < size + min c size := by omega
  cases h with
  | ownInput asked feed =>
      obtain ⟨less, inside⟩ := feed.above_lt wf
      rw [Query.climb_of_inputPort asked]
      exact up less inside
  | sibling asked feed child =>
      obtain ⟨less, inside⟩ := wf.child child.1
      rw [Query.climb_of_inputPort asked]
      exact across inside (Nat.zero_lt_of_lt less)
  | exported diagram exported child =>
      obtain ⟨less, inside⟩ := wf.child child.1
      exact Nat.sub_lt_sub_left (Nat.lt_trans less inside) less

namespace Stage

structure Sound (t : Tree) (s : Stage) : Prop where
  outline : s.run.tree.outline = t.outline
  wellFormed : s.run.tree.WellFormed
  distinct : s.running.Nodup
  begun : ∀ p ∈ s.running, p ∈ t.filled ∧ ∃ slot n, slotOf t p.1 p.2 = .ok (slot, n)
  filled : s.run.tree.filled = t.filled \ s.running.toFinset

theorem sound_start {task : Task} (wf : r.tree.WellFormed) :
    Sound r.tree ⟨[], id, c, task, r⟩ where
  outline := rfl
  wellFormed := wf
  distinct := .nil
  begun _ mem := (List.not_mem_nil mem).elim
  filled := by simp

theorem Sound.balanced {task task' : Task} (h : Sound t ⟨running, id, c, task, r⟩)
    (balanced : Balanced r r') : Sound t ⟨running, id', c', task', r'⟩ where
  outline := balanced.1.1.trans h.outline
  wellFormed := balanced.1.2 h.wellFormed
  distinct := h.distinct
  begun := h.begun
  filled := balanced.2.trans h.filled

theorem Sound.begin {task task' : Task} {slot : Slot} {current : Serial} {v : Value}
    (h : Sound t ⟨running, id, c, task, r⟩) (found : slotOf r.tree c index = .ok (slot, current))
    (value : slot.value = some v) :
    Sound t ⟨(c, index) :: running, id, c, task', r.beginProducer c index⟩ := by
  have full : (c, index) ∈ t.filled \ running.toFinset := by
    rw [← h.filled, Tree.mem_filled_of_slotOf found]
    simp [value]
  have fresh : (c, index) ∉ running := by simpa using (Finset.mem_sdiff.mp full).2
  have begun : Keeping r (r.beginProducer c index) :=
    keeping_modifySlot (fun _ => rfl) undated_emptied
  refine ⟨begun.1.trans h.outline, begun.2 h.wellFormed, h.distinct.cons fresh, ?_, ?_⟩
  · intro p mem
    rcases List.mem_cons.mp mem with rfl | mem
    · obtain ⟨slot', found', -⟩ := slotOf_of_outline h.outline.symm found
      exact ⟨(Finset.mem_sdiff.mp full).1, slot', current, found'⟩
    · exact h.begun p mem
  · calc (r.beginProducer c index).tree.filled
        = r.tree.filled.erase (c, index) := Tree.filled_emptied found
      _ = (t.filled \ running.toFinset).erase (c, index) := congrArg (Finset.erase · (c, index)) h.filled
      _ = t.filled \ ((c, index) :: running).toFinset := by
          rw [List.toFinset_cons, Finset.sdiff_insert]

theorem Sound.step (asks : ∀ id c q, Keeps Balanced (ask id c q)) (h : x.Sound t)
    (leads : Leads b ask x y) : y.Sound t := by
  have answers {r r' : Run} {id : SystemId} {c : ContextId} {q : Query}
      (after : stateAfter (ask id c q) r = r') : Balanced r r' := after ▸ asks id c q r
  cases leads with
  | passOn valid passed => exact h.balanced (balanced_of_tree passed.tree_eq)
  | @begin running id c q r r' index e slot current v visits found stale value =>
      have reached : Sound t ⟨running, id, c, .question q, r'⟩ :=
        h.balanced (balanced_of_tree visits.reads.tree_eq)
      exact reached.begin found value
  | ask => exact h.balanced (balanced_of_tree rfl)
  | answered answer => exact h.balanced (answers (stateAfter_ok answer))
  | heard error => exact h.balanced (answers (stateAfter_error error))
  | read => exact h.balanced (balanced_of_tree rfl)
  | write => exact h.balanced (balanced_of_tree rfl)

theorem Sound.length_running_le (h : x.Sound t) : x.running.length ≤ t.slotCount := by
  have inside : x.running.toFinset ⊆ t.filled := fun p mem =>
    (h.begun p (List.mem_toFinset.mp mem)).1
  calc x.running.length = x.running.toFinset.card := (List.toFinset_card_of_nodup h.distinct).symm
    _ ≤ t.filled.card := Finset.card_le_card inside
    _ ≤ t.slotCount := Tree.card_filled_le

/-- How many questions may follow on one another from here: for each slot that holds a value, a run
of its producer and a way through the tree to the next. -/
def need (s : Stage) : Nat :=
  match s.task with
  | .question q => s.run.tree.filled.card * (2 * s.run.tree.size + 2) + q.climb s.run.tree.size s.c + 1
  | .script _ => (s.run.tree.filled.card + 1) * (2 * s.run.tree.size + 2)

theorem need_script {rest rest' : Script} (balanced : Balanced r r') :
    need ⟨running, id, c, .script rest', r'⟩ = need ⟨running, id, c, .script rest, r⟩ := by
  simp only [need, balanced.2, Tree.size_of_outline balanced.1.1]

theorem need_question_lt {rest : Script} :
    need ⟨running, id, c, .question q, r⟩ < need ⟨running, id, c, .script rest, r⟩ := by
  have climb : q.climb r.tree.size c ≤ 2 * r.tree.size := Query.climb_le
  simp only [need, Nat.add_mul, Nat.one_mul]
  omega

theorem Sound.need_passOn (h : Sound t ⟨running, id, c, .question q, r⟩)
    (passed : PassedOn b r id c q id' c' q' r') :
    need ⟨running, id', c', .question q', r'⟩ < need ⟨running, id, c, .question q, r⟩ := by
  have climb := passed.climb_lt h.wellFormed
  simp only [need, passed.tree_eq]
  omega

theorem need_begin {slot : Slot} {current : Serial} {v : Value} {rest : Script}
    (tree : r'.tree = r.tree) (found : slotOf r.tree c index = .ok (slot, current))
    (value : slot.value = some v) :
    need ⟨(c, index) :: running, id, c, .script rest, r'.beginProducer c index⟩ <
      need ⟨running, id, c, .question q, r⟩ := by
  have full : (c, index) ∈ r.tree.filled := by simp [Tree.mem_filled_of_slotOf found, value]
  have filled : (r'.beginProducer c index).tree.filled = r.tree.filled.erase (c, index) := by
    rw [← Tree.filled_emptied found, ← tree]
    rfl
  have size : (r'.beginProducer c index).tree.size = r.tree.size := by
    rw [← tree]
    exact Tree.size_modifyContext _ _ _
  simp only [need, filled, size, Finset.card_erase_add_one full]
  omega

theorem Sound.need_lt (h : Sound t ⟨running, id, c, .question q, r⟩)
    (leads : Leads b ask ⟨running, id, c, .question q, r⟩ y) :
    y.need < need ⟨running, id, c, .question q, r⟩ := by
  cases leads with
  | passOn valid passed => exact h.need_passOn passed
  | begin visits found stale value =>
      rw [visits.reads.tree_eq] at found
      exact need_begin visits.reads.tree_eq found value

theorem Sound.need_le (asks : ∀ id c q, Keeps Balanced (ask id c q)) (h : x.Sound t)
    (leads : Leads b ask x y) : y.need ≤ x.need := by
  have answers {r r' : Run} {id : SystemId} {c : ContextId} {q : Query}
      (after : stateAfter (ask id c q) r = r') : Balanced r r' := after ▸ asks id c q r
  cases leads with
  | passOn valid passed => exact Nat.le_of_lt (h.need_lt (Leads.passOn valid passed : Leads b ask _ _))
  | begin visits found stale value =>
      exact Nat.le_of_lt (h.need_lt (Leads.begin visits found stale value : Leads b ask _ _))
  | ask => exact Nat.le_of_lt need_question_lt
  | answered answer => exact Nat.le_of_eq (need_script (answers (stateAfter_ok answer)))
  | heard error => exact Nat.le_of_eq (need_script (answers (stateAfter_error error)))
  | read => exact Nat.le_of_eq (need_script (Balanced.frame.refl _))
  | write => exact Nat.le_of_eq (need_script (balanced_of_tree rfl))

theorem Sound.later (asks : ∀ id c q, Keeps Balanced (ask id c q)) (h : x.Sound t)
    (path : ReflTransGen (Leads b ask) x y) : y.Sound t ∧ y.need ≤ x.need := by
  induction path with
  | refl => exact ⟨h, Nat.le_refl _⟩
  | tail _ leads ih =>
      obtain ⟨sound, need⟩ := ih
      exact ⟨sound.step asks leads, Nat.le_trans (sound.need_le asks leads) need⟩

theorem Sound.need_lt_later (asks : ∀ id c q, Keeps Balanced (ask id c q))
    (h : Sound t ⟨running, id, c, .question q, r⟩)
    (path : TransGen (Leads b ask) ⟨running, id, c, .question q, r⟩ y) :
    y.Sound t ∧ y.need < need ⟨running, id, c, .question q, r⟩ := by
  obtain ⟨first, leads, rest⟩ := TransGen.head'_iff.mp path
  obtain ⟨sound, need⟩ := (h.step asks leads).later asks rest
  exact ⟨sound, Nat.lt_of_le_of_lt need (h.need_lt leads)⟩

end Stage

end Evaluation

end Dataflow
