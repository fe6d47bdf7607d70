import Dataflow.Proofs.Evaluation.Passing
import Dataflow.Proofs.FixedInputs.Slots

/-!
# Where the value of an input port comes from

A question for an input port is passed on through the diagrams of the hierarchy, up and down again, until it
comes to a value that is fixed on a port, to a constant of a diagram or to a cache entry. What is found there
is delivered as it is: its type is looked at in the end, the length of a vector is not.
-/

namespace Dataflow
open Relation Evaluation

structure Request where
  id : SystemId
  c : ContextId
  q : Query
  run : Run

namespace Request

def answer (b : Blueprint) (x : Request) : EStateM.Result Stop Run (Option Value) :=
  evaluate b x.id x.c x.q x.run

def length? (b : Blueprint) (x : Request) : Option Nat :=
  match x.answer b with
  | .ok (some (.vector xs)) _ => some xs.length
  | _ => none

inductive Plain : Query → Prop
  | input (port : Nat) : Plain (.input port)
  | boundaryOutput (output : Nat) : Plain (.boundaryOutput output)

structure Passes (b : Blueprint) (x y : Request) : Prop where
  valid : validate b x.run.tree x.id x.c = .ok ()
  declared : ∀ port, x.q.inputPort? = some port → ∃ p, (b.system x.id).inputs[port]? = some p
  passed : PassedOn b x.run x.id x.c x.q y.id y.c y.q y.run

/-- The system answers the question by `v` without passing it on. A fixed value fits its port. -/
inductive Finds (b : Blueprint) (x : Request) (v : Value) (r' : Run) : Prop
  | fixed {port : Nat} {p : Port} {context : Context} {slot : InputSlot}
      (valid : validate b x.run.tree x.id x.c = .ok ()) (asked : x.q = .input port)
      (declared : (b.system x.id).inputs[port]? = some p)
      (found : x.run.tree.contexts[x.c]? = some context) (listed : context.inputs[port]? = some slot)
      (holds : slot.fixed = some v) (fits : slot.type.mismatch v = none)
      (used : r' = x.run.usePort b x.id .input port)
  | constant {port : Nat} {p : Port} {d : Diagram} {above : ContextId}
      (valid : validate b x.run.tree x.id x.c = .ok ()) (asked : x.q = .input port)
      (declared : (b.system x.id).inputs[port]? = some p)
      (feed : FeedOf b x.run.tree x.id x.c port d above (.constant v))
      (used : r' = x.run.usePort b x.id .input port)
  | entry {output index : Nat} {e : Entry} {r : Run} (asked : x.q = .boundaryOutput output)
      (visits : Visits b x.run x.id x.c x.q index e r)
      (returned : evaluate b x.id x.c (.entry index) r = .ok (some v) r')

variable {b : Blueprint} {x y : Request} {v : Value} {r' : Run} {n : Nat}

theorem vector_of_length? (h : x.length? b = some n) :
    ∃ xs r', x.answer b = .ok (some (.vector xs)) r' ∧ xs.length = n := by
  simp only [length?] at h
  split at h
  · rename_i xs r' answered
    exact ⟨xs, r', answered, Option.some.inj h⟩
  · cases h

theorem Passes.answer_eq (h : x.Passes b y) (wf : x.run.tree.WellFormed) (plain : Plain x.q) :
    x.answer b = y.answer b := by
  obtain ⟨id, c, q, r⟩ := x
  obtain ⟨id', c', q', r'⟩ := y
  obtain ⟨valid, listed, passed⟩ := h
  dsimp only at valid listed passed wf plain
  rw [answer, answer, (ends wf).unfolds]
  cases plain with
  | input port =>
      obtain ⟨p, declared⟩ := listed port rfl
      rw [respond_input valid]
      cases passed with
      | ownInput asked feed =>
          cases asked
          rw [inputValue_of_feed declared feed]
          rfl
      | sibling asked feed child =>
          cases asked
          rw [inputValue_of_feed declared feed]
          exact childOutput_eq (tree_usePort.symm ▸ child)
  | boundaryOutput output =>
      cases passed with
      | ownInput asked | sibling asked => cases asked
      | exported diagram exported child =>
          rw [respond_exported valid diagram exported]
          exact childOutput_eq child

theorem Passes.plain (h : x.Passes b y) : Plain y.q := by
  obtain ⟨-, -, passed⟩ := h
  obtain ⟨id, c, q, r⟩ := x
  obtain ⟨id', c', q', r'⟩ := y
  dsimp only at passed ⊢
  cases passed <;> constructor

theorem Passes.tree_eq (h : x.Passes b y) : y.run.tree = x.run.tree := h.passed.tree_eq

theorem Finds.answer_eq (h : x.Finds b v r') (wf : x.run.tree.WellFormed) :
    x.answer b = .ok (some v) r' := by
  obtain ⟨id, c, q, r⟩ := x
  rw [answer]
  cases h with
  | fixed valid asked declared found listed holds fits used =>
      cases asked
      cases used
      rw [(ends wf).unfolds, respond_input valid]
      exact inputValue_fixed declared found (by simp [Context.fixed?, listed, holds])
  | constant valid asked declared feed used =>
      cases asked
      cases used
      rw [(ends wf).unfolds, respond_input valid, inputValue_of_feed declared feed]
      rfl
  | entry asked visits returned => exact (visits.evaluate_eq wf).trans returned

theorem finds_or_passes_of_input {port : Nat} (asked : x.q = .input port)
    (wf : x.run.tree.WellFormed) (typed : x.run.tree.WellTyped)
    (answered : x.answer b = .ok (some v) r') : x.Finds b v r' ∨ ∃ y, x.Passes b y := by
  obtain ⟨id, c, q, r⟩ := x
  cases asked
  dsimp only at wf typed
  rw [answer, (ends wf).unfolds] at answered
  have valid := valid_of_respond answered
  rw [respond_input valid] at answered
  obtain ⟨p, declared⟩ := declared_of_inputValue answered
  have listed (port' : Nat) (same : (Query.input port).inputPort? = some port') :
      ∃ p, (b.system id).inputs[port']? = some p := by
    cases same
    exact ⟨p, declared⟩
  obtain ⟨context, found, -⟩ := validate_eq_ok_iff.mp valid
  cases held : context.fixed? port with
  | some v' =>
      rw [inputValue_fixed declared found held] at answered
      cases answered
      obtain ⟨slot, on, fixed⟩ := Option.bind_eq_some_iff.mp held
      have fits : slot.type.mismatch v = none := by
        refine typed c slot ?_ v fixed
        rw [Tree.inputSlots_of_found found]
        exact List.mem_of_getElem? on
      exact .inl (.fixed valid rfl declared found on fixed fits rfl)
  | none =>
      obtain ⟨d, above, feed, feeds, answered⟩ := feed_of_inputValue found held answered
      cases feed with
      | constant v' =>
          cases answered
          exact .inl (.constant valid rfl declared feeds rfl)
      | ownInput own => exact .inr ⟨⟨_, _, _, _⟩, valid, listed, .ownInput rfl feeds⟩
      | sibling source output =>
          obtain ⟨system, below, child⟩ := hasChild_of_childOutput answered
          rw [tree_usePort] at child
          exact .inr ⟨⟨_, _, _, _⟩, valid, listed, .sibling rfl feeds child⟩

theorem finds_or_passes_of_boundaryOutput {output : Nat} (asked : x.q = .boundaryOutput output)
    (wf : x.run.tree.WellFormed) (answered : x.answer b = .ok (some v) r') :
    x.Finds b v r' ∨ ∃ y, x.Passes b y := by
  obtain ⟨id, c, q, r⟩ := x
  cases asked
  dsimp only at wf
  rw [answer, (ends wf).unfolds] at answered
  have valid := valid_of_respond answered
  cases exported : (b.diagram? id).bind (·.exportedOutput? output) with
  | some e =>
      obtain ⟨d, diagram, exported⟩ := Option.bind_eq_some_iff.mp exported
      rw [respond_exported valid diagram exported] at answered
      obtain ⟨system, below, child⟩ := hasChild_of_childOutput answered
      exact .inr ⟨⟨_, _, _, _⟩, valid, nofun, .exported diagram exported child⟩
  | none =>
      have made := answered
      rw [respond_own valid exported, bind_apply] at answered
      cases value : outputValue b (evaluate b) id c output r with
      | error stop r₁ =>
          rw [value] at answered
          cases answered
      | ok v' r₁ =>
          obtain ⟨index, e, backs, declared⟩ := backs_of_outputValue value
          have visits : Visits b r id c (.boundaryOutput output) index e _ :=
            ⟨valid, .boundaryOutput exported backs, declared⟩
          refine .inl (.entry rfl visits ?_)
          rw [← visits.evaluate_eq wf, (ends wf).unfolds, made]

theorem finds_or_passes (plain : Plain x.q) (wf : x.run.tree.WellFormed)
    (typed : x.run.tree.WellTyped) (answered : x.answer b = .ok (some v) r') :
    x.Finds b v r' ∨ ∃ y, x.Passes b y := by
  obtain ⟨id, c, q, r⟩ := x
  cases plain with
  | input port => exact finds_or_passes_of_input rfl wf typed answered
  | boundaryOutput output => exact finds_or_passes_of_boundaryOutput rfl wf answered

theorem answer_eq_some_iff (wf : x.run.tree.WellFormed) (typed : x.run.tree.WellTyped)
    (plain : Plain x.q) : x.answer b = .ok (some v) r' ↔
      ∃ y, ReflTransGen (Passes b) x y ∧ y.Finds b v r' := by
  constructor
  · -- with each step there is less left to climb
    generalize left : x.q.climb x.run.tree.size x.c = n
    induction n using Nat.strongRecOn generalizing x with
    | ind n ih =>
        intro answered
        rcases finds_or_passes plain wf typed answered with found | ⟨y, passes⟩
        · exact ⟨x, .refl, found⟩
        · have same := passes.tree_eq
          have less := passes.passed.climb_lt wf
          rw [left, ← same] at less
          obtain ⟨z, path, found⟩ := ih _ less (same ▸ wf) (same ▸ typed) passes.plain rfl
            (passes.answer_eq wf plain ▸ answered)
          exact ⟨z, .head passes path, found⟩
  · rintro ⟨y, path, found⟩
    clear typed
    induction path using ReflTransGen.head_induction_on with
    | refl => exact found.answer_eq wf
    | head passes _ ih =>
        rw [passes.answer_eq wf plain]
        exact ih (passes.tree_eq ▸ wf) passes.plain

end Request

namespace Session
open Request

variable {s : Session} {id : SystemId} {c : ContextId} {port n : Nat} {p : Port} {v : Value} {r' : Run}

/-- A vector port delivers what is found where the question for it is passed on to, if that is a vector.
Only a value that was fixed there has been compared with the size of a port, and of that port alone. -/
theorem Reachable.vectorInput_delivers (h : s.Reachable)
    (declared : (s.blueprint.system id).inputs[port]? = some p) (vector : p.type = .vector n) :
    evaluate s.blueprint id c (.vectorInput port) s.run = .ok (some v) r' ↔
      v.type = .vector ∧ ∃ y, ReflTransGen (Passes s.blueprint) ⟨id, c, .input port, s.run⟩ y ∧
        y.Finds s.blueprint v r' := by
  rw [vectorInput_eq_some_iff h.wellFormed declared (by rw [vector]; rfl)]
  exact and_congr_right fun _ => answer_eq_some_iff (x := ⟨id, c, .input port, s.run⟩)
    h.wellFormed h.wellTyped (.input port)

def plantDiagram : Diagram := { owner := 0, children := [1, 2], connections := [⟨1, 0, 0, 0⟩] }

def controllerDiagram : Diagram := { owner := 2, children := [3], exportedInputs := [⟨0, 0, 0⟩] }

def filtered : Session := (start {} [] {}).perform
  [.addSystem "plant" "Plant" "", .addSystem "sensor" "Sensor" "",
    .addSystem "controller" "Controller" "", .addSystem "filter" "Filter" "",
    .declare 1 (.entry "sample" (.vector [1, 2]) .finish [.time]),
    .declare 1 (.output "y" (.vector 3) none 13), .declare 2 (.input "u" (.vector 3)),
    .declare 3 (.input "u" (.vector 3)), .addDiagram plantDiagram, .addDiagram controllerDiagram,
    .createContext 0 none, .createContext 1 (some 0), .createContext 2 (some 0),
    .createContext 3 (some 2)]

theorem filtered_delivers : filtered.Reachable ∧
    (filtered.blueprint.system 3).inputs[0]? = some { name := "u", ticket := 13, type := .vector 3 } ∧
    ∃ y xs r', (y.id, y.c, y.q) = (1, 1, .boundaryOutput 0) ∧
      ReflTransGen (Passes filtered.blueprint) ⟨3, 3, .input 0, filtered.run⟩ y ∧
      y.Finds filtered.blueprint (.vector xs) r' ∧
      evaluate filtered.blueprint 3 3 (.vectorInput 0) filtered.run = .ok (some (.vector xs)) r' ∧
      xs.length = 2 := by
  have reachable : filtered.Reachable := (Reachable.start {} [] {}).perform _
  have declared : (filtered.blueprint.system 3).inputs[0]? =
      some { name := "u", ticket := 13, type := .vector 3 } := by decide +kernel
  have free (c above : ContextId) (r : Run) (child : r.tree.parent? c = some above)
      (free : (r.tree.fixed? c 0).isNone = true) : ∃ context, r.tree.contexts[c]? = some context ∧
        context.fixed? 0 = none ∧ context.parent = some above := by
    obtain ⟨context, found, parent⟩ := Option.bind_eq_some_iff.mp child
    rw [Tree.fixed?_of_found found] at free
    exact ⟨context, found, Option.isNone_iff_eq_none.mp free, parent⟩
  have up : Passes filtered.blueprint ⟨3, 3, .input 0, filtered.run⟩
      ⟨2, 2, .input 0, filtered.run.usePort filtered.blueprint 3 .input 0⟩ := by
    obtain ⟨context, found, free, parent⟩ := free 3 2 filtered.run (by decide +kernel)
      (by decide +kernel)
    refine ⟨by decide +kernel, ?_, .ownInput (d := controllerDiagram) rfl ?_⟩
    · rintro _ ⟨⟩
      exact ⟨_, declared⟩
    · exact ⟨context, 0, found, free, rfl, parent, rfl, rfl⟩
  have across : Passes filtered.blueprint
      ⟨2, 2, .input 0, filtered.run.usePort filtered.blueprint 3 .input 0⟩
      ⟨1, 1, .boundaryOutput 0, (filtered.run.usePort filtered.blueprint 3 .input 0).usePort
        filtered.blueprint 2 .input 0⟩ := by
    obtain ⟨context, found, free, parent⟩ := free 2 0
      (filtered.run.usePort filtered.blueprint 3 .input 0) (by decide +kernel) (by decide +kernel)
    have feed : FeedOf filtered.blueprint _ 2 2 0 plantDiagram 0 (.sibling 0 0) :=
      ⟨context, 1, found, free, rfl, parent, rfl, rfl⟩
    refine ⟨by decide +kernel, ?_, .sibling rfl feed ⟨by decide +kernel, rfl⟩⟩
    rintro _ ⟨⟩
    exact ⟨_, rfl⟩
  obtain ⟨e, entry⟩ : ∃ e, (filtered.blueprint.system 1).entries[0]? = some e := ⟨_, rfl⟩
  obtain ⟨xs, r', returned, length⟩ := vector_of_length? (b := filtered.blueprint)
    (x := ⟨1, 1, .entry 0, ((filtered.run.usePort filtered.blueprint 3 .input 0).usePort
      filtered.blueprint 2 .input 0).usePort filtered.blueprint 1 .output 0⟩) (n := 2)
    (by decide +kernel)
  have path := (ReflTransGen.single up).tail across
  have finds : Finds filtered.blueprint ⟨1, 1, .boundaryOutput 0, _⟩ (.vector xs) r' :=
    .entry rfl ⟨by decide +kernel, .boundaryOutput rfl ⟨_, rfl, rfl, rfl⟩, entry⟩ returned
  exact ⟨reachable, declared, _, xs, r', rfl, path, finds,
    (reachable.vectorInput_delivers declared rfl).mpr ⟨rfl, _, path, finds⟩, length⟩

theorem filtered_undersized : ¬ ∀ (s : Session) (id : SystemId) (c : ContextId) (port n : Nat)
    (p : Port) (xs : List Float) (r' : Run), s.Reachable →
      (s.blueprint.system id).inputs[port]? = some p → p.type = .vector n →
      s.tree.fixed? c port = none →
      evaluate s.blueprint id c (.vectorInput port) s.run = .ok (some (.vector xs)) r' →
      xs.length = n := by
  intro declaredSize
  have reachable : filtered.Reachable := (Reachable.start {} [] {}).perform _
  have free : (filtered.tree.fixed? 3 0).isNone = true := by decide +kernel
  obtain ⟨xs, r', answered, length⟩ := vector_of_length? (b := filtered.blueprint)
    (x := ⟨3, 3, .vectorInput 0, filtered.run⟩) (n := 2) (by decide +kernel)
  have full := declaredSize filtered 3 3 0 3 { name := "u", ticket := 13, type := .vector 3 } xs r'
    reachable (by decide +kernel) rfl (Option.isNone_iff_eq_none.mp free) answered
  omega

end Session

end Dataflow
