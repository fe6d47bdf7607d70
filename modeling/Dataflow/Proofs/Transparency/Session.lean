import Dataflow.Proofs.Session
import Dataflow.Proofs.Transparency.Operations

namespace Dataflow
open Evaluation

def Action.isOn (c : ContextId) : Action → Bool
  | .noteChange l => l.context = c
  | .fixInput c' _ _ | .clearInput c' _ | .enable c' _ | .disable c' _ | .markOutOfDate c'
  | .enableBelow c' | .disableBelow c' | .evaluate _ c' _ => c' = c
  | _ => false

namespace Session

variable {s : Session} {id : SystemId} {c : ContextId} {g : Graph} {content : Nat → Value → Prop}

/-- The context `c` stands alone, belongs to the system, and its slots hold what they should, with the
values that are fixed on its input ports now. -/
structure Faithful (s : Session) (id : SystemId) (c : ContextId) (g : Graph)
    (content : Nat → Value → Prop) : Prop where
  hosts : ∃ context, s.tree.Hosts c id (s.blueprint.system id) g context
  holds : ∀ i < (s.blueprint.system id).entries.length,
    s.tree.Holds c i (content i) (Reference.value s.blueprint id (s.tree.fixed? c) i)

theorem blueprint_apply {a : Action} (on : a.isOn c = true) : (s.apply a).blueprint = s.blueprint := by
  cases a <;> first | rfl | cases on

theorem blueprint_perform {actions : List Action} (on : ∀ a ∈ actions, a.isOn c = true) :
    (s.perform actions).blueprint = s.blueprint := by
  induction actions generalizing s with
  | nil => rfl
  | cons a rest ih =>
      exact (ih fun b mem => on b (List.mem_cons_of_mem _ mem)).trans
        (blueprint_apply (on a List.mem_cons_self))

theorem stateAfter_evaluate_of_ne (h : s.Faithful id c g content) {other : SystemId}
    (foreign : other ≠ id) (q : Query) :
    stateAfter (Dataflow.evaluate s.blueprint other c q) s.run = s.run := by
  obtain ⟨context, hosts⟩ := h.hosts
  have system : s.run.tree.systemOf c = some id := by
    have found : s.run.tree.contexts[c]? = some context := hosts.found
    simp [Tree.systemOf, found, hosts.belongs.system]
  have positive : 0 < s.run.tree.depthBound := Nat.mul_pos (Nat.succ_pos _) (Nat.succ_pos _)
  obtain ⟨depth, bound⟩ := Nat.exists_eq_add_one.mpr positive
  have invalid : validate s.blueprint s.run.tree other c =
      .error (mismatchError s.blueprint s.run.tree other c id) := by
    simp [validate, system, foreign.symm]
  simp only [stateAfter, Dataflow.evaluate, bound, answer, respond, bind_apply, get_apply, invalid]
  rfl

variable (ordered : (s.blueprint.system id).Ordered g)
  (disciplined : (s.blueprint.system id).Disciplined g content)
include ordered disciplined

theorem Faithful.of_upholds {s' : Session} (h : s.Faithful id c g content)
    (blueprint : s'.blueprint = s.blueprint) (safe : Run.Safe s.run s'.run)
    (upholds : s.tree.Upholds s'.tree c (s.blueprint.system id) g) : s'.Faithful id c g content := by
  obtain ⟨context, hosts⟩ := h.hosts
  obtain ⟨wf, retains⟩ := safe hosts.wellFormed
  refine ⟨blueprint ▸ hosts.retained wf retains upholds.parents, ?_⟩
  intro i bound
  rw [blueprint] at bound ⊢
  obtain ⟨v, value, holds, right⟩ := h.holds i bound
  refine ⟨v, (upholds.values i).trans value, holds, ?_⟩
  intro still
  have declared := List.getElem?_eq_getElem bound
  obtain ⟨current, agree⟩ := upholds.current i _ declared still
  obtain ⟨x, before, after, -⟩ := Reference.value_eq ordered disciplined declared agree
  exact after.trans (before.symm.trans (right current))

theorem Faithful.evaluate_eq (h : s.Faithful id c g content) (q : Query) : ∃ reply r',
    Reference.evaluate s.blueprint id (s.tree.fixed? c) q = some reply ∧
      Dataflow.evaluate s.blueprint id c q s.run = Eval.ofExcept reply r' ∧
      Faithful { s with run := r' } id c g content := by
  obtain ⟨context, hosts⟩ := h.hosts
  have fixed : s.tree.fixed? c = context.fixed? := Tree.fixed?_of_found hosts.found
  let S : Setting :=
    { blueprint := s.blueprint, id, c, graph := g, content, start := s.run, context, hosts, ordered,
      disciplined }
  have sound : S.Sound (· < S.system.entries.length) S.start :=
    ⟨Keeping.frame.refl _, fun i bound => by
      have holds := h.holds i bound
      rwa [fixed] at holds⟩
  obtain ⟨reply, r', known, evaluated, sound'⟩ := S.evaluate_eq sound q
  refine ⟨reply, r', fixed ▸ known, evaluated, ?_, ?_⟩
  · obtain ⟨context', hosts', -⟩ := sound'.hosts
    exact ⟨context', hosts'⟩
  · intro i bound
    obtain ⟨context', hosts', fixed'⟩ := sound'.hosts
    have now : r'.tree.fixed? c = context.fixed? :=
      (Tree.fixed?_of_found hosts'.found).trans fixed'
    have holds := sound'.holds i bound
    rw [show Session.tree { s with run := r' } = r'.tree from rfl, now]
    exact holds

theorem Faithful.apply (h : s.Faithful id c g content) {a : Action} (on : a.isOn c = true) :
    (s.apply a).Faithful id c g content := by
  obtain ⟨context, hosts⟩ := h.hosts
  have safe := safe_apply (s := s) a
  have slots {f : Cache → Cache} (subdued : Tree.Subdued f) (c' : ContextId) :
      s.tree.Upholds (s.onCache c' f).tree c (s.blueprint.system id) g :=
    Run.upholds_stateAfter_onTree fun t made => by
      obtain rfl := Except.ok.inj made
      exact subdued.upholds
  cases a with
  | addSystem | declare | addDiagram | removeDiagram | setParent | warn | setCell | addContext | setUp
  | createContext | subscribe | linkPorts => cases on
  | noteChange l =>
      refine h.of_upholds ordered disciplined rfl safe ?_
      rw [Session.tree, Session.apply, onRun, Run.stateAfter_noteChange]
      exact Run.upholds_stateAfter_spread fun spread made => Tree.upholds_spread hosts.wellFormed made
  | fixInput c' port v =>
      obtain rfl : c' = c := of_decide_eq_true on
      refine h.of_upholds ordered disciplined rfl safe ?_
      rw [Session.tree, Session.apply, onRun, Run.fixInput, stateAfter_discard]
      exact Run.upholds_stateAfter_spread fun spread made => Tree.upholds_fixInput hosts made
  | clearInput c' port =>
      obtain rfl : c' = c := of_decide_eq_true on
      exact h.of_upholds ordered disciplined rfl safe (Run.upholds_stateAfter_clearInput hosts)
  | enable c' index =>
      exact h.of_upholds ordered disciplined rfl safe (slots (Tree.subdued_enable index) c')
  | disable c' index =>
      exact h.of_upholds ordered disciplined rfl safe (slots (Tree.subdued_disable index) c')
  | markOutOfDate c' =>
      exact h.of_upholds ordered disciplined rfl safe (slots Tree.subdued_markOutOfDate c')
  | enableBelow c' =>
      exact h.of_upholds ordered disciplined rfl safe
        (Run.upholds_stateAfter_onTree fun t made => Tree.upholds_enableCaching made)
  | disableBelow c' =>
      exact h.of_upholds ordered disciplined rfl safe
        (Run.upholds_stateAfter_onTree fun t made => Tree.upholds_disableCaching made)
  | evaluate other c' q =>
      obtain rfl : c' = c := of_decide_eq_true on
      by_cases own : other = id
      · subst own
        obtain ⟨reply, r', -, evaluated, after⟩ := h.evaluate_eq ordered disciplined q
        have ended : stateAfter (Dataflow.evaluate s.blueprint other c' q) s.run = r' := by
          cases reply with
          | ok v => exact stateAfter_ok evaluated
          | error e => exact stateAfter_error evaluated
        rwa [Session.apply, onRun, ended]
      · rwa [Session.apply, onRun, stateAfter_evaluate_of_ne h own]

theorem Faithful.perform (h : s.Faithful id c g content) {actions : List Action}
    (on : ∀ a ∈ actions, a.isOn c = true) : (s.perform actions).Faithful id c g content := by
  induction actions generalizing s with
  | nil => exact h
  | cons a rest ih =>
      have first := on a List.mem_cons_self
      have after := h.apply ordered disciplined first
      rw [← blueprint_apply first] at ordered disciplined
      exact ih ordered disciplined after fun b mem => on b (List.mem_cons_of_mem _ mem)

end Session

end Dataflow
