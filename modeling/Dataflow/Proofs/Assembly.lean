import Dataflow.Proofs.Declarations
import Dataflow.Proofs.Replay
import Dataflow.Proofs.Session

namespace Dataflow

namespace Run

variable {b : Blueprint} {id : SystemId} {c : ContextId} {parent : Option ContextId} {r r' : Run}

theorem onTree_eq_ok_iff {f : Tree → Except Error Tree} {u : Unit} :
    onTree f r = .ok u r' ↔ ∃ t, f r.tree = .ok t ∧ r' = { r with tree := t } := by
  simp only [onTree, step_eq_ok_iff, bind, Except.bind]
  cases f r.tree <;> simp [pure, Except.pure, eq_comm]

theorem tree_setUp_ok {u : Unit} (made : setUp b id c r = .ok u r') : ∃ context context',
    r.tree.contexts[c]? = some context ∧
      Context.setUp id (b.system id) (b.pathname id) context = .ok () context' ∧
      r'.tree = r.tree.modifyContext c fun _ => context' := by
  simp only [setUp, Tree.onContext] at made
  cases found : r.tree.contexts[c]? with
  | none => simp [found] at made
  | some context =>
      cases result : Context.setUp id (b.system id) (b.pathname id) context with
      | error e context' => simp [found, result] at made
      | ok u context' =>
          simp only [found, result, Tree.contexts_modifyContext_self found,
            EStateM.Result.ok.injEq] at made
          exact ⟨context, context', rfl, result, made.2 ▸ rfl⟩

theorem createContext_ok (made : createContext b id parent r = .ok c r') : c = r.tree.size ∧
    ∃ context, Context.setUp id (b.system id) (b.pathname id)
        (.fresh parent r.tree.config.cachingEnabled) = .ok () context ∧
      r'.tree = { r.tree with contexts := r.tree.contexts ++ [context] } := by
  obtain ⟨c₁, r₁, added, made⟩ := bind_eq_ok_iff.mp made
  obtain ⟨⟨⟩, r₂, ready, same⟩ := bind_eq_ok_iff.mp made
  obtain ⟨r₃, r₄, got, added⟩ := bind_eq_ok_iff.mp added
  obtain ⟨⟨⟩, r₅, grown, number⟩ := bind_eq_ok_iff.mp added
  cases got
  cases number
  cases same
  obtain ⟨t, extended, rfl⟩ := onTree_eq_ok_iff.mp grown
  obtain ⟨rfl, -⟩ := Tree.contexts_addContext extended
  obtain ⟨context, context', found, result, tree⟩ := tree_setUp_ok ready
  have last : (r.tree.contexts ++ [.fresh parent r.tree.config.cachingEnabled])[r.tree.size]? =
      some (.fresh parent r.tree.config.cachingEnabled) := List.getElem?_concat_length
  obtain rfl := Option.some.inj (found.symm.trans last)
  refine ⟨rfl, context', result, tree.trans ?_⟩
  simp only [Tree.modifyContext]
  congr 1
  exact List.modifyTailIdx_add (List.modifyHead fun _ => context') 0 r.tree.contexts [_]

theorem laid_of_createContext (made : createContext b id parent r = .ok c r') : ∃ c₀ context,
    c₀.IsFresh ∧ r'.tree.contexts[c]? = some context ∧ context.isSetUp = true ∧
      context.system = some id ∧ Context.Laid c₀ (b.system id).declarations context := by
  obtain ⟨rfl, context, ready, tree⟩ := createContext_ok made
  have laid := Context.laid_setUp Context.isFresh_fresh ready
  refine ⟨_, context, Context.isFresh_fresh.renamed, ?_, ?_, ?_, laid⟩
  · rw [tree]
    exact List.getElem?_concat_length
  · exact congrArg Context.isSetUp laid.rest
  · exact congrArg Context.system laid.rest

end Run

namespace Declare

def Longer (s s' : System) : Prop := s.entries.length ≤ s'.entries.length

end Declare

namespace System

variable {s s' : System}

theorem Step.longer (h : s.Step s') : Declare.Longer s s' := by
  cases h <;> simp [Declare.Longer, advanced]

theorem lasting_longer : Lasting Declare.Longer where
  frame := ⟨fun _ => Nat.le_refl _, Nat.le_trans⟩
  declare _ clause _ := (Declare.step_clause clause).longer
  attach _ _ := Nat.le_refl _
  new _ _ _ := Nat.zero_le _

end System

def Blueprint.KeepsEntries (b b' : Blueprint) : Prop :=
  ∀ id, (b.system id).entries.length ≤ (b'.system id).entries.length

namespace Session

variable {s : Session} {id : SystemId} {c : ContextId}

theorem keepsEntries_apply (a : Action) : s.blueprint.KeepsEntries (s.apply a).blueprint :=
  lasts_apply System.lasting_longer a

structure Serves (s : Session) (id : SystemId) (c : ContextId) (context : Context) : Prop where
  found : s.tree.contexts[c]? = some context
  ready : context.isSetUp = true
  system : context.system = some id
  entries : context.cache.length ≤ (s.blueprint.system id).entries.length

theorem Serves.apply {context : Context} (wf : s.tree.WellFormed) (h : s.Serves id c context)
    (a : Action) : ∃ context', (s.apply a).Serves id c context' := by
  obtain ⟨context', found, same⟩ := (safe_apply a wf).2 c context h.found
  have same := same h.ready
  have length := congrArg (fun c : Context => c.cache.length) same
  have system := congrArg Context.system same
  simp only [Context.skeleton, List.length_map] at length system
  refine ⟨context', found, (Context.isSetUp_of_skeleton same).trans h.ready, system.trans h.system, ?_⟩
  rw [length]
  exact Nat.le_trans h.entries (keepsEntries_apply a id)

theorem Serves.perform {context : Context} (wf : s.tree.WellFormed) (h : s.Serves id c context)
    (actions : List Action) : ∃ context', (s.perform actions).Serves id c context' := by
  induction actions generalizing s context with
  | nil => exact ⟨context, h⟩
  | cons a rest ih =>
      obtain ⟨context', h'⟩ := h.apply wf a
      exact ih (wellFormed_apply wf a) h'

theorem serves_of_createContext {parent : Option ContextId} {r : Run}
    (made : Run.createContext s.blueprint id parent s.run = .ok c r) :
    ∃ context, (s.apply (.createContext id parent)).Serves id c context := by
  obtain ⟨c₀, context, -, found, ready, system, laid⟩ := Run.laid_of_createContext made
  have tree : (s.apply (.createContext id parent)).tree = r.tree :=
    congrArg Run.tree (stateAfter_ok made)
  refine ⟨context, tree ▸ found, ready, system, ?_⟩
  rw [laid.cache, List.flatMap_def, System.map_declarations]
  simp [System.Declaration.slots, System.flatten_mapIdx_singleton, System.flatten_mapIdx_nil, apply,
    onRun]

end Session

end Dataflow
