import Dataflow.Proofs.Assembly
import Dataflow.Proofs.Freshness.Current
import Dataflow.Proofs.Transparency.Order
import Dataflow.Proofs.Tree.Subtree

namespace Dataflow

structure Context.Belongs (c : Context) (id : SystemId) (s : System) (g : Graph) : Prop where
  ready : c.isSetUp = true
  system : c.system = some id
  root : c.parent = none
  graph : c.graph.unstamped = g.unstamped
  slots : c.cache.map (·.ticket) = s.entries.map (·.ticket)
  ports : c.inputs.map (·.ticket) = s.inputs.map (·.ticket)

theorem Context.Belongs.of_skeleton {c c' : Context} {id : SystemId} {s : System} {g : Graph}
    (h : c.Belongs id s g) (same : c'.skeleton = c.skeleton) : c'.Belongs id s g where
  ready := (isSetUp_of_skeleton same).trans h.ready
  system := by
    have system : c'.skeleton.system = c.skeleton.system := congrArg Context.system same
    exact system.trans h.system
  root := by
    have parent : c'.skeleton.parent = c.skeleton.parent := congrArg Context.parent same
    exact parent.trans h.root
  graph := by
    have graph : c'.skeleton.graph = c.skeleton.graph := congrArg (·.graph) same
    exact graph.trans h.graph
  slots := by
    have slots := congrArg (fun c : Context => c.cache.map (·.ticket)) same
    simp only [skeleton, List.map_map] at slots
    exact slots.trans h.slots
  ports := by
    have ports := congrArg (fun c : Context => c.inputs.map (·.ticket)) same
    simp only [skeleton, List.map_map] at ports
    exact ports.trans h.ports

theorem Context.Belongs.slot {c : Context} {id : SystemId} {s : System} {g : Graph} {i : Nat}
    {e : Entry} (h : c.Belongs id s g) (declared : s.entries[i]? = some e) :
    ∃ slot, c.cache[i]? = some slot ∧ slot.ticket = e.ticket := by
  have tickets := congrArg (·[i]?) h.slots
  simp only [List.getElem?_map, declared, Option.map_some] at tickets
  exact Option.map_eq_some_iff.mp tickets

theorem Context.Belongs.port {c : Context} {id : SystemId} {s : System} {g : Graph} {port : Nat}
    {slot : InputSlot} {p : Port} (h : c.Belongs id s g) (found : c.inputs[port]? = some slot)
    (declared : s.inputs[port]? = some p) : slot.ticket = p.ticket := by
  have tickets := congrArg (·[port]?) h.ports
  simpa [declared, found] using tickets

namespace Tree

variable {t t' : Tree} {c id : ContextId} {l : Location} {s : Spread}

theorem parents_of_outline (same : t'.outline = t.outline) : t'.parents = t.parents := by
  have forget (t : Tree) : t.outline.parents = t.parents := by
    simp [Tree.parents, outline, Function.comp_def, Context.outline]
  rw [← forget t', same, forget t]

theorem Stamped.parents {touched : Location → Prop} (h : Stamped t t' touched) :
    t'.parents = t.parents := by
  apply List.ext_getElem?
  intro i
  simp only [Tree.parents, List.getElem?_map]
  cases found : t.contexts[i]? with
  | none => rw [h.contexts_eq_none found]
  | some c =>
      obtain ⟨graph, found', -⟩ := h.contexts i c found
      rw [found']
      rfl

structure Hosts (t : Tree) (c : ContextId) (id : SystemId) (s : System) (g : Graph)
    (context : Context) : Prop where
  wellFormed : t.WellFormed
  found : t.contexts[c]? = some context
  belongs : context.Belongs id s g
  alone : t.children c = []

namespace Hosts

variable {id : SystemId} {s : System} {g : Graph} {context : Context}

theorem retained (h : t.Hosts c id s g context) (wf : t'.WellFormed) (retains : t.Retains t')
    (parents : t'.parents = t.parents) : ∃ context', t'.Hosts c id s g context' := by
  obtain ⟨context', found', same⟩ := retains c context h.found
  have belongs := h.belongs.of_skeleton (same h.belongs.ready)
  exact ⟨context', wf, found', belongs, (children_congr parents).trans h.alone⟩

theorem of_outline (h : t.Hosts c id s g context) (wf : t'.WellFormed) (same : t'.outline = t.outline) :
    ∃ context', t'.Hosts c id s g context' ∧ context'.outline = context.outline := by
  obtain ⟨context', found', same'⟩ := contexts_of_outline same h.found
  have belongs := h.belongs.of_skeleton (Context.skeleton_of_outline same')
  exact ⟨context', ⟨wf, found', belongs, (children_congr (parents_of_outline same)).trans h.alone⟩, same'⟩

theorem reaches (h : t.Hosts c id s g context) : context.graph.Reaches = g.Reaches :=
  Graph.reaches_congr h.belongs.graph

theorem slotOf (h : t.Hosts c id s g context) {i : Nat} {e : Entry}
    (declared : s.entries[i]? = some e) :
    ∃ slot n, Evaluation.slotOf t c i = .ok (slot, n) ∧ slot.ticket = e.ticket := by
  obtain ⟨slot, foundSlot, ticket⟩ := h.belongs.slot declared
  have tracked := (h.wellFormed.context h.found).tracked slot (List.mem_of_getElem? foundSlot)
  obtain ⟨k, foundTracker⟩ := Graph.mem_tickets_iff.mp tracked
  exact ⟨slot, k.serial,
    Evaluation.slotOf_eq_ok_iff.mpr ⟨context, k, h.found, foundSlot, foundTracker, rfl⟩, ticket⟩

end Hosts

end Tree

theorem Run.hosts_of_createContext {b : Blueprint} {id : SystemId} {c : ContextId} {r r' : Run}
    (wf : r.tree.WellFormed) (made : createContext b id none r = .ok c r') : ∃ context,
    r'.tree.Hosts c id (b.system id) context.graph context ∧
      (b.system id).Ordered context.graph ∧
      ∀ (i : Nat) (e : Entry), (b.system id).entries[i]? = some e → ∃ slot : Slot,
        context.cache[i]? = some slot ∧ slot.value = some e.initial ∧ slot.computedAt = none := by
  have safe : Safe r r' := by
    have safe : Safe r (stateAfter (createContext b id none) r) := safe_createContext none r
    rwa [stateAfter_ok made] at safe
  obtain ⟨rfl, context, ready, tree⟩ := createContext_ok made
  have fresh : (Context.fresh none r.tree.config.cachingEnabled).IsFresh := Context.isFresh_fresh
  have laid := Context.laid_setUp fresh ready
  have fresh' : Context.IsFresh { Context.fresh none r.tree.config.cachingEnabled with
      systemName := (b.system id).name, system := some id, isSetUp := true } :=
    ⟨fresh.graph, fresh.cache, fresh.sources, fresh.inputs, fresh.outputs⟩
  have replayed := laid.replayed fresh'
  refine ⟨context, ⟨(safe wf).1, ?_, ?_, ?_⟩, laid.systemOrdered fresh', fun i e declared => ?_⟩
  · rw [tree]
    exact List.getElem?_concat_length
  · refine ⟨congrArg Context.isSetUp laid.rest, congrArg Context.system laid.rest,
      congrArg Context.parent laid.rest, rfl, ?_, ?_⟩
    · rw [replayed.cache]
      exact List.ext_getElem? fun i => by simp [Function.comp_def]
    · simp [replayed.inputs, Function.comp_def]
  · exact (safe wf).1.children_eq_nil (by simp [tree, Tree.size])
  · have slots := congrArg (·[i]?) replayed.cache
    simp only [List.getElem?_mapIdx, declared, Option.map_some] at slots
    exact ⟨_, slots, rfl, rfl⟩

end Dataflow
