import Dataflow.Proofs.Replay.Built

namespace Dataflow

namespace System.Declaration

def label : Declaration → Ticket × String × Serial
  | source s => (s.ticket, s.description, 0)
  | input index p => (p.ticket, s!"u{index}", 0)
  | entry _ e => (e.ticket, e.description, 0)
  | output index p => (p.ticket, s!"y{index}", 0)

def edges : Declaration → List (Ticket × Ticket)
  | source s => [(s.group.aggregate, s.ticket)]
  | input _ p => [(.allInputs, p.ticket)]
  | entry _ e => e.prerequisites.map (e.ticket, ·)
  | output _ p => if p.child.isNone then [(p.ticket, p.dependency)] else []

def owners : Declaration → List (Nat × Ticket)
  | entry index e => [(index, e.ticket)]
  | _ => []

def slots (caching : Bool) : Declaration → List Slot
  | entry index e =>
      [{ index, ticket := e.ticket, description := e.description, value := e.initial
         disabled := e.disabledByDefault || !caching }]
  | _ => []

def sources : Declaration → List (SourceGroup × Ticket)
  | source s => [(s.group, s.ticket)]
  | _ => []

def inputs : Declaration → List InputSlot
  | input _ p => [{ name := p.name, ticket := p.ticket, type := p.type }]
  | _ => []

def outputs : Declaration → List Ticket
  | output _ p => [p.ticket]
  | _ => []

end System.Declaration

namespace Context

variable {c₀ c c' : Context} {done : List System.Declaration}
  {d : System.Declaration} {α : Type} {a : α} {u : Unit}

/-- A context that has nothing but the trackers it started with. -/
structure IsFresh (c : Context) : Prop where
  graph : c.graph.unstamped = Graph.builtIn
  cache : c.cache = []
  sources : c.sources = []
  inputs : c.inputs = []
  outputs : c.outputs = []

structure Laid (c₀ : Context) (done : List System.Declaration) (c : Context) : Prop where
  graph : c₀.graph.Built c.graph (done.map System.Declaration.label)
    (Graph.builtInEdges ++ done.flatMap System.Declaration.edges) (done.flatMap System.Declaration.owners)
  cache : c.cache = done.flatMap (System.Declaration.slots c₀.cachingEnabled)
  sources : c.sources = done.flatMap System.Declaration.sources
  inputs : c.inputs = done.flatMap System.Declaration.inputs
  outputs : c.outputs = done.flatMap System.Declaration.outputs
  rest : c = { c₀ with
    toStore := c.toStore, sources := c.sources, inputs := c.inputs, outputs := c.outputs }
  /-- each declaration joins trackers that are there by then -/
  ordered : ∀ i d, done[i]? = some d → ∀ e ∈ d.edges,
    e.1 ∈ c₀.graph.tickets ++ (done.take (i + 1)).map (·.label.1) ∧
    e.2 ∈ c₀.graph.tickets ++ (done.take (i + 1)).map (·.label.1)

theorem IsFresh.tickets (fresh : c₀.IsFresh) : c₀.graph.tickets = Graph.builtIn.tickets := by
  rw [← Graph.tickets_unstamped, fresh.graph]

theorem IsFresh.renamed (fresh : c₀.IsFresh) {name : String} {id : Option SystemId} {isSetUp : Bool} :
    IsFresh { c₀ with systemName := name, system := id, isSetUp } :=
  ⟨fresh.graph, fresh.cache, fresh.sources, fresh.inputs, fresh.outputs⟩

theorem laid_start (fresh : c₀.IsFresh) : Laid c₀ [] c₀ where
  graph := by
    refine ⟨by simp, rfl, ?_, ?_, ?_, by simp, by simp⟩
    · rw [fresh.tickets]
      exact Graph.wellFormed_builtIn.nodup
    · refine Graph.linked_of_unstamped (fresh.graph.symm ▸ ?_)
      simpa using Graph.linked_builtIn
    · intro k mem i
      have unowned : ∀ k ∈ Graph.builtIn.trackers, k.entry = none := by decide
      have none := unowned { k with serial := 0 } (fresh.graph ▸ List.mem_map_of_mem mem)
      simp [show k.entry = .none from none]
  cache := fresh.cache
  sources := fresh.sources
  inputs := fresh.inputs
  outputs := fresh.outputs
  rest := rfl
  ordered := by simp

theorem Laid.snoc (h : Laid c₀ done c)
    (graph : c₀.graph.Built c'.graph (done.map System.Declaration.label ++ [d.label])
      (Graph.builtInEdges ++ done.flatMap System.Declaration.edges ++ d.edges)
      (done.flatMap System.Declaration.owners ++ d.owners))
    (cache : c'.cache = c.cache ++ d.slots c₀.cachingEnabled)
    (sources : c'.sources = c.sources ++ d.sources)
    (inputs : c'.inputs = c.inputs ++ d.inputs)
    (outputs : c'.outputs = c.outputs ++ d.outputs)
    (rest : c' = { c with
      toStore := c'.toStore, sources := c'.sources, inputs := c'.inputs, outputs := c'.outputs }) :
    Laid c₀ (done ++ [d]) c' := by
  refine ⟨by simpa using graph, ?_, ?_, ?_, ?_, ?_, ?_⟩
  · simp [cache, h.cache]
  · simp [sources, h.sources]
  · simp [inputs, h.inputs]
  · simp [outputs, h.outputs]
  · rw [rest, h.rest]
  · intro i d' found e mem
    have tickets : c'.graph.tickets = c₀.graph.tickets ++ (done ++ [d]).map (·.label.1) := by
      rw [Graph.tickets_eq_labels, graph.labels, Graph.tickets_eq_labels]
      simp
    by_cases old : i < done.length
    · rw [List.getElem?_append_left old] at found
      rw [List.take_append_of_le_length old]
      exact h.ordered i d' found e mem
    · have last : i = done.length := by
        have bound := (List.getElem?_eq_some_iff.mp found).1
        rw [List.length_append, List.length_singleton] at bound
        omega
      subst last
      obtain rfl : d = d' := by simpa using found
      rw [List.take_of_length_le (by simp), ← tickets]
      exact graph.linked.tracked e.1 e.2 (List.mem_append_right _ mem)

theorem onGraph_eq_ok_iff {f : Graph → Except Error Graph} : onStore (Store.onGraph f) c = .ok u c' ↔
    ∃ graph, f c.graph = .ok graph ∧ c' = { c with graph } := by
  simp only [onStore_eq_ok_iff, Store.onGraph_eq_ok_iff]
  exact ⟨fun ⟨_, ⟨graph, made, rfl⟩, same⟩ => ⟨graph, made, same⟩,
    fun ⟨graph, made, same⟩ => ⟨_, ⟨graph, made, rfl⟩, same⟩⟩

theorem built_joined {g₀ : Graph} {added : List (Ticket × String × Serial)}
    {edges : List (Ticket × Ticket)} {owners : List (Nat × Ticket)} {t aggregate : Ticket}
    {description : String} {c₁ c₂ : Context} {u₁ u₂ : Unit}
    (h : g₀.Built c.graph added edges owners)
    (created : onStore (Store.create t description) c = .ok u₁ c₁)
    (joined : onStore (Store.subscribe aggregate t) c₁ = .ok u₂ c₂) :
    g₀.Built c₂.graph (added ++ [(t, description, 0)]) (edges ++ [(aggregate, t)]) owners ∧
      c₂ = { c with graph := c₂.graph } := by
  obtain ⟨g₁, create, rfl⟩ := onGraph_eq_ok_iff.mp created
  obtain ⟨g₂, subscribe, rfl⟩ := onGraph_eq_ok_iff.mp joined
  exact ⟨(h.create create).1.subscribe subscribe, rfl⟩

theorem laid_entry {index : Nat} {e : Entry} (h : Laid c₀ done c)
    (made : replay (.entry index e) c = .ok u c') : Laid c₀ (done ++ [.entry index e]) c' := by
  obtain ⟨⟨⟩, c₁, furnished, seeded⟩ := bind_eq_ok_iff.mp made
  cases seeded
  obtain ⟨s₁, furnish, rfl⟩ := onStore_eq_ok_iff.mp furnished
  have graph := Store.built_addEntry h.graph furnish
  obtain ⟨rfl, cache⟩ := Store.cache_addEntry furnish
  refine h.snoc graph ?_ (List.append_nil _).symm (List.append_nil _).symm (List.append_nil _).symm rfl
  have caching : c.cachingEnabled = c₀.cachingEnabled := congrArg (·.cachingEnabled) h.rest
  simp only [modifySlot, cache, Cache.modify_last, System.Declaration.slots, caching]
  cases disabled : e.disabledByDefault || !c₀.cachingEnabled <;> rfl

theorem laid_output {index : Nat} {p : OutputPort} (h : Laid c₀ done c)
    (made : replay (.output index p) c = .ok u c') : Laid c₀ (done ++ [.output index p]) c' := by
  obtain ⟨⟨⟩, c₁, created, made⟩ := bind_eq_ok_iff.mp made
  obtain ⟨⟨⟩, c₂, subscribed, noted⟩ := bind_eq_ok_iff.mp made
  cases noted
  obtain ⟨g₁, create, rfl⟩ := onGraph_eq_ok_iff.mp created
  have graph := (h.graph.create create).1
  rw [← List.append_nil (done.flatMap System.Declaration.owners)] at graph
  have empty (α : Type) (xs : List α) := (List.append_nil xs).symm
  by_cases own : p.child.isNone
  · simp only [subscribeOutput, own, if_true] at subscribed
    obtain ⟨g₂, subscribe, rfl⟩ := onGraph_eq_ok_iff.mp subscribed
    have edges : System.Declaration.edges (.output index p) = [(p.ticket, p.dependency)] := if_pos own
    refine h.snoc ?_ (empty _ _) (empty _ _) (empty _ _) rfl rfl
    rw [edges]
    exact graph.subscribe subscribe
  · simp only [subscribeOutput, own] at subscribed
    cases subscribed
    have edges : System.Declaration.edges (.output index p) = [] := if_neg own
    refine h.snoc ?_ (empty _ _) (empty _ _) (empty _ _) rfl rfl
    rw [edges, List.append_nil]
    exact graph

theorem laid_replay (h : Laid c₀ done c) (made : replay d c = .ok u c') :
    Laid c₀ (done ++ [d]) c' := by
  have empty (α : Type) (xs : List α) := (List.append_nil xs).symm
  cases d with
  | source s =>
      obtain ⟨⟨⟩, c₁, created, made⟩ := bind_eq_ok_iff.mp made
      obtain ⟨⟨⟩, c₂, joined, noted⟩ := bind_eq_ok_iff.mp made
      cases noted
      obtain ⟨graph, same⟩ := built_joined h.graph created joined
      rw [← List.append_nil (done.flatMap System.Declaration.owners)] at graph
      rw [same]
      exact h.snoc graph (empty _ _) rfl (empty _ _) (empty _ _) rfl
  | input index p =>
      obtain ⟨⟨⟩, c₁, created, made⟩ := bind_eq_ok_iff.mp made
      obtain ⟨⟨⟩, c₂, joined, noted⟩ := bind_eq_ok_iff.mp made
      cases noted
      obtain ⟨graph, same⟩ := built_joined h.graph created joined
      rw [← List.append_nil (done.flatMap System.Declaration.owners)] at graph
      rw [same]
      exact h.snoc graph (empty _ _) (empty _ _) rfl (empty _ _) rfl
  | entry index e => exact laid_entry h made
  | output index p => exact laid_output h made

theorem laid_setUp {id : SystemId} {s : System} {pathname : String} (fresh : c₀.IsFresh)
    (made : setUp id s pathname c₀ = .ok u c) :
    Laid { c₀ with systemName := s.name, system := some id, isSetUp := true } s.declarations c := by
  obtain ⟨c₁, c₂, got, made⟩ := bind_eq_ok_iff.mp made
  cases got
  split at made
  · cases made
  · obtain ⟨⟨⟩, c₂, named, made⟩ := bind_eq_ok_iff.mp made
    obtain ⟨⟨⟩, c₃, replayed, ended⟩ := bind_eq_ok_iff.mp made
    cases named
    cases ended
    have start : Laid { c₀ with systemName := s.name, system := some id } []
        { c₀ with systemName := s.name, system := some id } :=
      laid_start fresh.renamed
    have h := forM_ok start (fun _ _ _ _ => laid_replay) replayed
    exact ⟨h.graph, h.cache, h.sources, h.inputs, h.outputs,
      congrArg (fun c : Context => { c with isSetUp := true }) h.rest, h.ordered⟩

end Context

end Dataflow
