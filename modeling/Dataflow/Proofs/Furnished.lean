import Dataflow.Proofs.Session

namespace Dataflow

namespace Context

variable {c c' : Context}

structure PortsTracked (c : Context) : Prop where
  inputs : ∀ p ∈ c.inputs, p.ticket ∈ c.graph.tickets
  outputs : ∀ t ∈ c.outputs, t ∈ c.graph.tickets

structure KeepsPorts (c c' : Context) : Prop where
  tickets : c.graph.tickets ⊆ c'.graph.tickets
  ports : c.PortsTracked → c'.PortsTracked

theorem KeepsPorts.frame : Frame KeepsPorts where
  refl _ := ⟨List.Subset.refl _, id⟩
  trans first later := ⟨List.Subset.trans first.tickets later.tickets, later.ports ∘ first.ports⟩

theorem PortsTracked.mono (h : c.PortsTracked) (tickets : c.graph.tickets ⊆ c'.graph.tickets)
    (inputs : c'.inputs.map (·.ticket) = c.inputs.map (·.ticket)) (outputs : c'.outputs = c.outputs) :
    c'.PortsTracked where
  inputs p mem := by
    have listed := List.mem_map_of_mem (f := InputSlot.ticket) mem
    rw [inputs] at listed
    obtain ⟨q, old, same⟩ := List.mem_map.mp listed
    exact tickets (same ▸ h.inputs q old)
  outputs t mem := tickets (h.outputs t (outputs ▸ mem))

theorem keepsPorts_of_same (graph : c'.graph = c.graph) (inputs : c'.inputs = c.inputs)
    (outputs : c'.outputs = c.outputs) : KeepsPorts c c' := by
  have tickets : c.graph.tickets ⊆ c'.graph.tickets := graph ▸ List.Subset.refl _
  exact ⟨tickets, fun h => h.mono tickets (inputs ▸ rfl) outputs⟩

theorem keepsPorts_onStore {f : Attempt Store Unit} (grows : Keeps Store.Grows f) :
    Keeps KeepsPorts (onStore f) := by
  intro c
  have grown := grows c.toStore
  simp only [KeepsAt, stateAfter, onStore] at grown ⊢
  cases result : f c.toStore <;> rw [result] at grown <;>
    exact ⟨grown.tickets, fun h => h.mono grown.tickets rfl rfl⟩

theorem mem_tickets_of_created {t : Ticket} {description : String} {u : Unit}
    (made : onStore (Store.create t description) c = .ok u c') : t ∈ c'.graph.tickets := by
  obtain ⟨store, create, rfl⟩ := onStore_eq_ok_iff.mp made
  exact Store.mem_tickets_of_create create

theorem keepsPorts_subscribeOutput (p : OutputPort) : Keeps KeepsPorts (subscribeOutput p) := by
  unfold subscribeOutput
  split
  · exact keepsPorts_onStore Store.grows_subscribe
  · exact .pure KeepsPorts.frame _

theorem keepsPorts_replay (d : System.Declaration) : Keeps KeepsPorts (replay d) := by
  have frame := KeepsPorts.frame
  have create (t : Ticket) (description : String) :
      Keeps KeepsPorts (onStore (Store.create t description)) := keepsPorts_onStore Store.grows_create
  have subscribe (t p : Ticket) : Keeps KeepsPorts (onStore (Store.subscribe t p)) :=
    keepsPorts_onStore Store.grows_subscribe
  cases d with
  | source s =>
      exact .bind frame (create _ _) fun _ => .bind frame (subscribe _ _) fun _ =>
        .modify fun c => keepsPorts_of_same rfl rfl rfl
  | input index p =>
      intro c
      refine (create _ _ c).bind frame fun _ c₁ created => ?_
      refine (subscribe _ _ c₁).bind frame fun _ c₂ joined => ?_
      have kept := subscribe .allInputs p.ticket c₁
      rw [KeepsAt, stateAfter_ok joined] at kept
      have tracked := kept.tickets (mem_tickets_of_created created)
      exact ⟨List.Subset.refl _, fun h => ⟨List.forall_mem_append.mpr
        ⟨h.inputs, List.forall_mem_singleton.mpr tracked⟩, h.outputs⟩⟩
  | entry index e =>
      exact .bind frame (keepsPorts_onStore Store.grows_addEntry) fun _ =>
        .modify fun c => keepsPorts_of_same rfl rfl rfl
  | output index p =>
      intro c
      refine (create _ _ c).bind frame fun _ c₁ created => ?_
      refine (keepsPorts_subscribeOutput p c₁).bind frame fun _ c₂ joined => ?_
      have kept := keepsPorts_subscribeOutput p c₁
      rw [KeepsAt, stateAfter_ok joined] at kept
      have tracked := kept.tickets (mem_tickets_of_created created)
      exact ⟨List.Subset.refl _, fun h => ⟨h.inputs, List.forall_mem_append.mpr
        ⟨h.outputs, List.forall_mem_singleton.mpr tracked⟩⟩⟩

theorem keepsPorts_setUp (id : SystemId) (s : System) (pathname : String) :
    Keeps KeepsPorts (setUp id s pathname) := by
  have frame := KeepsPorts.frame
  refine .bind frame (.get frame) ?_
  intro c
  split
  · exact .throw frame _
  · refine .bind frame (.modify fun c => keepsPorts_of_same rfl rfl rfl) ?_
    intro _
    refine .bind frame (.forM frame fun d _ => keepsPorts_replay d) ?_
    intro _
    exact .modify fun c => keepsPorts_of_same rfl rfl rfl

theorem portsTracked_fresh {parent : Option ContextId} {cachingEnabled : Bool} :
    (fresh parent cachingEnabled).PortsTracked :=
  ⟨fun _ mem => (List.not_mem_nil mem).elim, fun _ mem => (List.not_mem_nil mem).elim⟩

end Context

namespace Tree

variable {t t' : Tree} {id : ContextId} {c : Context} {f : Context → Context} {l : Location} {port : Nat}
  {s : Spread}

def Furnished (t : Tree) : Prop :=
  ∀ (id : ContextId) (c : Context), t.contexts[id]? = some c → c.PortsTracked

theorem Furnished.modifyContext (h : t.Furnished)
    (keeps : ∀ c, t.contexts[id]? = some c → c.PortsTracked → (f c).PortsTracked) :
    (t.modifyContext id f).Furnished := by
  intro other c found
  rw [contexts_modifyContext] at found
  split at found
  · rename_i same
    subst same
    obtain ⟨old, foundOld, rfl⟩ := Option.map_eq_some_iff.mp found
    exact keeps old foundOld (h id old foundOld)
  · exact h other c found

theorem Stamped.furnished {touched : Location → Prop} (stamped : Stamped t t' touched)
    (h : t.Furnished) : t'.Furnished := by
  intro id c' found'
  obtain ⟨c, graph, found, rfl, passes⟩ := stamped.origin found'
  exact (h id c found).mono (passes.tickets ▸ List.Subset.refl _) (Eq.refl _) (Eq.refl _)

theorem Furnished.setFixed (h : t.Furnished) {v : Option Value} : (t.setFixed id port v).Furnished :=
  h.modifyContext fun _ _ ports => ports.mono (List.Subset.refl _) (map_modify (fun _ => by rfl) _ _) rfl

theorem Furnished.onCache (h : t.Furnished) {f : Cache → Cache} :
    (t.modifyContext id (·.modifyCache f)).Furnished :=
  h.modifyContext fun _ _ ports => ports.mono (List.Subset.refl _) rfl rfl

theorem Furnished.foldl_onCache (h : t.Furnished) {f : Cache → Cache} (ids : List ContextId) :
    (ids.foldl (fun t c => t.modifyContext c (·.modifyCache f)) t).Furnished := by
  have frame : Frame fun t t' : Tree => t.Furnished → t'.Furnished :=
    ⟨fun _ => id, fun first later => later ∘ first⟩
  exact frame.foldl (fun _ _ furnished => furnished.onCache) ids t h

theorem Furnished.spread (h : t.Furnished) (made : t.spread l = .ok s) : s.tree.Furnished :=
  (stamped_spread made).furnished h

theorem Furnished.fixInput {v : Value} (h : t.Furnished) (made : t.fixInput id port v = .ok s) :
    s.tree.Furnished := by
  obtain ⟨c, slot, -, -, -, spread⟩ := fixInput_ok made
  exact h.setFixed.spread spread

theorem Furnished.clearInput (h : t.Furnished) (made : t.clearInput id port = .ok (some s)) :
    s.tree.Furnished := by
  obtain ⟨c, slot, -, -, spread⟩ := clearInput_ok made
  exact h.setFixed.spread spread

theorem Furnished.subscribe {subscriber prerequisite : Location} (h : t.Furnished)
    (made : t.subscribe subscriber prerequisite = .ok s) : s.tree.Furnished := by
  obtain ⟨-, -, spread⟩ := subscribe_ok made
  exact Furnished.spread (t := t.linked subscriber prerequisite) h spread

theorem Furnished.linkPorts {kind : LinkKind} {subscriber prerequisite : PortPlace} (h : t.Furnished)
    (made : t.linkPorts kind subscriber prerequisite = .ok s) : s.tree.Furnished := by
  obtain ⟨l, p, made⟩ := linkPorts_ok made
  exact h.subscribe made

theorem Furnished.addContext {parent : Option ContextId} (h : t.Furnished)
    (made : t.addContext parent = .ok t') : t'.Furnished := by
  obtain ⟨rfl, -⟩ := contexts_addContext made
  intro id c found
  rcases List.mem_append.mp (List.mem_of_getElem? found) with old | new
  · obtain ⟨other, foundOld⟩ := List.mem_iff_getElem?.mp old
    exact h other c foundOld
  · rw [List.mem_singleton.mp new]
    exact Context.portsTracked_fresh

theorem Furnished.of_outline (h : t.Furnished) (same : t'.outline = t.outline) : t'.Furnished := by
  intro id c' found'
  obtain ⟨c, found, outline⟩ := contexts_of_outline same.symm found'
  exact (Context.keepsPorts_of_same (congrArg (·.graph) outline.symm) (congrArg (·.inputs) outline.symm)
    (congrArg (·.outputs) outline.symm)).ports (h id c found)

theorem furnished_onContext {α : Type} {f : Context.SetUp α} (keeps : Keeps Context.KeepsPorts f) :
    Keeps (fun t t' => t.Furnished → t'.Furnished) (onContext id f) := by
  intro t h
  simp only [stateAfter, onContext]
  cases found : t.contexts[id]? with
  | none => exact h
  | some c =>
      have kept : c.KeepsPorts (stateAfter f c) := keeps c
      have update (c' : Context) (k : c.KeepsPorts c') : (t.modifyContext id fun _ => c').Furnished :=
        h.modifyContext fun old same ports => k.ports (Option.some.inj (found.symm.trans same) ▸ ports)
      cases result : f c <;> simp only [stateAfter, result] at kept ⊢ <;> exact update _ kept

end Tree

namespace Run

variable {b : Blueprint} {id : SystemId} {c : ContextId}

def Furnishes (r r' : Run) : Prop := r.tree.Furnished → r'.tree.Furnished

theorem Furnishes.frame : Frame Furnishes := ⟨fun _ => id, fun first later => later ∘ first⟩

theorem furnishes_spread {f : Tree → Except Error Spread}
    (keeps : ∀ t s, t.Furnished → f t = .ok s → s.tree.Furnished) : Keeps Furnishes (spread f) :=
  fun _ => stateAfter_spread (fun s made h => keeps _ s h made) id

theorem furnishes_onTree {f : Tree → Except Error Tree}
    (keeps : ∀ t t', t.Furnished → f t = .ok t' → t'.Furnished) : Keeps Furnishes (onTree f) :=
  fun _ => stateAfter_onTree (fun t made h => keeps _ t h made) fun _ _ => id

theorem furnishes_addContext (parent : Option ContextId) : Keeps Furnishes (addContext parent) := by
  have frame := Furnishes.frame
  exact .bind frame (.get frame) fun _ =>
    .bind frame (furnishes_onTree fun _ _ h made => h.addContext made) fun _ => .pure frame _

theorem furnishes_setUp : Keeps Furnishes (setUp b id c) := by
  intro r h
  have kept : (stateAfter (Tree.onContext c _) r.tree).Furnished :=
    Tree.furnished_onContext (Context.keepsPorts_setUp id (b.system id) (b.pathname id)) r.tree h
  simp only [stateAfter, setUp] at kept ⊢
  cases result : Tree.onContext c (Context.setUp id (b.system id) (b.pathname id)) r.tree with
  | error e t => simpa only [result] using kept
  | ok u t =>
      simp only [result] at kept
      cases found : t.contexts[c]? <;> simpa [found, note] using kept

theorem furnishes_createContext (parent : Option ContextId) :
    Keeps Furnishes (createContext b id parent) :=
  .bind Furnishes.frame (furnishes_addContext parent) fun _ =>
    .bind Furnishes.frame furnishes_setUp fun _ => .pure Furnishes.frame _

end Run

namespace Session

variable {s : Session}

theorem furnished_apply (h : s.tree.Furnished) (a : Action) : (s.apply a).tree.Furnished := by
  have cached (c : ContextId) (f : Cache → Cache) : (s.onCache c f).tree.Furnished :=
    Run.furnishes_onTree (fun t t' furnished made => Except.ok.inj made ▸ furnished.onCache) s.run h
  cases a with
  | addSystem | declare | addDiagram | removeDiagram | setParent | setCell => exact h
  | warn id kind index => simpa only [apply, tree, Evaluation.tree_reportPort] using h
  | addContext parent => exact Run.furnishes_addContext parent s.run h
  | setUp id c => exact Run.furnishes_setUp s.run h
  | createContext id parent => exact Run.furnishes_createContext parent s.run h
  | noteChange l =>
      have frame := Run.Furnishes.frame
      exact Keeps.bind frame (Run.furnishes_spread fun _ _ h => h.spread) (fun _ => .pure frame _) s.run h
  | fixInput c port v =>
      exact Keeps.discard (Run.furnishes_spread fun _ _ h => h.fixInput) s.run h
  | clearInput c port =>
      exact Run.stateAfter_clearInput (P := fun r => r.tree.Furnished) (fun _ => h.clearInput) h
  | subscribe subscriber prerequisite =>
      exact Keeps.discard (Run.furnishes_spread fun _ _ h => h.subscribe) s.run h
  | linkPorts kind subscriber prerequisite =>
      exact Keeps.discard (Run.furnishes_spread fun _ _ h => h.linkPorts) s.run h
  | enable c index => exact cached c _
  | disable c index => exact cached c _
  | markOutOfDate c => exact cached c _
  | enableBelow c =>
      refine Run.furnishes_onTree (fun t t' furnished made => ?_) s.run h
      obtain ⟨-, rfl⟩ := Tree.enableCaching_eq_ok_iff.mp made
      exact furnished.foldl_onCache _
  | disableBelow c =>
      refine Run.furnishes_onTree (fun t t' furnished made => ?_) s.run h
      obtain ⟨-, rfl⟩ := Tree.disableCaching_eq_ok_iff.mp made
      exact furnished.foldl_onCache _
  | evaluate id c q =>
      have kept : Evaluation.Keeping s.run (stateAfter (evaluate s.blueprint id c q) s.run) :=
        Evaluation.keeps_evaluate (Evaluation.keeping s.blueprint) q s.run
      exact h.of_outline kept.1

theorem Reachable.furnished (h : s.Reachable) : s.tree.Furnished := by
  induction h with
  | start config cells notices =>
      intro id c found
      simp [tree, Session.start] at found
  | apply a _ ih => exact furnished_apply ih a

end Session

end Dataflow
