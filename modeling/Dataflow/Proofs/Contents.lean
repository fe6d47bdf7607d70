import Dataflow.Proofs.Origin

namespace Dataflow

def Slot.content (s : Slot) : Option Value × Metrics := (s.value, s.metrics)

def Spared (before after : Option (Option Value × Metrics)) : Prop :=
  after = before ∨ before = none ∧ ∃ v, after = some (v, {})

theorem Spared.frame : Frame Spared where
  refl _ := .inl rfl
  trans first later := by
    rcases first with rfl | ⟨absent, v, rfl⟩
    · exact later
    · rcases later with rfl | ⟨absent', -⟩
      · exact .inr ⟨absent, v, rfl⟩
      · cases absent'

namespace Context

variable {c c' c'' : Context} {i : Nat}

def content? (c : Context) (i : Nat) : Option (Option Value × Metrics) :=
  c.cache[i]?.map Slot.content

def SparesSlots (c c' : Context) : Prop := ∀ i, Spared (c.content? i) (c'.content? i)

theorem SparesSlots.frame : Frame SparesSlots where
  refl c i := Spared.frame.refl (c.content? i)
  trans first later i := Spared.frame.trans (first i) (later i)

theorem sparesSlots_of_cache (same : c'.cache = c.cache) : c.SparesSlots c' :=
  fun i => .inl (by rw [content?, content?, same])

theorem content?_onSlots {f : Slot → Slot} (keeps : ∀ s, (f s).content = s.content)
    (index : Option Nat) : (c.modifyCache (·.onSlots index f)).content? i = c.content? i := by
  simp only [content?, modifyCache]
  cases index with
  | none =>
      simp only [Cache.onSlots, List.getElem?_map, Option.map_map]
      cases c.cache[i]? with
      | none => rfl
      | some slot => exact congrArg some (keeps slot)
  | some index =>
      simp only [Cache.onSlots, List.getElem?_modify]
      cases c.cache[i]? with
      | none => rfl
      | some slot => by_cases same : index = i <;> simp [same, keeps]

theorem sparesSlots_append {added : List Slot} (cache : c'.cache = c.cache ++ added)
    (zero : ∀ slot ∈ added, slot.metrics = {}) : c.SparesSlots c' := by
  intro i
  simp only [content?, cache]
  by_cases inside : i < c.cache.length
  · rw [List.getElem?_append_left inside]
    exact .inl rfl
  · have outside := Nat.le_of_not_lt inside
    rw [List.getElem?_append_right outside, List.getElem?_eq_none outside]
    cases found : added[i - c.cache.length]? with
    | none => exact .inl rfl
    | some slot =>
        refine .inr ⟨rfl, slot.value, ?_⟩
        rw [Option.map_some, Slot.content, zero slot (List.mem_of_getElem? found)]

theorem sparesSlots_replay (d : System.Declaration) : Keeps SparesSlots (replay d) := by
  intro c
  cases result : replay d c with
  | ok u c' =>
      rw [KeepsAt, stateAfter_ok result]
      refine sparesSlots_append (cache_replay result) fun slot mem => ?_
      cases d with
      | entry index x => rw [List.mem_singleton.mp mem]
      | _ => cases mem
  | error e c' =>
      rw [KeepsAt, stateAfter_error result]
      exact sparesSlots_of_cache (cache_replay_error result)

theorem sparesSlots_setUp (id : SystemId) (s : System) (pathname : String) :
    Keeps SparesSlots (setUp id s pathname) := by
  have frame := SparesSlots.frame
  refine .bind frame (.get frame) fun c => ?_
  split
  · exact .throw frame _
  · exact .bind frame (.modify fun _ => frame.refl _) fun _ =>
      .bind frame (.forM frame fun d _ => sparesSlots_replay d) fun _ => .modify fun _ => frame.refl _

end Context

namespace Tree

variable {t t' : Tree} {id : ContextId} {f : Context → Context}

def content? (t : Tree) (c : ContextId) (i : Nat) : Option (Option Value × Metrics) :=
  t.contexts[c]?.bind (·.content? i)

def SparesSlots (t t' : Tree) : Prop := ∀ c i, Spared (t.content? c i) (t'.content? c i)

theorem SparesSlots.frame : Frame SparesSlots where
  refl t c i := Spared.frame.refl (t.content? c i)
  trans first later c i := Spared.frame.trans (first c i) (later c i)

theorem sparesSlots_modifyContext
    (spares : ∀ context, t.contexts[id]? = some context → context.SparesSlots (f context)) :
    t.SparesSlots (t.modifyContext id f) := by
  intro c i
  by_cases here : id = c
  · subst here
    cases found : t.contexts[id]? with
    | none => exact .inl (by simp [content?, contexts_modifyContext, found])
    | some context =>
        rw [content?, content?, contexts_modifyContext_self found, found]
        exact spares context found i
  · exact .inl (by rw [content?, content?, contexts_modifyContext_ne here])

theorem sparesSlots_onSlots {g : Slot → Slot} (keeps : ∀ s, (g s).content = s.content)
    (index : Option Nat) : t.SparesSlots (t.modifyContext id (·.modifyCache (·.onSlots index g))) :=
  sparesSlots_modifyContext fun _ _ _ => .inl (Context.content?_onSlots keeps index)

theorem Stamped.sparesSlots {touched : Location → Prop} (h : Stamped t t' touched) :
    t.SparesSlots t' := by
  intro c i
  refine .inl ?_
  cases found : t.contexts[c]? with
  | none => rw [content?, content?, found, h.contexts_eq_none found]
  | some context =>
      obtain ⟨graph, found', -⟩ := h.contexts c context found
      rw [content?, content?, found, found']
      rfl

theorem sparesSlots_setFixed {port : Nat} {v : Option Value} : t.SparesSlots (t.setFixed id port v) :=
  sparesSlots_modifyContext fun _ _ => Context.sparesSlots_of_cache rfl

theorem sparesSlots_fixInput {port : Nat} {v : Value} {s : Spread}
    (made : t.fixInput id port v = .ok s) : t.SparesSlots s.tree := by
  obtain ⟨c, slot, -, -, -, spread⟩ := fixInput_ok made
  exact SparesSlots.frame.trans sparesSlots_setFixed (stamped_spread spread).sparesSlots

theorem sparesSlots_clearInput {port : Nat} {s : Spread}
    (made : t.clearInput id port = .ok (some s)) : t.SparesSlots s.tree := by
  obtain ⟨c, slot, -, -, spread⟩ := clearInput_ok made
  exact SparesSlots.frame.trans sparesSlots_setFixed (stamped_spread spread).sparesSlots

theorem sparesSlots_subscribe {subscriber prerequisite : Location} {s : Spread}
    (made : t.subscribe subscriber prerequisite = .ok s) : t.SparesSlots s.tree := by
  obtain ⟨-, -, spread⟩ := subscribe_ok made
  have linked : t.SparesSlots (t.linked subscriber prerequisite) := fun _ _ => .inl rfl
  exact SparesSlots.frame.trans linked (stamped_spread spread).sparesSlots

theorem sparesSlots_addContext {parent : Option ContextId} (made : t.addContext parent = .ok t') :
    t.SparesSlots t' := by
  obtain ⟨rfl, -⟩ := contexts_addContext made
  intro c i
  refine .inl ?_
  by_cases old : c < t.contexts.length
  · simp only [content?, List.getElem?_append_left old]
  · have new := Nat.le_of_not_lt old
    simp only [content?, List.getElem?_append_right new, List.getElem?_eq_none new]
    cases found : [Context.fresh parent t.config.cachingEnabled][c - t.contexts.length]? with
    | none => rfl
    | some context =>
        obtain rfl := List.mem_singleton.mp (List.mem_of_getElem? found)
        rfl

theorem sparesSlots_foldl (spares : ∀ context : Context, context.SparesSlots (f context))
    (ids : List ContextId) : t.SparesSlots (ids.foldl (fun t c => t.modifyContext c f) t) :=
  SparesSlots.frame.foldl (fun _ _ => sparesSlots_modifyContext fun context _ => spares context) ids t

theorem sparesSlots_disableCaching (made : t.disableCaching id = .ok t') : t.SparesSlots t' := by
  obtain ⟨-, rfl⟩ := disableCaching_eq_ok_iff.mp made
  apply sparesSlots_foldl
  intro context i
  exact .inl (Context.content?_onSlots (f := Slot.disable) (fun _ => rfl) none)

theorem sparesSlots_enableCaching (made : t.enableCaching id = .ok t') : t.SparesSlots t' := by
  obtain ⟨-, rfl⟩ := enableCaching_eq_ok_iff.mp made
  apply sparesSlots_foldl
  intro context i
  have marked := Context.content?_onSlots (c := context.modifyCache (·.enable)) (i := i)
    (f := Slot.markOutOfDate) (fun _ => rfl) none
  exact .inl (marked.trans (Context.content?_onSlots (f := Slot.enable) (fun _ => rfl) none))

end Tree

namespace Run

variable {r : Run}

def SparesSlots (r r' : Run) : Prop := r.tree.SparesSlots r'.tree

theorem SparesSlots.frame : Frame SparesSlots := Tree.SparesSlots.frame.on Run.tree

theorem sparesSlots_spread {f : Tree → Except Error Spread}
    (h : ∀ t s, f t = .ok s → t.SparesSlots s.tree) : Keeps SparesSlots (spread f) := by
  intro r
  apply stateAfter_spread
  · exact fun s made => h r.tree s made
  · exact SparesSlots.frame.refl r

theorem sparesSlots_onTree {f : Tree → Except Error Tree}
    (h : ∀ t t', f t = .ok t' → t.SparesSlots t') : Keeps SparesSlots (onTree f) := by
  intro r
  apply stateAfter_onTree
  · exact fun t made => h r.tree t made
  · exact fun _ _ => SparesSlots.frame.refl r

theorem sparesSlots_setUp {b : Blueprint} {id : SystemId} {c : ContextId} :
    Keeps SparesSlots (setUp b id c) := by
  intro r
  rw [KeepsAt, SparesSlots, tree_setUp]
  split
  · exact Tree.SparesSlots.frame.refl r.tree
  · rename_i before found
    refine Tree.sparesSlots_modifyContext fun context same => ?_
    obtain rfl := Option.some.inj (found.symm.trans same)
    exact Context.sparesSlots_setUp id _ _ before

theorem sparesSlots_addContext (parent : Option ContextId) : Keeps SparesSlots (addContext parent) := by
  have frame := SparesSlots.frame
  have grown : Keeps SparesSlots (onTree (·.addContext parent)) :=
    sparesSlots_onTree fun _ _ => Tree.sparesSlots_addContext
  exact .bind frame (.get frame) fun _ => .bind frame grown fun _ => .pure frame _

end Run

def Action.evaluates : Action → Bool
  | .evaluate .. => true
  | _ => false

namespace Session

variable {s : Session}

theorem sparesSlots_apply (a : Action) (quiet : a.evaluates = false) :
    s.tree.SparesSlots (s.apply a).tree := by
  have frame := Run.SparesSlots.frame
  have whole (f : Attempt Run Unit) (keeps : Keeps Run.SparesSlots f) :
      s.tree.SparesSlots (stateAfter f s.run).tree := keeps s.run
  have slots (c : ContextId) (f : Slot → Slot) (keeps : ∀ slot, (f slot).content = slot.content)
      (index : Option Nat) : s.tree.SparesSlots (s.onCache c (·.onSlots index f)).tree := by
    refine whole _ (Run.sparesSlots_onTree fun t t' made => ?_)
    obtain rfl := Except.ok.inj made
    exact Tree.sparesSlots_onSlots keeps index
  cases a with
  | evaluate => cases quiet
  | addSystem | declare | addDiagram | removeDiagram | setParent | setCell =>
      exact Tree.SparesSlots.frame.refl s.tree
  | warn id kind index =>
      simpa only [apply, tree, Evaluation.tree_reportPort] using Tree.SparesSlots.frame.refl s.tree
  | addContext parent => exact Run.sparesSlots_addContext parent s.run
  | setUp id c => exact Run.sparesSlots_setUp s.run
  | createContext id parent =>
      exact Keeps.bind frame (Run.sparesSlots_addContext parent)
        (fun _ => .bind frame Run.sparesSlots_setUp fun _ => .pure frame _) s.run
  | noteChange l =>
      exact Keeps.bind frame (Run.sparesSlots_spread fun _ _ made =>
        (Tree.stamped_spread made).sparesSlots) (fun _ => .pure frame _) s.run
  | fixInput c port v =>
      exact whole _ (.discard (Run.sparesSlots_spread fun _ _ => Tree.sparesSlots_fixInput))
  | clearInput c port =>
      refine Run.stateAfter_clearInput (P := fun r => s.tree.SparesSlots r.tree) (fun _ made => ?_) ?_
      · exact Tree.sparesSlots_clearInput made
      · exact Tree.SparesSlots.frame.refl s.tree
  | subscribe subscriber prerequisite =>
      exact whole _ (.discard (Run.sparesSlots_spread fun _ _ => Tree.sparesSlots_subscribe))
  | linkPorts kind subscriber prerequisite =>
      refine whole _ (.discard (Run.sparesSlots_spread fun _ _ made => ?_))
      obtain ⟨l, p, made⟩ := Tree.linkPorts_ok made
      exact Tree.sparesSlots_subscribe made
  | enable c index => exact slots c Slot.enable (fun _ => rfl) index
  | disable c index => exact slots c Slot.disable (fun _ => rfl) index
  | markOutOfDate c => exact slots c Slot.markOutOfDate (fun _ => rfl) none
  | enableBelow c =>
      exact whole _ (Run.sparesSlots_onTree fun _ _ => Tree.sparesSlots_enableCaching)
  | disableBelow c =>
      exact whole _ (Run.sparesSlots_onTree fun _ _ => Tree.sparesSlots_disableCaching)

end Session

end Dataflow
