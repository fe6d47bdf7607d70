import Dataflow.Proofs.Evaluation.Outline

namespace Dataflow

def Slot.skeleton (s : Slot) : Slot := { s.outline with disabled := false }

def InputSlot.skeleton (s : InputSlot) : InputSlot := { s with fixed := none }

def Context.skeleton (c : Context) : Context where
  graph := c.graph.unstamped
  cache := c.cache.map Slot.skeleton
  parent := c.parent
  cachingEnabled := c.cachingEnabled
  systemName := c.systemName
  system := c.system
  sources := c.sources
  inputs := c.inputs.map InputSlot.skeleton
  outputs := c.outputs
  isSetUp := c.isSetUp

namespace Context

variable {c c' c'' : Context}

def Filled (c : Context) : Prop := ∀ slot ∈ c.cache, slot.value.isSome

structure Rests (c c' : Context) : Prop where
  skeleton : c'.skeleton = c.skeleton
  filled : c.Filled → c'.Filled

theorem Rests.refl (c : Context) : c.Rests c := ⟨rfl, id⟩

theorem Rests.trans (first : c.Rests c') (later : c'.Rests c'') : c.Rests c'' :=
  ⟨later.skeleton.trans first.skeleton, later.filled ∘ first.filled⟩

theorem isSetUp_of_skeleton (same : c'.skeleton = c.skeleton) : c'.isSetUp = c.isSetUp := by
  have := congrArg Context.isSetUp same
  exact this

theorem skeleton_of_outline (same : c'.outline = c.outline) : c'.skeleton = c.skeleton := by
  have forget (c : Context) : c.skeleton = c.outline.skeleton := by
    simp [skeleton, outline, Function.comp_def, Slot.skeleton, Slot.outline]
  rw [forget c', same, ← forget c]

theorem skeleton_onSlots {f : Slot → Slot} (keeps : ∀ s, (f s).skeleton = s.skeleton)
    (index : Option Nat) : (c.modifyCache (·.onSlots index f)).skeleton = c.skeleton := by
  have cache : (c.cache.onSlots index f).map Slot.skeleton = c.cache.map Slot.skeleton := by
    cases index with
    | none => simp [Cache.onSlots, Function.comp_def, keeps]
    | some index => exact map_modify keeps _ _
  simp only [skeleton, modifyCache, cache]

theorem rests_onSlots {f : Slot → Slot} (skeleton : ∀ s, (f s).skeleton = s.skeleton)
    (value : ∀ s, (f s).value = s.value) (index : Option Nat) :
    c.Rests (c.modifyCache (·.onSlots index f)) where
  skeleton := skeleton_onSlots skeleton index
  filled full slot mem := by
    obtain ⟨old, oldMem, rfl | rfl⟩ := Cache.mem_onSlots mem
    · exact full slot oldMem
    · rw [value]
      exact full old oldMem

end Context

namespace Tree

variable {t t' : Tree} {id : ContextId} {c : Context}

/-- Contexts stay, and those that are set up keep their skeleton. -/
def Retains (t t' : Tree) : Prop :=
  ∀ (id : ContextId) (c : Context), t.contexts[id]? = some c →
    ∃ c', t'.contexts[id]? = some c' ∧ (c.isSetUp = true → c'.skeleton = c.skeleton)

theorem Retains.frame : Frame Retains where
  refl _ _ c found := ⟨c, found, fun _ => rfl⟩
  trans first later id c found := by
    obtain ⟨c', found', same'⟩ := first id c found
    obtain ⟨c'', found'', same''⟩ := later id c' found'
    refine ⟨c'', found'', fun ready => ?_⟩
    rw [same'' ((Context.isSetUp_of_skeleton (same' ready)).trans ready), same' ready]

theorem retains_modifyContext {f : Context → Context}
    (keeps : ∀ c, t.contexts[id]? = some c → c.isSetUp = true → (f c).skeleton = c.skeleton) :
    Retains t (t.modifyContext id f) := by
  intro other c found
  by_cases same : id = other
  · subst same
    exact ⟨f c, contexts_modifyContext_self found, keeps c found⟩
  · exact ⟨c, (contexts_modifyContext_ne same).trans found, fun _ => rfl⟩

structure Rests (t t' : Tree) : Prop where
  size : t'.size = t.size
  contexts : ∀ (id : ContextId) (c : Context), t.contexts[id]? = some c →
    ∃ c', t'.contexts[id]? = some c' ∧ c.Rests c'

theorem Rests.retains (h : Rests t t') : Retains t t' := by
  intro id c found
  obtain ⟨c', found', rests⟩ := h.contexts id c found
  exact ⟨c', found', fun _ => rests.skeleton⟩

theorem Rests.frame : Frame Rests where
  refl t := ⟨rfl, fun _ c found => ⟨c, found, .refl c⟩⟩
  trans first later := by
    refine ⟨later.size.trans first.size, fun id c found => ?_⟩
    obtain ⟨c', found', rests⟩ := first.contexts id c found
    obtain ⟨c'', found'', rests'⟩ := later.contexts id c' found'
    exact ⟨c'', found'', rests.trans rests'⟩

theorem Rests.origin (h : Rests t t') {c' : Context} (found' : t'.contexts[id]? = some c') :
    ∃ c, t.contexts[id]? = some c ∧ c.Rests c' := by
  have inside : id < t'.size := (List.getElem?_eq_some_iff.mp found').1
  rw [h.size] at inside
  have found := List.getElem?_eq_getElem inside
  obtain ⟨c'', found'', rests⟩ := h.contexts id _ found
  obtain rfl := Option.some.inj (found'.symm.trans found'')
  exact ⟨_, found, rests⟩

theorem rests_modifyContext {f : Context → Context}
    (keeps : ∀ c, t.contexts[id]? = some c → c.Rests (f c)) : Rests t (t.modifyContext id f) := by
  refine ⟨size_modifyContext t id f, fun other c found => ?_⟩
  by_cases same : id = other
  · subst same
    exact ⟨f c, contexts_modifyContext_self found, keeps c found⟩
  · exact ⟨c, (contexts_modifyContext_ne same).trans found, .refl c⟩

theorem rests_foldl {f : Context → Context} (keeps : ∀ c : Context, c.Rests (f c))
    (ids : List ContextId) : Rests t (ids.foldl (fun t c => t.modifyContext c f) t) :=
  Rests.frame.foldl (fun _ _ => rests_modifyContext fun c _ => keeps c) ids t

theorem Stamped.rests {touched : Location → Prop} (h : Stamped t t' touched) : Rests t t' := by
  refine ⟨h.size, fun id c found => ?_⟩
  obtain ⟨graph, found', stamped⟩ := h.contexts id c found
  exact ⟨_, found', by simp only [Context.skeleton, stamped.unstamped], fun filled => filled⟩

theorem rests_setFixed {port : Nat} {v : Option Value} : Rests t (t.setFixed id port v) := by
  apply rests_modifyContext
  intro c _
  have inputs : (c.inputs.modify port ({ · with fixed := v })).map InputSlot.skeleton =
      c.inputs.map InputSlot.skeleton := map_modify (fun _ => by rfl) _ _
  exact ⟨by simp only [Context.skeleton, inputs], fun filled => filled⟩

theorem rests_spread {l : Location} {s : Spread} (made : t.spread l = .ok s) : Rests t s.tree :=
  (stamped_spread made).rests

theorem rests_fixInput {port : Nat} {v : Value} {s : Spread}
    (made : t.fixInput id port v = .ok s) : Rests t s.tree := by
  obtain ⟨c, slot, -, -, -, spread⟩ := fixInput_ok made
  exact Rests.frame.trans rests_setFixed (rests_spread spread)

theorem rests_clearInput {port : Nat} {s : Spread} (made : t.clearInput id port = .ok (some s)) :
    Rests t s.tree := by
  obtain ⟨c, slot, -, -, spread⟩ := clearInput_ok made
  exact Rests.frame.trans rests_setFixed (rests_spread spread)

theorem rests_subscribe {subscriber prerequisite : Location} {s : Spread}
    (made : t.subscribe subscriber prerequisite = .ok s) : Rests t s.tree := by
  obtain ⟨-, -, spread⟩ := subscribe_ok made
  have linked : Rests t (t.linked subscriber prerequisite) :=
    ⟨rfl, fun id c found => ⟨c, found, .refl c⟩⟩
  exact Rests.frame.trans linked (rests_spread spread)

theorem rests_linkPorts {kind : LinkKind} {subscriber prerequisite : PortPlace} {s : Spread}
    (made : t.linkPorts kind subscriber prerequisite = .ok s) : Rests t s.tree := by
  obtain ⟨l, p, made⟩ := linkPorts_ok made
  exact rests_subscribe made

theorem rests_disableCaching (made : t.disableCaching id = .ok t') : Rests t t' := by
  obtain ⟨-, rfl⟩ := disableCaching_eq_ok_iff.mp made
  apply rests_foldl
  intro c
  exact Context.rests_onSlots (f := Slot.disable) (fun _ => rfl) (fun _ => rfl) none

theorem rests_enableCaching (made : t.enableCaching id = .ok t') : Rests t t' := by
  obtain ⟨-, rfl⟩ := enableCaching_eq_ok_iff.mp made
  apply rests_foldl
  intro c
  exact (Context.rests_onSlots (f := Slot.enable) (fun _ => rfl) (fun _ => rfl) none).trans
    (Context.rests_onSlots (f := Slot.markOutOfDate) (fun _ => rfl) (fun _ => rfl) none)

theorem retains_addContext {parent : Option ContextId} (made : t.addContext parent = .ok t') :
    Retains t t' := by
  obtain ⟨rfl, -⟩ := contexts_addContext made
  intro id c found
  have inside := (List.getElem?_eq_some_iff.mp found).1
  exact ⟨c, (List.getElem?_append_left inside).trans found, fun _ => rfl⟩

theorem retains_setUp {id : SystemId} {s : System} {pathname : String} {c : ContextId} :
    Keeps Retains (onContext c (Context.setUp id s pathname)) := by
  intro t
  simp only [KeepsAt, stateAfter, onContext]
  cases found : t.contexts[c]? with
  | none => exact Retains.frame.refl t
  | some context =>
      have refused (ready : context.isSetUp = true) :
          Context.setUp id s pathname context = .error (.alreadySetUp pathname) context := by
        simp [Context.setUp, bind_apply, get_apply, throw_apply, ready]
      have update (context' : Context) (h : context.isSetUp = true → context' = context) :
          Retains t (t.modifyContext c fun _ => context') := by
        apply retains_modifyContext
        intro old same ready
        obtain rfl := Option.some.inj (found.symm.trans same)
        rw [h ready]
      cases result : Context.setUp id s pathname context with
      | ok u context' =>
          simp only [result]
          exact update context' fun ready => by simp [refused ready] at result
      | error e context' =>
          simp only [result]
          apply update context'
          intro ready
          rw [refused ready] at result
          cases result
          rfl

end Tree

end Dataflow
