import Dataflow.Proofs.AllOrNothing
import Dataflow.Proofs.Origin
import Dataflow.Proofs.Transparency.Operations

namespace Dataflow

def InputSlot.Extends (slots slots' : List InputSlot) : Prop :=
  ∃ more, slots' = slots ++ more ∧ ∀ slot ∈ more, slot.fixed = none

theorem InputSlot.Extends.frame : Frame InputSlot.Extends where
  refl slots := ⟨[], (List.append_nil slots).symm, nofun⟩
  trans := by
    rintro slots _ _ ⟨more, rfl, free⟩ ⟨more', rfl, free'⟩
    exact ⟨more ++ more', List.append_assoc .., List.forall_mem_append.mpr ⟨free, free'⟩⟩

theorem InputSlot.Extends.fixed {slots slots' : List InputSlot} (h : Extends slots slots')
    (port : Nat) : slots'[port]?.bind (·.fixed) = slots[port]?.bind (·.fixed) := by
  obtain ⟨more, rfl, free⟩ := h
  rcases Nat.lt_or_ge port slots.length with old | new
  · rw [List.getElem?_append_left old]
  · rw [List.getElem?_append_right new, List.getElem?_eq_none new]
    cases added : more[port - slots.length]? with
    | none => rfl
    | some slot => exact free slot (List.mem_of_getElem? added)

namespace Context

def KeepsFixed (c c' : Context) : Prop := InputSlot.Extends c.inputs c'.inputs

theorem KeepsFixed.frame : Frame KeepsFixed := InputSlot.Extends.frame.on Context.inputs

theorem keepsFixed_of_same {c c' : Context} (same : c'.inputs = c.inputs) : c.KeepsFixed c' :=
  ⟨[], by simp [same], nofun⟩

theorem keepsFixed_onStore (f : Attempt Store Unit) : Keeps KeepsFixed (onStore f) := by
  intro c
  simp only [KeepsAt, stateAfter, onStore]
  cases f c.toStore <;> exact keepsFixed_of_same rfl

theorem keepsFixed_replay (d : System.Declaration) : Keeps KeepsFixed (replay d) := by
  have frame := KeepsFixed.frame
  have store := keepsFixed_onStore
  cases d with
  | source s =>
      exact .bind frame (store _) fun _ => .bind frame (store _) fun _ =>
        .modify fun _ => keepsFixed_of_same rfl
  | input index p =>
      exact .bind frame (store _) fun _ => .bind frame (store _) fun _ =>
        .modify fun _ => ⟨[_], rfl, List.forall_mem_singleton.mpr rfl⟩
  | entry index e => exact .bind frame (store _) fun _ => .modify fun _ => keepsFixed_of_same rfl
  | output index p =>
      refine .bind frame (store _) fun _ => .bind frame ?_ fun _ =>
        .modify fun _ => keepsFixed_of_same rfl
      unfold subscribeOutput
      split
      · exact store _
      · exact .pure frame _

theorem keepsFixed_setUp (id : SystemId) (s : System) (pathname : String) :
    Keeps KeepsFixed (setUp id s pathname) := by
  have frame := KeepsFixed.frame
  refine .bind frame (.get frame) fun c => ?_
  split
  · exact .throw frame _
  · exact .bind frame (.modify fun _ => keepsFixed_of_same rfl) fun _ =>
      .bind frame (.forM frame fun d _ => keepsFixed_replay d) fun _ =>
        .modify fun _ => keepsFixed_of_same rfl

end Context

namespace Tree

variable {t t' : Tree} {c id : ContextId} {port : Nat} {context : Context} {slot : InputSlot}
  {held : Option Value}

def inputSlots (t : Tree) (c : ContextId) : List InputSlot :=
  (t.contexts[c]?.map (·.inputs)).getD []

theorem inputSlots_of_found (found : t.contexts[c]? = some context) :
    t.inputSlots c = context.inputs := by
  simp [inputSlots, found]

theorem fixed?_eq : t.fixed? c port = (t.inputSlots c)[port]?.bind (·.fixed) := by
  simp only [fixed?, inputSlots]
  cases t.contexts[c]? <;> rfl

def KeepsFixed (t t' : Tree) : Prop := ∀ c, InputSlot.Extends (t.inputSlots c) (t'.inputSlots c)

theorem KeepsFixed.frame : Frame KeepsFixed where
  refl t c := InputSlot.Extends.frame.refl (t.inputSlots c)
  trans first later c := InputSlot.Extends.frame.trans (first c) (later c)

theorem keepsFixed_of_same (same : ∀ c, t'.inputSlots c = t.inputSlots c) : t.KeepsFixed t' :=
  fun c => ⟨[], by simp [same c], nofun⟩

theorem KeepsFixed.fixed? (h : t.KeepsFixed t') : t'.fixed? c port = t.fixed? c port := by
  rw [fixed?_eq, fixed?_eq]
  exact (h c).fixed port

theorem keepsFixed_modifyContext {f : Context → Context}
    (keeps : ∀ context, t.contexts[id]? = some context → context.KeepsFixed (f context)) :
    t.KeepsFixed (t.modifyContext id f) := by
  intro c
  simp only [inputSlots, contexts_modifyContext]
  split
  · rename_i same
    subst same
    cases found : t.contexts[id]? with
    | none => exact InputSlot.Extends.frame.refl []
    | some context => exact keeps context found
  · exact InputSlot.Extends.frame.refl _

theorem keepsFixed_onCache {f : Cache → Cache} :
    t.KeepsFixed (t.modifyContext id (·.modifyCache f)) :=
  keepsFixed_modifyContext fun _ _ => Context.keepsFixed_of_same rfl

theorem keepsFixed_foldl_onCache {f : Cache → Cache} (ids : List ContextId) :
    t.KeepsFixed (ids.foldl (fun t c => t.modifyContext c (·.modifyCache f)) t) :=
  KeepsFixed.frame.foldl (fun _ _ => keepsFixed_onCache) ids t

theorem Stamped.inputSlots {touched : Location → Prop} (h : Stamped t t' touched) :
    t'.inputSlots c = t.inputSlots c := by
  simp only [Tree.inputSlots]
  cases found : t.contexts[c]? with
  | none => rw [h.contexts_eq_none found]
  | some context =>
      obtain ⟨graph, found', -⟩ := h.contexts c context found
      rw [found']
      rfl

theorem inputSlots_of_outline (same : t'.outline = t.outline) :
    t'.inputSlots c = t.inputSlots c := by
  have forget (t : Tree) : t.outline.inputSlots c = t.inputSlots c := by
    simp only [inputSlots, outline, List.getElem?_map]
    cases t.contexts[c]? <;> rfl
  rw [← forget t', same, forget t]

theorem keepsFixed_spread {l : Location} {s : Spread} (made : t.spread l = .ok s) :
    t.KeepsFixed s.tree := keepsFixed_of_same fun _ => (stamped_spread made).inputSlots

theorem keepsFixed_subscribe {subscriber prerequisite : Location} {s : Spread}
    (made : t.subscribe subscriber prerequisite = .ok s) : t.KeepsFixed s.tree := by
  obtain ⟨-, -, spread⟩ := subscribe_ok made
  have kept := keepsFixed_spread spread
  exact kept

theorem keepsFixed_linkPorts {kind : LinkKind} {subscriber prerequisite : PortPlace} {s : Spread}
    (made : t.linkPorts kind subscriber prerequisite = .ok s) : t.KeepsFixed s.tree := by
  obtain ⟨l, p, made⟩ := linkPorts_ok made
  exact keepsFixed_subscribe made

theorem keepsFixed_addContext {parent : Option ContextId} (made : t.addContext parent = .ok t') :
    t.KeepsFixed t' := by
  obtain ⟨rfl, -⟩ := contexts_addContext made
  refine keepsFixed_of_same fun c => ?_
  simp only [inputSlots]
  rcases Nat.lt_trichotomy c t.contexts.length with old | rfl | beyond
  · rw [List.getElem?_append_left old]
  · simp [Context.fresh]
  · rw [List.getElem?_eq_none (Nat.le_of_lt beyond),
      List.getElem?_eq_none (by simpa using Nat.succ_le_of_lt beyond)]

theorem inputSlots_setFixed : (t.setFixed c port held).inputSlots id =
    if id = c then (t.inputSlots id).modify port ({ · with fixed := held }) else t.inputSlots id := by
  simp only [inputSlots, setFixed, contexts_modifyContext]
  by_cases same : id = c
  · subst same
    cases t.contexts[id]? <;> simp
  · simp [same, Ne.symm same]

theorem fixed?_setFixed (listed : (t.inputSlots c)[port]? = some slot) {place : PortPlace} :
    (t.setFixed c port held).fixed? place.context place.port =
      if place = ⟨c, port⟩ then held else t.fixed? place.context place.port := by
  obtain ⟨c', port'⟩ := place
  simp only [fixed?_eq, inputSlots_setFixed, PortPlace.mk.injEq]
  by_cases context : c' = c
  · subst context
    by_cases same : port = port'
    · subst same
      simp [listed]
    · simp [same, Ne.symm same]
  · simp [context]

theorem keepsFixed_setFixed (listed : (t.inputSlots c)[port]? = some slot) (same : slot.fixed = held) :
    (t.setFixed c port held).KeepsFixed t := by
  refine keepsFixed_of_same fun id => ?_
  rw [inputSlots_setFixed]
  split
  · rename_i here
    subst here
    refine (List.ext_getElem? fun i => ?_).symm
    by_cases own : port = i
    · subst own
      simp [listed, ← same]
    · simp [own]
  · rfl

theorem clearInput_idle (made : t.clearInput c port = .ok none) :
    ∃ slot, (t.inputSlots c)[port]? = some slot ∧ slot.fixed = none := by
  simp only [Tree.clearInput, bind, Except.bind] at made
  cases known : t.inputSlot "ClearFixedInputPort" c port with
  | error e => simp [known] at made
  | ok slot =>
      obtain ⟨context, found, listed⟩ := inputSlot_eq_ok_iff.mp known
      refine ⟨slot, by rw [inputSlots_of_found found, listed], ?_⟩
      simp only [known] at made
      split at made
      · rename_i free
        exact Option.isNone_iff_eq_none.mp free
      · cases spread : (t.setFixed c port none).spread ⟨c, slot.ticket⟩ <;>
          simp [spread, pure, Except.pure] at made

def WellTyped (t : Tree) : Prop :=
  ∀ c, ∀ slot ∈ t.inputSlots c, ∀ v, slot.fixed = some v → slot.type.mismatch v = none

theorem KeepsFixed.wellTyped (h : t.KeepsFixed t') (typed : t.WellTyped) : t'.WellTyped := by
  intro c slot listed v fixed
  obtain ⟨more, extended, free⟩ := h c
  rw [extended] at listed
  rcases List.mem_append.mp listed with old | new
  · exact typed c slot old v fixed
  · rw [free slot new] at fixed
    cases fixed

theorem WellTyped.setFixed (typed : t.WellTyped) (listed : (t.inputSlots c)[port]? = some slot)
    (fits : ∀ v, held = some v → slot.type.mismatch v = none) : (t.setFixed c port held).WellTyped := by
  intro id slot' listed' v fixed
  rw [inputSlots_setFixed] at listed'
  split at listed'
  · rename_i same
    subst same
    obtain ⟨i, found⟩ := List.mem_iff_getElem?.mp listed'
    rw [List.getElem?_modify] at found
    obtain ⟨old, foundOld, rfl⟩ := Option.map_eq_some_iff.mp found
    by_cases here : port = i
    · subst here
      obtain rfl := Option.some.inj (listed.symm.trans foundOld)
      rw [if_pos rfl] at fixed ⊢
      exact fits v fixed
    · rw [if_neg here] at fixed ⊢
      exact typed id old (List.mem_of_getElem? foundOld) v fixed
  · exact typed id slot' listed' v fixed

end Tree

namespace Run

variable {b : Blueprint} {id : SystemId} {c : ContextId} {port : Nat} {v : Value} {r : Run}

def KeepsFixed (r r' : Run) : Prop := r.tree.KeepsFixed r'.tree

theorem KeepsFixed.frame : Frame KeepsFixed := Tree.KeepsFixed.frame.on Run.tree

theorem keepsFixed_spread {f : Tree → Except Error Spread}
    (keeps : ∀ t s, f t = .ok s → t.KeepsFixed s.tree) : Keeps KeepsFixed (spread f) :=
  fun r => stateAfter_spread (keeps r.tree) (KeepsFixed.frame.refl r)

theorem keepsFixed_onTree {f : Tree → Except Error Tree}
    (keeps : ∀ t t', f t = .ok t' → t.KeepsFixed t') : Keeps KeepsFixed (onTree f) :=
  fun r => stateAfter_onTree (keeps r.tree) fun _ _ => KeepsFixed.frame.refl r

theorem keepsFixed_addContext (parent : Option ContextId) : Keeps KeepsFixed (addContext parent) := by
  have frame := KeepsFixed.frame
  exact .bind frame (.get frame) fun _ =>
    .bind frame (keepsFixed_onTree fun _ _ => Tree.keepsFixed_addContext) fun _ => .pure frame _

theorem keepsFixed_setUp : Keeps KeepsFixed (setUp b id c) := by
  intro r
  rw [KeepsAt, KeepsFixed, tree_setUp]
  cases found : r.tree.contexts[c]? with
  | none => exact KeepsFixed.frame.refl r
  | some before =>
      refine Tree.keepsFixed_modifyContext fun context same => ?_
      obtain rfl := Option.some.inj (found.symm.trans same)
      exact Context.keepsFixed_setUp id _ _ before

inductive Fixing (f : Attempt Run Unit) (c : ContextId) (port : Nat) (held : Option Value) (r : Run) :
    Prop
  | fixed (slot : InputSlot) (done : succeeds f r = true)
      (listed : (r.tree.inputSlots c)[port]? = some slot)
      (fits : ∀ v, held = some v → slot.type.mismatch v = none)
      (kept : (r.tree.setFixed c port held).KeepsFixed (stateAfter f r).tree)
  | refused (failed : succeeds f r = false) (same : stateAfter f r = r)

theorem fixing_fixInput : Fixing (fixInput c port v) c port (some v) r := by
  have outcome := @Operation.discard_spread (·.fixInput c port v) r
  cases made : r.tree.fixInput c port v with
  | error e =>
      rw [made] at outcome
      exact .refused (by simp [succeeds, fixInput, outcome]) (stateAfter_error outcome)
  | ok s =>
      rw [made] at outcome
      obtain ⟨context, slot, found, listed, fits, spread⟩ := Tree.fixInput_ok made
      rw [← Tree.inputSlots_of_found found] at listed
      refine .fixed slot (by simp [succeeds, fixInput, outcome]) listed ?_ ?_
      · rintro _ ⟨⟩
        exact fits
      · rw [fixInput, stateAfter_ok outcome]
        exact Tree.keepsFixed_spread spread

theorem fixing_clearInput : Fixing (clearInput c port) c port none r := by
  rcases made : r.tree.clearInput c port with e | _ | s
  · exact .refused (by simp [succeeds, clearInput, made]) (by simp [stateAfter, clearInput, made])
  · obtain ⟨slot, listed, free⟩ := Tree.clearInput_idle made
    refine .fixed slot (by simp [succeeds, clearInput, made]) listed (by rintro _ ⟨⟩) ?_
    simp only [stateAfter, clearInput, made]
    exact Tree.keepsFixed_setFixed listed free
  · obtain ⟨context, slot, found, listed, spread⟩ := Tree.clearInput_ok made
    rw [← Tree.inputSlots_of_found found] at listed
    refine .fixed slot (by simp [succeeds, clearInput, made]) listed (by rintro _ ⟨⟩) ?_
    simp only [stateAfter, clearInput, made]
    exact Tree.keepsFixed_spread spread

end Run

namespace Session

variable {s : Session} {a : Action} {place : PortPlace} {held : Option Value} {v : Value}

/-- What the action fixes, and on which input port, if it does so with success. -/
def fixes? (s : Session) : Action → Option (PortPlace × Option Value)
  | .fixInput c port v =>
      if succeeds (Run.fixInput c port v) s.run then some (⟨c, port⟩, some v) else none
  | .clearInput c port =>
      if succeeds (Run.clearInput c port) s.run then some (⟨c, port⟩, none) else none
  | _ => none

inductive Refits (s : Session) (a : Action) : Prop
  | kept (idle : s.fixes? a = none) (kept : s.tree.KeepsFixed (s.apply a).tree)
  | fixed (place : PortPlace) (held : Option Value) (slot : InputSlot)
      (fixes : s.fixes? a = some (place, held))
      (listed : (s.tree.inputSlots place.context)[place.port]? = some slot)
      (fits : ∀ v, held = some v → slot.type.mismatch v = none)
      (kept : (s.tree.setFixed place.context place.port held).KeepsFixed (s.apply a).tree)

theorem refits_of_fixing {f : Attempt Run Unit} (place : PortPlace)
    (h : Run.Fixing f place.context place.port held s.run)
    (applied : s.apply a = s.onRun f)
    (fixes : s.fixes? a = if succeeds f s.run then some (place, held) else none) : s.Refits a := by
  cases h with
  | refused failed same =>
      refine .kept (by simp [fixes, failed]) ?_
      rw [applied, onRun, same]
      exact Tree.KeepsFixed.frame.refl s.tree
  | fixed slot done listed fits kept =>
      exact .fixed place held slot (by simp [fixes, done]) listed fits (applied ▸ kept)

theorem refits_apply (a : Action) : s.Refits a := by
  have same (kept : (s.apply a).tree = s.tree) (idle : s.fixes? a = none) : s.Refits a :=
    .kept idle (kept ▸ Tree.KeepsFixed.frame.refl s.tree)
  have cached {c : ContextId} {f : Cache → Cache} (applied : s.apply a = s.onCache c f)
      (idle : s.fixes? a = none) : s.Refits a := by
    refine .kept idle (applied ▸ Run.keepsFixed_onTree (fun t t' made => ?_) s.run)
    exact Except.ok.inj made ▸ Tree.keepsFixed_onCache
  cases a with
  | addSystem | declare | addDiagram | removeDiagram | setParent | setCell => exact same rfl rfl
  | warn id kind index => exact same Evaluation.tree_reportPort rfl
  | addContext parent => exact .kept rfl (Run.keepsFixed_addContext parent s.run)
  | setUp id c => exact .kept rfl (Run.keepsFixed_setUp s.run)
  | createContext id parent =>
      have frame := Run.KeepsFixed.frame
      exact .kept rfl (Keeps.bind frame (Run.keepsFixed_addContext parent) (fun _ =>
        .bind frame Run.keepsFixed_setUp fun _ => .pure frame _) s.run)
  | noteChange l =>
      have frame := Run.KeepsFixed.frame
      exact .kept rfl (Keeps.bind frame (Run.keepsFixed_spread fun _ _ => Tree.keepsFixed_spread)
        (fun _ => .pure frame _) s.run)
  | fixInput c port v => exact refits_of_fixing ⟨c, port⟩ Run.fixing_fixInput rfl rfl
  | clearInput c port => exact refits_of_fixing ⟨c, port⟩ Run.fixing_clearInput rfl rfl
  | subscribe subscriber prerequisite =>
      exact .kept rfl (Keeps.discard (Run.keepsFixed_spread fun _ _ => Tree.keepsFixed_subscribe) s.run)
  | linkPorts kind subscriber prerequisite =>
      exact .kept rfl (Keeps.discard (Run.keepsFixed_spread fun _ _ => Tree.keepsFixed_linkPorts) s.run)
  | enable c index => exact cached rfl rfl
  | disable c index => exact cached rfl rfl
  | markOutOfDate c => exact cached rfl rfl
  | enableBelow c =>
      refine .kept rfl (Run.keepsFixed_onTree (fun t t' made => ?_) s.run)
      obtain ⟨-, rfl⟩ := Tree.enableCaching_eq_ok_iff.mp made
      exact Tree.keepsFixed_foldl_onCache _
  | disableBelow c =>
      refine .kept rfl (Run.keepsFixed_onTree (fun t t' made => ?_) s.run)
      obtain ⟨-, rfl⟩ := Tree.disableCaching_eq_ok_iff.mp made
      exact Tree.keepsFixed_foldl_onCache _
  | evaluate id c q =>
      have kept : Evaluation.Keeping s.run (stateAfter (evaluate s.blueprint id c q) s.run) :=
        Evaluation.keeps_evaluate (Evaluation.keeping s.blueprint) q s.run
      exact .kept rfl (Tree.keepsFixed_of_same fun _ => Tree.inputSlots_of_outline kept.1)

theorem Reachable.wellTyped (h : s.Reachable) : s.tree.WellTyped := by
  induction h with
  | start config cells notices => exact fun _ _ listed => (List.not_mem_nil listed).elim
  | @apply s a _ ih =>
      cases s.refits_apply a with
      | kept _ kept => exact kept.wellTyped ih
      | fixed place held slot _ listed fits kept => exact kept.wellTyped (ih.setFixed listed fits)

theorem fixed?_apply (place : PortPlace) (a : Action) :
    (s.apply a).tree.fixed? place.context place.port = some v ↔
      s.fixes? a = some (place, some v) ∨ (s.fixes? a).map Prod.fst ≠ some place ∧
        s.tree.fixed? place.context place.port = some v := by
  cases s.refits_apply a with
  | kept idle kept => simp [idle, kept.fixed?]
  | fixed place' held slot fixes listed _ kept =>
      rw [fixes, kept.fixed?, Tree.fixed?_setFixed listed]
      by_cases same : place = place'
      · simp [same]
      · simp [same, Ne.symm same]

end Session

end Dataflow
