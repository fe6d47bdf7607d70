import Dataflow.Proofs.Tree.Propagation

namespace Dataflow.Tree

variable {t t' : Tree} {id : ContextId} {c : Context} {l subscriber prerequisite : Location}
  {s : Spread} {port : Nat} {func : String}

theorem WellFormed.stamped {touched : Location → Prop} (h : t.WellFormed)
    (stamped : Stamped t t' touched) : t'.WellFormed where
  contexts := by
    intro c' mem
    obtain ⟨id, found'⟩ := List.mem_iff_getElem?.mp mem
    obtain ⟨c, graph, found, rfl, passes⟩ := stamped.origin found'
    have wf := h.context found
    exact wf.withGraph (passes.wellFormed wf.graph)
      (passes.tickets.symm ▸ List.Subset.refl _) passes.latest
  links k mem := by
    rw [stamped.links] at mem
    exact ⟨stamped.tracks (h.links k mem).1, stamped.tracks (h.links k mem).2⟩
  parents id p step := by
    refine h.parents id p ?_
    cases found' : t'.contexts[id]? with
    | none => simp [parent?, found'] at step
    | some c' =>
        obtain ⟨c, graph, found, rfl, -⟩ := stamped.origin found'
        simpa [parent?, found, found'] using step

theorem spread_ok (made : t.spread l = .ok s) :
    t.noteChange l = .ok (s.tree, s.touched) ∧ s.start = l := by
  simp only [Tree.spread, bind, Except.bind] at made
  cases noted : t.noteChange l with
  | error e => simp [noted] at made
  | ok result =>
      simp only [noted, pure, Except.pure, Except.ok.injEq] at made
      subst made
      exact ⟨rfl, rfl⟩

theorem stamped_spread (made : t.spread l = .ok s) :
    Stamped t s.tree fun l' => ∃ p ∈ t.passes l, l' ∈ t.touchedAt p :=
  stamped_noteChange (spread_ok made).1

theorem WellFormed.spread (h : t.WellFormed) (made : t.spread l = .ok s) : s.tree.WellFormed :=
  h.stamped (stamped_spread made)

theorem WellFormed.setFixed (h : t.WellFormed) (v : Option Value) :
    (t.setFixed id port v).WellFormed :=
  h.modifyContext fun _ _ => ⟨Store.Grows.frame.refl _, rfl⟩

def fixed? (t : Tree) (id : ContextId) (port : Nat) : Option Value :=
  t.contexts[id]?.bind (·.fixed? port)

theorem fixed?_of_found (found : t.contexts[id]? = some c) : t.fixed? id = c.fixed? := by
  funext port
  simp [fixed?, found]

theorem inputSlot_eq_ok_iff {slot : InputSlot} : t.inputSlot func id port = .ok slot ↔
    ∃ c, t.contexts[id]? = some c ∧ c.inputs[port]? = some slot := by
  simp only [inputSlot, bind, Except.bind]
  cases found : t.contexts[id]? with
  | none => simp [Tree.context, found]
  | some c =>
      rw [context_eq_ok_iff.mpr found]
      cases slotFound : c.inputs[port]? <;>
        simp [slotFound, pure, Except.pure, throw, throwThe, MonadExceptOf.throw]

theorem fixInput_ok {v : Value} (made : t.fixInput id port v = .ok s) : ∃ c slot,
    t.contexts[id]? = some c ∧ c.inputs[port]? = some slot ∧ slot.type.mismatch v = none ∧
      (t.setFixed id port (some v)).spread ⟨id, slot.ticket⟩ = .ok s := by
  simp only [Tree.fixInput, bind, Except.bind] at made
  cases known : t.inputSlot "FixInputPort" id port with
  | error e => simp [known] at made
  | ok slot =>
      obtain ⟨c, found, foundSlot⟩ := inputSlot_eq_ok_iff.mp known
      simp only [known] at made
      cases fits : slot.type.mismatch v with
      | some types => simp [fits, throw, throwThe, MonadExceptOf.throw] at made
      | none =>
          simp only [fits] at made
          exact ⟨c, slot, found, foundSlot, fits, made⟩

theorem clearInput_ok (made : t.clearInput id port = .ok (some s)) : ∃ c slot,
    t.contexts[id]? = some c ∧ c.inputs[port]? = some slot ∧
      (t.setFixed id port none).spread ⟨id, slot.ticket⟩ = .ok s := by
  simp only [Tree.clearInput, bind, Except.bind] at made
  cases known : t.inputSlot "ClearFixedInputPort" id port with
  | error e => simp [known] at made
  | ok slot =>
      obtain ⟨c, found, foundSlot⟩ := inputSlot_eq_ok_iff.mp known
      simp only [known] at made
      split at made
      · cases made
      · cases spread : (t.setFixed id port none).spread ⟨id, slot.ticket⟩ with
        | error e => simp [spread] at made
        | ok s' =>
            simp only [spread, pure, Except.pure, Except.ok.injEq, Option.some.injEq] at made
            exact ⟨c, slot, found, foundSlot, made ▸ spread⟩

theorem WellFormed.fixInput {v : Value} (h : t.WellFormed) (made : t.fixInput id port v = .ok s) :
    s.tree.WellFormed := by
  obtain ⟨c, slot, -, -, -, spread⟩ := fixInput_ok made
  exact (h.setFixed _).spread spread

theorem WellFormed.clearInput (h : t.WellFormed) (made : t.clearInput id port = .ok (some s)) :
    s.tree.WellFormed := by
  obtain ⟨c, slot, -, -, spread⟩ := clearInput_ok made
  exact (h.setFixed _).spread spread

theorem requireTracker_eq_ok_iff : t.requireTracker l = .ok () ↔ t.Tracks l := by
  simp only [requireTracker, Tracks, bind, Except.bind]
  cases found : t.contexts[l.context]? with
  | none => simp [Tree.context, found]
  | some c =>
      have := Graph.mem_tickets_iff (g := c.graph) (t := l.ticket)
      cases tracked : c.graph.find? l.ticket <;>
        simp_all [Tree.context, Graph.tracker, pure, Except.pure]

theorem WellFormed.withLink (h : t.WellFormed) (known : t.Tracks subscriber)
    (known' : t.Tracks prerequisite) :
    WellFormed { t with links := t.links ++ [⟨prerequisite, subscriber⟩] } where
  contexts := h.contexts
  links k mem := by
    rcases List.mem_append.mp mem with old | new
    · exact h.links k old
    · rw [List.mem_singleton.mp new]
      exact ⟨known', known⟩
  parents := h.parents

def linked (t : Tree) (subscriber prerequisite : Location) : Tree :=
  { t with links := if ⟨prerequisite, subscriber⟩ ∈ t.links then t.links
      else t.links ++ [⟨prerequisite, subscriber⟩] }

theorem subscribe_ok (made : t.subscribe subscriber prerequisite = .ok s) : t.Tracks subscriber ∧
    t.Tracks prerequisite ∧ (t.linked subscriber prerequisite).spread subscriber = .ok s := by
  simp only [Tree.subscribe, bind, Except.bind] at made
  cases first : t.requireTracker subscriber with
  | error e => simp [first] at made
  | ok _ =>
      cases second : t.requireTracker prerequisite with
      | error e => simp [first, second] at made
      | ok _ =>
          simp only [first, second] at made
          exact ⟨requireTracker_eq_ok_iff.mp first, requireTracker_eq_ok_iff.mp second, made⟩

theorem linkPorts_ok {kind : LinkKind} {subscriber prerequisite : PortPlace}
    (made : t.linkPorts kind subscriber prerequisite = .ok s) :
    ∃ l p, t.subscribe l p = .ok s := by
  cases kind
  all_goals
    simp only [Tree.linkPorts, bind, Except.bind] at made
    split at made
    · cases made
    · split at made
      · cases made
      · exact ⟨_, _, made⟩

theorem WellFormed.linked (h : t.WellFormed) (known : t.Tracks subscriber)
    (known' : t.Tracks prerequisite) : (t.linked subscriber prerequisite).WellFormed := by
  unfold Tree.linked
  split
  · exact h
  · exact h.withLink known known'

theorem WellFormed.subscribe (h : t.WellFormed)
    (made : t.subscribe subscriber prerequisite = .ok s) : s.tree.WellFormed := by
  obtain ⟨known, known', spread⟩ := subscribe_ok made
  exact (h.linked known known').spread spread

theorem WellFormed.linkPorts {kind : LinkKind} {subscriber prerequisite : PortPlace}
    (h : t.WellFormed) (made : t.linkPorts kind subscriber prerequisite = .ok s) :
    s.tree.WellFormed := by
  obtain ⟨l, p, made⟩ := linkPorts_ok made
  exact h.subscribe made

theorem WellFormed.modifyCache (h : t.WellFormed) {f : Slot → Slot} (undated : Slot.Undated f)
    (index : Option Nat) : (t.modifyContext id (·.modifyCache (·.onSlots index f))).WellFormed :=
  h.modifyContext fun _ _ => ⟨Store.grows_onSlots undated index, rfl⟩

theorem undated_disable : Slot.Undated Slot.disable := ⟨fun _ => rfl, fun _ => .inr ⟨rfl, id⟩⟩

theorem undated_enable : Slot.Undated Slot.enable := ⟨fun _ => rfl, fun _ => .inr ⟨rfl, id⟩⟩

theorem undated_markOutOfDate : Slot.Undated Slot.markOutOfDate := ⟨fun _ => rfl, fun _ => .inl rfl⟩

theorem disableCaching_eq_ok_iff : t.disableCaching id = .ok t' ↔ (∃ c, t.contexts[id]? = some c) ∧
    t' = (t.subtree id).foldl (fun t c => t.modifyContext c (·.modifyCache (·.disable))) t := by
  simp only [disableCaching, bind, Except.bind, ← context_eq_ok_iff]
  cases t.context id with
  | error e => simp
  | ok c => simp [pure, Except.pure, eq_comm]

theorem enableCaching_eq_ok_iff : t.enableCaching id = .ok t' ↔ (∃ c, t.contexts[id]? = some c) ∧
    t' = (t.subtree id).foldl
      (fun t c => t.modifyContext c (·.modifyCache fun cache => cache.enable.markOutOfDate)) t := by
  simp only [enableCaching, bind, Except.bind, ← context_eq_ok_iff]
  cases t.context id with
  | error e => simp
  | ok c => simp [pure, Except.pure, eq_comm]

theorem WellFormed.foldl_modifyContext (h : t.WellFormed) {f : Context → Context}
    (grows : ∀ c : Context, c.Grows (f c)) (ids : List ContextId) :
    (ids.foldl (fun t c => t.modifyContext c f) t).WellFormed := by
  have frame : Frame fun t t' : Tree => t.WellFormed → t'.WellFormed :=
    ⟨fun _ => id, fun first later => later ∘ first⟩
  exact frame.foldl (fun t id wf => wf.modifyContext fun c _ => grows c) ids t h

theorem WellFormed.disableCaching (h : t.WellFormed) (made : t.disableCaching id = .ok t') :
    t'.WellFormed := by
  obtain ⟨-, rfl⟩ := disableCaching_eq_ok_iff.mp made
  apply h.foldl_modifyContext
  intro c
  exact ⟨Store.grows_onSlots undated_disable none, rfl⟩

theorem WellFormed.enableCaching (h : t.WellFormed) (made : t.enableCaching id = .ok t') :
    t'.WellFormed := by
  obtain ⟨-, rfl⟩ := enableCaching_eq_ok_iff.mp made
  have enable (s : Store) := Store.grows_onSlots (s := s) undated_enable none
  have mark (s : Store) := Store.grows_onSlots (s := s) undated_markOutOfDate none
  apply h.foldl_modifyContext
  intro c
  exact ⟨Store.Grows.frame.trans (enable c.toStore) (mark _), rfl⟩

theorem contexts_addContext {parent : Option ContextId} (made : t.addContext parent = .ok t') :
    t' = { t with contexts := t.contexts ++ [.fresh parent t.config.cachingEnabled] } ∧
      ∀ p, parent = some p → p < t.size := by
  cases parent with
  | none => exact ⟨(Except.ok.inj made).symm, by simp⟩
  | some p =>
      simp only [addContext, bind, Except.bind] at made
      cases found : t.context p with
      | error e => simp [found] at made
      | ok c =>
          simp only [found] at made
          refine ⟨(Except.ok.inj made).symm, ?_⟩
          intro q same
          obtain rfl := Option.some.inj same
          exact (List.getElem?_eq_some_iff.mp (context_eq_ok_iff.mp found)).1

theorem unknown_of_addContext {parent : Option ContextId} {e : Error}
    (failed : t.addContext parent = .error e) : ∃ p, parent = some p ∧ t.contexts[p]? = none := by
  cases parent with
  | none => cases failed
  | some p =>
      refine ⟨p, rfl, ?_⟩
      cases found : t.contexts[p]? with
      | none => rfl
      | some c =>
          simp [addContext, context_eq_ok_iff.mpr found, bind, Except.bind, pure, Except.pure] at failed

theorem WellFormed.addContext {parent : Option ContextId} (h : t.WellFormed)
    (made : t.addContext parent = .ok t') : t'.WellFormed := by
  obtain ⟨rfl, bound⟩ := contexts_addContext made
  have keeps {l : Location} (tracked : t.Tracks l) : Tree.Tracks
      { t with contexts := t.contexts ++ [.fresh parent t.config.cachingEnabled] } l := by
    obtain ⟨c, found, mem⟩ := tracked
    have exists_ := (List.getElem?_eq_some_iff.mp found).1
    exact ⟨c, (List.getElem?_append_left exists_).trans found, mem⟩
  refine ⟨?_, ?_, ?_⟩
  · intro c mem
    rcases List.mem_append.mp mem with old | new
    · exact h.contexts c old
    · rw [List.mem_singleton.mp new]
      exact Context.wellFormed_fresh
  · intro k mem
    exact ⟨keeps (h.links k mem).1, keeps (h.links k mem).2⟩
  · intro id p step
    by_cases old : id < t.contexts.length
    · refine h.parents id p ?_
      simpa [parent?, List.getElem?_append_left old] using step
    · have new := Nat.le_of_not_lt old
      simp only [parent?, List.getElem?_append_right new, List.getElem?_singleton] at step
      split at step
      · exact Nat.lt_of_lt_of_le (bound p step) new
      · cases step

theorem wellFormed_onContext {α : Type} {f : Context.SetUp α} (grows : Keeps Context.Grows f) :
    Keeps (fun t t' => t.WellFormed → t'.WellFormed) (onContext id f) := by
  intro t h
  simp only [stateAfter, onContext]
  cases found : t.contexts[id]? with
  | none => exact h
  | some c =>
      have grown : c.Grows (stateAfter f c) := grows c
      have update (c' : Context) (g : c.Grows c') : (t.modifyContext id fun _ => c').WellFormed :=
        h.modifyContext fun old same => Option.some.inj (found.symm.trans same) ▸ g
      cases result : f c <;> simp only [stateAfter, result] at grown ⊢ <;> exact update _ grown

end Dataflow.Tree
