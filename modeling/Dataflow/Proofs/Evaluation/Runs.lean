import Dataflow.Proofs.Evaluation.Slots

namespace Dataflow

variable {p : Place} {first later events : List Event} {outcome : Outcome}

def Event.place? : Event → Option Place
  | .began c i | .ended c i _ => some (c, i)
  | _ => none

namespace Evaluation

def Idle (p : Place) (events : List Event) : Prop := ∀ event ∈ events, event.place? ≠ some p

/-- The last run of the producer of an entry ended so. -/
def LastRun (p : Place) (events : List Event) (outcome : Outcome) : Prop :=
  ∃ earlier later, events = earlier ++ .ended p.1 p.2 outcome :: later ∧
    .began p.1 p.2 ∈ earlier ∧ Idle p later

theorem idle_append : Idle p (first ++ later) ↔ Idle p first ∧ Idle p later :=
  List.forall_mem_append

theorem Idle.not_began (idle : Idle p events) : .began p.1 p.2 ∉ events := fun mem =>
  idle _ mem rfl

theorem LastRun.began (h : LastRun p events outcome) : .began p.1 p.2 ∈ events := by
  obtain ⟨earlier, rest, rfl, began, -⟩ := h
  exact List.mem_append_left _ began

theorem LastRun.after (h : LastRun p later outcome) : LastRun p (first ++ later) outcome := by
  obtain ⟨earlier, rest, rfl, began, idle⟩ := h
  exact ⟨first ++ earlier, rest, by simp, List.mem_append_right _ began, idle⟩

theorem LastRun.before (h : LastRun p first outcome) (idle : Idle p later) :
    LastRun p (first ++ later) outcome := by
  obtain ⟨earlier, rest, rfl, began, idle'⟩ := h
  exact ⟨earlier, rest ++ later, by simp, began, idle_append.mpr ⟨idle', idle⟩⟩

theorem LastRun.unique {outcome' : Outcome} (h : LastRun p events outcome)
    (h' : LastRun p events outcome') : outcome' = outcome := by
  obtain ⟨earlier, rest, split, -, idle⟩ := h
  obtain ⟨earlier', rest', split', -, idle'⟩ := h'
  rw [split] at split'
  rcases List.append_eq_append_iff.mp split' with ⟨_ | ⟨event, middle⟩, -, tail⟩ |
    ⟨_ | ⟨event, middle⟩, -, tail⟩
  · have same := (List.cons.inj tail).1
    injection same with _ _ same
    exact same.symm
  · obtain ⟨-, rfl⟩ := List.cons.inj tail
    exact absurd rfl (idle _ (List.mem_append_right _ List.mem_cons_self))
  · have same := (List.cons.inj tail).1
    injection same with _ _ same
  · obtain ⟨-, rfl⟩ := List.cons.inj tail
    exact absurd rfl (idle' _ (List.mem_append_right _ List.mem_cons_self))

variable {t : Tree} {c c' : ContextId} {i i' : Nat} {slot slot₁ slot₂ slot₃ : Slot}
  {current : Serial} {r r' r₁ r₂ r₃ : Run}

/-- What the producer runs among `events` make of the slot of an entry. The tracker of the entry
carries the serial `current` all the while. -/
inductive Leaves (p : Place) (events : List Event) (current : Serial) (slot slot' : Slot) : Prop
  | idle (idle : Idle p events) (value : slot'.value = slot.value)
      (computedAt : slot'.computedAt = slot.computedAt)
  | ran (stale : slot.fresh? current = none) (outcome : Outcome) (last : LastRun p events outcome)
      (computedAt : slot'.computedAt = if outcome = .value then some current else none)

theorem fresh?_of_same (value : slot₂.value = slot₁.value)
    (computedAt : slot₂.computedAt = slot₁.computedAt) (outline : slot₂.outline = slot₁.outline) :
    slot₂.fresh? current = slot₁.fresh? current := by
  have disabled : slot₂.disabled = slot₁.disabled := by
    have flags := congrArg Slot.disabled outline
    exact flags
  unfold Slot.fresh? Slot.isOutOfDate
  rw [value, computedAt, disabled]

theorem Leaves.trans (h₁ : Leaves p first current slot₁ slot₂)
    (h₂ : Leaves p later current slot₂ slot₃) (outline : slot₂.outline = slot₁.outline) :
    Leaves p (first ++ later) current slot₁ slot₃ := by
  cases h₁ with
  | idle idle₁ value₁ computedAt₁ =>
      cases h₂ with
      | idle idle₂ value₂ computedAt₂ =>
          exact .idle (idle_append.mpr ⟨idle₁, idle₂⟩) (value₂.trans value₁)
            (computedAt₂.trans computedAt₁)
      | ran stale outcome last computedAt =>
          rw [fresh?_of_same value₁ computedAt₁ outline] at stale
          exact .ran stale outcome last.after computedAt
  | ran stale outcome last computedAt =>
      cases h₂ with
      | idle idle₂ _ computedAt₂ =>
          exact .ran stale outcome (last.before idle₂) (computedAt₂.trans computedAt)
      | ran _ outcome' last' computedAt' => exact .ran stale outcome' last'.after computedAt'

theorem slotOf_modifySlot {f : Slot → Slot} (ticket : ∀ s, (f s).ticket = s.ticket)
    (found : slotOf t c' i' = .ok (slot, current)) : slotOf (t.modifySlot c i f) c' i' =
      .ok (if c = c' ∧ i = i' then f slot else slot, current) := by
  obtain ⟨context, k, foundContext, foundSlot, tracked, serial⟩ := slotOf_eq_ok_iff.mp found
  by_cases same : c = c'
  · subst same
    refine slotOf_eq_ok_iff.mpr ⟨_, k, Tree.contexts_modifyContext_self foundContext, ?_, ?_, serial⟩
    · by_cases index : i = i' <;> simp [Context.modifySlot, foundSlot, index]
    · by_cases index : i = i' <;> simp [Context.modifySlot, index, ticket, tracked]
  · simp only [same, false_and, if_false]
    exact slotOf_eq_ok_iff.mpr
      ⟨context, k, (Tree.contexts_modifyContext_ne same).trans foundContext, foundSlot, tracked, serial⟩

def Traced (r r' : Run) : Prop :=
  ∃ events, r'.log = r.log ++ events ∧ ∀ c i slot slot' current,
    slotOf r.tree c i = .ok (slot, current) → slotOf r'.tree c i = .ok (slot', current) →
      Leaves (c, i) events current slot slot'

theorem Traced.trans (first : Traced r₁ r₂) (later : Traced r₂ r₃)
    (outline : r₂.tree.outline = r₁.tree.outline) : Traced r₁ r₃ := by
  obtain ⟨events₁, log₁, leaves₁⟩ := first
  obtain ⟨events₂, log₂, leaves₂⟩ := later
  refine ⟨events₁ ++ events₂, by rw [log₂, log₁, List.append_assoc], ?_⟩
  intro c i slot₁ slot₃ current found₁ found₃
  obtain ⟨slot₂, found₂, same⟩ := slotOf_of_outline outline found₁
  exact (leaves₁ c i slot₁ slot₂ current found₁ found₂).trans
    (leaves₂ c i slot₂ slot₃ current found₂ found₃) same

theorem traced_of_tree (log : r'.log = r.log ++ events) (quiet : ∀ e ∈ events, e.place? = none)
    (same : r'.tree = r.tree) : Traced r r' := by
  refine ⟨events, log, ?_⟩
  intro c i slot slot' current found found'
  rw [same] at found'
  cases found.symm.trans found'
  exact .idle (fun e mem => by simp [quiet e mem]) rfl rfl

theorem traced_of_same (log : r'.log = r.log) (tree : r'.tree = r.tree) : Traced r r' :=
  traced_of_tree (log.trans (List.append_nil _).symm) (by simp) tree

theorem traced_modifySlot {f : Slot → Slot} (log : r'.log = r.log ++ events)
    (tree : r'.tree = r.tree.modifySlot c i f) (ticket : ∀ s, (f s).ticket = s.ticket)
    (elsewhere : ∀ c' i', ¬ (c = c' ∧ i = i') → Idle (c', i') events)
    (here : ∀ slot current, slotOf r.tree c i = .ok (slot, current) →
      Leaves (c, i) events current slot (f slot)) : Traced r r' := by
  refine ⟨events, log, ?_⟩
  intro c' i' slot slot' current found found'
  rw [tree, slotOf_modifySlot ticket found] at found'
  obtain ⟨rfl, -⟩ := Prod.mk.inj (Except.ok.inj found')
  by_cases own : c = c' ∧ i = i'
  · rw [if_pos own]
    obtain ⟨rfl, rfl⟩ := own
    exact here slot current found
  · rw [if_neg own]
    exact .idle (elsewhere c' i' own) rfl rfl

theorem traced_reportPort {b : Blueprint} {id : SystemId} {kind : PortKind} {index : Nat} :
    Traced r (r.reportPort b id kind index).2 := by
  unfold Run.reportPort
  dsimp only
  split
  · exact traced_of_same rfl rfl
  · split
    · exact traced_of_same rfl rfl
    · split
      · exact traced_of_tree rfl (by simp [Event.place?]) rfl
      · exact traced_of_same rfl rfl

theorem traced_usePort {b : Blueprint} {id : SystemId} {kind : PortKind} {index : Nat} :
    Traced r (r.usePort b id kind index) := by
  unfold Run.usePort
  split
  · exact traced_reportPort
  · exact traced_of_same rfl rfl

theorem traced_serve : Traced r (r.serve c i) := by
  have idle (p : Place) : Idle p [.served c i] := by simp [Idle, Event.place?]
  exact traced_modifySlot rfl rfl (fun _ => rfl) (fun _ _ _ => idle _)
    fun slot current _ => .idle (idle _) rfl rfl

theorem traced_refuse (wf : r.tree.WellFormed) (found : slotOf r.tree c i = .ok (slot, current))
    (running : slot.value = none) : Traced r (r.refuse c i) := by
  have idle (p : Place) : Idle p [.refused c i] := by simp [Idle, Event.place?]
  refine traced_modifySlot rfl rfl (fun _ => rfl) (fun _ _ _ => idle _) ?_
  intro slot' current' found'
  obtain ⟨rfl, -⟩ := Prod.mk.inj (Except.ok.inj (found.symm.trans found'))
  obtain ⟨context, -, foundContext, foundSlot, -⟩ := slotOf_eq_ok_iff.mp found
  have undated := (wf.context foundContext).running slot (List.mem_of_getElem? foundSlot) running
  exact .idle (idle _) rfl undated.symm

theorem idle_other (events : List Event) (own : ∀ e ∈ events, e.place? = some (c, i) ∨ e.place? = none)
    (c' : ContextId) (i' : Nat) (other : ¬ (c = c' ∧ i = i')) : Idle (c', i') events := by
  intro e mem same
  rcases own e mem with own | none
  · obtain ⟨rfl, rfl⟩ := Prod.mk.inj (Option.some.inj (own.symm.trans same))
    exact other ⟨rfl, rfl⟩
  · rw [none] at same
    cases same

/-- A slot is empty while its producer runs, so that what goes on in between is told by the other
slots, and of its own slot by the end. -/
theorem traced_produced {e : Entry} {out : Value} {outcome : Outcome}
    (keeping : Keeping (r.beginProducer c i) r') (found : slotOf r.tree c i = .ok (slot, current))
    (stale : slot.fresh? current = none) (inner : Traced (r.beginProducer c i) r') :
    Traced r (r'.endProducer c i e current out outcome) := by
  obtain ⟨events, log, leaves⟩ := inner
  obtain ⟨rest, log', quiet⟩ : ∃ rest, (r'.endProducer c i e current out outcome).log =
      r'.log ++ .ended c i outcome :: rest ∧ ∀ event ∈ rest, event.place? = none :=
    ⟨_, log_endProducer, by split <;> simp [Event.place?]⟩
  refine ⟨.began c i :: events ++ .ended c i outcome :: rest, ?_, ?_⟩
  · rw [log', log]
    simp [Run.beginProducer, Run.note, Run.modifySlot]
  intro c' i' slot₁ slot₄ current' found₁ found₄
  have found₂ := slotOf_modifySlot (c := c) (i := i) (f := Slot.emptied) (fun _ => rfl) found₁
  obtain ⟨slot₃, found₃, outline⟩ := slotOf_of_outline keeping.1 found₂
  rw [tree_endProducer, slotOf_modifySlot (fun _ => ticket_ending) found₃] at found₄
  obtain ⟨rfl, -⟩ := Prod.mk.inj (Except.ok.inj found₄)
  by_cases own : c = c' ∧ i = i'
  · obtain ⟨rfl, rfl⟩ := own
    obtain ⟨rfl, rfl⟩ := Prod.mk.inj (Except.ok.inj (found.symm.trans found₁))
    refine .ran stale outcome ⟨.began c i :: events, rest, rfl, List.mem_cons_self, ?_⟩ ?_
    · exact fun event mem => by simp [quiet event mem]
    · simp [Slot.ending, Slot.restored]
  · have begins : Idle (c', i') [.began c i] := idle_other _ (by simp [Event.place?]) c' i' own
    have ends : Idle (c', i') (.ended c i outcome :: rest) := by
      refine idle_other _ ?_ c' i' own
      exact List.forall_mem_cons.mpr ⟨.inl rfl, fun event mem => .inr (quiet event mem)⟩
    simp only [own, if_false] at found₂ outline ⊢
    have between := leaves c' i' slot₁ slot₃ current' found₂ found₃
    have upToEnd : Leaves (c', i') ([.began c i] ++ events) current' slot₁ slot₃ :=
      .trans (.idle begins rfl rfl) between rfl
    exact upToEnd.trans (.idle ends rfl rfl) outline

def Tracing (r r' : Run) : Prop := Keeping r r' ∧ (r.tree.WellFormed → Traced r r')

theorem Tracing.frame : Frame Tracing where
  refl r := ⟨Keeping.frame.refl r, fun _ => traced_of_same rfl rfl⟩
  trans first later := ⟨Keeping.frame.trans first.1 later.1,
    fun wf => (first.2 wf).trans (later.2 (first.1.2 wf)) first.1.1⟩

theorem tracing (b : Blueprint) : Respects b Tracing where
  frame := Tracing.frame
  cells _ _ := ⟨keeping_of_tree rfl, fun _ => traced_of_same rfl rfl⟩
  usePort r id kind index := ⟨(keeping b).usePort r id kind index, fun _ => traced_usePort⟩
  served r c i slot current v found fresh :=
    ⟨(keeping b).served r c i slot current v found fresh, fun _ => traced_serve⟩
  refused r c i slot current found running :=
    ⟨(keeping b).refused r c i slot current found running, fun wf => traced_refuse wf found running⟩
  produced r r' c i e slot current v out outcome found stale value inner := by
    have keep := (keeping b).produced r r' c i e slot current v out outcome found stale value inner.1
    have begun : Keeping r (r.beginProducer c i) := keeping_modifySlot (fun _ => rfl) undated_emptied
    exact ⟨keep, fun wf => traced_produced inner.1 found stale (inner.2 (begun.2 wf))⟩

end Evaluation

end Dataflow
