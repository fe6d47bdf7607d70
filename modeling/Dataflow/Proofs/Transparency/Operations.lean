import Dataflow.Proofs.Freshness.Changes
import Dataflow.Proofs.Transparency.Evaluation

namespace Dataflow
open Reference

namespace Tree

variable {t t' : Tree} {c : ContextId} {s : System} {g : Graph} {id : SystemId} {i port : Nat}

/-- The slots of `c` hold the same values. Those still current belong to entries that no port leads to
whose fixed value is another. -/
structure Upholds (t t' : Tree) (c : ContextId) (s : System) (g : Graph) : Prop where
  parents : t'.parents = t.parents
  values : ∀ i, t'.value? c i = t.value? c i
  current : ∀ (i : Nat) (e : Entry), s.entries[i]? = some e → t'.Current c i →
    t.Current c i ∧ Agree s g e.ticket (t.fixed? c) (t'.fixed? c)

theorem upholds_of_fixed (parents : t'.parents = t.parents)
    (values : ∀ i, t'.value? c i = t.value? c i) (current : ∀ i, t'.Current c i → t.Current c i)
    (fixed : t'.fixed? c = t.fixed? c) : Upholds t t' c s g where
  parents := parents
  values := values
  current i _ _ still := ⟨current i still, fixed ▸ agree_refl⟩

theorem Upholds.refl : Upholds t t c s g :=
  upholds_of_fixed rfl (fun _ => rfl) (fun _ => id) rfl

theorem Upholds.trans {t'' : Tree} (first : Upholds t t' c s g) (later : Upholds t' t'' c s g) :
    Upholds t t'' c s g where
  parents := later.parents.trans first.parents
  values i := (later.values i).trans (first.values i)
  current i e declared still := by
    obtain ⟨current', agree'⟩ := later.current i e declared still
    obtain ⟨current, agree⟩ := first.current i e declared current'
    exact ⟨current, fun port p known leads =>
      (agree' port p known leads).trans (agree port p known leads)⟩

section Stamped

variable {touched : Location → Prop} (h : Stamped t t' touched)
include h

theorem Stamped.value? : t'.value? c i = t.value? c i := by
  simp only [Tree.value?]
  cases found : t.contexts[c]? with
  | none => rw [h.contexts_eq_none found]
  | some context =>
      obtain ⟨graph, found', -⟩ := h.contexts c context found
      rw [found']
      rfl

theorem Stamped.fixed? : t'.fixed? c = t.fixed? c := by
  funext port
  simp only [Tree.fixed?]
  cases found : t.contexts[c]? with
  | none => rw [h.contexts_eq_none found]
  | some context =>
      obtain ⟨graph, found', -⟩ := h.contexts c context found
      rw [found']
      rfl

theorem Stamped.upholds (wf : t.WellFormed) : Upholds t t' c s g :=
  upholds_of_fixed h.parents (fun _ => h.value?)
    (fun _ still => ((current_stamped wf h).mp still).1) h.fixed?

end Stamped

theorem upholds_spread {l : Location} {spread : Spread} (wf : t.WellFormed)
    (made : t.spread l = .ok spread) : Upholds t spread.tree c s g :=
  (stamped_spread made).upholds wf

theorem fixed?_setFixed_ne {v : Option Value} {other : Nat} (ne : port ≠ other) :
    (t.setFixed c port v).fixed? c other = t.fixed? c other := by
  simp only [fixed?, setFixed, contexts_modifyContext, if_true]
  cases t.contexts[c]? <;> simp [Context.fixed?, ne]

theorem upholds_setFixed {context : Context} {slot : InputSlot} {v : Option Value} {spread : Spread}
    (h : t.Hosts c id s g context) (foundSlot : context.inputs[port]? = some slot)
    (made : (t.setFixed c port v).spread ⟨c, slot.ticket⟩ = .ok spread) :
    Upholds t spread.tree c s g := by
  obtain ⟨noted, -⟩ := spread_ok made
  have wf : (t.setFixed c port v).WellFormed := h.wellFormed.setFixed v
  have stamped := stamped_of_noteChange wf noted
  refine ⟨stamped.parents.trans (parents_modifyContext fun _ _ => rfl), fun i => ?_,
    fun i e declared still => ?_⟩
  · exact stamped.value?.trans (value?_modifyContext fun _ => rfl)
  · obtain ⟨current, spared⟩ := (current_stamped wf stamped).mp still
    refine ⟨current_setFixed.mp current, ?_⟩
    intro other p known leads
    rw [stamped.fixed?]
    refine fixed?_setFixed_ne fun same => spared ?_
    subst same
    obtain ⟨entrySlot, foundEntry, ticket⟩ := h.belongs.slot declared
    have found : (t.setFixed c port v).contexts[c]? = _ := contexts_modifyContext_self h.found
    have origin : slot.ticket = p.ticket := h.belongs.port foundSlot known
    rw [← h.reaches, ← origin, ← ticket] at leads
    exact ⟨_, entrySlot, found, foundEntry, reaches_within found leads⟩

theorem upholds_fixInput {context : Context} {v : Value} {spread : Spread}
    (h : t.Hosts c id s g context) (made : t.fixInput c port v = .ok spread) :
    Upholds t spread.tree c s g := by
  obtain ⟨context', slot, found, foundSlot, -, changed⟩ := fixInput_ok made
  obtain rfl := Option.some.inj (h.found.symm.trans found)
  exact upholds_setFixed h foundSlot changed

theorem upholds_clearInput {context : Context} {spread : Spread} (h : t.Hosts c id s g context)
    (made : t.clearInput c port = .ok (some spread)) : Upholds t spread.tree c s g := by
  obtain ⟨context', slot, found, foundSlot, changed⟩ := clearInput_ok made
  obtain rfl := Option.some.inj (h.found.symm.trans found)
  exact upholds_setFixed h foundSlot changed

structure Subdued (f : Cache → Cache) : Prop where
  values : ∀ (context : Context) (i : Nat), (context.modifyCache f).value? i = context.value? i
  current : ∀ (context : Context) (i : Nat), (context.modifyCache f).Current i → context.Current i

theorem Subdued.onSlots {f : Slot → Slot} (ticket : ∀ s, (f s).ticket = s.ticket)
    (value : ∀ s, (f s).value = s.value) (computedAt : ∀ s, (f s).computedAt = s.computedAt)
    (index : Option Nat) : Subdued (·.onSlots index f) where
  values _ _ := Context.value?_onSlots value index
  current _ _ := (Context.current_onSlots ticket computedAt index).mp

theorem subdued_markOutOfDate : Subdued (·.markOutOfDate) where
  values _ _ := Context.value?_onSlots (f := Slot.markOutOfDate) (fun _ => rfl) none
  current _ _ still := absurd still Context.not_current_markOutOfDate

theorem Subdued.comp {f h : Cache → Cache} (later : Subdued f) (first : Subdued h) :
    Subdued fun cache => f (h cache) where
  values context i := (later.values (context.modifyCache h) i).trans (first.values context i)
  current context i still := first.current context i (later.current (context.modifyCache h) i still)

theorem subdued_enable (index : Option Nat) : Subdued (·.onSlots index Slot.enable) :=
  .onSlots (f := Slot.enable) (fun _ => rfl) (fun _ => rfl) (fun _ => rfl) index

theorem subdued_disable (index : Option Nat) : Subdued (·.onSlots index Slot.disable) :=
  .onSlots (f := Slot.disable) (fun _ => rfl) (fun _ => rfl) (fun _ => rfl) index

theorem Subdued.upholds {f : Cache → Cache} (h : Subdued f) :
    Upholds t (t.modifyContext id (·.modifyCache f)) c s g := by
  refine upholds_of_fixed (parents_modifyContext fun _ _ => rfl)
    (fun i => value?_modifyContext fun context => h.values context i) (fun i still => ?_) ?_
  · obtain ⟨context, found, still⟩ := still
    rw [contexts_modifyContext] at found
    split at found
    · obtain ⟨old, foundOld, rfl⟩ := Option.map_eq_some_iff.mp found
      exact ⟨old, foundOld, h.current old i still⟩
    · exact ⟨context, found, still⟩
  · funext port
    simp only [fixed?, contexts_modifyContext]
    split
    · cases t.contexts[c]? <;> rfl
    · rfl

theorem Subdued.upholds_foldl {f : Cache → Cache} (h : Subdued f) (ids : List ContextId) :
    Upholds t (ids.foldl (fun t c => t.modifyContext c (·.modifyCache f)) t) c s g := by
  have frame : Frame (Upholds · · c s g) := ⟨fun _ => .refl, .trans⟩
  exact frame.foldl (fun _ _ => h.upholds) ids t

theorem upholds_enableCaching (made : t.enableCaching id = .ok t') : Upholds t t' c s g := by
  obtain ⟨-, rfl⟩ := enableCaching_eq_ok_iff.mp made
  exact (subdued_markOutOfDate.comp (subdued_enable none)).upholds_foldl _

theorem upholds_disableCaching (made : t.disableCaching id = .ok t') : Upholds t t' c s g := by
  obtain ⟨-, rfl⟩ := disableCaching_eq_ok_iff.mp made
  exact (subdued_disable none).upholds_foldl _

end Tree

namespace Run

variable {r : Run} {c : ContextId} {s : System} {g : Graph}

theorem upholds_stateAfter_spread {f : Tree → Except Error Spread}
    (h : ∀ spread, f r.tree = .ok spread → r.tree.Upholds spread.tree c s g) :
    r.tree.Upholds (stateAfter (spread f) r).tree c s g := by
  apply stateAfter_spread (P := fun r' => r.tree.Upholds r'.tree c s g)
  · exact h
  · exact .refl

theorem upholds_stateAfter_clearInput {id : SystemId} {context : Context} {port : Nat}
    (h : r.tree.Hosts c id s g context) :
    r.tree.Upholds (stateAfter (clearInput c port) r).tree c s g := by
  apply stateAfter_clearInput (P := fun r' => r.tree.Upholds r'.tree c s g)
  · intro spread made
    exact Tree.upholds_clearInput h made
  · exact .refl

theorem upholds_stateAfter_onTree {f : Tree → Except Error Tree}
    (h : ∀ t, f r.tree = .ok t → r.tree.Upholds t c s g) :
    r.tree.Upholds (stateAfter (onTree f) r).tree c s g := by
  apply stateAfter_onTree (P := fun r' => r.tree.Upholds r'.tree c s g)
  · exact h
  · intro e _
    exact .refl

end Run

end Dataflow
