import Dataflow.Proofs.Graph.Downstream
import Dataflow.Proofs.Tree.WellFormed

namespace Dataflow.Tree
open Relation

variable {t t' : Tree} {id : ContextId} {c : Context} {l l' start : Location} {n n' : Nat}

inductive Feeds (t : Tree) : Location → Location → Prop
  | within {id : ContextId} {c : Context} {v u : Ticket} (found : t.contexts[id]? = some c)
      (subscribed : u ∈ c.graph.subscribersOf v) : Feeds t ⟨id, v⟩ ⟨id, u⟩
  | across {l l' : Location} (linked : ⟨l, l'⟩ ∈ t.links) : Feeds t l l'

def Reaches (t : Tree) : Location → Location → Prop := ReflTransGen t.Feeds

theorem mem_linkedTo_iff : l' ∈ t.linkedTo l ↔ ⟨l, l'⟩ ∈ t.links := by
  simp only [linkedTo, List.mem_map, List.mem_filter, decide_eq_true_eq]
  constructor
  · rintro ⟨k, ⟨mem, rfl⟩, rfl⟩
    exact mem
  · intro mem
    exact ⟨_, ⟨mem, rfl⟩, rfl⟩

theorem mem_touchedAt_iff (found : t.contexts[l.context]? = some c) :
    l' ∈ t.touchedAt l ↔ l'.context = l.context ∧ l'.ticket ∈ c.graph.downstream l.ticket := by
  simp only [touchedAt, found, List.mem_map]
  exact ⟨fun ⟨u, mem, same⟩ => same ▸ ⟨rfl, mem⟩, fun ⟨same, mem⟩ => ⟨_, mem, by simp [← same]⟩⟩

theorem self_mem_touchedAt (tracked : t.Tracks l) : l ∈ t.touchedAt l := by
  obtain ⟨c, found, mem⟩ := tracked
  exact (mem_touchedAt_iff found).mpr ⟨rfl, Graph.self_mem_downstream mem⟩

theorem reaches_within {v u : Ticket} (found : t.contexts[id]? = some c) (path : c.graph.Reaches v u) :
    t.Reaches ⟨id, v⟩ ⟨id, u⟩ :=
  path.lift (fun w => (⟨id, w⟩ : Location)) fun _ _ step => .within found step

theorem reaches_of_mem_touchedAt (wf : t.WellFormed) (tracked : t.Tracks l)
    (h : l' ∈ t.touchedAt l) : t.Reaches l l' := by
  obtain ⟨c, found, mem⟩ := tracked
  obtain ⟨same, down⟩ := (mem_touchedAt_iff found).mp h
  have path := (Graph.mem_downstream_iff (wf.context found).graph mem).mp down
  obtain ⟨id, u⟩ := l'
  obtain ⟨id', v⟩ := l
  cases same
  exact reaches_within found path

theorem touchedAt_closed (wf : t.WellFormed) (tracked : t.Tracks start)
    (touched : l ∈ t.touchedAt start) {u : Ticket} (found : t.contexts[l.context]? = some c)
    (subscribed : u ∈ c.graph.subscribersOf l.ticket) : ⟨l.context, u⟩ ∈ t.touchedAt start := by
  obtain ⟨c', found', mem⟩ := tracked
  obtain ⟨same, down⟩ := (mem_touchedAt_iff found').mp touched
  rw [same] at found
  obtain rfl := Option.some.inj (found.symm.trans found')
  have wfGraph := (wf.context found).graph
  have path := (Graph.mem_downstream_iff wfGraph mem).mp down
  exact (mem_touchedAt_iff found).mpr
    ⟨same, (Graph.mem_downstream_iff wfGraph mem).mpr (path.tail subscribed)⟩

theorem mem_leavingFrom_iff : l' ∈ t.leavingFrom l ↔ ∃ m ∈ t.touchedAt l, ⟨m, l'⟩ ∈ t.links := by
  simp [leavingFrom, mem_linkedTo_iff]

theorem mem_passes_iff : l' ∈ t.passes l ↔ ReflTransGen (Search.Leads t.leavingFrom) l l' := by
  refine Search.mem_depthFirst_iff List.mem_cons_self (fun a _ b leaves => ?_) l'
  obtain ⟨m, -, linked⟩ := mem_leavingFrom_iff.mp leaves
  exact List.mem_cons_of_mem _ (List.mem_map.mpr ⟨_, linked, rfl⟩)

theorem tracks_of_mem_passes (wf : t.WellFormed) (tracked : t.Tracks l) (h : l' ∈ t.passes l) :
    t.Tracks l' := by
  cases mem_passes_iff.mp h with
  | refl => exact tracked
  | tail _ leaves =>
      obtain ⟨m, -, linked⟩ := mem_leavingFrom_iff.mp leaves
      exact (wf.links _ linked).2

theorem reaches_iff_passes (wf : t.WellFormed) (tracked : t.Tracks l) :
    t.Reaches l l' ↔ ∃ p ∈ t.passes l, l' ∈ t.touchedAt p := by
  constructor
  · intro path
    -- a subscription stays within the pass that touched its prerequisite, a link starts another
    induction path with
    | refl => exact ⟨l, mem_passes_iff.mpr .refl, self_mem_touchedAt tracked⟩
    | tail _ step ih =>
        obtain ⟨p, pass, touched⟩ := ih
        cases step with
        | within found subscribed =>
            have known := tracks_of_mem_passes wf tracked pass
            exact ⟨p, pass, touchedAt_closed wf known touched found subscribed⟩
        | across linked =>
            have leaves := mem_leavingFrom_iff.mpr ⟨_, touched, linked⟩
            exact ⟨_, mem_passes_iff.mpr ((mem_passes_iff.mp pass).tail leaves),
              self_mem_touchedAt (wf.links _ linked).2⟩
  · rintro ⟨p, pass, touched⟩
    refine .trans ?_ (reaches_of_mem_touchedAt wf (tracks_of_mem_passes wf tracked pass) touched)
    have entries := mem_passes_iff.mp pass
    clear touched pass
    -- a pass is entered from a place that an earlier pass touched
    induction entries with
    | refl => exact .refl
    | tail before leaves ih =>
        obtain ⟨m, touched, linked⟩ := mem_leavingFrom_iff.mp leaves
        have known := tracks_of_mem_passes wf tracked (mem_passes_iff.mpr before)
        exact (ih.trans (reaches_of_mem_touchedAt wf known touched)).tail (.across linked)

/-- `t'` is `t` after some passes of a change, which together have touched `touched`. -/
structure Stamped (t t' : Tree) (touched : Location → Prop) : Prop where
  links : t'.links = t.links
  config : t'.config = t.config
  size : t'.size = t.size
  contexts : ∀ (id : ContextId) (c : Context), t.contexts[id]? = some c →
    ∃ graph : Graph, t'.contexts[id]? = some { c with graph } ∧
      c.graph.Stamped graph fun u => touched ⟨id, u⟩

theorem Stamped.rfl : Stamped t t fun _ => False where
  links := Eq.refl _
  config := Eq.refl _
  size := Eq.refl _
  contexts _ c found := ⟨c.graph, found, .rfl⟩

theorem Stamped.trans {t₁ t₂ t₃ : Tree} {first later : Location → Prop}
    (h₁ : Stamped t₁ t₂ first) (h₂ : Stamped t₂ t₃ later) :
    Stamped t₁ t₃ fun l => first l ∨ later l where
  links := h₂.links.trans h₁.links
  config := h₂.config.trans h₁.config
  size := h₂.size.trans h₁.size
  contexts := by
    intro id c found
    obtain ⟨g₂, found₂, stamped₂⟩ := h₁.contexts id c found
    obtain ⟨g₃, found₃, stamped₃⟩ := h₂.contexts id _ found₂
    exact ⟨g₃, found₃, stamped₂.trans stamped₃⟩

theorem Stamped.congr {first second : Location → Prop} (h : Stamped t t' first)
    (same : ∀ l, first l ↔ second l) : Stamped t t' second := by
  rwa [show second = first from funext fun l => propext (same l).symm]

theorem Stamped.contexts_eq_none {touched : Location → Prop} (h : Stamped t t' touched)
    (absent : t.contexts[id]? = none) : t'.contexts[id]? = none := by
  have size : t'.contexts.length = t.contexts.length := h.size
  rw [List.getElem?_eq_none_iff] at absent ⊢
  exact size ▸ absent

theorem Stamped.origin {touched : Location → Prop} (h : Stamped t t' touched) {c' : Context}
    (found : t'.contexts[id]? = some c') : ∃ (c : Context) (graph : Graph),
      t.contexts[id]? = some c ∧ c' = { c with graph } ∧
      c.graph.Stamped graph fun u => touched ⟨id, u⟩ := by
  cases found₁ : t.contexts[id]? with
  | none =>
      rw [h.contexts_eq_none found₁] at found
      cases found
  | some c =>
      obtain ⟨graph, found₂, stamped⟩ := h.contexts id c found₁
      exact ⟨c, graph, Eq.refl _, Option.some.inj (found.symm.trans found₂), stamped⟩

theorem Stamped.touchedAt {touched : Location → Prop} (h : Stamped t t' touched) :
    t'.touchedAt = t.touchedAt := by
  funext l
  cases found : t.contexts[l.context]? with
  | none => simp [Tree.touchedAt, found, h.contexts_eq_none found]
  | some c =>
      obtain ⟨graph, found', stamped⟩ := h.contexts _ c found
      simp [Tree.touchedAt, found, found', Graph.downstream_congr stamped.unstamped]

theorem Stamped.tracks {touched : Location → Prop} (h : Stamped t t' touched)
    (tracked : t.Tracks l) : t'.Tracks l := by
  obtain ⟨c, found, mem⟩ := tracked
  obtain ⟨graph, found', stamped⟩ := h.contexts _ c found
  exact ⟨_, found', stamped.tickets ▸ mem⟩

theorem pass_eq_ok_iff {state : Tree × Nat} :
    pass (t, n) l = .ok state ↔ ∃ c, t.contexts[l.context]? = some c ∧ l.ticket ∈ c.graph.tickets ∧
      state = (t.modifyContext l.context
        ({ · with graph := c.graph.stamp (c.graph.downstream l.ticket) }),
        n + (c.graph.downstream l.ticket).length) := by
  simp only [pass, bind, Except.bind]
  cases found : t.contexts[l.context]? with
  | none => simp [context, found]
  | some c =>
      have known : t.context l.context = .ok c := context_eq_ok_iff.mpr found
      rw [known]
      dsimp only
      cases noted : c.graph.noteChange l.ticket with
      | error e =>
          have untracked : l.ticket ∉ c.graph.tickets := fun mem => by
            rw [Graph.noteChange_eq_ok_iff.mpr ⟨mem, rfl⟩] at noted
            cases noted
          simp [untracked]
      | ok result =>
          obtain ⟨mem, rfl⟩ := Graph.noteChange_eq_ok_iff.mp noted
          simp [mem, pure, Except.pure, eq_comm]

theorem stamped_pass {state : Tree × Nat} (h : pass (t, n) l = .ok state) :
    Stamped t state.1 (· ∈ t.touchedAt l) := by
  obtain ⟨c, found, mem, rfl⟩ := pass_eq_ok_iff.mp h
  refine ⟨rfl, rfl, size_modifyContext _ _ _, ?_⟩
  intro id c' found'
  by_cases same : l.context = id
  · subst same
    obtain rfl := Option.some.inj (found.symm.trans found')
    refine ⟨_, contexts_modifyContext_self found, ?_⟩
    exact (Graph.stamped_noteChange mem).congr fun u => by simp [mem_touchedAt_iff found]
  · refine ⟨c'.graph, (contexts_modifyContext_ne same).trans found', ?_⟩
    exact Graph.Stamped.rfl.congr fun u => by simp [mem_touchedAt_iff found, Ne.symm same]

theorem stamped_passes {passes : List Location} {state : Tree × Nat}
    (h : passes.foldlM pass (t, n) = .ok state) :
    Stamped t state.1 fun l => ∃ p ∈ passes, l ∈ t.touchedAt p := by
  induction passes generalizing t n with
  | nil =>
      cases h
      exact Stamped.rfl.congr fun l => by simp
  | cons p rest ih =>
      rw [List.foldlM_cons] at h
      cases first : pass (t, n) p with
      | error e =>
          rw [first] at h
          cases h
      | ok state₁ =>
          rw [first] at h
          have stamped₁ := stamped_pass first
          have stamped₂ := ih (t := state₁.1) (n := state₁.2) h
          rw [stamped₁.touchedAt] at stamped₂
          exact (stamped₁.trans stamped₂).congr fun l => by simp

theorem passes_ok {passes : List Location} (tracked : ∀ p ∈ passes, t.Tracks p) :
    ∃ state, passes.foldlM pass (t, n) = .ok state := by
  induction passes generalizing t n with
  | nil => exact ⟨_, rfl⟩
  | cons p rest ih =>
      obtain ⟨c, found, mem⟩ := tracked p List.mem_cons_self
      have first := (pass_eq_ok_iff (n := n)).mpr ⟨c, found, mem, rfl⟩
      rw [List.foldlM_cons, first]
      exact ih fun q later => (stamped_pass first).tracks (tracked q (List.mem_cons_of_mem _ later))

theorem Stamped.tracks_iff {touched : Location → Prop} (h : Stamped t t' touched) :
    t'.Tracks l ↔ t.Tracks l := by
  refine ⟨fun ⟨c', found', mem⟩ => ?_, h.tracks⟩
  obtain ⟨c, graph, found, rfl, stamped⟩ := h.origin found'
  exact ⟨c, found, stamped.tickets ▸ mem⟩

theorem Stamped.reaches {touched : Location → Prop} (h : Stamped t t' touched) :
    t'.Reaches = t.Reaches := by
  have feeds {l l' : Location} : t'.Feeds l l' ↔ t.Feeds l l' := by
    constructor
    · intro step
      cases step with
      | within found' subscribed =>
          obtain ⟨c, graph, found, rfl, stamped⟩ := h.origin found'
          rw [Graph.subscribersOf_congr stamped.unstamped] at subscribed
          exact .within found subscribed
      | across linked => exact .across (h.links ▸ linked)
    · intro step
      cases step with
      | within found subscribed =>
          obtain ⟨graph, found', stamped⟩ := h.contexts _ _ found
          rw [← Graph.subscribersOf_congr stamped.unstamped] at subscribed
          exact .within found' subscribed
      | across linked => exact .across (h.links.symm ▸ linked)
  exact congrArg ReflTransGen (funext fun l => funext fun l' => propext feeds)

theorem tracks_of_passes {passes : List Location} {state : Tree × Nat}
    (h : passes.foldlM pass (t, n) = .ok state) : ∀ p ∈ passes, t.Tracks p := by
  induction passes generalizing t n with
  | nil => simp
  | cons p rest ih =>
      rw [List.foldlM_cons] at h
      cases first : pass (t, n) p with
      | error e =>
          rw [first] at h
          cases h
      | ok state₁ =>
          rw [first] at h
          obtain ⟨c, found, mem, -⟩ := pass_eq_ok_iff.mp first
          refine List.forall_mem_cons.mpr ⟨⟨c, found, mem⟩, fun q later => ?_⟩
          exact (stamped_pass first).tracks_iff.mp (ih (t := state₁.1) (n := state₁.2) h q later)

theorem stamped_noteChange (h : t.noteChange l = .ok (t', n)) :
    Stamped t t' fun l' => ∃ p ∈ t.passes l, l' ∈ t.touchedAt p := stamped_passes h

theorem stamped_of_noteChange (wf : t.WellFormed) (h : t.noteChange l = .ok (t', n)) :
    Stamped t t' (t.Reaches l) :=
  have tracked := tracks_of_passes h l (mem_passes_iff.mpr .refl)
  (stamped_noteChange h).congr fun _ => (reaches_iff_passes wf tracked).symm

theorem noteChange_ok (wf : t.WellFormed) (tracked : t.Tracks l) :
    ∃ t' n, t.noteChange l = .ok (t', n) ∧ Stamped t t' (t.Reaches l) := by
  obtain ⟨⟨t', n⟩, noted⟩ := passes_ok (n := 0) fun p pass => tracks_of_mem_passes wf tracked pass
  exact ⟨t', n, noted, stamped_of_noteChange wf noted⟩

end Dataflow.Tree
