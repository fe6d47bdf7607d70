import Dataflow.Proofs.Change
import Mathlib.Algebra.BigOperators.Group.Finset.Basic
import Mathlib.Algebra.Order.BigOperators.Group.Finset

/-!
# How often a change stamps a tracker

Each place that a change enters a context at is a pass of its own, and a tracker gets a new serial
in each pass that leads to it. What a change reports is therefore the number of stampings: it is the
number of trackers that the change reaches if no two of its entries lead to one tracker, and greater
otherwise.
-/

namespace Dataflow.Tree

variable {t t' : Tree} {start l p : Location} {n n' : Nat} {passes : List Location}

/-- How many of the passes, made one after the other, give the tracker at `l` another serial. -/
def stampings (l : Location) (t : Tree) : List Location → Nat
  | [] => 0
  | p :: rest =>
      match pass (t, 0) p with
      | .ok (t', _) => (if t'.tracker? l = t.tracker? l then 0 else 1) + stampings l t' rest
      | .error _ => 0

def locations (t : Tree) : List Location :=
  t.contexts.zipIdx.flatMap fun (c, id) => c.graph.tickets.map (⟨id, ·⟩)

/-- A change of the tracker at `start` enters a context at `p`: it begins there, or a link leads
there from a tracker that it reaches. -/
def Enters (t : Tree) (start p : Location) : Prop :=
  p = start ∨ ∃ m, t.Reaches start m ∧ ⟨m, p⟩ ∈ t.links

def ReachesWithin (t : Tree) (p l : Location) : Prop :=
  l.context = p.context ∧
    ∃ c, t.contexts[p.context]? = some c ∧ c.graph.Reaches p.ticket l.ticket

def EntersApart (t : Tree) (start : Location) : Prop :=
  ∀ p q l, t.Enters start p → t.Enters start q → t.ReachesWithin p l → t.ReachesWithin q l → p = q

theorem mem_locations_iff : l ∈ t.locations ↔ t.Tracks l := by
  simp only [locations, List.mem_flatMap, List.mem_map, Tracks]
  constructor
  · rintro ⟨⟨c, id⟩, entry, u, mem, rfl⟩
    exact ⟨c, List.mk_mem_zipIdx_iff_getElem?.mp entry, mem⟩
  · rintro ⟨c, found, mem⟩
    exact ⟨(c, l.context), List.mk_mem_zipIdx_iff_getElem?.mpr found, l.ticket, mem, rfl⟩

theorem tracks_iff_tracker? : t.Tracks l ↔ ∃ k, t.tracker? l = some k := by
  simp only [Tracks, Graph.mem_tickets_iff, tracker?_eq_some_iff]
  constructor
  · rintro ⟨c, found, k, tracked⟩
    exact ⟨k, c, found, tracked⟩
  · rintro ⟨k, c, found, tracked⟩
    exact ⟨c, found, k, tracked⟩

theorem tracks_of_reaches (wf : t.WellFormed) (tracked : t.Tracks start)
    (path : t.Reaches start l) : t.Tracks l := by
  cases path with
  | refl => exact tracked
  | tail _ step =>
      cases step with
      | within found subscribed =>
          exact ⟨_, found, Graph.subscribersOf_subset (wf.context found).graph _ subscribed⟩
      | across linked => exact (wf.links _ linked).2

theorem nodup_touchedAt : (t.touchedAt p).Nodup := by
  cases found : t.contexts[p.context]? with
  | none => simp [touchedAt, found]
  | some c =>
      simp only [touchedAt, found]
      refine List.Nodup.map ?_ (Search.nodup_visit _ _ _ _ _)
      intro u v same
      exact congrArg Location.ticket same

theorem mem_touchedAt_iff_reachesWithin (wf : t.WellFormed) (tracked : t.Tracks p) :
    l ∈ t.touchedAt p ↔ t.ReachesWithin p l := by
  obtain ⟨c, found, mem⟩ := tracked
  rw [mem_touchedAt_iff found, Graph.mem_downstream_iff (wf.context found).graph mem]
  simp [ReachesWithin, found]

theorem mem_passes_iff_enters (wf : t.WellFormed) (tracked : t.Tracks start) :
    p ∈ t.passes start ↔ t.Enters start p := by
  rw [mem_passes_iff]
  constructor
  · intro path
    cases path with
    | refl => exact .inl rfl
    | tail before leaves =>
        obtain ⟨m, touched, linked⟩ := mem_leavingFrom_iff.mp leaves
        have reached := (reaches_iff_passes wf tracked).mpr ⟨_, mem_passes_iff.mpr before, touched⟩
        exact .inr ⟨m, reached, linked⟩
  · rintro (rfl | ⟨m, reached, linked⟩)
    · exact .refl
    · obtain ⟨q, pass, touched⟩ := (reaches_iff_passes wf tracked).mp reached
      exact (mem_passes_iff.mp pass).tail (mem_leavingFrom_iff.mpr ⟨m, touched, linked⟩)

theorem length_touchedAt {state : Tree × Nat} (h : pass (t, n) p = .ok state) :
    state.2 = n + (t.touchedAt p).length := by
  obtain ⟨c, found, -, rfl⟩ := pass_eq_ok_iff.mp h
  simp [touchedAt, found]

theorem length_touched (h : passes.foldlM pass (t, n) = .ok (t', n')) :
    n' = n + (passes.flatMap t.touchedAt).length := by
  induction passes generalizing t n with
  | nil =>
      cases h
      simp
  | cons p rest ih =>
      rw [List.foldlM_cons] at h
      cases first : pass (t, n) p with
      | error e =>
          rw [first] at h
          cases h
      | ok state =>
          rw [first] at h
          have later := ih (t := state.1) (n := state.2) h
          rw [length_touchedAt first, (stamped_pass first).touchedAt] at later
          rw [later, List.flatMap_cons, List.length_append, Nat.add_assoc]

theorem stampings_eq_count (wf : t.WellFormed) (tracked : t.Tracks l)
    (known : ∀ p ∈ passes, t.Tracks p) :
    t.stampings l passes = (passes.flatMap t.touchedAt).count l := by
  induction passes generalizing t with
  | nil => rfl
  | cons p rest ih =>
      obtain ⟨c, found, mem⟩ := known p List.mem_cons_self
      have first := (pass_eq_ok_iff (n := 0)).mpr ⟨c, found, mem, rfl⟩
      have stamped := stamped_pass first
      have later := ih (wf.stamped stamped) (stamped.tracks tracked)
        fun q later => stamped.tracks (known q (List.mem_cons_of_mem _ later))
      obtain ⟨k, before⟩ := tracks_iff_tracker?.mp tracked
      obtain ⟨serial, after, new⟩ := stamped.tracker? wf before
      have kept : (some { k with serial } = some k) ↔ l ∉ t.touchedAt p := by
        rw [← new, not_not, Option.some_inj]
        exact ⟨fun same => congrArg Tracker.serial same, fun same => by rw [same]⟩
      have once : (t.touchedAt p).count l = if l ∈ t.touchedAt p then 1 else 0 :=
        nodup_touchedAt.count
      rw [List.flatMap_cons, List.count_append, once, ← stamped.touchedAt, ← later]
      simp only [stampings, first, before, after, kept, stamped.touchedAt, ite_not]

theorem nodup_flatMap_touchedAt_iff (wf : t.WellFormed) (tracked : t.Tracks start) :
    ((t.passes start).flatMap t.touchedAt).Nodup ↔ t.EntersApart start := by
  have leads {p l : Location} (entered : p ∈ t.passes start) :
      l ∈ t.touchedAt p ↔ t.ReachesWithin p l :=
    mem_touchedAt_iff_reachesWithin wf (tracks_of_mem_passes wf tracked entered)
  have once : (t.passes start).Nodup := Search.nodup_visit _ _ _ _ _
  rw [List.nodup_flatMap, and_iff_right fun p _ => nodup_touchedAt]
  simp only [EntersApart, ← mem_passes_iff_enters wf tracked]
  constructor
  · intro disjoint p q l enterP enterQ fromP fromQ
    by_contra ne
    have symmetric : Std.Symm (Function.onFun List.Disjoint t.touchedAt) :=
      ⟨fun _ _ apart => apart.symm⟩
    exact disjoint.forall enterP enterQ ne ((leads enterP).mpr fromP) ((leads enterQ).mpr fromQ)
  · intro apart
    refine once.pairwise_of_forall_ne fun p enterP q enterQ ne l fromP fromQ => ne ?_
    exact apart p q l enterP enterQ ((leads enterP).mp fromP) ((leads enterQ).mp fromQ)

/-- What a change of the tracker at `start` comes to: it stamps `trackers`, and it reports `n`. -/
structure Tallied (t : Tree) (start : Location) (trackers : Finset Location) (n : Nat) : Prop where
  reached : ∀ l, l ∈ trackers ↔ t.Reaches start l
  stamped : ∀ l ∈ trackers, 1 ≤ t.stampings l (t.passes start)
  total : n = ∑ l ∈ trackers, t.stampings l (t.passes start)
  card_le : trackers.card ≤ n ∧ trackers.card ≤ t.locations.length
  once_iff : (∀ l ∈ trackers, t.stampings l (t.passes start) = 1) ↔ t.EntersApart start
  distinct_iff : n = trackers.card ↔ t.EntersApart start

theorem tallied_of_noteChange (wf : t.WellFormed) (tracked : t.Tracks start)
    (noted : t.noteChange start = .ok (t', n)) :
    t.Tallied start ((t.passes start).flatMap t.touchedAt).toFinset n := by
  have known : ∀ p ∈ t.passes start, t.Tracks p := fun p => tracks_of_mem_passes wf tracked
  have nodup := nodup_flatMap_touchedAt_iff wf tracked
  have length : n = ((t.passes start).flatMap t.touchedAt).length := by
    simpa using length_touched noted
  have reached (l : Location) : l ∈ (t.passes start).flatMap t.touchedAt ↔ t.Reaches start l := by
    rw [List.mem_flatMap, reaches_iff_passes wf tracked]
  have tracks (l : Location) (mem : l ∈ (t.passes start).flatMap t.touchedAt) : t.Tracks l :=
    tracks_of_reaches wf tracked ((reached l).mp mem)
  have count (l : Location) (mem : l ∈ (t.passes start).flatMap t.touchedAt) :
      t.stampings l (t.passes start) = ((t.passes start).flatMap t.touchedAt).count l :=
    stampings_eq_count wf (tracks l mem) known
  refine ⟨?reached, ?stamped, ?total, ⟨?fewer, ?present⟩, ?once, ?distinct⟩
  case reached => simpa only [List.mem_toFinset] using reached
  case stamped =>
    intro l mem
    rw [List.mem_toFinset] at mem
    rw [count l mem]
    exact List.count_pos_iff.mpr mem
  case total =>
    rw [length, ← List.sum_toFinset_count_eq_length]
    exact (Finset.sum_congr rfl fun l mem => count l (List.mem_toFinset.mp mem)).symm
  case fewer =>
    rw [length]
    exact List.toFinset_card_le _
  case present =>
    calc ((t.passes start).flatMap t.touchedAt).toFinset.card
        ≤ t.locations.toFinset.card := Finset.card_le_card fun l mem =>
          List.mem_toFinset.mpr (mem_locations_iff.mpr (tracks l (List.mem_toFinset.mp mem)))
      _ ≤ t.locations.length := List.toFinset_card_le _
  case once =>
    rw [← nodup, List.nodup_iff_count_eq_one]
    simp only [List.mem_toFinset]
    exact forall₂_congr fun l mem => by rw [count l mem]
  case distinct =>
    rw [← nodup, length, eq_comm]
    have card_iff (l : List Location) : l.toFinset.card = l.length ↔ l.Nodup :=
      Multiset.toFinset_card_eq_card_iff_nodup (m := Multiset.ofList l)
    exact card_iff _

/-- In whatever tree, a change stamps each tracker that it reaches once for each of its entries that
leads to the tracker, and it reports the number of stampings. -/
theorem noteChange_tallied {s : Session} (reachable : s.Reachable) {start : Location}
    (tracked : s.tree.Tracks start) : ∃ t' n, s.tree.noteChange start = .ok (t', n) ∧
      ∃ trackers, s.tree.Tallied start trackers n := by
  have wf := reachable.wellFormed
  obtain ⟨t', n, noted, -⟩ := noteChange_ok wf tracked
  exact ⟨t', n, noted, _, tallied_of_noteChange wf tracked noted⟩

def fan : Session :=
  (Session.start {} [] {}).perform <| .addContext none ::
    [Ticket.time, .accuracy, .continuousState, .discreteState, .abstractState, .numericParameters,
      .abstractParameters, .allInputs].map fun source => .subscribe ⟨0, source⟩ ⟨0, .nothing⟩

theorem fan_tallied : fan.Reachable ∧ fan.tree.Tracks ⟨0, .nothing⟩ ∧
    ∃ t' n, fan.tree.noteChange ⟨0, .nothing⟩ = .ok (t', n) ∧
      ∃ trackers, fan.tree.Tallied ⟨0, .nothing⟩ trackers n :=
  have reachable := (Session.Reachable.start {} [] {}).perform _
  have tracked := requireTracker_eq_ok_iff.mp (by decide +kernel)
  ⟨reachable, tracked, noteChange_tallied reachable tracked⟩

theorem fan_overcounted : fan.Reachable ∧ fan.tree.Tracks ⟨0, .nothing⟩ ∧
    fan.tree.locations.length = 13 ∧
    (fan.tree.noteChange ⟨0, .nothing⟩).map Prod.snd = .ok 29 ∧
    fan.tree.stampings ⟨0, .allSources⟩ (fan.tree.passes ⟨0, .nothing⟩) = 8 :=
  ⟨(Session.Reachable.start {} [] {}).perform _, requireTracker_eq_ok_iff.mp (by decide +kernel),
    by decide +kernel, by decide +kernel, by decide +kernel⟩

end Dataflow.Tree
