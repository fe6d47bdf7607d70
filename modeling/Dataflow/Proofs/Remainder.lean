import Dataflow.Proofs.Graph.Operations
import Dataflow.Proofs.Origin
import Dataflow.Proofs.Replay.Outcome

/-!
# What is left of an addition

Adding a cache entry writes to a graph and to a cache and undoes nothing when it fails. Whatever it was
called on: either nothing was written, or the graph has one new tracker that is subscribed to the
prerequisites below the first unknown one. Such a graph is as sound as any.
-/

namespace Dataflow

namespace Graph

variable {g g' : Graph} {t p : Ticket} {description : String} {index : Nat} {done : List Ticket}

def entered (g : Graph) (t : Ticket) (description : String) (index : Nat)
    (prerequisites : List Ticket) : Graph :=
  { g with
    trackers := (g.trackers.map fun k => { k with
        subscribers := if k.ticket ∈ prerequisites then k.subscribers ++ [t] else k.subscribers }) ++
      [{ ticket := t
         description
         prerequisites
         subscribers := if t ∈ prerequisites then [t] else []
         entry := some index }] }

theorem tickets_entered : (g.entered t description index done).tickets = g.tickets ++ [t] := by
  simp [tickets, entered]

theorem own_of_create (made : g.create t description = .ok g') :
    g'.own t index = g.entered t description index [] := by
  obtain ⟨untracked, -, rfl⟩ := create_eq_ok_iff.mp made
  have others : g.trackers.map (fun k => if k.ticket = t then { k with entry := some index } else k) =
      g.trackers := by
    refine (List.map_congr_left fun k mem => ?_).trans (List.map_id g.trackers)
    have other : k.ticket ≠ t := fun same => untracked (same ▸ ticket_mem mem)
    exact if_neg other
  simp [own, modify, entered, others]

theorem find?_entered (untracked : t ∉ g.tickets) :
    ∃ k, (g.entered t description index done).find? t = some k ∧ k.prerequisites = done := by
  have others : ∀ k ∈ g.trackers, k.ticket ≠ t := fun k mem same => untracked (same ▸ ticket_mem mem)
  have absent : (g.trackers.map fun k => { k with
      subscribers := if k.ticket ∈ done then k.subscribers ++ [t] else k.subscribers }).find?
        (·.ticket = t) = none := by
    refine List.find?_eq_none.mpr fun k mem => ?_
    obtain ⟨old, oldMem, rfl⟩ := List.mem_map.mp mem
    simpa using others old oldMem
  simp [find?, entered, List.find?_append, absent]

theorem link_entered (untracked : t ∉ g.tickets) (new : p ∉ done) :
    (g.entered t description index done).link t p = g.entered t description index (done ++ [p]) := by
  have latest : ((g.entered t description index done).link t p).latest = g.latest := rfl
  have others : ∀ k ∈ g.trackers, k.ticket ≠ t := fun k mem same => untracked (same ▸ ticket_mem mem)
  have trackers : ((g.entered t description index done).link t p).trackers =
      (g.entered t description index (done ++ [p])).trackers := by
    rw [trackers_link]
    simp only [entered, List.map_append, List.map_map, List.map_cons, List.map_nil]
    congr 1
    · refine List.map_congr_left fun k mem => ?_
      have other := others k mem
      by_cases here : k.ticket = p
      · subst here
        simp [other, new]
      · simp [other, here]
    · by_cases here : t = p
      · simp [here, new]
      · simp [here]
  cases result : (g.entered t description index done).link t p
  rw [result] at latest trackers
  simp only at latest trackers
  rw [latest, trackers]
  rfl

theorem subscribe_entered (untracked : t ∉ g.tickets) (new : p ∉ done)
    (known : p ∈ g.tickets ++ [t]) : (g.entered t description index done).subscribe t p =
      .ok (g.entered t description index (done ++ [p])) := by
  obtain ⟨k, found, prerequisites⟩ : ∃ k, (g.entered t description index done).find? t = some k ∧
      k.prerequisites = done := find?_entered untracked
  refine subscribe_eq_ok_iff.mpr ⟨tickets_entered ▸ known, k, found, ?_⟩
  rw [if_neg (prerequisites ▸ new), link_entered untracked new]

theorem subscribe_entered_error (unknown : p ∉ g.tickets ++ [t]) :
    (g.entered t description index done).subscribe t p = .error (.unknownTracker p) := by
  have tracked : t ∈ (g.entered t description index done).tickets := by simp [tickets_entered]
  exact (subscribe_eq_error_iff tracked).mpr ⟨tickets_entered ▸ unknown, rfl⟩

end Graph

namespace Store

variable {s : Store} {t p : Ticket} {description : String} {index : Nat}
  {done rest prerequisites : List Ticket}

/-- What comes of adding cache entry `index`, and what is left in the store. -/
inductive Addition (s : Store) (index : Nat) (t : Ticket) (description : String)
    (prerequisites : List Ticket) : EStateM.Result Error Store Unit → Prop
  | outOfOrder (other : index ≠ s.cache.length) :
      Addition s index t description prerequisites (.error (.entryOutOfOrder s.cache.length index) s)
  | duplicate (inOrder : index = s.cache.length) (tracked : t ∈ s.graph.tickets) :
      Addition s index t description prerequisites (.error (.duplicateTracker t description) s)
  /-- a panic, before anything is written -/
  | noRoom (inOrder : index = s.cache.length) (untracked : t ∉ s.graph.tickets)
      (beyond : Graph.room ≤ t) :
      Addition s index t description prerequisites (.error (.noRoom t) s)
  | unknown (p : Ticket) (inOrder : index = s.cache.length) (untracked : t ∉ s.graph.tickets)
      (fits : t < Graph.room) (mem : p ∈ prerequisites) (unknown : p ∉ s.graph.tickets ++ [t])
      (least : ∀ q ∈ prerequisites, q ∉ s.graph.tickets ++ [t] → p ≤ q) :
      Addition s index t description prerequisites (.error (.unknownTracker p)
        { s with graph := s.graph.entered t description index (prerequisites.filter (· < p)) })
  | added (inOrder : index = s.cache.length) (untracked : t ∉ s.graph.tickets)
      (fits : t < Graph.room) (known : ∀ q ∈ prerequisites, q ∈ s.graph.tickets ++ [t]) :
      Addition s index t description prerequisites (.ok ()
        { graph := s.graph.entered t description index prerequisites
          cache := s.cache ++ [{ index, ticket := t, description }] })

theorem forM_subscribe_entered (description : String) (index : Nat)
    (untracked : t ∉ s.graph.tickets) (nodup : (done ++ rest).Nodup) :
    (∀ q ∈ rest, q ∈ s.graph.tickets ++ [t]) ∧
      rest.forM (subscribe t) { s with graph := s.graph.entered t description index done } =
        .ok () { s with graph := s.graph.entered t description index (done ++ rest) } ∨
    ∃ before p after, rest = before ++ p :: after ∧ (∀ q ∈ before, q ∈ s.graph.tickets ++ [t]) ∧
      p ∉ s.graph.tickets ++ [t] ∧
      rest.forM (subscribe t) { s with graph := s.graph.entered t description index done } =
        .error (.unknownTracker p)
          { s with graph := s.graph.entered t description index (done ++ before) } := by
  -- the loop is at `rest`; what it has done already is in the graph
  induction rest generalizing done with
  | nil =>
      refine .inl ⟨fun q mem => (List.not_mem_nil mem).elim, ?_⟩
      rw [List.append_nil]
      rfl
  | cons p rest ih =>
      by_cases known : p ∈ s.graph.tickets ++ [t]
      · have new : p ∉ done := fun mem =>
          (List.nodup_append.mp nodup).2.2 p mem p List.mem_cons_self rfl
        have first : subscribe t p { s with graph := s.graph.entered t description index done } =
            .ok () { s with graph := s.graph.entered t description index (done ++ [p]) } :=
          onGraph_eq_ok_iff.mpr ⟨_, Graph.subscribe_entered untracked new known, rfl⟩
        have split : done ++ p :: rest = done ++ [p] ++ rest := by simp
        have later : (p :: rest).forM (subscribe t)
            { s with graph := s.graph.entered t description index done } = rest.forM (subscribe t)
              { s with graph := s.graph.entered t description index (done ++ [p]) } := by
          change (subscribe t p >>= fun _ => rest.forM (subscribe t)) _ = _
          rw [bind_apply, first]
        rw [later, split]
        rcases ih (split ▸ nodup) with ⟨all, ended⟩ | ⟨before, q, after, rfl, all, unknown, ended⟩
        · exact .inl ⟨List.forall_mem_cons.mpr ⟨known, all⟩, ended⟩
        · refine .inr ⟨p :: before, q, after, rfl, List.forall_mem_cons.mpr ⟨known, all⟩, unknown, ?_⟩
          rw [ended, List.append_assoc, List.singleton_append]
      · refine .inr ⟨[], p, rest, rfl, fun q mem => (List.not_mem_nil mem).elim, known, ?_⟩
        have refused : subscribe t p { s with graph := s.graph.entered t description index done } =
            .error (.unknownTracker p)
              { s with graph := s.graph.entered t description index done } :=
          onGraph_eq_error_iff.mpr ⟨Graph.subscribe_entered_error known, rfl⟩
        change (subscribe t p >>= fun _ => rest.forM (subscribe t)) _ = _
        rw [bind_apply, refused, List.append_nil]

theorem filter_lt_of_ascending {before after : List Ticket}
    (ascending : (before ++ p :: after).Pairwise (· < ·)) :
    (before ++ p :: after).filter (· < p) = before := by
  obtain ⟨-, behind, ahead⟩ := List.pairwise_append.mp ascending
  have below : before.filter (· < p) = before :=
    List.filter_eq_self.mpr fun q mem => by simpa using ahead q mem p List.mem_cons_self
  have above : (p :: after).filter (· < p) = [] := by
    refine List.filter_eq_nil_iff.mpr fun q mem => ?_
    rcases List.mem_cons.mp mem with rfl | mem
    · simp
    · simpa using ((List.pairwise_cons.mp behind).1 q mem).le
  rw [List.filter_append, below, above, List.append_nil]

theorem addition_addEntry (ascending : prerequisites.Pairwise (· < ·)) :
    s.Addition index t description prerequisites
      (addEntry index t description prerequisites s) := by
  by_cases inOrder : index = s.cache.length
  swap
  · have refused : addEntry index t description prerequisites s =
        .error (.entryOutOfOrder s.cache.length index) s := by
      simp [addEntry, bind_apply, get_apply, inOrder, throw_apply]
    rw [refused]
    exact .outOfOrder inOrder
  have called : addEntry index t description prerequisites s =
      (create t description >>= fun _ => furnish index t description prerequisites) s := by
    simp [addEntry, bind_apply, get_apply, inOrder]
  rw [called]
  cases made : s.graph.create t description with
  | error e =>
      have refused : create t description s = .error e s := onGraph_eq_error_iff.mpr ⟨made, rfl⟩
      rw [bind_apply, refused]
      rcases Graph.create_eq_error_iff.mp made with ⟨tracked, rfl⟩ | ⟨untracked, beyond, rfl⟩
      · exact .duplicate inOrder tracked
      · exact .noRoom inOrder untracked beyond
  | ok g' =>
      obtain ⟨untracked, fits, -⟩ := Graph.create_eq_ok_iff.mp made
      have created : create t description s = .ok () { s with graph := g' } :=
        onGraph_eq_ok_iff.mpr ⟨g', made, rfl⟩
      have furnished : furnish index t description prerequisites { s with graph := g' } =
          (prerequisites.forM (subscribe t) >>= fun _ => modify fun s =>
            { s with cache := s.cache ++ [{ index, ticket := t, description }] })
              { s with graph := s.graph.entered t description index [] } := by
        rw [← Graph.own_of_create made]
        rfl
      rw [bind_apply, created]
      dsimp only
      rw [furnished, bind_apply]
      have looped := forM_subscribe_entered description index untracked
        (List.nil_append prerequisites ▸ ascending.nodup)
      rcases looped with ⟨known, ended⟩ | ⟨before, p, after, rfl, known, unknown, ended⟩
      · rw [ended]
        exact .added inOrder untracked fits known
      · have least : ∀ q ∈ before ++ p :: after, q ∉ s.graph.tickets ++ [t] → p ≤ q := by
          intro q mem other
          rcases List.mem_append.mp mem with mem | mem
          · exact (other (known q mem)).elim
          · rcases List.mem_cons.mp mem with rfl | mem
            · exact Nat.le_refl _
            · have behind := (List.pairwise_append.mp ascending).2.1
              exact ((List.pairwise_cons.mp behind).1 q mem).le
        have left : s.Addition index t description (before ++ p :: after) _ :=
          .unknown p inOrder untracked fits (by simp) unknown least
        rw [filter_lt_of_ascending ascending] at left
        rw [ended, List.nil_append]
        exact left

def SoundAfter (s s' : Store) : Prop := s.graph.Sound → s'.graph.Sound

theorem SoundAfter.frame : Frame SoundAfter := ⟨fun _ sound => sound, fun first later => later ∘ first⟩

theorem sound_create : Keeps SoundAfter (create t description) :=
  keeps_onGraph SoundAfter.frame fun _ _ made sound => sound.attempt (o := .create t description) made

theorem sound_subscribe : Keeps SoundAfter (subscribe t p) :=
  keeps_onGraph SoundAfter.frame fun _ _ made sound => sound.attempt (o := .subscribe t p) made

theorem sound_addEntry : Keeps SoundAfter (addEntry index t description prerequisites) := by
  have frame := SoundAfter.frame
  refine .bind frame (.get frame) fun s => ?_
  split
  · exact .throw frame _
  · exact .bind frame sound_create fun _ =>
      .bind frame (.modify fun s sound => sound.attempt (o := .own t index) rfl) fun _ =>
        .bind frame (.forM frame fun _ _ => sound_subscribe) fun _ => .modify fun _ sound => sound

end Store

namespace Context

def SoundAfter (c c' : Context) : Prop := c.graph.Sound → c'.graph.Sound

theorem SoundAfter.frame : Frame SoundAfter := ⟨fun _ sound => sound, fun first later => later ∘ first⟩

theorem sound_onStore {f : Attempt Store Unit} (keeps : Keeps Store.SoundAfter f) :
    Keeps SoundAfter (onStore f) := by
  intro c
  have kept := keeps c.toStore
  simp only [KeepsAt, stateAfter, onStore] at kept ⊢
  cases result : f c.toStore <;> rw [result] at kept <;> exact kept

theorem sound_replay (d : System.Declaration) : Keeps SoundAfter (replay d) := by
  have frame := SoundAfter.frame
  have create (t : Ticket) (description : String) :
      Keeps SoundAfter (onStore (Store.create t description)) := sound_onStore Store.sound_create
  have subscribe (t p : Ticket) : Keeps SoundAfter (onStore (Store.subscribe t p)) :=
    sound_onStore Store.sound_subscribe
  cases d with
  | source s =>
      exact .bind frame (create _ _) fun _ => .bind frame (subscribe _ _) fun _ =>
        .modify fun _ sound => sound
  | input index p =>
      exact .bind frame (create _ _) fun _ => .bind frame (subscribe _ _) fun _ =>
        .modify fun _ sound => sound
  | entry index x =>
      exact .bind frame (sound_onStore Store.sound_addEntry) fun _ => .modify fun _ sound => sound
  | output index p =>
      refine .bind frame (create _ _) fun _ => .bind frame ?_ fun _ => .modify fun _ sound => sound
      unfold subscribeOutput
      split
      · exact subscribe _ _
      · exact .pure frame _

theorem sound_setUp (id : SystemId) (s : System) (pathname : String) :
    Keeps SoundAfter (setUp id s pathname) := by
  have frame := SoundAfter.frame
  refine .bind frame (.get frame) fun c => ?_
  split
  · exact .throw frame _
  · exact .bind frame (.modify fun _ sound => sound) fun _ =>
      .bind frame (.forM frame fun d _ => sound_replay d) fun _ => .modify fun _ sound => sound

end Context

namespace Tree

variable {t t' : Tree} {c : ContextId} {context : Context}

def Sound (t : Tree) : Prop :=
  ∀ (c : ContextId) (context : Context), t.contexts[c]? = some context → context.graph.Sound

theorem Sound.addContext {parent : Option ContextId} (h : t.Sound)
    (added : t.addContext parent = .ok t') : t'.Sound := by
  obtain ⟨rfl, -⟩ := contexts_addContext added
  intro c context found
  rcases List.mem_append.mp (List.mem_of_getElem? found) with old | new
  · obtain ⟨c', found'⟩ := List.mem_iff_getElem?.mp old
    exact h c' context found'
  · rw [List.mem_singleton.mp new]
    exact ⟨Graph.wellFormed_builtIn, _, Graph.linked_builtIn⟩

theorem Sound.modifyContext (h : t.Sound) (found : t.contexts[c]? = some context)
    {f : Context → Context} (sound : (f context).graph.Sound) : (t.modifyContext c f).Sound := by
  intro other context' found'
  by_cases here : c = other
  · subst here
    obtain rfl := Option.some.inj ((contexts_modifyContext_self found).symm.trans found')
    exact sound
  · rw [contexts_modifyContext_ne here] at found'
    exact h other context' found'

theorem Sound.rests (h : t.Sound) (wf : t'.WellFormed) (rests : t.Rests t') : t'.Sound := by
  intro c context found
  obtain ⟨before, found', rested⟩ := rests.origin found
  obtain ⟨-, edges, linked⟩ := h c before found'
  have same : context.graph.unstamped = before.graph.unstamped :=
    congrArg (fun c : Context => c.graph) rested.skeleton
  refine ⟨(wf.context found).graph, edges, Graph.linked_of_unstamped ?_⟩
  rw [same]
  exact linked.retrack (f := ({ · with serial := 0 })) (fun _ => rfl) (fun _ => rfl) (fun _ => rfl) rfl

end Tree

theorem Run.sound_setUp {r : Run} {b : Blueprint} {id : SystemId} {c : ContextId}
    (sound : r.tree.Sound) : (stateAfter (setUp b id c) r).tree.Sound := by
  rw [tree_setUp]
  split
  · exact sound
  · rename_i before found
    exact sound.modifyContext found (Context.sound_setUp id _ _ before (sound c before found))

namespace Session

variable {s : Session}

theorem sound_apply (wf : s.tree.WellFormed) (sound : s.tree.Sound) (a : Action) :
    (s.apply a).tree.Sound := by
  cases builds : a.builds with
  | false =>
      obtain ⟨wf', rests⟩ := rests_apply a builds wf
      exact sound.rests wf' rests
  | true =>
      cases a with
      | addContext parent =>
          simp only [apply, onRun, tree, stateAfter, Run.addContext_eq]
          cases added : s.run.tree.addContext parent with
          | error e => exact sound
          | ok t => exact sound.addContext added
      | setUp id c => exact Run.sound_setUp sound
      | createContext id parent =>
          cases added : s.run.tree.addContext parent with
          | error e =>
              have same : (s.apply (.createContext id parent)).tree = s.tree :=
                Run.tree_createContext_refused added
              exact same ▸ sound
          | ok t =>
              have grown : t.Sound := sound.addContext added
              change (stateAfter (Run.createContext s.blueprint id parent) s.run).tree.Sound
              rw [Run.tree_createContext added]
              exact Run.sound_setUp grown
      | _ => cases builds

theorem Reachable.sound (h : s.Reachable) : s.tree.Sound := by
  induction h with
  | start config cells notices => exact fun c context found => by cases found
  | apply a reachable ih => exact sound_apply reachable.wellFormed ih a

end Session

/-- Graphs that come about by operations on graphs, by adding cache entries to whatever cache, or as
those of the contexts of a session; any of these may have failed. -/
inductive Graph.Reachable : Graph → Prop
  | empty : Reachable {}
  | context {s : Session} {c : ContextId} {context : Context} (reachable : s.Reachable)
      (found : s.tree.contexts[c]? = some context) : Reachable context.graph
  | operation {g : Graph} (o : Operation) : Reachable g → Reachable (g.apply o)
  | addEntry {s : Store} (index : Nat) (t : Ticket) (description : String)
      (prerequisites : List Ticket) : Reachable s.graph →
        Reachable (stateAfter (Store.addEntry index t description (ascending prerequisites)) s).graph

theorem Graph.Reachable.sound {g : Graph} (h : g.Reachable) : g.Sound := by
  induction h with
  | empty => exact sound_empty
  | context reachable found => exact reachable.sound _ _ found
  | operation o _ ih => exact ih.apply o
  | addEntry index t description prerequisites _ ih => exact Store.sound_addEntry _ ih

namespace Store

/-- Adding a cache entry to a reachable graph, beside whatever cache: what comes of it and what is left
is known exactly, and the graph that is left is sound. -/
theorem addEntry_outcome {s : Store} (reachable : s.graph.Reachable) (index : Nat) (t : Ticket)
    (description : String) (prerequisites : List Ticket) :
    s.Addition index t description (ascending prerequisites)
      (addEntry index t description (ascending prerequisites) s) ∧
    (stateAfter (addEntry index t description (ascending prerequisites)) s).graph.Sound :=
  ⟨addition_addEntry (pairwise_ascending prerequisites), sound_addEntry s reachable.sound⟩

theorem addEntry_seventh_unknown :
    let g := Graph.perform {} [.create 4 "four", .create 8 "eight"]
    g.Reachable ∧
      addEntry 0 6 "six" (ascending [8, 4, 7, 6]) ⟨g, []⟩ =
        .error (.unknownTracker 7) ⟨g.entered 6 "six" 0 [4, 6], []⟩ ∧
      (g.entered 6 "six" 0 [4, 6]).Sound := by
  intro g
  have reachable : g.Reachable :=
    .operation (.create 8 "eight") (.operation (.create 4 "four") .empty)
  obtain ⟨-, sound⟩ := addEntry_outcome (s := ⟨g, []⟩) reachable 0 6 "six" [8, 4, 7, 6]
  have failed : addEntry 0 6 "six" (ascending [8, 4, 7, 6]) ⟨g, []⟩ =
      .error (.unknownTracker 7) ⟨g.entered 6 "six" 0 [4, 6], []⟩ := rfl
  rw [stateAfter_error failed] at sound
  exact ⟨reachable, failed, sound⟩

end Store

end Dataflow
