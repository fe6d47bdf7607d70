import Dataflow.Proofs.Attempt
import Dataflow.Proofs.Graph.Notification

/-!
# Trackers in an arena

A graph can be kept in an arena: there is a place for each ticket up to the largest one that was ever in
use, the tickets in use are listed apart, and the two ends of a subscription are written one after the
other. Whatever operations are made, also some that fail, an arena stays in good order and holds what the
graph holds.
-/

namespace Dataflow

structure Arena where
  /-- the tracker of each ticket, if there is one -/
  places : List (Option Tracker) := []
  /-- in the order in which the trackers were created -/
  order : List Ticket := []
  latest : Serial := 0

namespace Arena

variable {a a' : Arena} {g g' : Graph} {t u subscriber prerequisite : Ticket} {k : Tracker}
  {serial : Serial} {f : Tracker → Tracker} {description : String}

def tracker? (a : Arena) (t : Ticket) : Option Tracker := a.places[t]?.join

def put (a : Arena) (t : Ticket) (k : Tracker) : Arena := { a with places := a.places.set t (some k) }

/-- How many places there are up to that of `t`, with a check for overflow or in 64 bits. -/
def placesFor (checked : Bool) (t : Ticket) : Nat :=
  if checked then t + 1 else (t + 1) % UInt64.size

def resize (t : Ticket) (size : Nat) : Attempt Arena Unit := fun a =>
  if size ≤ Graph.room then
    .ok () { a with places := (a.places ++ List.replicate (size - a.places.length) none).take size }
  else .error (.noRoom t) a

def reserve (checked : Bool) (t : Ticket) : Attempt Arena Unit := fun a =>
  if a.places.length ≤ t then resize t (placesFor checked t) a else .ok () a

def store (t : Ticket) (k : Tracker) : Attempt Arena Unit := fun a =>
  if t < a.places.length then .ok () (a.put t k) else .error (.noRoom t) a

def install (checked : Bool) (k : Tracker) : Attempt Arena Unit := do
  reserve checked k.ticket
  modify fun a => { a with order := a.order ++ [k.ticket] }
  store k.ticket k

def create (checked : Bool) (t : Ticket) (description : String) : Attempt Arena Unit := fun a =>
  match a.tracker? t with
  | some _ => .error (.duplicateTracker t description) a
  | none => install checked { ticket := t, description } a

def own (t : Ticket) (entry : Nat) : Attempt Arena Unit := fun a =>
  match a.tracker? t with
  | some k => .ok () (a.put t { k with entry })
  | none => .ok () a

def lookUp (t : Ticket) : Attempt Arena Tracker := fun a =>
  match a.tracker? t with
  | some k => .ok k a
  | none => .error (.unknownTracker t) a

def update (t : Ticket) (f : Tracker → Tracker) : Attempt Arena Unit := do
  let k ← lookUp t
  modify (·.put t (f k))

def subscribe (subscriber prerequisite : Ticket) : Attempt Arena Unit := do
  let _ ← lookUp prerequisite
  let k ← lookUp subscriber
  if prerequisite ∈ k.prerequisites then pure ()
  else
    update subscriber fun k => { k with prerequisites := k.prerequisites ++ [prerequisite] }
    update prerequisite fun k => { k with subscribers := k.subscribers ++ [subscriber] }

def without (a : Arena) (serial : Serial) : Nat := a.places.countP (·.any (·.serial ≠ serial))

theorem getElem?_of_tracker? (found : a.tracker? t = some k) : a.places[t]? = some (some k) :=
  Option.join_eq_some_iff.mp found

theorem without_put_lt (found : a.tracker? t = some k) (old : k.serial ≠ serial) :
    (a.put t { k with serial }).without serial < a.without serial := by
  obtain ⟨inside, place⟩ := List.getElem?_eq_some_iff.mp (getElem?_of_tracker? found)
  have counted : 0 < a.without serial :=
    List.countP_pos_iff.mpr ⟨some k, place ▸ List.getElem_mem inside, by simpa using old⟩
  have less : (a.put t { k with serial }).without serial = a.without serial - 1 := by
    simp [without, put, List.countP_set inside, place, old]
  rw [less]
  exact Nat.sub_one_lt_of_lt counted

def stampFrom (serial : Serial) (a : Arena) (touched : List Ticket) :
    List Ticket → EStateM.Result Error Arena (List Ticket)
  | [] => .ok touched a
  | t :: rest =>
      match _found : a.tracker? t with
      | none => .error (.unknownTracker t) a
      | some k =>
          if _old : k.serial = serial then stampFrom serial a touched rest
          else stampFrom serial (a.put t { k with serial }) (touched ++ [t]) (rest ++ k.subscribers)
termination_by pending => (a.without serial, pending.length)
decreasing_by
  · exact Prod.Lex.right _ (Nat.lt_succ_self _)
  · exact Prod.Lex.left _ _ (without_put_lt _found _old)

def noteChange (t : Ticket) : Attempt Arena (List Ticket) := fun a =>
  match a.tracker? t with
  | none => .error (.unknownTracker t) a
  | some _ => stampFrom (a.latest + 1) { a with latest := a.latest + 1 } [] [t]

def act (checked : Bool) : Graph.Operation → Attempt Arena Unit
  | .create t description => create checked t description
  | .own t entry => own t entry
  | .subscribe subscriber prerequisite => subscribe subscriber prerequisite
  | .noteChange t => discard (noteChange t)

/-- Goes on after an operation that fails, with what that has left. -/
def perform (checked : Bool) (a : Arena) (operations : List Graph.Operation) : Arena :=
  operations.foldl (fun a o => stateAfter (act checked o) a) a

structure Holds (a : Arena) (g : Graph) : Prop where
  latest : a.latest = g.latest
  order : a.order = g.tickets
  trackers : ∀ t, a.tracker? t = g.find? t
  room : a.places.length ≤ Graph.room

theorem tracker?_put (inside : t < a.places.length) :
    (a.put t k).tracker? u = if u = t then some k else a.tracker? u := by
  by_cases here : u = t
  · subst here
    simp [tracker?, put, inside]
  · simp [tracker?, put, here, Ne.symm here]

theorem tracker?_replicate {n : Nat} : tracker? { a with
    places := a.places ++ List.replicate n none } u = a.tracker? u := by
  simp only [tracker?, List.getElem?_append, List.getElem?_replicate]
  split
  · rfl
  · rename_i beyond
    rw [List.getElem?_eq_none (Nat.le_of_not_lt beyond)]
    split <;> rfl

structure Roomier (t : Ticket) (a a' : Arena) : Prop where
  order : a'.order = a.order
  latest : a'.latest = a.latest
  trackers : ∀ u, a'.tracker? u = a.tracker? u
  inside : t < a'.places.length
  room : a.places.length ≤ Graph.room → a'.places.length ≤ Graph.room

theorem reserve_ok (fits : t < a.places.length ∨ t < Graph.room) :
    ∃ a', reserve true t a = .ok () a' ∧ a.Roomier t a' := by
  by_cases short : a.places.length ≤ t
  · have fits : t + 1 ≤ Graph.room := fits.resolve_left (Nat.not_lt.mpr short)
    have size : (a.places ++ List.replicate (t + 1 - a.places.length) none).length = t + 1 := by
      rw [List.length_append, List.length_replicate, Nat.add_sub_cancel' (Nat.le_succ_of_le short)]
    refine ⟨{ a with places := a.places ++ List.replicate (t + 1 - a.places.length) none }, ?_, rfl,
      rfl, fun u => tracker?_replicate, Nat.lt_of_succ_le size.ge, fun _ => size.le.trans fits⟩
    simp only [reserve, resize, placesFor, if_pos short, if_true, if_pos fits,
      List.take_of_length_le size.le]
  · exact ⟨a, if_neg short, rfl, rfl, fun _ => rfl, Nat.lt_of_not_le short, id⟩

theorem reserve_error (short : a.places.length ≤ t) (beyond : Graph.room ≤ t) :
    reserve true t a = .error (.noRoom t) a := by
  have tooMany : ¬ t + 1 ≤ Graph.room := Nat.not_le.mpr (Nat.lt_succ_of_le beyond)
  simp only [reserve, resize, placesFor, if_pos short, if_true, if_neg tooMany]

theorem Holds.mem_order_iff (h : a.Holds g) : t ∈ a.order ↔ ∃ k, a.tracker? t = some k := by
  rw [h.order, h.trackers, Graph.mem_tickets_iff]

theorem Holds.put (h : a.Holds g) (ticket : ∀ k, (f k).ticket = k.ticket)
    (found : a.tracker? t = some k) : (a.put t (f k)).Holds (g.modify t f) where
  latest := h.latest
  order := h.order.trans (Graph.tickets_modify g t ticket).symm
  trackers u := by
    have inside := (List.getElem?_eq_some_iff.mp (getElem?_of_tracker? found)).1
    rw [tracker?_put inside, Graph.find?_modify ticket]
    by_cases here : u = t
    · subst here
      simp [← h.trackers, found]
    · simp [here, h.trackers]
  room := by simpa [Arena.put] using h.room

/-- An operation made in place comes to the same as one made on the graph as a whole, and if it fails it
has changed nothing. -/
def Follows (a : Arena) (made : EStateM.Result Error Arena Unit) : Except Error Graph → Prop
  | .ok g => ∃ a', made = .ok () a' ∧ a'.Holds g
  | .error e => made = .error e a

theorem create_ok {a₁ : Arena} (absent : a.tracker? t = none) (made : reserve true t a = .ok () a₁)
    (roomier : a.Roomier t a₁) : create true t description a =
      .ok () ({ a₁ with order := a.order ++ [t] }.put t { ticket := t, description }) := by
  simp only [create, absent]
  refine bind_eq_ok_iff.mpr ⟨(), a₁, made, bind_eq_ok_iff.mpr ⟨⟨⟩, _, rfl, ?_⟩⟩
  simp only [store, if_pos roomier.inside, roomier.order]

theorem create_noRoom (absent : a.tracker? t = none) (short : a.places.length ≤ t)
    (beyond : Graph.room ≤ t) : create true t description a = .error (.noRoom t) a := by
  simp only [create, absent]
  exact bind_eq_error_iff.mpr (.inl (reserve_error short beyond))

theorem Holds.create (h : a.Holds g) :
    a.Follows (create true t description a) (g.create t description) := by
  have same := h.trackers t
  cases made : g.create t description with
  | error e =>
      rcases Graph.create_eq_error_iff.mp made with ⟨tracked, rfl⟩ | ⟨untracked, beyond, rfl⟩
      · obtain ⟨k, found⟩ := Graph.mem_tickets_iff.mp tracked
        simp [Follows, Arena.create, same, found]
      · rw [Graph.find?_eq_none_iff.mpr untracked] at same
        exact create_noRoom same (h.room.trans beyond) beyond
  | ok g' =>
      obtain ⟨untracked, fits, rfl⟩ := Graph.create_eq_ok_iff.mp made
      have absent := Graph.find?_eq_none_iff.mpr untracked
      obtain ⟨a₁, reserved, roomier⟩ := reserve_ok (.inr fits)
      refine ⟨_, create_ok (same.trans absent) reserved roomier, roomier.latest.trans h.latest, ?_,
        fun u => ?_, ?_⟩
      · simp [Arena.put, h.order, Graph.tickets]
      · rw [tracker?_put (a := { a₁ with order := a.order ++ [t] }) roomier.inside]
        have others : ({ a₁ with order := a.order ++ [t] } : Arena).tracker? u = g.find? u :=
          (roomier.trackers u).trans (h.trackers u)
        rw [others]
        simp only [Graph.find?, List.find?_append] at absent ⊢
        by_cases here : u = t
        · subst here
          simp [absent]
        · simp [here, Ne.symm here]
      · simpa [Arena.put] using roomier.room h.room

theorem Holds.own {entry : Nat} (h : a.Holds g) : a.Follows (own t entry a) (.ok (g.own t entry)) := by
  cases found : a.tracker? t with
  | some k =>
      exact ⟨_, by simp [Arena.own, found], h.put (f := ({ · with entry })) (fun _ => rfl) found⟩
  | none =>
      refine ⟨a, by simp [Arena.own, found], h.latest, by simp [h.order], fun u => ?_, h.room⟩
      have kept := Graph.find?_modify (g := g) (t := t) (u := u) (f := ({ · with entry })) fun _ => rfl
      rw [Graph.own, kept, h.trackers]
      split
      · rename_i here
        rw [here, ← h.trackers, found]
        rfl
      · rfl

theorem lookUp_ok (found : a.tracker? t = some k) : lookUp t a = .ok k a := by
  simp [lookUp, found]

theorem lookUp_error (absent : a.tracker? t = none) : lookUp t a = .error (.unknownTracker t) a := by
  simp [lookUp, absent]

theorem Holds.update (h : a.Holds g) (ticket : ∀ k, (f k).ticket = k.ticket)
    (found : a.tracker? t = some k) :
    ∃ a', Arena.update t f a = .ok () a' ∧ a'.order = a.order ∧ a'.Holds (g.modify t f) :=
  ⟨_, bind_eq_ok_iff.mpr ⟨k, a, lookUp_ok found, rfl⟩, rfl, h.put ticket found⟩

theorem Holds.subscribe (h : a.Holds g) :
    a.Follows (subscribe subscriber prerequisite a) (g.subscribe subscriber prerequisite) := by
  simp only [Arena.subscribe, Graph.subscribe, Graph.tracker, bind_apply, ← h.trackers]
  cases known : a.tracker? prerequisite with
  | none => rw [lookUp_error known]; rfl
  | some kp =>
      rw [lookUp_ok known]
      dsimp only
      cases found : a.tracker? subscriber with
      | none => rw [lookUp_error found]; rfl
      | some k =>
          rw [lookUp_ok found]
          dsimp only [bind, Except.bind]
          split
          · exact ⟨a, rfl, h⟩
          · -- the second look-up is made in the arena that the first end was written to already
            obtain ⟨a₁, first, order, h₁⟩ := h.update
              (f := fun k => { k with prerequisites := k.prerequisites ++ [prerequisite] })
              (fun _ => rfl) found
            have tracked : prerequisite ∈ a.order := h.mem_order_iff.mpr ⟨kp, known⟩
            obtain ⟨kp, still⟩ := h₁.mem_order_iff.mp (order ▸ tracked)
            obtain ⟨a₂, second, -, h₂⟩ := h₁.update
              (f := fun k => { k with subscribers := k.subscribers ++ [subscriber] })
              (fun _ => rfl) still
            exact ⟨a₂, bind_eq_ok_iff.mpr ⟨(), a₁, first, second⟩, h₂⟩

theorem stampFrom_cons {touched rest : List Ticket} :
    stampFrom serial a touched (t :: rest) = match a.tracker? t with
      | none => .error (.unknownTracker t) a
      | some k => if k.serial = serial then stampFrom serial a touched rest
          else stampFrom serial (a.put t { k with serial }) (touched ++ [t]) (rest ++ k.subscribers) := by
  rw [stampFrom]
  split <;> simp_all

theorem Holds.stampFrom {touched pending touched' : List Ticket} (h : a.Holds g)
    (made : Graph.stampFrom serial g touched pending = .ok touched' g') :
    ∃ a', Arena.stampFrom serial a touched pending = .ok touched' a' ∧ a'.Holds g' := by
  induction g, touched, pending using Graph.stampFrom.induct serial generalizing a with
  | case1 g touched =>
      rw [Graph.stampFrom] at made
      cases made
      exact ⟨a, by rw [Arena.stampFrom], h⟩
  | case2 g touched t rest absent =>
      rw [Graph.stampFrom] at made
      split at made <;> simp_all
  | case3 g touched t rest k found old ih =>
      rw [Graph.stampFrom] at made
      rw [stampFrom_cons, h.trackers, found]
      dsimp only
      rw [if_pos old]
      refine ih h ?_
      split at made <;> simp_all
  | case4 g touched t rest k found new ih =>
      rw [Graph.stampFrom] at made
      rw [stampFrom_cons, h.trackers, found]
      dsimp only
      rw [if_neg new]
      refine ih (h.put (f := ({ · with serial })) (fun _ => rfl) ((h.trackers t).trans found)) ?_
      split at made <;> simp_all

theorem Holds.noteChange (h : a.Holds g) (wf : g.WellFormed) :
    a.Follows (discard (noteChange t) a) ((g.noteChange t).map (·.1)) := by
  by_cases tracked : t ∈ g.tickets
  · obtain ⟨k, found⟩ := Graph.mem_tickets_iff.mp tracked
    have whole := Graph.noteChangeInPlace_ok wf tracked
    simp only [Graph.noteChangeInPlace, found] at whole
    have begun : ({ a with latest := a.latest + 1 } : Arena).Holds { g with latest := g.latest + 1 } :=
      ⟨congrArg (· + 1) h.latest, h.order, h.trackers, h.room⟩
    obtain ⟨a', stamped, h'⟩ := begun.stampFrom whole
    have noted : Arena.noteChange t a = .ok (g.downstream t) a' := by
      rw [← h.latest] at stamped
      simp only [Arena.noteChange, h.trackers, found, stamped]
    rw [Graph.noteChange_eq_ok_iff.mpr ⟨tracked, rfl⟩]
    exact ⟨a', by simp [discard, Functor.discard, Functor.mapConst, EStateM.map, noted], h'⟩
  · have none := (h.trackers t).trans (Graph.find?_eq_none_iff.mpr tracked)
    rw [(Graph.noteChange_untracked tracked).1]
    simp [Follows, Except.map, discard, Functor.discard, Functor.mapConst, EStateM.map, Arena.noteChange,
      none]

theorem Holds.act (h : a.Holds g) (wf : g.WellFormed) (o : Graph.Operation) :
    a.Follows (act true o a) (g.attempt o) := by
  cases o with
  | create t description => exact h.create
  | own t entry => exact h.own
  | subscribe subscriber prerequisite => exact h.subscribe
  | noteChange t => exact h.noteChange wf

theorem Holds.apply (h : a.Holds g) (wf : g.WellFormed) (o : Graph.Operation) :
    (stateAfter (Arena.act true o) a).Holds (g.apply o) := by
  have followed := h.act wf o
  simp only [Graph.apply]
  cases made : g.attempt o with
  | ok g' =>
      rw [made] at followed
      obtain ⟨a', acted, h'⟩ := followed
      rwa [stateAfter_ok acted]
  | error e =>
      rw [made] at followed
      rwa [stateAfter_error followed]

theorem holds_perform (operations : List Graph.Operation) :
    (perform true {} operations).Holds (Graph.perform {} operations) := by
  induction operations using List.reverseRecOn with
  | nil =>
      exact ⟨rfl, rfl, fun t => by simp [perform, Graph.perform, tracker?, Graph.find?], Nat.zero_le _⟩
  | append_singleton operations o ih =>
      rw [perform, Graph.perform, List.foldl_concat, List.foldl_concat]
      exact ih.apply (Graph.sound_perform operations).wellFormed o

def prerequisitesOf (a : Arena) (t : Ticket) : List Ticket := (a.tracker? t).elim [] (·.prerequisites)

def subscribersOf (a : Arena) (t : Ticket) : List Ticket := (a.tracker? t).elim [] (·.subscribers)

structure Sound (a : Arena) : Prop where
  inPlace : ∀ (t : Ticket) (k : Tracker), a.places[t]? = some (some k) → k.ticket = t
  listed : ∀ t, t ∈ a.order ↔ ∃ k, a.tracker? t = some k
  listedOnce : a.order.Nodup
  bothEnds : ∀ t u, u ∈ a.subscribersOf t ↔ t ∈ a.prerequisitesOf u
  tracked : ∀ t u, u ∈ a.subscribersOf t → t ∈ a.order ∧ u ∈ a.order
  subscribersOnce : ∀ t, (a.subscribersOf t).Nodup
  prerequisitesOnce : ∀ t, (a.prerequisitesOf t).Nodup
  serials : ∀ t k, a.tracker? t = some k → k.serial ≤ a.latest

theorem Holds.sound (h : a.Holds g) (sound : g.Sound) : a.Sound := by
  obtain ⟨wf, edges, linked⟩ := sound
  have subscribers (t : Ticket) : a.subscribersOf t = g.subscribersOf t := by
    simp only [subscribersOf, Graph.subscribersOf, h.trackers]
    cases g.find? t <;> rfl
  have prerequisites (t : Ticket) : a.prerequisitesOf t = g.prerequisitesOf t := by
    simp only [prerequisitesOf, Graph.prerequisitesOf, h.trackers]
    cases g.find? t <;> rfl
  refine ⟨fun t k place => ?_, fun t => h.mem_order_iff, h.order ▸ wf.nodup, fun t u => ?_,
    fun t u sub => ?_, fun t => ?_, fun t => ?_, fun t k found => ?_⟩
  · have found : a.tracker? t = some k := Option.join_eq_some_iff.mpr place
    exact Graph.ticket_of_find? (h.trackers t ▸ found)
  · rw [subscribers, prerequisites, linked.mem_subscribersOf_iff, linked.mem_prerequisitesOf_iff]
  · rw [subscribers, linked.mem_subscribersOf_iff] at sub
    rw [h.order]
    exact (linked.tracked u t sub).symm
  · rw [subscribers]
    exact linked.nodup_subscribersOf
  · rw [prerequisites]
    exact linked.nodup_prerequisitesOf
  · rw [h.latest]
    exact wf.serials k (Graph.mem_of_find? (h.trackers t ▸ found))

structure Grows (a a' : Arena) : Prop where
  latest : a.latest ≤ a'.latest
  order : a.order <+: a'.order
  prerequisites : ∀ t, a.prerequisitesOf t <+: a'.prerequisitesOf t
  subscribers : ∀ t, a.subscribersOf t <+: a'.subscribersOf t

theorem Grows.frame : Frame Grows where
  refl _ := ⟨Nat.le_refl _, List.prefix_rfl, fun _ => List.prefix_rfl, fun _ => List.prefix_rfl⟩
  trans first later := ⟨first.latest.trans later.latest, first.order.trans later.order,
    fun t => (first.prerequisites t).trans (later.prerequisites t),
    fun t => (first.subscribers t).trans (later.subscribers t)⟩

theorem grows_put {k' : Tracker} (found : a.tracker? t = some k)
    (prerequisites : k.prerequisites <+: k'.prerequisites)
    (subscribers : k.subscribers <+: k'.subscribers) : a.Grows (a.put t k') := by
  have inside := (List.getElem?_eq_some_iff.mp (getElem?_of_tracker? found)).1
  refine ⟨Nat.le_refl _, List.prefix_rfl, fun u => ?_, fun u => ?_⟩
  all_goals
    simp only [prerequisitesOf, subscribersOf, tracker?_put inside]
    split
    · rename_i here
      simpa only [here, found, Option.elim_some]
    · exact List.prefix_rfl

theorem Roomier.grows {a₁ : Arena} (roomier : a.Roomier t a₁) (absent : a.tracker? t = none) :
    a.Grows ({ a₁ with order := a.order ++ [t] }.put t { ticket := t, description }) := by
  refine ⟨roomier.latest.ge, List.prefix_append .., fun u => ?_, fun u => ?_⟩
  all_goals
    have others : ({ a₁ with order := a.order ++ [t] } : Arena).tracker? u = a.tracker? u :=
      roomier.trackers u
    simp only [prerequisitesOf, subscribersOf]
    rw [tracker?_put (a := { a₁ with order := a.order ++ [t] }) roomier.inside, others]
    split
    · rename_i here
      rw [here, absent]
      exact List.nil_prefix
    · exact List.prefix_rfl

theorem grows_create : Keeps Grows (create true t description) := by
  intro a
  cases found : a.tracker? t with
  | some k =>
      simp only [KeepsAt, stateAfter, create, found]
      exact Grows.frame.refl a
  | none =>
      by_cases fits : t < a.places.length ∨ t < Graph.room
      · obtain ⟨a₁, reserved, roomier⟩ := reserve_ok fits
        rw [KeepsAt, stateAfter_ok (create_ok found reserved roomier)]
        exact roomier.grows found
      · obtain ⟨short, beyond⟩ := not_or.mp fits
        rw [KeepsAt, stateAfter_error
          (create_noRoom found (Nat.le_of_not_lt short) (Nat.le_of_not_lt beyond))]
        exact Grows.frame.refl a

theorem grows_own {entry : Nat} : Keeps Grows (own t entry) := by
  intro a
  simp only [KeepsAt, stateAfter, own]
  cases found : a.tracker? t with
  | some k => exact grows_put found List.prefix_rfl List.prefix_rfl
  | none => exact Grows.frame.refl a

theorem grows_lookUp : Keeps Grows (lookUp t) := by
  intro a
  simp only [KeepsAt, stateAfter, lookUp]
  cases a.tracker? t <;> exact Grows.frame.refl a

theorem grows_update (prerequisites : ∀ k, k.prerequisites <+: (f k).prerequisites)
    (subscribers : ∀ k, k.subscribers <+: (f k).subscribers) : Keeps Grows (update t f) := by
  intro a
  refine .bind Grows.frame (grows_lookUp a) fun k a' found => ?_
  simp only [lookUp] at found
  cases there : a.tracker? t with
  | none => simp [there] at found
  | some old =>
      rw [there] at found
      cases found
      exact grows_put there (prerequisites k) (subscribers k)

theorem grows_subscribe : Keeps Grows (subscribe subscriber prerequisite) := by
  have frame := Grows.frame
  refine .bind frame grows_lookUp fun _ => .bind frame grows_lookUp fun k => ?_
  split
  · exact .pure frame _
  · exact .bind frame (grows_update (fun _ => List.prefix_append ..) fun _ => List.prefix_rfl) fun _ =>
      grows_update (fun _ => List.prefix_rfl) fun _ => List.prefix_append ..

theorem grows_stampFrom {touched pending : List Ticket} :
    KeepsAt Grows (fun a => stampFrom serial a touched pending) a := by
  simp only [KeepsAt, stateAfter]
  induction a, touched, pending using stampFrom.induct serial with
  | case1 a touched =>
      rw [stampFrom]
      exact Grows.frame.refl a
  | case2 a touched t rest absent =>
      rw [stampFrom_cons, absent]
      exact Grows.frame.refl a
  | case3 a touched t rest k found old ih =>
      rw [stampFrom_cons, found]
      simpa only [if_pos old] using ih
  | case4 a touched t rest k found new ih =>
      rw [stampFrom_cons, found]
      simp only [if_neg new]
      have stamped : a.Grows (a.put t { k with serial }) :=
        grows_put found List.prefix_rfl List.prefix_rfl
      exact Grows.frame.trans stamped ih

theorem grows_noteChange : Keeps Grows (noteChange t) := by
  intro a
  have begun : a.Grows { a with latest := a.latest + 1 } :=
    ⟨Nat.le_succ _, List.prefix_rfl, fun _ => List.prefix_rfl, fun _ => List.prefix_rfl⟩
  simp only [KeepsAt, stateAfter, noteChange]
  cases a.tracker? t with
  | none => exact Grows.frame.refl a
  | some k => exact Grows.frame.trans begun grows_stampFrom

theorem grows_act (o : Graph.Operation) : Keeps Grows (act true o) := by
  cases o with
  | create t description => exact grows_create
  | own t entry => exact grows_own
  | subscribe subscriber prerequisite => exact grows_subscribe
  | noteChange t => exact .discard grows_noteChange

theorem create_unchecked (small : t + 1 < UInt64.size) :
    create false t description = create true t description := by
  have size : placesFor false t = placesFor true t := Nat.mod_eq_of_lt small
  have same : reserve false t = reserve true t := by
    funext a
    simp only [reserve, size]
  funext a
  simp only [create, install, same]

theorem perform_unchecked {operations : List Graph.Operation}
    (small : ∀ t description, .create t description ∈ operations → t + 1 < UInt64.size) :
    perform false a operations = perform true a operations := by
  induction operations generalizing a with
  | nil => rfl
  | cons o rest ih =>
      have same : act false o = act true o := by
        cases o with
        | create t description => exact create_unchecked (small t description List.mem_cons_self)
        | own | subscribe | noteChange => rfl
      rw [perform, perform, List.foldl_cons, List.foldl_cons, same]
      exact ih fun t description mem => small t description (List.mem_cons_of_mem _ mem)

/-- Without the check the places up to the last one are counted as none, and all that there were are lost. -/
theorem create_unchecked_last (absent : a.tracker? (UInt64.size - 1) = none)
    (room : a.places.length ≤ Graph.room) : create false (UInt64.size - 1) description a =
      .error (.noRoom (UInt64.size - 1))
        { a with places := [], order := a.order ++ [UInt64.size - 1] } := by
  have short : a.places.length ≤ UInt64.size - 1 := room.trans (by decide)
  simp only [create, absent, install, reserve, bind_apply, if_pos short]
  rfl

/-- Whatever was done to an empty arena, it is in good order and holds the graph; what is done after takes
nothing out, and what fails changes nothing, be it with a panic. Without the check for overflow the same is
done, unless there is a tracker to be created for the last ticket, which is a panic there as well. -/
theorem perform_represents (operations later : List Graph.Operation) :
    (perform true {} operations).Holds (Graph.perform {} operations) ∧
    (perform true {} operations).Sound ∧
    (perform true {} operations).Grows (perform true (perform true {} operations) later) ∧
    (∀ (o : Graph.Operation) (e : Error) (a' : Arena),
      act true o (perform true {} operations) = .error e a' →
        a' = perform true {} operations ∧ (Graph.perform {} operations).attempt o = .error e) ∧
    ((∀ t description, .create t description ∈ operations → t + 1 < UInt64.size) →
      perform false {} operations = perform true {} operations) := by
  have sound := Graph.sound_perform operations
  have held := holds_perform operations
  refine ⟨held, held.sound sound, Grows.frame.foldl (fun a o => grows_act o a) later _, ?_,
    perform_unchecked⟩
  intro o e a' failed
  have followed := held.act sound.wellFormed o
  cases made : (Graph.perform {} operations).attempt o with
  | ok g' =>
      rw [made] at followed
      obtain ⟨a'', acted, -⟩ := followed
      cases failed.symm.trans acted
  | error e' =>
      rw [made] at followed
      cases failed.symm.trans followed
      exact ⟨rfl, rfl⟩

example : (perform true {} [.create 2 "late", .create 2 "again", .create 0 "early", .subscribe 2 0,
    .subscribe 2 1, .subscribe 2 0]).places.map (Option.map (·.subscribers)) =
      [some [2], none, some []] := by decide

end Arena

end Dataflow
