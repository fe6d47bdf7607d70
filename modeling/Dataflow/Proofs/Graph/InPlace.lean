import Dataflow.Cache
import Dataflow.Proofs.Graph.Downstream

namespace Dataflow.Graph

variable {g : Graph} {t : Ticket} {k : Tracker} {serial : Serial} {touched pending : List Ticket}

def setSerial (g : Graph) (t : Ticket) (serial : Serial) : Graph := g.modify t ({ · with serial })

def without (g : Graph) (serial : Serial) : Nat := g.trackers.countP (·.serial ≠ serial)

theorem without_setSerial_lt (found : g.find? t = some k) (old : k.serial ≠ serial) :
    (g.setSerial t serial).without serial < g.without serial := by
  have fewer (trackers : List Tracker) :
      (trackers.map fun k => if k.ticket = t then { k with serial } else k).countP (·.serial ≠ serial) ≤
        trackers.countP (·.serial ≠ serial) := by
    rw [List.countP_map]
    apply List.countP_mono_left
    intro k _ differs
    by_cases same : k.ticket = t <;> simp_all
  obtain ⟨before, after, split⟩ := List.append_of_mem (mem_of_find? found)
  have less := Nat.add_lt_add_of_le_of_lt (fewer before) (Nat.lt_succ_of_le (fewer after))
  simpa [setSerial, modify, without, split, ticket_of_find? found, old] using less

def stampFrom (serial : Serial) (g : Graph) (touched : List Ticket) :
    List Ticket → EStateM.Result Error Graph (List Ticket)
  | [] => .ok touched g
  | t :: rest =>
      match _found : g.find? t with
      | none => .error (.unknownTracker t) g
      | some k =>
          if _old : k.serial = serial then stampFrom serial g touched rest
          else stampFrom serial (g.setSerial t serial) (touched ++ [t]) (rest ++ k.subscribers)
termination_by pending => (g.without serial, pending.length)
decreasing_by
  · exact Prod.Lex.right _ (Nat.lt_succ_self _)
  · exact Prod.Lex.left _ _ (without_setSerial_lt _found _old)

def noteChangeInPlace (t : Ticket) : Attempt Graph (List Ticket) := fun g =>
  match g.find? t with
  | none => .error (.unknownTracker t) g
  | some _ => stampFrom (g.latest + 1) { g with latest := g.latest + 1 } [] [t]

theorem stamp_nil : g.stamp [] = { g with latest := g.latest + 1 } := by
  simp [stamp]

theorem setSerial_stamp :
    (g.stamp touched).setSerial t (g.latest + 1) = g.stamp (touched ++ [t]) := by
  simp only [setSerial, modify, stamp, List.map_map, Graph.mk.injEq, and_true]
  apply List.map_congr_left
  intro k _
  by_cases same : k.ticket = t
  · subst same
    by_cases mem : k.ticket ∈ touched <;> simp [mem]
  · by_cases mem : k.ticket ∈ touched <;> simp [same, mem]

def untouched (g : Graph) (touched : List Ticket) : List Ticket := g.tickets.filter (· ∉ touched)

theorem untouched_snoc : g.untouched (touched ++ [t]) = (g.untouched touched).filter (· ≠ t) := by
  simp only [untouched, List.filter_filter]
  apply List.filter_congr
  intro u _
  simp [and_comm]

theorem stampFrom_touched (tracked : t ∈ g.tickets) (mem : t ∈ touched) :
    stampFrom (g.latest + 1) (g.stamp touched) touched (t :: pending) =
      stampFrom (g.latest + 1) (g.stamp touched) touched pending := by
  obtain ⟨k, found⟩ := mem_tickets_iff.mp tracked
  have stamped : (g.stamp touched).find? t = some { k with serial := g.latest + 1 } := by
    simp [find?_stamp, found, mem]
  rw [stampFrom]
  split
  · simp_all
  · simp_all

theorem stampFrom_untouched (wf : g.WellFormed) (tracked : t ∈ g.tickets) (new : t ∉ touched) :
    stampFrom (g.latest + 1) (g.stamp touched) touched (t :: pending) =
      stampFrom (g.latest + 1) (g.stamp (touched ++ [t])) (touched ++ [t])
        (pending ++ g.subscribersOf t) := by
  obtain ⟨k, found⟩ := mem_tickets_iff.mp tracked
  have unstamped : (g.stamp touched).find? t = some k := by simp [find?_stamp, found, new]
  have old : k.serial ≠ g.latest + 1 :=
    Nat.ne_of_lt (Nat.lt_succ_of_le (wf.serials k (mem_of_find? found)))
  have subscribers : g.subscribersOf t = k.subscribers := by simp [subscribersOf, found]
  rw [stampFrom]
  split
  · simp_all
  · simp_all [setSerial_stamp]

/-- What the search visits after `touched`, in the order in which the loop takes it up. -/
def follow (g : Graph) (bound : Nat) (touched pending : List Ticket) : List Ticket :=
  Search.visit g.subscribersOf (fun fresh rest => rest ++ fresh) bound (g.untouched touched) pending

theorem stampFrom_stamp (wf : g.WellFormed) (bound : Nat) (touched pending : List Ticket)
    (enough : (g.untouched touched).length ≤ bound) (tracked : ∀ p ∈ pending, p ∈ g.tickets) :
    stampFrom (g.latest + 1) (g.stamp touched) touched pending =
      .ok (touched ++ g.follow bound touched pending)
        (g.stamp (touched ++ g.follow bound touched pending)) := by
  match pending with
  | [] => rw [stampFrom, follow, Search.visit_nil, List.append_nil]
  | t :: rest =>
      obtain ⟨here, later⟩ := List.forall_mem_cons.mp tracked
      by_cases mem : t ∈ touched
      · have seen : t ∉ g.untouched touched := by simp [untouched, mem]
        rw [stampFrom_touched here mem, follow, Search.visit_seen seen]
        exact stampFrom_stamp wf bound touched rest enough later
      · have new : t ∈ g.untouched touched := by simp [untouched, here, mem]
        match bound with
        | 0 =>
            rw [List.length_eq_zero_iff.mp (Nat.le_zero.mp enough)] at new
            cases new
        | bound + 1 =>
            have less := Search.length_filter_ne_lt new
            rw [← untouched_snoc] at less
            have next : touched ++ g.follow (bound + 1) touched (t :: rest) =
                touched ++ [t] ++ g.follow bound (touched ++ [t]) (rest ++ g.subscribersOf t) := by
              rw [follow, Search.visit_unseen new, ← untouched_snoc, List.append_assoc]
              rfl
            rw [stampFrom_untouched wf here mem, next]
            refine stampFrom_stamp wf bound (touched ++ [t]) (rest ++ g.subscribersOf t) (by omega) ?_
            exact List.forall_mem_append.mpr ⟨later, subscribersOf_subset wf⟩
termination_by (bound, pending.length)

theorem noteChangeInPlace_ok (wf : g.WellFormed) (tracked : t ∈ g.tickets) :
    noteChangeInPlace t g = .ok (g.downstream t) (g.stamp (g.downstream t)) := by
  obtain ⟨k, found⟩ := mem_tickets_iff.mp tracked
  have all : g.untouched [] = g.tickets := by simp [untouched]
  have done := stampFrom_stamp wf g.tickets.length [] [t] (by simp [all]) (by simpa using tracked)
  rw [stamp_nil, List.nil_append, follow, all] at done
  simp only [noteChangeInPlace, found, done]
  rfl

end Dataflow.Graph
