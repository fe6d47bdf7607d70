import Dataflow.Proofs.Declarations
import Dataflow.Proofs.Replay.Position
import Mathlib.Data.List.Induction

namespace Dataflow

namespace System

variable {s : System} {known : List Ticket} {n m : Nat} {d d' : Declaration} {t : Ticket} {e e' : Error}

def Grounded (s : System) (t : Ticket) : Prop :=
  t.isBuiltIn = true ∨ (∃ x ∈ s.sources, x.ticket = t) ∨ ∃ p ∈ s.inputs, p.ticket = t

def tickets (s : System) : List Ticket :=
  s.sources.map (·.ticket) ++ s.inputs.map (·.ticket) ++ s.entries.map (·.ticket) ++
    s.outputs.map (·.ticket)

structure Consistent (s : System) : Prop where
  distinct : s.tickets.Nodup
  assigned : ∀ t ∈ s.tickets, t.isBuiltIn = false
  /-- an entry depends on earlier entries only -/
  entries : ∀ (i : Nat) (e : Entry), s.entries[i]? = some e → ∀ t ∈ e.prerequisites,
    s.Grounded t ∨ ∃ (j : Nat) (e' : Entry), j < i ∧ s.entries[j]? = some e' ∧ e'.ticket = t
  /-- an output port that the system computes depends on no later one -/
  outputs : ∀ (i : Nat) (p : OutputPort), s.outputs[i]? = some p → p.child = none →
    s.Grounded p.dependency ∨ (∃ e ∈ s.entries, e.ticket = p.dependency) ∨
      ∃ (j : Nat) (p' : OutputPort), j ≤ i ∧ s.outputs[j]? = some p' ∧ p'.ticket = p.dependency

def Declaration.needs : Declaration → List Ticket
  | .source _ | .input _ _ => []
  | .entry _ e => e.prerequisites
  | .output _ p => if p.child.isNone then [p.dependency] else []

def tracked (ds : List Declaration) : List Ticket := Graph.builtIn.tickets ++ ds.map Declaration.ticket

def Placeable (s : System) : Prop := ∀ t ∈ s.tickets, t < Graph.room

structure Declaration.Fits (known : List Ticket) (d : Declaration) : Prop where
  new : d.ticket ∉ known
  room : d.ticket < Graph.room
  needs : ∀ t ∈ d.needs, t ∈ known ++ [d.ticket]

/-- What is wrong with a declaration that does not fit. Of several unknown tickets it is the least. -/
inductive Declaration.Offends (known : List Ticket) (d : Declaration) : Error → Prop
  | duplicate (old : d.ticket ∈ known) : Offends known d (.duplicateTracker d.ticket d.label.2.1)
  | noRoom (new : d.ticket ∉ known) (beyond : Graph.room ≤ d.ticket) :
      Offends known d (.noRoom d.ticket)
  | unknown {t : Ticket} (new : d.ticket ∉ known) (room : d.ticket < Graph.room) (needed : t ∈ d.needs)
      (unknown : t ∉ known ++ [d.ticket]) (least : ∀ u ∈ d.needs, u < t → u ∈ known ++ [d.ticket]) :
      Offends known d (.unknownTracker t)

/-- The first declaration that does not fit, and what is wrong with it. -/
def FirstOffence (s : System) (e : Error) : Prop :=
  ∃ (n : Nat) (d : Declaration), s.declarations[n]? = some d ∧
    d.Offends (tracked (s.declarations.take n)) e ∧
    ∀ (m : Nat) (d' : Declaration), m < n → s.declarations[m]? = some d' →
      d'.Fits (tracked (s.declarations.take m))

theorem Declaration.Offends.not_fits (h : d.Offends known e) : ¬ d.Fits known := by
  intro fits
  cases h with
  | duplicate old => exact fits.new old
  | noRoom _ beyond => exact Nat.not_lt.mpr beyond fits.room
  | unknown _ _ needed unknown _ => exact unknown (fits.needs _ needed)

theorem Declaration.Offends.unique (h : d.Offends known e) (h' : d.Offends known e') : e = e' := by
  cases h with
  | duplicate old =>
      cases h' with
      | duplicate => rfl
      | noRoom new | unknown new => exact (new old).elim
  | noRoom new beyond =>
      cases h' with
      | duplicate old => exact (new old).elim
      | noRoom => rfl
      | unknown _ room => exact (Nat.not_lt.mpr beyond room).elim
  | unknown new room needed unknown least =>
      cases h' with
      | duplicate old => exact (new old).elim
      | noRoom _ beyond => exact (Nat.not_lt.mpr beyond room).elim
      | unknown _ _ needed' unknown' least' =>
          congr 1
          refine Nat.le_antisymm ?_ ?_
          · exact Nat.not_lt.mp fun less => unknown' (least _ needed' less)
          · exact Nat.not_lt.mp fun less => unknown (least' _ needed less)

theorem FirstOffence.unique (h : s.FirstOffence e) (h' : s.FirstOffence e') : e = e' := by
  obtain ⟨n, d, found, offends, before⟩ := h
  obtain ⟨n', d', found', offends', before'⟩ := h'
  rcases Nat.lt_trichotomy n n' with less | rfl | greater
  · exact (offends.not_fits (before' n d less found)).elim
  · obtain rfl := Option.some.inj (found.symm.trans found')
    exact offends.unique offends'
  · exact (offends'.not_fits (before n' d' greater found')).elim

theorem isBuiltIn_iff : t.isBuiltIn = true ↔ t ∈ Graph.builtIn.tickets := by
  have all : Graph.builtIn.tickets = List.range Ticket.firstAssignable := by decide
  simp [all, Ticket.isBuiltIn]

theorem mem_tracked_take_iff {ds : List Declaration} : t ∈ tracked (ds.take n) ↔
    t.isBuiltIn = true ∨ ∃ m d, m < n ∧ ds[m]? = some d ∧ d.ticket = t := by
  rw [tracked, List.mem_append, isBuiltIn_iff, mem_tickets_take_iff]

theorem nodup_tracked_iff {ds : List Declaration} : (tracked ds).Nodup ↔
    ∀ n d, ds[n]? = some d → d.ticket ∉ tracked (ds.take n) := by
  constructor
  · intro nodup n d found
    have next : tracked (ds.take (n + 1)) = tracked (ds.take n) ++ [d.ticket] := by
      simp [tracked, List.take_add_one, found]
    have start : (tracked (ds.take (n + 1))).Sublist (tracked ds) :=
      ((List.take_sublist _ _).map _).append_left _
    rw [next] at start
    exact fun mem => (List.nodup_append'.mp (nodup.sublist start)).2.2 mem (List.mem_singleton_self _)
  · intro new
    induction ds using List.reverseRecOn with
    | nil => exact (show Graph.builtIn.tickets.Nodup by decide)
    | append_singleton ds last ih =>
        have before : (tracked ds).Nodup := by
          refine ih fun n d found => ?_
          have inside := (List.getElem?_eq_some_iff.mp found).1
          have fresh := new n d (by rw [List.getElem?_append_left inside, found])
          rwa [List.take_append_of_le_length inside.le] at fresh
        have fresh := new ds.length last (by simp)
        rw [List.take_left'] at fresh
        · have next : tracked (ds ++ [last]) = tracked ds ++ [last.ticket] := by simp [tracked]
          rw [next]
          exact List.nodup_append_comm.mpr (List.nodup_cons.mpr ⟨fresh, before⟩)
        · rfl

theorem perm_grouped : (SourceGroup.all.flatMap s.sourcesOf).Perm s.sources := by
  rw [List.perm_iff_count]
  intro x
  have counted (group : SourceGroup) : (s.sourcesOf group).count x =
      if x.group = group then s.sources.count x else 0 := by
    split
    · rename_i same
      exact List.count_filter (by simpa using same)
    · rename_i other
      exact List.count_eq_zero.mpr fun mem => other (by simpa using (List.mem_filter.mp mem).2)
  cases group : x.group <;> simp [SourceGroup.all, counted, group]

theorem perm_tickets : s.tickets.Perm (s.declarations.map Declaration.ticket) := by
  have sources := (perm_grouped (s := s)).symm.map (·.ticket)
  rw [map_declarations]
  simp only [Declaration.ticket, Declaration.label, mapIdx_eq_map]
  exact ((sources.append_right _).append_right _).append_right _

theorem Grounded.tracked (h : s.Grounded t)
    (later : (SourceGroup.all.flatMap s.sourcesOf).length + s.inputs.length ≤ n) :
    t ∈ System.tracked (s.declarations.take n) := by
  rw [mem_tracked_take_iff]
  rcases h with builtIn | ⟨x, mem, rfl⟩ | ⟨p, mem, rfl⟩
  · exact .inl builtIn
  · obtain ⟨i, found⟩ := List.mem_iff_getElem?.mp (perm_grouped.mem_iff.mpr mem)
    have inside := (List.getElem?_eq_some_iff.mp found).1
    exact .inr ⟨i, .source x, by omega, getElem?_declarations_iff.mpr (.inl ⟨x, found, rfl⟩), rfl⟩
  · obtain ⟨i, found⟩ := List.mem_iff_getElem?.mp mem
    have inside := (List.getElem?_eq_some_iff.mp found).1
    exact .inr ⟨_, .input i p, by omega,
      getElem?_declarations_iff.mpr (.inr (.inl ⟨i, p, found, rfl, rfl⟩)), rfl⟩

theorem Consistent.nodup (h : s.Consistent) : (tracked s.declarations).Nodup := by
  have builtIn : Graph.builtIn.tickets.Nodup := by decide
  refine List.nodup_append'.mpr ⟨builtIn, perm_tickets.nodup_iff.mp h.distinct, ?_⟩
  intro t old declared
  have assigned := h.assigned t (perm_tickets.mem_iff.mpr declared)
  rw [isBuiltIn_iff.mpr old] at assigned
  cases assigned

theorem Consistent.fits (h : s.Consistent) (placeable : s.Placeable)
    (found : s.declarations[n]? = some d) : d.Fits (tracked (s.declarations.take n)) where
  new := nodup_tracked_iff.mp h.nodup n d found
  room := placeable _
    (perm_tickets.mem_iff.mpr (List.mem_map_of_mem (List.mem_of_getElem? found)))
  needs := by
    intro t needed
    rw [List.mem_append, List.mem_singleton]
    rcases getElem?_declarations_iff.mp found with ⟨x, -, rfl⟩ | ⟨i, p, -, rfl, -⟩ |
      ⟨i, e, foundEntry, rfl, position⟩ | ⟨i, p, foundOutput, rfl, position⟩
    · cases needed
    · cases needed
    · rcases h.entries i e foundEntry t needed with grounded | ⟨j, e', earlier, foundEarlier, rfl⟩
      · exact .inl (grounded.tracked (by omega))
      · exact .inl (mem_tracked_take_iff.mpr
          (.inr ⟨_, .entry j e', by omega, entry_position foundEarlier, rfl⟩))
    · by_cases own : p.child = none
      · simp only [Declaration.needs, own, Option.isNone_none, if_true, List.mem_singleton] at needed
        rcases h.outputs i p foundOutput own with grounded | ⟨e, mem, same⟩ |
          ⟨j, p', earlier, foundEarlier, same⟩
        · exact .inl (needed ▸ grounded.tracked (by omega))
        · obtain ⟨j, foundEntry⟩ := List.mem_iff_getElem?.mp mem
          have inside := (List.getElem?_eq_some_iff.mp foundEntry).1
          exact .inl (mem_tracked_take_iff.mpr (.inr ⟨_, .entry j e, by omega,
            entry_position foundEntry, same.trans needed.symm⟩))
        · rcases Nat.lt_or_eq_of_le earlier with less | rfl
          · exact .inl (mem_tracked_take_iff.mpr (.inr ⟨_, .output j p', by omega,
              output_position foundEarlier, same.trans needed.symm⟩))
          · obtain rfl := Option.some.inj (foundOutput.symm.trans foundEarlier)
            exact .inr (needed.trans same.symm)
      · simp [Declaration.needs, own] at needed

end System

end Dataflow
