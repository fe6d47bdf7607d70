import Dataflow.Proofs.Replay.Consistent

namespace Dataflow

namespace Store

variable {s s' : Store} {t : Ticket} {description : String} {e : Error} {index : Nat}
  {prerequisites : List Ticket}

theorem onGraph_eq_error_iff {f : Graph → Except Error Graph} :
    onGraph f s = .error e s' ↔ f s.graph = .error e ∧ s' = s := by
  simp only [onGraph, Attempt.step, bind, Except.bind]
  cases f s.graph <;> simp [pure, Except.pure, eq_comm]

end Store

namespace System

variable {s : System} {n i : Nat} {e : Entry} {caching : Bool}

theorem Declaration.mem_edges_of_needs {d : Declaration} {t : Ticket} (needed : t ∈ d.needs) :
    (d.ticket, t) ∈ d.edges := by
  cases d with
  | source x => cases needed
  | input index p => cases needed
  | entry index x => exact List.mem_map_of_mem needed
  | output index p =>
      simp only [needs, edges] at needed ⊢
      split at needed
      · rename_i own
        simpa [own, ticket, label] using needed
      · cases needed

end System

namespace Context

variable {c₀ c c' : Context} {done : List System.Declaration} {d : System.Declaration} {e : Error}
  {id : SystemId} {s : System} {pathname : String}

def Lays (c c' : Context) : Prop := c' = { c with
  toStore := c'.toStore, sources := c'.sources, inputs := c'.inputs, outputs := c'.outputs }

theorem Lays.frame : Frame Lays := ⟨fun _ => rfl, fun first later => by rw [Lays, later, first]⟩

theorem Lays.isSetUp (h : c.Lays c') : c'.isSetUp = c.isSetUp := by
  have same := congrArg Context.isSetUp h
  exact same

theorem Lays.system (h : c.Lays c') : c'.system = c.system := by
  have same := congrArg Context.system h
  exact same

theorem lays_replay : Keeps Lays (replay d) := by
  have frame := Lays.frame
  have store (f : Attempt Store Unit) : Keeps Lays (onStore f) := by
    intro c
    simp only [KeepsAt, stateAfter, onStore]
    cases f c.toStore <;> rfl
  cases d with
  | source x => exact .bind frame (store _) fun _ => .bind frame (store _) fun _ => .modify fun _ => rfl
  | input index p =>
      exact .bind frame (store _) fun _ => .bind frame (store _) fun _ => .modify fun _ => rfl
  | entry index x => exact .bind frame (store _) fun _ => .modify fun _ => rfl
  | output index p =>
      refine .bind frame (store _) fun _ => .bind frame ?_ fun _ => .modify fun _ => rfl
      unfold subscribeOutput
      split
      · exact store _
      · exact .pure frame _

theorem lays_forM_replay (declarations : List System.Declaration) :
    Keeps Lays (declarations.forM replay) := .forM Lays.frame fun _ _ => lays_replay

theorem Laid.fits (h : Laid c₀ done c) (fresh : c₀.IsFresh) {n : Nat} (found : done[n]? = some d) :
    d.Fits (System.tracked (done.take n)) where
  new := by
    have nodup := h.graph.nodup
    rw [h.tickets, fresh.tickets] at nodup
    exact System.nodup_tracked_iff.mp nodup n d found
  room := h.graph.placed d.label (List.mem_map_of_mem (List.mem_of_getElem? found))
  needs := by
    intro t needed
    have joined := (h.ordered n d found _ (d.mem_edges_of_needs needed)).2
    rwa [fresh.tickets, List.take_add_one, found, Option.toList_some, List.map_append,
      ← List.append_assoc] at joined

end Context

end Dataflow
