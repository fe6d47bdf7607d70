import Dataflow.Proofs.Declarations
import Dataflow.Proofs.Graph.Order
import Dataflow.Proofs.Replay.Position

/-!
A replay makes cycles in one way only: by an output port that the system computes and that is said
to depend on itself. Nothing refuses such a port, and nothing else closes a cycle.
-/

namespace Dataflow

open Relation

namespace System

variable {s : System} {n : Nat} {d : System.Declaration}

/-- What is computed ranks above the built-in trackers, in the order of the declarations, and what is
not ranks below them. -/
def rank (s : System) (t : Ticket) : Nat :=
  match s.declarations.findIdx? (·.ticket = t) with
  | none => t + 1
  | some n => if s.declarations[n]?.any (·.isComputed) then Ticket.firstAssignable + 1 + n else 0

/-- An output port that the system computes does not depend on itself. -/
def OutputsApart (s : System) : Prop := ∀ p ∈ s.outputs, p.child = none → p.dependency ≠ p.ticket

instance : Decidable s.OutputsApart := inferInstanceAs (Decidable (∀ p ∈ s.outputs, _))

theorem Declaration.joins_builtIn {t p : Ticket} (computed : d.isComputed = false)
    (edge : (t, p) ∈ d.edges) : t ∈ Graph.builtIn.tickets := by
  cases d with
  | source x =>
      have aggregates : ∀ group ∈ SourceGroup.all, group.aggregate ∈ Graph.builtIn.tickets := by decide
      rw [(Prod.mk.inj (List.mem_singleton.mp edge)).1]
      exact aggregates x.group (by cases x.group <;> decide)
  | input index port =>
      rw [(Prod.mk.inj (List.mem_singleton.mp edge)).1]
      decide
  | entry index e => cases computed
  | output index port => cases computed

theorem apart_of_mem_edges {t p : Ticket} (proper : ∀ e ∈ s.entries, e.Proper) (apart : s.OutputsApart)
    (mem : d ∈ s.declarations) (computed : d.isComputed = true) (edge : (t, p) ∈ d.edges) :
    p ≠ d.ticket := by
  rcases mem_declarations_iff.mp mem with ⟨x, -, rfl⟩ | ⟨i, port, -, rfl⟩ | ⟨i, e, found, rfl⟩ |
    ⟨i, port, found, rfl⟩
  · cases computed
  · cases computed
  · obtain ⟨q, named, same⟩ := List.mem_map.mp edge
    obtain ⟨rfl, rfl⟩ := Prod.mk.inj same
    rintro rfl
    exact (proper e (List.mem_of_getElem? found)).other named
  · by_cases own : port.child = none
    · simp only [Declaration.edges, own, Option.isNone_none, if_true, List.mem_singleton,
        Prod.mk.injEq] at edge
      rw [edge.2]
      exact apart port (List.mem_of_getElem? found) own
    · simp [Declaration.edges, own] at edge

end System

namespace Context

variable {c₀ c : Context} {id : SystemId} {s : System} {pathname : String} {u : Unit} {t p : Ticket}
  {n : Nat} {d : System.Declaration}

theorem Laid.rank_declared (h : Laid c₀ s.declarations c) (found : s.declarations[n]? = some d) :
    s.rank d.ticket = if d.isComputed then Ticket.firstAssignable + 1 + n else 0 := by
  have first : s.declarations.findIdx? (·.ticket = d.ticket) = some n := by
    cases index : s.declarations.findIdx? (·.ticket = d.ticket) with
    | none =>
        have other := List.findIdx?_eq_none_iff.mp index d (List.mem_of_getElem? found)
        simp at other
    | some m =>
        obtain ⟨inside, same, -⟩ := List.findIdx?_eq_some_iff_getElem.mp index
        have found' := List.getElem?_eq_getElem inside
        rw [h.position_unique found found' (of_decide_eq_true same).symm]
  simp [System.rank, first, found]

theorem Laid.rank_builtIn (h : Laid c₀ s.declarations c) (mem : t ∈ c₀.graph.tickets) :
    s.rank t = t + 1 := by
  have none : s.declarations.findIdx? (·.ticket = t) = none := by
    rw [List.findIdx?_eq_none_iff]
    intro d declared
    obtain ⟨n, found⟩ := List.mem_iff_getElem?.mp declared
    simpa using fun same : d.ticket = t => h.not_mem_start found (same ▸ mem)
  simp [System.rank, none]

theorem Laid.rank_lt (h : Laid c₀ s.declarations c) (fresh : c₀.IsFresh)
    (proper : ∀ e ∈ s.entries, e.Proper) (apart : s.OutputsApart) (depends : c.graph.DependsOn t p) :
    s.rank p < s.rank t := by
  have low {t : Ticket} (mem : t ∈ c₀.graph.tickets) : s.rank t < Ticket.firstAssignable + 1 := by
    have bounded : ∀ t ∈ Graph.builtIn.tickets, t < Ticket.firstAssignable := by decide
    rw [h.rank_builtIn mem]
    exact Nat.succ_lt_succ (bounded t (fresh.tickets ▸ mem))
  rcases List.mem_append.mp (h.graph.linked.mem_prerequisitesOf_iff.mp depends) with builtIn | declared
  · have descending : ∀ e ∈ Graph.builtInEdges, e.2 < e.1 := by decide
    obtain ⟨first, second⟩ := Graph.linked_builtIn.tracked _ _ builtIn
    rw [← fresh.tickets] at first second
    rw [h.rank_builtIn first, h.rank_builtIn second]
    exact Nat.succ_lt_succ (descending _ builtIn)
  · obtain ⟨d, mem, edge⟩ := List.mem_flatMap.mp declared
    obtain ⟨n, found⟩ := List.mem_iff_getElem?.mp mem
    have own := h.rank_declared found
    have ends := d.ends_of_mem_edges edge
    cases computed : d.isComputed with
    | false =>
        simp only [computed, Bool.false_eq_true, if_false] at own ends
        have joined := d.joins_builtIn computed edge
        rw [← fresh.tickets] at joined
        rw [ends, own, h.rank_builtIn joined]
        exact Nat.succ_pos t
    | true =>
        simp only [computed, if_true] at own ends
        rw [ends, own]
        rcases List.mem_append.mp (h.ordered n d found _ edge).2 with old | new
        · exact Nat.lt_add_right n (low old)
        · obtain ⟨m, d', earlier, foundHere, rfl⟩ := System.mem_tickets_take_iff.mp new
          rw [h.rank_declared foundHere]
          have distinct : m ≠ n := by
            rintro rfl
            obtain rfl := Option.some.inj (found.symm.trans foundHere)
            exact System.apart_of_mem_edges proper apart mem computed edge rfl
          split <;> omega

theorem Laid.acyclic_iff (h : Laid c₀ s.declarations c) (fresh : c₀.IsFresh)
    (proper : ∀ e ∈ s.entries, e.Proper) : c.graph.Acyclic ↔ s.OutputsApart := by
  constructor
  · intro acyclic p mem own same
    have edge := System.subscribes_iff.mp (System.Subscribes.output mem own)
    rw [same] at edge
    exact acyclic p.ticket (.single (h.graph.linked.mem_prerequisitesOf_iff.mpr edge))
  · intro apart
    exact Graph.acyclic_of_rank s.rank fun t p => h.rank_lt fresh proper apart

/-- A context that was set up is without cycles, and has an order with every tracker after its
prerequisites, exactly if no output port that the system computes was declared to depend on itself. -/
theorem setUp_acyclic_iff (declared : s.Declared) (fresh : c₀.IsFresh)
    (made : setUp id s pathname c₀ = .ok u c) :
    (c.graph.Acyclic ↔ s.OutputsApart) ∧
    (s.OutputsApart → ∃ order, c.graph.topologicalOrder = some order ∧ c.graph.Sorted order) ∧
    (¬ s.OutputsApart → c.graph.topologicalOrder = none) := by
  have h := laid_setUp fresh made
  have acyclic := h.acyclic_iff fresh.renamed declared.proper
  have linked := h.graph.linked
  have nodup := h.graph.nodup
  refine ⟨acyclic, ?_, ?_⟩
  · intro apart
    obtain ⟨order, found⟩ := (acyclic.mpr apart).exists_topologicalOrder linked nodup
    exact ⟨order, found, Graph.sorted_of_topologicalOrder linked nodup found⟩
  · intro itself
    exact (Graph.topologicalOrder_eq_none_iff linked nodup).mpr (mt acyclic.mp itself)

def relay : System := .declaredBy "relay"
  [.input "u" (.vector 1), .entry "scaled" .unit .finish [13],
    .output "y" (.named "f64") none 14, .output "z" (.named "f64") none 15]

theorem setUp_relay_acyclic : relay.Declared ∧ (fresh none true).IsFresh ∧ ∃ c,
    setUp 0 relay "::relay" (fresh none true) = .ok () c ∧ relay.OutputsApart ∧
      ∃ order, c.graph.topologicalOrder = some order ∧ c.graph.Sorted order :=
  have declared := System.declared_declaredBy
  have ⟨_, made⟩ := ok_of_succeeds (f := setUp 0 relay "::relay") (s := fresh none true)
    (by decide +kernel)
  have apart : relay.OutputsApart := by decide +kernel
  ⟨declared, isFresh_fresh, _, made, apart, (setUp_acyclic_iff declared isFresh_fresh made).2.1 apart⟩

/-- One output port, declared for the ticket that it is about to get. -/
def echo : System := .declaredBy "echo" [.output "y" (.named "f64") none 13]

theorem setUp_echo_cyclic : echo.Declared ∧ (fresh none true).IsFresh ∧ ∃ c,
    setUp 0 echo "::echo" (fresh none true) = .ok () c ∧ ¬ c.graph.Acyclic ∧
      c.graph.topologicalOrder = none := by
  have ⟨_, made⟩ := ok_of_succeeds (f := setUp 0 echo "::echo") (s := fresh none true)
    (by decide +kernel)
  have itself : (stateAfter (setUp 0 echo "::echo") (fresh none true)).graph.DependsOn 13 13 :=
    show 13 ∈ _ by decide +kernel
  refine ⟨System.declared_declaredBy, isFresh_fresh, _, made, ?_, by decide +kernel⟩
  exact fun acyclic => acyclic 13 (.single itself)

end Context

end Dataflow
