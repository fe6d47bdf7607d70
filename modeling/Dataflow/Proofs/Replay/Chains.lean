import Dataflow.Proofs.Replay.Position
import Mathlib.Data.List.Chain

namespace Dataflow

open Relation

/-- The built-in trackers that are told of each change of a source of the group. -/
def SourceGroup.aggregates (group : SourceGroup) : List Ticket :=
  match group with
  | discreteState | abstractState =>
      [group.aggregate, .allState, .allExceptInputs, .allSources]
  | numericParameter | abstractParameter =>
      [group.aggregate, .allParameters, .allExceptInputs, .allSources]

namespace System

variable {s : System} {t u : Ticket} {e : Entry} {d : Declaration}

inductive Names (s : System) : Entry → Ticket → Prop
  | directly {e : Entry} {t : Ticket} (named : t ∈ e.prerequisites) : Names s e t
  | through {e e' : Entry} {t : Ticket} (mem : e' ∈ s.entries) (named : e'.ticket ∈ e.prerequisites)
      (later : Names s e' t) : Names s e t

def Declaration.aggregates : Declaration → List Ticket
  | source x => x.group.aggregates
  | input _ _ => [.allInputs, .allSources]
  | entry _ _ | output _ _ => []

def Gathers (s : System) (t u : Ticket) : Prop :=
  (u, t) ∈ Graph.builtInEdges ∨ ∃ d ∈ s.declarations, d.isComputed = false ∧ (u, t) ∈ d.edges

/-- A change of `t` is one of the entry: it spreads over what tells of it, and then over entries. -/
def Affects (s : System) (t : Ticket) (e : Entry) : Prop :=
  t = e.ticket ∨ ∃ u, ReflTransGen s.Gathers t u ∧ s.Names e u

def Computes (s : System) (t : Ticket) : Prop :=
  ∃ d ∈ s.declarations, d.isComputed = true ∧ d.ticket = t

theorem Declaration.edges_source (basic : d.isComputed = false) (edge : (u, t) ∈ d.edges) :
    t = d.ticket ∧ u ∈ d.aggregates := by
  cases d with
  | source x =>
      obtain ⟨rfl, rfl⟩ := Prod.mk.inj (List.mem_singleton.mp edge)
      refine ⟨rfl, ?_⟩
      simp only [aggregates]
      cases x.group <;> exact List.mem_cons_self
  | input index p =>
      obtain ⟨rfl, rfl⟩ := Prod.mk.inj (List.mem_singleton.mp edge)
      exact ⟨rfl, List.mem_cons_self⟩
  | entry | output => cases basic

theorem Declaration.aggregates_closed (told : t ∈ d.aggregates)
    (edge : (u, t) ∈ Graph.builtInEdges) : u ∈ d.aggregates := by
  have groups : ∀ group ∈ SourceGroup.all, ∀ edge ∈ Graph.builtInEdges,
      edge.2 ∈ group.aggregates → edge.1 ∈ group.aggregates := by decide
  have inputs : ∀ edge ∈ Graph.builtInEdges, edge.2 ∈ [Ticket.allInputs, .allSources] →
      edge.1 ∈ [Ticket.allInputs, .allSources] := by decide
  cases d with
  | source x =>
      have all : x.group ∈ SourceGroup.all := by cases x.group <;> decide
      exact groups x.group all (u, t) edge told
  | input index p => exact inputs (u, t) edge told
  | entry | output => cases told

theorem Declaration.aggregates_builtIn (told : t ∈ d.aggregates) : t ∈ Graph.builtIn.tickets := by
  have groups : ∀ group ∈ SourceGroup.all, ∀ t ∈ group.aggregates, t ∈ Graph.builtIn.tickets := by
    decide
  have inputs : ∀ t ∈ [Ticket.allInputs, .allSources], t ∈ Graph.builtIn.tickets := by decide
  cases d with
  | source x =>
      have all : x.group ∈ SourceGroup.all := by cases x.group <;> decide
      exact groups x.group all t told
  | input index p => exact inputs t told
  | entry | output => cases told

theorem gathers_aggregates (mem : d ∈ s.declarations) (told : u ∈ d.aggregates) :
    ReflTransGen s.Gathers d.ticket u := by
  have up (t u : Ticket) (edge : (u, t) ∈ Graph.builtInEdges) : s.Gathers t u := .inl edge
  have chain : (d.ticket :: d.aggregates).IsChain s.Gathers := by
    cases d with
    | entry | output => exact .singleton _
    | input index p =>
        refine .cons_cons (.inr ⟨_, mem, rfl, List.mem_singleton_self _⟩) ?_
        exact .cons_cons (up .allInputs .allSources (by decide)) (.singleton _)
    | source x =>
        have first : s.Gathers x.ticket x.group.aggregate :=
          .inr ⟨_, mem, rfl, List.mem_singleton_self _⟩
        have last : [Ticket.allExceptInputs, .allSources].IsChain s.Gathers :=
          .cons_cons (up .allExceptInputs .allSources (by decide)) (.singleton _)
        have states : [Ticket.allState, .allExceptInputs, .allSources].IsChain s.Gathers :=
          .cons_cons (up .allState .allExceptInputs (by decide)) last
        have parameters : [Ticket.allParameters, .allExceptInputs, .allSources].IsChain s.Gathers :=
          .cons_cons (up .allParameters .allExceptInputs (by decide)) last
        cases group : x.group <;> rw [group] at first <;>
          simp only [Declaration.aggregates, group, SourceGroup.aggregates]
        · exact .cons_cons first (.cons_cons (up .discreteState .allState (by decide)) states)
        · exact .cons_cons first (.cons_cons (up .abstractState .allState (by decide)) states)
        · exact .cons_cons first
            (.cons_cons (up .numericParameters .allParameters (by decide)) parameters)
        · exact .cons_cons first
            (.cons_cons (up .abstractParameters .allParameters (by decide)) parameters)
  exact (chain.imp fun _ _ => ReflTransGen.single).rel_cons told

theorem gathers_allSources {t : Ticket} (builtIn : t.isBuiltIn = true) (other : t ≠ .nothing) :
    ReflTransGen s.Gathers t .allSources := by
  have above : ∀ t ∈ List.range 12, t ≠ Ticket.nothing →
      ∃ u ∈ List.range 13, (u, t) ∈ Graph.builtInEdges ∧ t < u := by decide
  have bound : t < 13 := of_decide_eq_true builtIn
  by_cases last : t = 12
  · exact last ▸ .refl
  · have inside : t ∈ List.range 12 :=
      List.mem_range.mpr (Nat.lt_of_le_of_ne (Nat.le_of_lt_succ bound) last)
    obtain ⟨u, known, edge, more⟩ := above t inside other
    have higher := gathers_allSources (t := u) (decide_eq_true (List.mem_range.mp known))
      (Nat.ne_of_gt (Nat.zero_lt_of_lt more))
    exact .head (.inl edge) higher
termination_by 13 - t
decreasing_by exact Nat.sub_lt_sub_left bound more

end System

namespace Context

variable {c₀ c : Context} {s : System} {t u : Ticket} {d d' : System.Declaration} {e : Entry} {i : Nat}

theorem Laid.mem_subscribersOf_iff (h : Laid c₀ s.declarations c) : t ∈ c.graph.subscribersOf u ↔
    (t, u) ∈ Graph.builtInEdges ∨ ∃ d ∈ s.declarations, (t, u) ∈ d.edges := by
  rw [h.graph.linked.mem_subscribersOf_iff, List.mem_append, List.mem_flatMap]

theorem Laid.reaches_of_gathers (h : Laid c₀ s.declarations c) (path : ReflTransGen s.Gathers t u) :
    c.graph.Reaches t u := by
  refine ReflTransGen.mono (fun t u step => ?_) _ _ path
  exact h.mem_subscribersOf_iff.mpr (step.imp_right fun ⟨d, mem, _, edge⟩ => ⟨d, mem, edge⟩)

theorem Laid.reaches_of_names (h : Laid c₀ s.declarations c) (mem : e ∈ s.entries)
    (named : s.Names e t) : c.graph.Reaches t e.ticket := by
  have edge {e : Entry} {t : Ticket} (mem : e ∈ s.entries) (named : t ∈ e.prerequisites) :
      e.ticket ∈ c.graph.subscribersOf t := by
    obtain ⟨i, found⟩ := List.mem_iff_getElem?.mp mem
    have declared := List.mem_of_getElem? (System.entry_position found)
    exact h.mem_subscribersOf_iff.mpr (.inr ⟨_, declared, List.mem_map_of_mem named⟩)
  induction named with
  | directly named => exact .single (edge mem named)
  | through mem' named _ ih => exact (ih mem').tail (edge mem named)

theorem Laid.not_builtIn (h : Laid c₀ s.declarations c) (fresh : c₀.IsFresh) (mem : d ∈ s.declarations) :
    d.ticket ∉ Graph.builtIn.tickets := by
  obtain ⟨n, found⟩ := List.mem_iff_getElem?.mp mem
  rw [← fresh.tickets]
  exact h.not_mem_start found

theorem Laid.declaration_unique (h : Laid c₀ s.declarations c) (mem : d ∈ s.declarations)
    (mem' : d' ∈ s.declarations) (same : d.ticket = d'.ticket) : d = d' := by
  obtain ⟨n, found⟩ := List.mem_iff_getElem?.mp mem
  obtain ⟨m, found'⟩ := List.mem_iff_getElem?.mp mem'
  obtain rfl := h.position_unique found found' same
  exact Option.some.inj (found.symm.trans found')

theorem Laid.mem_prerequisites (h : Laid c₀ s.declarations c) (fresh : c₀.IsFresh)
    (found : s.entries[i]? = some e) (subscribed : e.ticket ∈ c.graph.subscribersOf t) :
    t ∈ e.prerequisites := by
  have here := List.mem_of_getElem? (System.entry_position found)
  have new := h.not_builtIn fresh here
  rcases h.mem_subscribersOf_iff.mp subscribed with builtIn | ⟨d, mem, edge⟩
  · exact absurd (Graph.linked_builtIn.tracked _ _ builtIn).1 new
  · cases computed : d.isComputed with
    | false => exact absurd (d.aggregates_builtIn (d.edges_source computed edge).2) new
    | true =>
        have ends := d.ends_of_mem_edges edge
        rw [computed, if_pos rfl] at ends
        obtain rfl := h.declaration_unique here mem ends
        obtain ⟨u, named, same⟩ := List.mem_map.mp edge
        exact (Prod.mk.inj same).2 ▸ named

theorem Laid.gathers_of_reaches (h : Laid c₀ s.declarations c) (fresh : c₀.IsFresh)
    (path : c.graph.Reaches t u) (basic : ¬ s.Computes u) : ReflTransGen s.Gathers t u := by
  -- what subscribes to something computed is computed, so the whole path is not
  induction path with
  | refl => exact .refl
  | @tail v u _ step ih =>
      have basic' : ¬ s.Computes v := by
        rintro ⟨d, mem, computed, rfl⟩
        obtain ⟨n, found⟩ := List.mem_iff_getElem?.mp mem
        obtain ⟨m, d', found', computed', same, -⟩ := h.subscriber_position fresh found computed step
        exact basic ⟨d', List.mem_of_getElem? found', computed', same⟩
      refine (ih basic').tail ((h.mem_subscribersOf_iff.mp step).imp_right ?_)
      rintro ⟨d, mem, edge⟩
      cases computed : d.isComputed with
      | false => exact ⟨d, mem, computed, edge⟩
      | true =>
          have ends := d.ends_of_mem_edges edge
          rw [computed, if_pos rfl] at ends
          exact absurd ⟨d, mem, computed, ends.symm⟩ basic

theorem Laid.entry_of_computes (h : Laid c₀ s.declarations c) (fresh : c₀.IsFresh)
    (found : s.entries[i]? = some e) (subscribed : e.ticket ∈ c.graph.subscribersOf t)
    (computed : s.Computes t) : ∃ e' ∈ s.entries, e'.ticket = t := by
  obtain ⟨d, mem, computed, rfl⟩ := computed
  rcases System.mem_declarations_iff.mp mem with ⟨x, -, rfl⟩ | ⟨j, p, -, rfl⟩ | ⟨j, e', declared, rfl⟩ |
    ⟨j, p, declared, rfl⟩
  · cases computed
  · cases computed
  · exact ⟨e', List.mem_of_getElem? declared, rfl⟩
  · obtain ⟨m, d', found', -, same, later⟩ :=
      h.subscriber_position fresh (System.output_position declared) computed subscribed
    have position := h.position_unique found' (System.entry_position found) same
    have inside := (List.getElem?_eq_some_iff.mp found).1
    omega

theorem Laid.reaches_entry_iff (h : Laid c₀ s.declarations c) (fresh : c₀.IsFresh)
    (mem : e ∈ s.entries) : c.graph.Reaches t e.ticket ↔ s.Affects t e := by
  constructor
  · intro path
    generalize target : e.ticket = v at path
    induction path generalizing e with
    | refl => exact .inl target.symm
    | @tail v u path step ih =>
        subst target
        obtain ⟨i, found⟩ := List.mem_iff_getElem?.mp mem
        have named := h.mem_prerequisites fresh found step
        by_cases computed : s.Computes v
        · obtain ⟨e', mem', rfl⟩ := h.entry_of_computes fresh found step computed
          rcases ih mem' rfl with rfl | ⟨w, gathers, names⟩
          · exact .inr ⟨_, .refl, .directly named⟩
          · exact .inr ⟨w, gathers, .through mem' named names⟩
        · exact .inr ⟨v, h.gathers_of_reaches fresh path computed, .directly named⟩
  · rintro (rfl | ⟨u, gathers, names⟩)
    · exact .refl
    · exact (h.reaches_of_gathers gathers).trans (h.reaches_of_names mem names)

theorem Laid.gathers_iff (h : Laid c₀ s.declarations c) (fresh : c₀.IsFresh) (mem : d ∈ s.declarations) :
    ReflTransGen s.Gathers d.ticket u ↔ u = d.ticket ∨ u ∈ d.aggregates := by
  constructor
  · intro path
    induction path with
    | refl => exact .inl rfl
    | @tail v u _ step ih =>
        right
        have new := h.not_builtIn fresh mem
        rcases step with builtIn | ⟨d', mem', basic, edge⟩
        · rcases ih with rfl | told
          · exact absurd (Graph.linked_builtIn.tracked _ _ builtIn).2 new
          · exact d.aggregates_closed told builtIn
        · obtain ⟨rfl, told'⟩ := d'.edges_source basic edge
          rcases ih with same | told
          · exact h.declaration_unique mem' mem same ▸ told'
          · exact absurd (d.aggregates_builtIn told) (h.not_builtIn fresh mem')
  · rintro (rfl | told)
    · exact .refl
    · exact System.gathers_aggregates mem told

theorem Laid.affects_iff (h : Laid c₀ s.declarations c) (fresh : c₀.IsFresh) (mem : d ∈ s.declarations)
    (basic : d.isComputed = false) (declared : e ∈ s.entries) :
    s.Affects d.ticket e ↔ ∃ u ∈ d.ticket :: d.aggregates, s.Names e u := by
  have other : d.ticket ≠ e.ticket := by
    intro same
    obtain ⟨i, found⟩ := List.mem_iff_getElem?.mp declared
    obtain rfl := h.declaration_unique mem (List.mem_of_getElem? (System.entry_position found)) same
    cases basic
  simp only [System.Affects, other, false_or, h.gathers_iff fresh mem, List.mem_cons]

end Context

end Dataflow
