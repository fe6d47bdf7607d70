import Dataflow.Proofs.Replay.Laid

/-!
# What replaying the declarations builds

A context that was set up successfully holds the graph and the cache that its system declares, and
nothing else.
-/

namespace Dataflow

inductive System.Subscribes (s : System) : Ticket → Ticket → Prop
  | builtIn {t p : Ticket} (mem : (t, p) ∈ Graph.builtInEdges) : Subscribes s t p
  | source {x : Source} (mem : x ∈ s.sources) : Subscribes s x.group.aggregate x.ticket
  | input {p : Port} (mem : p ∈ s.inputs) : Subscribes s .allInputs p.ticket
  | entry {e : Entry} {p : Ticket} (mem : e ∈ s.entries) (named : p ∈ e.prerequisites) :
      Subscribes s e.ticket p
  | output {p : OutputPort} (mem : p ∈ s.outputs) (own : p.child = none) :
      Subscribes s p.ticket p.dependency

namespace System

variable {s : System} {t p : Ticket}

theorem mem_declarations_iff {d : Declaration} : d ∈ s.declarations ↔
    (∃ x ∈ s.sources, d = .source x) ∨ (∃ (i : Nat) (p : Port), s.inputs[i]? = some p ∧ d = .input i p) ∨
    (∃ (i : Nat) (e : Entry), s.entries[i]? = some e ∧ d = .entry i e) ∨
    ∃ (i : Nat) (p : OutputPort), s.outputs[i]? = some p ∧ d = .output i p := by
  have indexed {α : Type} {xs : List α} {f : Nat → α → Declaration} :
      d ∈ xs.mapIdx f ↔ ∃ i x, xs[i]? = some x ∧ d = f i x := by
    simp only [List.mem_iff_getElem?, List.getElem?_mapIdx, Option.map_eq_some_iff,
      eq_comm (a := d)]
  have grouped {x : Source} : x ∈ SourceGroup.all.flatMap s.sourcesOf ↔ x ∈ s.sources := by
    have all : x.group ∈ SourceGroup.all := by cases x.group <;> decide
    simp [sourcesOf, all]
  simp only [declarations, List.mem_append, List.mem_map, grouped, indexed, or_assoc,
    eq_comm (a := d)]

theorem subscribes_iff :
    s.Subscribes t p ↔ (t, p) ∈ Graph.builtInEdges ++ s.declarations.flatMap Declaration.edges := by
  rw [List.mem_append, List.mem_flatMap]
  constructor
  · intro edge
    cases edge with
    | builtIn mem => exact .inl mem
    | source mem =>
        exact .inr ⟨_, mem_declarations_iff.mpr (.inl ⟨_, mem, rfl⟩), List.mem_singleton_self _⟩
    | input mem =>
        obtain ⟨i, found⟩ := List.mem_iff_getElem?.mp mem
        exact .inr ⟨_, mem_declarations_iff.mpr (.inr (.inl ⟨i, _, found, rfl⟩)),
          List.mem_singleton_self _⟩
    | entry mem named =>
        obtain ⟨i, found⟩ := List.mem_iff_getElem?.mp mem
        exact .inr ⟨_, mem_declarations_iff.mpr (.inr (.inr (.inl ⟨i, _, found, rfl⟩))),
          List.mem_map_of_mem named⟩
    | output mem own =>
        obtain ⟨i, found⟩ := List.mem_iff_getElem?.mp mem
        refine .inr ⟨_, mem_declarations_iff.mpr (.inr (.inr (.inr ⟨i, _, found, rfl⟩))), ?_⟩
        simp [Declaration.edges, own]
  · rintro (mem | ⟨d, mem, edge⟩)
    · exact .builtIn mem
    · rcases mem_declarations_iff.mp mem with ⟨x, declared, rfl⟩ | ⟨i, q, found, rfl⟩ |
        ⟨i, e, found, rfl⟩ | ⟨i, q, found, rfl⟩
      · obtain ⟨rfl, rfl⟩ := Prod.mk.inj (List.mem_singleton.mp edge)
        exact .source declared
      · obtain ⟨rfl, rfl⟩ := Prod.mk.inj (List.mem_singleton.mp edge)
        exact .input (List.mem_of_getElem? found)
      · obtain ⟨u, named, same⟩ := List.mem_map.mp edge
        obtain ⟨rfl, rfl⟩ := Prod.mk.inj same
        exact .entry (List.mem_of_getElem? found) named
      · by_cases own : q.child = none
        · simp only [Declaration.edges, own, Option.isNone_none, if_true, List.mem_singleton,
            Prod.mk.injEq] at edge
          obtain ⟨rfl, rfl⟩ := edge
          exact .output (List.mem_of_getElem? found) own
        · simp [Declaration.edges, own] at edge

theorem mem_owners_iff {i : Nat} : (i, t) ∈ s.declarations.flatMap Declaration.owners ↔
    ∃ e, s.entries[i]? = some e ∧ e.ticket = t := by
  rw [List.mem_flatMap]
  constructor
  · rintro ⟨d, mem, owner⟩
    rcases mem_declarations_iff.mp mem with ⟨x, -, rfl⟩ | ⟨j, q, -, rfl⟩ | ⟨j, e, found, rfl⟩ |
      ⟨j, q, -, rfl⟩
    · cases owner
    · cases owner
    · obtain ⟨rfl, rfl⟩ := Prod.mk.inj (List.mem_singleton.mp owner)
      exact ⟨e, found, rfl⟩
    · cases owner
  · rintro ⟨e, found, rfl⟩
    exact ⟨_, mem_declarations_iff.mpr (.inr (.inr (.inl ⟨i, e, found, rfl⟩))),
      List.mem_singleton_self _⟩

section Lists

variable {α β : Type}

theorem mapIdx_eq_map (f : α → β) (xs : List α) : xs.mapIdx (fun _ x => f x) = xs.map f :=
  List.ext_getElem? fun i => by simp

theorem flatten_mapIdx_singleton (f : Nat → α → β) (xs : List α) :
    (xs.mapIdx fun i x => [f i x]).flatten = xs.mapIdx f := by
  simp only [List.mapIdx_eq_zipIdx_map, ← List.flatMap_def, ← List.map_eq_flatMap]

theorem flatten_mapIdx_nil (xs : List α) :
    (xs.mapIdx fun _ _ => ([] : List β)).flatten = [] := by
  simp [mapIdx_eq_map (fun _ => ([] : List β))]

end Lists

theorem map_declarations {α : Type} (f : Declaration → α) : s.declarations.map f =
    (SourceGroup.all.flatMap s.sourcesOf).map (fun x => f (.source x)) ++
      s.inputs.mapIdx (fun i p => f (.input i p)) ++ s.entries.mapIdx (fun i e => f (.entry i e)) ++
      s.outputs.mapIdx fun i p => f (.output i p) := by
  simp [declarations, Function.comp_def, List.mapIdx_eq_zipIdx_map]

end System

namespace Context

variable {c₀ c : Context} {id : SystemId} {s : System} {pathname : String} {u : Unit}

/-- `c` is the fresh context `c₀` with what the system `s` declares. -/
structure Replayed (c₀ : Context) (s : System) (c : Context) : Prop where
  /-- the trackers in the order of their creation -/
  trackers : (c.graph.trackers.map fun k => (k.ticket, k.description)) = Graph.builtInTrackers ++
    (SourceGroup.all.flatMap s.sourcesOf).map (fun x => (x.ticket, x.description)) ++
    s.inputs.mapIdx (fun i p => (p.ticket, s!"u{i}")) ++
    s.entries.map (fun e => (e.ticket, e.description)) ++
    s.outputs.mapIdx (fun i p => (p.ticket, s!"y{i}"))
  nodup : c.graph.tickets.Nodup
  /-- what is declared was never stamped, and the trackers from before keep their serials -/
  serials : c.graph.trackers.map (·.serial) =
    c₀.graph.trackers.map (·.serial) ++ s.declarations.map fun _ => 0
  latest : c.graph.latest = c₀.graph.latest
  prerequisites : ∀ k ∈ c.graph.trackers, k.prerequisites.Nodup ∧
    ∀ p, p ∈ k.prerequisites ↔ s.Subscribes k.ticket p
  subscribers : ∀ k ∈ c.graph.trackers, k.subscribers.Nodup ∧
    ∀ t, t ∈ k.subscribers ↔ s.Subscribes t k.ticket
  entries : ∀ k ∈ c.graph.trackers, ∀ i, k.entry = some i ↔
    ∃ e, s.entries[i]? = some e ∧ e.ticket = k.ticket
  cache : c.cache = s.entries.mapIdx fun index e =>
    { index, ticket := e.ticket, description := e.description, value := some e.initial
      computedAt := none, disabled := e.disabledByDefault || !c₀.cachingEnabled, metrics := {} }
  sources : c.sources = (SourceGroup.all.flatMap s.sourcesOf).map fun x => (x.group, x.ticket)
  inputs : c.inputs = s.inputs.map fun p =>
    { name := p.name, ticket := p.ticket, type := p.type, fixed := none }
  outputs : c.outputs = s.outputs.map (·.ticket)

theorem labels_of_fresh (fresh : c₀.IsFresh) :
    (c₀.graph.labels.map fun l => (l.1, l.2.1)) = Graph.builtInTrackers := by
  have labels : (c₀.graph.unstamped.labels.map fun l => (l.1, l.2.1)) =
      c₀.graph.labels.map fun l => (l.1, l.2.1) := by
    simp [Graph.labels, Graph.unstamped, Function.comp_def]
  rw [← labels, fresh.graph]
  rfl

theorem Laid.replayed (h : Laid c₀ s.declarations c) (fresh : c₀.IsFresh) : Replayed c₀ s c where
  trackers := by
    have labels := congrArg (List.map fun l => (l.1, l.2.1)) h.graph.labels
    rw [List.map_append, labels_of_fresh fresh] at labels
    rw [List.map_map, System.map_declarations, ← List.append_assoc, ← List.append_assoc] at labels
    rw [← System.mapIdx_eq_map (fun e : Entry => (e.ticket, e.description))]
    simpa [Graph.labels, Function.comp_def, System.Declaration.label] using labels
  nodup := h.graph.nodup
  serials := by
    have labels := congrArg (List.map (·.2.2)) h.graph.labels
    have zero (d : System.Declaration) : d.label.2.2 = 0 := by cases d <;> rfl
    simpa [Graph.labels, Function.comp_def, zero] using labels
  latest := h.graph.latest
  prerequisites k mem := by
    have ends := h.graph.linked.prerequisites k mem
    exact ⟨ends.1, fun p => (ends.2 p).trans System.subscribes_iff.symm⟩
  subscribers k mem := by
    have ends := h.graph.linked.subscribers k mem
    exact ⟨ends.1, fun t => (ends.2 t).trans System.subscribes_iff.symm⟩
  entries k mem i := (h.graph.entries k mem i).trans System.mem_owners_iff
  cache := by
    rw [h.cache, List.flatMap_def, System.map_declarations]
    simp [System.Declaration.slots, System.flatten_mapIdx_singleton, System.flatten_mapIdx_nil]
  sources := by
    rw [h.sources, List.flatMap_def, System.map_declarations]
    simp [System.Declaration.sources, System.flatten_mapIdx_nil, ← List.flatMap_def,
      ← List.map_eq_flatMap]
  inputs := by
    rw [h.inputs, List.flatMap_def, System.map_declarations]
    simp [System.Declaration.inputs, System.mapIdx_eq_map, ← List.flatMap_def, ← List.map_eq_flatMap]
  outputs := by
    rw [h.outputs, List.flatMap_def, System.map_declarations]
    simp [System.Declaration.outputs, System.mapIdx_eq_map, ← List.flatMap_def, ← List.map_eq_flatMap]

theorem isFresh_fresh {parent : Option ContextId} {cachingEnabled : Bool} :
    (fresh parent cachingEnabled).IsFresh :=
  ⟨show Graph.builtIn.unstamped = Graph.builtIn by decide, rfl, rfl, rfl, rfl⟩

/-- Whatever a system declares, in whatever order: a fresh context that is set up for it without an
error holds exactly that. -/
theorem setUp_replays (fresh : c₀.IsFresh) (made : setUp id s pathname c₀ = .ok u c) :
    Replayed c₀ s c := by
  have r := (laid_setUp fresh made).replayed
    ⟨fresh.graph, fresh.cache, fresh.sources, fresh.inputs, fresh.outputs⟩
  exact ⟨r.trackers, r.nodup, r.serials, r.latest, r.prerequisites, r.subscribers, r.entries, r.cache,
    r.sources, r.inputs, r.outputs⟩

def pendulum : System where
  name := "pendulum"
  typeName := "Pendulum"
  registry := ""
  sources := [⟨.numericParameter, 20, "length"⟩, ⟨.discreteState, 14, "swings"⟩]
  inputs := [{ name := "torque", ticket := 31, type := .vector 1 }]
  outputs := [{ name := "energy", ticket := 17, type := .named "f64", child := none, dependency := 25 },
    { name := "angle", ticket := 18, type := .named "f64", child := some 0, dependency := 13 }]
  entries := [{ ticket := 40, description := "speed", prerequisites := [.continuousState, 31],
                initial := .unit, producer := .finish },
    { ticket := 25, description := "energy", prerequisites := [.allParameters, 20, 40],
      initial := .unit, producer := .finish, disabledByDefault := true }]

theorem setUp_pendulum_replays : (fresh none true).IsFresh ∧ ∃ c,
    setUp 0 pendulum "::pendulum" (fresh none true) = .ok () c ∧
      Replayed (fresh none true) pendulum c :=
  have ⟨_, made⟩ := ok_of_succeeds (f := setUp 0 pendulum "::pendulum") (s := fresh none true)
    (by decide +kernel)
  ⟨isFresh_fresh, _, made, setUp_replays isFresh_fresh made⟩

end Context

end Dataflow
