import Dataflow.Proofs.AllOrNothing
import Dataflow.Proofs.Replay.Chains
import Dataflow.Proofs.Transparency.Operations

/-!
# What a change of a source makes of the cache entries of its context

In a context that no link leads into, only changes that are made in the context itself reach its cache
entries, and they reach those that name the source or one of the aggregates above it.
-/

namespace Dataflow

namespace System

variable {s : System}

theorem mem_declarations_of_source {x : Source} (mem : x ∈ s.sources) :
    .source x ∈ s.declarations := mem_declarations_iff.mpr (.inl ⟨x, mem, rfl⟩)

theorem mem_declarations_of_input {p : Port} (mem : p ∈ s.inputs) :
    ∃ i, .input i p ∈ s.declarations := by
  obtain ⟨i, found⟩ := List.mem_iff_getElem?.mp mem
  exact ⟨i, mem_declarations_iff.mpr (.inr (.inl ⟨i, p, found, rfl⟩))⟩

end System

namespace Context

variable {c c' : Context} {s : System} {t : Ticket} {d : System.Declaration} {e : Entry} {i : Nat}

def Mirrors (c : Context) (s : System) : Prop := ∃ c₀ laid : Context,
  c₀.IsFresh ∧ Laid c₀ s.declarations laid ∧ laid.isSetUp = true ∧ c.skeleton = laid.skeleton

theorem Mirrors.of_skeleton (h : c.Mirrors s) (same : c'.skeleton = c.skeleton) : c'.Mirrors s := by
  obtain ⟨c₀, laid, fresh, replayed, ready, same'⟩ := h
  exact ⟨c₀, laid, fresh, replayed, ready, same.trans same'⟩

theorem Mirrors.isSetUp (h : c.Mirrors s) : c.isSetUp = true := by
  obtain ⟨c₀, laid, -, -, ready, same⟩ := h
  exact (isSetUp_of_skeleton same).trans ready

theorem Mirrors.slot (h : c.Mirrors s) (declared : s.entries[i]? = some e) :
    ∃ slot, c.cache[i]? = some slot ∧ slot.ticket = e.ticket := by
  obtain ⟨c₀, laid, fresh, replayed, -, same⟩ := h
  have tickets := congrArg (fun c : Context => (c.cache.map (·.ticket))[i]?) same
  simp only [skeleton, List.map_map, (replayed.replayed fresh).cache] at tickets
  simpa [declared, Function.comp_def, Slot.skeleton, Slot.outline] using tickets

theorem Mirrors.port (h : c.Mirrors s) (port : Nat) :
    c.inputs[port]?.map (fun slot => (slot.ticket, slot.type)) =
      s.inputs[port]?.map fun p => (p.ticket, p.type) := by
  obtain ⟨c₀, laid, fresh, replayed, -, same⟩ := h
  have ports := congrArg
    (fun c : Context => (c.inputs.map fun slot => (slot.ticket, slot.type))[port]?) same
  simp only [skeleton, List.map_map, (replayed.replayed fresh).inputs] at ports
  simpa [Function.comp_def, InputSlot.skeleton] using ports

theorem Mirrors.reaches_iff (h : c.Mirrors s) (declared : e ∈ s.entries) :
    c.graph.Reaches t e.ticket ↔ s.Affects t e := by
  obtain ⟨c₀, laid, fresh, replayed, -, same⟩ := h
  have graph : c.graph.unstamped = laid.graph.unstamped := congrArg (·.graph) same
  rw [Graph.reaches_congr graph, replayed.reaches_entry_iff fresh declared]

theorem Mirrors.mem_tickets (h : c.Mirrors s)
    (known : t.isBuiltIn = true ∨ ∃ d ∈ s.declarations, d.ticket = t) : t ∈ c.graph.tickets := by
  obtain ⟨c₀, laid, fresh, replayed, -, same⟩ := h
  have graph : c.graph.unstamped = laid.graph.unstamped := congrArg (·.graph) same
  rw [Graph.tickets_congr graph, replayed.tickets, fresh.tickets, List.mem_append]
  refine known.imp (fun builtIn => ?_) List.mem_map.mpr
  have all : ∀ t ∈ List.range Ticket.firstAssignable, t ∈ Graph.builtIn.tickets := by decide
  exact all t (List.mem_range.mpr (of_decide_eq_true builtIn))

theorem Mirrors.affects_source {x : Source} (h : c.Mirrors s) (mem : x ∈ s.sources)
    (declared : e ∈ s.entries) :
    s.Affects x.ticket e ↔ ∃ u ∈ x.ticket :: x.group.aggregates, s.Names e u := by
  obtain ⟨c₀, laid, fresh, replayed, -⟩ := h
  exact replayed.affects_iff fresh (System.mem_declarations_of_source mem) rfl declared

theorem Mirrors.affects_input {p : Port} (h : c.Mirrors s) (mem : p ∈ s.inputs)
    (declared : e ∈ s.entries) : s.Affects p.ticket e ↔
      s.Names e p.ticket ∨ s.Names e .allInputs ∨ s.Names e .allSources := by
  obtain ⟨c₀, laid, fresh, replayed, -⟩ := h
  obtain ⟨j, listed⟩ := System.mem_declarations_of_input mem
  have affects := replayed.affects_iff fresh listed rfl declared
  simpa [System.Declaration.ticket, System.Declaration.label, System.Declaration.aggregates] using affects

end Context

namespace Tree

variable {t t' : Tree} {c id : ContextId} {context : Context} {s : System} {e : Entry} {i port : Nat}
  {l : Location} {u : Ticket} {sp : Spread}

theorem reaches_into_iff (found : t.contexts[c]? = some context)
    (closed : ∀ link ∈ t.links, link.subscriber.context ≠ c) :
    t.Reaches l ⟨c, u⟩ ↔ l.context = c ∧ context.graph.Reaches l.ticket u := by
  constructor
  · intro path
    generalize target : Location.mk c u = l' at path
    induction path generalizing u with
    | refl => exact target ▸ ⟨rfl, .refl⟩
    | tail _ step ih =>
        cases step with
        | within found' subscribed =>
            obtain ⟨rfl, rfl⟩ := Location.mk.inj target
            obtain rfl := Option.some.inj (found.symm.trans found')
            exact (ih rfl).imp_right (·.tail subscribed)
        | across linked => exact absurd (congrArg Location.context target).symm (closed _ linked)
  · rintro ⟨rfl, path⟩
    exact reaches_within found path

structure Secludes (t : Tree) (c : ContextId) (s : System) : Prop where
  mirrors : ∃ context, t.contexts[c]? = some context ∧ context.Mirrors s
  closed : ∀ link ∈ t.links, link.subscriber.context ≠ c

theorem Secludes.reaches_iff (h : t.Secludes c s) (declared : e ∈ s.entries) :
    t.Reaches l ⟨c, e.ticket⟩ ↔ l.context = c ∧ s.Affects l.ticket e := by
  obtain ⟨context, found, mirrors⟩ := h.mirrors
  rw [reaches_into_iff found h.closed, mirrors.reaches_iff declared]

theorem Secludes.current_spread (h : t.Secludes c s) (wf : t.WellFormed)
    (declared : s.entries[i]? = some e) (made : t.spread l = .ok sp) :
    sp.tree.Current c i ↔ t.Current c i ∧ ¬ (l.context = c ∧ s.Affects l.ticket e) := by
  obtain ⟨context, found, mirrors⟩ := h.mirrors
  obtain ⟨slot, foundSlot, ticket⟩ := mirrors.slot declared
  rw [current_stamped wf (stamped_of_noteChange wf (spread_ok made).1),
    ← h.reaches_iff (List.mem_of_getElem? declared)]
  simp [found, foundSlot, ticket]

theorem Secludes.setFixed {v : Option Value} (h : t.Secludes c s) :
    (t.setFixed id port v).Secludes c s := by
  obtain ⟨context, found, mirrors⟩ := h.mirrors
  obtain ⟨context', found', rests⟩ := rests_setFixed.contexts c context found
  exact ⟨⟨context', found', mirrors.of_skeleton rests.skeleton⟩, h.closed⟩

theorem Secludes.current_fixed {v : Option Value} {slot : InputSlot} (h : t.Secludes c s)
    (wf : t.WellFormed) (declared : s.entries[i]? = some e)
    (made : (t.setFixed id port v).spread ⟨id, slot.ticket⟩ = .ok sp) :
    sp.tree.Current c i ↔ t.Current c i ∧ ¬ (id = c ∧ s.Affects slot.ticket e) := by
  rw [h.setFixed.current_spread (wf.setFixed v) declared made, current_setFixed]

theorem Secludes.spread_ok (h : t.Secludes c s) (wf : t.WellFormed)
    (known : u.isBuiltIn = true ∨ ∃ d ∈ s.declarations, d.ticket = u) :
    ∃ sp, t.spread ⟨c, u⟩ = .ok sp := by
  obtain ⟨context, found, mirrors⟩ := h.mirrors
  obtain ⟨sp, made, -⟩ := spreadInPlace wf (l := ⟨c, u⟩) ⟨context, found, mirrors.mem_tickets known⟩
  exact ⟨sp, made⟩

theorem Secludes.port_of_slot {slot : InputSlot} (h : t.Secludes c s)
    (found : t.contexts[c]? = some context) (listed : context.inputs[port]? = some slot) :
    ∃ p ∈ s.inputs, slot.ticket = p.ticket := by
  obtain ⟨context', found', mirrors⟩ := h.mirrors
  obtain rfl := Option.some.inj (found.symm.trans found')
  have same := mirrors.port port
  rw [listed, Option.map_some] at same
  obtain ⟨p, declared, both⟩ := Option.map_eq_some_iff.mp same.symm
  exact ⟨p, List.mem_of_getElem? declared, (Prod.mk.inj both).1.symm⟩

theorem Secludes.inputSlot_ok {p : Port} (h : t.Secludes c s) (declared : s.inputs[port]? = some p)
    (func : String) : ∃ slot, t.inputSlot func c port = .ok slot ∧ slot.ticket = p.ticket ∧
      slot.type = p.type := by
  obtain ⟨context, found, mirrors⟩ := h.mirrors
  have same := mirrors.port port
  rw [declared, Option.map_some] at same
  obtain ⟨slot, listed, both⟩ := Option.map_eq_some_iff.mp same
  obtain ⟨ticket, type⟩ := Prod.mk.inj both
  exact ⟨slot, inputSlot_eq_ok_iff.mpr ⟨context, found, listed⟩, ticket, type⟩

theorem exists_slot_of_fixed (fixed : (t.fixed? c port).isSome = true) : ∃ context slot,
    t.contexts[c]? = some context ∧ context.inputs[port]? = some slot ∧ slot.fixed.isSome = true := by
  obtain ⟨v, held⟩ := Option.isSome_iff_exists.mp fixed
  obtain ⟨context, found, held⟩ := Option.bind_eq_some_iff.mp held
  obtain ⟨slot, listed, held⟩ := Option.bind_eq_some_iff.mp held
  exact ⟨context, slot, found, listed, Option.isSome_of_eq_some held⟩

end Tree

namespace Run

variable {r : Run} {c id : ContextId} {d : System} {e : Entry} {i port : Nat} {t : Ticket} {p : Port}
  {v : Value}

theorem noteChange_affects (h : r.tree.Secludes c d) (wf : r.tree.WellFormed)
    (declared : d.entries[i]? = some e)
    (known : t.isBuiltIn = true ∨ ∃ x ∈ d.declarations, x.ticket = t) :
    ∃ n r', noteChange ⟨c, t⟩ r = .ok n r' ∧
      (r'.tree.Current c i ↔ r.tree.Current c i ∧ ¬ d.Affects t e) := by
  obtain ⟨sp, made⟩ := h.spread_ok wf known
  refine ⟨sp.touched, r.after sp, ?_, ?_⟩
  · simp only [noteChange, bind_apply, spread, made]
    rfl
  · have current := h.current_spread wf declared made
    rwa [eq_self, true_and] at current

theorem fixInput_affects (h : r.tree.Secludes c d) (wf : r.tree.WellFormed)
    (furnished : r.tree.Furnished) (declared : d.entries[i]? = some e)
    (listed : d.inputs[port]? = some p) (fits : p.type.mismatch v = none) :
    ∃ r', fixInput c port v r = .ok () r' ∧
      (r'.tree.Current c i ↔ r.tree.Current c i ∧ ¬ d.Affects p.ticket e) := by
  obtain ⟨slot, known, ticket, type⟩ := h.inputSlot_ok listed "FixInputPort"
  obtain ⟨sp, spread, -⟩ := furnished.spread_setFixed wf known (some v)
  have made : r.tree.fixInput c port v = .ok sp := by
    simp [Tree.fixInput, known, bind, Except.bind, type, fits, spread]
  refine ⟨r.after sp, ?_, ?_⟩
  · rw [fixInput, Operation.discard_spread, made]
  · have current := h.current_fixed wf declared spread
    rwa [eq_self, true_and, ticket] at current

theorem clearInput_affects (h : r.tree.Secludes c d) (wf : r.tree.WellFormed)
    (furnished : r.tree.Furnished) (declared : d.entries[i]? = some e)
    (fixed : (r.tree.fixed? c port).isSome = true) :
    ∃ p ∈ d.inputs, ∃ r', clearInput c port r = .ok () r' ∧
      (r'.tree.Current c i ↔ r.tree.Current c i ∧ ¬ d.Affects p.ticket e) := by
  obtain ⟨context, slot, found, listed, held⟩ := Tree.exists_slot_of_fixed fixed
  obtain ⟨p, mem, ticket⟩ := h.port_of_slot found listed
  have known : r.tree.inputSlot "ClearFixedInputPort" c port = .ok slot :=
    Tree.inputSlot_eq_ok_iff.mpr ⟨context, found, listed⟩
  obtain ⟨sp, spread, -⟩ := furnished.spread_setFixed wf known none
  have made : r.tree.clearInput c port = .ok (some sp) := by
    simp [Tree.clearInput, known, bind, Except.bind, Option.isSome_iff_ne_none.mp held, spread, pure,
      Except.pure]
  refine ⟨p, mem, r.after sp, ?_, ?_⟩
  · simp only [clearInput, made]
  · have current := h.current_fixed wf declared spread
    rwa [eq_self, true_and, ticket] at current

theorem current_of_unaffected (h : r.tree.Secludes c d) (wf : r.tree.WellFormed)
    (declared : d.entries[i]? = some e) (unaffected : ∀ p ∈ d.inputs, ¬ d.Affects p.ticket e) :
    ((stateAfter (fixInput id port v) r).tree.Current c i ↔ r.tree.Current c i) ∧
      ((stateAfter (clearInput id port) r).tree.Current c i ↔ r.tree.Current c i) := by
  have apart {slot : InputSlot} {context : Context} {held : Option Value} {sp : Spread}
      (found : r.tree.contexts[id]? = some context) (listed : context.inputs[port]? = some slot)
      (made : (r.tree.setFixed id port held).spread ⟨id, slot.ticket⟩ = .ok sp) :
      sp.tree.Current c i ↔ r.tree.Current c i := by
    rw [h.current_fixed wf declared made, and_iff_left_iff_imp]
    rintro - ⟨rfl, affects⟩
    obtain ⟨p, mem, ticket⟩ := h.port_of_slot found listed
    exact unaffected p mem (ticket ▸ affects)
  let same (r' : Run) : Prop := r'.tree.Current c i ↔ r.tree.Current c i
  constructor
  · rw [fixInput, stateAfter_discard]
    refine stateAfter_spread (P := same) ?_ .rfl
    intro sp made
    obtain ⟨context, slot, found, listed, -, spread⟩ := Tree.fixInput_ok made
    exact apart found listed spread
  · refine stateAfter_clearInput (P := same) ?_ .rfl
    intro sp made
    obtain ⟨context, slot, found, listed, spread⟩ := Tree.clearInput_ok made
    exact apart found listed spread

end Run

namespace Session

variable {s : Session} {c : ContextId} {d : System} {e : Entry} {i : Nat} {t : Ticket}
  {actions : List Action} {context : Context}

/-- Among the actions, the context `c` was successfully created for a system that had declared `d` by
then. -/
def CreatesFor (s : Session) (actions : List Action) (d : System) (c : ContextId) : Prop :=
  ∃ before id parent after r, actions = before ++ .createContext id parent :: after ∧
    Run.createContext (s.perform before).blueprint id parent (s.perform before).run = .ok c r ∧
    (s.perform before).blueprint.system id = d

theorem mirrors_perform (wf : s.tree.WellFormed) (found : s.tree.contexts[c]? = some context)
    (mirrors : context.Mirrors d) (actions : List Action) :
    ∃ context', (s.perform actions).tree.contexts[c]? = some context' ∧ context'.Mirrors d := by
  induction actions generalizing s context with
  | nil => exact ⟨context, found, mirrors⟩
  | cons a rest ih =>
      obtain ⟨wf, retains⟩ := safe_apply a wf
      obtain ⟨context', found', same⟩ := retains c context found
      exact ih wf found' (mirrors.of_skeleton (same mirrors.isSetUp))

theorem CreatesFor.mirrors (wf : s.tree.WellFormed) (h : s.CreatesFor actions d c) :
    ∃ context, (s.perform actions).tree.contexts[c]? = some context ∧ context.Mirrors d := by
  obtain ⟨before, id, parent, after, r, rfl, made, rfl⟩ := h
  obtain ⟨c₀, context, fresh, found, ready, -, laid⟩ := Run.laid_of_createContext made
  have tree : ((s.perform before).apply (.createContext id parent)).tree = r.tree :=
    congrArg Run.tree (stateAfter_ok made)
  rw [perform_append]
  exact mirrors_perform (wellFormed_apply (wellFormed_perform wf before) _)
    (tree ▸ found) ⟨c₀, context, fresh, laid, ready, rfl⟩ after

/-- What changes of the sources and input ports of the context `c` make of its `i`-th slot, which is
that of the entry `e` of the system `d`. -/
structure ByCategory (s : Session) (d : System) (c : ContextId) (i : Nat) (e : Entry) : Prop where
  noted : d.Names e .allSources → ∀ t : Ticket, (t.isBuiltIn = true ∧ t ≠ .nothing ∨
      (∃ x ∈ d.sources, x.ticket = t) ∨ ∃ p ∈ d.inputs, p.ticket = t) →
    ∃ n r, Run.noteChange ⟨c, t⟩ s.run = .ok n r ∧ ¬ r.tree.Current c i
  fixed : d.Names e .allSources → ∀ port p v, d.inputs[port]? = some p → p.type.mismatch v = none →
    ∃ r, Run.fixInput c port v s.run = .ok () r ∧ ¬ r.tree.Current c i
  cleared : d.Names e .allSources → ∀ port, (s.tree.fixed? c port).isSome = true →
    ∃ r, Run.clearInput c port s.run = .ok () r ∧ ¬ r.tree.Current c i
  apart : (∀ p ∈ d.inputs, ¬ d.Names e p.ticket) → ¬ d.Names e .allInputs →
    ¬ d.Names e .allSources → ∀ id port v,
      ((s.apply (.fixInput id port v)).tree.Current c i ↔ s.tree.Current c i) ∧
      ((s.apply (.clearInput id port)).tree.Current c i ↔ s.tree.Current c i)
  source : ∀ x ∈ d.sources, ∃ n r, Run.noteChange ⟨c, x.ticket⟩ s.run = .ok n r ∧
    (r.tree.Current c i ↔ s.tree.Current c i ∧ ∀ t ∈ x.ticket :: x.group.aggregates, ¬ d.Names e t)

section

variable (reachable : s.Reachable) (found : s.tree.contexts[c]? = some context)
  (mirrors : context.Mirrors d) (closed : ∀ link ∈ s.tree.links, link.subscriber.context ≠ c)
  (declared : d.entries[i]? = some e)
include reachable found mirrors closed declared

theorem noteChange_current (known : t.isBuiltIn = true ∨ ∃ x ∈ d.declarations, x.ticket = t) :
    ∃ n r, Run.noteChange ⟨c, t⟩ s.run = .ok n r ∧
      (r.tree.Current c i ↔ s.tree.Current c i ∧ ¬ d.Affects t e) :=
  Run.noteChange_affects ⟨⟨context, found, mirrors⟩, closed⟩ reachable.wellFormed declared known

theorem noted_of_allSources (all : d.Names e .allSources)
    (which : t.isBuiltIn = true ∧ t ≠ .nothing ∨
      (∃ x ∈ d.sources, x.ticket = t) ∨ ∃ p ∈ d.inputs, p.ticket = t) :
    ∃ n r, Run.noteChange ⟨c, t⟩ s.run = .ok n r ∧ ¬ r.tree.Current c i := by
  have mem := List.mem_of_getElem? declared
  have change (known : t.isBuiltIn = true ∨ ∃ x ∈ d.declarations, x.ticket = t)
      (affects : d.Affects t e) :
      ∃ n r, Run.noteChange ⟨c, t⟩ s.run = .ok n r ∧ ¬ r.tree.Current c i := by
    obtain ⟨n, r, noted, current⟩ := noteChange_current reachable found mirrors closed declared known
    exact ⟨n, r, noted, fun still => (current.mp still).2 affects⟩
  rcases which with ⟨builtIn, other⟩ | ⟨x, listed, rfl⟩ | ⟨p, listed, rfl⟩
  · exact change (.inl builtIn) (.inr ⟨_, System.gathers_allSources builtIn other, all⟩)
  · refine change (.inr ⟨_, System.mem_declarations_of_source listed, rfl⟩) ?_
    refine (mirrors.affects_source listed mem).mpr ⟨.allSources, List.mem_cons_of_mem _ ?_, all⟩
    cases x.group <;> decide
  · obtain ⟨j, declared⟩ := System.mem_declarations_of_input listed
    exact change (.inr ⟨_, declared, rfl⟩)
      ((mirrors.affects_input listed mem).mpr (.inr (.inr all)))

theorem byCategory : s.ByCategory d c i e := by
  have mem := List.mem_of_getElem? declared
  have secludes : s.run.tree.Secludes c d := ⟨⟨context, found, mirrors⟩, closed⟩
  have wf := reachable.wellFormed
  have furnished := reachable.furnished
  constructor
  · intro all t which
    exact noted_of_allSources reachable found mirrors closed declared all which
  · intro all port p v listed fits
    have affects := (mirrors.affects_input (List.mem_of_getElem? listed) mem).mpr (.inr (.inr all))
    obtain ⟨r, fixed, current⟩ := Run.fixInput_affects secludes wf furnished declared listed fits
    exact ⟨r, fixed, fun still => (current.mp still).2 affects⟩
  · intro all port fixed
    obtain ⟨p, listed, r, cleared, current⟩ :=
      Run.clearInput_affects secludes wf furnished declared fixed
    have affects := (mirrors.affects_input listed mem).mpr (.inr (.inr all))
    exact ⟨r, cleared, fun still => (current.mp still).2 affects⟩
  · intro ports inputs sources id port v
    refine Run.current_of_unaffected secludes wf declared fun p listed affects => ?_
    rcases (mirrors.affects_input listed mem).mp affects with named | named | named
    · exact ports p listed named
    · exact inputs named
    · exact sources named
  · intro x listed
    obtain ⟨n, r, noted, current⟩ := noteChange_current reachable found mirrors closed declared
      (.inr ⟨_, System.mem_declarations_of_source listed, rfl⟩)
    refine ⟨n, r, noted, current.trans (and_congr_right fun _ => ?_)⟩
    rw [System.Declaration.ticket, System.Declaration.label, mirrors.affects_source listed mem]
    simp only [not_exists, not_and]

end

/-- In a context that was created for a system, and that no link leads into. -/
theorem current_by_category {config : Config} {cells : Cells} {notices : Notices}
    (created : (start config cells notices).CreatesFor actions d c)
    (closed : ∀ link ∈ ((start config cells notices).perform actions).tree.links,
      link.subscriber.context ≠ c) (declared : d.entries[i]? = some e) :
    ((start config cells notices).perform actions).ByCategory d c i e := by
  have reachable := Reachable.start config cells notices
  obtain ⟨context, found, mirrors⟩ := created.mirrors reachable.wellFormed
  exact byCategory (reachable.perform actions) found mirrors closed declared

def gauge : List Action :=
  [.addSystem "gauge" "Gauge" "", .declare 0 (.source .numericParameter "gain"),
    .declare 0 (.input "level" (.vector 1)), .declare 0 (.entry "raw" .unit .finish [.allSources]),
    .declare 0 (.entry "shown" .unit .finish [15]), .createContext 0 none]

theorem gauge_by_category : ∃ d e, (start {} [] {}).CreatesFor gauge d 0 ∧
    (∀ link ∈ ((start {} [] {}).perform gauge).tree.links, link.subscriber.context ≠ 0) ∧
    d.entries[1]? = some e ∧ d.Names e .allSources ∧
    ((start {} [] {}).perform gauge).ByCategory d 0 1 e := by
  let before := (start {} [] {}).perform (gauge.take 5)
  have created : (start {} [] {}).CreatesFor gauge (before.blueprint.system 0) 0 := by
    obtain ⟨c, made⟩ := ok_of_succeeds (f := Run.createContext before.blueprint 0 none)
      (s := before.run) (by decide +kernel)
    have number : before.run.tree.size = 0 := by decide +kernel
    obtain rfl := (Run.createContext_ok made).1.trans number
    exact ⟨gauge.take 5, 0, none, [], _, rfl, made, rfl⟩
  have closed : ∀ link ∈ ((start {} [] {}).perform gauge).tree.links, link.subscriber.context ≠ 0 := by
    decide +kernel
  have entries : (before.blueprint.system 0).entries.map (fun e => (e.ticket, e.prerequisites)) =
      [(15, [.allSources]), (16, [15])] := by decide +kernel
  obtain ⟨raw, rest, split, first, tail⟩ := List.map_eq_cons_iff.mp entries
  obtain ⟨shown, rest, rfl, second, -⟩ := List.map_eq_cons_iff.mp tail
  have declared : (before.blueprint.system 0).entries[1]? = some shown := by rw [split]; rfl
  have names : (before.blueprint.system 0).Names shown .allSources := by
    have listed : raw ∈ (before.blueprint.system 0).entries := split ▸ List.mem_cons_self
    refine .through listed ?_ (.directly ?_)
    · rw [(Prod.mk.inj second).2, (Prod.mk.inj first).1]
      exact List.mem_singleton_self _
    · rw [(Prod.mk.inj first).2]
      exact List.mem_singleton_self _
  exact ⟨_, shown, created, closed, declared, names, current_by_category created closed declared⟩

end Session

end Dataflow
