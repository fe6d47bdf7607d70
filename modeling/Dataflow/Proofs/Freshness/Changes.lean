import Dataflow.Proofs.Freshness.Current
import Dataflow.Proofs.Freshness.History

namespace Dataflow

def LinkKind.ports : LinkKind → PortKind × PortKind
  | inputToOutput => (.input, .output)
  | inputToInput => (.input, .input)
  | outputToOutput => (.output, .output)

namespace Tree

variable {t t' : Tree} {s : Spread} {l l' p : Location} {c id : ContextId} {i port : Nat}
  {v : Option Value} {func : String}

def portTracker? (t : Tree) (kind : PortKind) (place : PortPlace) : Option Location := do
  let context ← t.contexts[place.context]?
  let ticket ← match kind with
    | .input => context.inputs[place.port]?.map (·.ticket)
    | .output => context.outputs[place.port]?
  return ⟨place.context, ticket⟩

theorem portTracker?_of_input {context : Context} {slot : InputSlot}
    (found : t.contexts[id]? = some context) (listed : context.inputs[port]? = some slot) :
    t.portTracker? .input ⟨id, port⟩ = some ⟨id, slot.ticket⟩ := by
  simp [portTracker?, found, listed]

theorem portTracker?_inputLocation (known : t.inputLocation func id port = .ok l) :
    t.portTracker? .input ⟨id, port⟩ = some l := by
  simp only [inputLocation, bind, Except.bind] at known
  cases listed : t.inputSlot func id port with
  | error e => simp [listed] at known
  | ok slot =>
      simp only [listed, pure, Except.pure, Except.ok.injEq] at known
      obtain ⟨context, found, listed⟩ := inputSlot_eq_ok_iff.mp listed
      exact known ▸ portTracker?_of_input found listed

theorem portTracker?_outputLocation (known : t.outputLocation func id port = .ok l) :
    t.portTracker? .output ⟨id, port⟩ = some l := by
  simp only [outputLocation, bind, Except.bind] at known
  cases found : t.contexts[id]? with
  | none => simp [Tree.context, found] at known
  | some context =>
      rw [context_eq_ok_iff.mpr found] at known
      cases listed : context.outputs[port]? with
      | none => simp [listed, throw, throwThe, MonadExceptOf.throw] at known
      | some ticket =>
          simp only [listed, pure, Except.pure, Except.ok.injEq] at known
          simp [portTracker?, found, listed, known]

theorem isSome_fixed?_of_clearInput {cleared : Option Spread}
    (made : t.clearInput id port = .ok cleared) : (t.fixed? id port).isSome = cleared.isSome := by
  simp only [clearInput, bind, Except.bind] at made
  cases known : t.inputSlot "ClearFixedInputPort" id port with
  | error e => simp [known] at made
  | ok slot =>
      obtain ⟨context, found, listed⟩ := inputSlot_eq_ok_iff.mp known
      have held : t.fixed? id port = slot.fixed := by
        rw [fixed?_of_found found]
        simp [Context.fixed?, listed]
      rw [held]
      simp only [known] at made
      split at made
      · rename_i free
        cases made
        simpa using free
      · rename_i fixed
        cases spread : (t.setFixed id port none).spread ⟨id, slot.ticket⟩ with
        | error e => simp [spread] at made
        | ok s =>
            simp only [spread, pure, Except.pure, Except.ok.injEq] at made
            simpa [← made, Option.isSome_iff_ne_none] using fixed

theorem linkPorts_ends {kind : LinkKind} {subscriber prerequisite : PortPlace}
    (made : t.linkPorts kind subscriber prerequisite = .ok s) :
    ∃ l p, t.portTracker? kind.ports.1 subscriber = some l ∧
      t.portTracker? kind.ports.2 prerequisite = some p ∧ t.subscribe l p = .ok s := by
  cases kind
  all_goals
    simp only [linkPorts, bind, Except.bind] at made
    split at made
    · cases made
    · rename_i l known
      split at made
      · cases made
      · rename_i p known'
        refine ⟨l, p, ?_, ?_, made⟩ <;>
          first
            | exact portTracker?_inputLocation ‹_›
            | exact portTracker?_outputLocation ‹_›

theorem current_spread (wf : t.WellFormed) (made : t.spread l = .ok s) :
    s.tree.Current c i ↔ Settled c i [.changed t l] (t.Current c i) := by
  rw [settled_singleton (by simp), current_stamped wf (stamped_of_noteChange wf (spread_ok made).1)]
  rfl

theorem Feeds.of_graphs (links : t'.links = t.links)
    (graphs : ∀ (id : ContextId) (context : Context), t.contexts[id]? = some context →
      ∃ context' : Context, t'.contexts[id]? = some context' ∧ context'.graph = context.graph)
    (h : t.Feeds l l') : t'.Feeds l l' := by
  cases h with
  | within found subscribed =>
      obtain ⟨context', found', graph⟩ := graphs _ _ found
      exact .within found' (graph ▸ subscribed)
  | across linked => exact .across (links ▸ linked)

theorem current_setFixed : (t.setFixed id port v).Current c i ↔ t.Current c i :=
  current_modifyContext_of_iff fun _ _ => .rfl

theorem reaches_setFixed : (t.setFixed id port v).Reaches = t.Reaches := by
  have feeds {l l' : Location} : (t.setFixed id port v).Feeds l l' ↔ t.Feeds l l' := by
    constructor
    · refine .of_graphs rfl fun c context found => ?_
      simp only [setFixed, contexts_modifyContext] at found
      split at found
      · obtain ⟨context', found', rfl⟩ := Option.map_eq_some_iff.mp found
        exact ⟨context', found', rfl⟩
      · exact ⟨context, found, rfl⟩
    · refine .of_graphs rfl fun c context found => ?_
      simp only [setFixed, contexts_modifyContext, found]
      split
      · exact ⟨_, rfl, rfl⟩
      · exact ⟨context, rfl, rfl⟩
  exact congrArg Relation.ReflTransGen (funext fun l => funext fun l' => propext feeds)

theorem spoils_setFixed :
    (Moment.changed (t.setFixed id port v) l).Spoils c i ↔ (Moment.changed t l).Spoils c i := by
  simp only [Moment.Spoils, reaches_setFixed]
  simp only [setFixed, contexts_modifyContext]
  by_cases same : id = c
  · cases t.contexts[c]? <;> simp [same]
  · simp [same]

theorem current_spread_setFixed (wf : t.WellFormed)
    (made : (t.setFixed id port v).spread l = .ok s) :
    s.tree.Current c i ↔ Settled c i [.changed t l] (t.Current c i) := by
  rw [current_spread (wf.setFixed v) made, settled_singleton (by simp), settled_singleton (by simp),
    current_setFixed, spoils_setFixed]

theorem current_subscribe (wf : t.WellFormed) (made : t.subscribe l p = .ok s) :
    s.tree.Current c i ↔ Settled c i [.changed (t.linked l p) l] (t.Current c i) := by
  obtain ⟨known, known', spread⟩ := subscribe_ok made
  exact current_spread (wf.linked known known') spread

end Tree

end Dataflow
