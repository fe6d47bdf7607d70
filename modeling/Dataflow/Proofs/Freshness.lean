import Dataflow.Proofs.Assembly
import Dataflow.Proofs.Freshness.Session

/-!
# When a cache entry is served from its slot

In whatever session: an entry of a context is served without a run of its producer if and only if its
slot is not disabled and the history of the session leaves its value up to date.
-/

namespace Dataflow

namespace Evaluation

variable {b : Blueprint} {id : SystemId} {c : ContextId} {index : Nat} {r r' : Run} {e : Entry}
  {slot : Slot} {current : Serial} {visits : List Visit}

theorem evaluate_entry (index : Nat) (known : r.tree.systemOf c = some id) : ∃ depth,
    evaluate b id c (.entry index) r = match entryValue b (answer b depth) id c index r with
      | .ok v r' => .ok (some v) r'
      | .error stop r' => .error stop r' := by
  have positive : 0 < r.tree.depthBound := Nat.mul_pos (Nat.succ_pos _) (Nat.succ_pos _)
  obtain ⟨depth, bound⟩ := Nat.exists_eq_add_one.mpr positive
  have valid : validate b r.tree id c = .ok () := by simp [validate, known]
  refine ⟨depth, ?_⟩
  simp only [evaluate, bound, answer, respond, bind_apply, get_apply, Eval.ok_apply, valid]
  cases entryValue b (answer b depth) id c index r <;> rfl

theorem reaches_entry (known : r.tree.systemOf c = some id)
    (declared : (b.system id).entries[index]? = some e)
    (found : slotOf r.tree c index = .ok (slot, current)) :
    Reaches b r id c (.entry index) index e r slot current where
  visits := ⟨by simp [validate, known], .entry, declared⟩
  found := found

theorem Makes.served_iff (h : Makes b id c (.question (.entry index)) r visits)
    (reaches : Reaches b r id c (.entry index) index e r slot current) :
    visits = [⟨(c, index), .served⟩] ↔ ∃ v, slot.fresh? current = some v := by
  have same {i : Nat} {e' : Entry} {r' : Run} {slot' : Slot} {current' : Serial}
      (reaches' : Reaches b r id c (.entry index) i e' r' slot' current') :
      i = index ∧ slot' = slot ∧ current' = current := by
    obtain ⟨⟨-, reads, -⟩, found⟩ := reaches'
    cases reads
    rw [reaches.found] at found
    cases found
    exact ⟨rfl, rfl, rfl⟩
  cases h with
  | alone unreferred unreached => exact (unreached _ _ _ _ _ reaches).elim
  | referred refers later =>
      cases refers.passed with
      | ownInput asked | sibling asked => cases asked
  | served reaches' fresh =>
      obtain ⟨rfl, rfl, rfl⟩ := same reaches'
      exact ⟨fun _ => ⟨_, fresh⟩, fun _ => rfl⟩
  | running reaches' empty =>
      obtain ⟨rfl, rfl, rfl⟩ := same reaches'
      simp [Slot.fresh?, empty]
  | ran reaches' stale value inner ended =>
      obtain ⟨rfl, rfl, rfl⟩ := same reaches'
      simp [stale, List.append_eq_singleton_iff]

/-- The evaluation of an entry returns what its slot holds and counts a hit. It does nothing else; above
all, it runs no producer. -/
def IsServed (b : Blueprint) (r : Run) (id : SystemId) (c : ContextId) (index : Nat) : Prop :=
  ∃ slot current v, slotOf r.tree c index = .ok (slot, current) ∧ slot.value = some v ∧
    evaluate b id c (.entry index) r = .ok (some v) (r.serve c index) ∧
    ∀ visits, Makes b id c (.question (.entry index)) r visits → visits = [⟨(c, index), .served⟩]

theorem isServed_iff_fresh (wf : r.tree.WellFormed) (known : r.tree.systemOf c = some id)
    (declared : (b.system id).entries[index]? = some e)
    (found : slotOf r.tree c index = .ok (slot, current)) :
    IsServed b r id c index ↔ ∃ v, slot.fresh? current = some v := by
  have reaches := reaches_entry (b := b) known declared found
  constructor
  · rintro ⟨-, -, -, -, -, -, only⟩
    obtain ⟨visits, makes⟩ : ∃ visits, Makes b id c (.question (.entry index)) r visits :=
      exists_makes wf
    exact (makes.served_iff reaches).mp (only visits makes)
  · rintro ⟨v, fresh⟩
    obtain ⟨depth, evaluated⟩ := evaluate_entry (b := b) index known
    simp only [entryValue_eq, System.entry, declared, found, fresh] at evaluated
    exact ⟨slot, current, v, found, (Slot.fresh?_eq_some_iff.mp fresh).2.2, evaluated,
      fun visits makes => (makes.served_iff reaches).mpr ⟨v, fresh⟩⟩

end Evaluation

namespace Session
open Evaluation

variable {s : Session} {id : SystemId} {c : ContextId} {index : Nat} {context : Context} {slot : Slot}

theorem isServed_iff_current (wf : s.tree.WellFormed) (serves : s.Serves id c context)
    (foundSlot : context.cache[index]? = some slot) :
    IsServed s.blueprint s.run id c index ↔ slot.disabled = false ∧ s.tree.Current c index := by
  obtain ⟨k, tracked⟩ := Graph.mem_tickets_iff.mp
    ((wf.context serves.found).tracked slot (List.mem_of_getElem? foundSlot))
  have found : slotOf s.tree c index = .ok (slot, k.serial) :=
    slotOf_eq_ok_iff.mpr ⟨context, k, serves.found, foundSlot, tracked, rfl⟩
  have declared := List.getElem?_eq_getElem
    (Nat.lt_of_lt_of_le (List.getElem?_eq_some_iff.mp foundSlot).1 serves.entries)
  have known : s.tree.systemOf c = some id := by
    simp [Tree.systemOf, serves.found, serves.system]
  have current : s.tree.Current c index ↔ slot.computedAt = some k.serial :=
    Tree.current_iff_of_slotOf found
  rw [isServed_iff_fresh wf known declared found, current]
  simp only [Slot.fresh?_eq_some_iff]
  constructor
  · rintro ⟨v, enabled, computedAt, -⟩
    exact ⟨enabled, computedAt⟩
  · rintro ⟨enabled, computedAt⟩
    cases value : slot.value with
    | some v => exact ⟨v, enabled, computedAt, rfl⟩
    | none =>
        have running := (wf.context serves.found).running slot (List.mem_of_getElem? foundSlot) value
        rw [running] at computedAt
        cases computedAt

def Creates (s : Session) (actions : List Action) (id : SystemId) (c : ContextId) : Prop :=
  ∃ before parent after r, actions = before ++ .createContext id parent :: after ∧
    Run.createContext (s.perform before).blueprint id parent (s.perform before).run = .ok c r

theorem Creates.serves {actions : List Action} (wf : s.tree.WellFormed)
    (h : s.Creates actions id c) : ∃ context, (s.perform actions).Serves id c context := by
  obtain ⟨before, parent, after, r, rfl, made⟩ := h
  obtain ⟨context, serves⟩ := serves_of_createContext made
  rw [perform_append]
  exact serves.perform (wellFormed_apply (wellFormed_perform wf before) _) after

/-- Whatever was done in a session, and whatever the producers do: an entry of a context that was
created for a system is served from its slot if and only if caching is not disabled for it and it was
computed at some moment after which nothing has spoiled its value. -/
theorem isServed_iff_upToDate {config : Config} {cells : Cells} {notices : Notices}
    {actions : List Action} (created : (start config cells notices).Creates actions id c)
    (found : ((start config cells notices).perform actions).tree.contexts[c]? = some context)
    (foundSlot : context.cache[index]? = some slot) :
    (∃ history, (start config cells notices).Lives actions history) ∧
      ∀ history, (start config cells notices).Lives actions history →
        (IsServed ((start config cells notices).perform actions).blueprint
            ((start config cells notices).perform actions).run id c index ↔
          slot.disabled = false ∧ UpToDate c index history) := by
  have begun := Reachable.start config cells notices
  obtain ⟨context', serves⟩ := created.serves begun.wellFormed
  obtain rfl := Option.some.inj (found.symm.trans serves.found)
  refine ⟨exists_lives begun.wellFormed actions, fun history lives => ?_⟩
  rw [isServed_iff_current (begun.perform actions).wellFormed serves foundSlot, lives.current_iff]

def refreshed : List Action :=
  [.addSystem "filter" "Filter" "", .declare 0 (.input "in" (.named "()")),
    .declare 0 (.entry "out" .unit (fun v => .ask v (.input 0) fun _ => .finish v) [.allInputs]),
    .createContext 0 none, .evaluate 0 0 (.entry 0), .fixInput 0 0 .unit, .evaluate 0 0 (.entry 0)]

theorem refreshed_isServed : ∃ context slot, (start {} [] {}).Creates refreshed 0 0 ∧
    ((start {} [] {}).perform refreshed).tree.contexts[0]? = some context ∧
    context.cache[0]? = some slot ∧ ∃ history, (start {} [] {}).Lives refreshed history ∧
      (IsServed ((start {} [] {}).perform refreshed).blueprint
          ((start {} [] {}).perform refreshed).run 0 0 0 ↔
        slot.disabled = false ∧ UpToDate 0 0 history) := by
  have created : (start {} [] {}).Creates refreshed 0 0 := by
    obtain ⟨c, made⟩ := ok_of_succeeds
      (f := Run.createContext ((start {} [] {}).perform (refreshed.take 3)).blueprint 0 none)
      (s := ((start {} [] {}).perform (refreshed.take 3)).run) (by decide +kernel)
    have number : ((start {} [] {}).perform (refreshed.take 3)).run.tree.size = 0 := by decide +kernel
    obtain rfl := (Run.createContext_ok made).1.trans number
    exact ⟨refreshed.take 3, none, refreshed.drop 4, _, rfl, made⟩
  have slots : ((start {} [] {}).perform refreshed).tree.contexts[0]?.map (·.cache.length) = some 1 := by
    decide +kernel
  obtain ⟨context, found, one⟩ := Option.map_eq_some_iff.mp slots
  have foundSlot := List.getElem?_eq_getElem (one ▸ Nat.zero_lt_one : 0 < context.cache.length)
  obtain ⟨⟨history, lives⟩, served_iff⟩ := isServed_iff_upToDate created found foundSlot
  exact ⟨context, _, created, found, foundSlot, history, lives, served_iff history lives⟩

end Session

end Dataflow
