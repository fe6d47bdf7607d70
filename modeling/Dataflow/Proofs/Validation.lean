import Dataflow.Proofs.Origin
import Dataflow.Proofs.Replay.Outcome

/-!
# Which system a context is valid for

A context takes the name of a system at the beginning of its set-up, so that it is valid for the
system of the last attempt, whether or not that attempt succeeded.
-/

namespace Dataflow

namespace System

def owners (s : System) : List (Nat × Ticket) := s.entries.mapIdx fun i e => (i, e.ticket)

theorem owners_declarations (s : System) :
    s.declarations.flatMap Declaration.owners = s.owners := by
  rw [List.flatMap_def, map_declarations]
  simp [Declaration.owners, owners, flatten_mapIdx_singleton, flatten_mapIdx_nil]

end System

namespace Context

variable {c c' held now : Context} {d : System.Declaration} {id : SystemId} {s : System}
  {pathname : String} {e : Error} {u : Unit}

def owners (c : Context) : List (Nat × Ticket) := c.cache.map fun slot => (slot.index, slot.ticket)

theorem length_owners : c.owners.length = c.cache.length := List.length_map ..

theorem owners_of_skeleton (same : c'.skeleton = c.skeleton) : c'.owners = c.owners := by
  have forget (c : Context) : c.skeleton.owners = c.owners := by
    simp only [owners, skeleton, List.map_map]
    rfl
  rw [← forget c', same, forget c]

theorem system_of_skeleton (same : c'.skeleton = c.skeleton) : c'.system = c.system := by
  have systems := congrArg Context.system same
  exact systems

theorem setUp_eq (unready : held.isSetUp = false) : setUp id s pathname held =
    match s.declarations.forM replay { held with systemName := s.name, system := some id } with
    | .ok _ c => .ok () { c with isSetUp := true }
    | .error e c => .error e c := by
  have opened : setUp id s pathname held = (s.declarations.forM replay >>= fun _ =>
      modify ({ · with isSetUp := true })) { held with systemName := s.name, system := some id } := by
    have unready : ¬ held.isSetUp = true := by simp [unready]
    simp only [setUp, bind_apply, get_apply, if_neg unready]
    rfl
  rw [opened, bind_apply]
  cases s.declarations.forM replay _ <;> rfl

theorem owners_replay (made : replay d c = .ok u c') : c'.owners = c.owners ++ d.owners ∧
    ∀ owner ∈ d.owners, owner.1 = c.cache.length := by
  have cache := cache_replay made
  cases d with
  | entry index x =>
      refine ⟨by simp [owners, cache, System.Declaration.slots, System.Declaration.owners], ?_⟩
      intro owner mem
      obtain rfl := List.mem_singleton.mp mem
      obtain ⟨⟨⟩, c₁, furnished, -⟩ := bind_eq_ok_iff.mp made
      obtain ⟨s, furnish, -⟩ := onStore_eq_ok_iff.mp furnished
      exact (Store.cache_addEntry furnish).1
  | _ =>
      simp only [System.Declaration.owners, List.not_mem_nil, false_implies, implies_true, and_true]
      simp [owners, cache, System.Declaration.slots]

theorem owners_forM_replay {declarations : List System.Declaration}
    (made : declarations.forM replay c = .ok u c') :
    c'.owners = c.owners ++ declarations.flatMap System.Declaration.owners ∧
      ∀ owner ∈ declarations.flatMap System.Declaration.owners, c.cache.length ≤ owner.1 := by
  refine forM_ok (I := fun done c' => c'.owners = c.owners ++ done.flatMap System.Declaration.owners ∧
    ∀ owner ∈ done.flatMap System.Declaration.owners, c.cache.length ≤ owner.1)
    (by simp) (fun done d c₁ c₂ sofar made => ?_) made
  obtain ⟨owners, numbered⟩ := owners_replay made
  have length : c.cache.length ≤ c₁.cache.length := by
    rw [← length_owners, ← length_owners, sofar.1, List.length_append]
    exact Nat.le_add_right _ _
  refine ⟨by simp [owners, sofar.1], ?_⟩
  rw [List.flatMap_append, List.forall_mem_append]
  refine ⟨sofar.2, fun owner mem => ?_⟩
  rw [numbered owner (by simpa using mem)]
  exact length

/-- What an attempt to set up a context for a system, which found it as `held`, has made of it. -/
inductive Tried (id : SystemId) (s : System) (pathname : String) (held now : Context) : Prop
  | ready (succeeds : succeeds (setUp id s pathname) held = true) (isSetUp : now.isSetUp = true)
      (owners : now.owners = held.owners ++ s.owners) (bare : held.cache = [] ∨ s.entries = [])
  | unready (fails : succeeds (setUp id s pathname) held = false) (isSetUp : now.isSetUp = false)

theorem tried_of_setUp (unready : held.isSetUp = false)
    (same : now.skeleton = (stateAfter (setUp id s pathname) held).skeleton) :
    now.system = some id ∧ Tried id s pathname held now := by
  rw [system_of_skeleton same]
  have laid := lays_forM_replay s.declarations { held with systemName := s.name, system := some id }
  have eq : setUp id s pathname held = _ := setUp_eq unready
  cases result : s.declarations.forM replay { held with systemName := s.name, system := some id } with
  | error e c =>
      rw [KeepsAt, stateAfter_error result] at laid
      rw [result] at eq
      rw [stateAfter_error eq] at same ⊢
      exact ⟨laid.system, .unready (by simp [succeeds, eq])
        ((isSetUp_of_skeleton same).trans (laid.isSetUp.trans unready))⟩
  | ok u c =>
      rw [KeepsAt, stateAfter_ok result] at laid
      rw [result] at eq
      rw [stateAfter_ok eq] at same ⊢
      obtain ⟨owners, numbered⟩ := owners_forM_replay result
      rw [System.owners_declarations] at owners numbered
      refine ⟨laid.system, .ready (by simp [succeeds, eq]) (isSetUp_of_skeleton same)
        ((owners_of_skeleton same).trans owners) ?_⟩
      cases entries : s.entries with
      | nil => exact .inr rfl
      | cons x rest =>
          have first := numbered (0, x.ticket) (by simp [System.owners, entries])
          exact .inl (List.length_eq_zero_iff.mp (Nat.le_zero.mp first))

end Context

theorem validate_eq_ok_iff {b : Blueprint} {t : Tree} {id : SystemId} {c : ContextId} :
    validate b t id c = .ok () ↔ ∃ now, t.contexts[c]? = some now ∧ now.system = some id := by
  rw [validate, Tree.systemOf]
  cases t.contexts[c]? with
  | none => simp
  | some now =>
      cases system : now.system with
      | none => simp [system]
      | some claimed => by_cases own : claimed = id <;> simp [system, own]

namespace Session

variable {s : Session} {id : SystemId} {c : ContextId} {held now : Context} {a : Action}
  {earlier actions first later : List Action}

def Spares (c : ContextId) : Session → List Action → Prop
  | _, [] => True
  | s, a :: rest => (∀ id held, ¬ s.Attempts id c held a) ∧ Spares c (s.apply a) rest

theorem spares_append :
    Spares c s (first ++ later) ↔ Spares c s first ∧ Spares c (s.perform first) later := by
  induction first generalizing s with
  | nil => simp [Spares, perform]
  | cons a rest ih => simp only [List.cons_append, Spares, ih, and_assoc, perform, List.foldl_cons]

theorem Spares.rests (wf : s.tree.WellFormed) (spared : Spares c s actions)
    (found : s.tree.contexts[c]? = some held) :
    ∃ now, (s.perform actions).tree.contexts[c]? = some now ∧ held.Rests now := by
  induction actions generalizing s held with
  | nil => exact ⟨held, found, .refl held⟩
  | cons a rest ih =>
      obtain ⟨next, found', rests⟩ := rests_of_idle wf found spared.1
      obtain ⟨now, found'', rests'⟩ := ih (wellFormed_apply wf a) spared.2 found'
      exact ⟨now, found'', rests.trans rests'⟩

theorem Spares.bare {config : Config} {cells : Cells} {notices : Notices}
    (spared : Spares c (start config cells notices) actions)
    (found : ((start config cells notices).perform actions).tree.contexts[c]? = some now) :
    now.cache = [] := by
  induction actions using List.reverseRecOn generalizing now with
  | nil => simp [perform, start, tree] at found
  | append_singleton actions a ih =>
      obtain ⟨spared, idle, -⟩ := spares_append.mp spared
      have reachable := (Reachable.start config cells notices).perform actions
      rw [perform_append] at found
      cases origin_of_apply reachable.wellFormed a found with
      | rested before found' rests =>
          have slots := congrArg (fun c : Context => c.cache.length) rests.skeleton
          simp only [Context.skeleton, List.length_map, ih spared found', List.length_nil] at slots
          exact List.length_eq_zero_iff.mp slots
      | added _ _ empty => exact empty
      | attempted id held attempts => exact (idle id held attempts).elim

/-- The last attempt to set the context `c` up is made by the action `a`, for the system `id`, and
finds the context as `held`. -/
structure LastAttempt (s : Session) (earlier : List Action) (a : Action) (later : List Action)
    (id : SystemId) (c : ContextId) (held : Context) : Prop where
  attempts : (s.perform earlier).Attempts id c held a
  spared : Spares c ((s.perform earlier).apply a) later

theorem LastAttempt.tried (wf : s.tree.WellFormed) (h : s.LastAttempt earlier a later id c held) :
    ∃ now, (s.perform (earlier ++ a :: later)).tree.contexts[c]? = some now ∧ now.system = some id ∧
      Context.Tried id ((s.perform earlier).blueprint.system id)
        ((s.perform earlier).blueprint.pathname id) held now := by
  have wf := wellFormed_apply (wellFormed_perform wf earlier) a
  obtain ⟨now, found, rests⟩ := h.spared.rests wf h.attempts.after
  rw [perform_append]
  exact ⟨now, found, Context.tried_of_setUp h.attempts.unready rests.skeleton⟩

theorem exists_lastAttempt {config : Config} {cells : Cells} {notices : Notices}
    (found : ((start config cells notices).perform actions).tree.contexts[c]? = some now)
    (system : now.system = some id) : ∃ earlier a later held, actions = earlier ++ a :: later ∧
      (start config cells notices).LastAttempt earlier a later id c held := by
  induction actions using List.reverseRecOn generalizing now with
  | nil => simp [perform, start, tree] at found
  | append_singleton actions a ih =>
      have wf := ((Reachable.start config cells notices).perform actions).wellFormed
      rw [perform_append] at found
      cases origin_of_apply wf a found with
      | rested before found' rests idle =>
          obtain ⟨earlier, a', later, held, rfl, last⟩ :=
            ih found' ((Context.system_of_skeleton rests.skeleton).symm.trans system)
          refine ⟨earlier, a', later ++ [a], held, by simp, last.attempts, ?_⟩
          rw [perform_append] at idle
          exact spares_append.mpr ⟨last.spared, idle, trivial⟩
      | added _ bare =>
          rw [bare] at system
          cases system
      | attempted id' held attempts same =>
          have tried := (Context.tried_of_setUp attempts.unready (congrArg Context.skeleton same)).1
          obtain rfl := Option.some.inj (tried.symm.trans system)
          exact ⟨actions, a, [], held, rfl, attempts, trivial⟩

theorem LastAttempt.bare {config : Config} {cells : Cells} {notices : Notices}
    (h : (start config cells notices).LastAttempt earlier a later id c held)
    (first : Spares c (start config cells notices) earlier) : held.cache = [] := by
  cases h.attempts with
  | setUp found _ => exact first.bare found
  | create added number found =>
      subst number
      obtain ⟨rfl, -⟩ := Tree.contexts_addContext added
      obtain rfl := Option.some.inj (List.getElem?_concat_length.symm.trans found)
      rfl

/-- A context is valid for the system of the last attempt to set it up, and for no other. If that
attempt succeeded, then the context is set up and has got one slot for each entry that the system had
declared by then, and no others if no attempt had failed before. If it failed, the context is not set
up and still valid. -/
theorem validate_iff_lastAttempt {config : Config} {cells : Cells} {notices : Notices} :
    validate ((start config cells notices).perform actions).blueprint
        ((start config cells notices).perform actions).tree id c = .ok () ↔
      ∃ earlier a later held now, actions = earlier ++ a :: later ∧
        (start config cells notices).LastAttempt earlier a later id c held ∧
        ((start config cells notices).perform actions).tree.contexts[c]? = some now ∧
        Context.Tried id (((start config cells notices).perform earlier).blueprint.system id)
          (((start config cells notices).perform earlier).blueprint.pathname id) held now ∧
        (Spares c (start config cells notices) earlier → held.cache = []) := by
  have wf := (Reachable.start config cells notices).wellFormed
  rw [validate_eq_ok_iff]
  constructor
  · rintro ⟨now, found, system⟩
    obtain ⟨earlier, a, later, held, rfl, last⟩ := exists_lastAttempt found system
    obtain ⟨now', found', -, tried⟩ := last.tried wf
    obtain rfl := Option.some.inj (found.symm.trans found')
    exact ⟨earlier, a, later, held, now, rfl, last, found, tried, last.bare⟩
  · rintro ⟨earlier, a, later, held, now, rfl, last, found, -⟩
    obtain ⟨now', found', system, -⟩ := last.tried wf
    exact ⟨now', found', system⟩

def stranded : Session := (start {} [] {}).perform
  [.addSystem "plant" "Plant" "", .declare 0 (.entryFor .time "now" .unit .finish [.accuracy]),
    .addContext none, .setUp 0 0]

theorem stranded_valid : stranded.Reachable ∧
    validate stranded.blueprint stranded.tree 0 0 = .ok () ∧
    (stranded.blueprint.system 0).owners = [(0, .time)] ∧
    stranded.tree.contexts[0]?.map (fun now => (now.isSetUp, now.owners)) = some (false, []) :=
  ⟨(Reachable.start {} [] {}).perform _, by decide +kernel, by decide +kernel, by decide +kernel⟩

end Session

end Dataflow
