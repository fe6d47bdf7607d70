import Dataflow.Proofs.Assembly

namespace Dataflow

namespace Store

variable {s s' : Store} {t : Ticket} {index : Nat} {description : String}
  {prerequisites : List Ticket} {e : Error}

def SameCache (s s' : Store) : Prop := s'.cache = s.cache

theorem SameCache.frame : Frame SameCache := ⟨fun _ => rfl, fun first later => later.trans first⟩

theorem sameCache_onGraph {f : Graph → Except Error Graph} : Keeps SameCache (onGraph f) :=
  keeps_onGraph SameCache.frame fun _ _ _ => rfl

theorem cache_addEntry_error (failed : addEntry index t description prerequisites s = .error e s') :
    s'.cache = s.cache := by
  have same (f : Attempt Store Unit) (keeps : Keeps SameCache f) {s₁ s₂ : Store}
      (failed : f s₁ = .error e s₂) : s₂.cache = s₁.cache := stateAfter_error failed ▸ keeps s₁
  rcases bind_eq_error_iff.mp failed with got | ⟨s₀, s₁, got, failed⟩
  · cases got
  cases got
  split at failed
  · cases failed
    rfl
  rcases bind_eq_error_iff.mp failed with refused | ⟨⟨⟩, s₁, created, failed⟩
  · exact same _ sameCache_onGraph refused
  obtain ⟨graph, -, rfl⟩ := onGraph_eq_ok_iff.mp created
  rcases bind_eq_error_iff.mp failed with own | ⟨⟨⟩, s₁, own, failed⟩
  · cases own
  cases own
  rcases bind_eq_error_iff.mp failed with refused | ⟨⟨⟩, s₁, -, appended⟩
  · have joins : Keeps SameCache (prerequisites.forM (subscribe t)) :=
      .forM SameCache.frame fun _ _ => sameCache_onGraph
    have kept := same _ joins refused
    exact kept
  · cases appended

end Store

namespace Context

variable {c c' : Context} {d : System.Declaration} {e : Error} {u : Unit}

def SameCache (c c' : Context) : Prop := c'.cache = c.cache

theorem SameCache.frame : Frame SameCache := ⟨fun _ => rfl, fun first later => later.trans first⟩

theorem sameCache_onGraph {f : Graph → Except Error Graph} :
    Keeps SameCache (onStore (Store.onGraph f)) := by
  intro c
  have kept : c.toStore.SameCache (stateAfter (Store.onGraph f) c.toStore) :=
    Store.sameCache_onGraph c.toStore
  simp only [KeepsAt, stateAfter, onStore] at kept ⊢
  cases result : Store.onGraph f c.toStore <;> rw [result] at kept <;> exact kept

theorem sameCache_replay (unowned : d.owners = []) : Keeps SameCache (replay d) := by
  have frame := SameCache.frame
  cases d with
  | entry index x => cases unowned
  | source s =>
      exact .bind frame sameCache_onGraph fun _ => .bind frame sameCache_onGraph fun _ =>
        .modify fun _ => rfl
  | input index p =>
      exact .bind frame sameCache_onGraph fun _ => .bind frame sameCache_onGraph fun _ =>
        .modify fun _ => rfl
  | output index p =>
      refine .bind frame sameCache_onGraph fun _ => .bind frame ?_ fun _ => .modify fun _ => rfl
      unfold subscribeOutput
      split
      · exact sameCache_onGraph
      · exact .pure frame _

theorem cache_replay (made : replay d c = .ok u c') :
    c'.cache = c.cache ++ d.slots c.cachingEnabled := by
  have quiet (unowned : d.owners = []) : c'.cache = c.cache ++ [] := by
    rw [List.append_nil, ← stateAfter_ok made]
    exact sameCache_replay unowned c
  cases d with
  | source | input | output => exact quiet rfl
  | entry index x =>
      obtain ⟨⟨⟩, c₁, furnished, seeded⟩ := bind_eq_ok_iff.mp made
      cases seeded
      obtain ⟨s, furnish, rfl⟩ := onStore_eq_ok_iff.mp furnished
      obtain ⟨rfl, cache⟩ := Store.cache_addEntry furnish
      simp only [modifySlot, cache, Cache.modify_last, System.Declaration.slots]
      cases x.disabledByDefault || !c.cachingEnabled <;> rfl

theorem cache_replay_error (failed : replay d c = .error e c') : c'.cache = c.cache := by
  cases d with
  | source | input | output => exact stateAfter_error failed ▸ sameCache_replay rfl c
  | entry index x =>
      rcases bind_eq_error_iff.mp failed with refused | ⟨⟨⟩, c₁, -, seeded⟩
      · simp only [onStore] at refused
        cases result : Store.addEntry index x.ticket x.description x.prerequisites c.toStore with
        | ok u s =>
            rw [result] at refused
            cases refused
        | error e' s =>
            rw [result] at refused
            cases refused
            exact Store.cache_addEntry_error result
      · cases seeded

theorem filled_replay : Keeps (fun c c' => c.Filled → c'.Filled) (replay d) := by
  intro c filled slot mem
  cases result : replay d c with
  | ok u c' =>
      rw [stateAfter_ok result, cache_replay result] at mem
      rcases List.mem_append.mp mem with old | new
      · exact filled slot old
      · cases d with
        | entry index x =>
            obtain rfl := List.mem_singleton.mp new
            rfl
        | _ => cases new
  | error e c' =>
      rw [stateAfter_error result, cache_replay_error result] at mem
      exact filled slot mem

theorem filled_setUp (id : SystemId) (s : System) (pathname : String) :
    Keeps (fun c c' => c.Filled → c'.Filled) (setUp id s pathname) := by
  have frame : Frame fun c c' : Context => c.Filled → c'.Filled :=
    ⟨fun _ filled => filled, fun first later => later ∘ first⟩
  refine .bind frame (.get frame) ?_
  intro c
  split
  · exact .throw frame _
  · exact .bind frame (.modify fun _ filled => filled) fun _ =>
      .bind frame (.forM frame fun _ _ => filled_replay) fun _ => .modify fun _ filled => filled

end Context

namespace Run

variable {r : Run} {parent : Option ContextId}

theorem onTree_eq (f : Tree → Except Error Tree) : onTree f r = match f r.tree with
    | .ok t => .ok () { r with tree := t }
    | .error e => .error e r := by
  simp only [onTree, Attempt.step, bind, Except.bind]
  cases f r.tree <;> rfl

theorem addContext_eq : addContext parent r = match r.tree.addContext parent with
    | .ok t => .ok r.tree.size { r with tree := t }
    | .error e => .error e r := by
  simp only [addContext, bind_apply, get_apply, onTree_eq]
  cases r.tree.addContext parent <;> rfl

theorem tree_setUp {b : Blueprint} {id : SystemId} {c : ContextId} :
    (stateAfter (setUp b id c) r).tree = match r.tree.contexts[c]? with
      | none => r.tree
      | some before => r.tree.modifyContext c fun _ =>
          stateAfter (Context.setUp id (b.system id) (b.pathname id)) before := by
  simp only [stateAfter, setUp, Tree.onContext]
  cases found : r.tree.contexts[c]? with
  | none => rfl
  | some before =>
      cases result : Context.setUp id (b.system id) (b.pathname id) before with
      | error e after => simp [result]
      | ok u after => simp [result, Tree.contexts_modifyContext_self found, note]

theorem tree_createContext {b : Blueprint} {id : SystemId} {t : Tree}
    (added : r.tree.addContext parent = .ok t) :
    (stateAfter (createContext b id parent) r).tree =
      (stateAfter (setUp b id r.tree.size) { r with tree := t }).tree := by
  simp only [stateAfter, createContext, bind_apply, addContext_eq, added]
  cases setUp b id r.tree.size { r with tree := t } <;> rfl

theorem tree_createContext_refused {b : Blueprint} {id : SystemId} {e : Error}
    (refused : r.tree.addContext parent = .error e) :
    (stateAfter (createContext b id parent) r).tree = r.tree := by
  simp only [stateAfter, createContext, bind_apply, addContext_eq, refused]

end Run

namespace Session

variable {s : Session} {a : Action} {id : SystemId} {c : ContextId} {before now : Context}

inductive Attempts (s : Session) (id : SystemId) (c : ContextId) (before : Context) : Action → Prop
  | setUp (found : s.tree.contexts[c]? = some before) (unready : before.isSetUp = false) :
      Attempts s id c before (.setUp id c)
  | create {parent : Option ContextId} {t : Tree} (added : s.tree.addContext parent = .ok t)
      (number : c = s.tree.size) (found : t.contexts[c]? = some before) :
      Attempts s id c before (.createContext id parent)

def attempted (s : Session) (id : SystemId) (before : Context) : Context :=
  stateAfter (Context.setUp id (s.blueprint.system id) (s.blueprint.pathname id)) before

inductive Origin (s : Session) (c : ContextId) (now : Context) (a : Action) : Prop
  | rested (before : Context) (found : s.tree.contexts[c]? = some before) (rests : before.Rests now)
      (idle : ∀ id before, ¬ s.Attempts id c before a)
  | added (new : s.tree.contexts[c]? = none) (bare : now.system = none) (empty : now.cache = [])
      (idle : ∀ id before, ¬ s.Attempts id c before a)
  | attempted (id : SystemId) (before : Context) (attempts : s.Attempts id c before a)
      (same : now = s.attempted id before)

theorem origin_of_rests (rests : s.tree.Rests (s.apply a).tree)
    (idle : ∀ id before, ¬ s.Attempts id c before a)
    (found : (s.apply a).tree.contexts[c]? = some now) : s.Origin c now a := by
  obtain ⟨before, found', rests⟩ := rests.origin found
  exact .rested before found' rests idle

theorem origin_of_addContext {parent : Option ContextId}
    (found : (s.apply (.addContext parent)).tree.contexts[c]? = some now) :
    s.Origin c now (.addContext parent) := by
  have idle (id : SystemId) (before : Context) : ¬ s.Attempts id c before (.addContext parent) := nofun
  simp only [apply, onRun, tree, stateAfter, Run.addContext_eq] at found
  cases made : s.run.tree.addContext parent with
  | error e =>
      rw [made] at found
      exact .rested now found (.refl now) idle
  | ok t =>
      rw [made] at found
      obtain ⟨rfl, -⟩ := Tree.contexts_addContext made
      by_cases old : c < s.run.tree.contexts.length
      · rw [List.getElem?_append_left old] at found
        exact .rested now found (.refl now) idle
      · have new := Nat.le_of_not_lt old
        rw [List.getElem?_append_right new] at found
        obtain rfl := List.mem_singleton.mp (List.mem_of_getElem? found)
        exact .added (List.getElem?_eq_none new) rfl rfl idle

theorem tree_setUp (found : s.tree.contexts[c]? = some before) :
    (s.apply (.setUp id c)).tree = s.tree.modifyContext c fun _ => s.attempted id before := by
  refine Run.tree_setUp.trans ?_
  have held : s.run.tree.contexts[c]? = some before := found
  rw [held]
  rfl

theorem tree_createContext {parent : Option ContextId} {t : Tree}
    (added : s.tree.addContext parent = .ok t) (found : t.contexts[s.tree.size]? = some before) :
    (s.apply (.createContext id parent)).tree =
      t.modifyContext s.tree.size fun _ => s.attempted id before := by
  refine (Run.tree_createContext added).trans (Run.tree_setUp.trans ?_)
  have held : t.contexts[s.run.tree.size]? = some before := found
  dsimp only
  rw [held]
  rfl

theorem Attempts.after (h : s.Attempts id c before a) :
    (s.apply a).tree.contexts[c]? = some (s.attempted id before) := by
  cases h with
  | setUp found _ =>
      rw [tree_setUp found]
      exact Tree.contexts_modifyContext_self found
  | create added number found =>
      subst number
      rw [tree_createContext added found]
      exact Tree.contexts_modifyContext_self found

theorem Attempts.unready (h : s.Attempts id c before a) : before.isSetUp = false := by
  cases h with
  | setUp _ unready => exact unready
  | create added number found =>
      subst number
      obtain ⟨rfl, -⟩ := Tree.contexts_addContext added
      obtain rfl := Option.some.inj (List.getElem?_concat_length.symm.trans found)
      rfl

theorem origin_of_setUp {c' : ContextId}
    (found : (s.apply (.setUp id c')).tree.contexts[c]? = some now) : s.Origin c now (.setUp id c') := by
  have elsewhere (kept : s.tree.contexts[c]? = some now) (other : c' ≠ c) :
      s.Origin c now (.setUp id c') := by
    refine .rested now kept (.refl now) ?_
    rintro id' before (_ | _)
    exact other rfl
  cases old : s.tree.contexts[c']? with
  | none =>
      have same : (s.apply (.setUp id c')).tree = s.tree := by
        refine Run.tree_setUp.trans ?_
        have none : s.run.tree.contexts[c']? = none := old
        rw [none]
        rfl
      rw [same] at found
      refine elsewhere found ?_
      rintro rfl
      exact absurd (old.symm.trans found) nofun
  | some before =>
      rw [tree_setUp old] at found
      by_cases here : c' = c
      · subst here
        rw [Tree.contexts_modifyContext_self old, Option.some.injEq] at found
        cases ready : before.isSetUp with
        | false => exact .attempted id before (.setUp old ready) found.symm
        | true =>
            -- a context that is set up refuses before anything is written
            have refused : now = before := by
              simp [← found, attempted, stateAfter, Context.setUp, bind_apply, get_apply, throw_apply,
                ready]
            refine .rested before old (refused ▸ .refl before) ?_
            rintro id' before' (⟨old', unready⟩ | _)
            obtain rfl := Option.some.inj (old.symm.trans old')
            rw [ready] at unready
            cases unready
      · rw [Tree.contexts_modifyContext_ne here] at found
        exact elsewhere found here

theorem origin_of_createContext {parent : Option ContextId}
    (found : (s.apply (.createContext id parent)).tree.contexts[c]? = some now) :
    s.Origin c now (.createContext id parent) := by
  cases added : s.tree.addContext parent with
  | error e =>
      have same : (s.apply (.createContext id parent)).tree = s.tree :=
        Run.tree_createContext_refused added
      rw [same] at found
      refine .rested now found (.refl now) ?_
      rintro id' before (_ | ⟨made, -, -⟩)
      rw [added] at made
      cases made
  | ok t =>
      obtain ⟨rfl, -⟩ := Tree.contexts_addContext added
      have last : (s.tree.contexts ++ [.fresh parent s.tree.config.cachingEnabled])[s.tree.size]? =
          some (.fresh parent s.tree.config.cachingEnabled) := List.getElem?_concat_length
      rw [tree_createContext added last] at found
      by_cases new : s.tree.size = c
      · subst new
        rw [Tree.contexts_modifyContext_self last] at found
        exact .attempted id _ (.create added rfl last) (Option.some.inj found).symm
      · rw [Tree.contexts_modifyContext_ne new] at found
        have old : c < s.tree.contexts.length := by
          have inside := (List.getElem?_eq_some_iff.mp found).1
          rw [List.length_append, List.length_singleton] at inside
          exact Nat.lt_of_le_of_ne (Nat.lt_succ_iff.mp inside) (Ne.symm new)
        rw [List.getElem?_append_left old] at found
        refine .rested now found (.refl now) ?_
        rintro id' before (_ | ⟨-, number, -⟩)
        exact new number.symm

/-- An action leaves a context alone but for serials, values and flags, or adds it, or tries to set it
up. -/
theorem origin_of_apply (wf : s.tree.WellFormed) (a : Action)
    (found : (s.apply a).tree.contexts[c]? = some now) : s.Origin c now a := by
  cases builds : a.builds with
  | false =>
      refine origin_of_rests (rests_apply a builds wf).2 ?_ found
      rintro id before (_ | _) <;> cases builds
  | true =>
      cases a with
      | addContext parent => exact origin_of_addContext found
      | setUp id c' => exact origin_of_setUp found
      | createContext id parent => exact origin_of_createContext found
      | _ => cases builds

theorem rests_of_idle (wf : s.tree.WellFormed) (found : s.tree.contexts[c]? = some before)
    (idle : ∀ id before, ¬ s.Attempts id c before a) :
    ∃ now, (s.apply a).tree.contexts[c]? = some now ∧ before.Rests now := by
  obtain ⟨now, found', -⟩ := (safe_apply a wf).2 c before found
  refine ⟨now, found', ?_⟩
  cases origin_of_apply wf a found' with
  | rested before' old rests =>
      obtain rfl := Option.some.inj (found.symm.trans old)
      exact rests
  | added new => exact absurd (new.symm.trans found) nofun
  | attempted id before attempts => exact (idle id before attempts).elim

theorem Reachable.filled (h : s.Reachable) : ∀ context ∈ s.tree.contexts, context.Filled := by
  induction h with
  | start config cells notices => exact fun _ mem => (List.not_mem_nil mem).elim
  | @apply s a reachable ih =>
      have fresh {parent : Option ContextId} {caching : Bool} :
          (Context.fresh parent caching).Filled := fun _ mem => (List.not_mem_nil mem).elim
      intro now mem
      obtain ⟨c, found⟩ := List.mem_iff_getElem?.mp mem
      cases origin_of_apply reachable.wellFormed a found with
      | rested before found rests => exact rests.filled (ih before (List.mem_of_getElem? found))
      | added _ _ empty =>
          intro slot mem
          rw [empty] at mem
          cases mem
      | attempted id before attempts same =>
          rw [same]
          refine Context.filled_setUp id _ _ before ?_
          rcases attempts with ⟨held, -⟩ | ⟨made, -, held⟩
          · exact ih before (List.mem_of_getElem? held)
          · obtain ⟨rfl, -⟩ := Tree.contexts_addContext made
            rcases List.mem_append.mp (List.mem_of_getElem? held) with old | new
            · exact ih before old
            · rw [List.mem_singleton.mp new]
              exact fresh

end Session

end Dataflow
