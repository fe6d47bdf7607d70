import Dataflow.Proofs.Evaluation.Direct
import Dataflow.Proofs.Freshness
import Dataflow.Proofs.Tree.Lineage

/-!
# Contexts of another system

In a hierarchy of systems whose contexts mirror it, a system accepts the contexts that were created for it.
What it says of another one depends on which of the two is at the top.
-/

namespace Dataflow
open Relation

namespace Lineage

variable {α : Type} {parent : α → Option α} {top x : α} {bound m n : Nat}

inductive Climbs (parent : α → Option α) (top : α) : Nat → α → Prop
  | here : Climbs parent top 0 top
  | up {n : Nat} {x y : α} (step : parent x = some y) (rest : Climbs parent top n y) :
      Climbs parent top (n + 1) x

theorem Climbs.unique (root : parent top = none) (h : Climbs parent top n x)
    (h' : Climbs parent top m x) : n = m := by
  induction h generalizing m with
  | here =>
      cases h' with
      | here => rfl
      | up step => exact absurd (root.symm.trans step) nofun
  | up step _ ih =>
      cases h' with
      | here => exact absurd (root.symm.trans step) nofun
      | up step' rest' =>
          obtain rfl := Option.some.inj (step.symm.trans step')
          rw [ih rest']

theorem Climbs.getLastD_ancestors (root : parent top = none) (h : Climbs parent top n x)
    (enough : n ≤ bound) (d : α) : (ancestors parent bound x).getLastD d = top := by
  induction h generalizing bound d with
  | here => cases bound <;> simp [ancestors, root]
  | @up n x y step _ ih =>
      obtain ⟨bound, rfl⟩ := Nat.exists_eq_add_one.mpr (Nat.lt_of_lt_of_le (Nat.succ_pos n) enough)
      simp only [ancestors, step, List.getLastD_cons]
      exact ih (Nat.le_of_succ_le_succ enough) x

theorem Climbs.le {parent : Nat → Option Nat} {top x size : Nat} (root : parent top = none)
    (inside : ∀ x y, parent x = some y → x < size) (h : Climbs parent top n x) : n ≤ size := by
  obtain ⟨line, length, nodup, onWay⟩ : ∃ line : List Nat, line.length = n ∧ line.Nodup ∧
      ∀ z ∈ line, z < size ∧ ∃ m, m ≤ n ∧ Climbs parent top m z := by
    induction h with
    | here => exact ⟨[], rfl, .nil, nofun⟩
    | @up n x y step rest ih =>
        obtain ⟨line, length, nodup, onWay⟩ := ih
        refine ⟨x :: line, by simp [length], nodup.cons fun mem => ?_, List.forall_mem_cons.mpr
          ⟨⟨inside x y step, n + 1, Nat.le_refl _, .up step rest⟩, fun z mem => ?_⟩⟩
        · obtain ⟨-, m, before, again⟩ := onWay x mem
          obtain rfl := again.unique root (.up step rest)
          exact Nat.not_succ_le_self n before
        · obtain ⟨bounded, m, before, climbs⟩ := onWay z mem
          exact ⟨bounded, m, Nat.le_succ_of_le before, climbs⟩
  have within : line ⊆ List.range size := fun z mem => List.mem_range.mpr (onWay z mem).1
  calc n = line.length := length.symm
    _ ≤ (List.range size).length := (List.subperm_of_subset nodup within).length_le
    _ = size := List.length_range

end Lineage

namespace Blueprint

variable {b : Blueprint} {top id : SystemId}

def Under (b : Blueprint) (top id : SystemId) : Prop :=
  ReflTransGen (fun above below => b.parent? below = some above) top id

theorem lt_length_of_parent {above : SystemId} (step : b.parent? id = some above) :
    id < b.systems.length := by
  by_contra beyond
  simp [parent?, parentDiagram?, system, List.getD_eq_getElem?_getD,
    List.getElem?_eq_none (Nat.le_of_not_lt beyond), noSystem] at step

theorem Under.root_eq (h : b.Under top id) (root : b.parent? top = none) : b.root id = top := by
  obtain ⟨n, climbs⟩ : ∃ n, Lineage.Climbs b.parent? top n id := by
    induction h with
    | refl => exact ⟨0, .here⟩
    | tail _ step ih =>
        obtain ⟨n, climbs⟩ := ih
        exact ⟨n + 1, .up step climbs⟩
  exact climbs.getLastD_ancestors root (climbs.le root fun _ _ => lt_length_of_parent) id

theorem Under.cases (h : b.Under top id) :
    id = top ∨ ∃ above, b.parent? id = some above ∧ b.Under top above :=
  (ReflTransGen.cases_tail h).imp_right fun ⟨above, path, step⟩ => ⟨above, step, path⟩

end Blueprint

namespace Tree

variable {t : Tree} {c : ContextId}

theorem WellFormed.climbs (wf : t.WellFormed) (c : ContextId) :
    ∃ top n, top ≤ c ∧ n ≤ c ∧ t.parent? top = none ∧ Lineage.Climbs t.parent? top n c := by
  induction c using Nat.strong_induction_on with
  | _ c ih =>
      cases step : t.parent? c with
      | none => exact ⟨c, 0, Nat.le_refl c, Nat.zero_le c, step, .here⟩
      | some above =>
          have less := wf.parents c above step
          obtain ⟨top, n, first, short, root, climbs⟩ := ih above less
          exact ⟨top, n + 1, Nat.le_trans first (Nat.le_of_lt less),
            Nat.lt_of_le_of_lt short less, root, .up step climbs⟩

theorem WellFormed.root_spec (wf : t.WellFormed) (inside : c < t.size) :
    t.parent? (t.root c) = none ∧ t.root c < t.size ∧
      ∃ n, Lineage.Climbs t.parent? (t.root c) n c := by
  obtain ⟨top, n, first, short, root, climbs⟩ := wf.climbs c
  have last : t.root c = top :=
    climbs.getLastD_ancestors root (Nat.le_trans short (Nat.le_of_lt inside)) c
  exact last ▸ ⟨root, Nat.lt_of_le_of_lt first inside, n, climbs⟩

end Tree

namespace Session

variable {s : Session} {top id : SystemId} {c : ContextId} {actions : List Action}

/-- What is wrong with a context of another system, in a hierarchy with `top` at the top. -/
def diagnosis (s : Session) (top id : SystemId) (c : ContextId) : Error :=
  if id = top then .subcontextGiven (s.tree.pathname c)
  else if s.tree.parent? c = none then
    .rootContextGiven (s.blueprint.system id).typeName (s.blueprint.pathname id)
  else .foreignContext (s.blueprint.system id).typeName (s.blueprint.pathname id)
    (s.tree.pathname c)

/-- Each context was created for a system at or below `top`, and its parent for the parent of that
system. -/
def Mirrored (s : Session) (top : SystemId) (created : SystemId → ContextId → Prop) : Prop :=
  ∀ c < s.tree.size, ∃ id, created id c ∧ s.blueprint.Under top id ∧
    Option.Rel created (s.blueprint.parent? id) (s.tree.parent? c)

theorem Creates.systemOf (wf : s.tree.WellFormed) (h : s.Creates actions id c) :
    (s.perform actions).tree.systemOf c = some id := by
  obtain ⟨context, serves⟩ := h.serves wf
  simp [Tree.systemOf, serves.found, serves.system]

section
variable {created : SystemId → ContextId → Prop} (mirrored : s.Mirrored top created)
  (root : s.blueprint.parent? top = none)
  (owned : ∀ id c, created id c → s.tree.systemOf c = some id)
include mirrored root owned

theorem Mirrored.system_eq_top_iff (made : created id c) (inside : c < s.tree.size) :
    top = id ↔ s.tree.parent? c = none := by
  obtain ⟨id', made', under, parents⟩ := mirrored c inside
  obtain rfl : id' = id := Option.some.inj ((owned id' c made').symm.trans (owned id c made))
  constructor
  · rintro rfl
    rw [root] at parents
    cases above : s.tree.parent? c with
    | none => rfl
    | some above' =>
        rw [above] at parents
        cases parents
  · intro first
    rw [first] at parents
    rcases under.cases with same | ⟨above, step, -⟩
    · exact same.symm
    · rw [step] at parents
      cases parents

theorem Mirrored.systemOf_root (wf : s.tree.WellFormed) (inside : c < s.tree.size) :
    s.tree.systemOf (s.tree.root c) = some top := by
  obtain ⟨first, bounded, -⟩ := wf.root_spec inside
  obtain ⟨id, made, -⟩ := mirrored _ bounded
  rw [owned id _ made, (mirrored.system_eq_top_iff root owned made bounded).mpr first]

theorem Mirrored.mismatch_eq (wf : s.tree.WellFormed) (member : s.blueprint.Under top id)
    (inside : c < s.tree.size) {claimed : SystemId} (made : created claimed c) :
    mismatchError s.blueprint s.tree id c claimed = s.diagnosis top id c := by
  have last := mirrored.systemOf_root root owned wf inside
  have atTop := mirrored.system_eq_top_iff root owned made inside
  unfold mismatchError diagnosis
  rcases member.cases with rfl | ⟨above, step, under⟩
  · simp [root, last]
  · have notTop : id ≠ top := by
      rintro rfl
      exact absurd (root.symm.trans step) nofun
    simp [step, under.root_eq root, last, atTop, notTop, notTop.symm]

theorem Mirrored.validate_eq (wf : s.tree.WellFormed) (member : s.blueprint.Under top id)
    (inside : c < s.tree.size) {claimed : SystemId} (made : created claimed c) :
    validate s.blueprint s.tree id c =
      if claimed = id then .ok () else .error (s.diagnosis top id c) := by
  simp only [validate, owned claimed c made, mirrored.mismatch_eq root owned wf member inside made]

end

/-- In a hierarchy of any shape whose contexts mirror it, a context is valid for the system that it was
created for. What another system says of it is that it is a context below, if that system is at the top;
that it is a context at the top, if it is one; or else that the two have nothing to do with each other.
That is all that comes of any question. -/
theorem validate_in_hierarchy {config : Config} {cells : Cells} {notices : Notices}
    (root : ((start config cells notices).perform actions).blueprint.parent? top = none)
    (mirrored : ((start config cells notices).perform actions).Mirrored top
      ((start config cells notices).Creates actions))
    (member : ((start config cells notices).perform actions).blueprint.Under top id)
    (inside : c < ((start config cells notices).perform actions).tree.size) :
    let now := (start config cells notices).perform actions
    (validate now.blueprint now.tree id c = .ok () ↔
      (start config cells notices).Creates actions id c) ∧
    (¬ (start config cells notices).Creates actions id c →
      validate now.blueprint now.tree id c = .error (now.diagnosis top id c) ∧
      ∀ q, evaluate now.blueprint id c q now.run =
        .error (.fault (.failed (now.diagnosis top id c))) now.run) := by
  intro now
  have begun : (start config cells notices).Reachable := .start config cells notices
  have wf : now.tree.WellFormed := (begun.perform actions).wellFormed
  have owned (id : SystemId) (c : ContextId) (made : (start config cells notices).Creates actions id c) :
      now.tree.systemOf c = some id := made.systemOf begun.wellFormed
  obtain ⟨claimed, made, -⟩ := mirrored c inside
  have validated := mirrored.validate_eq root owned wf member inside made
  by_cases own : claimed = id
  · subst own
    rw [if_pos rfl] at validated
    exact ⟨⟨fun _ => made, fun _ => validated⟩, fun foreign => absurd made foreign⟩
  · rw [if_neg own] at validated
    refine ⟨⟨fun valid => ?_, fun made' => ?_⟩, fun _ => ⟨validated, fun q => ?_⟩⟩
    · exact absurd (validated.symm.trans valid) nofun
    · exact absurd (Option.some.inj ((owned claimed c made).symm.trans (owned id c made'))) own
    · exact Evaluation.evaluate_of_respond fun _ => Evaluation.respond_invalid validated

section
variable {n : Nat} {parent : Option ContextId}
  (done : actions[n]? = some (.createContext id parent))
  (succeeded : succeeds (Run.createContext (s.perform (actions.take n)).blueprint id parent)
    (s.perform (actions.take n)).run = true)
include done succeeded

theorem createContext_of_getElem? : ∃ r,
    actions = actions.take n ++ .createContext id parent :: actions.drop (n + 1) ∧
    Run.createContext (s.perform (actions.take n)).blueprint id parent (s.perform (actions.take n)).run =
      .ok (s.perform (actions.take n)).tree.size r := by
  obtain ⟨inside, action⟩ := List.getElem?_eq_some_iff.mp done
  obtain ⟨c, made⟩ := ok_of_succeeds succeeded
  obtain rfl := (Run.createContext_ok made).1
  refine ⟨_, ?_, made⟩
  rw [← action, List.cons_getElem_drop_succ, List.take_append_drop]

theorem creates_of_getElem? : s.Creates actions id (s.perform (actions.take n)).tree.size := by
  obtain ⟨r, split, made⟩ := createContext_of_getElem? done succeeded
  exact ⟨_, parent, _, r, split, made⟩

end

def works : List Action :=
  [.addSystem "plant" "Plant" "", .addSystem "cell" "Cell" "", .addSystem "valve" "Valve" "",
    .addSystem "pump" "Pump" "", .addDiagram { owner := 0, children := [1, 3] },
    .addDiagram { owner := 1, children := [2] }, .createContext 0 none, .createContext 1 (some 0),
    .createContext 2 (some 1), .createContext 3 (some 0)]

def builtWorks : Session := (start {} [] {}).perform works

theorem creates_works : (start {} [] {}).Creates works 0 0 ∧ (start {} [] {}).Creates works 1 1 ∧
    (start {} [] {}).Creates works 2 2 ∧ (start {} [] {}).Creates works 3 3 := by
  refine ⟨?_, ?_, ?_, ?_⟩
  · exact creates_of_getElem? (n := 6) rfl (by decide +kernel)
  · exact creates_of_getElem? (n := 7) rfl (by decide +kernel)
  · exact creates_of_getElem? (n := 8) rfl (by decide +kernel)
  · exact creates_of_getElem? (n := 9) rfl (by decide +kernel)

theorem under_works : builtWorks.blueprint.Under 0 1 ∧ builtWorks.blueprint.Under 0 2 ∧
    builtWorks.blueprint.Under 0 3 := by
  have cell : builtWorks.blueprint.Under 0 1 := .single (by decide +kernel)
  exact ⟨cell, cell.tail (by decide +kernel), .single (by decide +kernel)⟩

theorem mirrored_works : builtWorks.Mirrored 0 ((start {} [] {}).Creates works) := by
  obtain ⟨plant, cell, valve, pump⟩ := creates_works
  obtain ⟨cellUnder, valveUnder, pumpUnder⟩ := under_works
  have joined (id c : Nat) (above above' : Option Nat) (systems : builtWorks.blueprint.parent? id = above)
      (contexts : builtWorks.tree.parent? c = above')
      (related : Option.Rel ((start {} [] {}).Creates works) above above') :
      Option.Rel ((start {} [] {}).Creates works) (builtWorks.blueprint.parent? id)
        (builtWorks.tree.parent? c) := systems ▸ contexts ▸ related
  have size : builtWorks.tree.size = 4 := by decide +kernel
  intro c inside
  rw [size] at inside
  match c with
  | 0 => exact ⟨0, plant, .refl, joined _ _ none none (by decide +kernel) (by decide +kernel) .none⟩
  | 1 => exact ⟨1, cell, cellUnder,
      joined _ _ (some 0) (some 0) (by decide +kernel) (by decide +kernel) (.some plant)⟩
  | 2 => exact ⟨2, valve, valveUnder,
      joined _ _ (some 1) (some 1) (by decide +kernel) (by decide +kernel) (.some cell)⟩
  | 3 => exact ⟨3, pump, pumpUnder,
      joined _ _ (some 0) (some 0) (by decide +kernel) (by decide +kernel) (.some plant)⟩

theorem works_validated : builtWorks.Mirrored 0 ((start {} [] {}).Creates works) ∧
    validate builtWorks.blueprint builtWorks.tree 2 2 = .ok () ∧
    validate builtWorks.blueprint builtWorks.tree 0 2 =
      .error (.subcontextGiven "::plant::cell::valve") ∧
    validate builtWorks.blueprint builtWorks.tree 2 0 =
      .error (.rootContextGiven "Valve" "::plant::cell::valve") ∧
    validate builtWorks.blueprint builtWorks.tree 3 2 =
      .error (.foreignContext "Pump" "::plant::pump" "::plant::cell::valve") := by
  obtain ⟨-, -, valve, -⟩ := creates_works
  obtain ⟨-, valveUnder, pumpUnder⟩ := under_works
  have root : builtWorks.blueprint.parent? 0 = none := by decide +kernel
  have foreign (id c : Nat) (other : builtWorks.tree.systemOf c ≠ some id) :
      ¬ (start {} [] {}).Creates works id c :=
    fun made => other (made.systemOf (Reachable.start {} [] {}).wellFormed)
  have onValve := validate_in_hierarchy (c := 2) root mirrored_works valveUnder (by decide +kernel)
  have onPlant := validate_in_hierarchy (c := 0) root mirrored_works valveUnder (by decide +kernel)
  have plantOn := validate_in_hierarchy (c := 2) root mirrored_works .refl (by decide +kernel)
  have pumpOn := validate_in_hierarchy (c := 2) root mirrored_works pumpUnder (by decide +kernel)
  refine ⟨mirrored_works, onValve.1.mpr valve, (plantOn.2 (foreign 0 2 ?_)).1.trans ?_,
    (onPlant.2 (foreign 2 0 ?_)).1.trans ?_, (pumpOn.2 (foreign 3 2 ?_)).1.trans ?_⟩
  all_goals decide +kernel

end Session

end Dataflow
