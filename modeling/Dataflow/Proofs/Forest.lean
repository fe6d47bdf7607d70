import Dataflow.Proofs.AllOrNothing
import Dataflow.Proofs.CachingToggles
import Dataflow.Proofs.Hierarchy
import Mathlib.Data.List.AList

/-!
# Contexts and links as they are stored

A context can be stored with its number and the numbers of its children, and the links in a table that has
a list of subscribers for each prerequisite. These parts are written by different actions, one after the
other, and some actions fail on the way. They fit together all the same, in all sessions.
-/

namespace Dataflow

/-- A context, as far as its place among the others goes. -/
structure Node where
  id : ContextId
  parent : Option ContextId
  children : List ContextId := []
  deriving DecidableEq

def Node.adopt (node : Node) (c : ContextId) : Node := { node with children := node.children ++ [c] }

namespace Tree

variable {t t' : Tree} {id c : ContextId} {parent : Option ContextId} {v : Option Value} {port : Nat}
  {subscriber prerequisite l : Location} {s : Spread}

def nodes (t : Tree) : List Node := t.parents.mapIdx fun c parent => ⟨c, parent, t.children c⟩

theorem length_nodes : t.nodes.length = t.size := by simp [nodes, parents, size]

theorem getElem?_nodes : t.nodes[c]? =
    t.contexts[c]?.map fun context => ⟨c, context.parent, t.children c⟩ := by
  simp [nodes, parents, Function.comp_def]

theorem getElem?_nodes_addContext (wf : t.WellFormed) (made : t.addContext parent = .ok t') :
    t'.nodes[c]? = (t.nodes ++ [{ id := t.size, parent }])[c]?.map fun node =>
      if parent = some c then node.adopt t.size else node := by
  have grown := (ChildLists.children_addContext (p := c) made).2
  obtain ⟨rfl, bound⟩ := contexts_addContext made
  rw [getElem?_nodes, grown]
  rcases Nat.lt_trichotomy c t.size with old | rfl | beyond
  · rw [List.getElem?_append_left old, List.getElem?_append_left (length_nodes.symm ▸ old), getElem?_nodes,
      Option.map_map]
    refine congrArg (Option.map · _) (funext fun context => ?_)
    dsimp only [Function.comp]
    split <;> rfl
  · have last := (List.getElem?_concat_length (l := t.nodes) (a := { id := t.size, parent }))
    rw [length_nodes] at last
    have new : parent ≠ some t.size := fun same => Nat.lt_irrefl _ (bound _ same)
    have here : (t.contexts ++ [Context.fresh parent t.config.cachingEnabled])[t.size]? =
        some (.fresh parent t.config.cachingEnabled) := List.getElem?_concat_length
    rw [here, last, wf.children_eq_nil (Nat.le_succ _)]
    simp only [Option.map_some, if_neg new]
    rfl
  · rw [List.getElem?_eq_none (by simpa [size] using Nat.succ_le_of_lt beyond),
      List.getElem?_eq_none (by simpa [length_nodes] using Nat.succ_le_of_lt beyond)]
    rfl

theorem nodes_congr (same : t'.parents = t.parents) : t'.nodes = t.nodes := by
  simp only [nodes, same, children_congr same]

theorem linkedTo_linked : (t.linked subscriber prerequisite).linkedTo l =
    if l = prerequisite ∧ subscriber ∉ t.linkedTo l then t.linkedTo l ++ [subscriber]
    else t.linkedTo l := by
  by_cases old : ⟨prerequisite, subscriber⟩ ∈ t.links
  · have known : ¬ (l = prerequisite ∧ subscriber ∉ t.linkedTo l) := by
      rintro ⟨rfl, new⟩
      exact new (mem_linkedTo_iff.mpr old)
    rw [if_neg known, linked, if_pos old]
  · have new : subscriber ∉ t.linkedTo prerequisite := fun mem => old (mem_linkedTo_iff.mp mem)
    simp only [linked, if_neg old, linkedTo, List.filter_append, List.map_append]
    by_cases here : l = prerequisite
    · subst here
      rw [linkedTo] at new
      simp [new]
    · simp [here, Ne.symm here]

theorem links_spread (made : t.spread l = .ok s) : s.tree.links = t.links :=
  (stamped_spread made).links

theorem links_fixInput {v : Value} (made : t.fixInput id port v = .ok s) : s.tree.links = t.links := by
  obtain ⟨-, slot, -, -, -, spread⟩ := fixInput_ok made
  exact (links_spread spread).trans rfl

theorem links_clearInput (made : t.clearInput id port = .ok (some s)) : s.tree.links = t.links := by
  obtain ⟨-, slot, -, -, spread⟩ := clearInput_ok made
  exact (links_spread spread).trans rfl

end Tree

structure Forest where
  nodes : List Node := []
  /-- the subscribers of each prerequisite that has some -/
  table : AList fun _ : Location => List Location := ∅

namespace Forest

variable {f f' : Forest} {t t' : Tree} {c p : ContextId} {parent : Option ContextId}
  {subscriber prerequisite l : Location}

def parent? (f : Forest) (c : ContextId) : Option ContextId := f.nodes[c]?.bind (·.parent)

def subscribers (f : Forest) (l : Location) : List Location := (f.table.lookup l).getD []

def push (f : Forest) (parent : Option ContextId) : Forest :=
  { f with nodes := f.nodes ++ [{ id := f.nodes.length, parent }] }

def join (f : Forest) (p c : ContextId) : Forest :=
  { f with nodes := f.nodes.modify p (·.adopt c) }

def add (parent : Option ContextId) : Attempt Forest ContextId := fun f =>
  match parent with
  | none => .ok f.nodes.length (f.push none)
  | some p =>
      match f.nodes[p]? with
      | none => .error (.unknownContext p) f
      | some _ => .ok f.nodes.length ((f.push (some p)).join p f.nodes.length)

def record (f : Forest) (subscriber prerequisite : Location) : Forest :=
  let listed := f.subscribers prerequisite
  let now := if subscriber ∈ listed then listed else listed ++ [subscriber]
  { f with table := f.table.insert prerequisite now }

def subscribe (t : Tree) (subscriber prerequisite : Location) : Attempt Forest Unit := do
  Attempt.ofExcept (t.requireTracker subscriber)
  Attempt.ofExcept (t.requireTracker prerequisite)
  modify (·.record subscriber prerequisite)

def linkPorts (t : Tree) (kind : LinkKind) (subscriber prerequisite : PortPlace) :
    Attempt Forest Unit := do
  let (l, p) ← Attempt.ofExcept (t.linkEnds kind subscriber prerequisite)
  subscribe t l p

def apply (f : Forest) (s : Session) : Action → Forest
  | .addContext parent | .createContext _ parent => stateAfter (add parent) f
  | .subscribe subscriber prerequisite => stateAfter (subscribe s.tree subscriber prerequisite) f
  | .linkPorts kind subscriber prerequisite =>
      stateAfter (linkPorts s.tree kind subscriber prerequisite) f
  | _ => f

def perform (f : Forest) : Session → List Action → Forest
  | _, [] => f
  | s, a :: rest => perform (f.apply s a) (s.apply a) rest

/-- The forest has the contexts and the links of the tree, and no subscriber twice. -/
structure Stores (f : Forest) (t : Tree) : Prop where
  nodes : f.nodes = t.nodes
  links : ∀ l, f.subscribers l = t.linkedTo l
  once : ∀ l, (f.subscribers l).Nodup

theorem Stores.congr (h : f.Stores t) (parents : t'.parents = t.parents) (links : t'.links = t.links) :
    f.Stores t' where
  nodes := h.nodes.trans (Tree.nodes_congr parents).symm
  links l := by simp only [h.links, Tree.linkedTo, links]
  once := h.once

theorem subscribers_record : (f.record subscriber prerequisite).subscribers l =
    if l = prerequisite ∧ subscriber ∉ f.subscribers l then f.subscribers l ++ [subscriber]
    else f.subscribers l := by
  by_cases here : l = prerequisite
  · subst here
    have found : (f.record subscriber l).subscribers l =
        if subscriber ∈ f.subscribers l then f.subscribers l else f.subscribers l ++ [subscriber] :=
      congrArg (Option.getD · []) (AList.lookup_insert f.table)
    rw [found]
    split <;> simp_all
  · rw [if_neg fun both => here both.1]
    exact congrArg (Option.getD · []) (AList.lookup_insert_ne here)

theorem Stores.record (h : f.Stores t) :
    (f.record subscriber prerequisite).Stores (t.linked subscriber prerequisite) where
  nodes := h.nodes
  links l := by rw [subscribers_record, Tree.linkedTo_linked, h.links]
  once l := by
    rw [subscribers_record]
    split
    · rename_i new
      rw [← List.concat_eq_append]
      exact (h.once l).concat new.2
    · exact h.once l

theorem getElem?_nodes_add (bound : ∀ p, parent = some p → p < f.nodes.length) :
    (stateAfter (add parent) f).nodes[c]? =
      (f.nodes ++ [{ id := f.nodes.length, parent }])[c]?.map fun node =>
        if parent = some c then node.adopt f.nodes.length else node := by
  cases parent with
  | none => simp [stateAfter, add, push]
  | some p =>
      simp only [stateAfter, add, List.getElem?_eq_getElem (bound p rfl), join, push,
        List.getElem?_modify, Option.some.injEq, Option.map_eq_map]

theorem Stores.add (h : f.Stores t) (wf : t.WellFormed) (made : t.addContext parent = .ok t') :
    (stateAfter (Forest.add parent) f).Stores t' := by
  have length : f.nodes.length = t.size := by rw [h.nodes, Tree.length_nodes]
  have bound := (Tree.contexts_addContext made).2
  have table (l : Location) : (stateAfter (Forest.add parent) f).subscribers l = f.subscribers l := by
    cases parent with
    | none => rfl
    | some p =>
        simp only [stateAfter, Forest.add]
        cases f.nodes[p]? <;> rfl
  refine ⟨List.ext_getElem? fun c => ?_, fun l => ?_, fun l => (table l).symm ▸ h.once l⟩
  · rw [getElem?_nodes_add (length ▸ bound), Tree.getElem?_nodes_addContext wf made, length, h.nodes]
  · obtain ⟨rfl, -⟩ := Tree.contexts_addContext made
    rw [table]
    exact h.links l

theorem Stores.add_refused {e : Error} (h : f.Stores t) (failed : t.addContext parent = .error e) :
    stateAfter (Forest.add parent) f = f := by
  obtain ⟨p, rfl, absent⟩ := Tree.unknown_of_addContext failed
  have unknown : f.nodes[p]? = none := by rw [h.nodes, Tree.getElem?_nodes, absent, Option.map_none]
  simp only [stateAfter, Forest.add, unknown]

theorem Stores.subscribe (h : f.Stores t) (wf : t.WellFormed) :
    (stateAfter (Forest.subscribe t subscriber prerequisite) f).Stores
      (match t.subscribe subscriber prerequisite with
        | .ok s => s.tree
        | .error _ => t) := by
  cases made : t.subscribe subscriber prerequisite with
  | ok s =>
      obtain ⟨known, known', spread⟩ := Tree.subscribe_ok made
      have recorded : stateAfter (Forest.subscribe t subscriber prerequisite) f =
          f.record subscriber prerequisite := by
        simp only [Forest.subscribe, Tree.requireTracker_eq_ok_iff.mpr known,
          Tree.requireTracker_eq_ok_iff.mpr known']
        rfl
      rw [recorded]
      exact h.record.congr (Tree.rests_spread spread).parents (Tree.links_spread spread)
  | error e =>
      have refused : stateAfter (Forest.subscribe t subscriber prerequisite) f = f := by
        cases first : t.requireTracker subscriber with
        | error e => simp only [Forest.subscribe, first, stateAfter, Attempt.ofExcept_error_bind]
        | ok u =>
            cases second : t.requireTracker prerequisite with
            | error e =>
                simp only [Forest.subscribe, first, second, stateAfter, Attempt.ofExcept_ok_bind,
                  Attempt.ofExcept_error_bind]
            | ok u =>
                obtain ⟨s, subscribed, -⟩ := Operation.subscribe_tracked wf
                  (Tree.requireTracker_eq_ok_iff.mp first) (Tree.requireTracker_eq_ok_iff.mp second)
                cases made.symm.trans subscribed
      rw [refused]
      exact h

theorem Stores.linkPorts {kind : LinkKind} {subscriber prerequisite : PortPlace} (h : f.Stores t)
    (wf : t.WellFormed) : (stateAfter (Forest.linkPorts t kind subscriber prerequisite) f).Stores
      (match t.linkPorts kind subscriber prerequisite with
        | .ok s => s.tree
        | .error _ => t) := by
  rw [Tree.linkPorts_eq]
  cases known : t.linkEnds kind subscriber prerequisite with
  | error e =>
      simp only [Forest.linkPorts, known, stateAfter, Attempt.ofExcept_error_bind]
      exact h
  | ok ends =>
      simp only [Forest.linkPorts, known, stateAfter, Attempt.ofExcept_ok_bind]
      exact h.subscribe wf

end Forest

namespace Run

variable {r : Run} {f : Tree → Except Error Spread}

theorem tree_spread : (stateAfter (discard (spread f)) r).tree = match f r.tree with
    | .ok s => s.tree
    | .error _ => r.tree := by
  simp only [stateAfter, Operation.discard_spread]
  cases f r.tree <;> rfl

theorem links_setUp {b : Blueprint} {id : SystemId} {c : ContextId} :
    (stateAfter (setUp b id c) r).tree.links = r.tree.links := by
  rw [tree_setUp]
  cases r.tree.contexts[c]? <;> rfl

theorem links_spread (kept : ∀ s, f r.tree = .ok s → s.tree.links = r.tree.links) :
    (stateAfter (spread f) r).tree.links = r.tree.links :=
  stateAfter_spread (P := fun r' => r'.tree.links = r.tree.links) kept rfl

end Run

def Action.links : Action → Bool
  | .subscribe .. | .linkPorts .. => true
  | _ => false

namespace Session

variable {s : Session} {f : Forest}

theorem links_apply (wf : s.tree.WellFormed) (a : Action) (builds : a.builds = false)
    (links : a.links = false) : (s.apply a).tree.links = s.tree.links := by
  cases a with
  | addContext | setUp | createContext => cases builds
  | subscribe | linkPorts => cases links
  | warn id kind index => exact congrArg Tree.links (Evaluation.tree_reportPort ..)
  | noteChange l =>
      simp only [apply, onRun, tree, Run.stateAfter_noteChange]
      exact Run.links_spread fun _ => Tree.links_spread
  | fixInput c port v =>
      simp only [apply, onRun, tree, Run.fixInput, stateAfter_discard]
      exact Run.links_spread fun _ => Tree.links_fixInput
  | clearInput c port =>
      exact Run.stateAfter_clearInput (P := fun r => r.tree.links = s.run.tree.links)
        (fun _ => Tree.links_clearInput) rfl
  | enableBelow c =>
      refine Run.stateAfter_onTree (P := fun r => r.tree.links = s.run.tree.links) (fun t made => ?_)
        fun _ _ => rfl
      obtain ⟨-, rfl⟩ := Tree.enableCaching_eq_ok_iff.mp made
      exact (wf.changedBelow c _).links
  | disableBelow c =>
      refine Run.stateAfter_onTree (P := fun r => r.tree.links = s.run.tree.links) (fun t made => ?_)
        fun _ _ => rfl
      obtain ⟨-, rfl⟩ := Tree.disableCaching_eq_ok_iff.mp made
      exact (wf.changedBelow c _).links
  | evaluate id c q =>
      have kept : Evaluation.Balanced s.run (stateAfter (evaluate s.blueprint id c q) s.run) :=
        Evaluation.keeps_evaluate (Evaluation.balanced s.blueprint) q s.run
      have links := congrArg Tree.links kept.1.1
      exact links
  | _ => rfl

theorem tree_addContext {parent : Option ContextId} :
    (s.apply (.addContext parent)).tree = match s.tree.addContext parent with
      | .ok t => t
      | .error _ => s.tree := by
  simp only [apply, onRun, tree, stateAfter, Run.addContext_eq]
  cases s.run.tree.addContext parent <;> rfl

end Session

namespace Forest

variable {f : Forest} {s : Session}

theorem apply_of_idle {a : Action} (builds : a.builds = false) (links : a.links = false) :
    f.apply s a = f := by
  cases a with
  | addContext | createContext => cases builds
  | subscribe | linkPorts => cases links
  | _ => rfl

theorem Stores.addContext (h : f.Stores s.tree) (wf : s.tree.WellFormed) (parent : Option ContextId) :
    (f.apply s (.addContext parent)).Stores (s.apply (.addContext parent)).tree := by
  rw [Session.tree_addContext, Forest.apply]
  cases made : s.tree.addContext parent with
  | ok t => exact h.add wf made
  | error e =>
      rw [h.add_refused made]
      exact h

theorem Stores.createContext {id : SystemId} (h : f.Stores s.tree) (wf : s.tree.WellFormed)
    (parent : Option ContextId) :
    (f.apply s (.createContext id parent)).Stores (s.apply (.createContext id parent)).tree := by
  rw [Forest.apply]
  cases made : s.tree.addContext parent with
  | ok t =>
      have tree : (s.apply (.createContext id parent)).tree = _ := Run.tree_createContext made
      rw [tree]
      exact (h.add wf made).congr Run.parents_setUp Run.links_setUp
  | error e =>
      have tree : (s.apply (.createContext id parent)).tree = s.tree :=
        Run.tree_createContext_refused made
      rw [tree, h.add_refused made]
      exact h

theorem Stores.apply (h : f.Stores s.tree) (reachable : s.Reachable) (a : Action) :
    (f.apply s a).Stores (s.apply a).tree := by
  have wf := reachable.wellFormed
  cases affects : a.builds || a.links with
  | false =>
      obtain ⟨builds, links⟩ := Bool.or_eq_false_iff.mp affects
      rw [apply_of_idle builds links]
      exact h.congr (Session.rests_apply a builds wf).2.parents (Session.links_apply wf a builds links)
  | true =>
      cases a with
      | addContext parent => exact h.addContext wf parent
      | createContext id parent => exact h.createContext wf parent
      | setUp id c => exact h.congr Run.parents_setUp Run.links_setUp
      | subscribe subscriber prerequisite =>
          have tree : (s.apply (.subscribe subscriber prerequisite)).tree = _ := Run.tree_spread
          rw [tree]
          exact h.subscribe wf
      | linkPorts kind subscriber prerequisite =>
          have tree : (s.apply (.linkPorts kind subscriber prerequisite)).tree = _ := Run.tree_spread
          rw [tree]
          exact h.linkPorts wf
      | _ => cases affects

theorem Stores.perform (h : f.Stores s.tree) (reachable : s.Reachable) (actions : List Action) :
    (f.perform s actions).Stores (s.perform actions).tree := by
  induction actions generalizing f s with
  | nil => exact h
  | cons a rest ih => exact ih (h.apply reachable a) (reachable.apply a)

structure Sound (f : Forest) (t : Tree) : Prop where
  position : ∀ (c : ContextId) (node : Node), f.nodes[c]? = some node → node.id = c
  parents : ∀ c p, f.parent? c = some p → p < c
  children : ∀ (p : ContextId) (node : Node), f.nodes[p]? = some node →
    ∀ c, c ∈ node.children ↔ f.parent? c = some p
  /-- in the order in which they were created, and none twice -/
  inOrder : ∀ node ∈ f.nodes, node.children.Pairwise (· < ·)
  /-- going to the parent again and again comes to a context that has none -/
  root : ∀ c < f.nodes.length, f.parent? (t.root c) = none ∧
    ∃ n, Lineage.Climbs f.parent? (t.root c) n c
  tracked : ∀ l, ∀ l' ∈ f.subscribers l, t.Tracks l ∧ t.Tracks l'
  once : ∀ l, (f.subscribers l).Nodup

theorem Stores.parent?_eq (h : f.Stores t) : f.parent? = t.parent? := by
  funext c
  rw [parent?, h.nodes, Tree.getElem?_nodes, Tree.parent?]
  cases t.contexts[c]? <;> rfl

theorem Stores.sound (h : f.Stores t) (wf : t.WellFormed) : f.Sound t := by
  have listed {p : ContextId} {node : Node} (found : f.nodes[p]? = some node) :
      node.id = p ∧ node.children = t.children p := by
    rw [h.nodes, Tree.getElem?_nodes] at found
    obtain ⟨context, -, rfl⟩ := Option.map_eq_some_iff.mp found
    exact ⟨rfl, rfl⟩
  refine ⟨fun c node found => (listed found).1, ?_, fun p node found c => ?_, fun node mem => ?_,
    fun c inside => ?_, fun l l' mem => ?_, h.once⟩
  · rw [h.parent?_eq]
    exact wf.parents
  · rw [(listed found).2, h.parent?_eq, Tree.mem_children_iff]
  · obtain ⟨p, found⟩ := List.mem_iff_getElem?.mp mem
    rw [(listed found).2]
    exact List.pairwise_lt_range.filter _
  · rw [h.nodes, Tree.length_nodes] at inside
    obtain ⟨first, -, climbs⟩ := wf.root_spec inside
    rw [h.parent?_eq]
    exact ⟨first, climbs⟩
  · rw [h.links, Tree.mem_linkedTo_iff] at mem
    exact wf.links _ mem

/-- Whatever is done in a session, and whatever of it fails: the forest that is kept with it has the contexts
and the links of the session's tree, and its parts fit together. -/
theorem perform_sound (config : Config) (cells : Cells) (notices : Notices) (actions : List Action) :
    let begun := Session.start config cells notices
    (perform {} begun actions).Stores (begun.perform actions).tree ∧
      (perform {} begun actions).Sound (begun.perform actions).tree := by
  intro begun
  have reachable : begun.Reachable := .start config cells notices
  have empty : ({} : Forest).Stores begun.tree := ⟨rfl, fun _ => rfl, fun _ => List.nodup_nil⟩
  have stored := empty.perform reachable actions
  exact ⟨stored, stored.sound (reachable.perform actions).wellFormed⟩

def probes : List Action :=
  [.addSystem "probe" "Probe" "", .declare 0 (.input "in" (.vector 1)), .createContext 0 none,
    .createContext 0 (some 0), .createContext 0 (some 7), .addContext (some 0), .setUp 0 2,
    .subscribe ⟨2, 13⟩ ⟨0, 13⟩, .subscribe ⟨1, 13⟩ ⟨0, 13⟩, .subscribe ⟨2, 13⟩ ⟨0, 13⟩,
    .subscribe ⟨2, 14⟩ ⟨0, 13⟩]

example : (perform {} (Session.start {} [] {}) probes).nodes =
    [⟨0, none, [1, 2]⟩, ⟨1, some 0, []⟩, ⟨2, some 0, []⟩] := by decide +kernel

example : (perform {} (Session.start {} [] {}) probes).subscribers ⟨0, 13⟩ =
    [⟨2, 13⟩, ⟨1, 13⟩] := by decide +kernel

end Forest

end Dataflow
