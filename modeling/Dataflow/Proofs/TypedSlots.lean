import Dataflow.Proofs.Acceptance
import Dataflow.Proofs.Assembly
import Dataflow.Proofs.Contents
import Dataflow.Proofs.TypedSlots.Evaluation

/-!
# Slots keep their types

In a context that was created for a system, the slot of an entry that the system has declared for values of
one type starts with the value that was declared, and holds a value of the type whenever its
producer does not run, whatever is done and whatever fails in between.
-/

namespace Dataflow
open Relation

theorem Frame.reflTransGen {α : Type} {R S : α → α → Prop} (frame : Frame R)
    (step : ∀ {a b}, S a b → R a b) {a b : α} (path : ReflTransGen S a b) : R a b := by
  induction path with
  | refl => exact frame.refl a
  | tail _ next ih => exact frame.trans ih (step next)

def Clause.typedEntry (description : String) (initial : Value) (p : Producer)
    (prerequisites : List Ticket) : Clause :=
  .entry description initial (.typed initial.type description p) prerequisites

def Entry.plain (e : Entry) : Entry := { e with disabledByDefault := false }

theorem Entry.Typed.of_plain {e e' : Entry} {initial : Value} {p : Producer} (h : e.Typed initial p)
    (same : e'.plain = e.plain) : e'.Typed initial p := by
  have initial : e'.plain.initial = e.plain.initial := congrArg Entry.initial same
  have producer : e'.plain.producer = e.plain.producer := congrArg Entry.producer same
  have description : e'.plain.description = e.plain.description := congrArg Entry.description same
  simp only [plain] at initial producer description
  exact ⟨initial.trans h.starts, by rw [producer, h.producer, description], h.inPlace⟩

namespace System

variable {s s' : System} {i : Nat} {e e' : Entry}

def RetainsEntries (s s' : System) : Prop := s.entries.map Entry.plain <+: s'.entries.map Entry.plain

theorem Step.retainsEntries (h : s.Step s') : s.RetainsEntries s' := by
  have grown (new : Entry) : s.entries.map Entry.plain <+: (s.entries ++ [new]).map Entry.plain := by
    rw [List.map_append]
    exact List.prefix_append _ _
  cases h with
  | entryFor => exact grown _
  | entry => exact grown _
  | disableByDefault index =>
      have same : (s.entries.modify index fun e => { e with disabledByDefault := true }).map Entry.plain =
          s.entries.map Entry.plain := map_modify (fun _ => by rfl) _ _
      rw [RetainsEntries, same]
  | _ => exact List.prefix_rfl

theorem lasting_retainsEntries : Lasting RetainsEntries where
  frame := ⟨fun _ => List.prefix_rfl, List.IsPrefix.trans⟩
  declare _ clause _ := (Declare.step_clause clause).retainsEntries
  attach _ _ := List.prefix_rfl
  new _ _ _ := List.nil_prefix

theorem RetainsEntries.declared (h : s.RetainsEntries s') (declared : s.entries[i]? = some e) :
    ∃ e', s'.entries[i]? = some e' ∧ e'.plain = e.plain :=
  getElem?_of_map_isPrefix h declared

end System

theorem Tree.value?_eq_content? {t : Tree} {c : ContextId} {i : Nat} :
    t.value? c i = (t.content? c i).bind (·.1) := by
  simp only [value?, content?, Context.value?, Context.content?]
  cases t.contexts[c]? with
  | none => rfl
  | some context =>
      simp only [Option.bind_some]
      cases context.cache[i]? <;> rfl

theorem Declare.entries_entry {s : System} {pathname description : String} {initial : Value}
    {producer : Producer} {prerequisites : List Ticket} {entries : List Entry}
    (after : (stateAfter (entry pathname description initial producer prerequisites) s).entries = entries) :
    entries = s.entries ∨ ∃ e : Entry, entries = s.entries ++ [e] ∧ e.description = description ∧
      e.initial = initial ∧ e.producer = producer := by
  have advance : stateAfter (entry pathname description initial producer prerequisites) s =
      stateAfter (entryFor pathname s.nextTicket description initial producer prerequisites)
        s.advanced := rfl
  rw [advance] at after
  subst after
  simp only [stateAfter, entryFor, bind_apply, Attempt.step]
  cases made : s.advanced.addEntry pathname
      { ticket := s.nextTicket, description, initial, producer
        prerequisites := ascending prerequisites } with
  | error e => exact .inl rfl
  | ok s' =>
      obtain ⟨-, rfl⟩ := System.addEntry_ok (pairwise_ascending prerequisites) made
      exact .inr ⟨_, rfl, rfl, rfl, rfl⟩

theorem Blueprint.system_declare {α : Type} {id : SystemId} {f : String → Declare α} {b : Blueprint} :
    (stateAfter (declare id f) b).system id = b.system id ∨
      (stateAfter (declare id f) b).system id = stateAfter (f (b.pathname id)) (b.system id) := by
  have set (s : System) : ({ b with systems := b.systems.set id s }.system id) = b.system id ∨
      ({ b with systems := b.systems.set id s }.system id) = s := by
    by_cases inside : id < b.systems.length
    · exact .inr (by simp [system, List.getD_eq_getElem?_getD, inside])
    · exact .inl (by simp [system, List.getD_eq_getElem?_getD, inside])
  simp only [stateAfter, declare]
  cases f (b.pathname id) (b.system id) <;> exact set _

namespace Session
open Evaluation

variable {s s' : Session} {id : SystemId} {c : ContextId} {i : Nat} {initial : Value} {p : Producer}
  {type : ValueType}

/-- An operation leads from one session to the next: an action, or a run of the producer of an entry on a
value that is in no slot. -/
inductive Next : Session → Session → Prop
  | apply (s : Session) (a : Action) : Next s (s.apply a)
  | produce (s : Session) (id : SystemId) (c : ContextId) (e : Entry) (v : Value) :
      Next s (s.onRun (runProducer s.blueprint id c e v))

theorem path_of_perform (actions : List Action) : ReflTransGen Next s (s.perform actions) := by
  induction actions generalizing s with
  | nil => exact .refl
  | cons a rest ih => exact .head (.apply s a) ih

theorem Next.cases (h : s.Next s') :
    (∃ id c task, s' = { s with run := afterTask s.blueprint id c task s.run }) ∨
      ∃ a : Action, a.evaluates = false ∧ s' = s.apply a := by
  cases h with
  | produce id c e v => exact .inl ⟨id, c, .script (e.producer v), rfl⟩
  | apply a =>
      cases a with
      | evaluate id c q => exact .inl ⟨id, c, .question q, rfl⟩
      | _ => exact .inr ⟨_, rfl, rfl⟩

theorem Next.safe (h : s.Next s') : Run.Safe s.run s'.run := by
  rcases h.cases with ⟨id, c, task, rfl⟩ | ⟨a, -, rfl⟩
  · intro wf
    have balanced : Balanced s.run (afterTask s.blueprint id c task s.run) := balanced_afterTask
    exact ⟨balanced.1.2 wf, (rests_of_balanced balanced).retains⟩
  · exact safe_apply a

theorem Next.lasts {R : System → System → Prop} (lasting : System.Lasting R) (h : s.Next s') :
    Blueprint.Lasts R s.blueprint s'.blueprint := by
  rcases h.cases with ⟨id, c, task, rfl⟩ | ⟨a, -, rfl⟩
  · exact (Blueprint.Lasts.frame lasting.frame).refl s.blueprint
  · exact lasts_apply lasting a

theorem safe_of_path (path : ReflTransGen Next s s') : Run.Safe s.run s'.run :=
  (Run.Safe.frame.on Session.run).reflTransGen Next.safe path

theorem lasts_of_path {R : System → System → Prop} (lasting : System.Lasting R)
    (path : ReflTransGen Next s s') : Blueprint.Lasts R s.blueprint s'.blueprint :=
  ((Blueprint.Lasts.frame lasting.frame).on Session.blueprint).reflTransGen (Next.lasts lasting) path

theorem hasTyped_of_path (declared : HasTyped s.blueprint id i initial p)
    (path : ReflTransGen Next s s') : HasTyped s'.blueprint id i initial p := by
  obtain ⟨e, listed, typed⟩ := declared
  have retains := lasts_of_path System.lasting_retainsEntries path id
  obtain ⟨e', listed', same⟩ := retains.declared listed
  exact ⟨e', listed', typed.of_plain same⟩

theorem hasTyped_before (declared : HasTyped s'.blueprint id i initial p)
    (path : ReflTransGen Next s s') (inside : i < (s.blueprint.system id).entries.length) :
    HasTyped s.blueprint id i initial p := by
  obtain ⟨e', listed', typed⟩ := declared
  have listed := List.getElem?_eq_getElem inside
  have retains := lasts_of_path System.lasting_retainsEntries path id
  obtain ⟨e, listed'', same⟩ := retains.declared listed
  obtain rfl := Option.some.inj (listed'.symm.trans listed'')
  exact ⟨_, listed, typed.of_plain same.symm⟩

structure HoldsTyped (s : Session) (id : SystemId) (c : ContextId) (i : Nat) (initial : Value)
    (p : Producer) : Prop where
  wellFormed : s.tree.WellFormed
  declared : HasTyped s.blueprint id i initial p
  types : s.tree.Types id c i initial.type
  full : (c, i) ∈ s.tree.filled

theorem HoldsTyped.next (h : s.HoldsTyped id c i initial p) (next : s.Next s') :
    s'.HoldsTyped id c i initial p := by
  have safe := next.safe h.wellFormed
  have declared : HasTyped s'.blueprint id i initial p := hasTyped_of_path h.declared (.single next)
  rcases next.cases with ⟨id', c', task, rfl⟩ | ⟨a, quiet, rfl⟩
  · have balanced : Balanced s.run (afterTask s.blueprint id' c' task s.run) := balanced_afterTask
    refine ⟨safe.1, declared, types_afterTask h.declared h.wellFormed h.types, ?_⟩
    exact balanced.2.symm ▸ h.full
  · -- another value could only come with a new slot, but this one is there
    have same : (s.apply a).tree.value? c i = s.tree.value? c i := by
      rcases sparesSlots_apply a quiet c i with same | ⟨absent, -⟩
      · rw [Tree.value?_eq_content?, Tree.value?_eq_content?, same]
      · have full := Tree.mem_filled_iff.mp h.full
        rw [Tree.value?_eq_content?, absent] at full
        cases full
    obtain ⟨context, found, ready, system⟩ := h.types.context
    obtain ⟨context', found', kept⟩ := safe.2 c context found
    have kept := kept ready
    refine ⟨safe.1, declared, ⟨⟨context', found', ?_, ?_⟩, fun v held => ?_⟩, ?_⟩
    · exact (Context.isSetUp_of_skeleton kept).trans ready
    · exact (Context.system_of_skeleton kept).trans system
    · exact h.types.value v (same ▸ held)
    · rw [Tree.mem_filled_iff, same]
      exact Tree.mem_filled_iff.mp h.full

theorem HoldsTyped.later (h : s.HoldsTyped id c i initial p) (path : ReflTransGen Next s s') :
    s'.HoldsTyped id c i initial p := by
  induction path with
  | refl => exact h
  | tail _ next ih => exact ih.next next

/-- In the session and throughout each evaluation in it, or run of a producer, the slot `i` of the context `c`
holds a value of the type unless its producer runs; and that is the producer given, not the error
for a value of another type. -/
structure KeepsType (s : Session) (id : SystemId) (c : ContextId) (i : Nat) (type : ValueType)
    (p : Producer) : Prop where
  held : ∃ v, s.tree.value? c i = some v ∧ v.type = type
  within : ∀ id' c' task x,
    ReflTransGen (Leads s.blueprint (evaluate s.blueprint)) ⟨[], id', c', task, s.run⟩ x →
      x.Tells s.blueprint id c i type p

theorem HoldsTyped.keepsType (h : s.HoldsTyped id c i initial p) :
    s.KeepsType id c i initial.type p where
  held := by
    obtain ⟨v, held⟩ := Option.isSome_iff_exists.mp (Tree.mem_filled_iff.mp h.full)
    exact ⟨v, held, h.types.value v held⟩
  within _ _ _ _ path := Stage.tells_later h.declared h.wellFormed h.full h.types path

theorem system_apply_declare (s : Session) (id : SystemId) (clause : Clause) :
    (s.apply (.declare id clause)).blueprint.system id = s.blueprint.system id ∨
      (s.apply (.declare id clause)).blueprint.system id =
        stateAfter (clause.declare (s.blueprint.pathname id)) (s.blueprint.system id) :=
  Blueprint.system_declare

theorem hasTyped_declare {description : String} {prerequisites : List Ticket}
    (inPlace : p.InPlace initial.type)
    (longer : (s.blueprint.system id).entries.length <
      ((s.apply (.declare id (.typedEntry description initial p prerequisites))).blueprint.system
        id).entries.length) :
    HasTyped (s.apply (.declare id (.typedEntry description initial p prerequisites))).blueprint id
      (s.blueprint.system id).entries.length initial p := by
  rcases s.system_apply_declare id (.typedEntry description initial p prerequisites) with same | made
  · exact absurd longer (by simp [same])
  · have after : (stateAfter (Declare.entry (s.blueprint.pathname id) description initial
        (.typed initial.type description p) prerequisites) (s.blueprint.system id)).entries =
          ((s.apply (.declare id (.typedEntry description initial p prerequisites))).blueprint.system
            id).entries := by
      rw [made, Clause.typedEntry, Clause.declare, stateAfter_discard]
    rcases Declare.entries_entry after with same | ⟨e, added, description, starts, producer⟩
    · exact absurd longer (by simp [same])
    · refine ⟨e, ?_, starts, by rw [producer, description], inPlace⟩
      exact (congrArg (·[_]?) added).trans List.getElem?_concat_length

section
variable {parent : Option ContextId} {r : Run}

theorem created_slots (made : Run.createContext s.blueprint id parent s.run = .ok c r) :
    ∃ context, (s.apply (.createContext id parent)).tree.contexts[c]? = some context ∧
      context.isSetUp = true ∧ context.system = some id ∧
      context.cache.length = (s.blueprint.system id).entries.length ∧
      ∀ i e, (s.blueprint.system id).entries[i]? = some e → context.value? i = some e.initial := by
  obtain ⟨c₀, context, fresh, found, ready, system, laid⟩ := Run.laid_of_createContext made
  have tree : (s.apply (.createContext id parent)).tree = r.tree :=
    congrArg Run.tree (stateAfter_ok made)
  have cache := (laid.replayed fresh).cache
  refine ⟨context, tree ▸ found, ready, system, by simp [cache], fun i e declared => ?_⟩
  simp [Context.value?, cache, declared]

theorem holdsTyped_of_createContext (wf : s.tree.WellFormed)
    (made : Run.createContext s.blueprint id parent s.run = .ok c r)
    (declared : HasTyped s.blueprint id i initial p) :
    (s.apply (.createContext id parent)).tree.value? c i = some initial ∧
      (s.apply (.createContext id parent)).HoldsTyped id c i initial p := by
  obtain ⟨context, found, ready, system, -, values⟩ := created_slots made
  have value : (s.apply (.createContext id parent)).tree.value? c i = some initial := by
    obtain ⟨e, listed, typed⟩ := declared
    rw [Tree.value?, found, Option.bind_some, values i e listed, typed.starts]
  refine ⟨value, wellFormed_apply wf _, ?_, ⟨⟨context, found, ready, system⟩, fun v held => ?_⟩, ?_⟩
  · exact hasTyped_of_path declared (.single (.apply s _))
  · rw [Option.some.inj (held.symm.trans value)]
  · simp [Tree.mem_filled_iff, value]

theorem slotOf_of_beyond (wf : s.tree.WellFormed)
    (made : Run.createContext s.blueprint id parent s.run = .ok c r)
    (path : ReflTransGen Next (s.apply (.createContext id parent)) s')
    (beyond : (s.blueprint.system id).entries.length ≤ i) : ∃ e, slotOf s'.tree c i = .error e := by
  obtain ⟨context, found, ready, -, length, -⟩ := created_slots made
  obtain ⟨context', found', kept⟩ := (safe_of_path path (wellFormed_apply wf _)).2 c context found
  have slots := congrArg (fun c : Context => c.cache.length) (kept ready)
  simp only [Context.skeleton, List.length_map] at slots
  have absent : context'.cache[i]? = none := by
    rw [List.getElem?_eq_none_iff, slots, length]
    exact beyond
  cases result : slotOf s'.tree c i with
  | error e => exact ⟨e, rfl⟩
  | ok reached =>
      obtain ⟨other, k, foundOther, foundSlot, -⟩ := slotOf_eq_ok_iff.mp result
      obtain rfl := Option.some.inj (found'.symm.trans foundOther)
      cases absent.symm.trans foundSlot

end

/-- An entry that is declared for values of a type is there for good. In a context that was created for its
system after that, its slot starts with the value declared and keeps the type, whatever is done and
whatever fails in between; in one that was created before it has no slot. -/
theorem typed_slots_keep_type :
    (∀ (s : Session) (id : SystemId) (description : String) (initial : Value) (p : Producer)
      (prerequisites : List Ticket) (later : Session), p.InPlace initial.type →
      let declared := s.apply (.declare id (.typedEntry description initial p prerequisites))
      (s.blueprint.system id).entries.length < (declared.blueprint.system id).entries.length →
      ReflTransGen Next declared later →
        HasTyped later.blueprint id (s.blueprint.system id).entries.length initial p) ∧
    ∀ (config : Config) (cells : Cells) (notices : Notices) (s : Session) (id : SystemId)
      (parent : Option ContextId) (c : ContextId) (r : Run) (later : Session),
      ReflTransGen Next (start config cells notices) s →
      Run.createContext s.blueprint id parent s.run = .ok c r →
      let created := s.apply (.createContext id parent)
      ReflTransGen Next created later →
        ∀ i initial p, HasTyped later.blueprint id i initial p →
          if i < (s.blueprint.system id).entries.length then
            created.tree.value? c i = some initial ∧ later.KeepsType id c i initial.type p
          else ∃ e, slotOf later.tree c i = .error e := by
  constructor
  · intro s id description initial p prerequisites later inPlace declared longer path
    exact hasTyped_of_path (hasTyped_declare inPlace longer) path
  · intro config cells notices s id parent c r later first made created path i initial p declared
    have wf : s.tree.WellFormed :=
      (safe_of_path first (Reachable.start config cells notices).wellFormed).1
    split
    · rename_i inside
      have grown : ReflTransGen Next s later := .head (.apply s _) path
      obtain ⟨value, holds⟩ := holdsTyped_of_createContext wf made (hasTyped_before declared grown inside)
      exact ⟨value, (holds.later path).keepsType⟩
    · rename_i beyond
      exact slotOf_of_beyond wf made path (Nat.le_of_not_lt beyond)

def flicker : Producer := fun _ => .ask (.flag true) (.entry 0) fun _ =>
  .stop (.flag true) (.panicked "draught")

def kiln : Session := (start {} [] {}).apply (.addSystem "kiln" "Kiln" "")

def kilnActions : List Action :=
  [.evaluate 0 0 (.entry 0), .disableBelow 0, .evaluate 0 0 (.entry 0)]

theorem kiln_keeps_type :
    let lit := kiln.apply (.declare 0 (.typedEntry "lit" (.flag false) flicker [.time]))
    let created := lit.apply (.createContext 0 none)
    flicker.InPlace .flag ∧ HasTyped (created.perform kilnActions).blueprint 0 0 (.flag false) flicker ∧
      created.tree.value? 0 0 = some (.flag false) ∧
      (created.perform kilnActions).KeepsType 0 0 0 .flag flicker := by
  intro lit created
  have inPlace : flicker.InPlace .flag := fun v _ => ⟨rfl, fun _ => rfl⟩
  have first : ReflTransGen Next (start {} [] {}) lit :=
    path_of_perform [_, .declare 0 (.typedEntry "lit" (.flag false) flicker [.time])]
  obtain ⟨c, made⟩ := ok_of_succeeds (f := Run.createContext lit.blueprint 0 none) (s := lit.run)
    (by decide +kernel)
  obtain rfl : c = 0 := (Run.createContext_ok made).1
  have path : ReflTransGen Next created (created.perform kilnActions) := path_of_perform kilnActions
  have declared : HasTyped (created.perform kilnActions).blueprint 0 0 (.flag false) flicker :=
    typed_slots_keep_type.1 kiln 0 "lit" (.flag false) flicker [.time] _ inPlace (by decide +kernel)
      (.head (.apply lit _) path)
  have keeps := typed_slots_keep_type.2 {} [] {} lit 0 none 0 _ _ first made path 0 _ _ declared
  rw [if_pos (by decide +kernel)] at keeps
  exact ⟨inPlace, declared, keeps⟩

end Session

end Dataflow
