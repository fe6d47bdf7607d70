import Dataflow.Proofs.Reports.Memory
import Dataflow.Proofs.Reports.Ports
import Dataflow.Proofs.Reports.Uses
import Dataflow.Proofs.Session

/-!
# Deprecated ports are reported once

Whatever is declared, deprecated, reported and evaluated, in whatever order and in however many trees:
what is reported does not depend on the flags of ports, and of all calls about one port of one type
of system the first is told of, and no other.
-/

namespace Dataflow
open Evaluation

namespace Run

variable {b : Blueprint} {forget forget' : Notices → Notices} {R Fresh : Run → Run → Prop}
  {r r' : Run} {id : SystemId} {c : ContextId}

variable (h : Parallel b forget forget' Fresh R) (rel : R r r')
include h rel

theorem abreast_spread (f : Tree → Except Error Spread) : Abreast R (spread f) (spread f) r r' := by
  simp only [Abreast, spread, h.tree rel]
  cases f r.tree with
  | error e => exact ⟨rfl, rel⟩
  | ok s => exact ⟨rfl, h.silently rel s.tree [_] (by simp [Event.level])⟩

theorem abreast_clearInput (port : Nat) :
    Abreast R (clearInput c port) (clearInput c port) r r' := by
  simp only [Abreast, clearInput, h.tree rel]
  rcases r.tree.clearInput c port with e | _ | s
  · exact ⟨rfl, rel⟩
  · exact ⟨trivial, rel⟩
  · exact ⟨trivial, h.silently rel s.tree [_] (by simp [Event.level])⟩

theorem abreast_onTree (f : Tree → Except Error Tree) : Abreast R (onTree f) (onTree f) r r' := by
  simp only [Abreast, onTree, Attempt.step, bind, Except.bind, h.tree rel]
  cases f r.tree with
  | error e => exact ⟨rfl, rel⟩
  | ok t => exact ⟨trivial, h.setTree rel t⟩

theorem abreast_addContext (parent : Option ContextId) :
    Abreast R (addContext parent) (addContext parent) r r' := by
  refine .bindGet ?_
  rw [h.tree rel]
  exact .bind (abreast_onTree h rel _) fun _ _ _ rel => .pure rel _

theorem abreast_setUp : Abreast R (setUp b id c) (setUp b id c) r r' := by
  simp only [Abreast, setUp, h.tree rel]
  cases Tree.onContext c (Context.setUp id (b.system id) (b.pathname id)) r.tree with
  | error e t => exact ⟨rfl, h.setTree rel t⟩
  | ok u t =>
      dsimp only
      cases t.contexts[c]? with
      | none => exact ⟨trivial, h.setTree rel t⟩
      | some context => exact ⟨trivial, h.silently rel t [_] (by simp [Event.level])⟩

theorem abreast_createContext (parent : Option ContextId) :
    Abreast R (createContext b id parent) (createContext b id parent) r r' :=
  .bind (abreast_addContext h rel parent) fun _ _ _ rel =>
    .bind (abreast_setUp h rel) fun _ _ _ rel => .pure rel _

end Run

inductive Move where
  | act (a : Action)
  /-- goes on with another tree, which has a configuration of its own -/
  | turnTo (t : Tree)

namespace Session

variable {s s' : Session} {forget forget' : Blueprint → Notices → Notices}
  {R Fresh : Run → Run → Prop} {moves : List Move} {m : Move}

def move (s : Session) : Move → Session
  | .act a => s.apply a
  | .turnTo t => { s with run := { s.run with tree := t } }

/-- Does like `move`, but remembers of reports no more than `forget` leaves before each call. -/
def moveForgetting (forget : Blueprint → Notices → Notices) (s : Session) : Move → Session
  | .act (.warn id kind index) =>
      let r := s.run.forgetting (forget s.blueprint)
      { s with run := (r.reportPort s.blueprint id kind index).2 }
  | .act (.evaluate id c q) => s.onRun (evaluateForgetting (forget s.blueprint) s.blueprint id c q)
  | m => s.move m

def go (s : Session) (moves : List Move) : Session := moves.foldl move s

def goForgetting (forget : Blueprint → Notices → Notices) (s : Session) (moves : List Move) :
    Session :=
  moves.foldl (moveForgetting forget) s

theorem moveForgetting_self : s.moveForgetting (fun _ n => n) m = s.move m := by
  cases m with
  | turnTo t => rfl
  | act a =>
      cases a with
      | evaluate id c q => simp only [moveForgetting, evaluateForgetting_self, move, apply]
      | _ => rfl

theorem abreast_apply {a : Action}
    (h : Parallel s.blueprint (forget s.blueprint) (forget' s.blueprint) Fresh R)
    (same : s'.blueprint = s.blueprint) (rel : R s.run s'.run) :
    (s'.moveForgetting forget' (.act a)).blueprint = (s.moveForgetting forget (.act a)).blueprint ∧
      R (s.moveForgetting forget (.act a)).run (s'.moveForgetting forget' (.act a)).run := by
  obtain ⟨b, r⟩ := s
  obtain ⟨_, r'⟩ := s'
  cases same
  refine ⟨by cases a <;> rfl, ?_⟩
  have cached (c : ContextId) (f : Cache → Cache) :
      R (onCache c f ⟨b, r⟩).run (onCache c f ⟨b, r'⟩).run :=
    (Run.abreast_onTree h rel fun t => .ok (t.modifyContext c (·.modifyCache f))).after
  have spread (f : Tree → Except Error Spread) : R (stateAfter (discard (Run.spread f)) r)
      (stateAfter (discard (Run.spread f)) r') := by
    rw [stateAfter_discard, stateAfter_discard]
    exact (Run.abreast_spread h rel f).after
  cases a with
  | addSystem | declare | addDiagram | removeDiagram | setParent => exact rel
  | warn id kind index => exact h.report (h.forgetting rel) id kind index
  | evaluate id c q => exact (abreast_evaluate h rel).after
  | setCell name x =>
      have cells : r'.cells = r.cells := h.cells rel
      simp only [moveForgetting, move, apply, cells]
      exact h.setCells rel _
  | addContext parent => exact (Run.abreast_addContext h rel parent).after
  | setUp id c => exact (Run.abreast_setUp h rel).after
  | createContext id parent => exact (Run.abreast_createContext h rel parent).after
  | noteChange l =>
      exact (Abreast.bind (Run.abreast_spread h rel _) fun _ _ _ rel => .pure rel _).after
  | fixInput c port v => exact spread _
  | clearInput c port => exact (Run.abreast_clearInput h rel port).after
  | subscribe subscriber prerequisite => exact spread _
  | linkPorts kind subscriber prerequisite => exact spread _
  | enable c index => exact cached c _
  | disable c index => exact cached c _
  | markOutOfDate c => exact cached c _
  | enableBelow c => exact (Run.abreast_onTree h rel _).after
  | disableBelow c => exact (Run.abreast_onTree h rel _).after

theorem abreast_move (forget forget' : Blueprint → Notices → Notices) (m : Move)
    (h : Parallel s.blueprint (forget s.blueprint) (forget' s.blueprint) Fresh R)
    (same : s'.blueprint = s.blueprint) (rel : R s.run s'.run) :
    (s'.moveForgetting forget' m).blueprint = (s.moveForgetting forget m).blueprint ∧
      R (s.moveForgetting forget m).run (s'.moveForgetting forget' m).run := by
  cases m with
  | act a => exact abreast_apply h same rel
  | turnTo t => exact ⟨same, h.setTree rel t⟩

theorem keepsPorts_move : s.blueprint.KeepsPorts (s.move m).blueprint := by
  cases m with
  | act a => exact keepsPorts_apply a
  | turnTo t => exact fun _ => System.KeepsPorts.frame.refl _

theorem go_concat : s.go (moves ++ [m]) = (s.go moves).move m := List.foldl_concat ..

theorem goForgetting_concat :
    s.goForgetting forget (moves ++ [m]) = (s.goForgetting forget moves).moveForgetting forget m :=
  List.foldl_concat ..

abbrev fresh (config : Config) (cells : Cells) : Session := start config cells {}

variable {config : Config} {cells : Cells} {known : List Call}

theorem backed_fresh : ({} : Notices).Backed (fresh config cells).blueprint :=
  ⟨fun _ => ⟨[], rfl⟩, fun _ mem => (List.not_mem_nil mem).elim⟩

theorem backed_go (config : Config) (cells : Cells) (moves : List Move) :
    ((fresh config cells).goForgetting (fun _ => Notices.unflagged) moves).blueprint =
        ((fresh config cells).go moves).blueprint ∧
      Run.Backed ((fresh config cells).go moves).blueprint ((fresh config cells).go moves).run
        ((fresh config cells).goForgetting (fun _ => Notices.unflagged) moves).run := by
  induction moves using List.reverseRecOn with
  | nil => exact ⟨rfl, ⟨rfl, rfl, rfl, fun _ => rfl⟩, backed_fresh, backed_fresh⟩
  | append_singleton moves m ih =>
      obtain ⟨same, rel⟩ := ih
      rw [go_concat, goForgetting_concat]
      obtain ⟨same, rel⟩ :=
        abreast_move (fun _ n => n) (fun _ => Notices.unflagged) m Run.parallel_unflagged same rel
      rw [moveForgetting_self] at same rel
      exact ⟨same, rel.toAlike, rel.backed.mono keepsPorts_move, rel.backed'.mono keepsPorts_move⟩

/-- After some of the moves a port was deprecated of which a call is like this. -/
def Made (s : Session) (moves : List Move) (x : Call) : Prop :=
  ∃ before o, before <+: moves ∧ (s.go before).blueprint.call? o = some x

theorem Made.append {more : List Move} {x : Call} (h : s.Made moves x) :
    s.Made (moves ++ more) x := by
  obtain ⟨before, o, first, called⟩ := h
  exact ⟨before, o, first.trans (List.prefix_append _ _), called⟩

def HeardAfter (s : Session) (known : List Call) (moves : List Move) : Prop :=
  (s.goForgetting (fun b _ => b.heedless) moves).blueprint = (s.go moves).blueprint ∧
    Run.Heard (s.go moves).blueprint (s.Made moves) known (s.go moves).run
      (s.goForgetting (fun b _ => b.heedless) moves).run

theorem HeardAfter.append (h : s.HeardAfter known moves) (more : List Move) :
    s.HeardAfter known (moves ++ more) := by
  induction more using List.reverseRecOn with
  | nil => simpa using h
  | append_singleton more m ih =>
      obtain ⟨same, rel⟩ := ih
      rw [← List.append_assoc, HeardAfter, go_concat, goForgetting_concat]
      have made (o : PortObject) (x : Call)
          (called : (s.go (moves ++ more)).blueprint.call? o = some x) : s.Made (moves ++ more) x :=
        ⟨_, o, List.prefix_refl _, called⟩
      obtain ⟨same, rel⟩ := abreast_move (fun _ n => n) (fun b _ => b.heedless) m
        (Run.parallel_heedless made) same rel
      rw [moveForgetting_self] at same rel
      obtain ⟨later, listed, warnings, told⟩ := rel.calls
      exact ⟨same, rel.tree, rel.cells, rel.backed.mono keepsPorts_move, later,
        fun x mem => (listed x mem).append, warnings, told⟩

theorem heardAfter_fresh : (fresh config cells).HeardAfter [] moves := by
  have start : (fresh config cells).HeardAfter [] [] :=
    ⟨rfl, rfl, rfl, backed_fresh, [], by simp, rfl, rfl, fun _ => rfl⟩
  exact start.append moves

/-- What `s` reports is what `s'` reports, whose ports have no flags. -/
structure NeedsNoFlags (s s' : Session) : Prop where
  blueprint : s'.blueprint = s.blueprint
  /-- trees, registries and logs, with all that was ever warned of -/
  alike : s.run.Alike s'.run
  report : ∀ id kind index, (s.run.reportPort s.blueprint id kind index).1 =
    ((s'.run.forgetting Notices.unflagged).reportPort s.blueprint id kind index).1
  evaluate : ∀ id c q, Abreast Run.Alike (evaluate s.blueprint id c q)
    (evaluateForgetting Notices.unflagged s.blueprint id c q) s.run s'.run

theorem needsNoFlags_of_backed (same : s'.blueprint = s.blueprint)
    (backed : Run.Backed s.blueprint s.run s'.run) : NeedsNoFlags s s' := by
  refine ⟨same, backed.toAlike, fun id kind index => ?_, fun id c q => ?_⟩
  · exact (Run.parallel_unflagged.forgetting backed).1.report.1
  · have answers : Abreast (Run.Backed s.blueprint)
        (evaluateForgetting (fun n => n) s.blueprint id c q)
        (evaluateForgetting Notices.unflagged s.blueprint id c q) s.run s'.run :=
      abreast_evaluate Run.parallel_unflagged backed
    rw [evaluateForgetting_self] at answers
    exact answers.mono Run.Backed.toAlike

/-- `calls` are all that were made. Of those `s` has told that were the first about something, and
`s'`, which forgets everything, of all. -/
structure ReportsFirsts (s s' : Session) (calls : List Call) : Prop where
  blueprint : s'.blueprint = s.blueprint
  tree : s'.run.tree = s.run.tree
  cells : s'.run.cells = s.run.cells
  all : s'.run.warnings = calls.map Call.warning
  told : s.run.Told calls
  size : ∀ name, (s.run.notices.registry name).size = (keysTo name calls).toFinset.card
  /-- the next call is told of if it is the first about something, and only then -/
  next : ∀ id kind index, (s.run.reportPort s.blueprint id kind index).1 = true ↔
    ∃ x, s.blueprint.call? ⟨id, kind, index⟩ = some x ∧ x.subject ∉ calls.map Call.subject

theorem HeardAfter.reportsFirsts (h : s.HeardAfter known moves) :
    ∃ later, (∀ x ∈ later, s.Made moves x) ∧
      ReportsFirsts (s.go moves) (s.goForgetting (fun b _ => b.heedless) moves)
        (known ++ later) := by
  obtain ⟨same, heard⟩ := h
  obtain ⟨later, made, warnings, told⟩ := heard.calls
  refine ⟨later, made, same, heard.tree, heard.cells, warnings, told, fun name => ?_,
    fun id kind index => ?_⟩
  · rw [told.registries, Registry.size, length_keysTo_firsts]
  · cases called : (s.go moves).blueprint.call? ⟨id, kind, index⟩ with
    | none => simp [Run.reportPort_eq, called]
    | some x => simpa using (told.report heard.backed called).1

theorem ReportsFirsts.heardAfter {calls : List Call} (h : ReportsFirsts (s.go moves)
    (s.goForgetting (fun b _ => b.heedless) moves) calls) (backed : (s.go moves).run.notices.Backed
      (s.go moves).blueprint) : s.HeardAfter calls moves :=
  ⟨h.blueprint, h.tree, h.cells, backed, [], by simp, by simpa using h.all, by simpa using h.told⟩

/-- A session with registries that are empty at first goes on as if ports had no flags. Of all calls
that report deprecated ports, those are told of that are the first to their registry about their
type of system, direction and name; and so it stays, whatever comes after. -/
theorem reported_once (config : Config) (cells : Cells) (moves more : List Move) :
    NeedsNoFlags ((fresh config cells).go moves)
      ((fresh config cells).goForgetting (fun _ => Notices.unflagged) moves) ∧
    ∃ calls later : List Call, (∀ x ∈ calls, (fresh config cells).Made moves x) ∧
      (∀ x ∈ later, (fresh config cells).Made (moves ++ more) x) ∧
      ReportsFirsts ((fresh config cells).go moves)
        ((fresh config cells).goForgetting (fun b _ => b.heedless) moves) calls ∧
      ReportsFirsts ((fresh config cells).go (moves ++ more))
        ((fresh config cells).goForgetting (fun b _ => b.heedless) (moves ++ more))
        (calls ++ later) := by
  have heard : (fresh config cells).HeardAfter [] moves := heardAfter_fresh
  obtain ⟨same, backed⟩ := backed_go config cells moves
  obtain ⟨calls, made, firsts⟩ := heard.reportsFirsts
  obtain ⟨later, made', firsts'⟩ := ((firsts.heardAfter heard.2.backed).append more).reportsFirsts
  exact ⟨needsNoFlags_of_backed same backed, calls, later, made, made', firsts, firsts'⟩

theorem run_perform_warn (ports : List PortObject) :
    (s.perform (ports.map fun o => .warn o.system o.kind o.index)).run =
      s.run.reportAll s.blueprint ports := by
  induction ports generalizing s with
  | nil => rfl
  | cons o rest ih =>
      rw [List.map_cons, perform, List.foldl_cons, ← perform, ih]
      rfl

/-- An evaluation reports like explicit calls for the ports that it reaches, one after the other. Where
warnings are off it reports nothing. -/
theorem evaluation_reports (wf : s.tree.WellFormed) (id : SystemId) (c : ContextId) (q : Query) :
    (∃ ports, Uses s.blueprint id c (.question q) s.run ports) ∧
      ∀ ports, Uses s.blueprint id c (.question q) s.run ports →
        SameReports
          (if s.tree.config.deprecationWarnings then
            s.perform (ports.map fun o => .warn o.system o.kind o.index) else s).run
          (s.apply (.evaluate id c q)).run := by
  obtain ⟨visits, makes⟩ : ∃ visits, Makes s.blueprint id c (.question q) s.run visits :=
    exists_makes wf
  refine ⟨makes.uses, fun ports uses => ?_⟩
  have told := (uses.tells wf).same
  rw [apply_ite run, run_perform_warn]
  exact told

def plants : List Move :=
  [.act (.addSystem "first" "Plant" "main"), .act (.declare 0 (.input "u" (.vector 1))),
    .act (.declare 0 (.markDeprecated .input 0 "use v")), .act (.addSystem "second" "Plant" "main"),
    .act (.declare 1 (.input "u" (.vector 1))),
    .turnTo { config := { deprecationWarnings := false } }, .act (.createContext 1 none),
    .act (.evaluate 1 0 (.input 0)),
    .act (.declare 1 (.markDeprecated .input 0 "")), .act (.evaluate 1 0 (.input 0)),
    .turnTo {}, .act (.createContext 1 none), .act (.evaluate 1 0 (.input 0)),
    .act (.warn 0 .input 0), .act (.declare 1 (.markDeprecated .input 0 "gone")),
    .act (.evaluate 1 0 (.input 0))]

example : ((fresh {} []).go plants).run.warnings =
    [.deprecatedPort "InputPort[0] (u) of System ::second (Plant)"
      "no deprecation details were provided"] := by decide +kernel

end Session

end Dataflow
