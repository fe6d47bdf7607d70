import Dataflow.Proofs.Evaluation.Abreast
import Dataflow.Proofs.Evaluation.Outline
import Dataflow.Proofs.Reports.Calls

namespace Dataflow

variable {b : Blueprint} {r r' : Run} {id : SystemId} {kind : PortKind} {index : Nat} {x : Call}
  {calls known : List Call} {P : Call → Prop} {o : PortObject}

namespace Blueprint

theorem call?_eq_some_iff : b.call? o = some x ↔
    ∃ port message, (b.system o.system).port? o.kind o.index = some port ∧
      port.deprecation = some message ∧
      x = ⟨(b.system o.system).registry, ⟨(b.system o.system).typeName, o.kind, port.name⟩,
        .deprecatedPort (port.fullDescription o.kind o.index (b.pathname o.system)
          (b.system o.system).typeName) (deprecationDetails message)⟩ := by
  simp only [call?, Option.bind_eq_bind, Option.bind_eq_some_iff, Option.pure_def, Option.some.injEq,
    @eq_comm _ _ x]
  constructor
  · rintro ⟨port, found, message, deprecated, made⟩
    exact ⟨port, message, found, deprecated, made⟩
  · rintro ⟨port, message, found, deprecated, made⟩
    exact ⟨port, found, message, deprecated, made⟩

theorem level_warning (called : b.call? o = some x) : x.warning.level = .warn := by
  obtain ⟨port, message, -, -, rfl⟩ := call?_eq_some_iff.mp called
  rfl

theorem registry_heedless (called : b.call? o = some x) :
    b.heedless.registry x.registry = .always := by
  obtain ⟨port, message, found, -, rfl⟩ := call?_eq_some_iff.mp called
  have listed : b.system o.system ∈ b.systems := by
    simp only [system, List.getD_eq_getElem?_getD] at found ⊢
    cases exists_ : b.systems[o.system]? with
    | none =>
        rw [exists_] at found
        cases kind : o.kind <;> simp [kind, noSystem, System.port?] at found
    | some s => exact List.mem_of_getElem? exists_
  have known : (b.heedless.registries.lookup (b.system o.system).registry).isSome := by
    rw [List.lookup_isSome_iff]
    exact ⟨((b.system o.system).registry, .always), List.mem_map_of_mem listed, by simp⟩
  obtain ⟨registry, at_⟩ := Option.isSome_iff_exists.mp known
  obtain ⟨before, after, split, -⟩ := List.lookup_eq_some_iff.mp at_
  have mem : ((b.system o.system).registry, registry) ∈ b.heedless.registries := by simp [split]
  obtain ⟨s, -, same⟩ := List.mem_map.mp mem
  obtain ⟨-, rfl⟩ := Prod.mk.inj same
  simp [Notices.registry, at_]

theorem report_heedless (called : b.call? o = some x) :
    (b.heedless.report o x.registry x.key).1 = true := by
  have unasked : o ∉ b.heedless.asked := List.not_mem_nil
  unfold Notices.report
  rw [if_neg unasked]
  exact congrArg (fun r => (r.insertIfAbsent x.key).1) (registry_heedless called)

end Blueprint

namespace Run

structure Alike (r r' : Run) : Prop where
  tree : r'.tree = r.tree
  cells : r'.cells = r.cells
  log : r'.log = r.log
  registries : ∀ name, r'.notices.registry name = r.notices.registry name

structure Backed (b : Blueprint) (r r' : Run) : Prop extends Alike r r' where
  backed : r.notices.Backed b
  backed' : r'.notices.Backed b

theorem Backed.report (h : Backed b r r') :
    (r.reportPort b id kind index).1 = (r'.reportPort b id kind index).1 ∧
      Backed b (r.reportPort b id kind index).2 (r'.reportPort b id kind index).2 := by
  rw [reportPort_eq, reportPort_eq]
  cases called : b.call? ⟨id, kind, index⟩ with
  | none => exact ⟨rfl, h⟩
  | some x =>
      obtain ⟨due, registries⟩ := Notices.report_of_backed h.backed called
      obtain ⟨due', registries'⟩ := Notices.report_of_backed h.backed' called
      rw [h.registries] at due'
      refine ⟨due.trans due'.symm, ⟨h.tree, h.cells, ?_, fun name => ?_⟩, h.backed.report called,
        h.backed'.report called⟩
      · simp only [h.log, due, due']
      · simp only [registries, registries', h.registries]

theorem parallel_unflagged : Evaluation.Parallel b (fun n => n) Notices.unflagged
    (fun r r' => Backed b r r' ∧ r'.notices.asked = []) (Backed b) where
  tree h := h.tree
  cells h := h.cells
  setCells h _ := ⟨⟨h.tree, rfl, h.log, h.registries⟩, h.backed, h.backed'⟩
  silently h _ events _ :=
    ⟨⟨rfl, h.cells, congrArg (· ++ events) h.log, h.registries⟩, h.backed, h.backed'⟩
  forgetting h := ⟨⟨⟨h.tree, h.cells, h.log, h.registries⟩, h.backed, h.backed'.unflagged⟩, rfl⟩
  stale h := h.1
  report h _ _ _ := h.1.report.2

structure Told (r : Run) (calls : List Call) : Prop where
  warnings : r.warnings = (firsts calls).map Call.warning
  registries : ∀ name, r.notices.registry name = .remembering (keysTo name (firsts calls))

theorem Told.report (told : r.Told calls) (backed : r.notices.Backed b)
    (called : b.call? ⟨id, kind, index⟩ = some x) :
    ((r.reportPort b id kind index).1 = true ↔ x.subject ∉ calls.map Call.subject) ∧
      (r.reportPort b id kind index).2.Told (calls ++ [x]) := by
  obtain ⟨due, registries⟩ := Notices.report_of_backed backed called
  have known : x.key ∈ keysTo x.registry (firsts calls) ↔ x.subject ∈ calls.map Call.subject :=
    mem_keysTo.trans mem_subjects_firsts
  simp only [reportPort_eq, called]
  simp only [told.registries, Registry.insertIfAbsent] at due registries
  by_cases before : x.subject ∈ calls.map Call.subject
  · have firsts : firsts (calls ++ [x]) = firsts calls := by
      rw [firsts_concat, if_pos (mem_subjects_firsts.mpr before)]
    simp only [known.mpr before, if_true] at due registries
    refine ⟨by simp [due, before], ?_, fun name => ?_⟩
    · simp only [Run.warnings, due, firsts, Bool.false_eq_true, if_false, List.append_nil]
      exact told.warnings
    · simp only [registries, firsts]
      split
      · rename_i same
        rw [same]
      · rfl
  · have firsts : firsts (calls ++ [x]) = firsts calls ++ [x] := by
      rw [firsts_concat, if_neg (mem_subjects_firsts.not.mpr before)]
    simp only [known.not.mpr before, if_false] at due registries
    refine ⟨by simp [due, before], ?_, fun name => ?_⟩
    · have warned := told.warnings
      simp only [Run.warnings] at warned
      simp [Run.warnings, due, firsts, Blueprint.level_warning called, warned]
    · simp only [registries, firsts, keysTo, List.filter_append, List.map_append]
      by_cases same : name = x.registry
      · simp [same]
      · simp [same, Ne.symm same]

/-- Of all calls, first those that are `known`, the one run tells once and the other each time. -/
structure Heard (b : Blueprint) (P : Call → Prop) (known : List Call) (r r' : Run) : Prop where
  tree : r'.tree = r.tree
  cells : r'.cells = r.cells
  backed : r.notices.Backed b
  calls : ∃ later, (∀ x ∈ later, P x) ∧ r'.warnings = (known ++ later).map Call.warning ∧
    r.Told (known ++ later)

theorem Heard.report (h : Heard b P known r r') (made : ∀ o x, b.call? o = some x → P x)
    (heedless : r'.notices = b.heedless) :
    Heard b P known (r.reportPort b id kind index).2 (r'.reportPort b id kind index).2 := by
  cases called : b.call? ⟨id, kind, index⟩ with
  | none => simpa only [reportPort_eq, called] using h
  | some x =>
      obtain ⟨later, listed, warnings', told⟩ := h.calls
      have told' := (told.report h.backed called).2
      rw [List.append_assoc] at told'
      refine ⟨?_, ?_, ?_, later ++ [x], ?_, ?_, told'⟩
      · simp only [Evaluation.tree_reportPort, h.tree]
      · simp only [reportPort_eq, called, h.cells]
      · simpa only [reportPort_eq, called] using h.backed.report called
      · exact List.forall_mem_append.mpr ⟨listed, by simpa using made _ x called⟩
      · simp only [Run.warnings] at warnings'
        simp [Run.warnings, reportPort_eq, called, heedless, Blueprint.report_heedless called,
          warnings', Blueprint.level_warning called]

theorem warnings_silently {t : Tree} {events : List Event} (silent : ∀ e ∈ events, e.level ≠ .warn) :
    (r.silently t events).warnings = r.warnings := by
  simp only [Run.warnings, silently, List.filter_append, List.append_right_eq_self]
  exact List.filter_eq_nil_iff.mpr fun e mem => by simpa using silent e mem

theorem parallel_heedless (made : ∀ o x, b.call? o = some x → P x) :
    Evaluation.Parallel b (fun n => n) (fun _ => b.heedless)
      (fun r r' => Heard b P known r r' ∧ r'.notices = b.heedless) (Heard b P known) where
  tree h := h.tree
  cells h := h.cells
  setCells h _ := by
    obtain ⟨later, listed, warnings', told⟩ := h.calls
    exact ⟨h.tree, rfl, h.backed, later, listed, warnings', told.warnings, told.registries⟩
  silently h t events silent := by
    obtain ⟨later, listed, warnings', told⟩ := h.calls
    refine ⟨rfl, h.cells, h.backed, later, listed, ?_, ?_, told.registries⟩
    · rw [warnings_silently silent, warnings']
    · rw [warnings_silently silent, told.warnings]
  forgetting h := ⟨⟨h.tree, h.cells, h.backed, h.calls⟩, rfl⟩
  stale h := h.1
  report h _ _ _ := h.1.report made h.2

end Run

end Dataflow
