import Dataflow.Session
import Mathlib.Data.Finset.Card
import Mathlib.Data.List.Induction

namespace Dataflow

structure Call where
  registry : String
  key : PortKey
  /-- what is logged if the registry lets the call through -/
  warning : Event

/-- What has to be the same for two calls to be about one thing. -/
def Call.subject (x : Call) : String × PortKey := (x.registry, x.key)

def Blueprint.call? (b : Blueprint) (o : PortObject) : Option Call := do
  let s := b.system o.system
  let port ← s.port? o.kind o.index
  let message ← port.deprecation
  return ⟨s.registry, ⟨s.typeName, o.kind, port.name⟩, .deprecatedPort
    (port.fullDescription o.kind o.index (b.pathname o.system) s.typeName)
    (deprecationDetails message)⟩

def firsts (calls : List Call) : List Call :=
  calls.foldl (fun kept x => if x.subject ∈ kept.map Call.subject then kept else kept ++ [x]) []

section firsts

variable {calls : List Call} {x : Call} {p : String × PortKey} {name : String} {key : PortKey}

theorem firsts_concat : firsts (calls ++ [x]) =
    if x.subject ∈ (firsts calls).map Call.subject then firsts calls else firsts calls ++ [x] := by
  simp [firsts, List.foldl_append]

theorem mem_subjects_firsts : p ∈ (firsts calls).map Call.subject ↔ p ∈ calls.map Call.subject := by
  induction calls using List.reverseRecOn with
  | nil => rfl
  | append_singleton calls x ih =>
      simp only [firsts_concat, List.map_append, List.mem_append, ← ih]
      split
      · rename_i known
        refine ⟨.inl, fun mem => mem.elim id fun last => ?_⟩
        rw [List.mem_singleton.mp last]
        exact known
      · simp only [List.map_append, List.mem_append]

theorem nodup_subjects_firsts : ((firsts calls).map Call.subject).Nodup := by
  induction calls using List.reverseRecOn with
  | nil => exact .nil
  | append_singleton calls x ih =>
      rw [firsts_concat]
      split
      · exact ih
      · rename_i new
        rw [List.map_append]
        exact ih.append (List.nodup_singleton _) (by simpa using new)

def keysTo (name : String) (calls : List Call) : List PortKey :=
  (calls.filter (·.registry = name)).map Call.key

theorem mem_keysTo : key ∈ keysTo name calls ↔ (name, key) ∈ calls.map Call.subject := by
  simp only [keysTo, List.mem_map, List.mem_filter, decide_eq_true_eq, Call.subject, Prod.mk.injEq]
  exact exists_congr fun x => and_assoc

theorem nodup_keysTo_firsts : (keysTo name (firsts calls)).Nodup := by
  have distinct : ((firsts calls).map Call.subject).Nodup := nodup_subjects_firsts
  have kept := (List.pairwise_map.mp distinct).filter (·.registry = name)
  refine List.pairwise_map.mpr (kept.imp_of_mem fun {x y} memX memY differ same => differ ?_)
  have toX : x.registry = name := by simpa using (List.mem_filter.mp memX).2
  have toY : y.registry = name := by simpa using (List.mem_filter.mp memY).2
  exact Prod.ext (toX.trans toY.symm) same

theorem length_keysTo_firsts :
    (keysTo name (firsts calls)).length = (keysTo name calls).toFinset.card := by
  rw [← List.toFinset_card_of_nodup nodup_keysTo_firsts]
  congr 1
  ext key
  simp only [List.mem_toFinset, mem_keysTo, mem_subjects_firsts]

end firsts

namespace Notices

variable {n : Notices} {name other : String} {r : Registry PortKey} {b : Blueprint} {o : PortObject}
  {x : Call}

theorem lookup_filter_ne {registries : List (String × Registry PortKey)} (differ : other ≠ name) :
    (registries.filter (·.1 ≠ name)).lookup other = registries.lookup other := by
  induction registries with
  | nil => rfl
  | cons entry rest ih =>
      rw [List.filter_cons]
      split
      · rw [List.lookup_cons, List.lookup_cons, ih]
      · rename_i removed
        have here : entry.1 = name := by simpa using removed
        rw [ih, List.lookup_cons, here, beq_eq_false_iff_ne.mpr differ]

theorem registry_setRegistry :
    (n.setRegistry name r).registry other = if other = name then r else n.registry other := by
  by_cases same : other = name
  · simp [registry, setRegistry, same]
  · simp only [registry, setRegistry, same, if_false, List.lookup_cons,
      beq_eq_false_iff_ne.mpr same, lookup_filter_ne same]

/-- All registries remember what they were asked, and know the ports that have asked. -/
structure Backed (b : Blueprint) (n : Notices) : Prop where
  remembering : ∀ name, ∃ keys, n.registry name = .remembering keys
  asked : ∀ o ∈ n.asked, ∃ x keys, b.call? o = some x ∧ n.registry x.registry = .remembering keys ∧
    x.key ∈ keys

theorem report_of_backed (h : n.Backed b) (called : b.call? o = some x) :
    (n.report o x.registry x.key).1 = ((n.registry x.registry).insertIfAbsent x.key).1 ∧
    ∀ name, (n.report o x.registry x.key).2.registry name =
      if name = x.registry then ((n.registry x.registry).insertIfAbsent x.key).2
      else n.registry name := by
  unfold report
  split
  · rename_i asked
    obtain ⟨x', keys, called', set, known⟩ := h.asked o asked
    obtain rfl := Option.some.inj (called.symm.trans called')
    simp only [set, Registry.insertIfAbsent, known, if_true, true_and]
    intro name
    split
    · rename_i same
      rw [same, set]
    · rfl
  · exact ⟨rfl, fun name => registry_setRegistry⟩

theorem Backed.report (h : n.Backed b) (called : b.call? o = some x) :
    (n.report o x.registry x.key).2.Backed b := by
  obtain ⟨-, registries⟩ := report_of_backed h called
  obtain ⟨keys, set⟩ := h.remembering x.registry
  obtain ⟨keys', set', grown, inserted⟩ : ∃ keys',
      ((n.registry x.registry).insertIfAbsent x.key).2 = .remembering keys' ∧ keys ⊆ keys' ∧
        x.key ∈ keys' := by
    rw [set]
    by_cases known : x.key ∈ keys
    · exact ⟨keys, by simp [Registry.insertIfAbsent, known], List.Subset.refl _, known⟩
    · exact ⟨keys ++ [x.key], by simp [Registry.insertIfAbsent, known], by simp, by simp⟩
  rw [set'] at registries
  refine ⟨fun name => ?_, fun o' asked => ?_⟩
  · rw [registries]
    split
    · exact ⟨keys', rfl⟩
    · exact h.remembering name
  · have before : o' = o ∨ o' ∈ n.asked := by
      unfold Notices.report at asked
      split at asked
      · exact .inr asked
      · exact List.mem_cons.mp asked
    rcases before with rfl | before
    · exact ⟨x, keys', called, by simp [registries], inserted⟩
    · obtain ⟨x', keys₁, called', set₁, known⟩ := h.asked o' before
      by_cases same : x'.registry = x.registry
      · rw [same, set] at set₁
        obtain rfl := Registry.remembering.inj set₁
        exact ⟨x', keys', called', by simp [registries, same], grown known⟩
      · exact ⟨x', keys₁, called', by simp [registries, same, set₁], known⟩

def unflagged (n : Notices) : Notices := { n with asked := [] }

theorem Backed.unflagged (h : n.Backed b) : n.unflagged.Backed b :=
  ⟨h.remembering, fun _ mem => (List.not_mem_nil mem).elim⟩

end Notices

/-- No port has asked, and no registry remembers anything. -/
def Blueprint.heedless (b : Blueprint) : Notices where
  registries := b.systems.map fun s => (s.registry, .always)

namespace Run

variable {r : Run} {b : Blueprint} {id : SystemId} {kind : PortKind} {index : Nat} {x : Call}

def warnings (r : Run) : List Event := r.log.filter (·.level = .warn)

theorem reportPort_eq : r.reportPort b id kind index =
    match b.call? ⟨id, kind, index⟩ with
    | none => (false, r)
    | some x =>
        let (due, notices) := r.notices.report ⟨id, kind, index⟩ x.registry x.key
        (due, { r with notices, log := r.log ++ if due then [x.warning] else [] }) := by
  simp only [reportPort, Blueprint.call?]
  cases (b.system id).port? kind index with
  | none => rfl
  | some port =>
      dsimp only [Option.bind_eq_bind, Option.bind_some]
      cases port.deprecation with
      | none => rfl
      | some message =>
          dsimp only [Option.bind_some, Option.pure_def]
          split <;> simp_all [note]

end Run

end Dataflow
