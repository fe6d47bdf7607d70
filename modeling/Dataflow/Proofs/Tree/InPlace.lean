import Dataflow.Proofs.Graph.InPlace
import Dataflow.Proofs.Tree.Operations
import Mathlib.Data.Finset.Card

namespace Dataflow

namespace Tree

variable {t : Tree} {l : Location} {pending visited : List Location}

def unvisited (t : Tree) (visited pending : List Location) : Finset Location :=
  (pending ++ t.links.map (·.subscriber)).toFinset \ visited.toFinset

theorem unvisited_tail : t.unvisited visited pending ⊆ t.unvisited visited (l :: pending) := by
  apply Finset.sdiff_subset_sdiff _ (Finset.Subset.refl _)
  simp

theorem card_unvisited_lt {fresh : List Location} (new : l ∉ visited)
    (linked : ∀ l' ∈ fresh, l' ∈ t.links.map (·.subscriber)) :
    (t.unvisited (l :: visited) (fresh ++ pending)).card <
      (t.unvisited visited (l :: pending)).card := by
  refine Finset.card_lt_card (Finset.ssubset_iff_of_subset ?_ |>.mpr ⟨l, ?_, ?_⟩)
  · intro l' mem
    simp only [unvisited, Finset.mem_sdiff, List.mem_toFinset, List.mem_append, List.mem_cons,
      not_or] at mem ⊢
    obtain ⟨(mem | mem) | mem, -, old⟩ := mem
    · exact ⟨.inr (linked l' mem), old⟩
    · exact ⟨.inl (.inr mem), old⟩
    · exact ⟨.inr mem, old⟩
  · simp [unvisited, new]
  · simp [unvisited]

theorem mem_links_of_leaving {touched : List Ticket} {id : ContextId}
    (mem : l ∈ (touched.flatMap fun u => t.linkedTo ⟨id, u⟩).reverse) :
    l ∈ t.links.map (·.subscriber) := by
  obtain ⟨u, -, linked⟩ := List.mem_flatMap.mp (List.mem_reverse.mp mem)
  exact List.mem_map_of_mem (f := Link.subscriber) (mem_linkedTo_iff.mp linked)

def spreadFrom (t : Tree) (visited : List Location) (total : Nat) :
    List Location → EStateM.Result Error Tree Nat
  | [] => .ok total t
  | l :: rest =>
      if l ∈ visited then spreadFrom t visited total rest
      else
        match t.contexts[l.context]? with
        | none => .error (.unknownContext l.context) t
        | some c =>
            match c.graph.noteChangeInPlace l.ticket with
            | .error e graph => .error e (t.modifyContext l.context ({ · with graph }))
            | .ok touched graph =>
                spreadFrom (t.modifyContext l.context ({ · with graph })) (l :: visited)
                  (total + touched.length)
                  ((touched.flatMap fun u => t.linkedTo ⟨l.context, u⟩).reverse ++ rest)
termination_by pending => ((t.unvisited visited pending).card, pending.length)
decreasing_by
  · exact Prod.Lex.right' _ (Finset.card_le_card unvisited_tail) (Nat.lt_succ_self _)
  · exact Prod.Lex.left _ _ (card_unvisited_lt ‹_› fun _ => mem_links_of_leaving)

def noteChangeInPlace (l : Location) : Attempt Tree Nat := fun t => t.spreadFrom [] 0 [l]

theorem unseen_cons {nodes : List Location} : nodes.filter (· ∉ l :: visited) =
    (nodes.filter (· ∉ visited)).filter (· ≠ l) := by
  rw [List.filter_filter]
  apply List.filter_congr
  intro l' _
  simp

theorem leavingFrom_of_found {c : Context} (found : t.contexts[l.context]? = some c) :
    (c.graph.downstream l.ticket).flatMap (fun u => t.linkedTo ⟨l.context, u⟩) = t.leavingFrom l := by
  simp [leavingFrom, touchedAt, found, List.flatMap_map]

theorem Stamped.leavingFrom {t' : Tree} {touched : Location → Prop} (h : Stamped t t' touched) :
    t'.leavingFrom = t.leavingFrom := by
  funext l
  have linked : t'.linkedTo = t.linkedTo := by
    funext l
    simp only [linkedTo, h.links]
  simp only [Tree.leavingFrom, h.touchedAt, linked]

theorem spreadFrom_new {c : Context} (pending : List Location) (n : Nat) (wf : t.WellFormed)
    (new : l ∉ visited) (found : t.contexts[l.context]? = some c)
    (tracked : l.ticket ∈ c.graph.tickets) :
    ∃ t₁ m, pass (t, n) l = .ok (t₁, m) ∧
      t.spreadFrom visited n (l :: pending) =
        t₁.spreadFrom (l :: visited) m ((t.leavingFrom l).reverse ++ pending) := by
  refine ⟨_, _, pass_eq_ok_iff.mpr ⟨c, found, tracked, rfl⟩, ?_⟩
  rw [spreadFrom, if_neg new]
  simp only [found, Graph.noteChangeInPlace_ok (wf.context found).graph tracked,
    leavingFrom_of_found found]

theorem spreadFrom_passes {nodes : List Location} (bound : Nat) (t : Tree)
    (visited pending : List Location) (n : Nat) (wf : t.WellFormed)
    (closed : ∀ k ∈ t.links, k.subscriber ∈ nodes)
    (known : ∀ p ∈ pending, p ∈ nodes ∧ t.Tracks p)
    (enough : (nodes.filter (· ∉ visited)).length ≤ bound) :
    ∃ t' n', (Search.visit t.leavingFrom (fun fresh rest => fresh.reverse ++ rest) bound
        (nodes.filter (· ∉ visited)) pending).foldlM pass (t, n) = .ok (t', n') ∧
      t.spreadFrom visited n pending = .ok n' t' := by
  match pending with
  | [] => exact ⟨t, n, by rw [Search.visit_nil]; rfl, by rw [spreadFrom]⟩
  | l :: rest =>
      obtain ⟨⟨here, tracked⟩, later⟩ := List.forall_mem_cons.mp known
      by_cases mem : l ∈ visited
      · have seen : l ∉ nodes.filter (· ∉ visited) := by simp [mem]
        rw [Search.visit_seen seen, spreadFrom, if_pos mem]
        exact spreadFrom_passes bound t visited rest n wf closed later enough
      · have new : l ∈ nodes.filter (· ∉ visited) := by simp [here, mem]
        match bound with
        | 0 =>
            rw [List.length_eq_zero_iff.mp (Nat.le_zero.mp enough)] at new
            cases new
        | bound + 1 =>
            have less := Search.length_filter_ne_lt new
            rw [← unseen_cons] at less
            obtain ⟨c, found, inside⟩ := tracked
            obtain ⟨t₁, m, first, same⟩ := spreadFrom_new rest n wf mem found inside
            have stamped := stamped_pass first
            rw [Search.visit_unseen new, ← unseen_cons, List.foldlM_cons, first, same,
              ← stamped.leavingFrom]
            refine spreadFrom_passes bound t₁ (l :: visited) _ m (wf.stamped stamped) ?_ ?_ (by omega)
            · rw [stamped.links]
              exact closed
            · rw [stamped.leavingFrom]
              refine List.forall_mem_append.mpr ⟨?_, fun p mem =>
                ⟨(later p mem).1, stamped.tracks (later p mem).2⟩⟩
              intro p mem
              obtain ⟨l', -, linked⟩ := mem_leavingFrom_iff.mp (List.mem_reverse.mp mem)
              exact ⟨closed _ linked, stamped.tracks (wf.links _ linked).2⟩
termination_by (bound, pending.length)

theorem noteChangeInPlace_ok (wf : t.WellFormed) (tracked : t.Tracks l) :
    ∃ t' n, t.noteChange l = .ok (t', n) ∧ noteChangeInPlace l t = .ok n t' := by
  have closed : ∀ k ∈ t.links, k.subscriber ∈ l :: t.links.map (·.subscriber) :=
    fun k mem => List.mem_cons_of_mem _ (List.mem_map_of_mem mem)
  have unseen : (l :: t.links.map (·.subscriber)).filter (· ∉ ([] : List Location)) =
      l :: t.links.map (·.subscriber) := by simp
  have made := spreadFrom_passes (l :: t.links.map (·.subscriber)).length t [] [l] 0 wf closed
    (by simpa using tracked) (by rw [unseen])
  rw [unseen] at made
  exact made

theorem requireTracker_error {e : Error} (refused : t.requireTracker l = .error e) :
    (t.contexts[l.context]? = none ∧ e = .unknownContext l.context) ∨
      ∃ c, t.contexts[l.context]? = some c ∧ l.ticket ∉ c.graph.tickets ∧
        e = .unknownTracker l.ticket := by
  simp only [requireTracker, bind, Except.bind] at refused
  cases found : t.contexts[l.context]? with
  | none => exact .inl ⟨rfl, by simpa [Tree.context, found] using refused.symm⟩
  | some c =>
      rw [context_eq_ok_iff.mpr found] at refused
      cases tracked : c.graph.find? l.ticket with
      | none =>
          refine .inr ⟨c, rfl, Graph.find?_eq_none_iff.mp tracked, ?_⟩
          simpa [Graph.tracker, tracked] using refused.symm
      | some k => simp [Graph.tracker, tracked, pure, Except.pure] at refused

theorem modifyContext_same {c : Context} {f : Context → Context} {id : ContextId}
    (found : t.contexts[id]? = some c) (same : f c = c) : t.modifyContext id f = t := by
  have contexts : t.contexts.modify id f = t.contexts := by
    apply List.ext_getElem?
    intro other
    rw [List.getElem?_modify]
    by_cases here : id = other
    · subst here
      simp [found, same]
    · simp [here]
  simp only [modifyContext, contexts]

theorem noteChange_refused {e : Error} (refused : t.requireTracker l = .error e) :
    t.noteChange l = .error e ∧ noteChangeInPlace l t = .error e t := by
  have first : ∃ rest, t.passes l = l :: rest :=
    ⟨_, Search.visit_unseen List.mem_cons_self⟩
  obtain ⟨rest, passes⟩ := first
  rw [noteChange, passes, List.foldlM_cons]
  rcases requireTracker_error refused with ⟨absent, rfl⟩ | ⟨c, found, untracked, rfl⟩
  · simp [pass, Tree.context, absent, bind, Except.bind, noteChangeInPlace, spreadFrom]
  · have none := Graph.find?_eq_none_iff.mpr untracked
    have same : t.modifyContext l.context ({ · with graph := c.graph }) = t :=
      modifyContext_same found rfl
    simp [pass, Tree.context, found, bind, Except.bind, Graph.noteChange, Graph.tracker, none,
      noteChangeInPlace, spreadFrom, Graph.noteChangeInPlace, same]

end Tree

end Dataflow
