import Dataflow.Proofs.Evaluation.Stages

namespace Dataflow
open Relation

variable {b : Blueprint} {ask ask' : Answerer} {x y : Evaluation.Stage} {running : List Place}
  {id : SystemId} {c : ContextId} {q : Query} {r : Run} {index : Nat} {α β : Type}

def Coincide (f f' : Eval α) (r : Run) : Prop := f r = f' r ∧ ∀ r', f r ≠ .error .exhausted r'

namespace Coincide

theorem pure (a : α) : Coincide (Pure.pure a) (Pure.pure a) r := ⟨rfl, fun _ h => nomatch h⟩

theorem fail (e : Error) : Coincide (Eval.fail e : Eval α) (Eval.fail e) r :=
  ⟨rfl, fun _ h => nomatch h⟩

theorem bind {x x' : Eval α} {f f' : α → Eval β} (first : Coincide x x' r)
    (later : ∀ a r', x r = .ok a r' → Coincide (f a) (f' a) r') : Coincide (x >>= f) (x' >>= f') r := by
  obtain ⟨same, deep⟩ := first
  simp only [Coincide, bind_apply, ← same]
  cases made : x r with
  | ok a r' => exact later a r' made
  | error stop r' =>
      refine ⟨rfl, fun r'' h => deep r'' ?_⟩
      rw [made]
      cases h
      rfl

theorem bindOfExcept {x : Except Error α} {f f' : α → Eval β}
    (later : ∀ a, x = .ok a → Coincide (f a) (f' a) r) :
    Coincide (Eval.ofExcept x >>= f) (Eval.ofExcept x >>= f') r := by
  cases x with
  | error e => exact ⟨rfl, fun _ h => nomatch h⟩
  | ok a => exact later a rfl

theorem bindGet {f f' : Run → Eval β} (later : Coincide (f r) (f' r) r) :
    Coincide (get >>= f) (get >>= f') r := later

theorem bindModify {g : Run → Run} {f f' : PUnit → Eval β} (later : Coincide (f ⟨⟩) (f' ⟨⟩) (g r)) :
    Coincide (modify g >>= f) (modify g >>= f') r := later

end Coincide

namespace Evaluation

def Alike (b : Blueprint) (ask ask' : Answerer) (x : Stage) : Prop :=
  ∀ running id c q r, TransGen (Leads b ask) x ⟨running, id, c, .question q, r⟩ →
    Coincide (ask id c q) (ask' id c q) r

theorem Alike.here (h : Alike b ask ask' x)
    (leads : Leads b ask x ⟨running, id, c, .question q, r⟩) : Coincide (ask id c q) (ask' id c q) r :=
  h _ _ _ _ _ (.single leads)

theorem Alike.later (h : Alike b ask ask' x) (leads : Leads b ask x y) : Alike b ask ask' y :=
  fun _ _ _ _ _ path => h _ _ _ _ _ (.head leads path)

end Evaluation

open Evaluation

theorem Script.run_coincide {script : Script}
    (asks : Alike b ask ask' ⟨running, id, c, .script script, r⟩) :
    script.run (ask id c) r = script.run (ask' id c) r ∧
      (script.run (ask id c) r).1.2 ≠ some .exhausted := by
  induction script generalizing r with
  | finish out => exact ⟨rfl, by simp [run]⟩
  | stop out f => exact ⟨rfl, by simp [run]⟩
  | ask out q resume ih =>
      obtain ⟨same, deep⟩ := asks.here .ask
      simp only [run, ← same]
      cases answer : ask id c q r with
      | ok v r' => exact ih _ (asks.later (.answered answer))
      | error cause r' =>
          cases cause with
          | exhausted => exact absurd answer (deep r')
          | fault f =>
              cases f with
              | panicked message => exact ⟨rfl, by simp⟩
              | failed e => exact ih _ (asks.later (.heard answer))
  | read cell resume ih => exact ih _ (asks.later .read)
  | write cell x rest ih => exact ih (asks.later .write)

namespace Evaluation

theorem coincide_childOutput {d : Diagram} {child output : Nat}
    (asks : ∀ system below, HasChild d r.tree c child system below →
      Coincide (ask system below (.boundaryOutput output))
        (ask' system below (.boundaryOutput output)) r) :
    Coincide (childOutput ask d c child output) (childOutput ask' d c child output) r := by
  refine .bindGet ?_
  cases foundBelow : (r.tree.children c)[child]? with
  | none => exact .fail _
  | some below =>
      cases foundSystem : d.children[child]? with
      | none => exact .fail _
      | some system => exact asks system below ⟨foundBelow, foundSystem⟩

theorem coincide_fedInput {d : Diagram} {port : Nat}
    (asks : ∀ child feed, d.childIndex? id = some child → d.feed? child port = some feed →
      match feed with
      | .ownInput own => Coincide (ask d.owner c (.input own)) (ask' d.owner c (.input own)) r
      | .constant _ => True
      | .sibling source output => ∀ system below, HasChild d r.tree c source system below →
          Coincide (ask system below (.boundaryOutput output))
            (ask' system below (.boundaryOutput output)) r) :
    Coincide (fedInput ask d c id port) (fedInput ask' d c id port) r := by
  unfold fedInput
  cases at_ : d.childIndex? id with
  | none => exact .pure _
  | some child =>
      dsimp only
      cases fed : d.feed? child port with
      | none => exact .pure _
      | some feed =>
          have answered := asks child feed at_ fed
          cases feed with
          | ownInput own => exact answered
          | constant v => exact .pure _
          | sibling source output => exact coincide_childOutput answered

theorem coincide_inputValue {func : String} {port : Nat} (asked : q.inputPort? = some port)
    (asks : ∀ id' c' q' r', PassedOn b r id c q id' c' q' r' →
      Coincide (ask id' c' q') (ask' id' c' q') r') :
    Coincide (inputValue b ask func id c port) (inputValue b ask' func id c port) r := by
  refine .bindOfExcept fun _ _ => .bindModify (.bindGet (.bindOfExcept fun context found => ?_))
  rw [tree_usePort, Tree.context_eq_ok_iff] at found
  cases free : context.fixed? port with
  | some v => exact .pure _
  | none =>
      cases diagram : b.parentDiagram? id with
      | none => exact .pure _
      | some d =>
          cases parent : context.parent with
          | none => exact .pure _
          | some above =>
              refine coincide_fedInput fun child feed at_ fed => ?_
              have feeds : FeedOf b r.tree id c port d above feed :=
                ⟨context, child, found, free, diagram, parent, at_, fed⟩
              cases feed with
              | ownInput own => exact asks _ _ _ _ (.ownInput asked feeds)
              | constant v => trivial
              | sibling source output =>
                  intro system below child
                  rw [tree_usePort] at child
                  exact asks _ _ _ _ (.sibling asked feeds child)

theorem coincide_typedInput {type : ValueType} {port : Nat}
    (input : Coincide (inputValue b ask "EvalInputValue" id c port)
      (inputValue b ask' "EvalInputValue" id c port) r) :
    Coincide (typedInput b ask type id c port) (typedInput b ask' type id c port) r := by
  refine .bind input fun v r' _ => ?_
  cases v with
  | none => exact .pure _
  | some v =>
      dsimp only
      split
      · exact .pure _
      · exact .bindOfExcept fun _ _ => .fail _

theorem coincide_recompute {e : Entry} {v : Value} {current : Serial}
    (producers : (e.producer v).run (ask id c) (r.beginProducer c index) =
        (e.producer v).run (ask' id c) (r.beginProducer c index) ∧
      ((e.producer v).run (ask id c) (r.beginProducer c index)).1.2 ≠ some .exhausted) :
    Coincide (recompute ask id c index e v current) (recompute ask' id c index e v current) r := by
  obtain ⟨same, deep⟩ := producers
  simp only [Coincide, recompute, ← same, true_and]
  cases ended : ((e.producer v).run (ask id c) (r.beginProducer c index)).1.2 with
  | none =>
      intro r' cut
      cases cut
  | some stop =>
      intro r' exhausted
      cases exhausted
      exact deep ended

theorem coincide_entryValue {r₀ : Run}
    (visits : ∀ e, (b.system id).entries[index]? = some e → Visits b r₀ id c q index e r)
    (asks : Alike b ask ask' ⟨running, id, c, .question q, r₀⟩) :
    Coincide (entryValue b ask id c index) (entryValue b ask' id c index) r := by
  simp only [Coincide, entryValue_eq, System.entry]
  cases declared : (b.system id).entries[index]? with
  | none => exact ⟨rfl, fun _ => nofun⟩
  | some e =>
      cases found : slotOf r.tree c index with
      | error e => exact ⟨rfl, fun _ => nofun⟩
      | ok result =>
          obtain ⟨slot, current⟩ := result
          dsimp only
          cases stale : slot.fresh? current with
          | some v => exact ⟨rfl, fun _ => nofun⟩
          | none =>
              cases value : slot.value with
              | none => exact ⟨rfl, fun _ => nofun⟩
              | some v =>
                  have begins : Leads b ask ⟨running, id, c, .question q, r₀⟩ _ :=
                    .begin (visits e declared) found stale value
                  exact coincide_recompute (Script.run_coincide (asks.later begins))

theorem coincide_outputValue {output : Nat} {r₀ : Run}
    (visits : ∀ index e, Backs (b.system id) output index → (b.system id).entries[index]? = some e →
      Visits b r₀ id c q index e (r₀.usePort b id .output output))
    (asks : Alike b ask ask' ⟨running, id, c, .question q, r₀⟩) :
    Coincide (outputValue b ask id c output) (outputValue b ask' id c output) r₀ := by
  refine .bindOfExcept fun port declared => .bindModify ?_
  have found : (b.system id).outputs[output]? = some port := by
    simp only [System.output] at declared
    split at declared <;> simp_all
  cases own : port.child.isNone with
  | false => exact .fail _
  | true =>
      cases backed : (b.system id).entryFor? port.dependency with
      | none => exact .fail _
      | some index =>
          exact coincide_entryValue (visits index · ⟨port, found, own, backed⟩) asks

theorem coincide_respond (asks : Alike b ask ask' ⟨running, id, c, .question q, r⟩) :
    Coincide (respond b ask id c q) (respond b ask' id c q) r := by
  refine .bindGet (.bindOfExcept fun _ valid => ?_)
  have passed (id' : SystemId) (c' : ContextId) (q' : Query) (r' : Run)
      (h : PassedOn b r id c q id' c' q' r') : Coincide (ask id' c' q') (ask' id' c' q') r' :=
    asks.here (.passOn valid h)
  cases q with
  | input port => exact coincide_inputValue rfl passed
  | requiredInput port =>
      refine .bind (coincide_inputValue rfl passed) fun v r' _ => ?_
      cases v with
      | none => exact .bindOfExcept fun _ _ => .fail _
      | some v => exact .pure _
  | inputAs type port => exact coincide_typedInput (coincide_inputValue rfl passed)
  | vectorInput port =>
      refine .bindOfExcept fun declared _ => ?_
      cases declared.type.isVector with
      | false => exact .fail _
      | true => exact coincide_typedInput (coincide_inputValue rfl passed)
  | entry index =>
      refine .bind (coincide_entryValue (fun e declared => ?_) asks) fun _ _ _ => .pure _
      exact ⟨valid, .entry, declared⟩
  | output output =>
      refine .bind (coincide_outputValue (fun index e backs declared => ?_) asks) fun _ _ _ => .pure _
      exact ⟨valid, .output backs, declared⟩
  | boundaryOutput output =>
      have ownOutput (own : (b.diagram? id).bind (·.exportedOutput? output) = none) :
          Coincide (do return some (← outputValue b ask id c output))
            (do return some (← outputValue b ask' id c output)) r :=
        .bind (coincide_outputValue (fun index e backs declared =>
          ⟨valid, .boundaryOutput own backs, declared⟩) asks) fun _ _ _ => .pure _
      dsimp only
      cases diagram : b.diagram? id with
      | none => exact ownOutput (by simp [diagram])
      | some d =>
          dsimp only
          cases exported : d.exportedOutput? output with
          | none => exact ownOutput (by simp [diagram, exported])
          | some e =>
              exact coincide_childOutput fun system below child =>
                passed _ _ _ _ (.exported diagram exported child)

theorem coincide_answer {depth depth' : Nat} (wf : r.tree.WellFormed)
    (enough : Stage.need ⟨[], id, c, .question q, r⟩ ≤ depth)
    (enough' : Stage.need ⟨[], id, c, .question q, r⟩ ≤ depth') :
    Coincide (answer b depth id c q) (answer b depth' id c q) r := by
  induction depth generalizing depth' id c q r with
  | zero => exact absurd enough (by simp [Stage.need])
  | succ depth ih =>
      cases depth' with
      | zero => exact absurd enough' (by simp [Stage.need])
      | succ depth' =>
          apply coincide_respond
          intro running id' c' q' r' path
          obtain ⟨sound, less⟩ := Stage.Sound.need_lt_later (keeps_answer (balanced b) depth)
            (Stage.sound_start wf) path
          exact ih sound.wellFormed (Nat.le_of_lt_succ (Nat.lt_of_lt_of_le less enough))
            (Nat.le_of_lt_succ (Nat.lt_of_lt_of_le less enough'))

theorem need_le_depthBound : Stage.need ⟨[], id, c, .question q, r⟩ ≤ r.tree.depthBound := by
  have climb : q.climb r.tree.size c ≤ 2 * r.tree.size := Query.climb_le
  have filled := Nat.mul_le_mul_right (2 * r.tree.size + 2) (Tree.card_filled_le (t := r.tree))
  simp only [Stage.need, Tree.depthBound, Nat.add_mul, Nat.one_mul]
  omega

theorem coincide_evaluate {depth : Nat} (wf : r.tree.WellFormed)
    (enough : Stage.need ⟨[], id, c, .question q, r⟩ ≤ depth) :
    Coincide (answer b depth id c q) (evaluate b id c q) r := by
  have settled : Coincide (answer b depth id c q) (answer b r.tree.depthBound id c q) r :=
    coincide_answer wf enough need_le_depthBound
  exact ⟨settled.1, settled.2⟩

/-- An evaluation that ends by itself: it is never cut off, it comes to what it would come to at any
greater depth, and so to what the questions it leads to come to. -/
structure Ends (b : Blueprint) (id : SystemId) (c : ContextId) (q : Query) (r : Run) : Prop where
  uncut : ∀ r', evaluate b id c q r ≠ .error .exhausted r'
  deeper : ∀ depth, r.tree.depthBound ≤ depth → answer b depth id c q r = evaluate b id c q r
  unfolds : evaluate b id c q r = respond b (evaluate b) id c q r

theorem ends (wf : r.tree.WellFormed) : Ends b id c q r := by
  have settled {depth : Nat} (deep : r.tree.depthBound ≤ depth) :
      Coincide (answer b depth id c q) (evaluate b id c q) r :=
    coincide_evaluate wf (Nat.le_trans need_le_depthBound deep)
  refine ⟨(settled (Nat.le_refl _)).2, fun depth deep => (settled deep).1, ?_⟩
  calc evaluate b id c q r
      = answer b (r.tree.depthBound + 1) id c q r := (settled (Nat.le_succ _)).1.symm
    _ = respond b (answer b r.tree.depthBound) id c q r := rfl
    _ = respond b (evaluate b) id c q r := by
        suffices alike : Alike b (answer b r.tree.depthBound) (evaluate b)
            ⟨[], id, c, .question q, r⟩ from (coincide_respond alike).1
        intro running id' c' q' r' path
        have sound := (Stage.Sound.need_lt_later (keeps_answer (balanced b) _)
          (Stage.sound_start wf) path).1
        rw [← Tree.depthBound_of_outline sound.outline]
        exact coincide_evaluate sound.wellFormed need_le_depthBound

end Evaluation

end Dataflow
