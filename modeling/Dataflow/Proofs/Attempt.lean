import Dataflow.Cache

/-!
Computations on a state that may fail. `Keeps R f` says of each run of `f`, failing or not, that it
ends in a state which `R` relates to the one it began in.
-/

namespace Dataflow

variable {ε σ α β : Type} {R : σ → σ → Prop} {s : σ}

structure Frame (R : σ → σ → Prop) : Prop where
  refl : ∀ s, R s s
  trans : ∀ {s₁ s₂ s₃}, R s₁ s₂ → R s₂ s₃ → R s₁ s₃

theorem Frame.on {R : α → α → Prop} (frame : Frame R) (f : σ → α) : Frame fun s s' => R (f s) (f s') :=
  ⟨fun s => frame.refl (f s), frame.trans⟩

theorem Frame.foldl (frame : Frame R) {f : σ → α → σ} (step : ∀ s a, R s (f s a)) (xs : List α)
    (s : σ) : R s (xs.foldl f s) := by
  induction xs generalizing s with
  | nil => exact frame.refl s
  | cons a rest ih => exact frame.trans (step s a) (ih (f s a))

def succeeds (f : EStateM ε σ α) (s : σ) : Bool :=
  match f s with
  | .ok _ _ => true
  | .error _ _ => false

theorem ok_of_succeeds {f : EStateM ε σ α} (h : succeeds f s) :
    ∃ a, f s = .ok a (stateAfter f s) := by
  simp only [succeeds, stateAfter] at h ⊢
  cases result : f s with
  | ok a s' => exact ⟨a, rfl⟩
  | error e s' => simp [result] at h

def refusal? (f : EStateM ε σ α) (s : σ) : Option ε :=
  match f s with
  | .ok _ _ => none
  | .error e _ => some e

theorem error_of_refusal? {f : EStateM ε σ α} {e : ε} (h : refusal? f s = some e) :
    f s = .error e (stateAfter f s) := by
  simp only [refusal?, stateAfter] at h ⊢
  cases result : f s with
  | ok a s' => simp [result] at h
  | error e' s' =>
      rw [result] at h
      cases h
      rfl

theorem get_apply : (get : EStateM ε σ σ) s = .ok s s := rfl

theorem throw_apply (e : ε) : (throw e : EStateM ε σ α) s = .error e s := rfl

theorem bind_apply (x : EStateM ε σ α) (f : α → EStateM ε σ β) : (x >>= f) s =
    match x s with
    | .ok a s' => f a s'
    | .error e s' => .error e s' := rfl

theorem bind_eq_ok_iff {x : EStateM ε σ α} {f : α → EStateM ε σ β} {b : β} {s' : σ} :
    (x >>= f) s = .ok b s' ↔ ∃ a t, x s = .ok a t ∧ f a t = .ok b s' := by
  simp only [bind_apply]
  cases x s with
  | ok a t =>
      constructor
      · intro later
        exact ⟨a, t, rfl, later⟩
      · rintro ⟨_, _, same, later⟩
        cases same
        exact later
  | error e t => simp

theorem bind_eq_error_iff {x : EStateM ε σ α} {f : α → EStateM ε σ β} {e : ε} {s' : σ} :
    (x >>= f) s = .error e s' ↔ x s = .error e s' ∨ ∃ a t, x s = .ok a t ∧ f a t = .error e s' := by
  simp only [bind_apply]
  cases x s with
  | ok a t =>
      constructor
      · intro later
        exact .inr ⟨a, t, rfl, later⟩
      · rintro (first | ⟨_, _, same, later⟩)
        · cases first
        · cases same
          exact later
  | error e t => simp

theorem step_eq_ok_iff {f : σ → Except Error σ} {u : Unit} {s' : σ} :
    Attempt.step f s = .ok u s' ↔ f s = .ok s' := by
  simp only [Attempt.step]
  cases f s <;> simp

theorem forM_ok {f : α → EStateM ε σ PUnit} {I : List α → σ → Prop} {xs : List α} {u : PUnit}
    {s' : σ} (start : I [] s)
    (step : ∀ done a s₁ s₂, I done s₁ → f a s₁ = .ok ⟨⟩ s₂ → I (done ++ [a]) s₂)
    (made : xs.forM f s = .ok u s') : I xs s' := by
  suffices ∀ rest done s, I done s → rest.forM f s = .ok u s' → I (done ++ rest) s' from
    this xs [] s start made
  intro rest
  induction rest with
  | nil =>
      intro done s holds made
      cases made
      simpa using holds
  | cons a rest ih =>
      intro done s holds made
      obtain ⟨⟨⟩, t, first, later⟩ := bind_eq_ok_iff.mp made
      simpa using ih (done ++ [a]) t (step done a s t holds first) later

def KeepsAt (R : σ → σ → Prop) (f : EStateM ε σ α) (s : σ) : Prop := R s (stateAfter f s)

def Keeps (R : σ → σ → Prop) (f : EStateM ε σ α) : Prop := ∀ s, KeepsAt R f s

theorem stateAfter_ok {f : EStateM ε σ α} {a : α} {s' : σ} (h : f s = .ok a s') :
    stateAfter f s = s' := by
  simp [stateAfter, h]

theorem stateAfter_error {f : EStateM ε σ α} {e : ε} {s' : σ} (h : f s = .error e s') :
    stateAfter f s = s' := by
  simp [stateAfter, h]

theorem stateAfter_discard {f : EStateM ε σ α} :
    stateAfter (Functor.discard f) s = stateAfter f s := by
  simp only [stateAfter, Functor.discard, Functor.mapConst, EStateM.map, Function.comp]
  cases f s <;> rfl

theorem KeepsAt.bind (frame : Frame R) {x : EStateM ε σ α} {f : α → EStateM ε σ β}
    (first : KeepsAt R x s) (later : ∀ a s', x s = .ok a s' → KeepsAt R (f a) s') :
    KeepsAt R (x >>= f) s := by
  simp only [KeepsAt, stateAfter, bind_apply] at first later ⊢
  cases result : x s with
  | ok a s' =>
      rw [result] at first
      exact frame.trans first (later a s' result)
  | error e s' => simpa [result] using first

namespace Keeps

theorem pure (frame : Frame R) (a : α) : Keeps R (Pure.pure a : EStateM ε σ α) := frame.refl

theorem throw (frame : Frame R) (e : ε) : Keeps R (throw e : EStateM ε σ α) := frame.refl

theorem get (frame : Frame R) : Keeps R (get : EStateM ε σ σ) := frame.refl

theorem modify {f : σ → σ} (h : ∀ s, R s (f s)) : Keeps R (modify f : EStateM ε σ PUnit) := h

theorem bind (frame : Frame R) {x : EStateM ε σ α} {f : α → EStateM ε σ β} (first : Keeps R x)
    (later : ∀ a, Keeps R (f a)) : Keeps R (x >>= f) :=
  fun s => (first s).bind frame fun a s' _ => later a s'

theorem discard {x : EStateM ε σ α} (h : Keeps R x) :
    Keeps R (Functor.discard x) := by
  intro s
  rw [KeepsAt, stateAfter_discard]
  exact h s

theorem forM (frame : Frame R) {f : α → EStateM ε σ PUnit} {xs : List α}
    (h : ∀ a ∈ xs, Keeps R (f a)) : Keeps R (xs.forM f) := by
  induction xs with
  | nil => exact .pure frame _
  | cons a rest ih =>
      exact .bind frame (h a List.mem_cons_self) fun _ =>
        ih fun b mem => h b (List.mem_cons_of_mem _ mem)

theorem step {R : σ → σ → Prop} (frame : Frame R) {f : σ → Except Error σ}
    (h : ∀ s s', f s = .ok s' → R s s') : Keeps R (Attempt.step f) := by
  intro s
  simp only [KeepsAt, stateAfter, Attempt.step]
  cases result : f s with
  | ok s' => exact h s s' result
  | error e => exact frame.refl s

end Keeps

end Dataflow
