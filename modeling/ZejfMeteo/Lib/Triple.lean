import ZejfMeteo.Lib.Scan

/-!
# Triples

`Triple E P x Q`: from every state with `P` the run `x` returns, and `Q` holds of what it
returns and of the state it leaves behind, or it stops at one of the faults `E`. Without
any such fault this is total correctness.
-/

namespace Runs

variable {σ τ α β : Type}

def Triple (E : Fault → Prop) (P : σ → Prop) (x : Run σ α) (Q : α → σ → Prop) : Prop :=
  ∀ s, P s → (∃ a t, x.run s = .ok a t ∧ Q a t) ∨ ∃ e t, x.run s = .error e t ∧ E e

namespace Triple

variable {E : Fault → Prop} {P P' : σ → Prop} {Q Q' : α → σ → Prop} {R : β → σ → Prop}
  {x y : Run σ α} {f : α → Run σ β}

lemma of_run (h : ∀ s, P s → ∃ a t, x.run s = .ok a t ∧ Q a t) : Triple E P x Q :=
  fun s hs => Or.inl (h s hs)

theorem bind (hx : Triple E P x Q) (hf : ∀ a, Triple E (Q a) (f a) R) :
    Triple E P (x >>= f) R := by
  intro s hs
  rcases hx s hs with ⟨a, t, hrun, ha⟩ | ⟨e, t, hrun, he⟩
  · rw [run_bind_ok hrun]
    exact hf a t ha
  · exact Or.inr ⟨e, t, run_bind_error hrun, he⟩

lemma pure {a : α} (h : ∀ s, P s → Q a s) : Triple E P (Pure.pure a) Q := by
  apply of_run
  intro s hs
  exact ⟨a, s, rfl, h s hs⟩

lemma throw {e : Fault} (h : ∀ s, P s → E e) : Triple E P (MonadExcept.throw e : Run σ α) Q :=
  fun s hs => Or.inr ⟨e, s, rfl, h s hs⟩

lemma conseq (h : Triple E P x Q) (hP : ∀ s, P' s → P s) (hQ : ∀ a s, Q a s → Q' a s) :
    Triple E P' x Q' := by
  intro s hs
  rcases h s (hP s hs) with ⟨a, t, hrun, ha⟩ | herror
  · exact Or.inl ⟨a, t, hrun, hQ a t ha⟩
  · exact Or.inr herror

lemma ite {c : Prop} [Decidable c] (hx : c → Triple E P x Q) (hy : ¬c → Triple E P y Q) :
    Triple E P (if c then x else y) Q := by
  split
  · exact hx ‹c›
  · exact hy ‹¬c›

/-- A run may return at once. -/
lemma guard {c : Prop} [Decidable c] {a : α} (ha : ∀ s, P s → Q a s)
    (hy : ¬c → Triple E P y Q) : Triple E P (if c then Pure.pure a else y) Q :=
  ite (fun _ => pure ha) hy

lemma map (f : α → β) {S : σ → Prop} (h : Triple E P x (fun _ => S)) :
    Triple E P (do return f (← x)) (fun _ => S) :=
  bind h (fun _ => pure (fun _ hs => hs))

/-- The value that a run returns does not matter to its state. -/
lemma of_map (f : α → β) {S : σ → Prop} (h : Triple E P (do return f (← x)) (fun _ => S)) :
    Triple E P x (fun _ => S) := by
  intro s hs
  have hrun := h s hs
  cases hx : x.run s with
  | ok a t =>
    rw [run_bind_ok hx] at hrun
    rcases hrun with ⟨b, u, hu, hS⟩ | ⟨e, u, hu, -⟩
    · obtain ⟨-, rfl⟩ := EStateM.Result.ok.inj hu
      exact Or.inl ⟨a, t, rfl, hS⟩
    · cases hu
  | error e t =>
    rw [run_bind_error hx] at hrun
    rcases hrun with ⟨b, u, hu, -⟩ | ⟨e', u, hu, he⟩
    · cases hu
    · obtain ⟨rfl, rfl⟩ := EStateM.Result.error.inj hu
      exact Or.inr ⟨e, t, rfl, he⟩

/-- What is known of a value may be used after it has been returned. -/
lemma and_left {p : Prop} (h : p → Triple E P x Q) : Triple E (fun s => p ∧ P s) x Q := by
  rintro s ⟨hp, hs⟩
  exact h hp s hs

/-- Code about a part of the state leaves the rest alone. -/
lemma zoom {l : Lens σ τ} {P : τ → Prop} {Q : α → τ → Prop} {F : σ → Prop} {x : Run τ α}
    (h : Triple E P x Q) (hF : ∀ t s, F s → F (l.set t s)) :
    Triple E (fun s => P (l.get s) ∧ F s) (Runs.zoom l x) (fun a s => Q a (l.get s) ∧ F s) := by
  rintro s ⟨hs, hframe⟩
  rcases h _ hs with ⟨a, t, hrun, ha⟩ | ⟨e, t, hrun, he⟩
  · refine Or.inl ⟨a, l.set t s, run_zoom_ok hrun, ?_, hF t s hframe⟩
    simpa only [l.get_set] using ha
  · exact Or.inr ⟨e, l.set t s, run_zoom_error hrun, he⟩

/-- What every step of a loop keeps holds after the loop. -/
lemma scan {ι : Type} {step : ι → Run σ Bool} (hstep : ∀ i, Triple E P (step i) (fun _ => P))
    (is : List ι) : Triple E P (Runs.scan step is) (fun _ => P) := by
  induction is with
  | nil => exact pure (fun _ hs => hs)
  | cons i is ih => exact bind (hstep i) (fun go => ite (fun _ => ih) (fun _ => pure (fun _ hs => hs)))

end Triple

end Runs
