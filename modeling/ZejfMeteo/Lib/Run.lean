import Mathlib.Tactic.Common

/-!
# Runs of stateful code that can fault

A run takes a state and either returns a value or stops at a fault. In both cases it
leaves a state behind, so one can still say what the memory looked like when a fault
struck. A `Lens` lets code about one part of a state act on the whole.
-/

namespace Runs

/-- What the memory and the control flow of C code can do wrong. -/
inductive Fault
  | useAfterFree
  | nullPointer
  | outOfBounds
  | uninitialised
  | outOfFuel
deriving DecidableEq, Repr

/-- Code over a state `σ` that returns an `α` or stops at a fault. -/
abbrev Run (σ α : Type) := EStateM Fault σ α

/-- The state a finished or faulted run leaves behind. -/
def leaves {σ α : Type} : EStateM.Result Fault σ α → σ
  | .ok _ s => s
  | .error _ s => s

@[simp] lemma leaves_ok {σ α : Type} (a : α) (s : σ) :
    leaves (.ok a s : EStateM.Result Fault σ α) = s := rfl

@[simp] lemma leaves_error {σ α : Type} (e : Fault) (s : σ) :
    leaves (.error e s : EStateM.Result Fault σ α) = s := rfl

/-- What a finished run returns. -/
def outcome {σ α : Type} : EStateM.Result Fault σ α → Option α
  | .ok a _ => some a
  | .error _ _ => none

section Rules

variable {σ α β : Type} {x : Run σ α} {f : α → Run σ β} {s t : σ} {a : α} {e : Fault}

lemma run_bind_ok (h : x.run s = .ok a t) : (x >>= f).run s = (f a).run t := by
  rw [EStateM.run_bind, h]

lemma run_bind_error (h : x.run s = .error e t) : (x >>= f).run s = .error e t := by
  rw [EStateM.run_bind, h]

/-- A run that returns has gone through its first part. -/
lemma run_bind_inv {b : β} (h : (x >>= f).run s = .ok b t) :
    ∃ a u, x.run s = .ok a u ∧ (f a).run u = .ok b t := by
  cases hx : x.run s with
  | ok a u =>
    rw [run_bind_ok hx] at h
    exact ⟨a, u, rfl, h⟩
  | error e u =>
    rw [run_bind_error hx] at h
    cases h

lemma run_eq_of_outcome (h : outcome (x.run s) = some a) : x.run s = .ok a (leaves (x.run s)) := by
  cases hx : x.run s with
  | ok b t =>
    rw [hx] at h
    rw [Option.some.inj h]
    rfl
  | error e t =>
    rw [hx] at h
    cases h

@[simp] lemma run_fault (e : Fault) (s : σ) : (throw e : Run σ α).run s = .error e s := rfl

@[simp] lemma run_map (g : α → β) (x : Run σ α) (s : σ) :
    (g <$> x).run s = match x.run s with
      | .ok a t => .ok (g a) t
      | .error e t => .error e t := by
  rw [← bind_pure_comp, EStateM.run_bind]
  cases x.run s <;> rfl

@[simp] lemma run_ite (c : Prop) [Decidable c] (x y : Run σ α) (s : σ) :
    (if c then x else y).run s = if c then x.run s else y.run s := by
  split <;> rfl

end Rules

/-- A part `τ` of a state `σ`. -/
structure Lens (σ τ : Type) where
  get : σ → τ
  set : τ → σ → σ
  get_set : ∀ t s, get (set t s) = t
  set_get : ∀ s, set (get s) s = s
  set_set : ∀ t u s, set t (set u s) = set t s

attribute [simp] Lens.get_set Lens.set_get Lens.set_set

/-- Code about a part of the state, run on the whole state. -/
def zoom {σ τ α : Type} (l : Lens σ τ) (x : Run τ α) : Run σ α := fun s =>
  match x.run (l.get s) with
  | .ok a t => .ok a (l.set t s)
  | .error e t => .error e (l.set t s)

section Zoom

variable {σ τ α : Type} {l : Lens σ τ} {x : Run τ α} {s : σ} {t : τ} {a : α} {e : Fault}

lemma run_zoom_ok (h : x.run (l.get s) = .ok a t) : (zoom l x).run s = .ok a (l.set t s) := by
  simp only [zoom, EStateM.run] at h ⊢
  rw [h]

lemma run_zoom_error (h : x.run (l.get s) = .error e t) :
    (zoom l x).run s = .error e (l.set t s) := by
  simp only [zoom, EStateM.run] at h ⊢
  rw [h]

/-- A run on a part that returns has changed nothing but the part. -/
lemma run_zoom_inv {u : σ} (h : (zoom l x).run s = .ok a u) :
    ∃ t, x.run (l.get s) = .ok a t ∧ u = l.set t s := by
  cases hx : x.run (l.get s) with
  | ok b t =>
    rw [run_zoom_ok hx] at h
    obtain ⟨rfl, rfl⟩ := EStateM.Result.ok.inj h
    exact ⟨t, rfl, rfl⟩
  | error e t =>
    rw [run_zoom_error hx] at h
    cases h

end Zoom

/-- `x` does what `y` does and returns something besides. -/
def Does {σ α : Type} (x : Run σ α) (y : Run σ Unit) : Prop := (do let _ ← x) = y

namespace Does

variable {σ α β : Type} {x x' : Run σ α} {y y' : Run σ Unit}

lemma pure (a : α) : Does (Pure.pure a : Run σ α) (return) := rfl

lemma fault (e : Fault) : Does (throw e : Run σ α) (throw e) := rfl

lemma bind {z : Run σ β} {f : β → Run σ α} {g : β → Run σ Unit} (h : ∀ b, Does (f b) (g b)) :
    Does (z >>= f) (z >>= g) := by
  unfold Does
  rw [bind_assoc]
  exact congrArg _ (funext h)

/-- Returning something at the end does nothing. -/
lemma last (y : Run σ Unit) (a : α) :
    Does (do
      y
      return a) y := by
  unfold Does
  rw [bind_assoc]
  simp only [pure_bind]
  exact bind_pure y

lemma map (f : α → β) (h : Does x y) : Does (do return f (← x)) y := by
  unfold Does at h ⊢
  rw [bind_assoc]
  simp only [pure_bind]
  exact h

/-- One after the other. -/
lemma seq {f : α → Run σ β} (hx : Does x y) (hf : ∀ a, Does (f a) y') :
    Does (x >>= f) (do
      y
      y') := by
  have hbind : Does (x >>= f) (x >>= fun _ => y') := bind hf
  unfold Does at hx hbind ⊢
  rw [hbind, ← hx, bind_assoc]
  simp only [pure_bind]

lemma ite {c : Prop} [Decidable c] (hx : Does x y) (hx' : Does x' y') :
    Does (if c then x else x') (if c then y else y') := by
  split
  · exact hx
  · exact hx'

/-- A look at the state does nothing. -/
lemma look {f : σ → Run σ α} (h : ∀ s, Does (f s) y) : Does (do f (← get)) y := by
  unfold Does
  funext s
  exact congrFun (h s) s

/-- What returns returns besides what it did. -/
lemma run_ok {s t : σ} {a : α} (h : Does x y) (hrun : x.run s = .ok a t) :
    y.run s = .ok () t := by
  rw [← h, run_bind_ok hrun]
  rfl

end Does

/-- Whatever the run does and however it ends, `f` of the state stays the same. -/
def Keeps {σ α β : Type} (f : σ → β) (x : Run σ α) : Prop := ∀ s, f (leaves (x.run s)) = f s

section Keeps

variable {σ τ α β γ : Type} {f : σ → γ} {x : Run σ α} {g : α → Run σ β}

lemma Keeps.run_ok {s t : σ} {a : α} (h : Keeps f x) (hrun : x.run s = .ok a t) : f t = f s := by
  have hkeep := h s
  rw [hrun] at hkeep
  exact hkeep

lemma keeps_pure (a : α) : Keeps f (pure a : Run σ α) := fun _ => rfl

lemma keeps_fault (e : Fault) : Keeps f (throw e : Run σ α) := fun _ => rfl

lemma keeps_get : Keeps f (get : Run σ σ) := fun _ => rfl

lemma keeps_set {t : σ → σ} (h : ∀ s, f (t s) = f s) : Keeps f (modify t : Run σ Unit) :=
  fun s => h s

lemma keeps_bind (hx : Keeps f x) (hg : ∀ a, Keeps f (g a)) : Keeps f (x >>= g) := by
  intro s
  have hs := hx s
  rw [EStateM.run_bind]
  cases h : x.run s with
  | ok a t =>
    rw [h] at hs
    exact (hg a t).trans hs
  | error e t =>
    rw [h] at hs
    exact hs

lemma keeps_ite {c : Prop} [Decidable c] {y : Run σ α} (hx : Keeps f x) (hy : Keeps f y) :
    Keeps f (if c then x else y) := by
  split
  · exact hx
  · exact hy

lemma keeps_zoom {l : Lens σ τ} (h : ∀ t s, f (l.set t s) = f s) (x : Run τ α) :
    Keeps f (zoom l x) := by
  intro s
  cases hr : x.run (l.get s) with
  | ok a t =>
    rw [run_zoom_ok hr]
    exact h t s
  | error e t =>
    rw [run_zoom_error hr]
    exact h t s

/-- What code about a part keeps of it, it keeps of the whole. -/
lemma keeps_inside {l : Lens σ τ} {g : τ → γ} {x : Run τ α} (hx : Keeps g x) :
    Keeps (fun s => g (l.get s)) (zoom l x) := by
  intro s
  have hkeep := hx (l.get s)
  cases hr : x.run (l.get s) with
  | ok a t =>
    rw [hr] at hkeep
    rw [run_zoom_ok hr, leaves_ok]
    exact (congrArg g (l.get_set t s)).trans hkeep
  | error e t =>
    rw [hr] at hkeep
    rw [run_zoom_error hr, leaves_error]
    exact (congrArg g (l.get_set t s)).trans hkeep

end Keeps

end Runs
