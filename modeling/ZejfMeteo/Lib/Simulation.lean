import ZejfMeteo.Lib.Run

/-!
# Simulation of sequences of operations

Code that serves operations one at a time is compared with a specification that is a pure
function on an abstract state. If every single operation is matched, so is every sequence.
-/

namespace Runs

variable {ι ο σ τ : Type}

/-- Runs the code of some operations one after the other and collects what they return. -/
def runAll (step : ι → Run σ ο) : List ι → Run σ (List ο)
  | [] => pure []
  | i :: is => do
    let o ← step i
    let os ← runAll step is
    return o :: os

/-- The same for a specification. -/
def specAll (spec : ι → τ → ο × τ) : List ι → τ → List ο × τ
  | [], t => ([], t)
  | i :: is, t =>
    let (o, t) := spec i t
    let (os, t) := specAll spec is t
    (o :: os, t)

/-- Every operation returns what the specification says and keeps the states related. -/
def Simulates (step : ι → Run σ ο) (spec : ι → τ → ο × τ) (R : σ → τ → Prop) : Prop :=
  ∀ i s t, R s t → ∃ s', (step i).run s = .ok (spec i t).1 s' ∧ R s' (spec i t).2

/-- Each of the operations is allowed when its turn comes. -/
def AllowedAll (spec : ι → τ → ο × τ) (A : ι → τ → Prop) : List ι → τ → Prop
  | [], _ => True
  | i :: is, t => A i t ∧ AllowedAll spec A is (spec i t).2

/-- The same for the operations that are allowed. -/
def SimulatesOn (A : ι → τ → Prop) (step : ι → Run σ ο) (spec : ι → τ → ο × τ)
    (R : σ → τ → Prop) : Prop :=
  ∀ i s t, R s t → A i t → ∃ s', (step i).run s = .ok (spec i t).1 s' ∧ R s' (spec i t).2

variable {step : ι → Run σ ο} {spec : ι → τ → ο × τ} {R : σ → τ → Prop} {A : ι → τ → Prop}

/-- A simulation of single operations is one of all sequences of allowed operations. -/
theorem SimulatesOn.runAll (h : SimulatesOn A step spec R) (is : List ι) {s : σ} {t : τ}
    (hR : R s t) (his : AllowedAll spec A is t) :
    ∃ s', (runAll step is).run s = .ok (specAll spec is t).1 s' ∧ R s' (specAll spec is t).2 := by
  induction is generalizing s t with
  | nil => exact ⟨s, rfl, hR⟩
  | cons i is ih =>
    obtain ⟨hi, his⟩ := his
    obtain ⟨s₁, hrun, hR₁⟩ := h i s t hR hi
    obtain ⟨s₂, hrest, hR₂⟩ := ih hR₁ his
    refine ⟨s₂, ?_, hR₂⟩
    rw [Runs.runAll, run_bind_ok hrun, run_bind_ok hrest]
    rfl

lemma allowedAll_of_forall (h : ∀ i t, A i t) (is : List ι) (t : τ) : AllowedAll spec A is t := by
  induction is generalizing t with
  | nil => trivial
  | cons i is ih => exact ⟨h i t, ih _⟩

/-- A simulation of single operations is one of all sequences of operations. -/
theorem Simulates.runAll (h : Simulates step spec R) (is : List ι) {s : σ} {t : τ} (hR : R s t) :
    ∃ s', (runAll step is).run s = .ok (specAll spec is t).1 s' ∧ R s' (specAll spec is t).2 := by
  have hon : SimulatesOn (fun _ _ => True) step spec R := fun i s t hR _ => h i s t hR
  exact hon.runAll is hR (allowedAll_of_forall (fun _ _ => trivial) is t)

/-- What every operation of a kind keeps still holds when a later operation comes after
operations of this kind only. -/
lemma specAll_reaches {P : τ → Prop} {A : ι → ο → Prop}
    (hkeep : ∀ i t, P t → A i (spec i t).1 → P (spec i t).2) {is : List ι} {t : τ} (hP : P t)
    {mid post : List (ι × ο)} {i : ι} {o : ο}
    (htrace : is.zip (specAll spec is t).1 = mid ++ (i, o) :: post)
    (hmid : ∀ p ∈ mid, A p.1 p.2) : ∃ (t' : τ) (is' : List ι), P t' ∧ o = (spec i t').1 ∧
      post = is'.zip (specAll spec is' (spec i t').2).1 := by
  induction mid generalizing is t with
  | nil =>
    cases is with
    | nil => cases htrace
    | cons j is =>
      simp only [specAll, List.zip_cons_cons, List.nil_append, List.cons.injEq,
        Prod.mk.injEq] at htrace
      obtain ⟨⟨rfl, rfl⟩, rfl⟩ := htrace
      exact ⟨t, is, hP, rfl, rfl⟩
  | cons p mid ih =>
    cases is with
    | nil => cases htrace
    | cons j is =>
      simp only [specAll, List.zip_cons_cons, List.cons_append, List.cons.injEq] at htrace
      obtain ⟨rfl, htrace⟩ := htrace
      have hallowed := hmid _ List.mem_cons_self
      have hrest : is.zip (specAll spec is (spec j t).2).1 = mid ++ (i, o) :: post := htrace
      exact ih (hkeep j t hP hallowed) hrest (fun p hp => hmid p (List.mem_cons_of_mem _ hp))

end Runs
