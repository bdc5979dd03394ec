import ZejfMeteo.Lib.Run

/-!
# Loops that may stop early

`scan step is` runs a step on one item after the other and stops at the first step that
returns false, the way a C loop with a `return` in its body does.
-/

namespace Runs

variable {ι κ σ : Type}

def scan (step : ι → Run σ Bool) : List ι → Run σ Bool
  | [] => return true
  | i :: is => do
    if ← step i then
      scan step is
    else
      return false

section Scan

variable {step : ι → Run σ Bool} {i : ι} {is js : List ι} {s t : σ}

@[simp] lemma scan_nil_run (s : σ) : (scan step []).run s = .ok true s := rfl

lemma scan_cons_go (h : (step i).run s = .ok true t) :
    (scan step (i :: is)).run s = (scan step is).run t := by
  rw [scan, run_bind_ok h]
  rfl

lemma scan_cons_stop (h : (step i).run s = .ok false t) :
    (scan step (i :: is)).run s = .ok false t := by
  rw [scan, run_bind_ok h]
  rfl

lemma scan_append (is js : List ι) : scan step (is ++ js) = (do
    if ← scan step is then
      scan step js
    else
      return false) := by
  induction is with
  | nil => rfl
  | cons i is ih =>
    rw [List.cons_append, scan, scan, bind_assoc]
    congr 1
    funext go
    cases go with
    | true => exact ih
    | false => rfl

lemma scan_map (f : κ → ι) (is : List κ) :
    scan step (is.map f) = scan (fun i => step (f i)) is := by
  induction is with
  | nil => rfl
  | cons i is ih => rw [List.map_cons, scan, scan, ih]

/-- A loop in a loop is one loop over all pairs. -/
lemma scan_flatMap (f : κ → List ι) (is : List κ) :
    scan step (is.flatMap f) = scan (fun i => scan step (f i)) is := by
  induction is with
  | nil => rfl
  | cons i is ih => rw [List.flatMap_cons, scan_append, ih, scan]

/-- A loop whose steps keep an invariant ends, and keeps it. -/
lemma scan_keeps {I : σ → Prop}
    (h : ∀ i s, I s → ∃ go s', (step i).run s = .ok go s' ∧ I s') (is : List ι) (hs : I s) :
    ∃ go s', (scan step is).run s = .ok go s' ∧ I s' := by
  induction is generalizing s with
  | nil => exact ⟨true, s, rfl, hs⟩
  | cons i is ih =>
    obtain ⟨go, s₁, hrun, hs₁⟩ := h i s hs
    cases go with
    | true =>
      obtain ⟨go', s', hrest, hs'⟩ := ih hs₁
      exact ⟨go', s', (scan_cons_go hrun).trans hrest, hs'⟩
    | false => exact ⟨false, s₁, scan_cons_stop hrun, hs₁⟩

/-- What holds at every position of a list holds at the first one and, later, at every
position of the rest. -/
lemma forall_split_cons {P : List ι → ι → Prop} :
    (∀ pre j post, i :: is = pre ++ j :: post → P pre j) ↔
      P [] i ∧ ∀ pre j post, is = pre ++ j :: post → P (i :: pre) j := by
  refine ⟨fun h => ⟨h [] i is rfl, fun pre j post he => h (i :: pre) j post (by simp [he])⟩, ?_⟩
  rintro ⟨hhead, htail⟩ pre j post he
  cases pre with
  | nil =>
    obtain ⟨rfl, -⟩ := List.cons.inj he
    exact hhead
  | cons k pre =>
    obtain ⟨rfl, he'⟩ := List.cons.inj he
    exact htail pre j post he'

end Scan

end Runs
