import ZejfMeteo.Lib.Run
import Mathlib.Data.List.Induction

/-!
# Traces of operations

What happened while operations were served one after the other: which operation came and
what it returned, together with the states before and after the whole trace. An invariant
may speak about the trace so far as well as about the state.
-/

namespace Runs

variable {ι ο σ : Type}

inductive Trace (step : ι → Run σ ο) (s : σ) : List (ι × ο) → σ → Prop
  | nil : Trace step s [] s
  | snoc {tr t i o u} : Trace step s tr t → (step i).run t = .ok o u →
      Trace step s (tr ++ [(i, o)]) u

/-- Serves operations one after the other. -/
def serve (step : ι → Run σ ο) : List ι → Run σ (List ο)
  | [] => return []
  | i :: is => do
    let o ← step i
    let os ← serve step is
    return o :: os

/-- The operations with what they return when they are served one after the other. -/
def replay (step : ι → Run σ ο) (is : List ι) (s : σ) : List (ι × ο) :=
  is.zip ((outcome ((serve step is).run s)).getD [])

/-- Whether a condition is met in the state in which each of the operations is served. -/
def meetsAll (step : ι → Run σ ο) (p : σ → ι → Bool) : List ι → σ → Bool
  | [], _ => true
  | i :: is, s => p s i && meetsAll step p is (leaves ((step i).run s))

namespace Trace

variable {step : ι → Run σ ο} {s t u : σ} {tr pre post : List (ι × ο)}

/-- What holds at first and is preserved by every allowed operation holds after every trace
of allowed operations. -/
theorem invariant {I : List (ι × ο) → σ → Prop} {A : ι → Prop} (h : Trace step s tr t)
    (hall : ∀ x ∈ tr, A x.1) (hnil : I [] s)
    (hsnoc : ∀ tr t i o u, A i → I tr t → (step i).run t = .ok o u →
      I (tr ++ [(i, o)]) u) : I tr t := by
  induction h with
  | nil => exact hnil
  | snoc htrace hrun ih =>
    have hbefore := ih (fun x hx => hall x (List.mem_append_left _ hx))
    exact hsnoc _ _ _ _ _ (hall _ List.mem_concat_self) hbefore hrun

lemma append (h : Trace step s pre t) (h' : Trace step t post u) :
    Trace step s (pre ++ post) u := by
  induction h' with
  | nil =>
    rw [List.append_nil]
    exact h
  | snoc htrace hrun ih =>
    rw [← List.append_assoc]
    exact ih.snoc hrun

/-- If every allowed operation can be served and preserves an invariant, so can every sequence
of them. -/
theorem complete_invariant {I : List (ι × ο) → σ → Prop} {A : ι → Prop}
    (hstep : ∀ tr t i, A i → I tr t → ∃ o u, (step i).run t = .ok o u ∧ I (tr ++ [(i, o)]) u)
    (hs : I [] s) {is : List ι} (his : ∀ i ∈ is, A i) :
    ∃ tr t, Trace step s tr t ∧ tr.map Prod.fst = is ∧ I tr t := by
  induction is using List.reverseRecOn with
  | nil => exact ⟨[], s, .nil, rfl, hs⟩
  | append_singleton is i ih =>
    obtain ⟨tr, t, htrace, hmap, ht⟩ := ih (fun j hj => his j (List.mem_append_left _ hj))
    obtain ⟨o, u, hrun, hu⟩ := hstep tr t i (his i (by simp)) ht
    refine ⟨tr ++ [(i, o)], u, htrace.snoc hrun, ?_, hu⟩
    rw [List.map_append, hmap]
    rfl

/-- The same if the invariant is about the state alone. -/
theorem complete {I : σ → Prop} {A : ι → Prop}
    (hstep : ∀ i t, A i → I t → ∃ o u, (step i).run t = .ok o u ∧ I u) (hs : I s)
    {is : List ι} (his : ∀ i ∈ is, A i) :
    ∃ tr t, Trace step s tr t ∧ tr.map Prod.fst = is ∧ I t :=
  complete_invariant (I := fun _ => I) (fun _ t i hi ht => hstep i t hi ht) hs his

/-- Operations that are served one after the other make a trace. -/
lemma of_serve {is : List ι} {os : List ο} (h : (serve step is).run s = .ok os u) :
    Trace step s (is.zip os) u ∧ (is.zip os).map Prod.fst = is := by
  induction is generalizing s os with
  | nil =>
    obtain ⟨rfl, rfl⟩ := EStateM.Result.ok.inj h
    exact ⟨.nil, rfl⟩
  | cons i is ih =>
    cases hi : (step i).run s with
    | error e t =>
      rw [serve, run_bind_error hi] at h
      cases h
    | ok o t =>
      rw [serve, run_bind_ok hi] at h
      cases his : (serve step is).run t with
      | error e t' =>
        rw [run_bind_error his] at h
        cases h
      | ok os' t' =>
        rw [run_bind_ok his] at h
        obtain ⟨rfl, rfl⟩ := EStateM.Result.ok.inj h
        obtain ⟨htr, hmap⟩ := ih his
        have hone : Trace step s [(i, o)] t := Trace.nil.snoc hi
        refine ⟨hone.append htr, ?_⟩
        rw [List.zip_cons_cons, List.map_cons, hmap]

lemma of_replay {is : List ι} (h : (outcome ((serve step is).run s)).isSome) :
    Trace step s (replay step is s) (leaves ((serve step is).run s)) := by
  obtain ⟨os, hos⟩ := Option.isSome_iff_exists.mp h
  rw [replay, hos, Option.getD_some]
  exact (of_serve (run_eq_of_outcome hos)).1

lemma mem_of_replay {is : List ι} {x : ι × ο} (h : x ∈ replay step is s) : x.1 ∈ is :=
  (List.of_mem_zip h).1

lemma snoc_inv {i : ι} {o : ο} (h : Trace step s (tr ++ [(i, o)]) u) :
    ∃ t, Trace step s tr t ∧ (step i).run t = .ok o u := by
  generalize hl : tr ++ [(i, o)] = l at h
  cases h with
  | nil => simp at hl
  | snoc htrace hrun =>
    obtain ⟨rfl, hlast⟩ := List.append_inj' hl rfl
    cases hlast
    exact ⟨_, htrace, hrun⟩

lemma nil_inv (h : Trace step s [] t) : t = s := by
  generalize hl : ([] : List (ι × ο)) = l at h
  cases h with
  | nil => rfl
  | snoc htrace hrun => simp at hl

/-- A trace determines the state it ends in. -/
lemma unique (h : Trace step s tr t) (h' : Trace step s tr u) : t = u := by
  induction h generalizing u with
  | nil => exact (nil_inv h').symm
  | snoc htrace hrun ih =>
    obtain ⟨t', htrace', hrun'⟩ := snoc_inv h'
    obtain rfl := ih htrace'
    exact (EStateM.Result.ok.inj (hrun.symm.trans hrun')).2

lemma split (h : Trace step s (pre ++ post) u) :
    ∃ t, Trace step s pre t ∧ Trace step t post u := by
  induction post using List.reverseRecOn generalizing u with
  | nil =>
    rw [List.append_nil] at h
    exact ⟨u, h, .nil⟩
  | append_singleton post x ih =>
    rw [← List.append_assoc] at h
    obtain ⟨t, htrace, hrun⟩ := snoc_inv h
    obtain ⟨t', hpre, hpost⟩ := ih htrace
    exact ⟨t', hpre, hpost.snoc hrun⟩

/-- The operation in the middle of a trace was served in the state that the trace before it
ended in. -/
lemma served {i : ι} {o : ο} (h : Trace step s (pre ++ (i, o) :: post) u)
    (hpre : Trace step s pre t) : ∃ t', (step i).run t = .ok o t' := by
  rw [List.append_cons] at h
  obtain ⟨t', hmid, -⟩ := split h
  obtain ⟨t'', hpre', hrun⟩ := snoc_inv hmid
  obtain rfl := hpre.unique hpre'
  exact ⟨t', hrun⟩

end Trace

/-- `P` holds whenever an operation of the trace is served: of the trace before it, of the
state that it finds, of the operation and of what it returns. -/
def Throughout (step : ι → Run σ ο) (s : σ) (P : List (ι × ο) → σ → ι → ο → Prop)
    (tr : List (ι × ο)) : Prop :=
  ∀ pre i o post t, tr = pre ++ (i, o) :: post → Trace step s pre t → P pre t i o

/-- `I` holds in every state of the trace, of the trace up to there and of the state. -/
def Always (step : ι → Run σ ο) (s : σ) (I : List (ι × ο) → σ → Prop) (tr : List (ι × ο)) :
    Prop :=
  ∀ pre post t, tr = pre ++ post → Trace step s pre t → I pre t

section Properties

variable {step : ι → Run σ ο} {s t u : σ} {tr : List (ι × ο)} {i : ι} {o : ο}
  {P Q : List (ι × ο) → σ → ι → ο → Prop} {I : List (ι × ο) → σ → Prop}

lemma Throughout.nil (step : ι → Run σ ο) (s : σ) (P : List (ι × ο) → σ → ι → ο → Prop) :
    Throughout step s P [] := by
  intro pre i o post t he
  simp at he

lemma Throughout.snoc_iff (h : Trace step s tr t) (i : ι) (o : ο) :
    Throughout step s P (tr ++ [(i, o)]) ↔ Throughout step s P tr ∧ P tr t i o := by
  constructor
  · intro hall
    refine ⟨?_, hall tr i o [] t rfl h⟩
    intro pre j o' post u he hpre
    exact hall pre j o' (post ++ [(i, o)]) u (by simp [he]) hpre
  · rintro ⟨hall, hlast⟩ pre j o' post u he hpre
    rcases List.eq_nil_or_concat post with rfl | ⟨post', x, rfl⟩
    · obtain ⟨rfl, hsame⟩ := List.append_inj' he rfl
      cases hsame
      obtain rfl := h.unique hpre
      exact hlast
    · rw [List.concat_eq_append, ← List.cons_append, ← List.append_assoc] at he
      exact hall pre j o' post' u (List.append_inj' he rfl).1 hpre

lemma Throughout.before {pre post : List (ι × ο)} (h : Throughout step s P (pre ++ post)) :
    Throughout step s P pre := by
  intro pre' i o post' t he hpre
  exact h pre' i o (post' ++ post) t (by simp [he]) hpre

/-- A condition on the state holds throughout a trace if it is met by all operations. -/
lemma Throughout.of_meetsAll {p : σ → ι → Bool} (h : meetsAll step p (tr.map Prod.fst) s = true) :
    Throughout step s (fun _ t i _ => p t i = true) tr := by
  rintro pre i o post t rfl hpre
  induction pre generalizing s with
  | nil =>
    rw [hpre.nil_inv]
    rw [List.nil_append, List.map_cons, meetsAll, Bool.and_eq_true] at h
    exact h.1
  | cons x pre ih =>
    obtain ⟨j, o'⟩ := x
    have hcons : Trace step s ([(j, o')] ++ pre) t := hpre
    obtain ⟨s₁, hone, hrest⟩ := hcons.split
    have hfirst : Trace step s ([] ++ [(j, o')]) s₁ := hone
    obtain ⟨s₀, hnil, hrun⟩ := hfirst.snoc_inv
    obtain rfl := hnil.nil_inv
    rw [List.cons_append, List.map_cons, meetsAll, Bool.and_eq_true, hrun, leaves_ok] at h
    exact ih h.2 hrest

/-- A weaker condition holds throughout as well. -/
lemma Throughout.imp (h : Throughout step s P tr) (hpq : ∀ pre t i o, P pre t i o → Q pre t i o) :
    Throughout step s Q tr :=
  fun pre i o post t he hpre => hpq pre t i o (h pre i o post t he hpre)

/-- A condition that does not ask for what was before holds throughout any part of a trace. -/
lemma Throughout.middle {P : σ → ι → ο → Prop} {pre mid post : List (ι × ο)}
    (h : Throughout step s (fun _ => P) (pre ++ mid ++ post)) (hpre : Trace step s pre t) :
    Throughout step t (fun _ => P) mid := by
  intro pre' i o post' u he hpre'
  exact h (pre ++ pre') i o (post' ++ post) u (by simp [he]) (hpre.append hpre')

/-- What holds at first and is preserved by every operation that meets a condition holds
after a trace that meets it throughout. -/
theorem Throughout.invariant (htr : Trace step s tr t) (hP : Throughout step s P tr)
    (hs : I [] s) (hstep : ∀ tr t i o u, I tr t → P tr t i o → (step i).run t = .ok o u →
      I (tr ++ [(i, o)]) u) : I tr t := by
  induction htr with
  | nil => exact hs
  | snoc htrace hrun ih =>
    obtain ⟨hbefore, hlast⟩ := (Throughout.snoc_iff htrace _ _).mp hP
    exact hstep _ _ _ _ _ (ih hbefore) hlast hrun

/-- Under the same rule, what follows from one step under the condition holds throughout. -/
theorem Throughout.mono (htr : Trace step s tr u) (hP : Throughout step s P tr) (hs : I [] s)
    (hstep : ∀ tr t i o u, I tr t → P tr t i o → (step i).run t = .ok o u →
      I (tr ++ [(i, o)]) u ∧ Q tr t i o) : Throughout step s Q tr := by
  intro pre i o post t he hpre
  have ht := (Throughout.before (he ▸ hP)).invariant hpre hs
    (fun tr t i o u ht hp hrun => (hstep tr t i o u ht hp hrun).1)
  obtain ⟨t', hrun⟩ := (he ▸ htr).served hpre
  exact (hstep pre t i o t' ht (hP pre i o post t he hpre) hrun).2

lemma Always.nil_iff : Always step s I [] ↔ I [] s := by
  constructor
  · intro hall
    exact hall [] [] s rfl .nil
  · intro h pre post t he hpre
    obtain ⟨rfl, -⟩ := List.nil_eq_append_iff.mp he
    rw [hpre.nil_inv]
    exact h

lemma Always.snoc_iff (h : Trace step s tr t) (hrun : (step i).run t = .ok o u) :
    Always step s I (tr ++ [(i, o)]) ↔ Always step s I tr ∧ I (tr ++ [(i, o)]) u := by
  constructor
  · intro hall
    refine ⟨?_, hall _ [] u (List.append_nil _).symm (h.snoc hrun)⟩
    intro pre post t' he hpre
    exact hall pre (post ++ [(i, o)]) t' (by simp [he]) hpre
  · rintro ⟨hall, hlast⟩ pre post t' he hpre
    rcases List.eq_nil_or_concat post with rfl | ⟨post', x, rfl⟩
    · rw [List.append_nil] at he
      subst he
      rw [hpre.unique (h.snoc hrun)]
      exact hlast
    · rw [List.concat_eq_append, ← List.append_assoc] at he
      exact hall pre post' t' (List.append_inj' he rfl).1 hpre

/-- A property of all states and a condition on all steps are the same if they are for one
step, as long as an invariant holds. -/
theorem Always.iff_throughout {J : List (ι × ο) → σ → Prop} {A : ι → Prop}
    (htr : Trace step s tr u) (hall : ∀ x ∈ tr, A x.1) (hJ : J [] s) (hI : I [] s)
    (hstep : ∀ tr t i o u, A i → J tr t → (step i).run t = .ok o u →
      J (tr ++ [(i, o)]) u ∧ (I tr t → (I (tr ++ [(i, o)]) u ↔ P tr t i o))) :
    Always step s I tr ↔ Throughout step s P tr := by
  suffices hboth : J tr u ∧ (Always step s I tr ↔ Throughout step s P tr) from hboth.2
  induction htr with
  | nil => exact ⟨hJ, iff_of_true (Always.nil_iff.mpr hI) (Throughout.nil _ _ _)⟩
  | snoc htrace hrun ih =>
    obtain ⟨hj, hiff⟩ := ih (fun x hx => hall x (List.mem_append_left _ hx))
    obtain ⟨hj', hone⟩ := hstep _ _ _ _ _ (hall _ List.mem_concat_self) hj hrun
    refine ⟨hj', ?_⟩
    rw [Always.snoc_iff htrace hrun, Throughout.snoc_iff htrace, hiff]
    refine and_congr_right (fun hbefore => hone ?_)
    exact hiff.mpr hbefore _ [] _ (List.append_nil _).symm htrace

/-- A property of all states and a condition on all steps are the same if they are for one
allowed step, as long as what a step under the condition preserves holds. -/
theorem Always.iff_throughout_of_allowed {J : List (ι × ο) → σ → Prop} {A : σ → ι → Prop}
    (htr : Trace step s tr u) (hall : Throughout step s (fun _ t i _ => A t i) tr) (hJ : J [] s)
    (hI : I [] s) (hstep : ∀ tr t i o u, A t i → J tr t → (step i).run t = .ok o u →
      (P tr t i o → J (tr ++ [(i, o)]) u) ∧ (I (tr ++ [(i, o)]) u ↔ P tr t i o)) :
    Always step s I tr ↔ Throughout step s P tr := by
  suffices hboth : (Throughout step s P tr → J tr u) ∧
      (Always step s I tr ↔ Throughout step s P tr) from hboth.2
  induction htr with
  | nil => exact ⟨fun _ => hJ, iff_of_true (Always.nil_iff.mpr hI) (Throughout.nil _ _ _)⟩
  | snoc htrace hrun ih =>
    obtain ⟨hbefore, hlast⟩ := (Throughout.snoc_iff htrace _ _).mp hall
    obtain ⟨hgood, hiff⟩ := ih hbefore
    have hone := fun hmet => hstep _ _ _ _ _ hlast (hgood hmet) hrun
    rw [Always.snoc_iff htrace hrun, Throughout.snoc_iff htrace, hiff]
    constructor
    · rintro ⟨hmet, hnow⟩
      exact (hone hmet).1 hnow
    · exact and_congr_right (fun hmet => (hone hmet).2)

lemma Throughout.of_forall {A : ι → Prop} (h : ∀ x ∈ tr, A x.1) :
    Throughout step s (fun _ _ i _ => A i) tr := by
  rintro pre i o post t rfl -
  exact h (i, o) (by simp)

/-- The same if what is allowed does not depend on the state. -/
theorem Always.iff_throughout_of_good {J : List (ι × ο) → σ → Prop} {A : ι → Prop}
    (htr : Trace step s tr u) (hall : ∀ x ∈ tr, A x.1) (hJ : J [] s) (hI : I [] s)
    (hstep : ∀ tr t i o u, A i → J tr t → (step i).run t = .ok o u →
      (P tr t i o → J (tr ++ [(i, o)]) u) ∧ (I (tr ++ [(i, o)]) u ↔ P tr t i o)) :
    Always step s I tr ↔ Throughout step s P tr :=
  iff_throughout_of_allowed (A := fun _ => A) htr (.of_forall hall) hJ hI hstep

/-- Two properties of all steps are the same if they are for one step, as long as an
invariant holds. -/
theorem Throughout.congr {J : List (ι × ο) → σ → Prop} {A : ι → Prop}
    (htr : Trace step s tr u) (hall : ∀ x ∈ tr, A x.1) (hJ : J [] s)
    (hstep : ∀ tr t i o u, A i → J tr t → (step i).run t = .ok o u →
      J (tr ++ [(i, o)]) u ∧ (P tr t i o ↔ Q tr t i o)) :
    Throughout step s P tr ↔ Throughout step s Q tr := by
  suffices hboth : J tr u ∧ (Throughout step s P tr ↔ Throughout step s Q tr) from hboth.2
  induction htr with
  | nil => exact ⟨hJ, iff_of_true (Throughout.nil _ _ _) (Throughout.nil _ _ _)⟩
  | snoc htrace hrun ih =>
    obtain ⟨hj, hiff⟩ := ih (fun x hx => hall x (List.mem_append_left _ hx))
    obtain ⟨hj', hone⟩ := hstep _ _ _ _ _ (hall _ List.mem_concat_self) hj hrun
    refine ⟨hj', ?_⟩
    rw [Throughout.snoc_iff htrace, Throughout.snoc_iff htrace, hiff, hone]

end Properties

end Runs
