import Mathlib.Data.List.Basic
import Mathlib.Logic.Relation

/-!
# Replicas

A source writes values under keys and tells a replica of some of the writes. What it tells is
under way for a while, arrives in any order or not at all, and the value that has arrived last
under a key is the one that the replica holds.
-/

namespace Replicas

variable {κ ν : Type}

/-- What has been written and told so far, what has not arrived yet, and what the replica holds. -/
structure Replica (κ ν : Type) where
  written : List (κ × ν)
  told : List (κ × ν)
  underway : List (κ × ν)
  store : κ → Option ν

namespace Replica

/-- Nothing has been written since the replica had what it has. -/
def start (store : κ → Option ν) : Replica κ ν := ⟨[], [], [], store⟩

/-- The writes `ws` are made, and some of them told, each any number of times. -/
def write (ws ts : List (κ × ν)) (r : Replica κ ν) : Replica κ ν :=
  { r with written := r.written ++ ws, told := r.told ++ ts, underway := r.underway ++ ts }

def hold [DecidableEq κ] (k : κ) (v : ν) (r : Replica κ ν) : Replica κ ν :=
  { r with store := Function.update r.store k (some v) }

end Replica

inductive Step [DecidableEq κ] : Replica κ ν → Replica κ ν → Prop
  | write {r : Replica κ ν} (ws ts : List (κ × ν)) (told : ∀ x ∈ ts, x ∈ ws) :
    Step r (r.write ws ts)
  | arrive {r : Replica κ ν} {before after : List (κ × ν)} {k : κ} {v : ν}
    (underway : r.underway = before ++ (k, v) :: after) :
    Step r { r.hold k v with underway := before ++ after }

/-- What a replica holds it has been told, unless it had it before; and under a key of which it has
been told it holds something that it has been told as soon as that has arrived. -/
structure Sound (store : κ → Option ν) (r : Replica κ ν) : Prop where
  written : ∀ x ∈ r.told, x ∈ r.written
  underway : ∀ x ∈ r.underway, x ∈ r.told
  holds : ∀ k v, r.store k = some v → (k, v) ∈ r.told ∨ store k = some v
  arrived : ∀ x ∈ r.told, (∃ v, r.store x.1 = some v ∧ (x.1, v) ∈ r.told) ∨ x ∈ r.underway

section Sound

variable {store : κ → Option ν} {r r' : Replica κ ν}

lemma sound_start (store : κ → Option ν) : Sound store (Replica.start store) where
  written x hx := by cases hx
  underway x hx := by cases hx
  holds _ _ h := Or.inr h
  arrived x hx := by cases hx

variable [DecidableEq κ]

lemma Sound.step (h : Sound store r) (hstep : Step r r') : Sound store r' := by
  cases hstep with
  | write ws ts told =>
    refine ⟨?_, ?_, ?_, ?_⟩
    · intro x hx
      rcases List.mem_append.mp hx with hx | hx
      · exact List.mem_append_left _ (h.written x hx)
      · exact List.mem_append_right _ (told x hx)
    · intro x hx
      rcases List.mem_append.mp hx with hx | hx
      · exact List.mem_append_left _ (h.underway x hx)
      · exact List.mem_append_right _ hx
    · intro k v hv
      rcases h.holds k v hv with hv | hv
      · exact Or.inl (List.mem_append_left _ hv)
      · exact Or.inr hv
    · intro x hx
      rcases List.mem_append.mp hx with hx | hx
      · refine (h.arrived x hx).imp ?_ (fun hx => List.mem_append_left _ hx)
        rintro ⟨v, hv, htold⟩
        exact ⟨v, hv, List.mem_append_left _ htold⟩
      · exact Or.inr (List.mem_append_right _ hx)
  | arrive underway =>
    rename_i before after k v
    have hmem : ∀ x ∈ before ++ after, x ∈ r.underway := by
      intro x hx
      rw [underway]
      rcases List.mem_append.mp hx with hx | hx
      · exact List.mem_append_left _ hx
      · exact List.mem_append_right _ (List.mem_cons_of_mem _ hx)
    refine ⟨h.written, fun x hx => h.underway x (hmem x hx), ?_, ?_⟩
    · intro k' v' hv
      by_cases hk : k' = k
      · subst hk
        have hvalue : v = v' := by
          simpa only [Replica.hold, Function.update_self, Option.some.injEq] using hv
        subst hvalue
        exact Or.inl (h.underway _ (underway ▸ by simp))
      · have hold : r.store k' = some v' := by
          simpa only [Replica.hold, Function.update_of_ne hk] using hv
        exact h.holds k' v' hold
    · intro x hx
      by_cases hk : x.1 = k
      · refine Or.inl ⟨v, ?_, ?_⟩
        · simp only [Replica.hold, hk, Function.update_self]
        · rw [hk]
          exact h.underway _ (underway ▸ by simp)
      · refine (h.arrived x hx).imp ?_ ?_
        · rintro ⟨w, hw, htold⟩
          exact ⟨w, by simpa only [Replica.hold, Function.update_of_ne hk] using hw, htold⟩
        · intro hx
          rw [underway] at hx
          rcases List.mem_append.mp hx with hx | hx
          · exact List.mem_append_left _ hx
          · rcases List.mem_cons.mp hx with rfl | hx
            · exact absurd rfl hk
            · exact List.mem_append_right _ hx

theorem sound_of_reached (hreach : Relation.ReflTransGen Step (Replica.start store) r) :
    Sound store r := by
  induction hreach with
  | refl => exact sound_start store
  | tail _ hstep ih => exact ih.step hstep

end Sound

/-- When nothing is under way any more, the replica holds one of the values that it has been told
under a key. -/
lemma Sound.settled {store : κ → Option ν} {r : Replica κ ν} (h : Sound store r)
    (hnone : r.underway = []) {x : κ × ν} (hx : x ∈ r.told) :
    ∃ v, r.store x.1 = some v ∧ (x.1, v) ∈ r.told := by
  rcases h.arrived x hx with hheld | hx
  · exact hheld
  · rw [hnone] at hx
    cases hx

end Replicas
