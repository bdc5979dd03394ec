import Mathlib.Data.List.Basic
import Mathlib.Tactic.Common

/-!
# Recency

When something was last used, in a history of uses in which some calls use nothing.
-/

namespace Recency

variable {α : Type} [DecidableEq α] {uses : List (Option α)} {o : Option α} {a b : α}
  {xs : List α}

/-- The number of calls up to the last one that has used `a`, zero if none has. -/
def lastUse (uses : List (Option α)) (a : α) : ℕ :=
  uses.length - uses.reverse.idxOf (some a)

lemma lastUse_le (uses : List (Option α)) (a : α) : lastUse uses a ≤ uses.length := Nat.sub_le _ _

lemma lastUse_concat_self (uses : List (Option α)) (a : α) :
    lastUse (uses ++ [some a]) a = uses.length + 1 := by
  simp [lastUse]

lemma lastUse_concat_of_ne (h : o ≠ some a) : lastUse (uses ++ [o]) a = lastUse uses a := by
  unfold lastUse
  rw [List.reverse_append, List.reverse_singleton, List.singleton_append,
    List.idxOf_cons_ne _ h, List.length_append, List.length_singleton]
  exact Nat.add_sub_add_right _ _ _

lemma lastUse_of_getLast? (h : uses.getLast? = some (some a)) : lastUse uses a = uses.length := by
  obtain ⟨before, rfl⟩ := List.getLast?_eq_some_iff.mp h
  rw [lastUse_concat_self, List.length_append, List.length_singleton]

/-- The last call is later than every use of something else. -/
lemma lastUse_concat_lt (hab : a ≠ b) :
    lastUse (uses ++ [some a]) b < lastUse (uses ++ [some a]) a := by
  rw [lastUse_concat_self, lastUse_concat_of_ne (fun h => hab (Option.some.inj h))]
  exact Nat.lt_succ_of_le (lastUse_le uses b)

/-- From the least to the most recently used. -/
def InOrder (uses : List (Option α)) (xs : List α) : Prop :=
  xs.Pairwise (fun a b => lastUse uses a < lastUse uses b)

lemma InOrder.concat_none (h : InOrder uses xs) : InOrder (uses ++ [none]) xs := by
  refine h.imp ?_
  intro a b hab
  rwa [lastUse_concat_of_ne (by simp), lastUse_concat_of_ne (by simp)]

lemma InOrder.tail (h : InOrder uses (a :: xs)) : InOrder uses xs := (List.pairwise_cons.mp h).2

/-- What is used for the first time goes to the end. -/
lemma InOrder.concat_some (h : InOrder uses xs) (ha : a ∉ xs) :
    InOrder (uses ++ [some a]) (xs ++ [a]) := by
  have hne : ∀ b ∈ xs, (some a : Option α) ≠ some b := by
    intro b hb he
    exact ha (Option.some.inj he ▸ hb)
  refine List.pairwise_append.mpr ⟨?_, List.pairwise_singleton _ _, ?_⟩
  · refine h.imp_of_mem ?_
    intro b c hb hc hbc
    rwa [lastUse_concat_of_ne (hne b hb), lastUse_concat_of_ne (hne c hc)]
  · intro b hb c hc
    rw [List.mem_singleton.mp hc]
    exact lastUse_concat_lt fun he => ha (he ▸ hb)

/-- Something held has been used less recently than `a`. -/
def Stale (uses : List (Option α)) (a : α) (xs : List α) : Prop :=
  ∃ b ∈ xs, lastUse uses b < lastUse uses a

lemma Stale.concat_none (h : Stale uses a xs) : Stale (uses ++ [none]) a xs := by
  obtain ⟨b, hb, hlt⟩ := h
  refine ⟨b, hb, ?_⟩
  rwa [lastUse_concat_of_ne (by simp), lastUse_concat_of_ne (by simp)]

/-- The use of something that is not held changes nothing for what is. -/
lemma Stale.concat_some (h : Stale uses a xs) (hba : b ≠ a) (hb : b ∉ xs) :
    Stale (uses ++ [some b]) a (xs ++ [b]) := by
  obtain ⟨c, hc, hlt⟩ := h
  have hbc : (some b : Option α) ≠ some c := by
    rintro he
    obtain rfl := Option.some.inj he
    exact hb hc
  refine ⟨c, List.mem_append_left _ hc, ?_⟩
  rwa [lastUse_concat_of_ne hbc, lastUse_concat_of_ne (fun he => hba (Option.some.inj he))]

end Recency
