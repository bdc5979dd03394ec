import Mathlib.Data.List.Range
import Mathlib.Data.Nat.ModEq

/-!
# Taking turns

`n` participants take turns over and over again. Whoever stops after some turns and remembers
whose turn is next goes on where it stopped; a block of turns without a new round is an interval.
-/

namespace Runs

/-- The first `m` turns. -/
def turns (n m : ℕ) : List ℕ := (List.range m).map (· % n)

lemma turns_zero (n : ℕ) : turns n 0 = [] := rfl

/-- More turns in the same round. -/
lemma turns_add {n m k : ℕ} (hk : ∀ j < k, m % n + j < n) :
    turns n (m + k) = turns n m ++ List.range' (m % n) k := by
  rw [turns, List.range_add, List.map_append, List.map_map, turns, List.range'_eq_map_range]
  congr 1
  refine List.map_congr_left (fun j hj => ?_)
  calc (m + j) % n = (m % n + j) % n := (Nat.mod_add_mod m n j).symm
    _ = m % n + j := Nat.mod_eq_of_lt (hk j (List.mem_range.mp hj))

end Runs
