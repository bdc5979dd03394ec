import Mathlib.Tactic.Common
import Mathlib.Tactic.Ring
import Mathlib.Data.Nat.Notation

/-!
# Bytes in memory

Little-endian numbers, and blocks of allocated memory whose bytes are written piece by
piece. A byte of a block that has not been written yet has no value.
-/

namespace Bytes

/-- The `k` low bytes of `n`, lowest first. -/
def leBytes : ℕ → ℕ → List UInt8
  | 0, _ => []
  | k + 1, n => UInt8.ofNat (n % 256) :: leBytes k (n / 256)

/-- The number whose bytes are given, lowest first. -/
def leValue (bs : List UInt8) : ℕ := bs.foldr (fun b n => b.toNat + 256 * n) 0

@[simp] lemma leValue_cons (b : UInt8) (bs : List UInt8) :
    leValue (b :: bs) = b.toNat + 256 * leValue bs := rfl

@[simp] lemma length_leBytes (k n : ℕ) : (leBytes k n).length = k := by
  induction k generalizing n with
  | zero => rfl
  | succ k ih => simp [leBytes, ih]

lemma leValue_leBytes (k n : ℕ) (h : n < 256 ^ k) : leValue (leBytes k n) = n := by
  induction k generalizing n with
  | zero =>
    have hn : n = 0 := by simpa using h
    rw [hn]
    rfl
  | succ k ih =>
    have hdiv : n / 256 < 256 ^ k := by
      rw [Nat.div_lt_iff_lt_mul (by omega), ← pow_succ]
      exact h
    have hbyte : (UInt8.ofNat (n % 256)).toNat = n % 256 := by
      rw [UInt8.toNat_ofNat']
      omega
    rw [leBytes, leValue_cons, ih _ hdiv, hbyte]
    omega

lemma leBytes_leValue (bs : List UInt8) : leBytes bs.length (leValue bs) = bs := by
  induction bs with
  | nil => rfl
  | cons b bs ih =>
    have hb : b.toNat < 256 := b.toNat_lt
    have hmod : (b.toNat + 256 * leValue bs) % 256 = b.toNat := by omega
    have hdiv : (b.toNat + 256 * leValue bs) / 256 = leValue bs := by omega
    rw [List.length_cons, leBytes, leValue_cons, hmod, hdiv, ih, UInt8.ofNat_toNat]

lemma leValue_lt (bs : List UInt8) : leValue bs < 256 ^ bs.length := by
  induction bs with
  | nil => simp [leValue]
  | cons b bs ih =>
    have hb : b.toNat < 256 := b.toNat_lt
    rw [leValue_cons, List.length_cons, pow_succ]
    omega

/-- An allocated block; `none` is a byte that has not been written. -/
abbrev Block := List (Option UInt8)

namespace Block

def malloc (n : ℕ) : Block := List.replicate n none

/-- Writes `bs` at offset `off`, if it fits into the block. -/
def store (m : Block) (off : ℕ) (bs : List UInt8) : Option Block :=
  if off + bs.length ≤ m.length then
    some (m.take off ++ bs.map some ++ m.drop (off + bs.length))
  else
    none

/-- The first `n` bytes, if they are in the block and all written. -/
def load (m : Block) (n : ℕ) : Option (List UInt8) :=
  if n ≤ m.length then (m.take n).mapM id else none

/-- A block whose first bytes are `bs` and whose last `r` bytes are not written yet. -/
def filled (bs : List UInt8) (r : ℕ) : Block := bs.map some ++ List.replicate r none

lemma malloc_eq (n : ℕ) : malloc n = filled [] n := rfl

lemma store_filled (bs cs : List UInt8) (r : ℕ) :
    store (filled bs (cs.length + r)) bs.length cs = some (filled (bs ++ cs) r) := by
  have hlen : bs.length + cs.length ≤ (filled bs (cs.length + r)).length := by
    simp [filled]
  rw [store, if_pos hlen]
  simp [filled, List.drop_append]

lemma mapM_id_map_some (bs : List UInt8) : (bs.map some).mapM id = some bs := by
  induction bs with
  | nil => rfl
  | cons b bs ih => simp [List.mapM_cons, ih]

lemma load_filled (bs : List UInt8) (r : ℕ) : load (filled bs r) bs.length = some bs := by
  have hlen : bs.length ≤ (filled bs r).length := by simp [filled]
  rw [load, if_pos hlen, filled, List.take_left' (by simp), mapM_id_map_some]

end Block

end Bytes
