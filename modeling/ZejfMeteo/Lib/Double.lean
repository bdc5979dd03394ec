import Mathlib.Data.Rat.Floor
import Mathlib.Data.Int.Log

/-!
# Double precision

The results of double arithmetic as rational numbers. Neither overflow nor underflow is
modelled: `round` is for results of ordinary size.
-/

namespace Double

/-- The closest integer, and the even one of two. -/
def roundEven (x : ℚ) : ℤ :=
  let d := x - ⌊x⌋
  if d < 1 / 2 then ⌊x⌋
  else if 1 / 2 < d then ⌊x⌋ + 1
  else if ⌊x⌋ % 2 = 0 then ⌊x⌋
  else ⌊x⌋ + 1

/-- The closest number with 53 significant bits. -/
def round (x : ℚ) : ℚ :=
  if x = 0 then 0
  else
    let ulp : ℚ := 2 ^ (Int.log 2 |x| - 52)
    roundEven (x / ulp) * ulp

/-- Conversion to `uint32_t` drops the fraction. -/
def toUInt32 (x : ℚ) : UInt32 := UInt32.ofNat ⌊x⌋.toNat

end Double
