import ZejfMeteo.RainGauge
import Mathlib.Data.List.Chain

/-!
# The slots of the logs

Every log cuts the time into slots of its own. A log is emitted in the slot after the one that
it was asked in before, with the number of the slot in its hour.
-/

namespace ZejfMeteo.Outside
open Runs

variable {α : Type}

/-- A log is asked at a time, as `process_measurements` does with each of `all_logs`. -/
def ZejfLog.tick (empty : α) (unixTime : UInt32) : Run (ZejfLog α) (Option (ZejfLog α)) :=
  modifyGet (·.flush empty unixTime)

/-- The slot of a time, counted from the first second on. -/
def slotAt (sampleRate : ℕ) (unixTime : UInt32) : ℕ := unixTime.toNat / (3600 / sampleRate)

/-- The slot of the call before, and 0 before the first call. -/
def slotBefore (sampleRate : ℕ) (tr : List (UInt32 × Option (ZejfLog α))) : ℕ :=
  (tr.getLast?.map (fun x => slotAt sampleRate x.1)).getD 0

/-- The pairs of hour number and log number that have been emitted. -/
def emitted (tr : List (UInt32 × Option (ZejfLog α))) : List (ℕ × ℕ) :=
  tr.filterMap (fun x => x.2.map (fun log => (log.hourNum.toNat, log.logNum.toNat)))

/-- The pair of an emitted log is that of its slot. -/
def InSlot (sampleRate : ℕ) (unixTime : UInt32) (log : ZejfLog α) : Prop :=
  log.logNum.toNat < sampleRate ∧
    log.hourNum.toNat * sampleRate + log.logNum.toNat = slotAt sampleRate unixTime

section Arithmetic

variable {r t : UInt32}

lemma slot_seconds (hr : r.toNat ∣ 3600) :
    0 < 3600 / r.toNat ∧ 3600 / r.toNat * r.toNat = 3600 :=
  ⟨Nat.div_pos (Nat.le_of_dvd (by decide) hr) (Nat.pos_of_dvd_of_pos hr (by decide)),
    Nat.div_mul_cancel hr⟩

lemma toNat_getLogNumAbs (r t : UInt32) : (getLogNumAbs t r).toNat = slotAt r.toNat t := by
  rw [getLogNumAbs, UInt32.toNat_div, UInt32.toNat_div]
  rfl

/-- The number in the hour and the hour make up the slot. -/
lemma getLogNum_getHourNum (hr : r.toNat ∣ 3600) : (getLogNum t r).toNat < r.toNat ∧
    (getHourNum t).toNat * r.toNat + (getLogNum t r).toNat = slotAt r.toNat t := by
  obtain ⟨hpos, hfill⟩ := slot_seconds hr
  have hlog : (getLogNum t r).toNat = t.toNat % 3600 / (3600 / r.toNat) := by
    rw [getLogNum, UInt32.toNat_div, UInt32.toNat_div, UInt32.toNat_mod]
    rfl
  have hhour : (getHourNum t).toNat = t.toNat / 3600 := by
    rw [getHourNum, UInt32.toNat_div]
    rfl
  rw [hlog, hhour]
  constructor
  · rw [Nat.div_lt_iff_lt_mul hpos, Nat.mul_comm, hfill]
    exact Nat.mod_lt _ (by decide)
  · have hsplit : t.toNat = t.toNat % 3600 + 3600 / r.toNat * (t.toNat / 3600 * r.toNat) := by
      rw [Nat.mul_left_comm, hfill, Nat.mul_comm, Nat.add_comm, Nat.div_add_mod]
    conv_rhs => rw [slotAt, hsplit, Nat.add_mul_div_left _ _ hpos]
    exact Nat.add_comm _ _

lemma slotAt_mono {a b : UInt32} (h : a ≤ b) (n : ℕ) : slotAt n a ≤ slotAt n b :=
  Nat.div_le_div_right (UInt32.le_iff_toNat_le.mp h)

end Arithmetic

section Runs

variable {empty : α} {r t : UInt32} {log u : ZejfLog α} {o : Option (ZejfLog α)}
  {tr : List (UInt32 × Option (ZejfLog α))}

/-- What one call does: the log is emitted in the slot after the last one. -/
lemma tick_run (empty : α) (t : UInt32) (log : ZejfLog α) :
    ∃ o u, (ZejfLog.tick empty t).run log = .ok o u ∧ u.sampleRate = log.sampleRate ∧
      u.lastLogNum = getLogNumAbs t log.sampleRate ∧
      (o.isSome ↔ getLogNumAbs t log.sampleRate - log.lastLogNum = 1) ∧
      ∀ clone ∈ o, clone.logNum = getLogNum t log.sampleRate ∧ clone.hourNum = getHourNum t := by
  refine ⟨(log.flush empty t).1, (log.flush empty t).2, rfl, ?_⟩
  by_cases hnext : getLogNumAbs t log.sampleRate - log.lastLogNum = 1
  · simp [ZejfLog.flush, ZejfLog.isReady, ZejfLog.reset, hnext]
  · by_cases hsame : getLogNumAbs t log.sampleRate = log.lastLogNum
    · simp [ZejfLog.flush, ZejfLog.isReady, hsame]
    · simp [ZejfLog.flush, ZejfLog.isReady, ZejfLog.reset, hnext, hsame]

lemma sub_eq_one_iff {a b : UInt32} (h : a.toNat ≤ b.toNat) : b - a = 1 ↔ b.toNat = a.toNat + 1 := by
  rw [← UInt32.toNat_inj, UInt32.toNat_sub_of_le _ _ (UInt32.le_iff_toNat_le.mpr h)]
  have hone : (1 : UInt32).toNat = 1 := rfl
  omega

/-- What holds after the calls of `tr`: the log remembers the last slot, and what has been
emitted belongs to slots up to there. -/
structure Slots (r : UInt32) (tr : List (UInt32 × Option (ZejfLog α))) (log : ZejfLog α) :
    Prop where
  rate : log.sampleRate = r
  last : log.lastLogNum.toNat = slotBefore r.toNat tr
  before : ∀ x ∈ emitted tr, x.2 < r.toNat ∧ x.1 * r.toNat + x.2 ≤ slotBefore r.toNat tr
  sorted : (emitted tr).Pairwise (fun x y => x.1 < y.1 ∨ x.1 = y.1 ∧ x.2 < y.2)

lemma Slots.start (empty : α) (r : UInt32) : Slots r [] (ZejfLog.new empty r) where
  rate := rfl
  last := rfl
  before := by simp [emitted]
  sorted := List.Pairwise.nil

lemma slotBefore_concat (n : ℕ) (tr : List (UInt32 × Option (ZejfLog α))) (t : UInt32)
    (o : Option (ZejfLog α)) : slotBefore n (tr ++ [(t, o)]) = slotAt n t := by
  simp [slotBefore]

lemma emitted_concat (tr : List (UInt32 × Option (ZejfLog α))) (t : UInt32)
    (o : Option (ZejfLog α)) : emitted (tr ++ [(t, o)]) =
      emitted tr ++ (o.map (fun log => (log.hourNum.toNat, log.logNum.toNat))).toList := by
  rw [emitted, List.filterMap_append]
  cases o <;> rfl

lemma pair_lt {n : ℕ} {x y : ℕ × ℕ} (h : x.1 * n + x.2 < y.1 * n + y.2)
    (hy : y.2 < n) : x.1 < y.1 ∨ x.1 = y.1 ∧ x.2 < y.2 := by
  rcases Nat.lt_trichotomy x.1 y.1 with hlt | heq | hgt
  · exact Or.inl hlt
  · refine Or.inr ⟨heq, ?_⟩
    rw [heq] at h
    omega
  · have hmul : y.1 * n + n ≤ x.1 * n := by
      rw [← Nat.succ_mul]
      exact Nat.mul_le_mul_right n hgt
    omega

/-- One more call in a slot that is not before the last one. -/
lemma Slots.step (h : Slots r tr log) (hr : r.toNat ∣ 3600)
    (hslot : slotBefore r.toNat tr ≤ slotAt r.toNat t)
    (hrun : (ZejfLog.tick empty t).run log = .ok o u) :
    Slots r (tr ++ [(t, o)]) u ∧
      (o.isSome ↔ slotAt r.toNat t = slotBefore r.toNat tr + 1) ∧
      ∀ clone ∈ o, InSlot r.toNat t clone := by
  obtain ⟨o', u', hrun', hrate, hlast, hready, hclone⟩ := tick_run empty t log
  obtain ⟨rfl, rfl⟩ := EStateM.Result.ok.inj (hrun.symm.trans hrun')
  rw [h.rate] at hrate hlast hready hclone
  have hnext : o.isSome ↔ slotAt r.toNat t = slotBefore r.toNat tr + 1 := by
    rw [hready, sub_eq_one_iff, toNat_getLogNumAbs, h.last]
    rw [h.last, toNat_getLogNumAbs]
    exact hslot
  have hinSlot : ∀ clone ∈ o, InSlot r.toNat t clone := by
    intro clone hc
    obtain ⟨hlog, hhour⟩ := hclone clone hc
    rw [InSlot, hlog, hhour]
    exact getLogNum_getHourNum hr
  refine ⟨⟨hrate, ?_, ?_, ?_⟩, hnext, hinSlot⟩
  · rw [hlast, toNat_getLogNumAbs, slotBefore_concat]
  · intro x hx
    rw [slotBefore_concat]
    rw [emitted_concat, List.mem_append] at hx
    rcases hx with hx | hx
    · obtain ⟨hlt, hle⟩ := h.before x hx
      exact ⟨hlt, hle.trans hslot⟩
    · obtain ⟨clone, hc, rfl⟩ := Option.map_eq_some_iff.mp (Option.mem_toList.mp hx)
      obtain ⟨hlt, heq⟩ := hinSlot clone hc
      exact ⟨hlt, heq.le⟩
  · rw [emitted_concat]
    refine List.pairwise_append.mpr ⟨h.sorted, ?_, ?_⟩
    · cases o with
      | none => exact List.Pairwise.nil
      | some clone => exact List.pairwise_singleton _ _
    · intro x hx y hy
      obtain ⟨clone, hc, rfl⟩ := Option.map_eq_some_iff.mp (Option.mem_toList.mp hy)
      obtain ⟨-, hle⟩ := h.before x hx
      obtain ⟨hlt', heq⟩ := hinSlot clone hc
      have hsome : o.isSome = true := Option.isSome_iff_exists.mpr ⟨clone, hc⟩
      refine pair_lt ?_ hlt'
      rw [heq, hnext.mp hsome]
      exact Nat.lt_succ_of_le hle

/-- **One log a slot.** At times that do not go back, a log is emitted exactly in the slot after
that of the call before, with the numbers of its slot, and no pair of numbers comes again. -/
theorem slots_loggedOnce (empty : α) (hr : r.toNat ∣ 3600) {times : List UInt32}
    (htimes : times.IsChain (· ≤ ·)) :
    ∃ tr log, Trace (ZejfLog.tick empty) (ZejfLog.new empty r) tr log ∧
      tr.map Prod.fst = times ∧
      Throughout (ZejfLog.tick empty) (ZejfLog.new empty r) (fun before _ t o =>
        (o.isSome ↔ slotAt r.toNat t = slotBefore r.toNat before + 1) ∧
          ∀ clone ∈ o, InSlot r.toNat t clone) tr ∧
      (emitted tr).Pairwise (fun x y => x.1 < y.1 ∨ x.1 = y.1 ∧ x.2 < y.2) ∧
      (emitted tr).Nodup := by
  suffices hslots : ∃ tr log, Trace (ZejfLog.tick empty) (ZejfLog.new empty r) tr log ∧
      tr.map Prod.fst = times ∧ Slots r tr log ∧
      Throughout (ZejfLog.tick empty) (ZejfLog.new empty r) (fun before _ t o =>
        (o.isSome ↔ slotAt r.toNat t = slotBefore r.toNat before + 1) ∧
          ∀ clone ∈ o, InSlot r.toNat t clone) tr by
    obtain ⟨tr, log, htr, hmap, hs, hall⟩ := hslots
    refine ⟨tr, log, htr, hmap, hall, hs.sorted, hs.sorted.imp ?_⟩
    rintro x y hxy rfl
    omega
  induction times using List.reverseRecOn with
  | nil => exact ⟨[], _, .nil, rfl, Slots.start empty r, Throughout.nil _ _ _⟩
  | append_singleton times t ih =>
    obtain ⟨hbefore, -, hlast⟩ := List.isChain_append.mp htimes
    obtain ⟨tr, log, htr, hmap, hs, hall⟩ := ih hbefore
    have hslot : slotBefore r.toNat tr ≤ slotAt r.toNat t := by
      unfold slotBefore
      cases hx : tr.getLast? with
      | none => exact Nat.zero_le _
      | some x =>
        refine slotAt_mono (hlast x.1 ?_ t rfl) _
        rw [← hmap, List.getLast?_map, hx]
        rfl
    obtain ⟨o, u, hrun, -⟩ := tick_run empty t log
    obtain ⟨hs', hstep⟩ := hs.step hr hslot hrun
    refine ⟨tr ++ [(t, o)], u, htr.snoc hrun, by rw [List.map_append, hmap]; rfl, hs', ?_⟩
    exact (Throughout.snoc_iff htr t o).mpr ⟨hall, hstep⟩

/-- The first slot is left out: nothing is emitted in it. -/
theorem everyMinute_loggedOnce :
    ∃ tr log, Trace (ZejfLog.tick ()) (ZejfLog.new () everyMinute) tr log ∧
      tr.map Prod.fst = [3601, 3659, 3660, 3725, 3900, 3960] ∧
      Throughout (ZejfLog.tick ()) (ZejfLog.new () everyMinute) (fun before _ t o =>
        (o.isSome ↔ slotAt everyMinute.toNat t = slotBefore everyMinute.toNat before + 1) ∧
          ∀ clone ∈ o, InSlot everyMinute.toNat t clone) tr ∧
      (emitted tr).Pairwise (fun x y => x.1 < y.1 ∨ x.1 = y.1 ∧ x.2 < y.2) ∧
      (emitted tr).Nodup :=
  slots_loggedOnce () (by decide) (by decide)

example : (outcome ((serve (ZejfLog.tick ()) [3601, 3659, 3660, 3725, 3900, 3960]).run
    (ZejfLog.new () everyMinute))).map (fun os => os.map (Option.map ZejfLog.logNum)) =
    some [none, none, some 1, some 2, none, some 6] := by
  decide

end Runs

end ZejfMeteo.Outside
