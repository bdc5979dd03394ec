import ZejfMeteo.Defs
import Mathlib.Algebra.Order.Group.Int
import Mathlib.Data.Int.DivMod
import Mathlib.Logic.Function.Iterate
import Mathlib.Tactic.Ring

/-!
# Times in the viewer

`TimeUtils.java`, over what it uses of `java.util.Calendar`: an instant in milliseconds, shown by
the wall clock of a zone that is whole hours ahead of UTC or behind it.
-/

namespace ZejfMeteo.Viewer.TimeUtils

/-- The offset in each hour of UTC, and the hour of UTC that an hour of the wall clock is taken
for. When the clock is put back an hour comes twice, and it is taken for one of the two. -/
structure Zone where
  offset : ℤ → ℤ
  hourOf : ℤ → ℤ
  wall_hourOf : ∀ h, hourOf (h + offset h) + offset (hourOf (h + offset h)) = h + offset h

/-- A zone without daylight saving. -/
def Zone.fixed (hours : ℤ) : Zone where
  offset _ := hours
  hourOf w := w - hours
  wall_hourOf h := by omega

structure Calendar where
  zone : Zone
  timeInMillis : ℤ

/-- The date and the hour count as one field, the hours since 1970. -/
structure Fields where
  hour : ℤ
  minute : ℤ
  second : ℤ
  millisecond : ℤ

namespace Calendar

/-- The hour of UTC. -/
def hour (c : Calendar) : ℤ := c.timeInMillis / 3600000

def wallMillis (c : Calendar) : ℤ := c.timeInMillis + c.zone.offset c.hour * 3600000

def fields (c : Calendar) : Fields where
  hour := c.wallMillis / 3600000
  minute := c.wallMillis / 60000 % 60
  second := c.wallMillis / 1000 % 60
  millisecond := c.wallMillis % 1000

/-- The fields may change; the time is computed anew from them. -/
def set (c : Calendar) (f : Fields → Fields) : Calendar where
  zone := c.zone
  timeInMillis := c.zone.hourOf (f c.fields).hour * 3600000 + (f c.fields).minute * 60000 +
    (f c.fields).second * 1000 + (f c.fields).millisecond

def addSeconds (c : Calendar) (amount : ℤ) : Calendar :=
  { c with timeInMillis := c.timeInMillis + amount * 1000 }

end Calendar

def toCalendar (zone : Zone) (hourNumber : ℤ) : Calendar := ⟨zone, hourNumber * 3600000⟩

def moveBy (calendar : Calendar) (samplesPerHour steps : ℤ) : Calendar :=
  let secondsPerStep := 3600 / samplesPerHour
  calendar.addSeconds (secondsPerStep * steps)

def getSampleNumber (calendar : Calendar) (samplesPerHour : ℤ) : ℤ :=
  let secs := calendar.fields.second + 60 * calendar.fields.minute
  secs * samplesPerHour / 3600

def round (calendar : Calendar) (samplesPerHour : ℤ) : Calendar :=
  let sample := getSampleNumber calendar samplesPerHour
  let calendar := calendar.set (fun f => { f with minute := 0 })
  let calendar := calendar.set (fun f => { f with second := 0 })
  let calendar := calendar.set (fun f => { f with millisecond := 0 })
  moveBy calendar samplesPerHour sample

/-- The calendar is at the first instant of sample `n` of an hour. -/
structure StartsSample (c : Calendar) (samplesPerHour hour n : ℤ) : Prop where
  hour_eq : c.hour = hour
  sample : getSampleNumber c samplesPerHour = n
  first : ∀ d : Calendar, d.hour = hour → d.timeInMillis < c.timeInMillis →
    getSampleNumber d samplesPerHour < n

/-- The wall-clock hour that a calendar shows is taken for the hour of UTC that it is in. The first
of two equal hours is taken for the second one, or the other way round. -/
def Calendar.TakenForItself (c : Calendar) : Prop :=
  c.zone.hourOf (c.hour + c.zone.offset c.hour) = c.hour

instance (c : Calendar) : Decidable c.TakenForItself := inferInstanceAs (Decidable (_ = _))

/-- Rounding and stepping agree on what the samples are. -/
structure OnGrid (c : Calendar) (samplesPerHour : ℤ) : Prop where
  sample : getSampleNumber (round c samplesPerHour) samplesPerHour =
    getSampleNumber c samplesPerHour
  idempotent : round (round c samplesPerHour) samplesPerHour = round c samplesPerHour
  next : if getSampleNumber c samplesPerHour + 1 < samplesPerHour then
      StartsSample (moveBy (round c samplesPerHour) samplesPerHour 1) samplesPerHour
        c.hour (getSampleNumber c samplesPerHour + 1)
    else StartsSample (moveBy (round c samplesPerHour) samplesPerHour 1) samplesPerHour
      (c.hour + 1) 0
  visits : ∀ i : ℕ, i < samplesPerHour →
    StartsSample ((moveBy · samplesPerHour 1)^[i] (toCalendar c.zone c.hour)) samplesPerHour
      c.hour i

section Grid

variable {c : Calendar} {s : ℤ}

/-- The seconds of the hour, which are those of UTC. -/
lemma getSampleNumber_eq (c : Calendar) (s : ℤ) :
    getSampleNumber c s = c.timeInMillis / 1000 % 3600 * s / 3600 := by
  have hsecs : c.fields.second + 60 * c.fields.minute = c.timeInMillis / 1000 % 3600 := by
    simp only [Calendar.fields, Calendar.wallMillis]
    omega
  rw [getSampleNumber, hsecs]

lemma getSampleNumber_of_time {h x : ℤ} (hc : c.timeInMillis = h * 3600000 + x * 1000)
    (hx : 0 ≤ x) (hlt : x < 3600) : getSampleNumber c s = x * s / 3600 := by
  rw [getSampleNumber_eq, hc]
  congr 2
  omega

lemma hour_of_time {h x : ℤ} (hc : c.timeInMillis = h * 3600000 + x * 1000)
    (hx : 0 ≤ x) (hlt : x < 3600) : c.hour = h := by
  rw [Calendar.hour, hc]
  omega

lemma getSampleNumber_nonneg (c : Calendar) (hs : 0 < s) : 0 ≤ getSampleNumber c s := by
  rw [getSampleNumber_eq]
  exact Int.ediv_nonneg (Int.mul_nonneg (Int.emod_nonneg _ (by decide)) hs.le) (by decide)

lemma getSampleNumber_lt (c : Calendar) (hs : 0 < s) : getSampleNumber c s < s := by
  rw [getSampleNumber_eq, Int.ediv_lt_iff_lt_mul (by decide), Int.mul_comm s]
  exact Int.mul_lt_mul_of_pos_right (Int.emod_lt_of_pos _ (by decide)) hs

/-- A calendar in the hour that an hour of the wall clock is taken for shows that hour. -/
lemma fields_hourOf {z : Zone} {w h x y m : ℤ} (hw : h + z.offset h = w) (hx : 0 ≤ x ∧ x < 60)
    (hy : 0 ≤ y ∧ y < 60) (hm : 0 ≤ m ∧ m < 1000) :
    (Calendar.mk z (h * 3600000 + x * 60000 + y * 1000 + m)).fields = ⟨w, x, y, m⟩ := by
  have hh : (Calendar.mk z (h * 3600000 + x * 60000 + y * 1000 + m)).hour = h := by
    simp only [Calendar.hour]
    omega
  simp only [Calendar.fields, Calendar.wallMillis, hh, Fields.mk.injEq]
  generalize z.offset h = o at *
  omega

lemma fields_bounds (c : Calendar) :
    c.fields.hour = c.hour + c.zone.offset c.hour ∧
      (0 ≤ c.fields.second ∧ c.fields.second < 60) ∧
      (0 ≤ c.fields.millisecond ∧ c.fields.millisecond < 1000) := by
  simp only [Calendar.fields, Calendar.wallMillis, Calendar.hour]
  omega

/-- The instant that a calendar is rounded to: so many steps into the hour of UTC that its hour
is taken for. -/
lemma round_eq (c : Calendar) (s : ℤ) : round c s = ⟨c.zone,
    c.zone.hourOf (c.hour + c.zone.offset c.hour) * 3600000 +
      3600 / s * getSampleNumber c s * 1000⟩ := by
  obtain ⟨hhour, hsecond, hmilli⟩ := fields_bounds c
  have hwall := c.zone.wall_hourOf c.hour
  generalize hk : c.zone.hourOf (c.hour + c.zone.offset c.hour) = k at hwall
  have hzero : (0 : ℤ) ≤ 0 ∧ (0 : ℤ) < 60 := by decide
  have hminute : c.set (fun f => { f with minute := 0 }) =
      ⟨c.zone, k * 3600000 + 0 * 60000 + c.fields.second * 1000 + c.fields.millisecond⟩ := by
    rw [Calendar.set]
    dsimp only
    rw [hhour, hk]
  have hsec : (c.set (fun f => { f with minute := 0 })).set (fun f => { f with second := 0 }) =
      ⟨c.zone, k * 3600000 + 0 * 60000 + 0 * 1000 + c.fields.millisecond⟩ := by
    rw [hminute, Calendar.set, fields_hourOf hwall hzero hsecond hmilli]
    dsimp only
    rw [hk]
  have hmillis : ((c.set (fun f => { f with minute := 0 })).set
      (fun f => { f with second := 0 })).set (fun f => { f with millisecond := 0 }) =
        ⟨c.zone, k * 3600000⟩ := by
    rw [hsec, Calendar.set, fields_hourOf hwall hzero hzero hmilli]
    dsimp only
    rw [hk]
    congr 1
    omega
  rw [round, hmillis, moveBy, Calendar.addSeconds]

lemma steps_lt (hs : 0 < s) (hmax : s ≤ 3600) {n : ℤ} (hn : 0 ≤ n) (hlt : n < s) :
    0 ≤ 3600 / s * n ∧ 3600 / s * n < 3600 := by
  have hq : 0 < 3600 / s := Int.le_ediv_of_mul_le hs (by omega)
  have hle : 3600 / s * s ≤ 3600 := Int.ediv_mul_le _ hs.ne'
  refine ⟨Int.mul_nonneg hq.le hn, lt_of_lt_of_le ?_ hle⟩
  exact Int.mul_lt_mul_of_pos_left hlt hq

lemma hour_round (hs : 0 < s) (hmax : s ≤ 3600) (c : Calendar) :
    (round c s).hour = c.zone.hourOf (c.hour + c.zone.offset c.hour) := by
  obtain ⟨hx, hlt⟩ := steps_lt hs hmax (getSampleNumber_nonneg c hs) (getSampleNumber_lt c hs)
  rw [round_eq]
  exact hour_of_time rfl hx hlt

lemma getSampleNumber_round (hs : 0 < s) (hmax : s ≤ 3600) (c : Calendar) :
    getSampleNumber (round c s) s = 3600 / s * getSampleNumber c s * s / 3600 := by
  obtain ⟨hx, hlt⟩ := steps_lt hs hmax (getSampleNumber_nonneg c hs) (getSampleNumber_lt c hs)
  rw [round_eq]
  exact getSampleNumber_of_time rfl hx hlt

lemma startsSample_of_dvd (hs : 0 < s) (hmax : s ≤ 3600) (hdvd : s ∣ 3600) {h n : ℤ}
    (hc : c.timeInMillis = h * 3600000 + 3600 / s * n * 1000) (hn : 0 ≤ n) (hlt : n < s) :
    StartsSample c s h n := by
  obtain ⟨hx, hlt'⟩ := steps_lt hs hmax hn hlt
  have hq : 3600 / s * s = 3600 := Int.ediv_mul_cancel hdvd
  refine ⟨hour_of_time hc hx hlt', ?_, ?_⟩
  · rw [getSampleNumber_of_time hc hx hlt', Int.mul_right_comm, hq, Int.mul_comm,
      Int.mul_ediv_cancel _ (by decide)]
  · intro d hd hbefore
    rw [getSampleNumber_eq, Int.ediv_lt_iff_lt_mul (by decide)]
    have hsecs : d.timeInMillis / 1000 % 3600 < 3600 / s * n := by
      rw [Calendar.hour] at hd
      generalize 3600 / s * n = x at *
      omega
    calc d.timeInMillis / 1000 % 3600 * s < 3600 / s * n * s := Int.mul_lt_mul_of_pos_right hsecs hs
      _ = n * 3600 := by rw [Int.mul_right_comm, hq, Int.mul_comm]

lemma iterate_moveBy (z : Zone) (h s : ℤ) (i : ℕ) :
    (moveBy · s 1)^[i] (toCalendar z h) = ⟨z, h * 3600000 + 3600 / s * i * 1000⟩ := by
  induction i with
  | zero => simp [toCalendar]
  | succ i ih =>
    rw [Function.iterate_succ_apply', ih]
    simp only [moveBy, Calendar.addSeconds, Calendar.mk.injEq, true_and]
    push_cast
    ring

lemma time_moveBy_round (c : Calendar) (s : ℤ) : (moveBy (round c s) s 1).timeInMillis =
    c.zone.hourOf (c.hour + c.zone.offset c.hour) * 3600000 +
      3600 / s * (getSampleNumber c s + 1) * 1000 := by
  rw [round_eq]
  simp only [moveBy, Calendar.addSeconds]
  ring

lemma onGrid_of_dvd (hs : 0 < s) (hmax : s ≤ 3600) (hdvd : s ∣ 3600) (hc : c.TakenForItself) :
    OnGrid c s := by
  have hq : 3600 / s * s = 3600 := Int.ediv_mul_cancel hdvd
  have hn := getSampleNumber_nonneg c hs
  have hlt := getSampleNumber_lt c hs
  have hsample : getSampleNumber (round c s) s = getSampleNumber c s := by
    rw [getSampleNumber_round hs hmax, Int.mul_right_comm, hq, Int.mul_comm,
      Int.mul_ediv_cancel _ (by decide)]
  have hzone : (round c s).zone = c.zone := by rw [round_eq]
  have hhour : (round c s).hour = c.hour := (hour_round hs hmax c).trans hc
  have hmoved := time_moveBy_round c s
  rw [hc] at hmoved
  refine ⟨hsample, ?_, ?_, ?_⟩
  · rw [round_eq (round c s), hsample, hhour, hzone, round_eq c]
  · split
    · exact startsSample_of_dvd hs hmax hdvd hmoved (by omega) ‹_›
    · -- The last sample: the next one is the first of the next hour.
      have hlast : getSampleNumber c s + 1 = s := by omega
      refine startsSample_of_dvd hs hmax hdvd ?_ Int.le_rfl hs
      rw [hmoved, hlast, hq]
      ring
  · intro i hi
    rw [iterate_moveBy]
    exact startsSample_of_dvd hs hmax hdvd rfl (Int.natCast_nonneg i) hi

lemma dvd_of_onGrid (hs : 0 < s) (hmax : s ≤ 3600) (h : OnGrid c s) : s ∣ 3600 := by
  by_contra hdvd
  have hn := getSampleNumber_nonneg c hs
  have hq : 3600 / s * s < 3600 := by
    have hle : 3600 / s * s ≤ 3600 := Int.ediv_mul_le _ hs.ne'
    have hne : 3600 / s * s ≠ 3600 := fun he => hdvd (Dvd.intro_left _ he)
    omega
  -- Any number of steps but none falls short of its sample.
  have hshort : ∀ x : ℤ, 0 < x → 3600 / s * x * s / 3600 < x := by
    intro x hx
    rw [Int.ediv_lt_iff_lt_mul (by decide), Int.mul_right_comm, Int.mul_comm x]
    exact Int.mul_lt_mul_of_pos_right hq hx
  by_cases hzero : getSampleNumber c s = 0
  · have hone : 1 < s := by
      have hne : s ≠ 1 := fun he => hdvd (he ▸ Int.one_dvd _)
      omega
    obtain ⟨hx, hlt⟩ := steps_lt hs hmax (Int.zero_le_ofNat 1) hone
    have hmoved : (moveBy (round c s) s 1).timeInMillis =
        c.zone.hourOf (c.hour + c.zone.offset c.hour) * 3600000 + 3600 / s * 1 * 1000 := by
      rw [round_eq, hzero, moveBy, Calendar.addSeconds]
      dsimp only
      omega
    have hnext := h.next
    rw [hzero, Int.zero_add, if_pos hone] at hnext
    have hsample := hnext.sample
    rw [getSampleNumber_of_time hmoved hx hlt] at hsample
    exact absurd hsample (hshort 1 Int.one_pos).ne
  · have hsample := h.sample
    rw [getSampleNumber_round hs hmax] at hsample
    exact absurd hsample (hshort _ (by omega)).ne

/-- Where the steps add up to the hour, the next sample is in the hour that the wall-clock hour is
taken for, or starts the one after it. -/
lemma takenForItself_of_onGrid (hs : 0 < s) (hmax : s ≤ 3600) (h : OnGrid c s) :
    c.TakenForItself := by
  have hq : 3600 / s * s = 3600 := Int.ediv_mul_cancel (dvd_of_onGrid hs hmax h)
  have hn := getSampleNumber_nonneg c hs
  have hlt := getSampleNumber_lt c hs
  have hmoved := time_moveBy_round c s
  have hnext := h.next
  rw [Calendar.TakenForItself]
  by_cases hlast : getSampleNumber c s + 1 < s
  · rw [if_pos hlast] at hnext
    obtain ⟨hx, hlt'⟩ := steps_lt hs hmax (by omega : 0 ≤ getSampleNumber c s + 1) hlast
    exact (hour_of_time hmoved hx hlt').symm.trans hnext.hour_eq
  · rw [if_neg hlast] at hnext
    have hall : getSampleNumber c s + 1 = s := by omega
    rw [hall, hq] at hmoved
    have hhour := hnext.hour_eq
    rw [Calendar.hour, hmoved] at hhour
    omega

/-- **The grid is consistent exactly for sample rates that divide the hour, in hours that the wall
clock is taken for.** For any other rate the steps are rounded down to seconds, and a sample does not
begin where the step goes; in the first of two equal hours, rounding goes to the second one. -/
theorem onGrid_iff (c : Calendar) (hs : 1 ≤ s) (hmax : s ≤ Settings.zejfMeteo.sampleRateMax) :
    OnGrid c s ↔ s ∣ 3600 ∧ c.TakenForItself := by
  have hmax' : s ≤ 3600 := le_trans hmax (by decide)
  constructor
  · exact fun h => ⟨dvd_of_onGrid hs hmax' h, takenForItself_of_onGrid hs hmax' h⟩
  · rintro ⟨hdvd, hc⟩
    exact onGrid_of_dvd hs hmax' hdvd hc

/-- A zone that puts its clock forward and back. The hours 6999 and 7000 are both shown as the
hour 7001, which is taken for the second of them. -/
def summerTime : Zone where
  offset h := if 2000 ≤ h ∧ h < 7000 then 2 else 1
  hourOf w := if 2002 ≤ w ∧ w < 7001 then w - 2 else w - 1
  wall_hourOf h := by
    split_ifs <;> omega

/-- 720 samples an hour, in both of the hours. -/
theorem summerTime_onGrid : ¬OnGrid ⟨summerTime, 6999 * 3600000 + 1234567⟩ 720 ∧
    OnGrid ⟨summerTime, 7000 * 3600000 + 1234567⟩ 720 :=
  ⟨fun h => absurd ((onGrid_iff _ (by decide) (by decide)).mp h).2 (by decide),
    (onGrid_iff _ (by decide) (by decide)).mpr ⟨by decide, by decide⟩⟩

/-- Seven samples an hour: the second sample is rounded into the first. -/
theorem sevenSamples_not_onGrid :
    (1 : ℤ) ≤ 7 ∧ (7 : ℤ) ≤ Settings.zejfMeteo.sampleRateMax ∧
      getSampleNumber ⟨.fixed 1, 515000⟩ 7 = 1 ∧
      getSampleNumber (round ⟨.fixed 1, 515000⟩ 7) 7 = 0 ∧ ¬OnGrid ⟨.fixed 1, 515000⟩ 7 := by
  have hsample : getSampleNumber ⟨.fixed 1, 515000⟩ 7 = 1 := by decide
  have hround : getSampleNumber (round ⟨.fixed 1, 515000⟩ 7) 7 = 0 := by decide
  refine ⟨by decide, by decide, hsample, hround, fun h => ?_⟩
  have hsame := h.sample
  rw [hsample, hround] at hsame
  exact absurd hsame (by decide)

end Grid

end ZejfMeteo.Viewer.TimeUtils
