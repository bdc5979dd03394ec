import ZejfMeteo.Lib.Trace
import Mathlib.Data.Rat.Defs
import Mathlib.Algebra.GroupWithZero.Nat

/-!
# The rain gauge

`zejf_measure.cpp` of the outside sensor, with the base class of `zejf_pico_data.h` and the
loop of `zejf_pico_run` over the queue of logs. Edges of the gauge and ticks of the timer
interrupt the loop; neither interrupts the other where it would matter.
-/

namespace ZejfMeteo.Outside
open Runs

/-- What is done with `double` values. -/
structure Doubles (ρ : Type) where
  zero : ρ
  add : ρ → ρ → ρ
  le : ρ → ρ → Bool
  lt : ρ → ρ → Bool
  ne : ρ → ρ → Bool
  /-- The rate of two tips that are so many microseconds apart. -/
  rainRate : UInt64 → ρ
  /-- `2000.0`. -/
  rateLimit : ρ

/-- `zejf_log`, with what a derived class adds to it. -/
structure ZejfLog (α : Type) where
  logNum : UInt32
  hourNum : UInt32
  lastLogNum : UInt32
  sampleRate : UInt32
  data : α
deriving DecidableEq

structure HtuData (ρ : Type) where
  logCount : UInt16
  tempSum : ρ
  rhSum : ρ
  tdSum : ρ
deriving DecidableEq

structure RrData (ρ : Type) where
  logCount : UInt16
  maxRainRate : ρ
deriving DecidableEq

structure VoltagesData (ρ : Type) where
  logCount : UInt16
  solarSum : ρ
  batterySum : ρ
  currentSum : ρ
deriving DecidableEq

/-- `SECONDS_5`. -/
def seconds5 : UInt32 := 60 * 12

/-- `EVERY_MINUTE`. -/
def everyMinute : UInt32 := 60

def getLogNum (unixTime sampleRate : UInt32) : UInt32 :=
  (unixTime % (60 * 60)) / ((60 * 60) / sampleRate)

def getLogNumAbs (unixTime sampleRate : UInt32) : UInt32 := unixTime / ((60 * 60) / sampleRate)

def getHourNum (unixTime : UInt32) : UInt32 := unixTime / (60 * 60)

section Logs

variable {α ρ : Type} (D : Doubles ρ)

/-- `zejf_log(sample_rate)`; what a reset leaves in the derived class is `empty`. -/
def ZejfLog.new (empty : α) (sampleRate : UInt32) : ZejfLog α := ⟨0, 0, 0, sampleRate, empty⟩

def ZejfLog.reset (empty : α) (log : ZejfLog α) : ZejfLog α := { log with data := empty }

/-- A log whose slot is not the one before the current slot loses its data here. -/
def ZejfLog.isReady (empty : α) (unixTime : UInt32) (log : ZejfLog α) : Bool × ZejfLog α :=
  let absLog := getLogNumAbs unixTime log.sampleRate
  if absLog - log.lastLogNum = 1 then
    (true, { log with logNum := getLogNum unixTime log.sampleRate, lastLogNum := absLog })
  else if absLog ≠ log.lastLogNum then
    (false, { log with lastLogNum := absLog }.reset empty)
  else
    (false, log)

/-- One round of the loop over `all_logs`: the clone that goes into the queue, if there is one,
and what becomes of the log. -/
def ZejfLog.flush (empty : α) (unixTime : UInt32) (log : ZejfLog α) :
    Option (ZejfLog α) × ZejfLog α :=
  let (ready, log) := log.isReady empty unixTime
  if ready then
    let log := { log with hourNum := getHourNum unixTime }
    (some log, log.reset empty)
  else
    (none, log)

def HtuData.empty : HtuData ρ := ⟨0, D.zero, D.zero, D.zero⟩

def RrData.empty : RrData ρ := ⟨0, D.zero⟩

def VoltagesData.empty : VoltagesData ρ := ⟨0, D.zero, D.zero, D.zero⟩

def HtuData.sample (temperature humidity dewpoint : ρ) (d : HtuData ρ) : HtuData ρ where
  tempSum := D.add d.tempSum temperature
  rhSum := D.add d.rhSum humidity
  tdSum := D.add d.tdSum dewpoint
  logCount := d.logCount + 1

def RrData.sample (counts : UInt16) (latestMaxRainRate : ρ) (d : RrData ρ) : RrData ρ where
  logCount := d.logCount + counts
  maxRainRate := if D.lt d.maxRainRate latestMaxRainRate then latestMaxRainRate else d.maxRainRate

def VoltagesData.sample (uSolar uBatt iBatt : ρ) (d : VoltagesData ρ) : VoltagesData ρ where
  logCount := d.logCount + 1
  solarSum := D.add d.solarSum uSolar
  batterySum := D.add d.batterySum uBatt
  currentSum := D.add d.currentSum iBatt

end Logs

/-- A clone in `logs_queue`. -/
inductive QueuedLog (ρ : Type)
  | htu (log : ZejfLog (HtuData ρ))
  | rr (log : ZejfLog (RrData ρ))
  | voltages (log : ZejfLog (VoltagesData ρ))
deriving DecidableEq

/-- The global variables. -/
structure Sensor (ρ : Type) where
  rrFirst : Bool
  rrC : UInt16
  rrCLast : UInt16
  lastRrCallback : UInt64
  rrMeasured : Bool
  rainRateLast : ρ
  rainRateDisplayed : ρ
  timeSet : Bool
  millisSinceBoot : UInt32
  queueLock : Bool
  logsQueue : List (QueuedLog ρ)
  currentHtuLog : ZejfLog (HtuData ρ)
  currentRrLog : ZejfLog (RrData ρ)
  currentVoltagesLog : ZejfLog (VoltagesData ρ)

/-- What happens to the sensor. -/
inductive Event (ρ : Type)
  /-- An edge of the gauge, at a time in microseconds. -/
  | rrCallback (currentUs : UInt64)
  /-- The timer, with the time since boot, the voltages at the pins and the clock. -/
  | processMeasurements (millis : UInt32) (solar battery current : ρ) (unixTime : UInt32)
  /-- A valid measurement of the other timer. -/
  | htuMeasure (temperature humidity dewpoint : ρ)
  /-- The next step of the loop over the queue: it locks, takes a log, or unlocks. -/
  | drain

/-- What an event has done: an edge that has been counted, clones that have been pushed, a log
that has been taken. -/
inductive Effect (ρ : Type)
  | counted (yes : Bool)
  | pushed (logs : List (QueuedLog ρ))
  | taken (log : Option (QueuedLog ρ))
deriving DecidableEq

section Events

variable {ρ : Type} (D : Doubles ρ)

/-- The first edge is not counted. -/
def Sensor.rrCallback (currentUs : UInt64) (s : Sensor ρ) : Bool × Sensor ρ :=
  if !s.rrFirst then
    (false, { s with rrFirst := true })
  else
    let rainRate := D.rainRate (currentUs - s.lastRrCallback)
    let faster := s.rrMeasured && (D.le D.zero rainRate && D.lt rainRate D.rateLimit) &&
      D.lt s.rainRateLast rainRate
    (true, { s with
      rrC := s.rrC + 1
      rainRateLast := if faster then rainRate else s.rainRateLast
      lastRrCallback := currentUs
      rrMeasured := true })

/-- The tips since the tick before go into the log also while the queue is locked. -/
def Sensor.processMeasurements (millis : UInt32) (solar battery current : ρ) (unixTime : UInt32)
    (s : Sensor ρ) : List (QueuedLog ρ) × Sensor ρ :=
  let counts := s.rrC - s.rrCLast
  let displayed := if D.ne s.rainRateLast D.zero && D.ne s.rainRateLast s.rainRateDisplayed then
    s.rainRateLast else s.rainRateDisplayed
  let displayed := if s.rrMeasured ∧ 15 * 1000 * 60 ≤ millis.toUInt64 - s.lastRrCallback / 1000
    then D.zero else displayed
  let s := { s with
    millisSinceBoot := millis
    rrCLast := s.rrC
    rainRateLast := D.zero
    rainRateDisplayed := displayed }
  if !s.timeSet then
    ([], s)
  else
    let s := { s with
      currentVoltagesLog.data := s.currentVoltagesLog.data.sample D solar battery current
      currentRrLog.data := s.currentRrLog.data.sample D counts displayed }
    if s.queueLock then
      ([], s)
    else
      let (htu, htuLog) := s.currentHtuLog.flush (.empty D) unixTime
      let (rr, rrLog) := s.currentRrLog.flush (.empty D) unixTime
      let (voltages, voltagesLog) := s.currentVoltagesLog.flush (.empty D) unixTime
      let pushed := (htu.map QueuedLog.htu).toList ++ (rr.map QueuedLog.rr).toList ++
        (voltages.map QueuedLog.voltages).toList
      (pushed, { s with
        logsQueue := s.logsQueue ++ pushed
        currentHtuLog := htuLog
        currentRrLog := rrLog
        currentVoltagesLog := voltagesLog })

def Sensor.htuMeasure (temperature humidity dewpoint : ρ) (s : Sensor ρ) : Sensor ρ :=
  if !s.timeSet then s
  else { s with
    currentHtuLog.data := s.currentHtuLog.data.sample D temperature humidity dewpoint }

def Sensor.drain (s : Sensor ρ) : Option (QueuedLog ρ) × Sensor ρ :=
  if !s.queueLock then
    (none, { s with queueLock := true })
  else
    match s.logsQueue with
    | [] => (none, { s with queueLock := false })
    | log :: rest => (some log, { s with logsQueue := rest })

def Event.apply : Event ρ → Sensor ρ → Effect ρ × Sensor ρ
  | rrCallback us, s =>
    let (yes, s) := s.rrCallback D us
    (.counted yes, s)
  | processMeasurements millis solar battery current unixTime, s =>
    let (logs, s) := s.processMeasurements D millis solar battery current unixTime
    (.pushed logs, s)
  | htuMeasure temperature humidity dewpoint, s =>
    (.pushed [], s.htuMeasure D temperature humidity dewpoint)
  | drain, s =>
    let (log, s) := s.drain
    (.taken log, s)

def Event.run (e : Event ρ) : Run (Sensor ρ) (Effect ρ) := modifyGet (e.apply D)

end Events

section Tips

variable {ρ : Type}

/-- The increments of `rr_c`. -/
def Effect.edges : Effect ρ → ℕ
  | counted true => 1
  | _ => 0

def QueuedLog.tips : QueuedLog ρ → ℕ
  | rr log => log.data.logCount.toNat
  | _ => 0

/-- The tips in the clones of the rain log that have been pushed. -/
def Effect.tips : Effect ρ → ℕ
  | pushed logs => (logs.map QueuedLog.tips).sum
  | _ => 0

def edges (tr : List (Event ρ × Effect ρ)) : ℕ := (tr.map (fun x => x.2.edges)).sum

def pushedTips (tr : List (Event ρ × Effect ρ)) : ℕ := (tr.map (fun x => x.2.tips)).sum

/-- The tips that are in the rain log or not even there yet. -/
def Sensor.openTips (s : Sensor ρ) : ℕ :=
  s.currentRrLog.data.logCount.toNat + (s.rrC - s.rrCLast).toNat

/-- Every increment is in a pushed clone, in the log, or not yet in the log. -/
def Conserved (tr : List (Event ρ × Effect ρ)) (s : Sensor ρ) : Prop :=
  edges tr % 2 ^ 16 = (pushedTips tr + s.openTips) % 2 ^ 16

/-- A tick that finds the queue unlocked comes in the slot of the rain log or in the next one, or
it finds no tips. -/
def KeepsSlot (s : Sensor ρ) : Event ρ → Prop
  | .processMeasurements _ _ _ _ unixTime =>
    s.queueLock = false →
      getLogNumAbs unixTime s.currentRrLog.sampleRate = s.currentRrLog.lastLogNum ∨
      getLogNumAbs unixTime s.currentRrLog.sampleRate - s.currentRrLog.lastLogNum = 1 ∨
      s.currentRrLog.data.logCount + (s.rrC - s.rrCLast) = 0
  | _ => True

variable {D : Doubles ρ} {s t u : Sensor ρ} {tr : List (Event ρ × Effect ρ)} {e : Event ρ}
  {o : Effect ρ}

/-- Tips stay in the log or go into its clone, unless a slot has been skipped. -/
lemma tips_flush (D : Doubles ρ) (unixTime : UInt32) (log : ZejfLog (RrData ρ)) :
    (((log.flush (.empty D) unixTime).1.map QueuedLog.rr).toList.map QueuedLog.tips).sum +
        (log.flush (.empty D) unixTime).2.data.logCount.toNat =
      if getLogNumAbs unixTime log.sampleRate = log.lastLogNum ∨
          getLogNumAbs unixTime log.sampleRate - log.lastLogNum = 1 then log.data.logCount.toNat
      else 0 := by
  unfold ZejfLog.flush ZejfLog.isReady
  by_cases hnext : getLogNumAbs unixTime log.sampleRate - log.lastLogNum = 1
  · simp [hnext, QueuedLog.tips, ZejfLog.reset, RrData.empty]
  · by_cases hsame : getLogNumAbs unixTime log.sampleRate = log.lastLogNum
    · simp [hsame]
    · simp [hnext, hsame, ZejfLog.reset, RrData.empty]

/-- No other log has tips. -/
lemma tips_others {α : Type} (f : ZejfLog α → QueuedLog ρ) (hf : ∀ log, (f log).tips = 0)
    (log : Option (ZejfLog α)) : ((log.map f).toList.map QueuedLog.tips).sum = 0 := by
  cases log with
  | none => rfl
  | some log => simp [hf]

/-- What a tick does with the tips. -/
lemma tips_processMeasurements (htime : s.timeSet = true) (millis : UInt32)
    (solar battery current : ρ) (unixTime : UInt32) :
    let r := s.processMeasurements D millis solar battery current unixTime
    r.2.timeSet = true ∧ (r.1.map QueuedLog.tips).sum + r.2.openTips =
      if s.queueLock = true ∨
          getLogNumAbs unixTime s.currentRrLog.sampleRate = s.currentRrLog.lastLogNum ∨
          getLogNumAbs unixTime s.currentRrLog.sampleRate - s.currentRrLog.lastLogNum = 1 then
        (s.currentRrLog.data.logCount + (s.rrC - s.rrCLast)).toNat
      else 0 := by
  by_cases hlock : s.queueLock = true
  · simp [Sensor.processMeasurements, htime, hlock, Sensor.openTips, RrData.sample]
  · simp only [Sensor.processMeasurements, htime, hlock, Bool.not_true, Bool.false_eq_true,
      if_false, false_or, true_and, List.map_append, List.sum_append, Sensor.openTips,
      tips_others QueuedLog.htu (fun _ => rfl), tips_others QueuedLog.voltages (fun _ => rfl),
      UInt16.sub_self, UInt16.toNat_zero, Nat.add_zero, Nat.zero_add]
    exact tips_flush D unixTime { s.currentRrLog with data := s.currentRrLog.data.sample D _ _ }

/-- The loop over the queue leaves the counters alone. -/
lemma drain_frame (s : Sensor ρ) :
    s.drain.2.timeSet = s.timeSet ∧ s.drain.2.openTips = s.openTips := by
  unfold Sensor.drain
  split
  · exact ⟨rfl, rfl⟩
  · split <;> exact ⟨rfl, rfl⟩

/-- The tips before an event and those it brings are there after it, if no slot is skipped. -/
lemma openTips_step (htime : t.timeSet = true) (hrun : (e.run D).run t = .ok o u) :
    u.timeSet = true ∧ (KeepsSlot t e ↔
      (o.edges + t.openTips) % 2 ^ 16 = (o.tips + u.openTips) % 2 ^ 16) := by
  have happly : e.apply D t = (o, u) := by
    obtain ⟨ho, hu⟩ := EStateM.Result.ok.inj hrun
    exact Prod.ext ho hu
  cases e with
  | rrCallback us =>
    rw [Event.apply, Sensor.rrCallback] at happly
    by_cases hfirst : t.rrFirst = true
    · have hnext : t.rrC + 1 - t.rrCLast = t.rrC - t.rrCLast + 1 := by grind
      simp only [hfirst, Bool.not_true, Bool.false_eq_true, if_false, Prod.mk.injEq] at happly
      obtain ⟨rfl, rfl⟩ := happly
      refine ⟨htime, iff_of_true trivial ?_⟩
      simp only [Effect.edges, Effect.tips, Sensor.openTips, hnext, UInt16.toNat_add,
        UInt16.toNat_one]
      omega
    · simp only [hfirst, Bool.not_false, if_true, Prod.mk.injEq] at happly
      obtain ⟨rfl, rfl⟩ := happly
      exact ⟨htime, iff_of_true trivial rfl⟩
  | processMeasurements millis solar battery current unixTime =>
    obtain ⟨hset, htips⟩ :=
      tips_processMeasurements (D := D) htime millis solar battery current unixTime
    rw [Event.apply] at happly
    generalize t.processMeasurements D millis solar battery current unixTime = r at *
    obtain ⟨rfl, rfl⟩ := Prod.mk.inj happly
    refine ⟨hset, ?_⟩
    have hsum : t.openTips % 2 ^ 16 =
        (t.currentRrLog.data.logCount + (t.rrC - t.rrCLast)).toNat % 2 ^ 16 := by
      rw [Sensor.openTips, UInt16.toNat_add, Nat.mod_mod]
    have hedges : (Effect.pushed r.1).edges = 0 := rfl
    rw [hedges, Nat.zero_add, hsum, Effect.tips, htips]
    split
    · rename_i hkept
      refine iff_of_true (fun hlock => ?_) rfl
      rcases hkept with hlocked | hsame | hnext
      · rw [hlock] at hlocked
        cases hlocked
      · exact Or.inl hsame
      · exact Or.inr (Or.inl hnext)
    · rename_i hskipped
      rw [not_or, not_or, Bool.not_eq_true] at hskipped
      obtain ⟨hlock, hsame, hnext⟩ := hskipped
      rw [Nat.mod_eq_of_lt (UInt16.toNat_lt _)]
      constructor
      · intro hkeeps
        rw [((hkeeps hlock).resolve_left hsame).resolve_left hnext]
        rfl
      · intro hzero _
        exact Or.inr (Or.inr (UInt16.toNat_inj.mp hzero))
  | htuMeasure a h d =>
    rw [Event.apply, Sensor.htuMeasure] at happly
    simp only [htime, Bool.not_true, Bool.false_eq_true, if_false, Prod.mk.injEq] at happly
    obtain ⟨rfl, rfl⟩ := happly
    exact ⟨rfl, iff_of_true trivial rfl⟩
  | drain =>
    obtain ⟨hset, hopen⟩ := drain_frame t
    rw [Event.apply] at happly
    generalize t.drain = r at *
    obtain ⟨rfl, rfl⟩ := Prod.mk.inj happly
    rw [hset, hopen]
    exact ⟨htime, iff_of_true trivial rfl⟩

lemma conserved_snoc (h : Conserved tr t) (htime : t.timeSet = true)
    (hrun : (e.run D).run t = .ok o u) :
    Conserved (tr ++ [(e, o)]) u ↔ KeepsSlot t e := by
  obtain ⟨-, hkeeps⟩ := openTips_step htime hrun
  unfold Conserved at h ⊢
  rw [hkeeps]
  simp only [edges, pushedTips, List.map_append, List.map_singleton, List.sum_append,
    List.sum_singleton] at h ⊢
  omega

/-- **Where rain is lost.** While the clock is set, no tip is lost exactly if every tick that
finds the queue unlocked comes in the slot of the rain log or in the next one, or finds no tips:
a log that has waited for two slots is reset. -/
theorem conserved_iff_keepsSlot (htime : s.timeSet = true)
    (hcount : s.currentRrLog.data.logCount = 0) (hlast : s.rrCLast = s.rrC)
    (htrace : Trace (Event.run D) s tr t) :
    Always (Event.run D) s Conserved tr ↔
      Throughout (Event.run D) s (fun _ t e _ => KeepsSlot t e) tr := by
  have hstart : Conserved [] s := by
    simp [Conserved, edges, pushedTips, Sensor.openTips, hcount, hlast]
  refine Always.iff_throughout (J := fun _ t => t.timeSet = true) (A := fun _ => True) htrace
    (fun _ _ => trivial) htime hstart ?_
  intro tr t e o u _ ht hrun
  exact ⟨(openTips_step ht hrun).1, fun h => conserved_snoc h ht hrun⟩

end Tips

/-- Arithmetic of `double` values without rounding. -/
def exactDoubles : Doubles ℚ where
  zero := 0
  add := (· + ·)
  le a b := decide (a ≤ b)
  lt a b := decide (a < b)
  ne a b := decide (a ≠ b)
  rainRate us := 254 / 1000 * 60 * 60 * (1000000 / us.toNat)
  rateLimit := 2000

/-- The times that the clock shows at the ticks. -/
def tickTimes {ρ : Type} (tr : List (Event ρ × Effect ρ)) : List UInt32 :=
  tr.filterMap fun x => match x.1 with
    | .processMeasurements _ _ _ _ unixTime => some unixTime
    | _ => none

/-- The clock does not go back, and at most one slot passes between two ticks. -/
def Steady (start : UInt32) (times : List UInt32) : Prop :=
  (start :: times).IsChain fun a b =>
    a ≤ b ∧ getLogNumAbs b seconds5 ≤ getLogNumAbs a seconds5 + 1

instance (start : UInt32) (times : List UInt32) : Decidable (Steady start times) :=
  inferInstanceAs (Decidable (List.IsChain _ _))

/-- Four seconds into the first slot, with the first edge behind it. -/
def dryStart : Sensor ℚ where
  rrFirst := true
  rrC := 0
  rrCLast := 0
  lastRrCallback := 0
  rrMeasured := false
  rainRateLast := 0
  rainRateDisplayed := 0
  timeSet := true
  millisSinceBoot := 4000
  queueLock := false
  logsQueue := []
  currentHtuLog := .new (.empty exactDoubles) seconds5
  currentRrLog := .new (.empty exactDoubles) seconds5
  currentVoltagesLog := .new (.empty exactDoubles) everyMinute

def tickAt (seconds : UInt32) : Event ℚ := .processMeasurements (seconds * 1000) 0 0 0 seconds

/-- Two logs are queued and a tip follows; it takes ten ticks to take them from the queue. -/
def longDrain : List (Event ℚ) :=
  [tickAt 5, .rrCallback 5500000, .drain, tickAt 6, .drain] ++ [7, 8, 9, 10, 11, 12].map tickAt ++
    [.drain, tickAt 13, tickAt 14, tickAt 15, .drain, tickAt 16]

def longLock : List (Event ℚ × Effect ℚ) := replay (Event.run exactDoubles) longDrain dryStart

def afterLongLock : Sensor ℚ := leaves ((serve (Event.run exactDoubles) longDrain).run dryStart)

lemma longLock_trace : Trace (Event.run exactDoubles) dryStart longLock afterLongLock :=
  .of_replay (by decide +kernel)

theorem longLock_conserved_iff :
    Always (Event.run exactDoubles) dryStart Conserved longLock ↔
      Throughout (Event.run exactDoubles) dryStart (fun _ t e _ => KeepsSlot t e) longLock :=
  conserved_iff_keepsSlot rfl rfl rfl longLock_trace

/-- The clock is steady and the tip is lost. -/
theorem longLock_not_conserved :
    dryStart.timeSet = true ∧ dryStart.currentRrLog.lastLogNum = getLogNumAbs 4 seconds5 ∧
      Steady 4 (tickTimes longLock) ∧
      Trace (Event.run exactDoubles) dryStart longLock afterLongLock ∧
      ¬Conserved longLock afterLongLock := by
  have htips : edges longLock = 1 ∧ pushedTips longLock = 0 := by decide +kernel
  have hopen : afterLongLock.openTips = 0 := by decide +kernel
  refine ⟨rfl, by decide, by decide +kernel, longLock_trace, fun h => ?_⟩
  rw [Conserved, htips.1, htips.2, hopen] at h
  exact absurd h (by decide)

end ZejfMeteo.Outside
