import ZejfMeteo.DataRequest
import ZejfMeteo.DataRuns
import ZejfMeteo.Lib.Scan

/-!
# Checks for missing data

`data_check.c`: a device counts the samples it holds of an hour and asks the provider of
the variable to compare.
-/

namespace ZejfMeteo
open Runs Format

variable {δ : Type} (T : Target δ)

/-! ### The code of `data_check.c` -/

def isProvided (info : VariableInfo) : Bool :=
  T.providedVariables.any (fun v => v.id == info.id)

/-- Counts the samples that are not empty among the first `n`. A provider never holds an
empty sample again: it marks it as not measured and counts it. -/
def countSamples (isProv : Bool) : ℕ → List Sample → UInt32 → UInt32 × List Sample
  | 0, data, values => (values, data)
  | _ + 1, [], values => (values, [])
  | n + 1, val :: data, values =>
    if val ≠ valueEmpty then
      let (values, data) := countSamples isProv n data (values + 1)
      (values, val :: data)
    else if isProv then
      let (values, data) := countSamples isProv n data (values + 1)
      (values, valueNotMeasured :: data)
    else
      let (values, data) := countSamples isProv n data values
      (values, val :: data)

/-- What a provider makes of a sample that it counts. -/
def markSample (isProv : Bool) (val : Sample) : Sample :=
  if val = valueEmpty ∧ isProv then valueNotMeasured else val

/-- The loop as a whole: marked samples in place of the counted ones, and their number. -/
lemma countSamples_eq (isProv : Bool) (n : ℕ) (data : List Sample) (values : UInt32) :
    countSamples isProv n data values =
      (values + UInt32.ofNat ((data.take n).countP (fun v => decide (v ≠ valueEmpty) || isProv)),
        (data.take n).map (markSample isProv) ++ data.drop n) := by
  induction n generalizing data values with
  | zero => simp [countSamples]
  | succ n ih =>
    cases data with
    | nil => simp [countSamples]
    | cons val data =>
      have hstep : ∀ k : ℕ, values + 1 + UInt32.ofNat k = values + UInt32.ofNat (k + 1) := by
        intro k
        rw [UInt32.ofNat_add, UInt32.add_assoc, UInt32.add_comm 1]
        rfl
      by_cases hval : val = valueEmpty
      · cases isProv <;> simp [countSamples, hval, ih, markSample, hstep]
      · simp [countSamples, hval, ih, markSample, hstep]

lemma length_countSamples (isProv : Bool) (n : ℕ) (data : List Sample) (values : UInt32) :
    (countSamples isProv n data values).2.length = data.length := by
  rw [countSamples_eq]
  simp
  omega

/-- The variable after its samples have been counted up to `logNum`. -/
def Variable.counted (v : Variable) (isProv : Bool) (logNum : UInt32) : Variable where
  info := v.info
  data := (countSamples isProv (logNum.toNat + 1) v.data 0).2
  size_eq := by rw [length_countSamples, v.size_eq]

/-- The count of `calculate_data_check`. -/
def Variable.count (v : Variable) (isProv : Bool) (logNum : UInt32) : UInt32 :=
  (countSamples isProv (logNum.toNat + 1) v.data 0).1

/-- The loop over the samples ends with the array, which has `samples_per_hour` of them.
Returns the count as well where the code stores it in `*result`. -/
def calculateDataCheck (info : VariableInfo) (hourNum logNum : UInt32) :
    Run (Globals δ) (ZejfErr × Option UInt32) := do
  match ← datahourGet T hourNum true false with
  | none => return (.null, none)
  | some hour =>
    let h ← readHour hour
    match getVariable h info.id with
    | none => return (.null, none)
    | some index =>
      match h.vars[index]? with
      | none => throw .outOfBounds
      | some var =>
        if info.samplesPerHour ≠ var.info.samplesPerHour then
          return (.invalidSampleRate, none)
        let isProv := isProvided T info
        updateHour hour (fun h =>
          { h with vars := h.vars.modify index (·.counted isProv logNum) })
        return (.ok, some (var.count isProv logNum))

def dataCheckSend (toId : UInt16) (info : VariableInfo) (hourNum logNum time : UInt32) :
    Run (Globals δ) ZejfErr := do
  let (rv, result) ← calculateDataCheck T info hourNum logNum
  let checkNumber := result.getD 0
  -- This comes first, so a variable of no samples passes even if the count failed.
  if checkNumber = info.samplesPerHour then
    return .ok
  if rv ≠ .ok then
    return rv
  let pieces := numbersMessage info hourNum logNum (.num checkNumber.toNat)
  if (print pieces).length = 0 then
    return .generic
  let packet ← networkPreparePacket T toId dataCheckCommand (snprintf T.packetMaxLength pieces)
  networkSendPacket T packet time

def dataCheckReceive (packet : ℕ) : Run (Globals δ) ZejfErr := do
  let p ← readPacket packet
  match p.message with
  | none => throw .nullPointer
  | some message =>
    match sscanf (fun _ => none) (numbersFormat (.num 32)) message with
    | [.num id, .num samplesPerHour, .num hourNum, .num logNum, .num checkNumber] =>
      let info : VariableInfo :=
        { samplesPerHour := UInt32.ofNat samplesPerHour, id := UInt16.ofNat id }
      let (rv, result) ←
        calculateDataCheck T info (UInt32.ofNat hourNum) (UInt32.ofNat logNum)
      if rv ≠ .ok then
        return rv
      if UInt32.ofNat checkNumber < result.getD 0 then
        dataRequestAdd p.fromId info (UInt32.ofNat hourNum) 0 (UInt32.ofNat logNum)
      else
        return .ok
    | _ => return .generic

/-- `DATA_CHECK_DELAY`. -/
def dataCheckDelay : UInt32 := 2

/-- The number of the sample that is due this many milliseconds into the hour. The operands
of the three double operations are exact. -/
def currentLogNum (currentMillis samplesPerHour : UInt32) : UInt32 :=
  T.doubleToUInt32 (Double.round
    (Double.round (currentMillis.toNat / hourMillis) * (samplesPerHour.toNat - 1)))

def demands (info : VariableInfo) : Bool :=
  T.demandedVariables.any (fun var => var == allVariables || var == info.id)

/-- The current hour is not checked before its first samples are late. -/
def tooRecent (currentHourNum currentMillis hourNum : UInt32) (info : VariableInfo) : Bool :=
  hourNum == currentHourNum && currentLogNum T currentMillis info.samplesPerHour < dataCheckDelay

/-- The last sample that a check of an hour asks for. -/
def lastLogNum (currentHourNum currentMillis hourNum : UInt32) (info : VariableInfo) : UInt32 :=
  if hourNum = currentHourNum then
    currentLogNum T currentMillis info.samplesPerHour - dataCheckDelay
  else info.samplesPerHour - 1

section RunDataCheck

variable (currentHourNum currentMillis time : UInt32)

/-- The body of the loops of `run_data_check`; false stops them all. -/
def checkVariable (hourNum : UInt32) (deviceId : UInt16) (info : VariableInfo) :
    Run (Globals δ) Bool := do
  if tooRecent T currentHourNum currentMillis hourNum info then
    return true
  if ¬demands T info then
    return true
  let rv ← dataCheckSend T deviceId info hourNum
    (lastLogNum T currentHourNum currentMillis hourNum info) time
  return rv == .ok

/-- The first `provided_count` provided variables of an entry. -/
def RoutingEntry.provided (entry : RoutingEntry) : List VariableInfo :=
  entry.providedVariables.take entry.providedCount.toNat

/-- The `n` entries of the table from `i` on. -/
def checkEntries (hourNum : UInt32) : ℕ → ℕ → Run (Globals δ) Bool
  | _, 0 => return true
  | i, n + 1 => do
    let entry ← tableEntry i
    if ← scan (checkVariable T currentHourNum currentMillis time hourNum entry.deviceId)
        entry.provided then
      checkEntries hourNum (i + 1) n
    else
      return false

def checkHours (limit : UInt32) : ℕ → UInt32 → Run (Globals δ) Bool
  | 0, _ => throw .outOfFuel
  | fuel + 1, hourNum => do
    if limit < hourNum then
      if ← checkEntries T currentHourNum currentMillis time hourNum 0 (← get).routingTableTop then
        checkHours limit fuel (hourNum - 1)
      else
        return false
    else
      return true

def runDataCheck (hours : UInt32) : Run (Globals δ) Unit := do
  let hours := if 24 * 5 < hours then 24 * 5 else hours
  let _ ← checkHours T currentHourNum currentMillis time (currentHourNum - hours)
    (hours.toNat + 1) currentHourNum

end RunDataCheck

/-! ### Counted samples -/

/-- What is counted in one list is counted in another one that has it at the same places. -/
lemma countP_le_of_getElem? {α : Type} {p : α → Bool} {xs ys : List α}
    (h : ∀ (i : ℕ) x, xs[i]? = some x → ∃ y, ys[i]? = some y ∧ (p x → p y)) :
    xs.countP p ≤ ys.countP p := by
  induction xs generalizing ys with
  | nil => exact Nat.zero_le _
  | cons x xs ih =>
    cases ys with
    | nil =>
      obtain ⟨y, hy, -⟩ := h 0 x rfl
      cases hy
    | cons y ys =>
      obtain ⟨y', hy', hp⟩ := h 0 x rfl
      obtain rfl := Option.some.inj hy'
      have hrest := ih (fun i => h (i + 1))
      rw [List.countP_cons, List.countP_cons]
      by_cases hx : p x
      · rw [if_pos hx, if_pos (hp hx)]
        omega
      · rw [if_neg hx]
        omega

/-- One more is counted if it is not at its place in the first list. -/
lemma countP_lt_of_getElem? {α : Type} {p : α → Bool} {xs ys : List α}
    (h : ∀ (i : ℕ) x, xs[i]? = some x → ∃ y, ys[i]? = some y ∧ (p x → p y)) {i : ℕ} {x y : α}
    (hx : xs[i]? = some x) (hy : ys[i]? = some y) (hpx : p x = false) (hpy : p y = true) :
    xs.countP p < ys.countP p := by
  induction xs generalizing ys i with
  | nil => cases hx
  | cons x' xs ih =>
    cases ys with
    | nil => cases hy
    | cons y' ys =>
      obtain ⟨z, hz, hp⟩ := h 0 x' rfl
      obtain rfl := Option.some.inj hz
      rw [List.countP_cons, List.countP_cons]
      cases i with
      | zero =>
        obtain rfl := Option.some.inj hx
        obtain rfl := Option.some.inj hy
        have hle := countP_le_of_getElem? (fun i => h (i + 1))
        rw [hpx, hpy, if_neg Bool.false_ne_true, if_pos rfl]
        omega
      | succ i =>
        have hlt := ih (fun j => h (j + 1)) hx hy
        by_cases hx' : p x'
        · rw [if_pos hx', if_pos (hp hx')]
          omega
        · rw [if_neg hx']
          omega


lemma markSample_of_ne {isProv : Bool} {val : Sample} (h : val ≠ valueEmpty) :
    markSample isProv val = val := by
  simp [markSample, h]

lemma Variable.counted_data (v : Variable) (isProv : Bool) (logNum : UInt32) :
    (v.counted isProv logNum).data = (v.data.take (logNum.toNat + 1)).map (markSample isProv) ++
      v.data.drop (logNum.toNat + 1) :=
  congrArg Prod.snd (countSamples_eq isProv _ v.data 0)

/-- A sample up to the last one counted is marked, a later one is left alone. -/
lemma Variable.counted_getElem? (v : Variable) (isProv : Bool) (logNum : UInt32) (i : ℕ) :
    (v.counted isProv logNum).data[i]? =
      v.data[i]?.map (if i ≤ logNum.toNat then markSample isProv else id) := by
  rw [Variable.counted_data]
  by_cases hi : i ≤ logNum.toNat
  · rw [if_pos hi]
    by_cases hlen : i < v.data.length
    · rw [List.getElem?_append_left (by simp; omega), List.getElem?_map, List.getElem?_take]
      rw [if_pos (by omega)]
    · rw [List.getElem?_eq_none (by simp; omega), List.getElem?_eq_none (by omega)]
      rfl
  · rw [if_neg hi, Option.map_id_fun, id]
    by_cases hlen : v.data.length ≤ logNum.toNat + 1
    · rw [List.drop_eq_nil_of_le hlen, List.getElem?_eq_none (by simp; omega),
        List.getElem?_eq_none (by omega)]
    · rw [List.getElem?_append_right (by simp; omega), List.getElem?_drop, List.length_map,
        List.length_take]
      congr 1
      omega

lemma markSample_ne {isProv : Bool} {val : Sample} :
    (decide (markSample isProv val ≠ valueEmpty)) = (decide (val ≠ valueEmpty) || isProv) := by
  by_cases hval : val = valueEmpty
  · cases isProv
    · simp [markSample, hval]
    · simp only [markSample, hval]
      decide
  · simp [markSample_of_ne hval, hval]

/-- Samples that are not empty. -/
def Variable.filled (v : Variable) : ℕ := v.data.countP (fun val => decide (val ≠ valueEmpty))

lemma Variable.filled_le (v : Variable) : v.filled ≤ v.info.samplesPerHour.toNat :=
  le_of_le_of_eq List.countP_le_length v.size_eq

/-- The count is of the samples up to `logNum` that are not empty afterwards. -/
lemma Variable.count_toNat (v : Variable) (isProv : Bool) (logNum : UInt32) :
    (v.count isProv logNum).toNat = ((v.counted isProv logNum).data.take (logNum.toNat + 1)).countP
      (fun val => decide (val ≠ valueEmpty)) := by
  have htake : (v.counted isProv logNum).data.take (logNum.toNat + 1) =
      (v.data.take (logNum.toNat + 1)).map (markSample isProv) := by
    rw [Variable.counted_data]
    by_cases hlen : v.data.length ≤ logNum.toNat + 1
    · rw [List.drop_eq_nil_of_le hlen, List.append_nil, List.take_of_length_le (by simp)]
    · exact List.take_left' (by simp; omega)
  have hcountP : ((v.data.take (logNum.toNat + 1)).map (markSample isProv)).countP
      (fun val => decide (val ≠ valueEmpty)) =
        (v.data.take (logNum.toNat + 1)).countP (fun v => decide (v ≠ valueEmpty) || isProv) := by
    rw [List.countP_map]
    exact List.countP_congr (fun val _ => by simp only [Function.comp, markSample_ne])
  have hbound : (v.data.take (logNum.toNat + 1)).countP
      (fun v => decide (v ≠ valueEmpty) || isProv) < 2 ^ 32 := by
    have hle := (List.countP_le_length (p := fun v => decide (v ≠ valueEmpty) || isProv)
      (l := v.data.take (logNum.toNat + 1))).trans (List.length_take_le' _ _)
    have hlt := v.info.samplesPerHour.toNat_lt
    rw [v.size_eq] at hle
    omega
  rw [htake, hcountP, Variable.count, countSamples_eq, UInt32.zero_add, UInt32.toNat_ofNat',
    Nat.mod_eq_of_lt hbound]

/-- A count of all samples means that none is empty any more. -/
lemma Variable.filled_counted {v : Variable} {isProv : Bool} {logNum : UInt32}
    (h : v.count isProv logNum = v.info.samplesPerHour) :
    (v.counted isProv logNum).filled = v.info.samplesPerHour.toNat := by
  have hcount := v.count_toNat isProv logNum
  have hsub : ((v.counted isProv logNum).data.take (logNum.toNat + 1)).countP
      (fun val => decide (val ≠ valueEmpty)) ≤ (v.counted isProv logNum).filled :=
    (List.take_sublist _ _).countP_le
  have hle := (v.counted isProv logNum).filled_le
  rw [← hcount, h] at hsub
  exact le_antisymm hle hsub

/-! ### Checks of an hour -/

/-- `calculate_data_check` on an hour that has been looked up. -/
def DataHour.check (h : DataHour) (isProv : Bool) (info : VariableInfo) (logNum : UInt32) :
    (ZejfErr × Option UInt32) × DataHour :=
  match getVariable h info.id with
  | none => ((.null, none), h)
  | some index =>
    match h.vars[index]? with
    | none => ((.null, none), h)
    | some v =>
      if info.samplesPerHour ≠ v.info.samplesPerHour then ((.invalidSampleRate, none), h)
      else ((.ok, some (v.count isProv logNum)),
        { h with vars := h.vars.modify index (·.counted isProv logNum) })

lemma check_kept (h : DataHour) (isProv : Bool) (info : VariableInfo) (logNum : UInt32) :
    (h.check isProv info logNum).2.hourId = h.hourId ∧
      (h.check isProv info logNum).2.flags = h.flags := by
  unfold DataHour.check
  split
  · exact ⟨rfl, rfl⟩
  split
  · exact ⟨rfl, rfl⟩
  split_ifs
  · exact ⟨rfl, rfl⟩
  · exact ⟨rfl, rfl⟩

/-- A check changes the hour that its lookup has found, if it has found one. -/
lemma calculateDataCheck_hour {T : Target δ} {s : Globals δ} {xs : List (ℕ × DataHour)}
    (hc : s.CacheHolds T xs) (info : VariableInfo) (hourNum logNum : UInt32) :
    (∃ q p ys, (datahourGet T hourNum true false).run s =
        .ok none { s with dataQueue := q, platform := p } ∧
      ({ s with dataQueue := q, platform := p } : Globals δ).CacheHolds T ys ∧
      (calculateDataCheck T info hourNum logNum).run s =
        .ok (.null, none) { s with dataQueue := q, platform := p }) ∨
    ∃ a pre h post q p q', (datahourGet T hourNum true false).run s =
        .ok (some a) { s with dataQueue := q, platform := p } ∧
      ({ s with dataQueue := q, platform := p } : Globals δ).CacheHolds T
        (pre ++ (a, h) :: post) ∧
      (calculateDataCheck T info hourNum logNum).run s =
        .ok (h.check (isProvided T info) info logNum).1
          { s with dataQueue := q', platform := p } ∧
      ({ s with dataQueue := q', platform := p } : Globals δ).CacheHolds T
        (pre ++ (a, (h.check (isProvided T info) info logNum).2) :: post) := by
  obtain ⟨o, q, p, zs, hget, hc', hsome⟩ := datahourGet_cached hc hourNum true false
  rw [calculateDataCheck, run_bind_ok hget]
  cases o with
  | none => exact Or.inl ⟨q, p, zs, hget, hc', rfl⟩
  | some a =>
    obtain ⟨pre, h, post, rfl⟩ := hsome a rfl
    refine Or.inr ⟨a, pre, h, post, q, p, ?_⟩
    simp only [DataHour.check]
    rw [run_bind_ok (readHour_run hc'.queue)]
    cases hv : getVariable h info.id with
    | none => exact ⟨q, hget, hc', rfl, hc'⟩
    | some i =>
      obtain ⟨v, hi, -, -⟩ := getVariable_some hv
      simp only [hi]
      by_cases hrate : info.samplesPerHour ≠ v.info.samplesPerHour
      · rw [if_pos hrate, if_pos hrate]
        exact ⟨q, hget, hc', rfl, hc'⟩
      · have hwf := hc'.wellFormed (a, h) (by simp)
        obtain ⟨q', hupdate, hc''⟩ := hc'.updateHour
          (f := fun h => { h with vars := h.vars.modify i (·.counted (isProvided T info) logNum) })
          (hwf.modify i (fun _ => rfl))
        rw [if_neg hrate, if_neg hrate, run_bind_ok hupdate]
        exact ⟨q', hget, hc', rfl, hc''⟩

/-! ### Checks of the local copy -/

/-- What `calculate_data_check` finds: the variable in the cached hour or the stored one. -/
def findVariable (T : Target δ) (hourNum : UInt32) (id : UInt16) :
    Run (Globals δ) (Option Variable) := do
  match ← datahourGet T hourNum true false with
  | none => return none
  | some hour => return (← readHour hour).vars.find? (fun v => v.info.id == id)

/-- The local copy of a variable in some state. -/
def localVariable (T : Target δ) (s : Globals δ) (hourNum : UInt32) (id : UInt16) :
    Option Variable :=
  match (findVariable T hourNum id).run s with
  | .ok v _ => v
  | .error _ _ => none

/-- The result of a check, by the local copy of the variable. -/
def checkResult (T : Target δ) (info : VariableInfo) (logNum : UInt32) :
    Option Variable → ZejfErr × Option UInt32
  | none => (.null, none)
  | some v =>
    if info.samplesPerHour ≠ v.info.samplesPerHour then (.invalidSampleRate, none)
    else (.ok, some (v.count (isProvided T info) logNum))

section LocalCheck

variable {T} {s : Globals δ} {xs : List (ℕ × DataHour)} {tx rx : List Queued} {size : ℕ}
  {es : List RoutingEntry}

lemma localVariable_eq (hc : s.CacheHolds T xs) (hourNum : UInt32) (id : UInt16) :
    localVariable T s hourNum id = (localHour T xs s.platform hourNum).bind
      (fun h => h.vars.find? (fun v => v.info.id == id)) := by
  rw [localVariable, findVariable]
  rcases datahourGet_local hc hourNum with
    ⟨hlocal, p, hget, -⟩ | ⟨pre, a, h, post, q, p, hlocal, hget, hc'⟩
  · rw [run_bind_ok hget, hlocal]
    rfl
  · rw [run_bind_ok hget, hlocal]
    simp only
    rw [run_bind_ok (readHour_run hc'.queue)]
    rfl

/-- The result of counting an hour is that of counting its variable. -/
lemma check_result (h : DataHour) (info : VariableInfo) (logNum : UInt32) :
    (h.check (isProvided T info) info logNum).1 =
      checkResult T info logNum (h.vars.find? (fun v => v.info.id == info.id)) := by
  rw [DataHour.check]
  cases hv : getVariable h info.id with
  | none =>
    rw [getVariable_none hv]
    rfl
  | some i =>
    obtain ⟨v, hi, hfind, -⟩ := getVariable_some hv
    simp only [hi, hfind, checkResult]
    split <;> rfl

/-- A count depends on the local copy only and leaves a cache behind. -/
lemma calculateDataCheck_local (hc : s.CacheHolds T xs) (info : VariableInfo)
    (hourNum logNum : UInt32) :
    ∃ ys q p, (calculateDataCheck T info hourNum logNum).run s =
        .ok (checkResult T info logNum (localVariable T s hourNum info.id))
          { s with dataQueue := q, platform := p } ∧
      ({ s with dataQueue := q, platform := p } : Globals δ).CacheHolds T ys := by
  rw [localVariable, findVariable]
  rcases calculateDataCheck_hour hc info hourNum logNum with
    ⟨q, p, ys, hget, hc', hrun⟩ | ⟨a, pre, h, post, q, p, q', hget, hc', hrun, hc''⟩
  · rw [run_bind_ok hget]
    exact ⟨ys, q, p, hrun, hc'⟩
  · rw [run_bind_ok hget]
    simp only
    rw [run_bind_ok (readHour_run hc'.queue)]
    rw [check_result] at hrun
    exact ⟨_, q', p, hrun, hc''⟩

/-- How a check of the local copy ends. -/
inductive CheckSent (T : Target δ) (info : VariableInfo) (hourNum logNum : UInt32)
    (result : ZejfErr × Option UInt32) (send rv : ZejfErr) (s : Globals δ) (toId : UInt16)
    (time : UInt32) : List Queued → Prop
  /-- Nothing is missing. -/
  | complete (all : result.2.getD 0 = info.samplesPerHour) (ok : rv = .ok) :
      CheckSent T info hourNum logNum result send rv s toId time []
  /-- There is no such variable to count, or it has another rate. -/
  | failed (notAll : result.2.getD 0 ≠ info.samplesPerHour) (error : result.1 ≠ .ok)
      (same : rv = result.1) : CheckSent T info hourNum logNum result send rv s toId time []
  /-- The check could not be sent. -/
  | refused (notAll : result.2.getD 0 ≠ info.samplesPerHour) (counted : result.1 = .ok)
      (error : send ≠ .ok) (same : rv = send) :
      CheckSent T info hourNum logNum result send rv s toId time []
  /-- The check is in the transmit queue. -/
  | sent (notAll : result.2.getD 0 ≠ info.samplesPerHour) (counted : result.1 = .ok)
      (sendOk : send = .ok) (ok : rv = .ok) (node : ℕ) :
      CheckSent T info hourNum logNum result send rv s toId time
        [⟨node, s.packets.next, sentPacket T toId dataCheckCommand (snprintf T.packetMaxLength
          (numbersMessage info hourNum logNum (.num (result.2.getD 0).toNat))) time⟩]

/-- Checking the local copy queues at most one packet. -/
lemma dataCheckSend_run (hc : s.CacheHolds T xs) (hs : s.QueuesHold tx rx)
    (ht : s.TableHolds size es) (toId : UInt16) (info : VariableInfo)
    (hourNum logNum time : UInt32) :
    ∃ rv ys q p tq ps sent, (dataCheckSend T toId info hourNum logNum time).run s =
        .ok rv { s with dataQueue := q, platform := p, txQueue := tq, packets := ps } ∧
      ({ s with dataQueue := q, platform := p, txQueue := tq, packets := ps } :
        Globals δ).CacheHolds T ys ∧
      ({ s with dataQueue := q, platform := p, txQueue := tq, packets := ps } :
        Globals δ).QueuesHold (tx ++ sent) rx ∧
      CheckSent T info hourNum logNum
        (checkResult T info logNum (localVariable T s hourNum info.id))
        (sendResult T es (listIsFull s.txQueue) toId) rv s toId time sent := by
  obtain ⟨ys, q, p, hcalc, hc'⟩ := calculateDataCheck_local hc info hourNum logNum
  rw [dataCheckSend, run_bind_ok hcalc]
  generalize checkResult T info logNum (localVariable T s hourNum info.id) = result at hcalc
  obtain ⟨rv, n⟩ := result
  have hs' : ({ s with dataQueue := q, platform := p } : Globals δ).QueuesHold tx rx :=
    ⟨hs.txHolds, hs.rxHolds, hs.live, hs.distinct, hs.next⟩
  have ht' : ({ s with dataQueue := q, platform := p } : Globals δ).TableHolds size es :=
    ⟨ht.slots, ht.top, ht.bounded⟩
  have hnil : ({ s with dataQueue := q, platform := p } : Globals δ).QueuesHold (tx ++ []) rx := by
    simpa using hs'
  simp only
  by_cases hall : n.getD 0 = info.samplesPerHour
  · rw [if_pos hall]
    exact ⟨.ok, ys, q, p, s.txQueue, s.packets, [], rfl, hc', hnil, .complete hall rfl⟩
  rw [if_neg hall]
  by_cases hrv : rv ≠ .ok
  · rw [if_pos hrv]
    exact ⟨rv, ys, q, p, s.txQueue, s.packets, [], rfl, hc', hnil, .failed hall hrv rfl⟩
  rw [if_neg hrv, if_neg (numbersMessage_length _ _ _ _)]
  obtain ⟨tq, ps, hsend, -, hq, -, -⟩ := send_own (T := T) hs' ht' toId
    (by decide : dataCheckCommand ≠ idRequest) (by decide)
    (some (snprintf T.packetMaxLength
      (numbersMessage info hourNum logNum (.num (n.getD 0).toNat)))) time
  have hcounted : rv = .ok := not_not.mp hrv
  by_cases hok : sendResult T es (listIsFull s.txQueue) toId = .ok
  · rw [if_pos hok] at hq
    exact ⟨_, ys, q, p, tq, ps, _, hsend, ⟨hc'.queue, hc'.capacity, hc'.wellFormed⟩, hq,
      .sent hall hcounted hok hok _⟩
  · rw [if_neg hok] at hq
    exact ⟨_, ys, q, p, tq, ps, [], hsend, ⟨hc'.queue, hc'.capacity, hc'.wellFormed⟩,
      by simpa using hq, .refused hall hcounted hok rfl⟩

/-- A check that comes in queues a request if the local copy has more samples, there is no
such request yet and the queue has room. -/
lemma dataCheckReceive_run {a : ℕ} {packet : Packet} {rs : List Requested}
    {info : VariableInfo} {hourNum logNum n : UInt32} (hc : s.CacheHolds T xs)
    (hr : s.RequestsHold rs) (hp : s.packets.cells a = some packet)
    (hmsg : packet.message = some (print (numbersMessage info hourNum logNum (.num n.toNat)))) :
    ∃ rv ys qs q p rq hs, (dataCheckReceive T a).run s = .ok rv
        { s with dataQueue := q, platform := p, dataRequestsQueue := rq, requests := hs } ∧
      ({ s with dataQueue := q, platform := p, dataRequestsQueue := rq, requests := hs } :
        Globals δ).CacheHolds T ys ∧
      ({ s with dataQueue := q, platform := p, dataRequestsQueue := rq, requests := hs } :
        Globals δ).RequestsHold qs ∧
      if n < (checkResult T info logNum (localVariable T s hourNum info.id)).2.getD 0 ∧
          ¬(isPending rs packet.fromId hourNum info.id ∨ listIsFull s.dataRequestsQueue) then
        rv = .ok ∧ ∃ node addr,
          qs = rs ++ [⟨node, addr, newRequest packet.fromId info hourNum 0 logNum⟩]
      else qs = rs := by
  obtain ⟨ys, q, p, hcalc, hc'⟩ := calculateDataCheck_local hc info hourNum logNum
  have hresult : ∀ v, (checkResult T info logNum v).1 ≠ .ok →
      (checkResult T info logNum v).2 = none := by
    intro v hv
    cases v with
    | none => rfl
    | some v =>
      rw [checkResult] at hv ⊢
      split at hv
      · rw [if_pos ‹_›]
      · exact absurd rfl hv
  have hnone := hresult (localVariable T s hourNum info.id)
  generalize checkResult T info logNum (localVariable T s hourNum info.id) = result at hcalc hnone
  obtain ⟨rv, values⟩ := result
  have hr' : ({ s with dataQueue := q, platform := p } : Globals δ).RequestsHold rs :=
    hr.congr rfl rfl
  unfold dataCheckReceive
  rw [run_bind_ok (readPacket_run hp)]
  simp only [hmsg, sscanf_numbersMessage_num, UInt32.ofNat_toNat, UInt16.ofNat_toNat]
  rw [run_bind_ok hcalc]
  by_cases hrv : rv ≠ .ok
  · have hzero : ¬n < values.getD 0 := by
      have hvalues : values = none := hnone hrv
      rw [hvalues]
      exact Nat.not_lt_zero _
    simp only [hrv, hzero, false_and, ne_eq, not_false_eq_true, if_true, if_false]
    exact ⟨rv, ys, rs, q, p, s.dataRequestsQueue, s.requests, rfl, hc', hr', rfl⟩
  simp only [hrv, if_false]
  by_cases hmore : n < values.getD 0
  · obtain ⟨rv', rq, hs, qs, hadd, hqs, -, -, hcase⟩ :=
      dataRequestAdd_run hr' packet.fromId info hourNum 0 logNum
    rw [if_pos hmore]
    refine ⟨rv', ys, qs, q, p, rq, hs, hadd, ⟨hc'.queue, hc'.capacity, hc'.wellFormed⟩, hqs, ?_⟩
    by_cases hno : isPending rs packet.fromId hourNum info.id ∨ listIsFull s.dataRequestsQueue
    · rw [if_pos hno] at hcase
      rw [if_neg (fun h => h.2 hno)]
      exact hcase.2
    · rw [if_neg hno] at hcase
      obtain ⟨hrv', -, node, hadded⟩ := hcase
      rw [if_pos ⟨hmore, hno⟩]
      exact ⟨hrv', node, _, hadded⟩
  · rw [if_neg hmore]
    refine ⟨.ok, ys, rs, q, p, s.dataRequestsQueue, s.requests, rfl, hc', hr', ?_⟩
    rw [if_neg (fun h => hmore h.1)]

end LocalCheck

end ZejfMeteo
