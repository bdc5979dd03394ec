import Mathlib.Data.Fin.Tuple.Basic
import Mathlib.Data.List.FinRange
import Mathlib.Tactic.Common

/-!
# Hours in the viewer

`DataVariable.java`, `DataHour.java` and the classes of `data.computation`. An hour holds the
raw samples of its variables, and for every computation the samples computed from them.
-/

namespace ZejfMeteo.Viewer

/-- A `double`, as its bit pattern. -/
abbrev Value := UInt64

/-- `VALUE_EMPTY`, the pattern of -999. -/
def valueEmpty : Value := 0xC08F380000000000

/-- `VALUE_NOT_MEASURED`, the pattern of -998. -/
def valueNotMeasured : Value := 0xC08F300000000000

/-- Neither of the two. Both have a single pattern, so `!=` compares patterns. -/
def Measured (val : Value) : Prop := val ≠ valueEmpty ∧ val ≠ valueNotMeasured

instance (val : Value) : Decidable (Measured val) := inferInstanceAs (Decidable (_ ∧ _))

structure DataVariable (samplesPerHour : ℕ) where
  id : ℤ
  lastLog : ℕ
  data : Fin samplesPerHour → Value

namespace DataVariable

variable {n : ℕ}

def new (id : ℤ) (n : ℕ) : DataVariable n := ⟨id, 0, fun _ => valueEmpty⟩

/-- A measured sample is not overwritten with one that is not. -/
def log (var : DataVariable n) (sampleNumber : ℤ) (value : Value) : Bool × DataVariable n :=
  if h : 0 ≤ sampleNumber ∧ sampleNumber < n then
    let sample : Fin n := ⟨sampleNumber.toNat, by omega⟩
    if Measured (var.data sample) ∧ ¬Measured value then
      (false, var)
    else
      (true, { var with
        data := Function.update var.data sample value
        lastLog := if var.lastLog < sample then sample else var.lastLog })
  else
    (false, var)

end DataVariable

inductive ComputationStatus
  | empty
  | partial_
  | notMeasured
  | finished
deriving DecidableEq

structure ComputedLog where
  value : Value
  status : ComputationStatus
deriving DecidableEq

structure ComputedVariable (samplesPerHour : ℕ) where
  lastLog : ℕ
  computedLogs : Fin samplesPerHour → ComputedLog

/-- A computed variable as it is made: nothing has been computed. -/
def ComputedVariable.new (n : ℕ) : ComputedVariable n := ⟨0, fun _ => ⟨0, .empty⟩⟩

structure VariableComputation where
  variableId : ℤ
  samplesPerHour : ℕ
  uuid : ℕ

/-- Variables of all sample rates. An absent computed variable counts as a new one. -/
structure DataHour where
  hourNumber : ℤ
  modified : Bool
  lastUse : ℤ
  computationNeeded : Bool
  variablesRaw : List ((n : ℕ) × DataVariable n)
  variablesComputed : ℕ → (n : ℕ) → ComputedVariable n

namespace DataHour

/-- The constructor; a new hour has just been used. -/
def new (hourNumber now : ℤ) : DataHour where
  hourNumber
  modified := false
  lastUse := now
  computationNeeded := false
  variablesRaw := []
  variablesComputed _ n := ComputedVariable.new n

def findVariable (id : ℤ) (n : ℕ) : List ((n : ℕ) × DataVariable n) → Option (DataVariable n)
  | [] => none
  | v :: vs => if h : v.1 = n ∧ v.2.id = id then some (h.1 ▸ v.2) else findVariable id n vs

/-- Changes the variable that `findVariable` finds, in its place. -/
def updateVariable (id : ℤ) (n : ℕ) (f : DataVariable n → DataVariable n) :
    List ((n : ℕ) × DataVariable n) → List ((n : ℕ) × DataVariable n)
  | [] => []
  | v :: vs =>
    if h : v.1 = n ∧ v.2.id = id then ⟨n, f (h.1 ▸ v.2)⟩ :: vs else v :: updateVariable id n f vs

def getVariable (hour : DataHour) (now : ℤ) (id : ℤ) (n : ℕ) (create : Bool) :
    Option (DataVariable n) × DataHour :=
  let hour := { hour with lastUse := now }
  match findVariable id n hour.variablesRaw with
  | some var => (some var, hour)
  | none =>
    if create then
      let var := DataVariable.new id n
      (some var, { hour with variablesRaw := hour.variablesRaw ++ [⟨n, var⟩] })
    else (none, hour)

def log (hour : DataHour) (now : ℤ) (id : ℤ) (n : ℕ) (sampleNumber : ℤ) (value : Value) :
    Bool × DataHour :=
  match hour.getVariable now id n true with
  | (none, hour) => (false, hour)
  | (some var, hour) =>
    let (result, var) := var.log sampleNumber value
    (result, { hour with
      variablesRaw := updateVariable id n (fun _ => var) hour.variablesRaw
      modified := hour.modified || result
      computationNeeded := hour.computationNeeded || result })

/-- The raw samples of a variable; one that is absent has none. -/
def raw (hour : DataHour) (id : ℤ) (n : ℕ) : Fin n → Value :=
  match findVariable id n hour.variablesRaw with
  | some var => var.data
  | none => fun _ => valueEmpty

end DataHour

section Computation

variable {n : ℕ}

/-- One round of the loop over the samples. -/
def calculateSample (data : Fin n → Value) (state : Bool × ComputedVariable n) (sample : Fin n) :
    Bool × ComputedVariable n :=
  let log := state.2.computedLogs sample
  let val := data sample
  if log.status = .finished then state
  else if val = valueEmpty then state
  else if val = valueNotMeasured then
    (state.1, { state.2 with
      computedLogs := Function.update state.2.computedLogs sample { log with status := .notMeasured } })
  else
    (true, {
      lastLog := sample
      computedLogs := Function.update state.2.computedLogs sample ⟨val, .finished⟩ })

/-- Looking for the variable counts as a use of the hour. -/
def calculateValue (now : ℤ) (computation : VariableComputation) (dataHour : DataHour)
    (computedVariable : ComputedVariable computation.samplesPerHour) :
    Bool × DataHour × ComputedVariable computation.samplesPerHour :=
  match dataHour.getVariable now computation.variableId computation.samplesPerHour false with
  | (none, dataHour) => (false, dataHour, computedVariable)
  | (some dataVariable, dataHour) =>
    let (result, computedVariable) := (List.finRange computation.samplesPerHour).foldl
      (calculateSample dataVariable.data) (false, computedVariable)
    (result, dataHour, computedVariable)

def DataHour.runComputation (now : ℤ) (hour : DataHour) (calculation : VariableComputation) :
    DataHour :=
  let (result, hour, computed) := calculateValue now calculation hour
    (hour.variablesComputed calculation.uuid calculation.samplesPerHour)
  { hour with
    variablesComputed := Function.update hour.variablesComputed calculation.uuid
      (Function.update (hour.variablesComputed calculation.uuid) calculation.samplesPerHour computed)
    modified := hour.modified || result }

/-- `runComputations`, without the checks that it goes on to send. -/
def DataHour.runComputations (now : ℤ) (calculations : List VariableComputation) (hour : DataHour) :
    DataHour :=
  calculations.foldl (DataHour.runComputation now) hour

end Computation

namespace DataHour

variable {hour : DataHour} {vs : List ((n : ℕ) × DataVariable n)} {id id' now : ℤ} {n n' : ℕ}
  {sampleNumber : ℤ} {value : Value}

lemma findVariable_cons_self {v : DataVariable n} (h : v.id = id) :
    findVariable id n (⟨n, v⟩ :: vs) = some v := dif_pos ⟨rfl, h⟩

lemma findVariable_cons_ne {v : (n : ℕ) × DataVariable n} (h : ¬(v.1 = n ∧ v.2.id = id)) :
    findVariable id n (v :: vs) = findVariable id n vs := dif_neg h

lemma updateVariable_cons_self {v : DataVariable n} (f : DataVariable n → DataVariable n)
    (h : v.id = id) : updateVariable id n f (⟨n, v⟩ :: vs) = ⟨n, f v⟩ :: vs := dif_pos ⟨rfl, h⟩

lemma updateVariable_cons_ne {v : (n : ℕ) × DataVariable n} (f : DataVariable n → DataVariable n)
    (h : ¬(v.1 = n ∧ v.2.id = id)) :
    updateVariable id n f (v :: vs) = v :: updateVariable id n f vs := dif_neg h

lemma findVariable_id {var : DataVariable n} (h : findVariable id n vs = some var) :
    var.id = id := by
  induction vs with
  | nil => cases h
  | cons v vs ih =>
    obtain ⟨m, v⟩ := v
    by_cases hv : m = n ∧ v.id = id
    · obtain ⟨rfl, hid⟩ := hv
      rw [findVariable_cons_self hid] at h
      rw [← Option.some_inj.mp h, hid]
    · rw [findVariable_cons_ne hv] at h
      exact ih h

lemma findVariable_append_new (h : findVariable id n vs = none) :
    findVariable id n (vs ++ [⟨n, DataVariable.new id n⟩]) = some (DataVariable.new id n) := by
  induction vs with
  | nil => exact findVariable_cons_self rfl
  | cons v vs ih =>
    obtain ⟨m, v⟩ := v
    by_cases hv : m = n ∧ v.id = id
    · obtain ⟨rfl, hid⟩ := hv
      rw [findVariable_cons_self hid] at h
      cases h
    · rw [findVariable_cons_ne hv] at h
      rw [List.cons_append, findVariable_cons_ne hv, ih h]

/-- A new variable does not hide another one. -/
lemma findVariable_append_ne (h : ¬(n = n' ∧ id = id')) :
    findVariable id' n' (vs ++ [⟨n, DataVariable.new id n⟩]) = findVariable id' n' vs := by
  induction vs with
  | nil => exact findVariable_cons_ne h
  | cons v vs ih =>
    obtain ⟨m, v⟩ := v
    by_cases hv : m = n' ∧ v.id = id'
    · obtain ⟨rfl, hid⟩ := hv
      rw [List.cons_append, findVariable_cons_self hid, findVariable_cons_self hid]
    · rw [List.cons_append, findVariable_cons_ne hv, findVariable_cons_ne hv, ih]

lemma findVariable_update_self {f : DataVariable n → DataVariable n}
    (hf : ∀ var, findVariable id n vs = some var → (f var).id = id) :
    findVariable id n (updateVariable id n f vs) = (findVariable id n vs).map f := by
  induction vs with
  | nil => rfl
  | cons v vs ih =>
    obtain ⟨m, v⟩ := v
    by_cases hv : m = n ∧ v.id = id
    · obtain ⟨rfl, hid⟩ := hv
      rw [updateVariable_cons_self f hid, findVariable_cons_self hid,
        findVariable_cons_self (hf v (findVariable_cons_self hid))]
      rfl
    · rw [updateVariable_cons_ne f hv, findVariable_cons_ne hv, findVariable_cons_ne hv]
      exact ih (fun var hvar => hf var ((findVariable_cons_ne hv).trans hvar))

lemma findVariable_update_ne {f : DataVariable n → DataVariable n}
    (hf : ∀ var, findVariable id n vs = some var → (f var).id = id) (h : ¬(n = n' ∧ id = id')) :
    findVariable id' n' (updateVariable id n f vs) = findVariable id' n' vs := by
  induction vs with
  | nil => rfl
  | cons v vs ih =>
    obtain ⟨m, v⟩ := v
    by_cases hv : m = n ∧ v.id = id
    · obtain ⟨rfl, hid⟩ := hv
      have hid' := hf v (findVariable_cons_self hid)
      rw [updateVariable_cons_self f hid, findVariable_cons_ne (hid' ▸ h),
        findVariable_cons_ne (hid ▸ h)]
    · rw [updateVariable_cons_ne f hv]
      by_cases hv' : m = n' ∧ v.id = id'
      · obtain ⟨rfl, hid⟩ := hv'
        rw [findVariable_cons_self hid, findVariable_cons_self hid]
      · rw [findVariable_cons_ne hv', findVariable_cons_ne hv']
        exact ih (fun var hvar => hf var ((findVariable_cons_ne hv).trans hvar))

/-- A variable that is looked for is found, or it is made. -/
lemma getVariable_eq (hour : DataHour) (now : ℤ) (id : ℤ) (n : ℕ) (create : Bool) :
    hour.getVariable now id n create = match findVariable id n hour.variablesRaw with
      | some var => (some var, { hour with lastUse := now })
      | none =>
        if create then
          (some (DataVariable.new id n), { hour with
            lastUse := now
            variablesRaw := hour.variablesRaw ++ [⟨n, DataVariable.new id n⟩] })
        else (none, { hour with lastUse := now }) := rfl

/-- What `DataVariable.log` does to the samples. -/
def logSample (data : Fin n → Value) (sampleNumber : ℤ) (value : Value) : Bool × (Fin n → Value) :=
  let var := DataVariable.log { DataVariable.new 0 n with data } sampleNumber value
  (var.1, var.2.data)

lemma logSample_eq (data : Fin n → Value) (sampleNumber : ℤ) (value : Value) :
    logSample data sampleNumber value =
      if h : 0 ≤ sampleNumber ∧ sampleNumber < n then
        if Measured (data ⟨sampleNumber.toNat, by omega⟩) ∧ ¬Measured value then (false, data)
        else (true, Function.update data ⟨sampleNumber.toNat, by omega⟩ value)
      else (false, data) := by
  unfold logSample DataVariable.log
  split
  · dsimp only
    split <;> rfl
  · rfl

/-- No measured sample is lost. -/
lemma logSample_kept {data : Fin n → Value} {i : Fin n} (h : Measured (data i)) :
    Measured ((logSample data sampleNumber value).2 i) := by
  rw [logSample_eq]
  split_ifs with hrange hguard
  · exact h
  · by_cases hi : i = ⟨sampleNumber.toNat, by omega⟩
    · rw [hi] at h
      simp only [hi, Function.update_self]
      by_contra hval
      exact hguard ⟨h, hval⟩
    · simp only [Function.update_of_ne hi]
      exact h
  · exact h

lemma log_data (var : DataVariable n) (sampleNumber : ℤ) (value : Value) :
    ((var.log sampleNumber value).1, (var.log sampleNumber value).2.data) =
      logSample var.data sampleNumber value := by
  unfold logSample DataVariable.log
  split
  · dsimp only
    split <;> rfl
  · rfl

lemma log_id (var : DataVariable n) (sampleNumber : ℤ) (value : Value) :
    (var.log sampleNumber value).2.id = var.id := by
  unfold DataVariable.log
  split
  · dsimp only
    split <;> rfl
  · rfl

/-- Getting a variable changes no samples. -/
@[simp] lemma getVariable_raw (hour : DataHour) (now : ℤ) (id : ℤ) (n : ℕ) (create : Bool)
    (id' : ℤ) (n' : ℕ) :
    (hour.getVariable now id n create).2.raw id' n' = hour.raw id' n' := by
  rw [getVariable_eq]
  cases hfind : findVariable id n hour.variablesRaw with
  | some var => rfl
  | none =>
    cases create with
    | false => rfl
    | true =>
      by_cases h : n = n' ∧ id = id'
      · obtain ⟨rfl, rfl⟩ := h
        simp only [if_true, raw, findVariable_append_new hfind, hfind]
        rfl
      · simp only [if_true, raw, findVariable_append_ne h]

/-- The variable that `log` writes to. -/
lemma getVariable_created (hour : DataHour) (now : ℤ) (id : ℤ) (n : ℕ) :
    ∃ var, (hour.getVariable now id n true).1 = some var ∧
      findVariable id n (hour.getVariable now id n true).2.variablesRaw = some var := by
  rw [getVariable_eq]
  cases hfind : findVariable id n hour.variablesRaw with
  | some var => exact ⟨var, rfl, hfind⟩
  | none => exact ⟨_, rfl, findVariable_append_new hfind⟩

lemma log_raw_self (hour : DataHour) (now : ℤ) (id : ℤ) (n : ℕ) (sampleNumber : ℤ)
    (value : Value) : ((hour.log now id n sampleNumber value).1,
      (hour.log now id n sampleNumber value).2.raw id n) =
        logSample (hour.raw id n) sampleNumber value := by
  obtain ⟨var, hvar, hfind⟩ := getVariable_created hour now id n
  have hraw := getVariable_raw hour now id n true id n
  unfold log
  generalize hour.getVariable now id n true = got at hvar hfind hraw
  obtain ⟨found, hour'⟩ := got
  dsimp only at hvar hfind hraw
  subst hvar
  have hid := findVariable_id hfind
  have hdata : hour'.raw id n = var.data := by
    rw [raw, hfind]
  rw [← hraw, hdata, ← log_data]
  refine Prod.ext rfl ?_
  dsimp only [raw]
  rw [findVariable_update_self (fun _ _ => (log_id var _ _).trans hid), hfind]
  rfl

lemma log_raw_ne (h : ¬(n = n' ∧ id = id')) :
    (hour.log now id n sampleNumber value).2.raw id' n' = hour.raw id' n' := by
  obtain ⟨var, hvar, hfind⟩ := getVariable_created hour now id n
  have hraw := getVariable_raw hour now id n true id' n'
  unfold log
  generalize hour.getVariable now id n true = got at hvar hfind hraw
  obtain ⟨found, hour'⟩ := got
  dsimp only at hvar hfind hraw
  subst hvar
  have hid := findVariable_id hfind
  rw [← hraw]
  dsimp only [raw]
  rw [findVariable_update_ne (fun _ _ => (log_id var _ _).trans hid) h]

lemma getVariable_hourNumber (hour : DataHour) (now : ℤ) (id : ℤ) (n : ℕ) (create : Bool) :
    (hour.getVariable now id n create).2.hourNumber = hour.hourNumber := by
  rw [getVariable_eq]
  cases findVariable id n hour.variablesRaw <;> cases create <;> rfl

lemma log_hourNumber (hour : DataHour) (now : ℤ) (id : ℤ) (n : ℕ) (sampleNumber : ℤ)
    (value : Value) : (hour.log now id n sampleNumber value).2.hourNumber = hour.hourNumber := by
  have hget := getVariable_hourNumber hour now id n true
  unfold log
  split
  · rename_i h
    rwa [h] at hget
  · rename_i h
    rwa [h] at hget

lemma log_modified (hour : DataHour) (now : ℤ) (id : ℤ) (n : ℕ) (sampleNumber : ℤ) (value : Value) :
    (hour.log now id n sampleNumber value).2.modified =
      (hour.modified || (hour.log now id n sampleNumber value).1) := by
  have hget : (hour.getVariable now id n true).2.modified = hour.modified := by
    rw [getVariable_eq]
    cases findVariable id n hour.variablesRaw <;> rfl
  unfold log
  split
  · rename_i h
    rw [h] at hget
    simpa using hget
  · rename_i h
    rw [h] at hget
    dsimp only at hget ⊢
    rw [hget]

lemma calculateValue_hour (now : ℤ) (c : VariableComputation) (hour : DataHour)
    (computed : ComputedVariable c.samplesPerHour) :
    (calculateValue now c hour computed).2.1 =
      (hour.getVariable now c.variableId c.samplesPerHour false).2 := by
  rw [calculateValue]
  split <;> simp [*]

/-- A computation reads the raw samples only. -/
lemma runComputation_raw (now : ℤ) (hour : DataHour) (c : VariableComputation) (id : ℤ) (n : ℕ) :
    (hour.runComputation now c).raw id n = hour.raw id n := by
  show (calculateValue now c hour _).2.1.raw id n = _
  rw [calculateValue_hour, getVariable_raw]

lemma runComputation_hourNumber (now : ℤ) (hour : DataHour) (c : VariableComputation) :
    (hour.runComputation now c).hourNumber = hour.hourNumber := by
  show (calculateValue now c hour _).2.1.hourNumber = _
  rw [calculateValue_hour, getVariable_hourNumber]

end DataHour

end ZejfMeteo.Viewer
