import ZejfMeteo.Network
import ZejfMeteo.HourFormat

/-!
# The cache of hours

`zejf_data.c`: a bounded queue of hours in front of the platform's storage. An hour lives
in its node of the queue, and the address of the node stands for a pointer to the hour.
-/

namespace ZejfMeteo
open Runs Bytes

variable {δ : Type} (T : Target δ)

/-! ### Pointers to hours and variables -/

def readHour (hour : ℕ) : Run (Globals δ) DataHour := do
  return (← zoom Globals.dataQueueLens (LinkedList.node hour)).item

def updateHour (hour : ℕ) (f : DataHour → DataHour) : Run (Globals δ) Unit :=
  zoom Globals.dataQueueLens (LinkedList.setItem hour f)

/-- The position of the first variable with this id. -/
def getVariable (hour : DataHour) (variableId : UInt16) : Option ℕ :=
  hour.vars.findIdx? (fun v => v.info.id == variableId)

/-! ### The code of `zejf_data.c` -/

def hourFindFrom (hourNumber : UInt32) : ℕ → ℕ → Run (Globals δ) (Option ℕ)
  | 0, _ => throw .outOfFuel
  | fuel + 1, node => do
    let c ← zoom Globals.dataQueueLens (LinkedList.node node)
    if c.item.hourId = hourNumber then
      zoom Globals.dataQueueLens (listPrioritise node)
      return some node
    if (← get).dataQueue.head = some c.previous then
      return none
    hourFindFrom hourNumber fuel c.previous

/-- An hour that is found becomes the next one to be evicted from the tail. -/
def hourFind (hourNumber : UInt32) : Run (Globals δ) (Option ℕ) := do
  let s ← get
  match s.dataQueue.head with
  | none => return none
  | some head => hourFindFrom hourNumber s.dataQueue.itemCount head

def datahourLoad (hourNumber : UInt32) : Run (Globals δ) (ZejfErr × Option DataHour) := do
  let (rv, buffer) ← Globals.platformCall (T.hourLoad hourNumber)
  if rv ≠ .ok then
    return (rv, none)
  match hourDeserialize T.toSettings buffer buffer.length with
  | none => return (.null, none)
  | some hour => return (.ok, some hour)

/-- Returns the hour with its checksum set. -/
def datahourSave (hour : DataHour) : Run (Globals δ) (ZejfErr × DataHour) := do
  match hourSerialize hour 0 with
  | .error e => throw e
  | .ok (hour, data, size) =>
    match data.load size with
    | none => throw .uninitialised
    | some buffer =>
      let rv ← Globals.platformCall (T.hourSave hour.hourId buffer)
      return (rv, hour)

def hourPush (hour : DataHour) : Run (Globals δ) ZejfErr := do
  if ← zoom Globals.dataQueueLens (listPush hour) then
    return .ok
  return .generic

/-- A full cache makes room by saving and destroying the hour at its tail; whether it could
be saved does not matter. -/
def hourAdd (hour : DataHour) : Run (Globals δ) ZejfErr := do
  if listIsFull (← get).dataQueue then
    match ← zoom Globals.dataQueueLens listPop with
    | none => return .null
    | some old =>
      let _ ← datahourSave T old
      hourPush hour
  else
    hourPush hour

/-- The hour that a miss brings into the cache: a stored one, or else a new one. -/
def datahourFetch (hourNumber : UInt32) (load create : Bool) :
    Run (Globals δ) (Option DataHour) := do
  let (rv, result) ← if load then datahourLoad T hourNumber else pure (.fileDoesntExist, none)
  match rv, result with
  | .ok, some hour => return some { hour with flags := 0 }
  | .fileDoesntExist, _ => return if create then some (hourCreate hourNumber) else none
  | _, _ => return none

def datahourGet (hourNumber : UInt32) (load create : Bool) : Run (Globals δ) (Option ℕ) := do
  match ← hourFind hourNumber with
  | some hour => return some hour
  | none =>
    match ← datahourFetch T hourNumber load create with
    | none => return none
    | some hour =>
      if (← hourAdd T hour) ≠ .ok then
        return none
      -- The hour that has just been pushed is at the head.
      return (← get).dataQueue.head

/-- Returns the value as well where the code stores it in `*target`. -/
def dataGetVal (info : VariableInfo) (hourNumber logNumber : UInt32) (load createNew : Bool) :
    Run (Globals δ) (ZejfErr × Option Sample) := do
  match ← datahourGet T hourNumber load createNew with
  | none => return (.null, none)
  | some hour =>
    let h ← readHour hour
    match h.vars.find? (fun v => v.info.id == info.id) with
    | none => return (.null, none)
    | some var =>
      if var.info.samplesPerHour ≤ logNumber then
        return (.logNumber, none)
      match var.data[logNumber.toNat]? with
      | none => throw .outOfBounds
      | some value => return (.ok, some value)

/-- One round of the loop of `data_save`: an hour that has been saved is clean. -/
def dataSaveHour (hour : ℕ) : Run (Globals δ) Unit := do
  let h ← readHour hour
  if h.flags &&& flagModified ≠ 0 then
    let (rv, h) ← datahourSave T h
    updateHour hour (fun _ => if rv = .ok then { h with flags := 0 } else h)

def dataSaveFrom : ℕ → ℕ → Run (Globals δ) Unit
  | 0, _ => throw .outOfFuel
  | fuel + 1, node => do
    dataSaveHour T node
    let c ← zoom Globals.dataQueueLens (LinkedList.node node)
    if (← get).dataQueue.head ≠ some c.previous then
      dataSaveFrom fuel c.previous

def dataSave : Run (Globals δ) Unit := do
  let s ← get
  match s.dataQueue.head with
  | none => return
  | some head => dataSaveFrom T s.dataQueue.itemCount head

/-- Tells those who demand the variable, if asked to, and all subscribers. -/
def spreadLog (target : VariableInfo) (hourNumber sampleNumber : UInt32) (value : Sample)
    (time : UInt32) (announce : Bool) : Run (Globals δ) Unit := do
  if announce then
    let _ ← networkAnnounceLog T target hourNumber sampleNumber value time
  let _ ← networkBroadcastLog T target hourNumber sampleNumber value time

/-- `data_log` once the variable is there. -/
def dataLogAt (hour index : ℕ) (target : VariableInfo) (hourNumber sampleNumber : UInt32)
    (value : Sample) (time : UInt32) (announce : Bool) : Run (Globals δ) ZejfErr := do
  let h ← readHour hour
  match h.vars[index]? with
  | none => throw .outOfBounds
  | some var =>
    if var.info.samplesPerHour ≠ target.samplesPerHour then
      return .invalidSampleRate
    if var.info.samplesPerHour ≤ sampleNumber then
      return .logNumber
    match var.data[sampleNumber.toNat]? with
    | none => throw .outOfBounds
    | some old =>
      if Measured old ∧ ¬Measured value then
        return .value
      updateHour hour (fun h =>
        { h with vars := h.vars.modify index (·.setSample sampleNumber.toNat value) })
      spreadLog T target hourNumber sampleNumber value time announce
      updateHour hour (fun h => { h with flags := flagModified })
      return .ok

def dataLog (target : VariableInfo) (hourNumber sampleNumber : UInt32) (value : Sample)
    (time : UInt32) (announce : Bool) : Run (Globals δ) ZejfErr := do
  match ← datahourGet T hourNumber true true with
  | none => return .null
  | some hour =>
    let h ← readHour hour
    match getVariable h target.id with
    | some index =>
      dataLogAt T hour index target hourNumber sampleNumber value time announce
    | none =>
      let (rv, h) := hourAddVariable T.toSettings h target
      if rv ≠ .ok then
        return rv
      updateHour hour (fun _ => h)
      match getVariable h target.id with
      | none => throw .nullPointer
      | some index =>
        dataLogAt T hour index target hourNumber sampleNumber value time announce

section Variables

variable {h : DataHour}

lemma getVariable_none {id : UInt16} (hv : getVariable h id = none) :
    h.vars.find? (fun v => v.info.id == id) = none := by
  rw [getVariable, List.findIdx?_eq_none_iff] at hv
  rw [List.find?_eq_none]
  intro v hm
  simp [hv v hm]

lemma getVariable_some {id : UInt16} {i : ℕ} (hv : getVariable h id = some i) :
    ∃ v, h.vars[i]? = some v ∧ h.vars.find? (fun v => v.info.id == id) = some v ∧
      v.info.id = id := by
  obtain ⟨hlt, hid, hbefore⟩ := List.findIdx?_eq_some_iff_getElem.mp hv
  refine ⟨h.vars[i], List.getElem?_eq_getElem hlt, ?_, by simpa using hid⟩
  rw [List.find?_eq_some_iff_getElem]
  exact ⟨hid, i, hlt, rfl, fun j hj => by simpa using hbefore j hj⟩

end Variables

section Cache

variable {T} {s : Globals δ} {xs ys : List (ℕ × DataHour)} {a : ℕ} {h : DataHour}
  {hourNumber : UInt32}

lemma dataNode_run (hq : s.dataQueue.Holds (xs ++ (a, h) :: ys)) :
    (zoom Globals.dataQueueLens (LinkedList.node a)).run s =
      .ok ⟨Ring.firstAddr (ys ++ xs) a, Ring.lastAddr a (ys ++ xs), h⟩ s :=
  run_zoom_ok (l := Globals.dataQueueLens) hq.node_run

lemma readHour_run (hq : s.dataQueue.Holds (xs ++ (a, h) :: ys)) :
    (readHour a).run s = .ok h s := by
  rw [readHour, run_bind_ok (dataNode_run hq)]
  rfl

lemma updateHour_run (hq : s.dataQueue.Holds (xs ++ (a, h) :: ys)) (f : DataHour → DataHour) :
    ∃ q, (updateHour a f).run s = .ok () { s with dataQueue := q } ∧
      q.Holds (xs ++ (a, f h) :: ys) ∧ q.capacity = s.dataQueue.capacity := by
  obtain ⟨q, hrun, hq', hcap, -, -⟩ := LinkedList.setItem_holds hq f
  exact ⟨q, run_zoom_ok (l := Globals.dataQueueLens) hrun, hq', hcap⟩

lemma dataQueue_head (hq : s.dataQueue.Holds (xs ++ (a, h) :: ys)) :
    s.dataQueue.head = some (Ring.lastAddr a ys) := by
  rw [hq.head, LinkedList.getLast?_map_fst 0 (by simp)]
  simp

/-- The head is not the node before another one. -/
lemma dataQueue_head_ne {x : ℕ × DataHour} (hq : s.dataQueue.Holds (xs ++ [x] ++ (a, h) :: ys)) :
    s.dataQueue.head ≠ some x.1 := by
  rw [dataQueue_head hq]
  intro he
  have hd := hq.ring.nodup
  rw [List.append_assoc, List.singleton_append, List.map_append] at hd
  have hx := (List.nodup_cons.mp (List.nodup_append.mp hd).2.1).1
  exact hx (Option.some_inj.mp he ▸ Ring.lastAddr_mem x.1 (List.cons_ne_nil (a, h) ys))

lemma hourFindFrom_hit (fuel : ℕ) (hq : s.dataQueue.Holds (xs ++ (a, h) :: ys))
    (hid : h.hourId = hourNumber) : ∃ q, (hourFindFrom hourNumber (fuel + 1) a).run s =
        .ok (some a) { s with dataQueue := q } ∧
      q.Holds ((a, h) :: (ys ++ xs)) ∧ q.capacity = s.dataQueue.capacity := by
  obtain ⟨q, hrun, hq', hcap, -⟩ := LinkedList.listPrioritise_holds hq
  have hzoom : (zoom Globals.dataQueueLens (listPrioritise a)).run s =
      .ok () { s with dataQueue := q } := run_zoom_ok (l := Globals.dataQueueLens) hrun
  refine ⟨q, ?_, hq', hcap⟩
  rw [hourFindFrom, run_bind_ok (dataNode_run hq), if_pos hid, run_bind_ok hzoom]
  rfl

/-- The walk from the head towards the tail stops at the hour or has seen all hours. -/
lemma hourFindFrom_run {fuel : ℕ} (hq : s.dataQueue.Holds (xs ++ (a, h) :: ys))
    (hys : ∀ y ∈ ys, y.2.hourId ≠ hourNumber) (hfuel : xs.length < fuel) :
    ((∀ x ∈ xs ++ (a, h) :: ys, x.2.hourId ≠ hourNumber) ∧
        (hourFindFrom hourNumber fuel a).run s = .ok none s) ∨
      ∃ pre x post q, xs ++ (a, h) :: ys = pre ++ x :: post ∧ x.2.hourId = hourNumber ∧
        (∀ y ∈ post, y.2.hourId ≠ hourNumber) ∧
        (hourFindFrom hourNumber fuel a).run s = .ok (some x.1) { s with dataQueue := q } ∧
        q.Holds (x :: (post ++ pre)) ∧ q.capacity = s.dataQueue.capacity := by
  induction xs using List.reverseRecOn generalizing a h ys fuel with
  | nil =>
    obtain ⟨fuel, rfl⟩ := Nat.exists_eq_succ_of_ne_zero (Nat.ne_zero_of_lt hfuel)
    by_cases hid : h.hourId = hourNumber
    · obtain ⟨q, hrun, hq', hcap⟩ := hourFindFrom_hit fuel hq hid
      exact Or.inr ⟨[], (a, h), ys, q, rfl, hid, hys, hrun, hq', hcap⟩
    · refine Or.inl ⟨by simpa [hid] using hys, ?_⟩
      rw [hourFindFrom, run_bind_ok (dataNode_run hq), if_neg hid,
        run_bind_ok (EStateM.run_get s), List.append_nil, if_pos (dataQueue_head hq)]
      rfl
  | append_singleton xs x ih =>
    obtain ⟨fuel, rfl⟩ := Nat.exists_eq_succ_of_ne_zero (Nat.ne_zero_of_lt hfuel)
    by_cases hid : h.hourId = hourNumber
    · obtain ⟨q, hrun, hq', hcap⟩ := hourFindFrom_hit fuel hq hid
      exact Or.inr ⟨xs ++ [x], (a, h), ys, q, rfl, hid, hys, hrun, hq', hcap⟩
    · have hprev : Ring.lastAddr a (ys ++ (xs ++ [x])) = x.1 := by simp
      have hhead := dataQueue_head_ne hq
      have happ : xs ++ [x] ++ (a, h) :: ys = xs ++ x :: (a, h) :: ys := by simp
      have hstep : (hourFindFrom hourNumber (fuel + 1) a).run s =
          (hourFindFrom hourNumber fuel x.1).run s := by
        rw [hourFindFrom, run_bind_ok (dataNode_run hq), if_neg hid,
          run_bind_ok (EStateM.run_get s), hprev, if_neg hhead]
      rw [happ] at hq ⊢
      rw [hstep]
      exact ih (h := x.2) hq (by simpa [hid] using hys) (by simpa using hfuel)

/-- An hour is found exactly if it is cached, and is then prioritised. -/
lemma hourFind_run (hq : s.dataQueue.Holds xs) (hourNumber : UInt32) :
    ((∀ x ∈ xs, x.2.hourId ≠ hourNumber) ∧ (hourFind hourNumber).run s = .ok none s) ∨
      ∃ pre x post q, xs = pre ++ x :: post ∧ x.2.hourId = hourNumber ∧
        (∀ y ∈ post, y.2.hourId ≠ hourNumber) ∧
        (hourFind hourNumber).run s = .ok (some x.1) { s with dataQueue := q } ∧
        q.Holds (x :: (post ++ pre)) ∧ q.capacity = s.dataQueue.capacity := by
  cases xs using List.reverseRecOn with
  | nil =>
    have hhead : s.dataQueue.head = none := hq.head
    refine Or.inl ⟨by simp, ?_⟩
    simp [hourFind, hhead]
  | append_singleton xs x =>
    have hhead : s.dataQueue.head = some x.1 := dataQueue_head (a := x.1) (h := x.2) hq
    have hrun : (hourFind hourNumber).run s =
        (hourFindFrom hourNumber s.dataQueue.itemCount x.1).run s := by
      rw [hourFind, run_bind_ok (EStateM.run_get s)]
      simp only [hhead]
    rw [hrun]
    exact hourFindFrom_run (a := x.1) (h := x.2) hq (by simp) (by simp [hq.count])

/-! ### Loading and saving -/

lemma datahourLoad_run (hourNumber : UInt32) (s : Globals δ) :
    (datahourLoad T hourNumber).run s =
      .ok (match (T.hourLoad hourNumber s.platform).1 with
        | (.ok, buffer) => match hourDeserialize T.toSettings buffer buffer.length with
          | none => (.null, none)
          | some hour => (.ok, some hour)
        | (rv, _) => (rv, none))
        { s with platform := (T.hourLoad hourNumber s.platform).2 } := by
  rw [datahourLoad, run_bind_ok (Globals.platformCall_run _ s)]
  obtain ⟨⟨rv, buffer⟩, p⟩ := T.hourLoad hourNumber s.platform
  by_cases hrv : rv = .ok
  · subst hrv
    cases hd : hourDeserialize T.toSettings buffer buffer.length <;> simp [hd]
  · cases rv <;> first | exact absurd rfl hrv | rfl

/-- Saving an hour hands its file to the platform. -/
lemma datahourSave_run (hour : DataHour) (s : Globals δ) : (datahourSave T hour).run s =
    .ok ((T.hourSave hour.hourId (hourBytes hour.sealed) s.platform).1, hour.sealed)
      { s with platform := (T.hourSave hour.hourId (hourBytes hour.sealed) s.platform).2 } := by
  have hload : Block.load (Block.filled (hourBytes hour.sealed) 0) (hourTotalSize hour) =
      some (hourBytes hour.sealed) := by
    have hsize : hourTotalSize hour = (hourBytes hour.sealed).length := by
      rw [← hourTotalSize_eq]
      rfl
    rw [hsize, Block.load_filled]
  simp only [datahourSave, hourSerialize_eq, hload]
  rw [run_bind_ok (Globals.platformCall_run _ s)]
  rfl

lemma hourPush_run (hq : s.dataQueue.Holds xs) (hroom : xs.length < s.dataQueue.capacity)
    (hour : DataHour) : ∃ q, (hourPush hour).run s = .ok .ok { s with dataQueue := q } ∧
      q.Holds (xs ++ [(s.dataQueue.nodes.next, hour)]) ∧ q.capacity = s.dataQueue.capacity ∧
      q.head = some s.dataQueue.nodes.next := by
  obtain ⟨q, hpush, hq', hcap, hhead, -⟩ := LinkedList.listPush_holds hq hroom hour
  have hzoom : (zoom Globals.dataQueueLens (listPush hour)).run s =
      .ok true { s with dataQueue := q } := run_zoom_ok (l := Globals.dataQueueLens) hpush
  refine ⟨q, ?_, hq', hcap, hhead⟩
  rw [hourPush, run_bind_ok hzoom]
  rfl

/-- A cache with room takes the hour in. -/
lemma hourAdd_room (hq : s.dataQueue.Holds xs) (hroom : xs.length < s.dataQueue.capacity)
    (hour : DataHour) : ∃ q, (hourAdd T hour).run s = .ok .ok { s with dataQueue := q } ∧
      q.Holds (xs ++ [(s.dataQueue.nodes.next, hour)]) ∧ q.capacity = s.dataQueue.capacity ∧
      q.head = some s.dataQueue.nodes.next := by
  have hfull : listIsFull s.dataQueue = false := by
    rw [hq.isFull]
    exact decide_eq_false (Nat.ne_of_lt hroom)
  obtain ⟨q, hrun, hq', hcap, hhead⟩ := hourPush_run hq hroom hour
  refine ⟨q, ?_, hq', hcap, hhead⟩
  rw [hourAdd, run_bind_ok (EStateM.run_get s), if_neg (by simp [hfull]), hrun]

/-- A full cache saves and drops the hour at its tail first. -/
lemma hourAdd_full {x : ℕ × DataHour} (hq : s.dataQueue.Holds (x :: xs))
    (hcap : (x :: xs).length = s.dataQueue.capacity) (hour : DataHour) :
    ∃ q, (hourAdd T hour).run s = .ok .ok { s with
        dataQueue := q
        platform := (T.hourSave x.2.hourId (hourBytes x.2.sealed) s.platform).2 } ∧
      q.Holds (xs ++ [(s.dataQueue.nodes.next, hour)]) ∧ q.capacity = s.dataQueue.capacity ∧
      q.head = some s.dataQueue.nodes.next := by
  have hfull : listIsFull s.dataQueue = true := by
    rw [hq.isFull]
    exact decide_eq_true hcap
  obtain ⟨q, hpop, hq', hcap', hnext⟩ := LinkedList.listPop_holds (a := x.1) (v := x.2) hq
  have hzoom : (zoom Globals.dataQueueLens listPop).run s =
      .ok (some x.2) { s with dataQueue := q } := run_zoom_ok (l := Globals.dataQueueLens) hpop
  have hsave := datahourSave_run (T := T) x.2 { s with dataQueue := q }
  have hroom : xs.length < q.capacity := by
    rw [hcap', ← hcap]
    exact Nat.lt_succ_self _
  obtain ⟨q', hpush, hq'', hcap'', hhead⟩ := hourPush_run (s := { s with
    dataQueue := q
    platform := (T.hourSave x.2.hourId (hourBytes x.2.sealed) s.platform).2 }) hq' hroom hour
  rw [← hnext]
  refine ⟨q', ?_, hq'', hcap''.trans hcap', hhead⟩
  rw [hourAdd, run_bind_ok (EStateM.run_get s), if_pos hfull, run_bind_ok hzoom]
  simp only
  rw [run_bind_ok hsave, hpush]

/-- The hour that a miss brings in, by what the platform loads. -/
def fetched (T : Target δ) (hourNumber : UInt32) (load create : Bool) (platform : δ) :
    Option DataHour :=
  let missing := if create then some (hourCreate hourNumber) else none
  if load then
    match (T.hourLoad hourNumber platform).1 with
    | (.ok, buffer) => (hourDeserialize T.toSettings buffer buffer.length).map
        (fun hour => { hour with flags := 0 })
    | (.fileDoesntExist, _) => missing
    | _ => none
  else missing

/-- The platform after a load, if there is one. -/
def afterLoad (T : Target δ) (hourNumber : UInt32) (load : Bool) (platform : δ) : δ :=
  if load then (T.hourLoad hourNumber platform).2 else platform

lemma datahourFetch_run (hourNumber : UInt32) (load create : Bool) (s : Globals δ) :
    (datahourFetch T hourNumber load create).run s =
      .ok (fetched T hourNumber load create s.platform)
        { s with platform := afterLoad T hourNumber load s.platform } := by
  cases load with
  | false => cases create <;> rfl
  | true =>
    simp only [datahourFetch, if_true]
    rw [run_bind_ok (datahourLoad_run hourNumber s)]
    simp only [fetched, afterLoad, if_true]
    obtain ⟨⟨rv, buffer⟩, p⟩ := T.hourLoad hourNumber s.platform
    cases rv
    case ok =>
      simp only
      cases hourDeserialize T.toSettings buffer buffer.length <;> rfl
    all_goals cases create <;> rfl

lemma fetched_wellFormed {load create : Bool} {platform : δ} {hour : DataHour}
    (h : fetched T hourNumber load create platform = some hour) :
    hour.WellFormed T.toSettings := by
  have hmissing : ∀ {hour}, (if create then some (hourCreate hourNumber) else none) = some hour →
      hour.WellFormed T.toSettings := by
    intro hour h
    cases create with
    | false => simp at h
    | true =>
      rw [← Option.some_inj.mp h]
      exact hourCreate_wellFormed _ _
  cases load with
  | false => exact hmissing h
  | true =>
    simp only [fetched, if_true] at h
    split at h
    · obtain ⟨loaded, hload, rfl⟩ := Option.map_eq_some_iff.mp h
      obtain ⟨hwf, -, -⟩ := hourDeserialize_some hload
      exact ⟨hwf.count_le, hwf.ids_nodup, hwf.rate_pos, hwf.rate_le⟩
    · exact hmissing h
    · cases h

/-- The cache holds these well-formed hours, from the next one to be evicted on. -/
structure Globals.CacheHolds (s : Globals δ) (T : Target δ) (xs : List (ℕ × DataHour)) : Prop where
  queue : s.dataQueue.Holds xs
  capacity : s.dataQueue.capacity = T.hourBufferSize
  wellFormed : ∀ x ∈ xs, x.2.WellFormed T.toSettings

/-- No hour is cached yet. -/
lemma Globals.CacheHolds.empty (hqueue : s.dataQueue = listCreate DataHour T.hourBufferSize) :
    s.CacheHolds T [] where
  queue := by
    rw [hqueue]
    exact LinkedList.listCreate_holds _ _
  capacity := by
    rw [hqueue]
    rfl
  wellFormed x hx := by cases hx

/-- Writing a well-formed hour into its node. -/
lemma Globals.CacheHolds.update {h' : DataHour} {q : LinkedList DataHour}
    (hc : s.CacheHolds T (xs ++ (a, h) :: ys)) (hq : q.Holds (xs ++ (a, h') :: ys))
    (hcap : q.capacity = s.dataQueue.capacity) (hwf : h'.WellFormed T.toSettings) :
    ({ s with dataQueue := q } : Globals δ).CacheHolds T (xs ++ (a, h') :: ys) where
  queue := hq
  capacity := hcap.trans hc.capacity
  wellFormed x hx := by
    rcases List.mem_append.mp hx with hx | hx
    · exact hc.wellFormed x (List.mem_append_left _ hx)
    · rcases List.mem_cons.mp hx with rfl | hx
      · exact hwf
      · exact hc.wellFormed x (List.mem_append_right _ (List.mem_cons_of_mem _ hx))

/-- A cache that has taken one more hour was not full. -/
lemma Globals.CacheHolds.not_isFull {u : Globals δ} {x : ℕ × DataHour} (hc : s.CacheHolds T xs)
    (h : u.CacheHolds T (xs ++ [x])) : ¬listIsFull s.dataQueue := by
  intro hfull
  rw [hc.queue.isFull, decide_eq_true_iff] at hfull
  have hbound := h.queue.bounded
  rw [h.capacity, ← hc.capacity, ← hfull, List.length_append] at hbound
  exact absurd hbound (by simp)

/-- What a lookup of an hour can do to the cache. -/
inductive Lookup (T : Target δ) (s : Globals δ) (xs : List (ℕ × DataHour)) (hourNumber : UInt32)
    (load create : Bool) (run : EStateM.Result Fault (Globals δ) (Option ℕ)) : Prop
  /-- The hour is cached. -/
  | hit (pre : List (ℕ × DataHour)) (x : ℕ × DataHour) (post : List (ℕ × DataHour))
      (q : LinkedList DataHour) (split : xs = pre ++ x :: post) (id : x.2.hourId = hourNumber)
      (newest : ∀ y ∈ post, y.2.hourId ≠ hourNumber)
      (result : run = .ok (some x.1) { s with dataQueue := q })
      (holds : ({ s with dataQueue := q } : Globals δ).CacheHolds T (x :: (post ++ pre)))
  /-- There is no such hour, or it could not be loaded. -/
  | absent (miss : ∀ x ∈ xs, x.2.hourId ≠ hourNumber)
      (nothing : fetched T hourNumber load create s.platform = none)
      (result : run = .ok none { s with platform := afterLoad T hourNumber load s.platform })
  /-- The hour has come in, perhaps in the place of another one. -/
  | added (miss : ∀ x ∈ xs, x.2.hourId ≠ hourNumber) (hour : DataHour) (node : ℕ)
      (q : LinkedList DataHour) (platform : δ) (ys : List (ℕ × DataHour))
      (fresh : node ∉ xs.map Prod.fst)
      (new : fetched T hourNumber load create s.platform = some hour)
      (result : run = .ok (some node) { s with dataQueue := q, platform := platform })
      (holds : ({ s with dataQueue := q, platform := platform } : Globals δ).CacheHolds T
        (ys ++ [(node, hour)]))
      (room : (ys = xs ∧ platform = afterLoad T hourNumber load s.platform) ∨
        ∃ x, xs = x :: ys ∧ platform = (T.hourSave x.2.hourId (hourBytes x.2.sealed)
          (afterLoad T hourNumber load s.platform)).2)

/-- Every lookup ends in one of these ways. -/
lemma datahourGet_run (hc : s.CacheHolds T xs) (hourNumber : UInt32) (load create : Bool) :
    Lookup T s xs hourNumber load create ((datahourGet T hourNumber load create).run s) := by
  rcases hourFind_run hc.queue hourNumber with
    ⟨hmiss, hfind⟩ | ⟨pre, x, post, q, hxs, hid, hnewest, hfind, hq, hcap⟩
  · have hfetch := datahourFetch_run (T := T) hourNumber load create s
    cases hnew : fetched T hourNumber load create s.platform with
    | none =>
      refine .absent hmiss hnew ?_
      rw [hnew] at hfetch
      rw [datahourGet, run_bind_ok hfind]
      simp only
      rw [run_bind_ok hfetch]
      rfl
    | some hour =>
      rw [hnew] at hfetch
      have hwf := fetched_wellFormed hnew
      have hfresh : s.dataQueue.nodes.next ∉ xs.map Prod.fst := by
        intro hm
        exact s.dataQueue.nodes.ne_next (hc.queue.ring.closed.live hm) rfl
      have hrun : ∀ {q node platform}, (hourAdd T hour).run
          { s with platform := afterLoad T hourNumber load s.platform } =
            .ok .ok { s with dataQueue := q, platform := platform } → q.head = some node →
          (datahourGet T hourNumber load create).run s =
            .ok (some node) { s with dataQueue := q, platform := platform } := by
        intro q node platform hadd hhead
        rw [datahourGet, run_bind_ok hfind]
        simp only
        rw [run_bind_ok hfetch]
        simp only
        rw [run_bind_ok hadd]
        simp [hhead]
      by_cases hroom : xs.length < s.dataQueue.capacity
      · obtain ⟨q, hadd, hq, hcap, hhead⟩ := hourAdd_room (T := T) (s := { s with
          platform := afterLoad T hourNumber load s.platform }) hc.queue hroom hour
        refine .added hmiss hour _ q _ xs hfresh hnew (hrun hadd hhead)
          ⟨hq, hcap.trans hc.capacity, ?_⟩ (Or.inl ⟨rfl, rfl⟩)
        intro y hy
        rcases List.mem_append.mp hy with hy | hy
        · exact hc.wellFormed y hy
        · rw [List.mem_singleton.mp hy]
          exact hwf
      · have hfull : xs.length = s.dataQueue.capacity := by
          have hb := hc.queue.bounded
          omega
        have hpos := T.hourBufferSize_pos
        rw [← hc.capacity, ← hfull] at hpos
        obtain ⟨x, ys, rfl⟩ := List.exists_cons_of_ne_nil (List.ne_nil_of_length_pos hpos)
        obtain ⟨q, hadd, hq, hcap, hhead⟩ := hourAdd_full (T := T) (s := { s with
          platform := afterLoad T hourNumber load s.platform }) hc.queue hfull hour
        refine .added hmiss hour _ q _ ys hfresh hnew (hrun hadd hhead)
          ⟨hq, hcap.trans hc.capacity, ?_⟩ (Or.inr ⟨x, rfl, rfl⟩)
        intro y hy
        rcases List.mem_append.mp hy with hy | hy
        · exact hc.wellFormed y (List.mem_cons_of_mem _ hy)
        · rw [List.mem_singleton.mp hy]
          exact hwf
  · refine .hit pre x post q hxs hid hnewest ?_ ⟨hq, hcap.trans hc.capacity, ?_⟩
    · rw [datahourGet, run_bind_ok hfind]
      rfl
    · intro y hy
      refine hc.wellFormed y ?_
      rw [hxs]
      simp only [List.mem_cons, List.mem_append] at hy ⊢
      tauto

end Cache

/-- The copy of an hour that the device would use next: the cached one that it finds first,
or else what a load brings in. -/
def localHour (T : Target δ) (xs : List (ℕ × DataHour)) (platform : δ) (n : UInt32) :
    Option DataHour :=
  match xs.reverse.find? (fun x => x.2.hourId == n) with
  | some x => some x.2
  | none => fetched T n true false platform

section LocalHour

variable {T} {xs pre post : List (ℕ × DataHour)} {x : ℕ × DataHour} {platform : δ} {n : UInt32}

lemma find?_hourId_missed (hmiss : ∀ x ∈ xs, x.2.hourId ≠ n) :
    xs.find? (fun x => x.2.hourId == n) = none := by
  rw [List.find?_eq_none]
  intro x hx
  simpa using hmiss x hx

lemma localHour_cached (hxs : xs = pre ++ x :: post) (hid : x.2.hourId = n)
    (hpost : ∀ y ∈ post, y.2.hourId ≠ n) : localHour T xs platform n = some x.2 := by
  have hnone := find?_hourId_missed (fun y hy => hpost y (List.mem_reverse.mp hy))
  have hfind : xs.reverse.find? (fun x => x.2.hourId == n) = some x := by
    rw [hxs, List.reverse_append, List.reverse_cons, List.append_assoc, List.find?_append, hnone]
    simp [hid]
  rw [localHour, hfind]

lemma localHour_missed (h : ∀ y ∈ xs, y.2.hourId ≠ n) :
    localHour T xs platform n = fetched T n true false platform := by
  rw [localHour, find?_hourId_missed (fun y hy => h y (List.mem_reverse.mp hy))]

lemma localHour_wellFormed {s : Globals δ} (hc : s.CacheHolds T xs) {h : DataHour}
    (hlocal : localHour T xs platform n = some h) : h.WellFormed T.toSettings := by
  rw [localHour] at hlocal
  split at hlocal
  · rename_i x hfind
    obtain rfl := Option.some.inj hlocal
    exact hc.wellFormed x (List.mem_reverse.mp (List.mem_of_find?_eq_some hfind))
  · exact fetched_wellFormed hlocal

/-- A lookup that creates nothing returns the local copy, which is then cached. -/
lemma datahourGet_local {s : Globals δ} (hc : s.CacheHolds T xs) (n : UInt32) :
    (localHour T xs s.platform n = none ∧ ∃ p,
        (datahourGet T n true false).run s = .ok none { s with platform := p } ∧
        ({ s with platform := p } : Globals δ).CacheHolds T xs) ∨
      ∃ pre a h post q p, localHour T xs s.platform n = some h ∧
        (datahourGet T n true false).run s =
          .ok (some a) { s with dataQueue := q, platform := p } ∧
        ({ s with dataQueue := q, platform := p } : Globals δ).CacheHolds T
          (pre ++ (a, h) :: post) := by
  have hlookup := datahourGet_run hc n true false
  generalize hrun : (datahourGet T n true false).run s = run at hlookup
  cases hlookup with
  | hit pre x post q split id newest result holds =>
    exact Or.inr ⟨[], x.1, x.2, post ++ pre, q, s.platform, localHour_cached split id newest,
      result, holds⟩
  | absent miss nothing result =>
    exact Or.inl ⟨(localHour_missed miss).trans nothing, _, result,
      ⟨hc.queue, hc.capacity, hc.wellFormed⟩⟩
  | added miss hour node q p ys fresh new result holds room =>
    exact Or.inr ⟨ys, node, hour, [], q, p, (localHour_missed miss).trans new, result, holds⟩

end LocalHour

end ZejfMeteo
