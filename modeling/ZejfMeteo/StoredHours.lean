import ZejfMeteo.Ownership
import ZejfMeteo.DataOperations

/-!
# Stored hours and their samples

Whatever lines come in and whatever the files hold, the cached hours are well formed. The loop
of `calculate_data_check` and the reading of `hour_deserialize` are given once more with every
access to a sample by its index; no index is ever outside its array.
-/

namespace ZejfMeteo
open Runs Bytes

variable {δ : Type} (T : Target δ)

/-- The loop of `calculate_data_check` from sample `log` on. -/
def Variable.countFrom (isProv : Bool) (samplesPerHour logNum : UInt32) :
    ℕ → Variable → UInt32 → UInt32 → Except Fault (UInt32 × Variable)
  | 0, _, _, _ => .error .outOfFuel
  | fuel + 1, v, log, values =>
    if logNum < log then .ok (values, v)
    else if samplesPerHour ≤ log then .ok (values, v)
    else
      match v.data[log.toNat]? with
      | none => .error .outOfBounds
      | some val =>
        if val ≠ valueEmpty then
          countFrom isProv samplesPerHour logNum fuel v (log + 1) (values + 1)
        else if isProv then
          countFrom isProv samplesPerHour logNum fuel (v.setSample log.toNat valueNotMeasured)
            (log + 1) (values + 1)
        else countFrom isProv samplesPerHour logNum fuel v (log + 1) values

def calculateDataCheckAt (info : VariableInfo) (hourNum logNum : UInt32) :
    Run (Globals δ) (ZejfErr × Option UInt32) := do
  match ← datahourGet T hourNum true false with
  | none => return (.null, none)
  | some hour =>
    let h ← readHour hour
    match getVariable h info.id with
    | none => return (.null, none)
    | some index =>
      match h.vars[index]? with
      | none => throw .outOfBounds
      | some var =>
        if info.samplesPerHour ≠ var.info.samplesPerHour then
          return (.invalidSampleRate, none)
        match Variable.countFrom (isProvided T info) info.samplesPerHour logNum
          (info.samplesPerHour.toNat + 1) var 0 0 with
        | .error e => throw e
        | .ok (values, var) =>
          updateHour hour (fun h => { h with vars := h.vars.set index var })
          return (.ok, some values)

section Counting

variable {T} {isProv : Bool} {samplesPerHour logNum log : UInt32} {pre rest : List Sample}

/-- The number of samples after this one. -/
def tally (isProv : Bool) (val : Sample) (values : UInt32) : UInt32 :=
  if val = valueEmpty ∧ isProv = false then values else values + 1

lemma countSamples_cons (isProv : Bool) (n : ℕ) (val : Sample) (data : List Sample)
    (values : UInt32) : countSamples isProv (n + 1) (val :: data) values =
      ((countSamples isProv n data (tally isProv val values)).1,
        markSample isProv val :: (countSamples isProv n data (tally isProv val values)).2) := by
  by_cases hval : val = valueEmpty
  · cases isProv <;> simp [countSamples, tally, markSample, hval]
  · simp [countSamples, tally, markSample, hval]

/-- One round of the loop looks at one sample of the array. -/
lemma Variable.countFrom_succ {v : Variable} {val : Sample} (fuel : ℕ) (hend : ¬logNum < log)
    (hmore : ¬samplesPerHour ≤ log) (hval : v.data[log.toNat]? = some val) (values : UInt32) :
    countFrom isProv samplesPerHour logNum (fuel + 1) v log values =
      countFrom isProv samplesPerHour logNum fuel (v.setSample log.toNat (markSample isProv val))
        (log + 1) (tally isProv val values) := by
  have hsame : v.setSample log.toNat val = v := by
    obtain ⟨hlt, hget⟩ := List.getElem?_eq_some_iff.mp hval
    refine Variable.ext_data rfl ?_
    rw [setSample_data, ← hget, List.set_getElem_self]
  rw [countFrom, if_neg hend, if_neg hmore, hval]
  simp only
  by_cases hempty : val = valueEmpty
  · subst hempty
    rw [if_neg (not_not.mpr rfl)]
    cases isProv with
    | false => simp [tally, markSample, hsame]
    | true => simp [tally, markSample]
  · rw [if_pos hempty]
    simp [tally, markSample, hempty, hsame]

/-- The loop stays within the array, and counts and marks what is left of it. -/
lemma Variable.countFrom_eq {fuel : ℕ} {v : Variable}
    (hrate : v.info.samplesPerHour = samplesPerHour) (hdata : v.data = pre ++ rest)
    (hlog : pre.length = log.toNat) (hfuel : rest.length < fuel)
    (values : UInt32) : ∃ w, countFrom isProv samplesPerHour logNum fuel v log values =
        .ok ((countSamples isProv (logNum.toNat + 1 - log.toNat) rest values).1, w) ∧
      w.info = v.info ∧
      w.data = pre ++ (countSamples isProv (logNum.toNat + 1 - log.toNat) rest values).2 := by
  induction fuel generalizing v pre rest log values with
  | zero => exact absurd hfuel (Nat.not_lt_zero _)
  | succ fuel ih =>
    have hsize := v.size_eq
    rw [hrate, hdata, List.length_append, hlog] at hsize
    by_cases hend : logNum < log
    · have hnone : logNum.toNat + 1 - log.toNat = 0 := by
        have hlt := UInt32.lt_iff_toNat_lt.mp hend
        omega
      rw [countFrom, if_pos hend, hnone]
      exact ⟨v, rfl, rfl, hdata⟩
    have hle : log.toNat ≤ logNum.toNat := UInt32.le_iff_toNat_le.mp (UInt32.not_lt.mp hend)
    have hcount : logNum.toNat + 1 - log.toNat = logNum.toNat - log.toNat + 1 := by omega
    rw [hcount]
    cases rest with
    | nil =>
      have hall : samplesPerHour ≤ log := UInt32.le_iff_toNat_le.mpr (by simp at hsize; omega)
      rw [countFrom, if_neg hend, if_pos hall]
      exact ⟨v, rfl, rfl, hdata⟩
    | cons val rest =>
      rw [List.length_cons] at hsize hfuel
      have hbound := samplesPerHour.toNat_lt
      have hmore : ¬samplesPerHour ≤ log := by
        rw [UInt32.le_iff_toNat_le]
        omega
      have hval : v.data[log.toNat]? = some val := by
        rw [hdata, ← hlog]
        simp
      have hset : (v.setSample log.toNat (markSample isProv val)).data =
          pre ++ [markSample isProv val] ++ rest := by
        rw [setSample_data, hdata, ← hlog]
        simp
      have hnext : (log + 1).toNat = log.toNat + 1 := by
        rw [UInt32.toNat_add, UInt32.toNat_one, Nat.mod_eq_of_lt (by omega)]
      have hpre : (pre ++ [markSample isProv val]).length = (log + 1).toNat := by
        rw [hnext, ← hlog]
        simp
      have hleft : logNum.toNat + 1 - (log + 1).toNat = logNum.toNat - log.toNat := by omega
      obtain ⟨w, hw, hinfo, hwdata⟩ := ih (v := v.setSample log.toNat (markSample isProv val)) hrate
        hset hpre (Nat.lt_of_succ_lt_succ hfuel) (tally isProv val values)
      rw [hleft] at hw hwdata
      rw [countFrom_succ fuel hend hmore hval, countSamples_cons, hw]
      exact ⟨w, rfl, hinfo, hwdata.trans (List.append_cons _ _ _).symm⟩

/-- The loop as a whole. -/
lemma Variable.countFrom_zero {v : Variable} (hrate : v.info.samplesPerHour = samplesPerHour) :
    countFrom isProv samplesPerHour logNum (samplesPerHour.toNat + 1) v 0 0 =
      .ok (v.count isProv logNum, v.counted isProv logNum) := by
  have hfuel : v.data.length < samplesPerHour.toNat + 1 := by
    rw [v.size_eq, hrate]
    exact Nat.lt_succ_self _
  have hzero : ([] : List Sample).length = (0 : UInt32).toNat := rfl
  obtain ⟨w, hw, hinfo, hdata⟩ := countFrom_eq hrate (List.nil_append v.data).symm hzero hfuel 0
  rw [hw, Variable.ext_data (v := w) (w := v.counted isProv logNum) hinfo hdata]
  rfl

lemma readHour_inv {s t : Globals δ} {a : ℕ} {h : DataHour} (hrun : (readHour a).run s = .ok h t) :
    t = s ∧ ∃ c, s.dataQueue.nodes.cells a = some c ∧ c.item = h := by
  cases hc : s.dataQueue.nodes.cells a with
  | none =>
    have hdead := run_zoom_error (l := Globals.dataQueueLens) (s := s)
      (run_zoom_error (l := LinkedList.nodesLens) (s := s.dataQueue) (Heap.read_dead hc))
    have herror := run_bind_error (f := fun c : Cell DataHour => pure c.item) hdead
    cases hrun.symm.trans herror
  | some c =>
    have hlive := run_zoom_ok (l := Globals.dataQueueLens) (s := s)
      (run_zoom_ok (l := LinkedList.nodesLens) (s := s.dataQueue) (Heap.read_run hc))
    have hok := run_bind_ok (f := fun c : Cell DataHour => pure c.item) hlive
    obtain ⟨rfl, rfl⟩ := EStateM.Result.ok.inj (hrun.symm.trans hok)
    exact ⟨rfl, c, rfl, rfl⟩

/-- Only what a change makes of the hour that is there matters. -/
lemma updateHour_congr {s : Globals δ} {a : ℕ} {c : Cell DataHour} {f g : DataHour → DataHour}
    (hc : s.dataQueue.nodes.cells a = some c) (hfg : f c.item = g c.item) :
    (updateHour a f).run s = (updateHour a g).run s := by
  have hlive : (s.dataQueue.nodes.cells a).isSome := by
    rw [hc]
    rfl
  have hmodify : s.dataQueue.nodes.modify a (fun c => { c with item := f c.item }) =
      s.dataQueue.nodes.modify a (fun c => { c with item := g c.item }) := by
    refine Heap.ext (fun b => ?_) rfl
    rw [Heap.modify_cells, Heap.modify_cells]
    by_cases hb : b = a
    · rw [if_pos hb, if_pos hb, hb, hc]
      simp [hfg]
    · rw [if_neg hb, if_neg hb]
  have hrun : ∀ f : DataHour → DataHour, (updateHour a f).run s = .ok () (Globals.dataQueueLens.set
      (LinkedList.nodesLens.set (s.dataQueue.nodes.modify a (fun c => { c with item := f c.item }))
        s.dataQueue) s) := fun f =>
    run_zoom_ok (l := Globals.dataQueueLens) (run_zoom_ok (l := LinkedList.nodesLens)
      (Heap.update_run _ hlive))
  rw [hrun, hrun, hmodify]

/-- Counting by index is what `calculateDataCheck` does, in every state. -/
theorem calculateDataCheckAt_eq (info : VariableInfo) (hourNum logNum : UInt32) :
    calculateDataCheckAt T info hourNum logNum = calculateDataCheck T info hourNum logNum := by
  refine congrArg (datahourGet T hourNum true false >>= ·) (funext ?_)
  intro found
  cases found with
  | none => rfl
  | some hour =>
    funext s
    show EStateM.run (_ >>= _) s = EStateM.run (_ >>= _) s
    cases hread : (readHour hour).run s with
    | error e t => rw [run_bind_error hread, run_bind_error hread]
    | ok h t =>
      obtain ⟨rfl, c, hc, rfl⟩ := readHour_inv hread
      rw [run_bind_ok hread, run_bind_ok hread]
      cases getVariable c.item info.id with
      | none => rfl
      | some index =>
        cases hvar : c.item.vars[index]? with
        | none => simp only [hvar]
        | some var =>
          simp only [hvar]
          by_cases hrate : info.samplesPerHour ≠ var.info.samplesPerHour
          · rw [if_pos hrate, if_pos hrate]
          rw [if_neg hrate, if_neg hrate,
            Variable.countFrom_zero (not_not.mp hrate).symm]
          simp only [EStateM.run_bind]
          rw [updateHour_congr hc]
          refine congrArg (fun vars => { c.item with vars := vars }) ?_
          rw [List.modify_eq_set_getElem?, hvar]
          rfl

end Counting

/-- `memcpy` from `data + *ptr` to a destination with `room` bytes: reading past the buffer or
writing past the destination is a fault. -/
def deserializeAt (room : ℕ) (data : List UInt8) (ptr size totalSize : ℕ) :
    OptionT (Except Fault) (List UInt8 × ℕ) :=
  if ptr + size > totalSize then failure
  else if room < size ∨ data.length < ptr + size then throwThe Fault .outOfBounds
  else return ((data.drop ptr).take size, ptr + size)

def deserializeVariablesAt (cfg : Settings) (data : List UInt8) (totalSize : ℕ) :
    ℕ → DataHour → ℕ → OptionT (Except Fault) (DataHour × ℕ)
  | 0, hour, ptr => return (hour, ptr)
  | n + 1, hour, ptr => do
    let (rate, ptr) ← deserializeAt 4 data ptr 4 totalSize
    let (id, ptr) ← deserializeAt 2 data ptr 2 totalSize
    let info : VariableInfo :=
      { samplesPerHour := UInt32.ofNat (leValue rate), id := UInt16.ofNat (leValue id) }
    match hourAddVariable cfg hour info with
    | (.ok, hour) =>
      let last := hour.variableCount.toNat - 1
      match hour.vars[last]? with
      | none => throwThe Fault .outOfBounds
      | some v =>
        let (bs, ptr) ← deserializeAt (4 * v.data.length) data ptr
          (4 * info.samplesPerHour.toNat) totalSize
        deserializeVariablesAt cfg data totalSize n
          { hour with vars := hour.vars.set last (v.fill bs) } ptr
    | _ => failure

def hourDeserializeAt (cfg : Settings) (data : List UInt8) (totalSize : ℕ) :
    OptionT (Except Fault) DataHour := do
  let hour := hourCreate 0
  let (checksum, ptr) ← deserializeAt 4 data 0 4 totalSize
  let (hourId, ptr) ← deserializeAt 4 data ptr 4 totalSize
  let (count, ptr) ← deserializeAt 2 data ptr 2 totalSize
  let (flags, ptr) ← deserializeAt 1 data ptr 1 totalSize
  let hour := { hour with
    checksum := UInt32.ofNat (leValue checksum)
    hourId := UInt32.ofNat (leValue hourId)
    flags := UInt8.ofNat (leValue flags) }
  let (hour, ptr) ← deserializeVariablesAt cfg data totalSize (leValue count) hour ptr
  if ptr = totalSize ∧ hourCalculateChecksum hour = hour.checksum then return hour else failure

section Reading

variable {α β : Type} {cfg : Settings} {data : List UInt8}

/-- One part after the other, when neither stops at a fault. -/
lemma noFault_bind {o : Option α} {f : α → OptionT (Except Fault) β} {g : α → Option β}
    (h : ∀ a, o = some a → f a = OptionT.mk (.ok (g a))) :
    (OptionT.mk (.ok o) >>= f : OptionT (Except Fault) β) = OptionT.mk (.ok (o >>= g)) := by
  cases o with
  | none => rfl
  | some a => exact h a rfl

lemma deserializeAt_eq {room ptr size : ℕ} (hroom : size ≤ room) :
    deserializeAt room data ptr size data.length =
      OptionT.mk (.ok (deserialize data ptr size data.length)) := by
  unfold deserializeAt deserialize
  by_cases hend : ptr + size > data.length
  · rw [if_pos hend, if_pos hend]
    rfl
  · rw [if_neg hend, if_neg hend, if_neg (by omega)]
    rfl

lemma deserializeAt_bind {room ptr size : ℕ} (hroom : size ≤ room)
    {f : List UInt8 × ℕ → OptionT (Except Fault) β} {g : List UInt8 × ℕ → Option β}
    (h : ∀ bs ptr, f (bs, ptr) = OptionT.mk (.ok (g (bs, ptr)))) :
    (deserializeAt room data ptr size data.length >>= f) =
      OptionT.mk (.ok (deserialize data ptr size data.length >>= g)) := by
  rw [deserializeAt_eq hroom]
  exact noFault_bind (fun x _ => h x.1 x.2)

/-- The variable that has just been added is the last one, and has room for its samples. -/
lemma deserializeVariablesAt_eq {n : ℕ} {hour : DataHour} {ptr : ℕ} (hw : hour.WellFormed cfg) :
    deserializeVariablesAt cfg data data.length n hour ptr =
      OptionT.mk (.ok (deserializeVariables cfg data data.length n hour ptr)) := by
  induction n generalizing hour ptr with
  | zero => rfl
  | succ n ih =>
    rw [deserializeVariablesAt, deserializeVariables]
    apply deserializeAt_bind (Nat.le_refl _)
    intro rate ptr
    apply deserializeAt_bind (Nat.le_refl _)
    intro id ptr
    generalize hinfo : (⟨UInt32.ofNat (leValue rate), UInt16.ofNat (leValue id)⟩ : VariableInfo) =
      info
    have hrate : UInt32.ofNat (leValue rate) = info.samplesPerHour := by rw [← hinfo]
    dsimp only
    rw [hinfo, hrate]
    cases hadd : hourAddVariable cfg hour info with
    | mk rv hour' =>
    by_cases hrv : rv = .ok
    · subst hrv
      have haddable := hourAddVariable_addable hw hadd
      obtain rfl := (Prod.mk.inj (hadd.symm.trans (hourAddVariable_ok hw haddable))).2
      have hw' := hw.append (v := Variable.create info) haddable
      have hlast : (DataHour.variableCount
          { hour with vars := hour.vars ++ [Variable.create info] }).toNat - 1 =
            hour.vars.length := by
        rw [hw'.variableCount_toNat]
        simp
      have hroom : 4 * info.samplesPerHour.toNat ≤ 4 * (Variable.create info).data.length := by
        rw [(Variable.create info).size_eq]
        exact Nat.le_refl _
      simp only [hlast, List.getElem?_concat_length]
      apply deserializeAt_bind hroom
      intro bs ptr
      simp only [List.set_append_right _ _ (Nat.le_refl _), Nat.sub_self, List.set_cons_zero,
        List.modifyLast_concat]
      exact ih (hw.append (v := (Variable.create info).fill bs) haddable)
    · cases rv <;> first | exact absurd rfl hrv | rfl

/-- Reading a file by index is what `hourDeserialize` does. -/
theorem hourDeserializeAt_eq (cfg : Settings) (data : List UInt8) :
    hourDeserializeAt cfg data data.length =
      OptionT.mk (.ok (hourDeserialize cfg data data.length)) := by
  unfold hourDeserializeAt hourDeserialize
  apply deserializeAt_bind (Nat.le_refl _)
  intro checksum ptr
  apply deserializeAt_bind (Nat.le_refl _)
  intro hourId ptr
  apply deserializeAt_bind (Nat.le_refl _)
  intro count ptr
  apply deserializeAt_bind (Nat.le_refl _)
  intro flags ptr
  dsimp only
  refine (congrArg (· >>= _) (deserializeVariablesAt_eq ?_)).trans (noFault_bind ?_)
  · exact ⟨Nat.zero_le _, List.nodup_nil, by simp [hourCreate], by simp [hourCreate]⟩
  rintro ⟨hour, ptr⟩ -
  simp only
  split <;> rfl

end Reading

/-- What a device does, with the calls that use its hours directly. -/
inductive DeviceOp
  | packet (op : PacketOp)
  | getVal (info : VariableInfo) (hourNumber logNumber : UInt32) (load createNew : Bool)
  | check (info : VariableInfo) (hourNum logNum : UInt32)
  | get (hourNumber : UInt32) (load create : Bool)
  | save
  | checkRoutes (time : UInt32)

def DeviceOp.run : DeviceOp → Run (Device δ) Unit
  | .packet op => do
    let _ ← op.run T
  | .getVal info hourNumber logNumber load createNew => zoom Device.globalsLens do
    let _ ← dataGetVal T info hourNumber logNumber load createNew
  | .check info hourNum logNum => zoom Device.globalsLens do
    let _ ← calculateDataCheck T info hourNum logNum
  | .get hourNumber load create => zoom Device.globalsLens do
    let _ ← datahourGet T hourNumber load create
  | .save => zoom Device.globalsLens (dataSave T)
  | .checkRoutes time => zoom Device.globalsLens (routingTableCheck T time)

def DeviceOp.Allowed (is : Heap Interface) : DeviceOp → Prop
  | .packet op => op.Allowed T is
  | _ => True

/-- Every cached hour has at most `VARIABLES_MAX` variables of different ids, and every
variable has an array of as many samples as its rate says, which is between 1 and
`SAMPLE_RATE_MAX`. -/
def Globals.HoursSound (s : Globals δ) : Prop :=
  ∀ x ∈ s.cached, x.2.WellFormed T.toSettings ∧ x.2.variableCount.toNat = x.2.vars.length ∧
    ∀ v ∈ x.2.vars, v.data.length = v.info.samplesPerHour.toNat

/-- No function stops at a fault when it is called with any arguments. -/
structure Globals.InBounds (s : Globals δ) : Prop where
  log : ∀ target hourNumber sampleNumber value time announce, ∃ r t,
    (dataLog T target hourNumber sampleNumber value time announce).run s = .ok r t
  getVal : ∀ info hourNumber logNumber load createNew, ∃ r t,
    (dataGetVal T info hourNumber logNumber load createNew).run s = .ok r t
  check : ∀ info hourNum logNum, ∃ r t,
    (calculateDataCheckAt T info hourNum logNum).run s = .ok r t

section Devices

variable {T} {I : ℕ → Bool} {es : List RoutingEntry} {rs : List Requested} {L : ℕ → Prop}
  {E : Fault → Prop} {s : Globals δ} {is : Heap Interface} {d : Device δ}

lemma Settles.hoursSound (hs : Settles T I L s) : s.HoursSound T := by
  obtain ⟨es, rs, hs⟩ := hs
  obtain ⟨xs, hc⟩ := hs.cache
  intro x hx
  rw [hc.cached_eq] at hx
  have hwf := hc.wellFormed x hx
  exact ⟨hwf, hwf.variableCount_toNat, fun v _ => v.size_eq⟩

lemma Settles.returns {α : Type} {x : Run (Globals δ) α} (hs : Settles T I L s)
    (h : ∀ es rs, Triple (fun _ => False) (Settled T I es rs L) x
      (fun _ => Settled T I es rs L)) : ∃ r t, x.run s = .ok r t := by
  obtain ⟨es, rs, hs⟩ := hs
  rcases h es rs s hs with ⟨r, t, hrun, -⟩ | ⟨_, _, -, hno⟩
  · exact ⟨r, t, hrun⟩
  · exact hno.elim

lemma Settles.inBounds (hT : T.Separate) (hs : Settles T I L s) : s.InBounds T where
  log target n k value time announce :=
    hs.returns (fun _ _ => dataLog_settled hT target n k value time announce)
  getVal info n k load createNew :=
    hs.returns (fun _ _ => dataGetVal_settled hT info n k load createNew)
  check info n k := by
    rw [calculateDataCheckAt_eq]
    exact hs.returns (fun _ _ => calculateDataCheck_settled hT info n k)

lemma dataSave_settled (hT : T.Separate) :
    Triple E (Settled T I es rs L) (dataSave T) (fun _ => Settled T I es rs L) := by
  apply Triple.of_run
  intro s hs
  obtain ⟨xs, hc⟩ := hs.cache
  obtain ⟨ys, q, p, hrun, hc', hlinks⟩ := dataSave_keeps
    (I := fun t xs => t.CacheHolds T xs ∧
      T.getAllInterfaces t.platform = T.getAllInterfaces s.platform) (fun _ _ ht => ht.1) (by
        rintro t pre a h post ⟨ht, hlinks⟩
        rcases dataSaveHour_cases ht with ⟨-, hrun⟩ | ⟨-, rv, q, p, h', hsave, -, hrun, ht'⟩
        · exact ⟨t.dataQueue, t.platform, h, hrun, ht, hlinks⟩
        · refine ⟨q, p, h', hrun, ht', ?_⟩
          have hsame := hT.save h.hourId (hourBytes h.sealed) t.platform
          rw [hsave] at hsame
          exact hsame.trans hlinks) ⟨hc, rfl⟩
  exact ⟨(), _, hrun, hs.data hlinks hc'⟩

lemma routingTableCheck_settles (hT : T.Separate) (time : UInt32) :
    Triple E (Settles T I (fun _ => False)) (routingTableCheck T time)
      (fun _ => Settles T I (fun _ => False)) := by
  apply Triple.of_map (fun _ => NetResult.checked)
  exact netOp_settles hT (.check time) (fun _ _ => trivial)

/-- Every operation returns and keeps the device in order, unless the packet that it takes from
the receive queue is fatal. -/
lemma DeviceOp.settles (hT : T.Separate) (hI : I = fun a => (is.cells a).isSome) {op : DeviceOp}
    (hop : op.Allowed T is) (hd : Settles T I (fun _ => False) d.globals) :
    (∃ d', (op.run T).run d = .ok () d' ∧ Settles T I (fun _ => False) d'.globals) ∨
    ∃ clock time q rest e d', op = .packet (.processPackets clock time) ∧
      d.globals.rxPackets = q :: rest ∧ Fatal d.globals.routes q.packet e ∧
      (op.run T).run d = .error e d' := by
  have hreturns : ∀ {x : Run (Globals δ) Unit}, Triple (fun _ => False)
      (Settles T I (fun _ => False)) x (fun _ => Settles T I (fun _ => False)) →
      ∃ d', (zoom Device.globalsLens x).run d = .ok () d' ∧
        Settles T I (fun _ => False) d'.globals := by
    intro x hx
    rcases globals_triple hx d hd with ⟨_, d', hrun, hd'⟩ | ⟨_, _, -, hno⟩
    · exact ⟨d', hrun, hd'⟩
    · exact hno.elim
  cases op with
  | packet op =>
    rcases PacketOp.accounts hT hI hop hd with
      ⟨r, d', hrun, hd'⟩ | ⟨clock, time, q, rest, e, d', rfl, hrx, hfatal, hrun⟩
    · exact Or.inl ⟨d', run_bind_ok hrun, hd'⟩
    · exact Or.inr ⟨clock, time, q, rest, e, d', rfl, hrx, hfatal, run_bind_error hrun⟩
  | getVal info n k load createNew =>
    exact Or.inl (hreturns (Triple.map (fun _ => ()) (settles_triple (fun _ _ =>
      settles_of (dataGetVal_settled hT info n k load createNew)))))
  | check info n k =>
    exact Or.inl (hreturns (Triple.map (fun _ => ()) (settles_triple (fun _ _ =>
      settles_of (calculateDataCheck_settled hT info n k)))))
  | get n load create =>
    refine Or.inl (hreturns (Triple.map (fun _ => ()) (settles_triple (fun _ _ => ?_))))
    exact (datahourGet_settled hT n load create).conseq (fun _ hs => hs)
      (fun _ _ hs => hs.1.settles)
  | save => exact Or.inl (hreturns (settles_triple (fun _ _ => settles_of (dataSave_settled hT))))
  | checkRoutes time => exact Or.inl (hreturns (routingTableCheck_settles hT time))

/-- **Stored hours stay well formed and no sample access is out of bounds.** After any operations
every cached hour is well formed. No function that uses samples stops at a fault, and where
`calculate_data_check` and `hour_deserialize` go by index they do what the model does. The next
operation returns, unless the packet that it handles has no message or finds the routing entry's
list full. -/
theorem storedHours_sound (hT : T.Separate) {platform : δ}
    (hlinks : ∀ a ∈ T.getAllInterfaces platform, (is.cells a).isSome)
    {tr : List (DeviceOp × Unit)} (htrace : Trace (DeviceOp.run T) (Device.start T platform is) tr d)
    (hallowed : ∀ x ∈ tr, x.1.Allowed T is) :
    d.globals.HoursSound T ∧ d.globals.InBounds T ∧
    (∀ info hourNum logNum, calculateDataCheckAt T info hourNum logNum =
      calculateDataCheck T info hourNum logNum) ∧
    (∀ file, (hourDeserializeAt T.toSettings file file.length).run =
      .ok (hourDeserialize T.toSettings file file.length)) ∧
    ∀ op : DeviceOp, op.Allowed T is → (∃ d', (op.run T).run d = .ok () d') ∨
      ∃ clock time q rest e d', op = .packet (.processPackets clock time) ∧
        d.globals.rxPackets = q :: rest ∧ Fatal d.globals.routes q.packet e ∧
        (op.run T).run d = .error e d' := by
  have hd : Settles T (fun a => (is.cells a).isSome) (fun _ => False) d.globals := by
    refine htrace.invariant (A := DeviceOp.Allowed T is)
      (I := fun _ d => Settles T (fun a => (is.cells a).isSome) (fun _ => False) d.globals)
      hallowed (start_settles platform hlinks) ?_
    intro _ t op r u hop ht hrun
    rcases DeviceOp.settles hT rfl hop ht with
      ⟨u', hrun', hu⟩ | ⟨_, _, _, _, _, _, _, _, _, hfault⟩
    · obtain ⟨-, rfl⟩ := EStateM.Result.ok.inj (hrun.symm.trans hrun')
      exact hu
    · cases hrun.symm.trans hfault
  refine ⟨hd.hoursSound, hd.inBounds hT, calculateDataCheckAt_eq, ?_, ?_⟩
  · intro file
    rw [hourDeserializeAt_eq]
    rfl
  · intro op hop
    rcases DeviceOp.settles hT rfl hop hd with ⟨d', hrun, -⟩ | hfatal
    · exact Or.inl ⟨d', hrun⟩
    · exact Or.inr hfatal

end Devices

/-- A server with three bytes in the file of hour 3. -/
abbrev serverDisk := Target.disk Settings.zejfMeteo

def shortFile : UInt32 → Option (List UInt8) := fun n => if n = 3 then some [1, 2, 3] else none

/-- It hears of device 5, finds nothing in that file and logs to another hour. -/
def afterShortFile : List DeviceOp :=
  [.packet hearOfFive, .get 3 true true, .packet (.log ⟨4, 7⟩ 1 0 5 0 false), .check ⟨4, 7⟩ 1 3]

def shortFileRead : Device (UInt32 → Option (List UInt8)) :=
  leaves ((serve (DeviceOp.run serverDisk) afterShortFile).run
    (Device.start serverDisk shortFile oneLink))

theorem shortFileRead_sound : shortFileRead.globals.cached.map (fun x => x.2.hourId) = [1] ∧
    shortFileRead.globals.HoursSound serverDisk ∧ shortFileRead.globals.InBounds serverDisk := by
  have hserved : outcome ((serve (DeviceOp.run serverDisk) afterShortFile).run
      (Device.start serverDisk shortFile oneLink)) = some [(), (), (), ()] := by decide +kernel
  have htrace := (Trace.of_serve (run_eq_of_outcome hserved)).1
  have hsound := storedHours_sound ⟨⟨by decide, fun _ _ _ _ => rfl⟩, fun _ _ => rfl,
    fun _ _ _ => rfl⟩ (fun a ha => by cases ha) htrace ?_
  · exact ⟨by decide +kernel, hsound.1, hsound.2.1⟩
  intro x hx
  simp only [afterShortFile, List.zip_cons_cons, List.zip_nil_right, List.mem_cons,
    List.not_mem_nil, or_false] at hx
  rcases hx with rfl | rfl | rfl | rfl
  · rfl
  · trivial
  · trivial
  · trivial

end ZejfMeteo
