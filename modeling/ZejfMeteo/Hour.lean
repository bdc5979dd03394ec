import ZejfMeteo.Defs
import ZejfMeteo.Lib.Run
import ZejfMeteo.Lib.Bytes
import Mathlib.Data.List.Nodup

/-!
# Hours and their file format

The part of `zejf_data.c` that builds an hour of data, writes it to a buffer and reads it
back. Allocation succeeds. Sizes are unbounded numbers: with the settings of the devices
they stay far below the range of `size_t`.
-/

namespace ZejfMeteo
open Runs Bytes

/-- `VARIABLE_INFO_BYTES`. -/
def variableInfoBytes : ℕ := 4 + 2

/-- `DATAHOUR_BYTES`. -/
def datahourBytes : ℕ := 4 + 4 + 2 + 1

def hourCreate (hourId : UInt32) : DataHour :=
  { hourId, checksum := 0, flags := 0, vars := [] }

/-- A new variable: all samples are empty. -/
def Variable.create (info : VariableInfo) : Variable where
  info
  data := List.replicate info.samplesPerHour.toNat valueEmpty
  size_eq := List.length_replicate

def hourAddVariable (cfg : Settings) (hour : DataHour) (info : VariableInfo) :
    ZejfErr × DataHour :=
  if info.samplesPerHour = 0 ∨ cfg.sampleRateMax < info.samplesPerHour.toNat then
    (.invalidSampleRate, hour)
  else if hour.variableCount.toNat = cfg.variablesMax then
    (.variablesMax, hour)
  else if hour.vars.any (fun v => v.info.id == info.id) then
    (.variableAlreadyExists, hour)
  else
    (.ok, { hour with vars := hour.vars ++ [Variable.create info] })

/-- The memory of a variable's sample array. -/
def Variable.bytes (v : Variable) : List UInt8 := v.data.flatMap (fun s => leBytes 4 s.toNat)

/-- The sum of the header fields and of every byte of every sample, modulo 2^32. -/
def hourCalculateChecksum (hour : DataHour) : UInt32 :=
  hour.vars.foldl
    (fun result v => v.bytes.foldl (fun r b => r + b.toUInt32)
      (result + v.info.id.toUInt32 + v.info.samplesPerHour))
    (hour.flags.toUInt32 + hour.hourId + hour.variableCount.toUInt32)

/-- `memcpy` to `data + *ptr`; writing past the allocated block is a fault. -/
def serialize (data : Block) (ptr : ℕ) (val : List UInt8) : Except Fault (Block × ℕ) :=
  match data.store ptr val with
  | some data => .ok (data, ptr + val.length)
  | none => .error .outOfBounds

def serializeVariables : List Variable → Block → ℕ → Except Fault (Block × ℕ)
  | [], data, ptr => .ok (data, ptr)
  | v :: vs, data, ptr => do
    let (data, ptr) ← serialize data ptr (leBytes 4 v.info.samplesPerHour.toNat)
    let (data, ptr) ← serialize data ptr (leBytes 2 v.info.id.toNat)
    let (data, ptr) ← serialize data ptr v.bytes
    serializeVariables vs data ptr

/-- How many bytes `hourSerialize` allocates. -/
def hourTotalSize (hour : DataHour) : ℕ :=
  hour.vars.foldl (fun n v => n + variableInfoBytes + v.info.samplesPerHour.toNat * 4) datahourBytes

/-- Returns the hour with its checksum set, the block, and the advanced `*size`. -/
def hourSerialize (hour : DataHour) (size : ℕ) : Except Fault (DataHour × Block × ℕ) := do
  let data := Block.malloc (hourTotalSize hour)
  let hour := { hour with checksum := hourCalculateChecksum hour }
  let (data, size) ← serialize data size (leBytes 4 hour.checksum.toNat)
  let (data, size) ← serialize data size (leBytes 4 hour.hourId.toNat)
  let (data, size) ← serialize data size (leBytes 2 hour.variableCount.toNat)
  let (data, size) ← serialize data size (leBytes 1 hour.flags.toNat)
  let (data, size) ← serializeVariables hour.vars data size
  return (hour, data, size)

/-- The `size` bytes at `ptr` and the advanced `ptr`, unless the buffer ends before. -/
def deserialize (data : List UInt8) (ptr size totalSize : ℕ) : Option (List UInt8 × ℕ) :=
  if ptr + size > totalSize then none else some ((data.drop ptr).take size, ptr + size)

/-- The first `n` samples stored in some memory. -/
def samplesOf : ℕ → List UInt8 → List Sample
  | 0, _ => []
  | n + 1, bs => UInt32.ofNat (leValue (bs.take 4)) :: samplesOf n (bs.drop 4)

@[simp] lemma length_samplesOf (n : ℕ) (bs : List UInt8) : (samplesOf n bs).length = n := by
  induction n generalizing bs with
  | zero => rfl
  | succ n ih => rw [samplesOf, List.length_cons, ih]

/-- The variable after its sample array has been overwritten. -/
def Variable.fill (v : Variable) (bs : List UInt8) : Variable where
  info := v.info
  data := samplesOf v.info.samplesPerHour.toNat bs
  size_eq := length_samplesOf _ _

def deserializeVariables (cfg : Settings) (data : List UInt8) (totalSize : ℕ) :
    ℕ → DataHour → ℕ → Option (DataHour × ℕ)
  | 0, hour, ptr => some (hour, ptr)
  | n + 1, hour, ptr => do
    let (rate, ptr) ← deserialize data ptr 4 totalSize
    let (id, ptr) ← deserialize data ptr 2 totalSize
    let info : VariableInfo :=
      { samplesPerHour := UInt32.ofNat (leValue rate), id := UInt16.ofNat (leValue id) }
    match hourAddVariable cfg hour info with
    | (.ok, hour) =>
      let (bs, ptr) ← deserialize data ptr (4 * info.samplesPerHour.toNat) totalSize
      deserializeVariables cfg data totalSize n
        { hour with vars := hour.vars.modifyLast (fun v => v.fill bs) } ptr
    | _ => none

def hourDeserialize (cfg : Settings) (data : List UInt8) (totalSize : ℕ) : Option DataHour := do
  let hour := hourCreate 0
  let (checksum, ptr) ← deserialize data 0 4 totalSize
  let (hourId, ptr) ← deserialize data ptr 4 totalSize
  let (count, ptr) ← deserialize data ptr 2 totalSize
  let (flags, ptr) ← deserialize data ptr 1 totalSize
  let hour := { hour with
    checksum := UInt32.ofNat (leValue checksum)
    hourId := UInt32.ofNat (leValue hourId)
    flags := UInt8.ofNat (leValue flags) }
  let (hour, ptr) ← deserializeVariables cfg data totalSize (leValue count) hour ptr
  -- The buffer must be used up and the stored checksum must be that of the contents.
  if ptr = totalSize ∧ hourCalculateChecksum hour = hour.checksum then some hour else none

structure DataHour.WellFormed (cfg : Settings) (hour : DataHour) : Prop where
  count_le : hour.vars.length ≤ cfg.variablesMax
  ids_nodup : (hour.vars.map (fun v => v.info.id)).Nodup
  rate_pos : ∀ v ∈ hour.vars, 0 < v.info.samplesPerHour.toNat
  rate_le : ∀ v ∈ hour.vars, v.info.samplesPerHour.toNat ≤ cfg.sampleRateMax

/-- What is stored about an hour; the checksum is only set when an hour is written. -/
structure DataHour.SameData (a b : DataHour) : Prop where
  hourId : a.hourId = b.hourId
  flags : a.flags = b.flags
  vars : a.vars = b.vars

section AddVariable

variable {cfg : Settings} {hour : DataHour} {info : VariableInfo}

lemma DataHour.WellFormed.variableCount_toNat (h : hour.WellFormed cfg) :
    hour.variableCount.toNat = hour.vars.length := by
  have hlt := cfg.variablesMax_lt
  have hle := h.count_le
  rw [DataHour.variableCount, UInt16.toNat_ofNat']
  omega

lemma hourCreate_wellFormed (cfg : Settings) (hourId : UInt32) :
    (hourCreate hourId).WellFormed cfg :=
  ⟨Nat.zero_le _, List.nodup_nil, by simp [hourCreate], by simp [hourCreate]⟩

/-- What `hourAddVariable` checks before it adds a variable. -/
structure Addable (cfg : Settings) (hour : DataHour) (info : VariableInfo) : Prop where
  rate_pos : 0 < info.samplesPerHour.toNat
  rate_le : info.samplesPerHour.toNat ≤ cfg.sampleRateMax
  room : hour.vars.length < cfg.variablesMax
  new : info.id ∉ hour.vars.map (fun v => v.info.id)

lemma hourAddVariable_ok (h : hour.WellFormed cfg) (ha : Addable cfg hour info) :
    hourAddVariable cfg hour info =
      (.ok, { hour with vars := hour.vars ++ [Variable.create info] }) := by
  have hrate : ¬(info.samplesPerHour = 0 ∨ cfg.sampleRateMax < info.samplesPerHour.toNat) := by
    rintro (h0 | hgt)
    · have hpos := ha.rate_pos
      rw [h0] at hpos
      exact absurd hpos (by decide)
    · have hle := ha.rate_le
      omega
  have hroom : ¬hour.variableCount.toNat = cfg.variablesMax := by
    rw [h.variableCount_toNat]
    exact Nat.ne_of_lt ha.room
  have hany : ¬hour.vars.any (fun v => v.info.id == info.id) = true := by
    intro he
    obtain ⟨v, hv, hid⟩ := List.any_eq_true.mp he
    exact ha.new (List.mem_map.mpr ⟨v, hv, by simpa using hid⟩)
  rw [hourAddVariable, if_neg hrate, if_neg hroom, if_neg hany]

/-- A variable is only ever added after all checks. -/
lemma hourAddVariable_addable {hour' : DataHour} (h : hour.WellFormed cfg)
    (he : hourAddVariable cfg hour info = (.ok, hour')) : Addable cfg hour info := by
  rw [hourAddVariable] at he
  split at he
  · simp at he
  · split at he
    · simp at he
    · split at he
      · simp at he
      · rename_i hrate hroom hany
        have hcount := h.count_le
        rw [h.variableCount_toNat] at hroom
        have hnz : info.samplesPerHour.toNat ≠ 0 := by
          intro h0
          exact hrate (Or.inl (UInt32.toNat_inj.mp h0))
        refine ⟨by omega, by omega, by omega, ?_⟩
        intro hm
        obtain ⟨v, hv, hid⟩ := List.mem_map.mp hm
        exact hany (List.any_eq_true.mpr ⟨v, hv, by simpa using hid⟩)

/-- A refused variable leaves the hour as it was. -/
lemma hourAddVariable_refused {rv : ZejfErr} {hour' : DataHour} (hrv : rv ≠ .ok)
    (he : hourAddVariable cfg hour info = (rv, hour')) : hour' = hour := by
  rw [hourAddVariable] at he
  split at he
  · exact (congrArg Prod.snd he).symm
  · split at he
    · exact (congrArg Prod.snd he).symm
    · split at he
      · exact (congrArg Prod.snd he).symm
      · exact absurd (congrArg Prod.fst he).symm hrv

/-- Adding a variable, with any contents, keeps an hour well formed. -/
lemma DataHour.WellFormed.append (h : hour.WellFormed cfg) {v : Variable}
    (ha : Addable cfg hour v.info) :
    ({ hour with vars := hour.vars ++ [v] } : DataHour).WellFormed cfg where
  count_le := by
    have hroom := ha.room
    simp only [List.length_append, List.length_cons, List.length_nil]
    omega
  ids_nodup := by
    rw [List.map_append]
    refine List.nodup_append.mpr ⟨h.ids_nodup, List.nodup_singleton _, ?_⟩
    intro a ha' b hb e
    have hb' : b = v.info.id := by simpa using hb
    exact ha.new (by rw [← hb', ← e]; exact ha')
  rate_pos := by
    intro w hw
    rcases List.mem_append.mp hw with hw | hw
    · exact h.rate_pos w hw
    · rw [List.mem_singleton.mp hw]
      exact ha.rate_pos
  rate_le := by
    intro w hw
    rcases List.mem_append.mp hw with hw | hw
    · exact h.rate_le w hw
    · rw [List.mem_singleton.mp hw]
      exact ha.rate_le

/-- So does overwriting the samples of a variable. -/
lemma DataHour.WellFormed.modify (hwf : hour.WellFormed cfg) (i : ℕ)
    {f : Variable → Variable} (hf : ∀ v, (f v).info = v.info) :
    ({ hour with vars := hour.vars.modify i f } : DataHour).WellFormed cfg := by
  have hinfo : (hour.vars.modify i f).map (fun v => v.info) = hour.vars.map (fun v => v.info) := by
    refine List.ext_getElem? (fun j => ?_)
    rw [List.getElem?_map, List.getElem?_map, List.getElem?_modify]
    cases hour.vars[j]? with
    | none => rfl
    | some v =>
      by_cases hij : i = j
      · simp [hij, hf]
      · simp [hij]
  have hrates : ∀ v ∈ hour.vars.modify i f, ∃ w ∈ hour.vars, w.info = v.info := by
    intro v hv
    have hm : v.info ∈ hour.vars.map (fun v => v.info) := hinfo ▸ List.mem_map_of_mem hv
    obtain ⟨w, hw, he⟩ := List.mem_map.mp hm
    exact ⟨w, hw, he⟩
  refine ⟨?_, ?_, ?_, ?_⟩
  · rw [List.length_modify]
    exact hwf.count_le
  · have hids := hwf.ids_nodup
    have hcomp : ∀ vs : List Variable,
        vs.map (fun v => v.info.id) = (vs.map (fun v => v.info)).map VariableInfo.id := by
      intro vs
      rw [List.map_map]
      rfl
    rw [hcomp] at hids ⊢
    rwa [hinfo]
  · intro v hv
    obtain ⟨w, hw, he⟩ := hrates v hv
    rw [← he]
    exact hwf.rate_pos w hw
  · intro v hv
    obtain ⟨w, hw, he⟩ := hrates v hv
    rw [← he]
    exact hwf.rate_le w hw

end AddVariable

end ZejfMeteo
