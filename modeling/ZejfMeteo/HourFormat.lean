import ZejfMeteo.Hour
import Mathlib.Data.List.ModifyLast

/-!
# The hour file format

`hourBytes` is the format as a list of bytes. Writing an hour fills exactly the allocated
block with these bytes, and reading inverts writing in both directions.
-/

namespace ZejfMeteo
open Runs Bytes

def variableBytes (v : Variable) : List UInt8 :=
  leBytes 4 v.info.samplesPerHour.toNat ++ leBytes 2 v.info.id.toNat ++ v.bytes

def headerBytes (hour : DataHour) : List UInt8 :=
  leBytes 4 hour.checksum.toNat ++ leBytes 4 hour.hourId.toNat ++
    leBytes 2 hour.variableCount.toNat ++ leBytes 1 hour.flags.toNat

/-- The file of an hour. -/
def hourBytes (hour : DataHour) : List UInt8 :=
  headerBytes hour ++ hour.vars.flatMap variableBytes

/-- The hour with the checksum of its contents. -/
def DataHour.sealed (hour : DataHour) : DataHour :=
  { hour with checksum := hourCalculateChecksum hour }

@[simp] lemma DataHour.sealed_hourId (hour : DataHour) : hour.sealed.hourId = hour.hourId := rfl

@[simp] lemma DataHour.sealed_flags (hour : DataHour) : hour.sealed.flags = hour.flags := rfl

@[simp] lemma DataHour.sealed_vars (hour : DataHour) : hour.sealed.vars = hour.vars := rfl

@[simp] lemma DataHour.sealed_checksum (hour : DataHour) :
    hour.sealed.checksum = hourCalculateChecksum hour := rfl

lemma length_flatMap_leBytes (xs : List Sample) :
    (xs.flatMap (fun s => leBytes 4 s.toNat)).length = 4 * xs.length := by
  induction xs with
  | nil => rfl
  | cons x xs ih =>
    rw [List.flatMap_cons, List.length_append, ih, length_leBytes, List.length_cons]
    ring

lemma Variable.length_bytes (v : Variable) : v.bytes.length = 4 * v.info.samplesPerHour.toNat := by
  rw [Variable.bytes, length_flatMap_leBytes, v.size_eq]

lemma length_variableBytes (v : Variable) :
    (variableBytes v).length = variableInfoBytes + v.info.samplesPerHour.toNat * 4 := by
  simp only [variableBytes, List.length_append, length_leBytes, v.length_bytes, variableInfoBytes]
  ring

@[simp] lemma length_headerBytes (hour : DataHour) : (headerBytes hour).length = datahourBytes := by
  simp [headerBytes, datahourBytes]

lemma foldl_totalSize (vs : List Variable) (n : ℕ) :
    vs.foldl (fun n v => n + variableInfoBytes + v.info.samplesPerHour.toNat * 4) n =
      n + (vs.flatMap variableBytes).length := by
  induction vs generalizing n with
  | nil => rfl
  | cons v vs ih =>
    rw [List.foldl_cons, ih, List.flatMap_cons, List.length_append, length_variableBytes]
    ring

/-- `hourSerialize` allocates exactly the length of the format. -/
lemma hourTotalSize_eq (hour : DataHour) : hourTotalSize hour = (hourBytes hour).length := by
  rw [hourTotalSize, foldl_totalSize, hourBytes, List.length_append, length_headerBytes]

/-- Writing at the end of what is already written extends it. -/
lemma serialize_filled (bs cs : List UInt8) (r : ℕ) :
    serialize (Block.filled bs (cs.length + r)) bs.length cs =
      .ok (Block.filled (bs ++ cs) r, (bs ++ cs).length) := by
  rw [serialize, Block.store_filled, List.length_append]

lemma serialize_filled_le (bs : List UInt8) (k n r : ℕ) :
    serialize (Block.filled bs (k + r)) bs.length (leBytes k n) =
      .ok (Block.filled (bs ++ leBytes k n) r, (bs ++ leBytes k n).length) := by
  have h := serialize_filled bs (leBytes k n) r
  rwa [length_leBytes] at h

lemma serializeVariables_filled (vs : List Variable) (bs : List UInt8) (r : ℕ) :
    serializeVariables vs (Block.filled bs ((vs.flatMap variableBytes).length + r)) bs.length =
      .ok (Block.filled (bs ++ vs.flatMap variableBytes) r,
        (bs ++ vs.flatMap variableBytes).length) := by
  induction vs generalizing bs with
  | nil => simp [serializeVariables]
  | cons v vs ih =>
    have hlen : ((v :: vs).flatMap variableBytes).length + r =
        4 + (2 + (v.bytes.length + ((vs.flatMap variableBytes).length + r))) := by
      simp only [List.flatMap_cons, List.length_append, variableBytes, length_leBytes]
      ring
    rw [serializeVariables, hlen, serialize_filled_le]
    simp only [bind, Except.bind]
    rw [serialize_filled_le]
    simp only
    rw [serialize_filled]
    simp only
    rw [ih]
    simp [variableBytes, List.append_assoc]

/-- Writing an hour fills the allocated block exactly, with the bytes of the format. -/
theorem hourSerialize_eq (hour : DataHour) : hourSerialize hour 0 =
    .ok (hour.sealed, Block.filled (hourBytes hour.sealed) 0, hourTotalSize hour) := by
  have hm : Block.malloc (hourTotalSize hour) =
      Block.filled [] (4 + (4 + (2 + (1 + ((hour.vars.flatMap variableBytes).length + 0))))) := by
    rw [Block.malloc_eq, hourTotalSize_eq, hourBytes, List.length_append, length_headerBytes,
      datahourBytes]
    congr 1
    ring
  have h0 := fun n r => serialize_filled_le [] 4 n r
  simp only [List.nil_append, List.length_nil] at h0
  rw [hourSerialize, hm]
  simp only [bind, Except.bind]
  rw [h0]
  simp only
  rw [serialize_filled_le]
  simp only
  rw [serialize_filled_le]
  simp only
  rw [serialize_filled_le]
  simp only
  rw [serializeVariables_filled, hourTotalSize_eq]
  simp [pure, Except.pure, hourBytes, headerBytes, DataHour.sealed, DataHour.variableCount,
    List.append_assoc]

/-- Reading the piece `bs` that follows `pre` in the buffer. -/
lemma deserialize_of_eq {data bs : List UInt8} (pre rest : List UInt8) {n : ℕ}
    (h : data = pre ++ (bs ++ rest)) (hn : bs.length = n) :
    deserialize data pre.length n data.length = some (bs, (pre ++ bs).length) := by
  subst h hn
  have hlen : ¬pre.length + bs.length > (pre ++ (bs ++ rest)).length := by
    simp only [List.length_append]
    omega
  rw [deserialize, if_neg hlen, List.drop_left, List.take_left, List.length_append]

lemma samplesOf_flatMap (xs : List Sample) (rest : List UInt8) :
    samplesOf xs.length (xs.flatMap (fun s => leBytes 4 s.toNat) ++ rest) = xs := by
  induction xs with
  | nil => rfl
  | cons x xs ih =>
    have hx : leValue (leBytes 4 x.toNat) = x.toNat := leValue_leBytes 4 _ x.toNat_lt
    rw [List.flatMap_cons, List.append_assoc, List.length_cons, samplesOf,
      List.take_left' (length_leBytes 4 _), List.drop_left' (length_leBytes 4 _), ih, hx,
      UInt32.ofNat_toNat]

lemma samplesOf_bytes (n : ℕ) (bs : List UInt8) (h : bs.length = 4 * n) :
    (samplesOf n bs).flatMap (fun s => leBytes 4 s.toNat) = bs := by
  induction n generalizing bs with
  | zero =>
    have hnil : bs = [] := List.length_eq_zero_iff.mp (by simpa using h)
    rw [hnil]
    rfl
  | succ n ih =>
    have htake : (bs.take 4).length = 4 := by
      rw [List.length_take]
      omega
    have hdrop : (bs.drop 4).length = 4 * n := by
      rw [List.length_drop]
      omega
    have hlt : leValue (bs.take 4) < 2 ^ 32 := by
      have hv := leValue_lt (bs.take 4)
      rw [htake] at hv
      simpa using hv
    have hback : leBytes 4 (leValue (bs.take 4)) = bs.take 4 := by
      have hb := leBytes_leValue (bs.take 4)
      rwa [htake] at hb
    rw [samplesOf, List.flatMap_cons, ih _ hdrop, UInt32.toNat_ofNat', Nat.mod_eq_of_lt hlt, hback,
      List.take_append_drop]

lemma Variable.ext_data {v w : Variable} (hi : v.info = w.info) (hd : v.data = w.data) : v = w := by
  cases v
  cases w
  subst hi hd
  rfl

/-- Filling a variable of the same kind with a sample array's memory copies the array. -/
lemma Variable.fill_bytes (v w : Variable) (h : v.info = w.info) : v.fill w.bytes = w := by
  refine Variable.ext_data h ?_
  have hs := samplesOf_flatMap w.data []
  rw [List.append_nil, w.size_eq, ← h] at hs
  exact hs

lemma Variable.bytes_fill (v : Variable) (bs : List UInt8)
    (h : bs.length = 4 * v.info.samplesPerHour.toNat) : (v.fill bs).bytes = bs :=
  samplesOf_bytes _ _ h

lemma DataHour.WellFormed.of_append {cfg : Settings} {hour : DataHour} {vs : List Variable}
    (h : ({ hour with vars := hour.vars ++ vs } : DataHour).WellFormed cfg) :
    hour.WellFormed cfg where
  count_le := by
    have hc := h.count_le
    simp only [List.length_append] at hc
    omega
  ids_nodup := by
    have hd := h.ids_nodup
    rw [List.map_append] at hd
    exact (List.nodup_append.mp hd).1
  rate_pos v hv := h.rate_pos v (List.mem_append_left _ hv)
  rate_le v hv := h.rate_le v (List.mem_append_left _ hv)

/-- The next variable of a well-formed hour passes all checks when the hour is rebuilt. -/
lemma DataHour.WellFormed.addable {cfg : Settings} {hour : DataHour} {v : Variable}
    {vs : List Variable} (h : ({ hour with vars := hour.vars ++ v :: vs } : DataHour).WellFormed cfg) :
    Addable cfg hour v.info where
  rate_pos := h.rate_pos v (by simp)
  rate_le := h.rate_le v (by simp)
  room := by
    have hc := h.count_le
    simp only [List.length_append, List.length_cons] at hc
    omega
  new := by
    intro hm
    have hd := h.ids_nodup
    simp only [List.map_append, List.map_cons] at hd
    exact (List.nodup_append.mp hd).2.2 _ hm _ List.mem_cons_self rfl

lemma uint32_ofNat_leValue (x : UInt32) : UInt32.ofNat (leValue (leBytes 4 x.toNat)) = x := by
  rw [leValue_leBytes 4 _ x.toNat_lt, UInt32.ofNat_toNat]

lemma uint16_ofNat_leValue (x : UInt16) : UInt16.ofNat (leValue (leBytes 2 x.toNat)) = x := by
  rw [leValue_leBytes 2 _ x.toNat_lt, UInt16.ofNat_toNat]

lemma uint8_ofNat_leValue (x : UInt8) : UInt8.ofNat (leValue (leBytes 1 x.toNat)) = x := by
  rw [leValue_leBytes 1 _ x.toNat_lt, UInt8.ofNat_toNat]

/-- Reading back the variables that follow `pre` in the buffer. -/
lemma deserializeVariables_flatMap (cfg : Settings) (data : List UInt8) (vs : List Variable)
    (hour : DataHour) (pre rest : List UInt8)
    (hdata : data = pre ++ (vs.flatMap variableBytes ++ rest))
    (h : ({ hour with vars := hour.vars ++ vs } : DataHour).WellFormed cfg) :
    deserializeVariables cfg data data.length vs.length hour pre.length =
      some ({ hour with vars := hour.vars ++ vs }, (pre ++ vs.flatMap variableBytes).length) := by
  induction vs generalizing hour pre with
  | nil => simp [deserializeVariables]
  | cons v vs ih =>
    have hrate : deserialize data pre.length 4 data.length =
        some (leBytes 4 v.info.samplesPerHour.toNat, _) :=
      deserialize_of_eq _ (leBytes 2 v.info.id.toNat ++ v.bytes ++
        (vs.flatMap variableBytes ++ rest)) (by simp [hdata, variableBytes]) (length_leBytes _ _)
    have hid : deserialize data (pre ++ leBytes 4 v.info.samplesPerHour.toNat).length 2 data.length =
        some (leBytes 2 v.info.id.toNat, _) :=
      deserialize_of_eq _ (v.bytes ++ (vs.flatMap variableBytes ++ rest))
        (by simp [hdata, variableBytes]) (length_leBytes _ _)
    have hbytes : deserialize data
        (pre ++ leBytes 4 v.info.samplesPerHour.toNat ++ leBytes 2 v.info.id.toNat).length
        (4 * v.info.samplesPerHour.toNat) data.length = some (v.bytes, _) :=
      deserialize_of_eq _ (vs.flatMap variableBytes ++ rest)
        (by simp [hdata, variableBytes]) v.length_bytes
    have hadd : hourAddVariable cfg hour v.info = _ := hourAddVariable_ok h.of_append h.addable
    have hrest := ih { hour with vars := hour.vars ++ [v] }
      (pre ++ leBytes 4 v.info.samplesPerHour.toNat ++ leBytes 2 v.info.id.toNat ++ v.bytes)
      (by simp [hdata, variableBytes]) (by simpa using h)
    have hfill : (Variable.create v.info).fill v.bytes = v := Variable.fill_bytes _ _ rfl
    rw [List.length_cons, deserializeVariables, hrate]
    simp only [Option.bind_eq_bind, Option.bind_some, hid, uint32_ofNat_leValue,
      uint16_ofNat_leValue, hadd, hbytes, List.modifyLast_concat, hfill]
    rw [hrest]
    simp [variableBytes, List.append_assoc]

lemma DataHour.sealed_wellFormed {cfg : Settings} {hour : DataHour} (h : hour.WellFormed cfg) :
    hour.sealed.WellFormed cfg :=
  ⟨h.count_le, h.ids_nodup, h.rate_pos, h.rate_le⟩

/-- The stored checksum does not enter the checksum. -/
@[simp] lemma hourCalculateChecksum_sealed (hour : DataHour) :
    hourCalculateChecksum hour.sealed = hourCalculateChecksum hour := rfl

/-- Reading back what was written for a well-formed hour. -/
theorem hourDeserialize_hourBytes {cfg : Settings} {hour : DataHour} (h : hour.WellFormed cfg) :
    hourDeserialize cfg (hourBytes hour.sealed) (hourBytes hour.sealed).length =
      some hour.sealed := by
  generalize hdata : hourBytes hour.sealed = data
  have hsum : deserialize data 0 4 data.length = some (leBytes 4 hour.sealed.checksum.toNat, _) :=
    deserialize_of_eq [] _ (by simp [← hdata, hourBytes, headerBytes]; rfl)
      (length_leBytes _ _)
  have hid : deserialize data ([] ++ leBytes 4 hour.sealed.checksum.toNat).length 4 data.length =
      some (leBytes 4 hour.hourId.toNat, _) :=
    deserialize_of_eq _ _ (by simp [← hdata, hourBytes, headerBytes]; rfl)
      (length_leBytes _ _)
  have hcount : deserialize data ([] ++ leBytes 4 hour.sealed.checksum.toNat ++
      leBytes 4 hour.hourId.toNat).length 2 data.length =
      some (leBytes 2 hour.sealed.variableCount.toNat, _) :=
    deserialize_of_eq _ _ (by simp [← hdata, hourBytes, headerBytes]; rfl)
      (length_leBytes _ _)
  have hflags : deserialize data ([] ++ leBytes 4 hour.sealed.checksum.toNat ++
      leBytes 4 hour.hourId.toNat ++ leBytes 2 hour.sealed.variableCount.toNat).length 1
      data.length = some (leBytes 1 hour.flags.toNat, _) :=
    deserialize_of_eq _ _ (by simp [← hdata, hourBytes, headerBytes]; rfl)
      (length_leBytes _ _)
  have hn : leValue (leBytes 2 hour.sealed.variableCount.toNat) = hour.vars.length := by
    rw [leValue_leBytes 2 _ hour.sealed.variableCount.toNat_lt]
    exact (DataHour.sealed_wellFormed h).variableCount_toNat
  have hvars := deserializeVariables_flatMap cfg data hour.vars
    { hour.sealed with vars := [] } (headerBytes hour.sealed) [] (by simp [← hdata, hourBytes])
    (DataHour.sealed_wellFormed h)
  rw [hourDeserialize]
  simp only [Option.bind_eq_bind, hsum, Option.bind_some, hid, hcount, hflags, hn,
    uint32_ofNat_leValue, uint8_ofNat_leValue]
  refine (congrArg (fun o => Option.bind o _) hvars).trans ?_
  have hlen : (headerBytes hour.sealed ++ hour.vars.flatMap variableBytes).length = data.length :=
    congrArg List.length hdata
  simp only [Option.bind_some, hlen, true_and]
  exact if_pos (hourCalculateChecksum_sealed hour)

lemma deserialize_some {data bs : List UInt8} {ptr size ptr' : ℕ}
    (h : deserialize data ptr size data.length = some (bs, ptr')) :
    bs.length = size ∧ data.take ptr' = data.take ptr ++ bs := by
  rw [deserialize] at h
  split at h
  · simp at h
  · rename_i hle
    simp only [Option.some.injEq, Prod.mk.injEq] at h
    obtain ⟨rfl, rfl⟩ := h
    refine ⟨?_, List.take_add⟩
    rw [List.length_take, List.length_drop]
    omega

lemma leBytes_of_length {bs : List UInt8} {k n : ℕ} (h : bs.length = k) (hn : n = leValue bs) :
    leBytes k n = bs := by
  rw [hn, ← h, leBytes_leValue]

lemma toNat_uint32_leValue {bs : List UInt8} (h : bs.length = 4) :
    (UInt32.ofNat (leValue bs)).toNat = leValue bs := by
  have hlt := leValue_lt bs
  rw [h] at hlt
  rw [UInt32.toNat_ofNat', Nat.mod_eq_of_lt (by simpa using hlt)]

lemma toNat_uint16_leValue {bs : List UInt8} (h : bs.length = 2) :
    (UInt16.ofNat (leValue bs)).toNat = leValue bs := by
  have hlt := leValue_lt bs
  rw [h] at hlt
  rw [UInt16.toNat_ofNat', Nat.mod_eq_of_lt (by simpa using hlt)]

lemma toNat_uint8_leValue {bs : List UInt8} (h : bs.length = 1) :
    (UInt8.ofNat (leValue bs)).toNat = leValue bs := by
  have hlt := leValue_lt bs
  rw [h] at hlt
  rw [UInt8.toNat_ofNat', Nat.mod_eq_of_lt (by simpa using hlt)]

/-- What the loop over the variables has read is the encoding of the variables it added. -/
lemma deserializeVariables_some {cfg : Settings} {data : List UInt8} {n : ℕ}
    (hour : DataHour) {hour' : DataHour} {ptr ptr' : ℕ} (hw : hour.WellFormed cfg)
    (h : deserializeVariables cfg data data.length n hour ptr = some (hour', ptr')) :
    ∃ vs, hour' = { hour with vars := hour.vars ++ vs } ∧ vs.length = n ∧
      hour'.WellFormed cfg ∧ data.take ptr' = data.take ptr ++ vs.flatMap variableBytes := by
  induction n generalizing hour ptr with
  | zero =>
    simp only [deserializeVariables, Option.some.injEq, Prod.mk.injEq] at h
    obtain ⟨rfl, rfl⟩ := h
    exact ⟨[], by simp, rfl, hw, by simp⟩
  | succ n ih =>
    rw [deserializeVariables] at h
    simp only [Option.bind_eq_bind, Option.bind_eq_some_iff] at h
    obtain ⟨⟨rate, p1⟩, hrate, ⟨id, p2⟩, hid, h⟩ := h
    generalize hinfo : (⟨UInt32.ofNat (leValue rate), UInt16.ofNat (leValue id)⟩ : VariableInfo) =
      info at h
    split at h
    · rename_i hour1 hadd
      simp only [Option.bind_eq_some_iff] at h
      obtain ⟨⟨bs, p3⟩, hbs, h⟩ := h
      have hable := hourAddVariable_addable hw hadd
      rw [hourAddVariable_ok hw hable] at hadd
      obtain rfl := (Prod.mk.inj hadd).2
      simp only [List.modifyLast_concat] at h
      obtain ⟨hrl, hrt⟩ := deserialize_some hrate
      obtain ⟨hil, hit⟩ := deserialize_some hid
      obtain ⟨hbl, hbt⟩ := deserialize_some hbs
      have hrate' : info.samplesPerHour = UInt32.ofNat (leValue rate) := by rw [← hinfo]
      have hid' : info.id = UInt16.ofNat (leValue id) := by rw [← hinfo]
      have hv : variableBytes ((Variable.create info).fill bs) = rate ++ id ++ bs := by
        have hb : ((Variable.create info).fill bs).bytes = bs :=
          Variable.bytes_fill _ _ (by rw [hbl, ← hrate']; rfl)
        have hi : ((Variable.create info).fill bs).info = info := rfl
        rw [variableBytes, hb, hi, hrate', hid', toNat_uint32_leValue hrl, toNat_uint16_leValue hil,
          leBytes_of_length hrl rfl, leBytes_of_length hil rfl]
      have hw' := hw.append (v := (Variable.create info).fill bs) hable
      obtain ⟨vs, rfl, hlen, hwf, ht⟩ := ih _ hw' h
      refine ⟨(Variable.create info).fill bs :: vs, by simp, by simp [hlen], hwf, ?_⟩
      rw [ht, hbt, hit, hrt, List.flatMap_cons, hv]
      simp [List.append_assoc]
    · simp at h

/-- The converse: a buffer that is accepted holds a well-formed hour and is exactly what
writing this hour produces. -/
theorem hourDeserialize_some {cfg : Settings} {data : List UInt8} {hour : DataHour}
    (h : hourDeserialize cfg data data.length = some hour) :
    hour.WellFormed cfg ∧ hour.sealed = hour ∧ hourBytes hour = data := by
  rw [hourDeserialize] at h
  simp only [Option.bind_eq_bind, Option.bind_eq_some_iff] at h
  obtain ⟨⟨sum, p1⟩, hsum, ⟨hid, p2⟩, hhid, ⟨count, p3⟩, hcount, ⟨flags, p4⟩, hflags, ⟨hour1, p5⟩,
    hvars, h⟩ := h
  split at h
  · rename_i hend
    obtain ⟨hp, hcheck⟩ := hend
    simp only [Option.some.injEq] at h hp hcheck
    subst h hp
    obtain ⟨hsl, hst⟩ := deserialize_some hsum
    obtain ⟨hhl, hht⟩ := deserialize_some hhid
    obtain ⟨hcl, hct⟩ := deserialize_some hcount
    obtain ⟨hfl, hft⟩ := deserialize_some hflags
    have hw0 := hourCreate_wellFormed cfg 0
    obtain ⟨vs, hhour, hlen, hwf, ht⟩ := deserializeVariables_some
      { hourCreate 0 with
        checksum := UInt32.ofNat (leValue sum)
        hourId := UInt32.ofNat (leValue hid)
        flags := UInt8.ofNat (leValue flags) }
      ⟨hw0.count_le, hw0.ids_nodup, hw0.rate_pos, hw0.rate_le⟩ hvars
    have hsum' : hour1.checksum = UInt32.ofNat (leValue sum) := by rw [hhour]
    have hid' : hour1.hourId = UInt32.ofNat (leValue hid) := by rw [hhour]
    have hflags' : hour1.flags = UInt8.ofNat (leValue flags) := by rw [hhour]
    have hvs : hour1.vars = vs := by rw [hhour]; rfl
    have hcount' : hour1.variableCount.toNat = leValue count := by
      rw [hwf.variableCount_toNat, hvs, hlen]
    refine ⟨hwf, ?_, ?_⟩
    · rw [DataHour.sealed, hcheck]
    · have hhead : headerBytes hour1 = sum ++ hid ++ count ++ flags := by
        rw [headerBytes, hsum', hid', hflags', hcount', toNat_uint32_leValue hsl,
          toNat_uint32_leValue hhl, toNat_uint8_leValue hfl, leBytes_of_length hsl rfl,
          leBytes_of_length hhl rfl, leBytes_of_length hcl rfl, leBytes_of_length hfl rfl]
      rw [List.take_length, hft, hct, hht, hst, List.take_zero, List.nil_append] at ht
      rw [hourBytes, hhead, hvs, ← ht]
  · simp at h

/-- `hourSerialize` and `hourDeserialize` are inverse to each other: a well-formed hour comes
back with all its data from exactly the bytes that were allocated, all of them written, and
whatever buffer is accepted is the serialization of the well-formed hour it yields. -/
theorem hourSerialize_hourDeserialize (cfg : Settings) :
    (∀ hour : DataHour, hour.WellFormed cfg → ∃ (b : List UInt8) (hour' : DataHour),
      hourSerialize hour 0 = .ok (hour', b.map some, b.length) ∧ b.length = hourTotalSize hour ∧
      hourDeserialize cfg b b.length = some hour' ∧ hour'.SameData hour) ∧
    (∀ (b : List UInt8) (hour : DataHour), hourDeserialize cfg b b.length = some hour →
      hour.WellFormed cfg ∧ hourSerialize hour 0 = .ok (hour, b.map some, b.length)) := by
  refine ⟨fun hour hw => ?_, fun b hour hd => ?_⟩
  · have hlen : (hourBytes hour.sealed).length = hourTotalSize hour := by
      rw [hourTotalSize_eq]
      simp [hourBytes]
    refine ⟨hourBytes hour.sealed, hour.sealed, ?_, hlen, hourDeserialize_hourBytes hw, rfl, rfl, rfl⟩
    rw [hourSerialize_eq, Block.filled, List.replicate_zero, List.append_nil, hlen]
  · obtain ⟨hw, hsealed, hb⟩ := hourDeserialize_some hd
    refine ⟨hw, ?_⟩
    rw [hourSerialize_eq, hsealed, hourTotalSize_eq, hb, Block.filled, List.replicate_zero,
      List.append_nil]

/-- One variable with an empty and a measured sample. -/
def smallHour : DataHour where
  hourId := 470000
  checksum := 0
  flags := flagModified
  vars := [{ info := ⟨2, 7⟩, data := [valueEmpty, 0x3F800000], size_eq := rfl }]

lemma smallHour_wellFormed : smallHour.WellFormed Settings.zejfMeteo :=
  ⟨by decide, by decide, by decide, by decide⟩

theorem smallHour_serialize_deserialize : ∃ (b : List UInt8) (hour' : DataHour),
    hourSerialize smallHour 0 = .ok (hour', b.map some, b.length) ∧
      b.length = hourTotalSize smallHour ∧
      hourDeserialize Settings.zejfMeteo b b.length = some hour' ∧ hour'.SameData smallHour :=
  (hourSerialize_hourDeserialize Settings.zejfMeteo).1 smallHour smallHour_wellFormed

end ZejfMeteo
