import ZejfMeteo.HourFormat

/-!
# Damaged hour files

One byte of the file of an hour is changed. The checksum of an hour adds up the numbers of its
header and of its variables and the bytes of its samples, so it depends on where the file is cut
into variables.
-/

namespace ZejfMeteo
open Runs Bytes

/-- The bytes added up, modulo 2^32. -/
def byteSum (bs : List UInt8) : UInt32 := bs.foldr (fun b sum => b.toUInt32 + sum) 0

/-- What a variable adds to the checksum besides its rate. -/
def Variable.idAndBytes (v : Variable) : UInt32 := v.info.id.toUInt32 + byteSum v.bytes

def rateSum (vs : List Variable) : UInt32 :=
  vs.foldr (fun v sum => v.info.samplesPerHour + sum) 0

def idAndByteSum (vs : List Variable) : UInt32 := vs.foldr (fun v sum => v.idAndBytes + sum) 0

section Sums

variable {bs : List UInt8} {vs ws : List Variable} {v w : Variable} {i : ℕ} {b old : UInt8}

lemma foldl_byteSum (bs : List UInt8) (sum : UInt32) :
    bs.foldl (fun r b => r + b.toUInt32) sum = sum + byteSum bs := by
  induction bs generalizing sum with
  | nil => exact (UInt32.add_zero sum).symm
  | cons b bs ih =>
    rw [List.foldl_cons, ih, UInt32.add_assoc]
    rfl

lemma hourCalculateChecksum_eq (hour : DataHour) : hourCalculateChecksum hour =
    hour.flags.toUInt32 + hour.hourId + hour.variableCount.toUInt32 +
      (rateSum hour.vars + idAndByteSum hour.vars) := by
  rw [hourCalculateChecksum]
  generalize hour.flags.toUInt32 + hour.hourId + hour.variableCount.toUInt32 = sum
  induction hour.vars generalizing sum with
  | nil => exact (UInt32.add_zero sum).symm
  | cons v vs ih =>
    rw [List.foldl_cons, ih, foldl_byteSum]
    have hrate : rateSum (v :: vs) = v.info.samplesPerHour + rateSum vs := rfl
    have hrest : idAndByteSum (v :: vs) = v.info.id.toUInt32 + byteSum v.bytes + idAndByteSum vs :=
      rfl
    rw [hrate, hrest]
    grind

lemma rateSum_append (vs ws : List Variable) : rateSum (vs ++ ws) = rateSum vs + rateSum ws := by
  induction vs with
  | nil => exact (UInt32.zero_add _).symm
  | cons v vs ih =>
    have hcons : ∀ us, rateSum (v :: us) = v.info.samplesPerHour + rateSum us := fun _ => rfl
    rw [List.cons_append, hcons, hcons, ih, UInt32.add_assoc]

lemma idAndByteSum_append (vs ws : List Variable) :
    idAndByteSum (vs ++ ws) = idAndByteSum vs + idAndByteSum ws := by
  induction vs with
  | nil => exact (UInt32.zero_add _).symm
  | cons v vs ih =>
    have hcons : ∀ us, idAndByteSum (v :: us) = v.idAndBytes + idAndByteSum us := fun _ => rfl
    rw [List.cons_append, hcons, hcons, ih, UInt32.add_assoc]

lemma byteSum_set (hold : bs[i]? = some old) (b : UInt8) :
    byteSum (bs.set i b) + old.toUInt32 = byteSum bs + b.toUInt32 := by
  induction bs generalizing i with
  | nil => simp at hold
  | cons c bs ih =>
    have hcons : ∀ d ds, byteSum (d :: ds) = d.toUInt32 + byteSum ds := fun _ _ => rfl
    cases i with
    | zero =>
      obtain rfl : c = old := by simpa using hold
      rw [List.set_cons_zero, hcons, hcons]
      grind
    | succ i =>
      have hih := ih (i := i) (by simpa using hold)
      rw [List.set_cons_succ, hcons, hcons, UInt32.add_assoc, hih, UInt32.add_assoc]

/-- The rates add up to what the lengths of the files do. -/
lemma length_flatMap_variableBytes (vs : List Variable) : (vs.flatMap variableBytes).length =
    vs.length * variableInfoBytes + 4 * (vs.map (fun v => v.info.samplesPerHour.toNat)).sum := by
  induction vs with
  | nil => rfl
  | cons v vs ih =>
    rw [List.flatMap_cons, List.length_append, length_variableBytes, ih, List.map_cons,
      List.sum_cons, List.length_cons]
    ring

lemma rateSum_eq (vs : List Variable) :
    rateSum vs = UInt32.ofNat (vs.map (fun v => v.info.samplesPerHour.toNat)).sum := by
  induction vs with
  | nil => rfl
  | cons v vs ih =>
    have hcons : rateSum (v :: vs) = v.info.samplesPerHour + rateSum vs := rfl
    rw [hcons, ih, List.map_cons, List.sum_cons, UInt32.ofNat_add, UInt32.ofNat_toNat]

/-- As many variables in as many bytes have the same number of samples. -/
lemma rateSum_congr (hlength : vs.length = ws.length)
    (hbytes : (vs.flatMap variableBytes).length = (ws.flatMap variableBytes).length) :
    rateSum vs = rateSum ws := by
  rw [length_flatMap_variableBytes, length_flatMap_variableBytes, hlength] at hbytes
  rw [rateSum_eq, rateSum_eq]
  congr 1
  omega

end Sums

section Cuts

variable {v w : Variable} {vs ws pre post : List Variable} {r r' bs : List UInt8} {i k : ℕ}
  {b old : UInt8}

lemma leBytes4_inj {m n : UInt32} (h : leBytes 4 m.toNat = leBytes 4 n.toNat) : m = n := by
  rw [← uint32_ofNat_leValue m, h, uint32_ofNat_leValue]

lemma leBytes2_inj {m n : UInt16} (h : leBytes 2 m.toNat = leBytes 2 n.toNat) : m = n := by
  rw [← uint16_ofNat_leValue m, h, uint16_ofNat_leValue]

lemma leBytes1_inj {m n : UInt8} (h : leBytes 1 m.toNat = leBytes 1 n.toNat) : m = n := by
  rw [← uint8_ofNat_leValue m, h, uint8_ofNat_leValue]

lemma Variable.bytes_inj (hrate : v.info.samplesPerHour = w.info.samplesPerHour)
    (h : v.bytes = w.bytes) : v.data = w.data := by
  have hv := samplesOf_flatMap v.data []
  have hw := samplesOf_flatMap w.data []
  rw [List.append_nil, v.size_eq] at hv
  rw [List.append_nil, w.size_eq, ← hrate] at hw
  rw [← hv, ← hw]
  exact congrArg _ h

/-- The bytes say where the first variable ends. -/
lemma variableBytes_inj (h : variableBytes v ++ r = variableBytes w ++ r') : v = w ∧ r = r' := by
  simp only [variableBytes, List.append_assoc] at h
  obtain ⟨hrate, h⟩ := List.append_inj h (by simp)
  obtain ⟨hid, h⟩ := List.append_inj h (by simp)
  have hrate' := leBytes4_inj hrate
  obtain ⟨hbytes, h⟩ := List.append_inj h (by rw [v.length_bytes, w.length_bytes, hrate'])
  have hinfo : v.info = w.info := congrArg₂ VariableInfo.mk hrate' (leBytes2_inj hid)
  exact ⟨Variable.ext_data hinfo (Variable.bytes_inj hrate' hbytes), h⟩

lemma variableBytes_ne_nil (v : Variable) : variableBytes v ≠ [] := by
  intro h
  have hlength := length_variableBytes v
  rw [h, variableInfoBytes] at hlength
  simp only [List.length_nil] at hlength
  omega

/-- What starts like the bytes of some variables starts with these variables. -/
lemma flatMap_variableBytes_prefix (h : ws.flatMap variableBytes = vs.flatMap variableBytes ++ r) :
    ∃ us, ws = vs ++ us ∧ us.flatMap variableBytes = r := by
  induction vs generalizing ws with
  | nil => exact ⟨ws, rfl, h⟩
  | cons v vs ih =>
    cases ws with
    | nil =>
      have hnil := List.append_eq_nil_iff.mp h.symm
      exact absurd (List.append_eq_nil_iff.mp hnil.1).1 (variableBytes_ne_nil v)
    | cons w ws =>
      rw [List.flatMap_cons, List.flatMap_cons, List.append_assoc] at h
      obtain ⟨rfl, hrest⟩ := variableBytes_inj h
      obtain ⟨us, rfl, hus⟩ := ih hrest
      exact ⟨us, rfl, hus⟩

lemma flatMap_variableBytes_inj (h : ws.flatMap variableBytes = vs.flatMap variableBytes) :
    ws = vs := by
  have hprefix : ws.flatMap variableBytes = vs.flatMap variableBytes ++ [] := by
    rw [h, List.append_nil]
  obtain ⟨us, hws, hus⟩ := flatMap_variableBytes_prefix hprefix
  cases us with
  | nil => rw [hws, List.append_nil]
  | cons u us => exact absurd (List.append_eq_nil_iff.mp hus).1 (variableBytes_ne_nil u)

/-- Any bytes of the right length after a rate are those of a variable. -/
lemma exists_variableBytes (rate : UInt32) (hlength : bs.length = 2 + 4 * rate.toNat) :
    ∃ w : Variable, w.info.samplesPerHour = rate ∧
      leBytes 2 w.info.id.toNat ++ w.bytes = bs := by
  have hid : (bs.take 2).length = 2 := by
    rw [List.length_take]
    omega
  have hdata : (bs.drop 2).length = 4 * rate.toNat := by
    rw [List.length_drop]
    omega
  let info : VariableInfo := ⟨rate, UInt16.ofNat (leValue (bs.take 2))⟩
  refine ⟨(Variable.create info).fill (bs.drop 2), rfl, ?_⟩
  have hbytes : ((Variable.create info).fill (bs.drop 2)).bytes = bs.drop 2 :=
    Variable.bytes_fill _ _ hdata
  have hinfo : ((Variable.create info).fill (bs.drop 2)).info.id.toNat = leValue (bs.take 2) :=
    toNat_uint16_leValue hid
  rw [hbytes, hinfo, leBytes_of_length hid rfl, List.take_append_drop]

/-- A byte of the variables is one of the bytes of one of them. -/
lemma flatMap_variableBytes_at (h : (vs.flatMap variableBytes)[i]? = some old) :
    ∃ pre v post k, vs = pre ++ v :: post ∧ i = (pre.flatMap variableBytes).length + k ∧
      (variableBytes v)[k]? = some old := by
  induction vs generalizing i with
  | nil => simp at h
  | cons v vs ih =>
    rw [List.flatMap_cons] at h
    by_cases hi : i < (variableBytes v).length
    · rw [List.getElem?_append_left hi] at h
      exact ⟨[], v, vs, i, rfl, by simp, h⟩
    · rw [List.getElem?_append_right (not_lt.mp hi)] at h
      obtain ⟨pre, w, post, k, rfl, hk, hold⟩ := ih h
      refine ⟨v :: pre, w, post, k, rfl, ?_, hold⟩
      rw [List.flatMap_cons, List.length_append]
      omega

lemma flatMap_variableBytes_set (hk : k < (variableBytes v).length) (b : UInt8) :
    ((pre ++ v :: post).flatMap variableBytes).set ((pre.flatMap variableBytes).length + k) b =
      pre.flatMap variableBytes ++ ((variableBytes v).set k b ++ post.flatMap variableBytes) := by
  rw [List.flatMap_append, List.flatMap_cons, List.set_append_right _ _ (Nat.le_add_right _ _),
    Nat.add_sub_cancel_left, List.set_append_left _ _ hk]

end Cuts

/-- The damaged byte is one of the rate of a variable that is not the last one. The bytes from this
variable on are those of as many other variables, which the hour could have and whose ids and
sample bytes add up to the same sum. -/
structure CutAnew (cfg : Settings) (hour : DataHour) (i : ℕ) (b : UInt8) (pre : List Variable)
    (v : Variable) (post cut : List Variable) (k : ℕ) : Prop where
  vars : hour.vars = pre ++ v :: post
  more : post ≠ []
  place : i = datahourBytes + (pre.flatMap variableBytes).length + k
  rate : k < 4
  bytes : cut.flatMap variableBytes = ((v :: post).flatMap variableBytes).set k b
  count : cut.length = (v :: post).length
  valid : ({ hour with vars := pre ++ cut } : DataHour).WellFormed cfg
  sum : idAndByteSum cut = idAndByteSum (v :: post)

section Damage

variable {cfg : Settings} {hour hour' : DataHour} {i k : ℕ} {b old : UInt8} {v : Variable}
  {pre post cut : List Variable}

lemma set_ne_self {bs : List UInt8} (hold : bs[i]? = some old) (hb : b ≠ old) :
    bs.set i b ≠ bs := by
  intro he
  obtain ⟨hi, rfl⟩ := List.getElem?_eq_some_iff.mp hold
  have hat := congrArg (fun cs => cs[i]?) he
  simp only [List.getElem?_set_self hi, hold] at hat
  exact hb (Option.some.inj hat)

/-- A byte of the header is damaged: the variables are the same, and so would be the header. -/
lemma header_detected (hold : (headerBytes hour.sealed)[i]? = some old) (hb : b ≠ old)
    (hsealed : hour'.sealed = hour') (hvars : hour'.vars = hour.vars) :
    headerBytes hour' ≠ (headerBytes hour.sealed).set i b := by
  intro he
  have hcount : hour'.variableCount = hour.sealed.variableCount := by
    rw [DataHour.variableCount, hvars]
    rfl
  have hsum : hour'.checksum = hour'.flags.toUInt32 + hour'.hourId +
      hour.sealed.variableCount.toUInt32 + (rateSum hour.vars + idAndByteSum hour.vars) := by
    rw [← hcount, ← hvars, ← hourCalculateChecksum_eq]
    exact (congrArg DataHour.checksum hsealed).symm
  have hsum' : hour.sealed.checksum = hour.flags.toUInt32 + hour.hourId +
      hour.sealed.variableCount.toUInt32 + (rateSum hour.vars + idAndByteSum hour.vars) :=
    hourCalculateChecksum_eq hour
  suffices hsame : hour'.checksum = hour.sealed.checksum ∧ hour'.hourId = hour.hourId ∧
      hour'.flags = hour.flags by
    refine set_ne_self hold hb ?_
    rw [← he]
    simp only [headerBytes, hsame, hcount]
    rfl
  simp only [headerBytes, List.append_assoc] at he
  rw [List.set_append] at he
  split at he
  · obtain ⟨-, he⟩ := List.append_inj he (by simp)
    obtain ⟨hid, he⟩ := List.append_inj he (by simp)
    obtain ⟨-, hflags⟩ := List.append_inj he (by simp)
    have hid' : hour'.hourId = hour.hourId := leBytes4_inj hid
    have hflags' : hour'.flags = hour.flags := leBytes1_inj hflags
    refine ⟨?_, hid', hflags'⟩
    rw [hsum, hsum', hid', hflags']
  obtain ⟨hchecksum, he⟩ := List.append_inj he (by simp)
  have hchecksum' := leBytes4_inj hchecksum
  rw [List.set_append] at he
  split at he
  · obtain ⟨-, he⟩ := List.append_inj he (by simp)
    obtain ⟨-, hflags⟩ := List.append_inj he (by simp)
    have hflags' : hour'.flags = hour.flags := leBytes1_inj hflags
    refine ⟨hchecksum', ?_, hflags'⟩
    rw [hsum, hsum', hflags'] at hchecksum'
    grind
  obtain ⟨hid, he⟩ := List.append_inj he (by simp)
  have hid' : hour'.hourId = hour.hourId := leBytes4_inj hid
  rw [List.set_append] at he
  split at he
  · obtain ⟨-, hflags⟩ := List.append_inj he (by simp)
    exact ⟨hchecksum', hid', leBytes1_inj hflags⟩
  · refine ⟨hchecksum', hid', UInt8.toUInt32_inj.mp ?_⟩
    rw [hsum, hsum', hid'] at hchecksum'
    grind

/-- Elsewhere in a variable: the others are the same, and so would be this one. -/
lemma variable_detected {w : Variable} (hold : (leBytes 2 v.info.id.toNat ++ v.bytes)[i]? = some old)
    (hb : b ≠ old) (hsum : w.idAndBytes = v.idAndBytes) :
    leBytes 2 w.info.id.toNat ++ w.bytes ≠ (leBytes 2 v.info.id.toNat ++ v.bytes).set i b := by
  intro he
  have hne := set_ne_self hold hb
  rw [Variable.idAndBytes, Variable.idAndBytes] at hsum
  rw [← he] at hne
  rw [List.set_append] at he
  split at he
  · obtain ⟨-, hbytes⟩ := List.append_inj he (by simp)
    rw [hbytes] at hsum hne
    have hid : w.info.id = v.info.id := UInt16.toUInt32_inj.mp (by grind)
    rw [hid] at hne
    exact hne rfl
  · obtain ⟨hid, hbytes⟩ := List.append_inj he (by simp)
    rename_i hi
    rw [List.getElem?_append_right (not_lt.mp hi)] at hold
    have hset := byteSum_set hold b
    rw [← hbytes] at hset
    rw [leBytes2_inj hid] at hsum
    have hbyte : b.toUInt32 = old.toUInt32 := by grind
    exact hb (UInt8.toUInt32_inj.mp hbyte)

lemma idAndByteSum_cons (v : Variable) (vs : List Variable) :
    idAndByteSum (v :: vs) = v.idAndBytes + idAndByteSum vs := rfl

lemma rateSum_cons (v : Variable) (vs : List Variable) :
    rateSum (v :: vs) = v.info.samplesPerHour + rateSum vs := rfl

/-- A byte of a variable is damaged, and the bytes from this variable on are cut into as many
variables with the same sum: then the byte is one of a rate and there are others behind. -/
lemma rate_damaged (hold : (variableBytes v)[k]? = some old) (hb : b ≠ old)
    (hcut : cut.flatMap variableBytes = ((v :: post).flatMap variableBytes).set k b)
    (hcount : cut.length = (v :: post).length)
    (hsum : idAndByteSum cut = idAndByteSum (v :: post)) : k < 4 ∧ post ≠ [] := by
  have hlt := (List.getElem?_eq_some_iff.mp hold).1
  have hrates : rateSum cut = rateSum (v :: post) :=
    rateSum_congr hcount (by rw [hcut, List.length_set])
  rw [List.flatMap_cons, List.set_append_left _ _ hlt] at hcut
  have hrest : variableBytes v =
      leBytes 4 v.info.samplesPerHour.toNat ++ (leBytes 2 v.info.id.toNat ++ v.bytes) := by
    rw [variableBytes, List.append_assoc]
  by_cases hk : k < 4
  · refine ⟨hk, ?_⟩
    rintro rfl
    obtain ⟨w, rfl⟩ := List.length_eq_one_iff.mp hcount
    have hrate : w.info.samplesPerHour = v.info.samplesPerHour := by
      rw [rateSum_cons, rateSum_cons] at hrates
      grind
    rw [List.flatMap_cons, List.flatMap_nil, List.append_nil, List.append_nil, hrest,
      List.set_append_left _ _ (by simpa using hk), variableBytes, List.append_assoc] at hcut
    rw [hrest, List.getElem?_append_left (by simpa using hk)] at hold
    obtain ⟨hsame, -⟩ := List.append_inj hcut (by simp)
    rw [hrate] at hsame
    exact set_ne_self hold hb hsame.symm
  · rw [hrest, List.set_append_right _ _ (by simpa using hk), length_leBytes] at hcut
    rw [hrest, List.getElem?_append_right (by simpa using hk), length_leBytes] at hold
    have hlength : ((leBytes 2 v.info.id.toNat ++ v.bytes).set (k - 4) b).length =
        2 + 4 * v.info.samplesPerHour.toNat := by
      rw [List.length_set, List.length_append, length_leBytes, v.length_bytes]
    obtain ⟨w, hrate, hw⟩ := exists_variableBytes v.info.samplesPerHour hlength
    have hall : cut.flatMap variableBytes = (w :: post).flatMap variableBytes := by
      rw [hcut, List.flatMap_cons, variableBytes, hrate, List.append_assoc _ _ w.bytes, hw]
    obtain rfl := flatMap_variableBytes_inj hall
    rw [idAndByteSum_cons, idAndByteSum_cons] at hsum
    exact absurd hw (variable_detected hold hb (by grind))

/-- A damaged file that is accepted has been cut anew. -/
lemma cutAnew_of_accepted (hwf : hour.WellFormed cfg)
    (hold : (hourBytes hour.sealed)[i]? = some old) (hb : b ≠ old)
    (hd : hourDeserialize cfg ((hourBytes hour.sealed).set i b)
      ((hourBytes hour.sealed).set i b).length = some hour') :
    ∃ pre v post cut k, CutAnew cfg hour i b pre v post cut k := by
  obtain ⟨hwf', hsealed, hbytes⟩ := hourDeserialize_some hd
  by_cases hi : i < datahourBytes
  · rw [hourBytes, hourBytes, List.set_append_left _ _ (by simpa using hi)] at hbytes
    rw [hourBytes, List.getElem?_append_left (by simpa using hi)] at hold
    obtain ⟨hheader, hvars⟩ := List.append_inj hbytes (by simp)
    exact absurd hheader (header_detected hold hb hsealed (flatMap_variableBytes_inj hvars))
  rw [hourBytes, hourBytes, List.set_append_right _ _ (by simpa using hi),
    length_headerBytes] at hbytes
  rw [hourBytes, List.getElem?_append_right (by simpa using hi), length_headerBytes] at hold
  obtain ⟨hheader, hcut⟩ := List.append_inj hbytes (by simp)
  obtain ⟨pre, v, post, k, hvars, hplace, hold⟩ := flatMap_variableBytes_at hold
  have hlt := (List.getElem?_eq_some_iff.mp hold).1
  rw [DataHour.sealed_vars] at hvars
  rw [DataHour.sealed_vars, hvars, hplace, flatMap_variableBytes_set hlt] at hcut
  obtain ⟨cut, hvars', hcut⟩ := flatMap_variableBytes_prefix hcut
  have hcut' : cut.flatMap variableBytes = ((v :: post).flatMap variableBytes).set k b := by
    rw [hcut, List.flatMap_cons, List.set_append_left _ _ hlt]
  simp only [headerBytes, List.append_assoc] at hheader
  obtain ⟨hchecksum, hheader⟩ := List.append_inj hheader (by simp)
  obtain ⟨hid, hheader⟩ := List.append_inj hheader (by simp)
  obtain ⟨hvariables, hflags⟩ := List.append_inj hheader (by simp)
  have hcount : cut.length = (v :: post).length := by
    have hlength := congrArg UInt16.toNat (leBytes2_inj hvariables)
    have hsame : hour.sealed.variableCount.toNat = hour.vars.length := hwf.variableCount_toNat
    rw [hwf'.variableCount_toNat, hsame, hvars', hvars, List.length_append,
      List.length_append] at hlength
    omega
  have hrates : rateSum cut = rateSum (v :: post) :=
    rateSum_congr hcount (by rw [hcut', List.length_set])
  have hsum : idAndByteSum cut = idAndByteSum (v :: post) := by
    have hcheck : hourCalculateChecksum hour' = hourCalculateChecksum hour :=
      (congrArg DataHour.checksum hsealed).trans (leBytes4_inj hchecksum)
    have hid' : hour'.hourId = hour.hourId := leBytes4_inj hid
    have hflags' : hour'.flags = hour.flags := leBytes1_inj hflags
    have hvariables' : hour'.variableCount = hour.variableCount := leBytes2_inj hvariables
    rw [hourCalculateChecksum_eq, hourCalculateChecksum_eq, hid', hflags', hvariables', hvars',
      hvars, rateSum_append, rateSum_append, idAndByteSum_append, idAndByteSum_append,
      hrates] at hcheck
    grind
  obtain ⟨hk, hmore⟩ := rate_damaged hold hb hcut' hcount hsum
  refine ⟨pre, v, post, cut, k, hvars, hmore, ?_, hk, hcut', hcount, ?_, hsum⟩
  · omega
  · rw [← hvars']
    exact ⟨hwf'.count_le, hwf'.ids_nodup, hwf'.rate_pos, hwf'.rate_le⟩

/-- And a file that has been cut anew is accepted. -/
lemma accepted_of_cutAnew (hcut : CutAnew cfg hour i b pre v post cut k) :
    hourDeserialize cfg ((hourBytes hour.sealed).set i b) (hourBytes hour.sealed).length =
      some { hour.sealed with vars := pre ++ cut } := by
  have hlt : k < (variableBytes v).length := by
    rw [length_variableBytes, variableInfoBytes]
    exact Nat.lt_of_lt_of_le hcut.rate (by omega)
  have hcount : ({ hour.sealed with vars := pre ++ cut } : DataHour).variableCount =
      hour.sealed.variableCount := by
    rw [DataHour.variableCount, DataHour.variableCount, DataHour.sealed_vars, hcut.vars,
      List.length_append, List.length_append, hcut.count]
  have hrates : rateSum cut = rateSum (v :: post) :=
    rateSum_congr hcut.count (by rw [hcut.bytes, List.length_set])
  have hsealed : ({ hour.sealed with vars := pre ++ cut } : DataHour).sealed =
      { hour.sealed with vars := pre ++ cut } := by
    have hcheck : hourCalculateChecksum { hour.sealed with vars := pre ++ cut } =
        hourCalculateChecksum hour := by
      have hvariables : hour.variableCount = hour.sealed.variableCount := rfl
      rw [hourCalculateChecksum_eq, hourCalculateChecksum_eq, hcount, hvariables, hcut.vars,
        rateSum_append, rateSum_append, idAndByteSum_append, idAndByteSum_append, hrates, hcut.sum]
      rfl
    rw [DataHour.sealed, hcheck]
    rfl
  have hbytes : hourBytes { hour.sealed with vars := pre ++ cut } =
      (hourBytes hour.sealed).set i b := by
    have hheader : headerBytes { hour.sealed with vars := pre ++ cut } =
        headerBytes hour.sealed := by
      rw [headerBytes, hcount]
      rfl
    have hplace : i = (headerBytes hour.sealed).length +
        ((pre.flatMap variableBytes).length + k) := by
      rw [length_headerBytes, hcut.place, Nat.add_assoc]
    rw [hourBytes, hourBytes, hheader, hplace, List.set_append_right _ _ (Nat.le_add_right _ _),
      Nat.add_sub_cancel_left, DataHour.sealed_vars, hcut.vars, flatMap_variableBytes_set hlt,
      List.flatMap_append, hcut.bytes, List.flatMap_cons, List.set_append_left _ _ hlt]
  have hwf : ({ hour.sealed with vars := pre ++ cut } : DataHour).WellFormed cfg :=
    ⟨hcut.valid.count_le, hcut.valid.ids_nodup, hcut.valid.rate_pos, hcut.valid.rate_le⟩
  have hd := hourDeserialize_hourBytes hwf
  rwa [hsealed, hbytes, List.length_set] at hd

/-- A file with one damaged byte is refused unless the byte is one of the number of samples of a
variable and the bytes behind it, cut anew, are those of other variables with the same sum. -/
theorem damagedFile_refused_iff (hwf : hour.WellFormed cfg)
    (hold : (hourBytes hour.sealed)[i]? = some old) (hb : b ≠ old) :
    hourDeserialize cfg ((hourBytes hour.sealed).set i b) (hourBytes hour.sealed).length = none ↔
      ¬∃ pre v post cut k, CutAnew cfg hour i b pre v post cut k := by
  constructor
  · rintro hnone ⟨pre, v, post, cut, k, hcut⟩
    rw [accepted_of_cutAnew hcut] at hnone
    cases hnone
  · intro hnot
    cases hd : hourDeserialize cfg ((hourBytes hour.sealed).set i b)
        (hourBytes hour.sealed).length with
    | none => rfl
    | some hour' =>
      rw [← List.length_set (i := i) (a := b)] at hd
      exact absurd (cutAnew_of_accepted hwf hold hb hd) hnot

end Damage

/-- The rate of the only variable of an hour is damaged. -/
theorem smallHour_damage_refused : hourDeserialize Settings.zejfMeteo
    ((hourBytes smallHour.sealed).set datahourBytes 1) (hourBytes smallHour.sealed).length = none := by
  have hold : (hourBytes smallHour.sealed)[datahourBytes]? = some 2 := by decide
  refine (damagedFile_refused_iff smallHour_wellFormed hold (by decide)).mpr ?_
  rintro ⟨pre, v, post, cut, k, hcut⟩
  have hlength := congrArg List.length hcut.vars
  have hmore := List.length_pos_of_ne_nil hcut.more
  simp only [smallHour, List.length_append, List.length_cons, List.length_nil] at hlength
  omega

/-- Two variables; the samples 256 and 257 of the first one look like the numbers of a variable. -/
def disguisedHour : DataHour where
  hourId := 1
  checksum := 0
  flags := 0
  vars := [
    { info := ⟨511, 1⟩
      data := List.replicate 256 0 ++ [0x100, 2] ++ List.replicate 253 0
      size_eq := by
        rw [List.length_append, List.length_append, List.length_replicate, List.length_replicate]
        rfl },
    { info := ⟨1, 2⟩, data := [0], size_eq := rfl }]

/-- The rate of the first variable becomes 256: the rest of its samples belong to the second one. -/
theorem disguisedHour_damage_accepted : disguisedHour.WellFormed Settings.zejfMeteo ∧
    (hourBytes disguisedHour.sealed)[datahourBytes]? = some 0xFF ∧
    (hourDeserialize Settings.zejfMeteo ((hourBytes disguisedHour.sealed).set datahourBytes 0)
      (hourBytes disguisedHour.sealed).length).isSome :=
  ⟨⟨by decide, by decide, by decide, by decide⟩, by decide +kernel, by decide +kernel⟩

end ZejfMeteo
