import ZejfMeteo.DataCheck
import Mathlib.Data.Finmap

/-!
# The reference store

What the data operations mean without a cache: a map from hours to finite maps from
variable ids to sample arrays, which never evicts, saves or reloads anything.
-/

namespace ZejfMeteo

abbrev RefHour := Finmap (fun _ : UInt16 => Variable)

abbrev RefStore := UInt32 → RefHour

namespace RefStore

/-- Nothing has been stored yet. -/
def empty : RefStore := fun _ => ∅

/-- The store with one variable of an hour put in. -/
def put (m : RefStore) (hourNumber : UInt32) (variableId : UInt16) (v : Variable) : RefStore :=
  Function.update m hourNumber ((m hourNumber).insert variableId v)

/-- The sample in a slot, if there is such a slot. -/
def sample (m : RefStore) (hourNumber : UInt32) (variableId : UInt16) (n : UInt32) :
    Option Sample :=
  ((m hourNumber).lookup variableId).bind (fun v => v.data[n.toNat]?)

/-- Writes a sample into a variable, unless it would replace a measured value by none. -/
def write (target : VariableInfo) (hourNumber sampleNumber : UInt32) (value : Sample)
    (v : Variable) (m : RefStore) : ZejfErr × RefStore :=
  if v.info.samplesPerHour ≠ target.samplesPerHour then (.invalidSampleRate, m)
  else if v.info.samplesPerHour ≤ sampleNumber then (.logNumber, m)
  else if Measured (v.data.getD sampleNumber.toNat valueEmpty) ∧ ¬Measured value then (.value, m)
  else (.ok, m.put hourNumber target.id (v.setSample sampleNumber.toNat value))

/-- A variable is added on its first log, if its rate is valid and the hour has room. -/
def log (cfg : Settings) (target : VariableInfo) (hourNumber sampleNumber : UInt32)
    (value : Sample) (m : RefStore) : ZejfErr × RefStore :=
  match (m hourNumber).lookup target.id with
  | some v => write target hourNumber sampleNumber value v m
  | none =>
    if target.samplesPerHour = 0 ∨ cfg.sampleRateMax < target.samplesPerHour.toNat then
      (.invalidSampleRate, m)
    else if (m hourNumber).keys.card = cfg.variablesMax then (.variablesMax, m)
    else write target hourNumber sampleNumber value (Variable.create target)
      (m.put hourNumber target.id (Variable.create target))

def getVal (info : VariableInfo) (hourNumber logNumber : UInt32) (m : RefStore) :
    ZejfErr × Option Sample :=
  match (m hourNumber).lookup info.id with
  | none => (.null, none)
  | some v =>
    if v.info.samplesPerHour ≤ logNumber then (.logNumber, none)
    else (.ok, v.data[logNumber.toNat]?)

def check (isProv : Bool) (info : VariableInfo) (hourNum logNum : UInt32) (m : RefStore) :
    (ZejfErr × Option UInt32) × RefStore :=
  match (m hourNum).lookup info.id with
  | none => ((.null, none), m)
  | some v =>
    if info.samplesPerHour ≠ v.info.samplesPerHour then ((.invalidSampleRate, none), m)
    else ((.ok, some (v.count isProv logNum)), m.put hourNum info.id (v.counted isProv logNum))

section Samples

variable {m : RefStore} {n : UInt32} {id : UInt16} {k : UInt32} {value : Sample} {v : Variable}

lemma sample_put (n' : UInt32) (id' : UInt16) (v : Variable) : (m.put n' id' v).sample n id k =
    if n' = n ∧ id' = id then v.data[k.toNat]? else m.sample n id k := by
  rw [sample, put]
  by_cases hn : n' = n
  · subst hn
    rw [Function.update_self]
    by_cases hid : id' = id
    · subst hid
      simp [Finmap.lookup_insert]
    · rw [Finmap.lookup_insert_of_ne _ (Ne.symm hid), if_neg (fun h => hid h.2)]
      rfl
  · rw [Function.update_of_ne (Ne.symm hn), if_neg (fun h => hn h.1)]
    rfl

/-- Writing keeps what is in every other slot, and in this one if it is refused. -/
lemma sample_write {target : VariableInfo} {n' k' : UInt32} {value' : Sample}
    (hs : m.sample n id k = some value)
    (hv : n' = n → target.id = id → v.data[k.toNat]? = some value)
    (hother : ¬(n' = n ∧ target.id = id ∧ k' = k ∧ (write target n' k' value' v m).1 = .ok)) :
    (write target n' k' value' v m).2.sample n id k = some value := by
  rw [write] at hother ⊢
  split
  · exact hs
  split
  · exact hs
  split
  · exact hs
  rename_i h1 h2 h3
  rw [if_neg h1, if_neg h2, if_neg h3] at hother
  rw [sample_put]
  by_cases hslot : n' = n ∧ target.id = id
  · have hk : k'.toNat ≠ k.toNat := fun he =>
      hother ⟨hslot.1, hslot.2, UInt32.toNat_inj.mp he, rfl⟩
    rw [if_pos hslot, Variable.setSample_data, List.getElem?_set_ne hk]
    exact hv hslot.1 hslot.2
  · exact (if_neg hslot).trans hs

/-- A log keeps what is in every other slot, and in this one if it is refused. -/
lemma sample_log {cfg : Settings} {target : VariableInfo} {n' k' : UInt32} {value' : Sample}
    (hs : m.sample n id k = some value)
    (hother : ¬(n' = n ∧ target.id = id ∧ k' = k ∧ (log cfg target n' k' value' m).1 = .ok)) :
    (log cfg target n' k' value' m).2.sample n id k = some value := by
  rw [log] at hother ⊢
  cases hl : (m n').lookup target.id with
  | some v =>
    rw [hl] at hother
    refine sample_write hs ?_ hother
    rintro rfl rfl
    rwa [sample, hl] at hs
  | none =>
    rw [hl] at hother
    -- A variable that is not there yet is not the one of the slot.
    have hne : ¬(n' = n ∧ target.id = id) := by
      rintro ⟨rfl, rfl⟩
      rw [sample, hl] at hs
      cases hs
    simp only at hother ⊢
    split
    · exact hs
    split
    · exact hs
    rename_i h1 h2
    rw [if_neg h1, if_neg h2] at hother
    refine sample_write ?_ (fun h1 h2 => absurd ⟨h1, h2⟩ hne) hother
    exact (sample_put _ _ _).trans ((if_neg hne).trans hs)

/-- A check keeps every sample but empty ones. -/
lemma sample_check {isProv : Bool} {info : VariableInfo} {n' k' : UInt32}
    (hs : m.sample n id k = some value) (hvalue : value ≠ valueEmpty) :
    (check isProv info n' k' m).2.sample n id k = some value := by
  rw [check]
  cases hl : (m n').lookup info.id with
  | none => exact hs
  | some v =>
    simp only
    split
    · exact hs
    · rw [sample_put]
      by_cases hslot : n' = n ∧ info.id = id
      · obtain ⟨rfl, rfl⟩ := hslot
        rw [sample, hl] at hs
        have hs' : v.data[k.toNat]? = some value := hs
        rw [if_pos ⟨rfl, rfl⟩, Variable.counted_getElem?, hs']
        split
        · simp [markSample_of_ne hvalue]
        · rfl
      · exact (if_neg hslot).trans hs

/-- An acknowledged log is in its slot. -/
lemma sample_of_log {cfg : Settings} {target : VariableInfo}
    (h : (log cfg target n k value m).1 = .ok) :
    (log cfg target n k value m).2.sample n target.id k = some value := by
  have hwrite : ∀ {v m}, (write target n k value v m).1 = .ok →
      (write target n k value v m).2.sample n target.id k = some value := by
    intro v m hok
    rw [write] at hok ⊢
    split at hok
    · cases hok
    split at hok
    · cases hok
    split at hok
    · cases hok
    rename_i h1 h2 h3
    have hlt : k.toNat < v.data.length := by
      rw [v.size_eq]
      exact UInt32.lt_iff_toNat_lt.mp (UInt32.not_le.mp h2)
    rw [if_neg h1, if_neg h2, if_neg h3, sample_put, if_pos ⟨rfl, rfl⟩, Variable.setSample_data,
      List.getElem?_set_self hlt]
  rw [log] at h ⊢
  cases hl : (m n).lookup target.id with
  | some v =>
    rw [hl] at h
    exact hwrite h
  | none =>
    rw [hl] at h
    simp only at h ⊢
    split at h
    · cases h
    split at h
    · cases h
    rename_i h1 h2
    rw [if_neg h1, if_neg h2]
    exact hwrite h

/-- Reading a slot gives its sample. -/
lemma getVal_of_sample {info : VariableInfo} (hs : m.sample n info.id k = some value) :
    m.getVal info n k = (.ok, some value) := by
  obtain ⟨v, hl, hv⟩ := Option.bind_eq_some_iff.mp hs
  have hlt : k.toNat < v.info.samplesPerHour.toNat := by
    rw [← v.size_eq]
    exact (List.getElem?_eq_some_iff.mp hv).1
  have hk : ¬v.info.samplesPerHour ≤ k := by
    rw [UInt32.not_le]
    exact UInt32.lt_iff_toNat_lt.mpr hlt
  simp only [getVal, hl, hk, if_false, hv]

end Samples

end RefStore

/-- A list of variables holds what a finite map does. -/
structure Agrees (m : RefHour) (vars : List Variable) : Prop where
  lookup : ∀ id, m.lookup id = vars.find? (fun v => v.info.id == id)
  card : m.keys.card = vars.length

section Agrees

variable {m : RefHour} {vars ls rs : List Variable} {v w : Variable}

lemma agrees_empty : Agrees ∅ [] := ⟨fun _ => rfl, rfl⟩

lemma find?_eq_none_of_notMem {id : UInt16} (h : id ∉ vars.map (fun v => v.info.id)) :
    vars.find? (fun v => v.info.id == id) = none := by
  rw [List.find?_eq_none]
  intro v hv he
  exact h (List.mem_map.mpr ⟨v, hv, by simpa using he⟩)

/-- With distinct ids, the one variable of an id is found wherever it stands. -/
lemma find?_middle (hd : ((ls ++ v :: rs).map (fun v => v.info.id)).Nodup) (id : UInt16) :
    (ls ++ v :: rs).find? (fun v => v.info.id == id) =
      if v.info.id = id then some v else (ls ++ rs).find? (fun v => v.info.id == id) := by
  rw [List.map_append, List.map_cons] at hd
  have hv : v.info.id ∉ ls.map (fun v => v.info.id) := by
    intro hm
    exact (List.nodup_append.mp hd).2.2 _ hm _ List.mem_cons_self rfl
  by_cases hid : v.info.id = id
  · subst hid
    rw [List.find?_append, find?_eq_none_of_notMem hv]
    simp
  · simp [List.find?_append, hid]

/-- Replacing a variable in its place is inserting it into the map. -/
lemma Agrees.replace (h : Agrees m (ls ++ v :: rs))
    (hd : ((ls ++ v :: rs).map (fun v => v.info.id)).Nodup) (hid : w.info.id = v.info.id) :
    Agrees (m.insert w.info.id w) (ls ++ w :: rs) := by
  have hd' : ((ls ++ w :: rs).map (fun v => v.info.id)).Nodup := by
    simpa [hid] using hd
  have hmem : v.info.id ∈ m.keys := by
    rw [Finmap.mem_keys, ← Finmap.lookup_isSome, h.lookup, find?_middle hd]
    simp
  refine ⟨?_, ?_⟩
  · intro id
    rw [find?_middle hd']
    by_cases hk : w.info.id = id
    · subst hk
      rw [Finmap.lookup_insert, if_pos rfl]
    · rw [Finmap.lookup_insert_of_ne _ (Ne.symm hk), h.lookup, find?_middle hd, if_neg hk,
        if_neg (hid ▸ hk)]
  · have hkeys : (m.insert w.info.id w).keys = m.keys := by
      ext id
      rw [Finmap.mem_keys, Finmap.mem_insert, Finmap.mem_keys, hid]
      refine or_iff_right_of_imp ?_
      rintro rfl
      exact Finmap.mem_keys.mp hmem
    rw [hkeys, h.card]
    simp

/-- Appending a variable with a new id is inserting it into the map. -/
lemma Agrees.append (h : Agrees m vars) (hnew : v.info.id ∉ vars.map (fun v => v.info.id)) :
    Agrees (m.insert v.info.id v) (vars ++ [v]) := by
  have hnone : m.lookup v.info.id = none := by
    rw [h.lookup, find?_eq_none_of_notMem hnew]
  refine ⟨?_, ?_⟩
  · intro id
    by_cases hk : v.info.id = id
    · subst hk
      rw [Finmap.lookup_insert, List.find?_append, find?_eq_none_of_notMem hnew]
      simp
    · rw [Finmap.lookup_insert_of_ne _ (Ne.symm hk), h.lookup, List.find?_append]
      simp [hk]
  · have hkeys : (m.insert v.info.id v).keys = insert v.info.id m.keys := by
      ext id
      rw [Finmap.mem_keys, Finmap.mem_insert, Finset.mem_insert, Finmap.mem_keys]
    have hnotMem : v.info.id ∉ m.keys := by
      rw [Finmap.mem_keys]
      exact Finmap.lookup_eq_none.mp hnone
    rw [hkeys, Finset.card_insert_of_notMem hnotMem, h.card, List.length_append,
      List.length_singleton]

/-- Overwriting the variable at an index. -/
lemma Agrees.modify {i : ℕ} (h : Agrees m vars) (hd : (vars.map (fun v => v.info.id)).Nodup)
    (hi : vars[i]? = some v) {f : Variable → Variable} (hid : (f v).info.id = v.info.id) :
    Agrees (m.insert v.info.id (f v)) (vars.modify i f) := by
  obtain ⟨hlt, hget⟩ := List.getElem?_eq_some_iff.mp hi
  have hsplit : vars = vars.take i ++ v :: vars.drop (i + 1) := by
    rw [← hget]
    simp
  have hmodify : vars.modify i f = vars.take i ++ f v :: vars.drop (i + 1) := by
    rw [List.modify_eq_take_cons_drop hlt, hget]
  rw [hsplit] at h hd
  rw [hmodify, ← hid]
  exact h.replace hd hid

end Agrees

end ZejfMeteo
