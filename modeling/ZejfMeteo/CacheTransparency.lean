import ZejfMeteo.Storage
import ZejfMeteo.ReferenceStore
import ZejfMeteo.Lib.Simulation

/-!
# The cache is transparent

With a platform that stores files faithfully, the bounded cache and the files together
behave as the reference store. `Couples` is the invariant: for every hour, the cached copy
or else the saved file agrees with the reference.
-/

namespace ZejfMeteo
open Runs

variable {δ : Type}

/-- A platform whose storage works: saving succeeds and loading returns the bytes last
saved. -/
structure FaithfulStorage (T : Target δ) where
  files : δ → UInt32 → Option (List UInt8)
  load_missing : ∀ n p, files p n = none → (T.hourLoad n p).1.1 = .fileDoesntExist
  load_saved : ∀ n p b, files p n = some b → (T.hourLoad n p).1 = (.ok, b)
  load_files : ∀ n p, files (T.hourLoad n p).2 = files p
  save_ok : ∀ n b p, (T.hourSave n b p).1 = .ok
  save_files : ∀ n b p, files (T.hourSave n b p).2 = Function.update (files p) n (some b)

def FaithfulStorage.recalling {T : Target δ} (D : FaithfulStorage T) : RecallingStorage T where
  files := D.files
  load_missing := D.load_missing
  load_saved := D.load_saved
  load_files := D.load_files
  save_files n b p := by rw [if_pos (D.save_ok n b p), D.save_files]

def localVars (T : Target δ) (xs : List (ℕ × DataHour)) (platform : δ) (n : UInt32) :
    List Variable :=
  match localHour T xs platform n with
  | some hour => hour.vars
  | none => []

section LocalVars

variable {T : Target δ} {xs : List (ℕ × DataHour)} {x : ℕ × DataHour} {platform : δ}
  {n : UInt32}

lemma localVars_cached (hd : (xs.map (fun x => x.2.hourId)).Nodup) (hx : x ∈ xs)
    (hid : x.2.hourId = n) : localVars T xs platform n = x.2.vars := by
  obtain ⟨pre, post, rfl⟩ := List.append_of_mem hx
  rw [List.map_append, List.map_cons] at hd
  have hnot := (List.nodup_cons.mp (List.nodup_append.mp hd).2.1).1
  have hpost : ∀ y ∈ post, y.2.hourId ≠ n := by
    intro y hy he
    exact hnot (List.mem_map.mpr ⟨y, hy, he.trans hid.symm⟩)
  rw [localVars, localHour_cached rfl hid hpost]

lemma localVars_missed (h : ∀ y ∈ xs, y.2.hourId ≠ n) : localVars T xs platform n =
    match fetched T n true false platform with
    | some hour => hour.vars
    | none => [] := by
  rw [localVars, localHour_missed h]

end LocalVars

/-- The cache holds well-formed hours, no hour twice, every file is that of a well-formed
hour of its number, and what counts of every hour agrees with the reference store. -/
structure Couples {T : Target δ} (D : FaithfulStorage T) (s : Globals δ)
    (xs : List (ℕ × DataHour)) (m : RefStore) : Prop where
  cache : s.CacheHolds T xs
  ids : (xs.map (fun x => x.2.hourId)).Nodup
  files : ∀ n b, D.files s.platform n = some b →
    ∃ hour : DataHour, hour.WellFormed T.toSettings ∧ hour.hourId = n ∧ b = hourBytes hour.sealed
  agrees : ∀ n, Agrees (m n) (localVars T xs s.platform n)

section Coupling

variable {T : Target δ} {D : FaithfulStorage T} {s : Globals δ} {xs pre post : List (ℕ × DataHour)}
  {m : RefStore} {a : ℕ} {h : DataHour} {n : UInt32}

lemma fetched_saved {platform : δ} {hour : DataHour} (hwf : hour.WellFormed T.toSettings)
    (hfile : D.files platform n = some (hourBytes hour.sealed)) (create : Bool) :
    fetched T n true create platform = some { hour.sealed with flags := 0 } :=
  D.recalling.fetched_saved hwf hfile create

lemma fetched_missing {platform : δ} (hfile : D.files platform n = none) (create : Bool) :
    fetched T n true create platform = if create then some (hourCreate n) else none :=
  D.recalling.fetched_missing hfile create

/-- What a load of an hour brings in depends on the files only. -/
lemma fetched_congr {p p' : δ} (hfiles : D.files p n = D.files p' n)
    (hok : ∀ b, D.files p n = some b →
      ∃ hour : DataHour, hour.WellFormed T.toSettings ∧ hour.hourId = n ∧ b = hourBytes hour.sealed) :
    fetched T n true false p = fetched T n true false p' := by
  cases hf : D.files p n with
  | none => rw [fetched_missing hf, fetched_missing (hfiles ▸ hf)]
  | some b =>
    obtain ⟨hour, hwf, -, rfl⟩ := hok b hf
    rw [fetched_saved hwf hf, fetched_saved hwf (hfiles ▸ hf)]

lemma Couples.congr {t : Globals δ} (hc : Couples D s xs m) (hq : t.dataQueue = s.dataQueue)
    (hp : t.platform = s.platform) : Couples D t xs m where
  cache := ⟨hq ▸ hc.cache.queue, hq ▸ hc.cache.capacity, hc.cache.wellFormed⟩
  ids := hc.ids
  files := hp ▸ hc.files
  agrees := hp ▸ hc.agrees

lemma Couples.others (hc : Couples D s (pre ++ (a, h) :: post) m) :
    ∀ y ∈ pre ++ post, y.2.hourId ≠ h.hourId := hourId_others hc.ids

/-- A cached hour agrees with the reference. -/
lemma Couples.agrees_cached (hc : Couples D s (pre ++ (a, h) :: post) m) :
    Agrees (m h.hourId) h.vars := by
  have hlocal := hc.agrees h.hourId
  rwa [localVars, localHour_cached rfl rfl
    (fun y hy => hc.others y (List.mem_append_right _ hy))] at hlocal

/-- Changing the contents of a cached hour changes the reference for this hour only. -/
lemma Couples.update (hc : Couples D s (pre ++ (a, h) :: post) m) {q : LinkedList DataHour}
    {h' : DataHour} {mh : RefHour} (hq : q.Holds (pre ++ (a, h') :: post))
    (hcap : q.capacity = s.dataQueue.capacity) (hid : h'.hourId = h.hourId)
    (hwf : h'.WellFormed T.toSettings) (hmh : Agrees mh h'.vars) :
    Couples D { s with dataQueue := q } (pre ++ (a, h') :: post)
      (Function.update m h.hourId mh) where
  cache := hc.cache.update hq hcap hwf
  ids := hourIds_replace hc.ids hid
  files := hc.files
  agrees n := by
    have hothers := hc.others
    by_cases hn : n = h.hourId
    · subst hn
      rw [Function.update_self, localVars, localHour_cached rfl hid
        (fun y hy => hothers y (List.mem_append_right _ hy))]
      exact hmh
    · rw [Function.update_of_ne hn]
      have hsame : localHour T (pre ++ (a, h') :: post) s.platform n =
          localHour T (pre ++ (a, h) :: post) s.platform n := by
        have hne : (h.hourId == n) = false := beq_eq_false_iff_ne.mpr (Ne.symm hn)
        have hne' : (h'.hourId == n) = false := by rw [hid, hne]
        simp only [localHour, List.reverse_append, List.reverse_cons, List.append_assoc,
          List.find?_append, List.singleton_append, List.find?_cons, hne, hne']
      have hagrees := hc.agrees n
      rwa [localVars, ← hsame] at hagrees

lemma fetched_hourId {platform : δ} {hour : DataHour} {create : Bool}
    (hok : ∀ b, D.files platform n = some b →
      ∃ hour : DataHour, hour.WellFormed T.toSettings ∧ hour.hourId = n ∧ b = hourBytes hour.sealed)
    (hnew : fetched T n true create platform = some hour) :
    hour.hourId = n ∧ (match fetched T n true false platform with
      | some hour => hour.vars
      | none => []) = hour.vars := by
  cases hf : D.files platform n with
  | none =>
    rw [fetched_missing hf] at hnew ⊢
    cases create with
    | false => simp at hnew
    | true =>
      rw [← Option.some_inj.mp hnew]
      exact ⟨rfl, rfl⟩
  | some b =>
    obtain ⟨saved, hwf, hid, rfl⟩ := hok b hf
    rw [fetched_saved hwf hf] at hnew ⊢
    rw [← Option.some_inj.mp hnew]
    exact ⟨hid, rfl⟩

lemma afterLoad_files (D : FaithfulStorage T) (n : UInt32) (load : Bool) (platform : δ) :
    D.files (afterLoad T n load platform) = D.files platform :=
  D.recalling.afterLoad_files n load platform

/-- A rotation of the cache changes nothing. -/
lemma Couples.rotate {x : ℕ × DataHour} {q : LinkedList DataHour}
    (hc : Couples D s (pre ++ x :: post) m)
    (hq : ({ s with dataQueue := q } : Globals δ).CacheHolds T (x :: (post ++ pre))) :
    Couples D { s with dataQueue := q } (x :: (post ++ pre)) m := by
  have hperm : (x :: (post ++ pre)).Perm (pre ++ x :: post) := by
    simpa using (List.perm_append_comm : (x :: post ++ pre).Perm (pre ++ x :: post))
  have hd : ((x :: (post ++ pre)).map (fun x => x.2.hourId)).Nodup :=
    (hperm.map _).nodup_iff.mpr hc.ids
  refine ⟨hq, hd, hc.files, ?_⟩
  intro k
  have hk := hc.agrees k
  by_cases hcached : ∃ y ∈ x :: (post ++ pre), y.2.hourId = k
  · obtain ⟨y, hy, hid⟩ := hcached
    rw [localVars_cached hc.ids (hperm.mem_iff.mp hy) hid] at hk
    rwa [localVars_cached hd hy hid]
  · have hmiss : ∀ y ∈ x :: (post ++ pre), y.2.hourId ≠ k := by simpa using hcached
    rw [localVars_missed (fun y hy => hmiss y (hperm.mem_iff.mpr hy))] at hk
    rwa [localVars_missed hmiss]

/-- An hour that comes in from its file, or is new, is what the reference holds of it. An
hour that goes out leaves its contents behind in its file. -/
lemma Couples.add {hour : DataHour} {node : ℕ} {q : LinkedList DataHour} {p : δ}
    {ys : List (ℕ × DataHour)} {create : Bool} (hc : Couples D s xs m)
    (hmiss : ∀ x ∈ xs, x.2.hourId ≠ n) (hnew : fetched T n true create s.platform = some hour)
    (hq : ({ s with dataQueue := q, platform := p } : Globals δ).CacheHolds T
      (ys ++ [(node, hour)]))
    (hroom : (ys = xs ∧ p = afterLoad T n true s.platform) ∨ ∃ x, xs = x :: ys ∧
      p = (T.hourSave x.2.hourId (hourBytes x.2.sealed) (afterLoad T n true s.platform)).2) :
    Couples D { s with dataQueue := q, platform := p } (ys ++ [(node, hour)]) m ∧
      hour.hourId = n := by
  obtain ⟨hid, hvars⟩ := fetched_hourId (hc.files n) hnew
  have hafter := afterLoad_files D n true s.platform
  have hkept : ys.Sublist xs := by
    rcases hroom with ⟨rfl, -⟩ | ⟨x, rfl, -⟩
    · exact List.Sublist.refl _
    · exact List.sublist_cons_self _ _
  -- A file is the same as before, unless it is that of the hour that went out.
  have hfile : ∀ k, (D.files p k = D.files s.platform k ∧
        ((∀ y ∈ ys, y.2.hourId ≠ k) → ∀ y ∈ xs, y.2.hourId ≠ k)) ∨
      ∃ x ∈ xs, x.2.hourId = k ∧ D.files p k = some (hourBytes x.2.sealed) := by
    intro k
    rcases hroom with ⟨rfl, rfl⟩ | ⟨x, rfl, rfl⟩
    · exact Or.inl ⟨by rw [hafter], fun h => h⟩
    · by_cases hk : x.2.hourId = k
      · refine Or.inr ⟨x, List.mem_cons_self, hk, ?_⟩
        rw [D.save_files, ← hk, Function.update_self]
      · refine Or.inl ⟨?_, ?_⟩
        · rw [D.save_files, Function.update_of_ne (Ne.symm hk), hafter]
        · intro h y hy
          rcases List.mem_cons.mp hy with rfl | hy
          · exact hk
          · exact h y hy
  have hd : ((ys ++ [(node, hour)]).map (fun x => x.2.hourId)).Nodup :=
    hourIds_added hc.ids hkept hmiss hid
  refine ⟨⟨hq, hd, ?_, ?_⟩, hid⟩
  · intro k b hb
    rcases hfile k with ⟨hsame, -⟩ | ⟨x, hx, hxk, hsaved⟩
    · exact hc.files k b (hsame ▸ hb)
    · exact ⟨x.2, hc.cache.wellFormed x hx, hxk, Option.some_inj.mp (hb.symm.trans hsaved)⟩
  · intro k
    have hk := hc.agrees k
    by_cases hkn : k = n
    · subst hkn
      rw [localVars_missed hmiss, hvars] at hk
      rwa [localVars_cached hd (x := (node, hour)) (by simp) hid]
    · by_cases hcached : ∃ y ∈ ys, y.2.hourId = k
      · obtain ⟨y, hy, hyk⟩ := hcached
        rw [localVars_cached hc.ids (hkept.subset hy) hyk] at hk
        rwa [localVars_cached hd (List.mem_append_left _ hy) hyk]
      · have hys : ∀ y ∈ ys, y.2.hourId ≠ k := by simpa using hcached
        have hmissed : ∀ y ∈ ys ++ [(node, hour)], y.2.hourId ≠ k := by
          intro y hy
          rcases List.mem_append.mp hy with hy | hy
          · exact hys y hy
          · rw [List.mem_singleton.mp hy, hid]
            exact Ne.symm hkn
        rw [localVars_missed hmissed]
        rcases hfile k with ⟨hsame, hxs⟩ | ⟨x, hx, hxk, hsaved⟩
        · rw [localVars_missed (hxs hys)] at hk
          rwa [fetched_congr (D := D) hsame (fun b hb => hc.files k b (hsame ▸ hb))]
        · rw [localVars_cached hc.ids hx hxk] at hk
          rwa [fetched_saved (hc.cache.wellFormed x hx) hsaved]

/-- A load alone changes no file. -/
lemma Couples.loaded (hc : Couples D s xs m) (n : UInt32) (load : Bool) :
    Couples D { s with platform := afterLoad T n load s.platform } xs m := by
  have hafter := afterLoad_files D n load s.platform
  refine ⟨⟨hc.cache.queue, hc.cache.capacity, hc.cache.wellFormed⟩, hc.ids, ?_, ?_⟩
  · intro k b hb
    exact hc.files k b (hafter ▸ hb)
  · intro k
    have hk := hc.agrees k
    by_cases hcached : ∃ y ∈ xs, y.2.hourId = k
    · obtain ⟨y, hy, hyk⟩ := hcached
      rw [localVars_cached hc.ids hy hyk] at hk
      rwa [localVars_cached hc.ids hy hyk]
    · have hmiss : ∀ y ∈ xs, y.2.hourId ≠ k := by simpa using hcached
      rw [localVars_missed hmiss] at hk
      rw [localVars_missed hmiss]
      rwa [fetched_congr (D := D) (congrFun hafter k) (fun b hb => hc.files k b (hafter ▸ hb))]

/-- Looking up an hour gives a cached hour, or there is nothing of it in the reference. -/
lemma Couples.get (hc : Couples D s xs m) (n : UInt32) (create : Bool) :
    (create = false ∧ (∀ id, (m n).lookup id = none) ∧ ∃ p,
        (datahourGet T n true create).run s = .ok none { s with platform := p } ∧
        Couples D { s with platform := p } xs m) ∨
      ∃ pre a h post q p, h.hourId = n ∧
        (datahourGet T n true create).run s =
          .ok (some a) { s with dataQueue := q, platform := p } ∧
        Couples D { s with dataQueue := q, platform := p } (pre ++ (a, h) :: post) m := by
  cases datahourGet_run hc.cache n true create with
  | hit pre x post q hxs hid hnewest hrun hq =>
    subst hxs
    exact Or.inr ⟨[], x.1, x.2, post ++ pre, q, s.platform, hid, hrun, hc.rotate hq⟩
  | absent hmiss hnothing hrun =>
    have hcreate : create = false := by
      cases hf : D.files s.platform n with
      | none =>
        rw [fetched_missing hf] at hnothing
        simpa using hnothing
      | some b =>
        obtain ⟨hour, hwf, -, rfl⟩ := hc.files n b hf
        rw [fetched_saved hwf hf] at hnothing
        cases hnothing
    subst hcreate
    refine Or.inl ⟨rfl, ?_, _, hrun, hc.loaded n true⟩
    intro id
    rw [(hc.agrees n).lookup, localVars_missed hmiss, hnothing]
    rfl
  | added hmiss hour node q p ys hfresh hnew hrun hq hroom =>
    obtain ⟨hc', hid⟩ := hc.add hmiss hnew hq hroom
    exact Or.inr ⟨ys, node, hour, [], q, p, hid, hrun, hc'⟩

end Coupling

section Operations

variable {T : Target δ} {D : FaithfulStorage T} {s : Globals δ} {xs pre post : List (ℕ × DataHour)}
  {m : RefStore} {a : ℕ} {h : DataHour} {n : UInt32}

/-- Reading a sample gives what the reference gives. -/
lemma dataGetVal_run (hc : Couples D s xs m) (info : VariableInfo) (n k : UInt32) :
    ∃ ys q p, (dataGetVal T info n k true false).run s =
        .ok (m.getVal info n k) { s with dataQueue := q, platform := p } ∧
      Couples D { s with dataQueue := q, platform := p } ys m := by
  rcases hc.get n false with ⟨-, hnone, p, hrun, hc'⟩ | ⟨pre, a, h, post, q, p, rfl, hrun, hc'⟩
  · refine ⟨xs, s.dataQueue, p, ?_, hc'⟩
    rw [dataGetVal, run_bind_ok hrun, RefStore.getVal, hnone]
    rfl
  · refine ⟨_, q, p, ?_, hc'⟩
    rw [dataGetVal, run_bind_ok hrun]
    simp only
    rw [run_bind_ok (readHour_run hc'.cache.queue), RefStore.getVal, hc'.agrees_cached.lookup]
    cases hv : h.vars.find? (fun v => v.info.id == info.id) with
    | none => rfl
    | some v =>
      simp only
      by_cases hk : v.info.samplesPerHour ≤ k
      · rw [if_pos hk, if_pos hk]
        rfl
      · have hlt : k.toNat < v.data.length := by
          rw [v.size_eq]
          exact UInt32.lt_iff_toNat_lt.mp (UInt32.not_le.mp hk)
        rw [if_neg hk, if_neg hk, List.getElem?_eq_getElem hlt]
        rfl

/-- Overwriting a variable of a cached hour is putting it into the reference. -/
lemma Couples.put (hc : Couples D s (pre ++ (a, h) :: post) m) {i : ℕ} {v : Variable}
    (hi : h.vars[i]? = some v) {f : Variable → Variable} (hf : ∀ v, (f v).info = v.info) :
    ∃ q, (updateHour a (fun h => { h with vars := h.vars.modify i f })).run s =
        .ok () { s with dataQueue := q } ∧
      Couples D { s with dataQueue := q }
        (pre ++ (a, { h with vars := h.vars.modify i f }) :: post)
        (m.put h.hourId v.info.id (f v)) := by
  have hwf := hc.cache.wellFormed (a, h) (by simp)
  obtain ⟨q, hrun, hq, hcap⟩ := updateHour_run hc.cache.queue
    (fun h => { h with vars := h.vars.modify i f })
  have hmh := hc.agrees_cached.modify hwf.ids_nodup hi (f := f) (by rw [hf])
  exact ⟨q, hrun, hc.update hq hcap rfl (hwf.modify i hf) hmh⟩

/-- Counting samples gives what the reference gives. -/
lemma calculateDataCheck_run (hc : Couples D s xs m) (info : VariableInfo) (n k : UInt32) :
    ∃ ys q p, (calculateDataCheck T info n k).run s =
        .ok (m.check (isProvided T info) info n k).1
          { s with dataQueue := q, platform := p } ∧
      Couples D { s with dataQueue := q, platform := p } ys
        (m.check (isProvided T info) info n k).2 := by
  rcases hc.get n false with ⟨-, hnone, p, hrun, hc'⟩ | ⟨pre, a, h, post, q, p, rfl, hrun, hc'⟩
  · rw [RefStore.check, hnone]
    refine ⟨xs, s.dataQueue, p, ?_, hc'⟩
    rw [calculateDataCheck, run_bind_ok hrun]
    rfl
  · rw [calculateDataCheck, run_bind_ok hrun]
    simp only
    rw [run_bind_ok (readHour_run hc'.cache.queue), RefStore.check, hc'.agrees_cached.lookup]
    cases hv : getVariable h info.id with
    | none =>
      rw [getVariable_none hv]
      exact ⟨_, q, p, rfl, hc'⟩
    | some i =>
      obtain ⟨v, hi, hfind, hid⟩ := getVariable_some hv
      simp only [hi, hfind]
      by_cases hrate : info.samplesPerHour ≠ v.info.samplesPerHour
      · rw [if_pos hrate, if_pos hrate]
        exact ⟨_, q, p, rfl, hc'⟩
      · obtain ⟨q', hupdate, hc''⟩ := hc'.put hi (f := (·.counted (isProvided T info) k))
          (fun _ => rfl)
        rw [if_neg hrate, if_neg hrate, run_bind_ok hupdate]
        rw [hid] at hc''
        exact ⟨_, q', p, rfl, hc''⟩

/-- Saving a cached hour does not change what counts of it. -/
lemma Couples.saved (hc : Couples D s (pre ++ (a, h) :: post) m) :
    Couples D { s with platform := (T.hourSave h.hourId (hourBytes h.sealed) s.platform).2 }
      (pre ++ (a, h) :: post) m := by
  have hmem : (a, h) ∈ pre ++ (a, h) :: post := by simp
  refine ⟨⟨hc.cache.queue, hc.cache.capacity, hc.cache.wellFormed⟩, hc.ids, ?_, ?_⟩
  · intro k b hb
    rw [D.save_files] at hb
    by_cases hk : k = h.hourId
    · subst hk
      rw [Function.update_self] at hb
      exact ⟨h, hc.cache.wellFormed _ hmem, rfl, (Option.some_inj.mp hb).symm⟩
    · rw [Function.update_of_ne hk] at hb
      exact hc.files k b hb
  · intro k
    have hk := hc.agrees k
    by_cases hcached : ∃ y ∈ pre ++ (a, h) :: post, y.2.hourId = k
    · obtain ⟨y, hy, hyk⟩ := hcached
      rw [localVars_cached hc.ids hy hyk] at hk
      rwa [localVars_cached hc.ids hy hyk]
    · have hmiss : ∀ y ∈ pre ++ (a, h) :: post, y.2.hourId ≠ k := by simpa using hcached
      have hfiles : D.files (T.hourSave h.hourId (hourBytes h.sealed) s.platform).2 k =
          D.files s.platform k := by
        rw [D.save_files, Function.update_of_ne (Ne.symm (hmiss _ hmem))]
      rw [localVars_missed hmiss] at hk
      rw [localVars_missed hmiss]
      rwa [fetched_congr (D := D) hfiles (fun b hb => hc.files k b (hfiles ▸ hb))]

/-- Changing flags and checksum of a cached hour changes nothing that counts. -/
lemma Couples.relabel (hc : Couples D s (pre ++ (a, h) :: post) m) {f : DataHour → DataHour}
    (hid : (f h).hourId = h.hourId) (hvars : (f h).vars = h.vars) :
    ∃ q, (updateHour a f).run s = .ok () { s with dataQueue := q } ∧
      Couples D { s with dataQueue := q } (pre ++ (a, f h) :: post) m := by
  have hwf := hc.cache.wellFormed (a, h) (by simp)
  obtain ⟨q, hrun, hq, hcap⟩ := updateHour_run hc.cache.queue f
  have hwf' : (f h).WellFormed T.toSettings :=
    ⟨hvars ▸ hwf.count_le, hvars ▸ hwf.ids_nodup, hvars ▸ hwf.rate_pos, hvars ▸ hwf.rate_le⟩
  have hc' := hc.update hq hcap hid hwf' (hvars ▸ hc.agrees_cached)
  rw [Function.update_eq_self] at hc'
  exact ⟨q, hrun, hc'⟩

/-- One round of `data_save` writes an hour out or leaves it. -/
lemma dataSaveHour_run (hc : Couples D s (pre ++ (a, h) :: post) m) :
    ∃ q p h', (dataSaveHour T a).run s = .ok () { s with dataQueue := q, platform := p } ∧
      Couples D { s with dataQueue := q, platform := p } (pre ++ (a, h') :: post) m := by
  rw [dataSaveHour, run_bind_ok (readHour_run hc.cache.queue)]
  by_cases hflags : h.flags &&& flagModified ≠ 0
  · rw [if_pos hflags, run_bind_ok (datahourSave_run h s)]
    obtain ⟨q, hrun, hc'⟩ := hc.saved.relabel (f := fun _ => { h.sealed with flags := 0 }) rfl rfl
    refine ⟨q, _, _, ?_, hc'⟩
    rw [← hrun, D.save_ok]
    rfl
  · rw [if_neg hflags]
    exact ⟨s.dataQueue, s.platform, h, rfl, hc⟩

lemma dataSave_run (hc : Couples D s xs m) :
    ∃ ys q p, (dataSave T).run s = .ok () { s with dataQueue := q, platform := p } ∧
      Couples D { s with dataQueue := q, platform := p } ys m :=
  dataSave_keeps (I := fun s xs => Couples D s xs m) (fun _ _ hc => hc.cache)
    (fun _ _ _ _ _ hc => dataSaveHour_run hc) hc

variable {tx rx : List Queued} {es : List RoutingEntry}

/-- Logging into a variable gives what the reference gives. -/
lemma dataLogAt_run (hc : Couples D s (pre ++ (a, h) :: post) m) (hn : NetworkHolds T s tx rx es)
    {i : ℕ} {v : Variable} (hi : h.vars[i]? = some v) {target : VariableInfo}
    (hid : v.info.id = target.id) (k : UInt32) (value : Sample) (time : UInt32) (announce : Bool) :
    ∃ ys q tq ps sent, (dataLogAt T a i target h.hourId k value time announce).run s =
        .ok (RefStore.write target h.hourId k value v m).1
          { s with dataQueue := q, txQueue := tq, packets := ps } ∧
      Couples D { s with dataQueue := q, txQueue := tq, packets := ps } ys
        (RefStore.write target h.hourId k value v m).2 ∧
      NetworkHolds T { s with dataQueue := q, txQueue := tq, packets := ps } (tx ++ sent) rx es := by
  have hn' : NetworkHolds T s (tx ++ []) rx es := by simpa using hn
  rw [dataLogAt, run_bind_ok (readHour_run hc.cache.queue)]
  simp only [hi, RefStore.write]
  by_cases hrate : v.info.samplesPerHour ≠ target.samplesPerHour
  · rw [if_pos hrate, if_pos hrate]
    exact ⟨_, _, _, _, [], rfl, hc, hn'⟩
  rw [if_neg hrate, if_neg hrate]
  by_cases hk : v.info.samplesPerHour ≤ k
  · rw [if_pos hk, if_pos hk]
    exact ⟨_, _, _, _, [], rfl, hc, hn'⟩
  rw [if_neg hk, if_neg hk]
  have hlt : k.toNat < v.data.length := by
    rw [v.size_eq]
    exact UInt32.lt_iff_toNat_lt.mp (UInt32.not_le.mp hk)
  rw [List.getD_eq_getElem?_getD, List.getElem?_eq_getElem hlt, Option.getD_some]
  simp only
  by_cases hvalue : Measured v.data[k.toNat] ∧ ¬Measured value
  · rw [if_pos hvalue, if_pos hvalue]
    exact ⟨_, _, _, _, [], rfl, hc, hn'⟩
  rw [if_neg hvalue, if_neg hvalue]
  obtain ⟨q, hput, hc'⟩ := hc.put hi (f := (·.setSample k.toNat value)) (fun _ => rfl)
  rw [hid] at hc'
  obtain ⟨tq, ps, sent, hspread, -, hns, -⟩ :=
    spreadLog_run (hn.data q s.platform) target h.hourId k value time announce
  have hc'' := hc'.congr (t := { s with dataQueue := q, txQueue := tq, packets := ps }) rfl rfl
  obtain ⟨q', hflag, hc₃⟩ := hc''.relabel (f := fun h => { h with flags := flagModified }) rfl rfl
  refine ⟨_, q', tq, ps, sent, ?_, hc₃, hns.data q' s.platform⟩
  rw [run_bind_ok hput, run_bind_ok hspread, run_bind_ok hflag]
  rfl

/-- Adding a variable to a cached hour is what the reference checks and does. -/
lemma hourAddVariable_ref (hc : Couples D s (pre ++ (a, h) :: post) m) {target : VariableInfo}
    (hnone : h.vars.find? (fun v => v.info.id == target.id) = none) :
    hourAddVariable T.toSettings h target =
      if target.samplesPerHour = 0 ∨ T.sampleRateMax < target.samplesPerHour.toNat then
        (.invalidSampleRate, h)
      else if (m h.hourId).keys.card = T.variablesMax then (.variablesMax, h)
      else (.ok, { h with vars := h.vars ++ [Variable.create target] }) := by
  have hwf := hc.cache.wellFormed (a, h) (by simp)
  have hany : ¬h.vars.any (fun v => v.info.id == target.id) = true := by
    rw [List.any_eq_true]
    rintro ⟨v, hv, hid⟩
    exact absurd hid (List.find?_eq_none.mp hnone v hv)
  rw [hourAddVariable, hwf.variableCount_toNat, hc.agrees_cached.card, if_neg hany]

/-- Logging gives what the reference gives. -/
lemma dataLog_run (hc : Couples D s xs m) (hn : NetworkHolds T s tx rx es) (target : VariableInfo)
    (n k : UInt32) (value : Sample) (time : UInt32) (announce : Bool) :
    ∃ ys q p tq ps sent, (dataLog T target n k value time announce).run s =
        .ok (RefStore.log T.toSettings target n k value m).1
          { s with dataQueue := q, platform := p, txQueue := tq, packets := ps } ∧
      Couples D { s with dataQueue := q, platform := p, txQueue := tq, packets := ps } ys
        (RefStore.log T.toSettings target n k value m).2 ∧
      NetworkHolds T { s with dataQueue := q, platform := p, txQueue := tq, packets := ps }
        (tx ++ sent) rx es := by
  rcases hc.get n true with ⟨hfalse, -⟩ | ⟨pre, a, h, post, q, p, rfl, hrun, hc'⟩
  · cases hfalse
  have hn' := hn.data q p
  rw [dataLog, run_bind_ok hrun]
  simp only
  rw [run_bind_ok (readHour_run hc'.cache.queue), RefStore.log, hc'.agrees_cached.lookup]
  cases hv : getVariable h target.id with
  | some i =>
    obtain ⟨v, hi, hfind, hid⟩ := getVariable_some hv
    rw [hfind]
    obtain ⟨ys, q', tq, ps, sent, hlog, hc'', hn''⟩ :=
      dataLogAt_run hc' hn' hi hid k value time announce
    exact ⟨ys, q', p, tq, ps, sent, hlog, hc'', hn''⟩
  | none =>
    have hnone := getVariable_none hv
    rw [hnone, hourAddVariable_ref hc' hnone]
    have hn₀ : NetworkHolds T { s with dataQueue := q, platform := p } (tx ++ []) rx es := by
      simpa using hn'
    simp only
    by_cases hrate : target.samplesPerHour = 0 ∨ T.sampleRateMax < target.samplesPerHour.toNat
    · rw [if_pos hrate, if_pos hrate]
      exact ⟨_, q, p, s.txQueue, s.packets, [], rfl, hc', hn₀⟩
    rw [if_neg hrate, if_neg hrate]
    by_cases hfull : (m h.hourId).keys.card = T.variablesMax
    · rw [if_pos hfull, if_pos hfull]
      exact ⟨_, q, p, s.txQueue, s.packets, [], rfl, hc', hn₀⟩
    rw [if_neg hfull, if_neg hfull]
    have hadd : hourAddVariable T.toSettings h target =
        (.ok, { h with vars := h.vars ++ [Variable.create target] }) := by
      rw [hourAddVariable_ref hc' hnone, if_neg hrate, if_neg hfull]
    have hwf := hc'.cache.wellFormed (a, h) (by simp)
    have haddable := hourAddVariable_addable hwf hadd
    obtain ⟨q', hupdate, hq', hcap'⟩ := updateHour_run hc'.cache.queue
      (fun _ => { h with vars := h.vars ++ [Variable.create target] })
    have hc'' := hc'.update hq' hcap' rfl (hwf.append (v := Variable.create target) haddable)
      (hc'.agrees_cached.append (v := Variable.create target) haddable.new)
    have hindex := getVariable_added hv
    have hlast : (h.vars ++ [Variable.create target])[h.vars.length]? =
        some (Variable.create target) := by simp
    obtain ⟨ys, q'', tq, ps, sent, hlog, hc₃, hn₃⟩ := dataLogAt_run hc'' (hn'.data q' p) hlast rfl
      k value time announce
    refine ⟨ys, q'', p, tq, ps, sent, ?_, hc₃, hn₃⟩
    simp only [ne_eq, not_true, if_false]
    rw [run_bind_ok hupdate]
    simp only [hindex]
    exact hlog

end Operations

end ZejfMeteo
