import ZejfMeteo.Data

/-!
# Data operations over any platform

What the data functions leave behind whatever the platform loads and saves: the hours of the
cache stay where the lookup put them, and the packets that are sent on the way are queued.
-/

namespace ZejfMeteo
open Runs

variable {δ : Type}

/-- `data_log` on a variable of an hour, as far as the hour goes. -/
def DataHour.logAt (h : DataHour) (index : ℕ) (target : VariableInfo) (sampleNumber : UInt32)
    (value : Sample) : ZejfErr × DataHour :=
  match h.vars[index]? with
  | none => (.null, h)
  | some v =>
    if v.info.samplesPerHour ≠ target.samplesPerHour then (.invalidSampleRate, h)
    else if v.info.samplesPerHour ≤ sampleNumber then (.logNumber, h)
    else if Measured (v.data.getD sampleNumber.toNat valueEmpty) ∧ ¬Measured value then (.value, h)
    else (.ok, { h with
      vars := h.vars.modify index (·.setSample sampleNumber.toNat value)
      flags := flagModified })

/-- `data_log` on an hour that has been looked up. A variable that has been added stays even if
the log then fails. -/
def DataHour.log (cfg : Settings) (h : DataHour) (target : VariableInfo) (sampleNumber : UInt32)
    (value : Sample) : ZejfErr × DataHour :=
  match getVariable h target.id with
  | some index => h.logAt index target sampleNumber value
  | none =>
    match hourAddVariable cfg h target with
    | (.ok, added) => added.logAt h.vars.length target sampleNumber value
    | (rv, _) => (rv, h)

/-- What an hour has for a variable at a sample number. -/
def DataHour.sample (h : DataHour) (id : UInt16) (sampleNumber : UInt32) : Option Sample :=
  (h.vars.find? (fun v => v.info.id == id)).bind (fun v => v.data[sampleNumber.toNat]?)

/-- `data_get_val` on an hour that has been looked up. -/
def DataHour.read (h : DataHour) (id : UInt16) (sampleNumber : UInt32) :
    ZejfErr × Option Sample :=
  match h.vars.find? (fun v => v.info.id == id) with
  | none => (.null, none)
  | some v =>
    match v.data[sampleNumber.toNat]? with
    | none => (.logNumber, none)
    | some val => (.ok, some val)

lemma DataHour.read_eq_ok_iff {h : DataHour} {id : UInt16} {k : UInt32} {val : Option Sample} :
    h.read id k = (.ok, val) ↔ ∃ w, val = some w ∧ h.sample id k = some w := by
  unfold DataHour.read DataHour.sample
  cases h.vars.find? (fun v => v.info.id == id) with
  | none => simp
  | some v =>
    simp only [Option.bind_some]
    cases v.data[k.toNat]? with
    | none => simp
    | some w => simp [eq_comm]

/-- The hours that are cached, from the next one to be evicted on. -/
def Globals.cached (s : Globals δ) : List (ℕ × DataHour) := s.dataQueue.items

/-- Which nodes hold which hours. -/
def hourKeys (xs : List (ℕ × DataHour)) : List (ℕ × UInt32) := xs.map (fun x => (x.1, x.2.hourId))

section Keys

variable {xs ys : List (ℕ × DataHour)}

@[simp] lemma hourKeys_append : hourKeys (xs ++ ys) = hourKeys xs ++ hourKeys ys :=
  List.map_append

@[simp] lemma hourKeys_cons (x : ℕ × DataHour) :
    hourKeys (x :: xs) = (x.1, x.2.hourId) :: hourKeys xs := rfl

lemma map_fst_hourKeys : (hourKeys xs).map Prod.fst = xs.map Prod.fst := by
  rw [hourKeys, List.map_map]
  rfl

lemma map_snd_hourKeys : (hourKeys xs).map Prod.snd = xs.map (fun x => x.2.hourId) := by
  rw [hourKeys, List.map_map]
  rfl

/-- An hour that is cached once is no other cached hour. -/
lemma hourId_others {pre post : List (ℕ × DataHour)} {a : ℕ} {h : DataHour}
    (hd : ((pre ++ (a, h) :: post).map (fun x => x.2.hourId)).Nodup) :
    ∀ y ∈ pre ++ post, y.2.hourId ≠ h.hourId :=
  fun _ hy => ne_of_nodup_map (f := fun x => x.2.hourId) hd hy

lemma find?_hourId {x : ℕ × DataHour} {n : UInt32} (hd : (xs.map (fun x => x.2.hourId)).Nodup)
    (hx : x ∈ xs) (hid : x.2.hourId = n) : xs.find? (fun x => x.2.hourId == n) = some x := by
  cases hfind : xs.find? (fun x => x.2.hourId == n) with
  | none =>
    rw [List.find?_eq_none] at hfind
    exact absurd (by simpa using hid) (hfind x hx)
  | some y =>
    have hy : y.2.hourId = n := by simpa using List.find?_some hfind
    rw [List.inj_on_of_nodup_map hd (List.mem_of_find?_eq_some hfind) hx (hy.trans hid.symm)]

/-- No hour is cached twice when one of them has been changed. -/
lemma hourIds_replace {pre post : List (ℕ × DataHour)} {a : ℕ} {h h' : DataHour}
    (hd : ((pre ++ (a, h) :: post).map (fun x => x.2.hourId)).Nodup)
    (hid : h'.hourId = h.hourId) :
    ((pre ++ (a, h') :: post).map (fun x => x.2.hourId)).Nodup := by
  rw [List.map_append, List.map_cons] at hd ⊢
  rwa [hid]

/-- Nor when one has come in that was missed. -/
lemma hourIds_added {ys : List (ℕ × DataHour)} {node : ℕ} {hour : DataHour} {n : UInt32}
    (hd : (xs.map (fun x => x.2.hourId)).Nodup) (hsub : ys.Sublist xs)
    (hmiss : ∀ x ∈ xs, x.2.hourId ≠ n) (hid : hour.hourId = n) :
    ((ys ++ [(node, hour)]).map (fun x => x.2.hourId)).Nodup := by
  rw [List.map_append, List.map_singleton, List.nodup_append]
  refine ⟨(hsub.map _).nodup hd, List.nodup_singleton _, ?_⟩
  intro i hi j hj
  obtain ⟨y, hy, rfl⟩ := List.mem_map.mp hi
  rw [List.mem_singleton.mp hj, hid]
  exact hmiss y (hsub.subset hy)

end Keys

section Runs

variable {T : Target δ} {s : Globals δ} {xs pre post : List (ℕ × DataHour)} {a : ℕ} {h : DataHour}
  {tx rx : List Queued} {es : List RoutingEntry}

lemma Globals.CacheHolds.cached_eq (hc : s.CacheHolds T xs) : s.cached = xs := hc.queue.items_eq

lemma Globals.CacheHolds.congr {t : Globals δ} (hc : s.CacheHolds T xs)
    (hq : t.dataQueue = s.dataQueue) : t.CacheHolds T xs :=
  ⟨hq ▸ hc.queue, hq ▸ hc.capacity, hc.wellFormed⟩

/-- A variable that has just been added is found at the end. -/
lemma getVariable_added {target : VariableInfo} (hv : getVariable h target.id = none) :
    getVariable { h with vars := h.vars ++ [Variable.create target] } target.id =
      some h.vars.length := by
  rw [getVariable] at hv
  rw [getVariable, List.findIdx?_append, hv]
  simp [Variable.create]

lemma Globals.CacheHolds.updateHour (hc : s.CacheHolds T (pre ++ (a, h) :: post))
    {f : DataHour → DataHour} (hwf : (f h).WellFormed T.toSettings) :
    ∃ q, (ZejfMeteo.updateHour a f).run s = .ok () { s with dataQueue := q } ∧
      ({ s with dataQueue := q } : Globals δ).CacheHolds T (pre ++ (a, f h) :: post) := by
  obtain ⟨q, hrun, hq, hcap⟩ := updateHour_run hc.queue f
  exact ⟨q, hrun, hc.update hq hcap hwf⟩

lemma spreadLog_run (hn : NetworkHolds T s tx rx es) (target : VariableInfo) (n k : UInt32)
    (value : Sample) (time : UInt32) (announce : Bool) :
    ∃ tq ps sent, (spreadLog T target n k value time announce).run s =
        .ok () { s with txQueue := tq, packets := ps } ∧
      tq.capacity = s.txQueue.capacity ∧
      NetworkHolds T { s with txQueue := tq, packets := ps } (tx ++ sent) rx es ∧
      (∀ b, ({ s with txQueue := tq, packets := ps } : Globals δ).Loose (tx ++ sent) rx b ↔
        s.Loose tx rx b) ∧ ∀ q ∈ sent, q.packet.command = dataLogCommand := by
  have htable : ∀ {tq ps}, ({ s with txQueue := tq, packets := ps } : Globals δ).TableHolds
      T.routingTableSize es := hn.table.congr rfl rfl
  cases announce with
  | false =>
    obtain ⟨rv, tq, ps, sent, hrun, hcap, hq, hloose, hsent⟩ :=
      networkBroadcastLog_run (T := T) hn.queues hn.table target n k value time
    exact ⟨tq, ps, sent, (run_bind_ok hrun).trans rfl, hcap, ⟨hq, htable⟩, hloose, hsent⟩
  | true =>
    obtain ⟨rv, tq, ps, sent, hrun, hcap, hq, hloose, hsent⟩ :=
      networkAnnounceLog_run (T := T) hn.queues hn.table target n k value time
    obtain ⟨rv', tq', ps', sent', hrun', hcap', hq', hloose', hsent'⟩ :=
      networkBroadcastLog_run (T := T) hq htable target n k value time
    rw [List.append_assoc] at hq' hloose'
    refine ⟨tq', ps', sent ++ sent', ?_, hcap'.trans hcap, ⟨hq', htable⟩,
      fun b => (hloose' b).trans (hloose b), ?_⟩
    · exact (run_bind_ok hrun).trans ((run_bind_ok hrun').trans rfl)
    · intro q hq
      rcases List.mem_append.mp hq with hq | hq
      · exact hsent q hq
      · exact hsent' q hq

/-- A lookup leaves a cache behind, with the hour in it that it returns. -/
lemma datahourGet_cached (hc : s.CacheHolds T xs) (n : UInt32) (load create : Bool) :
    ∃ o q p ys, (datahourGet T n load create).run s =
        .ok o { s with dataQueue := q, platform := p } ∧
      ({ s with dataQueue := q, platform := p } : Globals δ).CacheHolds T ys ∧
      ∀ a, o = some a → ∃ pre h post, ys = pre ++ (a, h) :: post := by
  have hlookup := datahourGet_run hc n load create
  generalize hrun : (datahourGet T n load create).run s = run at hlookup
  cases hlookup with
  | hit pre x post q split id newest result holds =>
    refine ⟨_, q, s.platform, _, result, holds, ?_⟩
    intro a ha
    obtain rfl := Option.some.inj ha
    exact ⟨[], x.2, post ++ pre, rfl⟩
  | absent miss nothing result =>
    exact ⟨_, s.dataQueue, _, xs, result, hc.congr rfl, by simp⟩
  | added miss hour node q p ys fresh new result holds room =>
    refine ⟨_, q, p, _, result, holds, ?_⟩
    intro a ha
    obtain rfl := Option.some.inj ha
    exact ⟨ys, hour, [], rfl⟩

/-- What a lookup has returned, and the platform and the hours that it has left. -/
inductive LookupLeft (T : Target δ) (s : Globals δ) (xs : List (ℕ × DataHour)) (n : UInt32)
    (load create : Bool) : Option ℕ → δ → List (ℕ × DataHour) → Prop
  | hit (pre : List (ℕ × DataHour)) (x : ℕ × DataHour) (post : List (ℕ × DataHour))
      (split : xs = pre ++ x :: post) (id : x.2.hourId = n)
      (newest : ∀ y ∈ post, y.2.hourId ≠ n) (perm : (x :: (post ++ pre)).Perm xs) :
      LookupLeft T s xs n load create (some x.1) s.platform (x :: (post ++ pre))
  | absent (miss : ∀ x ∈ xs, x.2.hourId ≠ n)
      (nothing : fetched T n load create s.platform = none) :
      LookupLeft T s xs n load create none (afterLoad T n load s.platform) xs
  | added (miss : ∀ x ∈ xs, x.2.hourId ≠ n) (hour : DataHour) (node : ℕ) (p : δ)
      (ys : List (ℕ × DataHour)) (fresh : node ∉ xs.map Prod.fst)
      (new : fetched T n load create s.platform = some hour) (sub : ys.Sublist xs)
      (room : (ys = xs ∧ p = afterLoad T n load s.platform) ∨
        ∃ x, xs = x :: ys ∧ p = (T.hourSave x.2.hourId (hourBytes x.2.sealed)
          (afterLoad T n load s.platform)).2) :
      LookupLeft T s xs n load create (some node) p (ys ++ [(node, hour)])

lemma datahourGet_left {n : UInt32} {load create : Bool} {o : Option ℕ} {u : Globals δ}
    {zs : List (ℕ × DataHour)} (hc : s.CacheHolds T xs)
    (hget : (datahourGet T n load create).run s = .ok o u) (hc' : u.CacheHolds T zs) :
    LookupLeft T s xs n load create o u.platform zs := by
  have hlookup := datahourGet_run hc n load create
  rw [hget] at hlookup
  cases hlookup with
  | hit pre x post q split id newest result holds =>
    obtain ⟨rfl, rfl⟩ := EStateM.Result.ok.inj result
    obtain rfl := hc'.cached_eq.symm.trans holds.cached_eq
    refine .hit pre x post split id newest ?_
    rw [split]
    exact (List.perm_append_comm : (x :: post ++ pre).Perm (pre ++ x :: post))
  | absent miss nothing result =>
    obtain ⟨rfl, rfl⟩ := EStateM.Result.ok.inj result
    obtain rfl := hc'.cached_eq.symm.trans hc.cached_eq
    exact .absent miss nothing
  | added miss hour node q p ys fresh new result holds room =>
    obtain ⟨rfl, rfl⟩ := EStateM.Result.ok.inj result
    obtain rfl := hc'.cached_eq.symm.trans holds.cached_eq
    refine .added miss hour node p ys fresh new ?_ room
    rcases room with ⟨rfl, -⟩ | ⟨x, rfl, -⟩
    · exact List.Sublist.refl _
    · exact List.sublist_cons_self _ _

/-- What a data function leaves behind when its lookup left `v` and the hours `zs`. -/
structure Globals.Logged (T : Target δ) (v : Globals δ) (zs : List (ℕ × DataHour))
    (tx rx : List Queued) (es : List RoutingEntry) (u : Globals δ) (ys : List (ℕ × DataHour))
    (sent : List Queued) : Prop where
  frame : ∃ q tq ps, tq.capacity = v.txQueue.capacity ∧
    u = { v with dataQueue := q, txQueue := tq, packets := ps }
  cache : u.CacheHolds T ys
  keys : hourKeys ys = hourKeys zs
  network : NetworkHolds T u (tx ++ sent) rx es
  loose : ∀ b, u.Loose (tx ++ sent) rx b ↔ v.Loose tx rx b
  sent : ∀ q ∈ sent, q.packet.command = dataLogCommand

lemma Globals.Logged.cache_only {q : LinkedList DataHour} {ys : List (ℕ × DataHour)}
    (hn : NetworkHolds T s tx rx es) (hc : ({ s with dataQueue := q } : Globals δ).CacheHolds T ys)
    (hkeys : hourKeys ys = hourKeys xs) :
    Globals.Logged T s xs tx rx es { s with dataQueue := q } ys [] where
  frame := ⟨q, _, _, rfl, rfl⟩
  cache := hc
  keys := hkeys
  network := by
    rw [List.append_nil]
    exact hn.data q s.platform
  loose b := by
    rw [List.append_nil]
    rfl
  sent := by simp

lemma Globals.Logged.after_update {q : LinkedList DataHour} {u : Globals δ}
    {ys zs : List (ℕ × DataHour)} {sent : List Queued}
    (hl : Globals.Logged T { s with dataQueue := q } zs tx rx es u ys sent)
    (hkeys : hourKeys zs = hourKeys xs) : Globals.Logged T s xs tx rx es u ys sent where
  frame := hl.frame
  cache := hl.cache
  keys := hl.keys.trans hkeys
  network := hl.network
  loose := hl.loose
  sent := hl.sent

lemma Globals.Logged.hourId {h' : DataHour} {sent : List Queued} {u : Globals δ}
    (hl : Globals.Logged T s (pre ++ (a, h) :: post) tx rx es u (pre ++ (a, h') :: post) sent) :
    h'.hourId = h.hourId := by
  have hkeys := hl.keys
  rw [hourKeys_append, hourKeys_append, hourKeys_cons, hourKeys_cons] at hkeys
  have hcons := List.append_cancel_left hkeys
  exact (Prod.mk.inj (List.cons.inj hcons).1).2

lemma dataLogAt_hour (hc : s.CacheHolds T (pre ++ (a, h) :: post))
    (hn : NetworkHolds T s tx rx es) {i : ℕ} {v : Variable} (hi : h.vars[i]? = some v)
    (target : VariableInfo) (n k : UInt32) (value : Sample) (time : UInt32) (announce : Bool) :
    ∃ u sent, (dataLogAt T a i target n k value time announce).run s =
        .ok (h.logAt i target k value).1 u ∧
      Globals.Logged T s (pre ++ (a, h) :: post) tx rx es u
        (pre ++ (a, (h.logAt i target k value).2) :: post) sent := by
  have hsame := Globals.Logged.cache_only (q := s.dataQueue) hn hc rfl
  rw [dataLogAt, run_bind_ok (readHour_run hc.queue)]
  simp only [hi, DataHour.logAt]
  by_cases hrate : v.info.samplesPerHour ≠ target.samplesPerHour
  · rw [if_pos hrate, if_pos hrate]
    exact ⟨_, _, rfl, hsame⟩
  rw [if_neg hrate, if_neg hrate]
  by_cases hk : v.info.samplesPerHour ≤ k
  · rw [if_pos hk, if_pos hk]
    exact ⟨_, _, rfl, hsame⟩
  rw [if_neg hk, if_neg hk]
  have hlt : k.toNat < v.data.length := by
    rw [v.size_eq]
    exact UInt32.lt_iff_toNat_lt.mp (UInt32.not_le.mp hk)
  rw [List.getD_eq_getElem?_getD, List.getElem?_eq_getElem hlt, Option.getD_some]
  simp only
  by_cases hvalue : Measured v.data[k.toNat] ∧ ¬Measured value
  · rw [if_pos hvalue, if_pos hvalue]
    exact ⟨_, _, rfl, hsame⟩
  rw [if_neg hvalue, if_neg hvalue]
  have hwf := (hc.wellFormed (a, h) (by simp)).modify i
    (f := (·.setSample k.toNat value)) (fun _ => rfl)
  obtain ⟨q, hput, hc'⟩ := hc.updateHour (f := fun h =>
    { h with vars := h.vars.modify i (·.setSample k.toNat value) }) hwf
  obtain ⟨tq, ps, sent, hspread, hcap, hn', hloose, hsent⟩ :=
    spreadLog_run (hn.data q s.platform) target n k value time announce
  obtain ⟨q', hflag, hc''⟩ := (hc'.congr (t := { s with
    dataQueue := q, txQueue := tq, packets := ps }) rfl).updateHour
      (f := fun h => { h with flags := flagModified })
      ⟨hwf.count_le, hwf.ids_nodup, hwf.rate_pos, hwf.rate_le⟩
  have hlogged : Globals.Logged T s (pre ++ (a, h) :: post) tx rx es
      { s with dataQueue := q', txQueue := tq, packets := ps } _ sent :=
    ⟨⟨q', tq, ps, hcap, rfl⟩, hc'', by rw [hourKeys_append, hourKeys_append]; rfl,
      hn'.data q' s.platform, hloose, hsent⟩
  refine ⟨_, sent, ?_, hlogged⟩
  rw [run_bind_ok hput, run_bind_ok hspread, run_bind_ok hflag]
  rfl

/-- A log changes the hour that its lookup has found, if it has found one. -/
lemma dataLog_hour (hc : s.CacheHolds T xs) (hn : NetworkHolds T s tx rx es)
    (target : VariableInfo) (n k : UInt32) (value : Sample) (time : UInt32) (announce : Bool) :
    (∃ q p ys, (datahourGet T n true true).run s =
        .ok none { s with dataQueue := q, platform := p } ∧
      ({ s with dataQueue := q, platform := p } : Globals δ).CacheHolds T ys ∧
      (dataLog T target n k value time announce).run s =
        .ok .null { s with dataQueue := q, platform := p }) ∨
    ∃ a pre h post q p u sent, (datahourGet T n true true).run s =
        .ok (some a) { s with dataQueue := q, platform := p } ∧
      ({ s with dataQueue := q, platform := p } : Globals δ).CacheHolds T
        (pre ++ (a, h) :: post) ∧
      (dataLog T target n k value time announce).run s =
        .ok (h.log T.toSettings target k value).1 u ∧
      Globals.Logged T { s with dataQueue := q, platform := p } (pre ++ (a, h) :: post) tx rx es u
        (pre ++ (a, (h.log T.toSettings target k value).2) :: post) sent := by
  obtain ⟨o, q, p, zs, hget, hc', hsome⟩ := datahourGet_cached hc n true true
  have hn' := hn.data q p
  rw [dataLog, run_bind_ok hget]
  cases o with
  | none => exact Or.inl ⟨q, p, zs, hget, hc', rfl⟩
  | some a =>
    obtain ⟨pre, h, post, rfl⟩ := hsome a rfl
    refine Or.inr ⟨a, pre, h, post, q, p, ?_⟩
    have hsame := Globals.Logged.cache_only (q := q) hn' hc' rfl
    simp only [DataHour.log]
    rw [run_bind_ok (readHour_run hc'.queue)]
    cases hv : getVariable h target.id with
    | some i =>
      obtain ⟨v, hi, -, -⟩ := getVariable_some hv
      obtain ⟨u, sent, hrun, hlogged⟩ :=
        dataLogAt_hour hc' hn' hi target n k value time announce
      exact ⟨u, sent, hget, hc', hrun, hlogged⟩
    | none =>
      have hwf := hc'.wellFormed (a, h) (by simp)
      cases hadd : hourAddVariable T.toSettings h target with
      | mk rv h' =>
      simp only
      by_cases hrv : rv = .ok
      · subst hrv
        have haddable := hourAddVariable_addable hwf hadd
        obtain rfl := (Prod.mk.inj (hadd.symm.trans (hourAddVariable_ok hwf haddable))).2
        obtain ⟨q', hupdate, hc''⟩ := hc'.updateHour
          (f := fun _ => { h with vars := h.vars ++ [Variable.create target] })
          (hwf.append (v := Variable.create target) haddable)
        obtain ⟨u, sent, hrun, hlogged⟩ := dataLogAt_hour hc'' (hn'.data q' p)
          (i := h.vars.length) (v := Variable.create target) (by simp) target n k value time announce
        refine ⟨u, sent, hget, hc', ?_, hlogged.after_update ?_⟩
        · rw [if_neg (by simp), run_bind_ok hupdate]
          simp only [getVariable_added hv]
          exact hrun
        · rw [hourKeys_append, hourKeys_append]
          rfl
      · rw [if_pos hrv]
        cases rv <;> first | exact absurd rfl hrv | exact ⟨_, _, hget, hc', rfl, hsame⟩

/-- A log keeps the hours that its lookup has put into the cache. -/
lemma dataLog_cached (hc : s.CacheHolds T xs) (hn : NetworkHolds T s tx rx es)
    (target : VariableInfo) (n k : UInt32) (value : Sample) (time : UInt32) (announce : Bool) :
    ∃ o q p zs r u ys sent, (datahourGet T n true true).run s =
        .ok o { s with dataQueue := q, platform := p } ∧
      ({ s with dataQueue := q, platform := p } : Globals δ).CacheHolds T zs ∧
      (dataLog T target n k value time announce).run s = .ok r u ∧
      Globals.Logged T { s with dataQueue := q, platform := p } zs tx rx es u ys sent := by
  rcases dataLog_hour hc hn target n k value time announce with
    ⟨q, p, ys, hget, hc', hrun⟩ | ⟨a, pre, h, post, q, p, u, sent, hget, hc', hrun, hlogged⟩
  · exact ⟨_, q, p, ys, _, _, ys, [], hget, hc', hrun,
      Globals.Logged.cache_only (q := q) (hn.data q p) hc' rfl⟩
  · exact ⟨_, q, p, _, _, u, _, sent, hget, hc', hrun, hlogged⟩

/-- Reading a sample only looks its hour up. -/
lemma dataGetVal_cached (hc : s.CacheHolds T xs) (info : VariableInfo) (n k : UInt32)
    (load create : Bool) : ∃ o q p zs r, (datahourGet T n load create).run s =
        .ok o { s with dataQueue := q, platform := p } ∧
      ({ s with dataQueue := q, platform := p } : Globals δ).CacheHolds T zs ∧
      (dataGetVal T info n k load create).run s =
        .ok r { s with dataQueue := q, platform := p } := by
  obtain ⟨o, q, p, zs, hget, hc', hsome⟩ := datahourGet_cached hc n load create
  refine ⟨o, q, p, zs, ?_⟩
  rw [dataGetVal, run_bind_ok hget]
  cases o with
  | none => exact ⟨_, hget, hc', rfl⟩
  | some a =>
    obtain ⟨pre, h, post, rfl⟩ := hsome a rfl
    simp only
    rw [run_bind_ok (readHour_run hc'.queue)]
    cases h.vars.find? (fun v => v.info.id == info.id) with
    | none => exact ⟨_, hget, hc', rfl⟩
    | some v =>
      simp only
      split
      · exact ⟨_, hget, hc', rfl⟩
      · rename_i hk
        have hlt : k.toNat < v.data.length := by
          rw [v.size_eq]
          exact UInt32.lt_iff_toNat_lt.mp (UInt32.not_le.mp hk)
        rw [List.getElem?_eq_getElem hlt]
        exact ⟨_, hget, hc', rfl⟩

/-- What is read is what the local copy of the hour has. -/
lemma dataGetVal_local (hc : s.CacheHolds T xs) (info : VariableInfo) (n k : UInt32) :
    ∃ q p ys, (dataGetVal T info n k true false).run s =
        .ok ((localHour T xs s.platform n).elim (.null, none) (·.read info.id k))
          { s with dataQueue := q, platform := p } ∧
      ({ s with dataQueue := q, platform := p } : Globals δ).CacheHolds T ys := by
  rw [dataGetVal]
  rcases datahourGet_local hc n with
    ⟨hlocal, p, hget, hc'⟩ | ⟨pre, a, h, post, q, p, hlocal, hget, hc'⟩
  · rw [run_bind_ok hget, hlocal]
    exact ⟨s.dataQueue, p, xs, rfl, hc'⟩
  · rw [run_bind_ok hget, hlocal]
    simp only [DataHour.read, Option.elim_some]
    rw [run_bind_ok (readHour_run hc'.queue)]
    cases h.vars.find? (fun v => v.info.id == info.id) with
    | none => exact ⟨q, p, _, rfl, hc'⟩
    | some v =>
      simp only
      by_cases hk : v.info.samplesPerHour ≤ k
      · have hnone : v.data[k.toNat]? = none := by
          rw [List.getElem?_eq_none_iff, v.size_eq]
          exact UInt32.le_iff_toNat_le.mp hk
        rw [if_pos hk, hnone]
        exact ⟨q, p, _, rfl, hc'⟩
      · have hlt : k.toNat < v.data.length := by
          rw [v.size_eq]
          exact UInt32.lt_iff_toNat_lt.mp (UInt32.not_le.mp hk)
        rw [if_neg hk, List.getElem?_eq_getElem hlt]
        exact ⟨q, p, _, rfl, hc'⟩

/-- A sample is read exactly if the local copy of its hour has it. -/
lemma read_local_iff {o : Option DataHour} {id : UInt16} {k : UInt32} {val : Option Sample} :
    o.elim (.null, none) (·.read id k) = (.ok, val) ↔
      ∃ w, val = some w ∧ o.bind (·.sample id k) = some w := by
  cases o with
  | none => simp
  | some h => exact DataHour.read_eq_ok_iff

/-- One round of `data_save` leaves a clean hour alone, and saves any other one. -/
lemma dataSaveHour_cases (hc : s.CacheHolds T (pre ++ (a, h) :: post)) :
    (h.flags &&& flagModified = 0 ∧ (dataSaveHour T a).run s = .ok () s) ∨
    (h.flags &&& flagModified ≠ 0 ∧ ∃ rv q p h', T.hourSave h.hourId (hourBytes h.sealed)
        s.platform = (rv, p) ∧ h' = (if rv = .ok then { h.sealed with flags := 0 } else h.sealed) ∧
      (dataSaveHour T a).run s = .ok () { s with dataQueue := q, platform := p } ∧
      ({ s with dataQueue := q, platform := p } : Globals δ).CacheHolds T
        (pre ++ (a, h') :: post)) := by
  have hwf := hc.wellFormed (a, h) (by simp)
  rw [dataSaveHour, run_bind_ok (readHour_run hc.queue)]
  by_cases hclean : h.flags &&& flagModified = 0
  · rw [if_neg (not_not.mpr hclean)]
    exact Or.inl ⟨hclean, rfl⟩
  rw [if_pos hclean, run_bind_ok (datahourSave_run h s)]
  obtain ⟨rv, p⟩ := T.hourSave h.hourId (hourBytes h.sealed) s.platform
  have hcache : ({ s with platform := p } : Globals δ).CacheHolds T (pre ++ (a, h) :: post) :=
    hc.congr rfl
  have hwf' : (if rv = .ok then { h.sealed with flags := 0 } else h.sealed).WellFormed
      T.toSettings := by
    split <;> exact ⟨hwf.count_le, hwf.ids_nodup, hwf.rate_pos, hwf.rate_le⟩
  obtain ⟨q, hupdate, hc'⟩ := hcache.updateHour
    (f := fun _ => if rv = .ok then { h.sealed with flags := 0 } else h.sealed) hwf'
  exact Or.inr ⟨hclean, rv, q, p, _, rfl, rfl, hupdate, hc'⟩

/-- What saving one hour of the cache keeps holds after the walk of `data_save`, which goes once
from the head to the tail, and what it makes of an hour then holds of all of them. -/
lemma dataSaveFrom_each {I : Globals δ → List (ℕ × DataHour) → Prop} {Q : DataHour → Prop}
    (hI : ∀ s xs, I s xs → s.CacheHolds T xs)
    (hstep : ∀ s pre a h post, I s (pre ++ (a, h) :: post) → ∃ q p h', (dataSaveHour T a).run s =
        .ok () { s with dataQueue := q, platform := p } ∧ Q h' ∧
      I { s with dataQueue := q, platform := p } (pre ++ (a, h') :: post))
    {fuel : ℕ} (hs : I s (pre ++ (a, h) :: post)) (hpost : ∀ y ∈ post, Q y.2)
    (hfuel : pre.length < fuel) :
    ∃ ys q p, (dataSaveFrom T fuel a).run s = .ok () { s with dataQueue := q, platform := p } ∧
      I { s with dataQueue := q, platform := p } ys ∧ ∀ y ∈ ys, Q y.2 := by
  induction pre using List.reverseRecOn generalizing s a h post fuel with
  | nil =>
    obtain ⟨fuel, rfl⟩ := Nat.exists_eq_succ_of_ne_zero (Nat.ne_zero_of_lt hfuel)
    obtain ⟨q, p, h', hrun, hh', hs'⟩ := hstep _ _ _ _ _ hs
    have hq := (hI _ _ hs').queue
    refine ⟨_, q, p, ?_, hs', List.forall_mem_cons.mpr ⟨hh', hpost⟩⟩
    rw [dataSaveFrom, run_bind_ok hrun, run_bind_ok (dataNode_run hq),
      run_bind_ok (EStateM.run_get _), List.append_nil, if_neg (by simpa using dataQueue_head hq)]
    rfl
  | append_singleton pre x ih =>
    obtain ⟨fuel, rfl⟩ := Nat.exists_eq_succ_of_ne_zero (Nat.ne_zero_of_lt hfuel)
    obtain ⟨q, p, h', hrun, hh', hs'⟩ := hstep _ _ _ _ _ hs
    have hq := (hI _ _ hs').queue
    have hprev : Ring.lastAddr a (post ++ (pre ++ [x])) = x.1 := by simp
    have happ : pre ++ [x] ++ (a, h') :: post = pre ++ x :: (a, h') :: post := by simp
    rw [happ] at hs'
    obtain ⟨ys, q', p', hrest, hs'', hall⟩ := ih (h := x.2) hs'
      (List.forall_mem_cons.mpr ⟨hh', hpost⟩) (by simpa using hfuel)
    refine ⟨ys, q', p', ?_, hs'', hall⟩
    rw [dataSaveFrom, run_bind_ok hrun, run_bind_ok (dataNode_run hq),
      run_bind_ok (EStateM.run_get _), hprev, if_pos (dataQueue_head_ne hq), hrest]

lemma dataSave_each {I : Globals δ → List (ℕ × DataHour) → Prop} {Q : DataHour → Prop}
    (hI : ∀ s xs, I s xs → s.CacheHolds T xs)
    (hstep : ∀ s pre a h post, I s (pre ++ (a, h) :: post) → ∃ q p h', (dataSaveHour T a).run s =
        .ok () { s with dataQueue := q, platform := p } ∧ Q h' ∧
      I { s with dataQueue := q, platform := p } (pre ++ (a, h') :: post))
    (hs : I s xs) : ∃ ys q p, (dataSave T).run s =
        .ok () { s with dataQueue := q, platform := p } ∧
      I { s with dataQueue := q, platform := p } ys ∧ ∀ y ∈ ys, Q y.2 := by
  have hq := (hI _ _ hs).queue
  rw [dataSave, run_bind_ok (EStateM.run_get s)]
  cases xs using List.reverseRecOn with
  | nil =>
    have hhead : s.dataQueue.head = none := hq.head
    simp only [hhead]
    exact ⟨[], s.dataQueue, s.platform, rfl, hs, by simp⟩
  | append_singleton xs x =>
    have hhead : s.dataQueue.head = some x.1 := dataQueue_head (a := x.1) (h := x.2) hq
    simp only [hhead]
    exact dataSaveFrom_each hI hstep (a := x.1) (h := x.2) hs (by simp) (by simp [hq.count])

lemma dataSave_keeps {I : Globals δ → List (ℕ × DataHour) → Prop}
    (hI : ∀ s xs, I s xs → s.CacheHolds T xs)
    (hstep : ∀ s pre a h post, I s (pre ++ (a, h) :: post) → ∃ q p h', (dataSaveHour T a).run s =
        .ok () { s with dataQueue := q, platform := p } ∧
      I { s with dataQueue := q, platform := p } (pre ++ (a, h') :: post))
    (hs : I s xs) : ∃ ys q p, (dataSave T).run s =
        .ok () { s with dataQueue := q, platform := p } ∧
      I { s with dataQueue := q, platform := p } ys := by
  have hstep' : ∀ s pre a h post, I s (pre ++ (a, h) :: post) → ∃ q p h',
      (dataSaveHour T a).run s = .ok () { s with dataQueue := q, platform := p } ∧ True ∧
        I { s with dataQueue := q, platform := p } (pre ++ (a, h') :: post) := by
    intro s pre a h post hs
    obtain ⟨q, p, h', hrun, hs'⟩ := hstep s pre a h post hs
    exact ⟨q, p, h', hrun, trivial, hs'⟩
  obtain ⟨ys, q, p, hrun, hs', -⟩ := dataSave_each (Q := fun _ => True) hI hstep' hs
  exact ⟨ys, q, p, hrun, hs'⟩

lemma dataSave_cached (hc : s.CacheHolds T xs) :
    ∃ ys q p, (dataSave T).run s = .ok () { s with dataQueue := q, platform := p } ∧
      ({ s with dataQueue := q, platform := p } : Globals δ).CacheHolds T ys := by
  refine dataSave_keeps (I := fun s xs => s.CacheHolds T xs) (fun _ _ hc => hc) ?_ hc
  intro s pre a h post hc
  rcases dataSaveHour_cases hc with ⟨-, hrun⟩ | ⟨-, rv, q, p, h', -, -, hrun, hc'⟩
  · exact ⟨s.dataQueue, s.platform, h, hrun, hc⟩
  · exact ⟨q, p, h', hrun, hc'⟩

end Runs

end ZejfMeteo
