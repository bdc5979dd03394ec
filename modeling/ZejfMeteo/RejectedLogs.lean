import ZejfMeteo.ModifiedFlag

/-!
# Logs that are rejected

`data_log` looks its hour up and adds the variable before it checks the sample number. What the
device has of its hours, in the cache or on disk, is followed through runs over storage where any
load and any save may fail.
-/

namespace ZejfMeteo
open Runs Bytes

variable {δ : Type}

/-- Loads and saves may fail at any time. A save that fails leaves the file as it was, or what it
has written of it. -/
structure FallibleStorage (T : Target δ) where
  files : δ → UInt32 → Option (List UInt8)
  load_ok : ∀ n p b, (T.hourLoad n p).1 = (.ok, b) → files p n = some b
  load_missing : ∀ n p, (T.hourLoad n p).1.1 = .fileDoesntExist → files p n = none
  load_files : ∀ n p, files (T.hourLoad n p).2 = files p
  save_ok : ∀ n b p, (T.hourSave n b p).1 = .ok → files (T.hourSave n b p).2 n = some b
  save_failed : ∀ n b p, (T.hourSave n b p).1 ≠ .ok →
    files (T.hourSave n b p).2 n = files p n ∨ ∃ k, files (T.hourSave n b p).2 n = some (b.take k)
  save_others : ∀ n b p m, m ≠ n → files (T.hourSave n b p).2 m = files p m

namespace FallibleStorage

variable {T : Target δ} (D : FallibleStorage T)

/-- What the file of an hour decodes to. -/
def stored (p : δ) (n : UInt32) : Option (List Variable) :=
  (D.files p n).bind (fun b => (hourDeserialize T.toSettings b b.length).map DataHour.vars)

/-- No file is that of an hour of another number. -/
def Named (p : δ) : Prop := ∀ n b hour, D.files p n = some b →
  hourDeserialize T.toSettings b b.length = some hour → hour.hourId = n

/-- What there is of an hour in a cache or else on disk. -/
def held (xs : List (ℕ × DataHour)) (p : δ) (n : UInt32) : Option (List Variable) :=
  match xs.find? (fun x => x.2.hourId == n) with
  | some x => some x.2.vars
  | none => D.stored p n

/-- The contents of an hour, if it exists. -/
def contents (s : Globals δ) : UInt32 → Option (List Variable) := D.held s.cached s.platform

/-- When a log is rejected, its hour has not been made anew, no variable has been added to it,
and an hour that made room for it is on disk as it was in the cache. -/
structure LeavesNoTrace (t : Globals δ) (target : VariableInfo) (n k : UInt32) : Prop where
  known : lookedUp T t.cached t.platform n true true = none ∨ (D.contents t n).isSome
  variable_known : ∀ h, lookedUp T t.cached t.platform n true true = some h →
    getVariable h target.id = none → Addable T.toSettings h target → k < target.samplesPerHour
  evicted : (∀ x ∈ t.cached, x.2.hourId ≠ n) →
    (lookedUp T t.cached t.platform n true true).isSome → listIsFull t.dataQueue →
    ∀ x ∈ t.cached.head?, D.stored (T.hourSave x.2.hourId (hourBytes x.2.sealed)
      (afterLoad T n true t.platform)).2 x.2.hourId = some x.2.vars

end FallibleStorage

/-! ### Runs -/

/-- A log of the device itself or one that has come in. -/
inductive LogCall
  | log (target : VariableInfo) (hourNumber sampleNumber : UInt32) (value : Sample)
      (time : UInt32) (announce : Bool)
  | receive (packet : Packet) (time : UInt32)

def LogCall.run (T : Target δ) : LogCall → Run (Globals δ) ZejfErr
  | .log target n k value time announce => dataLog T target n k value time announce
  | .receive packet time => inHand packet (fun a => processDataLog T a time)

/-- What changes the hours. -/
inductive StoreOp
  | log (call : LogCall)
  | receiveCheck (packet : Packet)
  | get (hourNumber : UInt32) (load create : Bool)
  | save

def StoreOp.run (T : Target δ) : StoreOp → Run (Globals δ) Unit
  | .log call => do
    let _ ← call.run T
  | .receiveCheck packet => do
    let _ ← inHand packet (dataCheckReceive T)
  | .get n load create => do
    let _ ← datahourGet T n load create
  | .save => dataSave T

/-- The same for a log that comes in, if its message is that of a log. -/
def FallibleStorage.CallLeavesNoTrace {T : Target δ} (D : FallibleStorage T) (t : Globals δ) :
    LogCall → Prop
  | .log target n k _ _ _ => D.LeavesNoTrace t target n k
  | .receive packet _ => ∀ message f, packet.message = some message →
      logFields T message = some f → D.LeavesNoTrace t f.info f.hourNumber f.sampleNum

section OneHour

variable {cfg : Settings} {h x : DataHour} {target : VariableInfo} {k : UInt32} {value : Sample}

/-- A log that is rejected has changed its hour exactly if it has added the variable. -/
lemma log_vars_iff (hwf : h.WellFormed cfg) (hrv : (h.log cfg target k value).1 ≠ .ok) :
    (h.log cfg target k value).2.vars = h.vars ↔
      (getVariable h target.id = none → Addable cfg h target → k < target.samplesPerHour) := by
  unfold DataHour.log at hrv ⊢
  cases hv : getVariable h target.id with
  | some i =>
    rw [hv] at hrv
    refine iff_of_true ?_ (fun hnone => by cases hnone)
    rcases logAt_cases h i target k value with hsame | ⟨hok, -⟩
    · exact congrArg DataHour.vars hsame
    · exact absurd hok hrv
  | none =>
    rw [hv] at hrv
    by_cases hadd : Addable cfg h target
    · simp only [hourAddVariable_ok hwf hadd] at hrv ⊢
      have hsame := (logAt_cases _ h.vars.length target k value).resolve_right
        (fun hok => hrv hok.1)
      rw [hsame]
      refine iff_of_false (by simp) (fun hlt => hrv ?_)
      have hk := UInt32.not_le.mpr (hlt trivial hadd)
      have hempty : (List.replicate target.samplesPerHour.toNat valueEmpty).getD k.toNat
          valueEmpty = valueEmpty := by
        rw [List.getD_eq_getElem?_getD, List.getElem?_replicate]
        split <;> rfl
      have hnot : ¬Measured valueEmpty := by decide
      simp only [DataHour.logAt, List.getElem?_concat_length, Variable.create, hempty, hnot, hk,
        ne_eq, not_true, if_false, false_and]
    · refine iff_of_true ?_ (fun _ hadd' => absurd hadd' hadd)
      cases he : hourAddVariable cfg h target with
      | mk rv h' =>
        cases rv <;> first | exact absurd (hourAddVariable_addable hwf he) hadd | rfl

lemma hourId_of_hourBytes (h : DataHour) :
    UInt32.ofNat (leValue (((hourBytes h).take 8).drop 4)) = h.hourId := by
  have hbytes : hourBytes h = leBytes 4 h.checksum.toNat ++ (leBytes 4 h.hourId.toNat ++
      (leBytes 2 h.variableCount.toNat ++ leBytes 1 h.flags.toNat ++
        h.vars.flatMap variableBytes)) := by
    simp only [hourBytes, headerBytes, List.append_assoc]
  rw [hbytes, List.drop_take, List.drop_left' (length_leBytes 4 _),
    List.take_left' (length_leBytes 4 _), uint32_ofNat_leValue]

/-- The start of the file of an hour is not the file of another one. -/
lemma hourId_of_take {b : List UInt8} {k : ℕ} (hb : b = (hourBytes x).take k)
    (hd : hourDeserialize cfg b b.length = some h) : h.hourId = x.hourId := by
  obtain ⟨-, -, hbytes⟩ := hourDeserialize_some hd
  have hlength := congrArg List.length (hbytes.trans hb)
  rw [List.length_take, hourBytes, List.length_append, length_headerBytes, datahourBytes] at hlength
  have htake : (hourBytes h).take 8 = (hourBytes x).take 8 := by
    rw [hbytes, hb, List.take_take, Nat.min_eq_left (by omega)]
  rw [← hourId_of_hourBytes h, htake, hourId_of_hourBytes]

end OneHour

section Lookups

variable {T : Target δ} {D : FallibleStorage T} {s t u : Globals δ}
  {xs ys zs pre post : List (ℕ × DataHour)} {x : ℕ × DataHour} {a : ℕ} {h hour : DataHour}
  {n m : UInt32} {load create : Bool} {o : Option ℕ} {p : δ} {q : LinkedList DataHour}

namespace FallibleStorage

lemma held_missed (hmiss : ∀ x ∈ xs, x.2.hourId ≠ n) : D.held xs p n = D.stored p n := by
  rw [held, find?_hourId_missed hmiss]

lemma held_cached (hd : (xs.map (fun x => x.2.hourId)).Nodup) (hx : x ∈ xs)
    (hid : x.2.hourId = n) : D.held xs p n = some x.2.vars := by
  rw [held, find?_hourId hd hx hid]

lemma stored_congr {p' : δ} (hfiles : D.files p' n = D.files p n) :
    D.stored p' n = D.stored p n := by
  rw [stored, hfiles, stored]

lemma held_congr {p' : δ} (hfiles : D.files p' n = D.files p n) :
    D.held xs p' n = D.held xs p n := by
  rw [held, stored_congr hfiles, held]

lemma held_perm (hd : (xs.map (fun x => x.2.hourId)).Nodup) (hperm : zs.Perm xs) :
    D.held zs p n = D.held xs p n := by
  by_cases hcached : ∃ x ∈ xs, x.2.hourId = n
  · obtain ⟨x, hx, hid⟩ := hcached
    rw [held_cached hd hx hid, held_cached ((hperm.map _).nodup_iff.mpr hd) (hperm.mem_iff.mpr hx)
      hid]
  · have hmiss : ∀ x ∈ xs, x.2.hourId ≠ n := fun x hx hid => hcached ⟨x, hx, hid⟩
    rw [held_missed hmiss, held_missed (fun x hx => hmiss x (hperm.mem_iff.mp hx))]

lemma held_append_ne (hne : ∀ y ∈ ys, y.2.hourId ≠ n) :
    D.held (xs ++ ys) p n = D.held xs p n := by
  rw [held, List.find?_append, find?_hourId_missed hne, Option.or_none, held]

lemma held_cons_ne (hne : x.2.hourId ≠ n) : D.held (x :: xs) p n = D.held xs p n := by
  rw [held, List.find?_cons_of_neg (by simpa using hne), held]

lemma held_replace_ne {h' : DataHour} (hne : h.hourId ≠ n) (hid : h'.hourId = h.hourId) :
    D.held (pre ++ (a, h') :: post) p n = D.held (pre ++ (a, h) :: post) p n := by
  have hno : (h.hourId == n) = false := beq_eq_false_iff_ne.mpr hne
  have hno' : (h'.hourId == n) = false := by rw [hid, hno]
  simp only [held, List.find?_append, List.find?_cons, hno, hno']

lemma afterLoad_files (n : UInt32) (load : Bool) (p : δ) :
    D.files (afterLoad T n load p) = D.files p := by
  cases load with
  | false => rfl
  | true => exact D.load_files n p

lemma Named.loaded (hp : D.Named p) (n : UInt32) (load : Bool) :
    D.Named (afterLoad T n load p) := by
  intro m b hour hb
  rw [afterLoad_files] at hb
  exact hp m b hour hb

/-- Whatever a save leaves of a file, it is that of its hour or none. -/
lemma Named.saved (hp : D.Named p) (h : DataHour) :
    D.Named (T.hourSave h.hourId (hourBytes h.sealed) p).2 := by
  intro m b hour hb hd
  by_cases hm : m = h.hourId
  · subst hm
    have htake : ∀ k, b = (hourBytes h.sealed).take k → hour.hourId = h.hourId :=
      fun k hk => hourId_of_take (x := h.sealed) hk hd
    by_cases hrv : (T.hourSave h.hourId (hourBytes h.sealed) p).1 = .ok
    · rw [D.save_ok _ _ _ hrv] at hb
      refine htake (hourBytes h.sealed).length ?_
      rw [← Option.some.inj hb, List.take_length]
    · rcases D.save_failed _ _ _ hrv with hsame | ⟨k, hpart⟩
      · exact hp _ b hour (hsame ▸ hb) hd
      · rw [hpart] at hb
        exact htake k (Option.some.inj hb).symm
  · rw [D.save_others _ _ _ _ hm] at hb
    exact hp m b hour hb hd

/-- An hour that comes in is what was stored, or it was not stored and is made anew. -/
lemma Named.fetched_hour (hp : D.Named p) (hnew : fetched T n load create p = some hour) :
    hour.hourId = n ∧ (load = true → D.stored p n = some hour.vars ∨ D.stored p n = none ∧
      hour = hourCreate n) := by
  have hmade : ∀ {hour}, (if create then some (hourCreate n) else none) = some hour →
      hour = hourCreate n := by
    intro hour hmissing
    cases create with
    | false => cases hmissing
    | true => exact (Option.some.inj hmissing).symm
  cases load with
  | false =>
    obtain rfl := hmade hnew
    exact ⟨rfl, fun h => by cases h⟩
  | true =>
    rw [fetched, if_pos rfl] at hnew
    split at hnew
    · rename_i buffer hload
      obtain ⟨loaded, hd, rfl⟩ := Option.map_eq_some_iff.mp hnew
      have hfile := D.load_ok n p buffer hload
      refine ⟨hp n buffer loaded hfile hd, fun _ => Or.inl ?_⟩
      rw [stored, hfile, Option.bind_some, hd]
      rfl
    · rename_i buffer hload
      have hfile := D.load_missing n p (by rw [hload])
      obtain rfl := hmade hnew
      refine ⟨rfl, fun _ => Or.inr ⟨?_, rfl⟩⟩
      rw [stored, hfile]
      rfl
    · cases hnew

end FallibleStorage

/-- No hour is cached twice, and no file is that of another hour. -/
structure OnDisk (D : FallibleStorage T) (s : Globals δ) (xs : List (ℕ × DataHour)) : Prop where
  cache : s.CacheHolds T xs
  ids : (xs.map (fun x => x.2.hourId)).Nodup
  files : D.Named s.platform

lemma OnDisk.contents_eq (hk : OnDisk D s xs) : D.contents s = D.held xs s.platform := by
  rw [FallibleStorage.contents, hk.cache.cached_eq]

lemma OnDisk.get (hk : OnDisk D s xs)
    (hget : (datahourGet T n load create).run s = .ok o { s with dataQueue := q, platform := p })
    (hc : ({ s with dataQueue := q, platform := p } : Globals δ).CacheHolds T zs) :
    OnDisk D { s with dataQueue := q, platform := p } zs := by
  have hleft : LookupLeft T s xs n load create o p zs := datahourGet_left hk.cache hget hc
  cases hleft with
  | hit pre x post split id newest perm =>
    exact ⟨hc, (perm.map _).nodup_iff.mpr hk.ids, hk.files⟩
  | absent miss nothing => exact ⟨hc, hk.ids, hk.files.loaded n load⟩
  | added miss hour node p ys fresh new sub room =>
    obtain ⟨hid, -⟩ := hk.files.fetched_hour new
    refine ⟨hc, hourIds_added hk.ids sub miss hid, ?_⟩
    rcases room with ⟨rfl, rfl⟩ | ⟨x, rfl, rfl⟩
    · exact hk.files.loaded n load
    · exact (hk.files.loaded n load).saved x.2

lemma OnDisk.replace {h' : DataHour} (hk : OnDisk D s (pre ++ (a, h) :: post))
    (hc : t.CacheHolds T (pre ++ (a, h') :: post)) (hp : D.Named t.platform)
    (hid : h'.hourId = h.hourId) : OnDisk D t (pre ++ (a, h') :: post) where
  cache := hc
  ids := hourIds_replace hk.ids hid
  files := hp

lemma OnDisk.congr (hk : OnDisk D s xs) (hq : t.dataQueue = s.dataQueue)
    (hp : t.platform = s.platform) : OnDisk D t xs :=
  ⟨hk.cache.congr hq, hk.ids, hp ▸ hk.files⟩

/-- In a cache where an hour has been changed, there is what there was exactly if the others were
as they were, and the changed one was. -/
lemma OnDisk.contents_replace_iff {h' : DataHour} (hk : OnDisk D s xs)
    (hu : OnDisk D u (pre ++ (a, h') :: post)) (hp : u.platform = p)
    (hid : h'.hourId = h.hourId) (hn : h.hourId = n) : D.contents u = D.contents s ↔
      (∀ m ≠ n, D.held (pre ++ (a, h) :: post) p m = D.held xs s.platform m) ∧
        D.held xs s.platform n = some h'.vars := by
  have hmem : (a, h') ∈ pre ++ (a, h') :: post := by simp
  have hat : D.held (pre ++ (a, h') :: post) p n = some h'.vars :=
    FallibleStorage.held_cached hu.ids hmem (hid.trans hn)
  have hothers : ∀ m ≠ n,
      D.held (pre ++ (a, h') :: post) p m = D.held (pre ++ (a, h) :: post) p m :=
    fun m hm => FallibleStorage.held_replace_ne (hn ▸ hm.symm) hid
  rw [hu.contents_eq, hk.contents_eq, hp, ← hat, funext_iff]
  constructor
  · intro hall
    exact ⟨fun m hm => (hothers m hm).symm.trans (hall m), (hall n).symm⟩
  · rintro ⟨hne, heq⟩ m
    by_cases hm : m = n
    · rw [hm, heq]
    · rw [hothers m hm, hne m hm]

lemma datahourGet_full {node : ℕ} (hc : s.CacheHolds T (x :: ys))
    (hmiss : ∀ y ∈ x :: ys, y.2.hourId ≠ n)
    (hnew : fetched T n load create s.platform = some hour)
    (hget : (datahourGet T n load create).run s = .ok o u)
    (hu : u.CacheHolds T (ys ++ [(node, hour)])) : listIsFull s.dataQueue := by
  by_contra hroom
  rw [hc.queue.isFull, decide_eq_true_iff] at hroom
  have hlt := Nat.lt_of_le_of_ne hc.queue.bounded hroom
  have hfind : (hourFind n).run s = .ok none s := by
    rcases hourFind_run hc.queue n with ⟨-, hfind⟩ | ⟨pre, y, post, q, hsplit, hid, -⟩
    · exact hfind
    · exact absurd hid (hmiss y (by rw [hsplit]; simp))
  have hfetch := datahourFetch_run (T := T) n load create s
  rw [hnew] at hfetch
  obtain ⟨q, hadd, hq, -, -⟩ := hourAdd_room (T := T) (s := { s with
    platform := afterLoad T n load s.platform }) hc.queue hlt hour
  rw [datahourGet, run_bind_ok hfind] at hget
  simp only at hget
  rw [run_bind_ok hfetch] at hget
  simp only at hget
  rw [run_bind_ok hadd] at hget
  obtain ⟨-, rfl⟩ := EStateM.Result.ok.inj hget
  have hlength := congrArg List.length (hu.queue.items_eq.symm.trans hq.items_eq)
  simp at hlength

/-- After an hour has been evicted, nothing of the others has changed exactly if it is on disk. -/
lemma held_evicted_iff (hd : ((x :: ys).map (fun x => x.2.hourId)).Nodup) (hx : x.2.hourId ≠ n)
    (hid : hour.hourId = n) (hfiles : D.files p = D.files s.platform) {node : ℕ} {b : List UInt8} :
    (∀ m ≠ n, D.held (ys ++ [(node, hour)]) (T.hourSave x.2.hourId b p).2 m =
        D.held (x :: ys) s.platform m) ↔
      D.stored (T.hourSave x.2.hourId b p).2 x.2.hourId = some x.2.vars := by
  have hlast : ∀ m ≠ n, ∀ p, D.held (ys ++ [(node, hour)]) p m = D.held ys p m := by
    intro m hm p
    refine FallibleStorage.held_append_ne (fun y hy => ?_)
    rw [List.mem_singleton.mp hy, hid]
    exact hm.symm
  have hgone : ∀ y ∈ ys, y.2.hourId ≠ x.2.hourId := by
    intro y hy he
    rw [List.map_cons, List.nodup_cons] at hd
    exact hd.1 (List.mem_map.mpr ⟨y, hy, he⟩)
  have hat : D.held (x :: ys) s.platform x.2.hourId = some x.2.vars :=
    FallibleStorage.held_cached hd List.mem_cons_self rfl
  constructor
  · intro hall
    rw [← hat, ← hall _ hx, hlast _ hx, FallibleStorage.held_missed hgone]
  · intro hsaved m hm
    rw [hlast m hm]
    by_cases hmx : m = x.2.hourId
    · rw [hmx, FallibleStorage.held_missed hgone, hsaved, hat]
    · rw [FallibleStorage.held_cons_ne (Ne.symm hmx)]
      exact FallibleStorage.held_congr ((D.save_others _ _ _ _ hmx).trans (congrFun hfiles m))

/-- What a lookup for a log does to what there is of the hours. -/
structure Fetches (D : FallibleStorage T) (s : Globals δ) (xs : List (ℕ × DataHour)) (n : UInt32)
    (o : Option ℕ) (p : δ) (zs : List (ℕ × DataHour)) : Prop where
  nothing : o = none → lookedUp T xs s.platform n true true = none
  answer : ∀ a h, o = some a → (a, h) ∈ zs → lookedUp T xs s.platform n true true = some h ∧
    h.hourId = n ∧ (D.held xs s.platform n = some h.vars ∨
      D.held xs s.platform n = none ∧ h = hourCreate n)
  same : o = none → ∀ m, D.held zs p m = D.held xs s.platform m
  others : (∀ m ≠ n, D.held zs p m = D.held xs s.platform m) ↔
    ((∀ x ∈ xs, x.2.hourId ≠ n) → (lookedUp T xs s.platform n true true).isSome →
      listIsFull s.dataQueue → ∀ x ∈ xs.head?, D.stored (T.hourSave x.2.hourId
        (hourBytes x.2.sealed) (afterLoad T n true s.platform)).2 x.2.hourId = some x.2.vars)

lemma OnDisk.fetches (hk : OnDisk D s xs)
    (hget : (datahourGet T n true true).run s = .ok o { s with dataQueue := q, platform := p })
    (hc : ({ s with dataQueue := q, platform := p } : Globals δ).CacheHolds T zs) :
    Fetches D s xs n o p zs := by
  have hleft : LookupLeft T s xs n true true o p zs := datahourGet_left hk.cache hget hc
  have hz := hk.get hget hc
  have hnode : ∀ {a h h'}, (a, h) ∈ zs → (a, h') ∈ zs → h = h' := by
    intro a h h' hmem hmem'
    exact (Prod.mk.inj (List.inj_on_of_nodup_map hc.queue.ring.nodup hmem hmem' rfl)).2
  cases hleft with
  | hit pre x post split id newest perm =>
    have hx : x ∈ xs := perm.mem_iff.mp List.mem_cons_self
    have hsame : ∀ m, D.held (x :: (post ++ pre)) s.platform m = D.held xs s.platform m :=
      fun m => FallibleStorage.held_perm hk.ids perm
    refine ⟨fun hnone => (by cases hnone), ?_, fun hnone => (by cases hnone), ?_⟩
    · intro a h ha hmem
      obtain rfl := Option.some.inj ha
      obtain rfl := hnode hmem List.mem_cons_self
      exact ⟨lookedUp_cached hk.ids hx id, id, Or.inl (FallibleStorage.held_cached hk.ids hx id)⟩
    · exact iff_of_true (fun m _ => hsame m) (fun hmiss => absurd id (hmiss x hx))
  | absent miss nothing =>
    have hnone : lookedUp T xs s.platform n true true = none := by
      rw [lookedUp_missed miss, nothing]
    have hsame : ∀ m, D.held xs (afterLoad T n true s.platform) m = D.held xs s.platform m :=
      fun m => FallibleStorage.held_congr (by rw [FallibleStorage.afterLoad_files])
    refine ⟨fun _ => hnone, fun a h ha => (by cases ha), fun _ => hsame, ?_⟩
    exact iff_of_true (fun m _ => hsame m) (fun _ hsome => by simp [hnone] at hsome)
  | added miss hour node p ys fresh new sub room =>
    obtain ⟨hid, hstored⟩ := hk.files.fetched_hour new
    have hlooked : lookedUp T xs s.platform n true true = some hour := by
      rw [lookedUp_missed miss, new]
    refine ⟨fun hnone => (by cases hnone), ?_, fun hnone => (by cases hnone), ?_⟩
    · intro a h ha hmem
      obtain rfl := Option.some.inj ha
      obtain rfl := hnode hmem (List.mem_append_right _ (List.mem_singleton_self _))
      rw [FallibleStorage.held_missed miss]
      exact ⟨hlooked, hid, hstored rfl⟩
    · rcases room with ⟨rfl, rfl⟩ | ⟨x, rfl, rfl⟩
      · refine iff_of_true (fun m hm => ?_) (fun _ _ hfull => absurd hfull (hk.cache.not_isFull hc))
        have hne : ∀ y ∈ [(node, hour)], y.2.hourId ≠ m := by
          intro y hy
          rw [List.mem_singleton.mp hy, hid]
          exact hm.symm
        rw [FallibleStorage.held_append_ne hne]
        exact FallibleStorage.held_congr (by rw [FallibleStorage.afterLoad_files])
      · have hfull := datahourGet_full hk.cache miss new hget hc
        rw [held_evicted_iff hk.ids (miss x List.mem_cons_self) hid
          (FallibleStorage.afterLoad_files n true s.platform), hlooked]
        simp only [List.head?_cons, Option.mem_def, Option.some.injEq, forall_eq', Option.isSome_some,
          forall_const, hfull]
        exact ⟨fun hsaved _ => hsaved, fun hsaved => hsaved miss⟩

/-- What a lookup that creates nothing would find is what there is, if its load does not fail. -/
lemma OnDisk.localHour_eq (hk : OnDisk D s xs)
    (hload : (T.hourLoad n s.platform).1.1 = .ok ∨
      (T.hourLoad n s.platform).1.1 = .fileDoesntExist) :
    (localHour T xs s.platform n).map DataHour.vars = D.contents s n := by
  rw [hk.contents_eq]
  by_cases hcached : ∃ x ∈ xs, x.2.hourId = n
  · obtain ⟨x, hx, hid⟩ := hcached
    obtain ⟨pre, post, rfl⟩ := List.append_of_mem hx
    have hothers := hourId_others (a := x.1) (h := x.2) hk.ids
    rw [FallibleStorage.held_cached hk.ids hx hid, localHour_cached rfl hid
      (fun y hy => hid ▸ hothers y (List.mem_append_right _ hy))]
    rfl
  · have hmiss : ∀ x ∈ xs, x.2.hourId ≠ n := fun x hx hid => hcached ⟨x, hx, hid⟩
    rw [FallibleStorage.held_missed hmiss, localHour_missed hmiss, FallibleStorage.stored, fetched,
      if_pos rfl]
    rcases hl : T.hourLoad n s.platform with ⟨⟨rv, b⟩, p⟩
    rw [hl] at hload
    rcases hload with rfl | rfl
    · rw [D.load_ok n s.platform b (by rw [hl])]
      simp only [Option.bind_some, Option.map_map]
      rfl
    · rw [D.load_missing n s.platform (by rw [hl])]
      rfl

/-- So an hour exists for such a lookup exactly if it has contents. -/
theorem OnDisk.get_iff (hk : OnDisk D s xs)
    (hload : (T.hourLoad n s.platform).1.1 = .ok ∨
      (T.hourLoad n s.platform).1.1 = .fileDoesntExist) :
    ∃ o u, (datahourGet T n true false).run s = .ok o u ∧
      (o.isSome ↔ (D.contents s n).isSome) := by
  have hlocal := hk.localHour_eq hload
  rcases datahourGet_local hk.cache n with
    ⟨hnone, p, hget, -⟩ | ⟨pre, a, h, post, q, p, hsome, hget, -⟩
  · rw [hnone] at hlocal
    exact ⟨none, _, hget, by rw [← hlocal]; simp⟩
  · rw [hsome] at hlocal
    exact ⟨some a, _, hget, by rw [← hlocal]; simp⟩

end Lookups

section Calls

variable {T : Target δ} {D : FallibleStorage T} {s t u : Globals δ} {packet : Packet}
  {tx rx : List Queued} {es : List RoutingEntry} {rs : List Requested} {rv : ZejfErr}
  {target : VariableInfo} {n k : UInt32} {value : Sample} {time : UInt32} {announce : Bool}

/-- A node whose hours are cached or on disk. -/
structure Stores (D : FallibleStorage T) (s : Globals δ) : Prop where
  hours : ∃ xs, OnDisk D s xs
  network : ∃ tx rx es, NetworkHolds T s tx rx es
  requests : ∃ rs, s.RequestsHold rs

/-- A log that returns an error has changed nothing exactly if it leaves no trace. -/
lemma dataLog_stores (hs : Stores D s)
    (hrun : (dataLog T target n k value time announce).run s = .ok rv u) :
    Stores D u ∧ (rv ≠ .ok → (D.contents u = D.contents s ↔ D.LeavesNoTrace s target n k)) := by
  obtain ⟨xs, hk⟩ := hs.hours
  obtain ⟨tx, rx, es, hn⟩ := hs.network
  obtain ⟨rs, hr⟩ := hs.requests
  have hcached := hk.cache.cached_eq
  rcases dataLog_hour hk.cache hn target n k value time announce with
    ⟨q, p, zs, hget, hc, hlog⟩ | ⟨a, pre, h, post, q, p, v, sent, hget, hc, hlog, hlogged⟩
  · obtain ⟨-, rfl⟩ := EStateM.Result.ok.inj (hrun.symm.trans hlog)
    have hz := hk.get hget hc
    have hf := hk.fetches hget hc
    refine ⟨⟨⟨zs, hz⟩, ⟨tx, rx, es, hn.data q p⟩, ⟨rs, hr.congr rfl rfl⟩⟩, fun _ => ?_⟩
    have hnone := hf.nothing rfl
    rw [hz.contents_eq, hk.contents_eq]
    refine iff_of_true (funext (hf.same rfl)) ⟨?_, ?_, ?_⟩
    · exact Or.inl (hcached ▸ hnone)
    · rw [hcached, hnone]
      rintro h ⟨⟩
    · rw [hcached, hnone]
      rintro - ⟨⟩
  · obtain ⟨hrv', rfl⟩ := EStateM.Result.ok.inj (hrun.symm.trans hlog)
    have hz := hk.get hget hc
    have hf := hk.fetches hget hc
    obtain ⟨q', tq, ps, -, hframe⟩ := hlogged.frame
    have hid := hlogged.hourId
    have hplatform : u.platform = p := (congrArg Globals.platform hframe).trans rfl
    have hu := hz.replace hlogged.cache (hplatform ▸ hz.files) hid
    have hr' : u.RequestsHold rs := by
      rw [hframe]
      exact hr.congr rfl rfl
    refine ⟨⟨⟨_, hu⟩, ⟨_, rx, es, hlogged.network⟩, ⟨rs, hr'⟩⟩, fun hrv => ?_⟩
    obtain ⟨hlooked, hidn, hheld⟩ := hf.answer a h rfl (by simp)
    rw [hk.contents_replace_iff hu hplatform hid hidn, hf.others]
    rcases hheld with hheld | ⟨hheld, -⟩
    · have hwf : h.WellFormed T.toSettings := hc.wellFormed (a, h) (by simp)
      have hvars := log_vars_iff hwf (hrv' ▸ hrv)
      rw [hheld, Option.some_inj, eq_comm (a := h.vars), hvars]
      constructor
      · rintro ⟨hevicted, hadds⟩
        refine ⟨Or.inr ?_, ?_, hcached.symm ▸ hevicted⟩
        · rw [hk.contents_eq, hheld]
          rfl
        · rw [hcached, hlooked]
          rintro g hg
          obtain rfl := Option.some.inj hg
          exact hadds
      · rintro ⟨-, hadds, hevicted⟩
        rw [hcached] at hadds hevicted
        exact ⟨hevicted, hadds h hlooked⟩
    · refine iff_of_false ?_ ?_
      · rintro ⟨-, hsome⟩
        rw [hheld] at hsome
        cases hsome
      · rintro ⟨hknown, -, -⟩
        rw [hcached, hlooked, hk.contents_eq, hheld] at hknown
        simp at hknown

/-- What there is of the hours and what leaves no trace are about the cache and the disk. -/
lemma contents_congr (hq : t.dataQueue = s.dataQueue) (hp : t.platform = s.platform) :
    D.contents t = D.contents s := by
  unfold FallibleStorage.contents Globals.cached
  rw [hq, hp]

lemma leavesNoTrace_congr (hq : t.dataQueue = s.dataQueue) (hp : t.platform = s.platform) :
    D.LeavesNoTrace t target n k ↔ D.LeavesNoTrace s target n k := by
  have hcached : t.cached = s.cached := by
    unfold Globals.cached
    rw [hq]
  have hcontents := contents_congr (D := D) hq hp
  constructor
  · rintro ⟨hknown, hadds, hevicted⟩
    rw [hcached, hp] at hknown hadds hevicted
    rw [hcontents] at hknown
    rw [hq] at hevicted
    exact ⟨hknown, hadds, hevicted⟩
  · rintro ⟨hknown, hadds, hevicted⟩
    rw [← hcached, ← hp] at hknown hadds hevicted
    rw [← hcontents] at hknown
    rw [← hq] at hevicted
    exact ⟨hknown, hadds, hevicted⟩

/-- A log that comes in is a call with the fields of its message, if they can be read. -/
lemma processDataLog_cases {a : ℕ} (hp : s.packets.cells a = some packet)
    (hrun : (processDataLog T a time).run s = .ok rv u) :
    (u = s ∧ rv ≠ .ok ∧ ∀ message, packet.message = some message → logFields T message = none) ∨
      ∃ message f, packet.message = some message ∧ logFields T message = some f ∧
        (dataLog T f.info f.hourNumber f.sampleNum f.val time false).run s = .ok rv u := by
  cases hm : packet.message with
  | none =>
    rw [processDataLog, run_bind_ok (readPacket_run hp)] at hrun
    simp only [hm] at hrun
    obtain ⟨rfl, rfl⟩ := EStateM.Result.ok.inj hrun
    exact Or.inl ⟨rfl, by decide, fun message hmessage => by cases hmessage⟩
  | some message =>
    rw [processDataLog_eq hp hm] at hrun
    cases hf : logFields T message with
    | none =>
      rw [hf] at hrun
      obtain ⟨rfl, rfl⟩ := EStateM.Result.ok.inj hrun
      refine Or.inl ⟨rfl, by decide, fun message' hmessage => ?_⟩
      obtain rfl := Option.some.inj hmessage
      exact hf
    | some f =>
      rw [hf] at hrun
      exact Or.inr ⟨message, f, rfl, hf, hrun⟩

lemma dataLog_loose (hk : OnDisk D s xs) (hn : NetworkHolds T s tx rx es) {b : ℕ}
    (hloose : s.Loose tx rx b)
    (hrun : (dataLog T target n k value time announce).run s = .ok rv u) :
    ∃ tx', NetworkHolds T u tx' rx es ∧ u.Loose tx' rx b := by
  obtain ⟨o, q, p, zs, r, v, ys, sent, -, -, hlog, hlogged⟩ :=
    dataLog_cached hk.cache hn target n k value time announce
  obtain ⟨-, rfl⟩ := EStateM.Result.ok.inj (hrun.symm.trans hlog)
  exact ⟨tx ++ sent, hlogged.network, (hlogged.loose b).mpr hloose⟩

/-- A call keeps the node in order; if it returns an error, it has changed nothing exactly if it
leaves no trace. -/
lemma LogCall.run_stores (hs : Stores D s) {call : LogCall}
    (hrun : (call.run T).run s = .ok rv u) : Stores D u ∧
      (rv ≠ .ok → (D.contents u = D.contents s ↔ D.CallLeavesNoTrace s call)) := by
  cases call with
  | log target n k value time announce => exact dataLog_stores hs hrun
  | receive packet time =>
    obtain ⟨t, hreceive, rfl⟩ := inHand_cases hrun
    obtain ⟨xs, hk⟩ := hs.hours
    obtain ⟨tx, rx, es, hn⟩ := hs.network
    obtain ⟨rs, hr⟩ := hs.requests
    obtain ⟨hn₁, hloose⟩ := hn.push packet
    have hk₁ : OnDisk D { s with packets := s.packets.push packet } xs := hk.congr rfl rfl
    have hpacket : (s.packets.push packet).cells s.packets.next = some packet :=
      (Heap.push_cells _ _ _).trans (if_pos rfl)
    rcases processDataLog_cases hpacket hreceive with
      ⟨rfl, -, hnone⟩ | ⟨message, f, hm, hf, hlog⟩
    · refine ⟨⟨⟨xs, hk.congr rfl rfl⟩, ⟨tx, rx, es, hn₁.erase hloose⟩,
        ⟨rs, hr.congr rfl rfl⟩⟩, fun _ => iff_of_true (contents_congr rfl rfl) ?_⟩
      intro message f hm hf
      rw [hnone message hm] at hf
      cases hf
    · have hs₁ : Stores D { s with packets := s.packets.push packet } :=
        ⟨⟨xs, hk₁⟩, ⟨tx, rx, es, hn₁⟩, ⟨rs, hr.congr rfl rfl⟩⟩
      obtain ⟨ht, hiff⟩ := dataLog_stores hs₁ hlog
      obtain ⟨tx', hn₂, hloose'⟩ := dataLog_loose hk₁ hn₁ hloose hlog
      obtain ⟨zs, hz⟩ := ht.hours
      obtain ⟨qs, hq⟩ := ht.requests
      refine ⟨⟨⟨zs, hz.congr rfl rfl⟩, ⟨tx', rx, es, hn₂.erase hloose'⟩,
        ⟨qs, hq.congr rfl rfl⟩⟩, fun hrv => ?_⟩
      have hiff' : D.contents t = D.contents s ↔
          D.LeavesNoTrace s f.info f.hourNumber f.sampleNum :=
        (hiff hrv).trans (leavesNoTrace_congr rfl rfl)
      have hsame : D.contents { t with packets := t.packets.erase s.packets.next } = D.contents t :=
        contents_congr rfl rfl
      rw [hsame, hiff']
      constructor
      · intro htrace message' f' hm' hf'
        obtain rfl := Option.some.inj (hm.symm.trans hm')
        obtain rfl := Option.some.inj (hf.symm.trans hf')
        exact htrace
      · intro hall
        exact hall message f hm hf

/-! ### Other operations -/

/-- A node stays in order when only its hours and their files have changed. -/
lemma Stores.moved (hs : Stores D s) {q : LinkedList DataHour} {p : δ} {zs : List (ℕ × DataHour)}
    (hz : OnDisk D { s with dataQueue := q, platform := p } zs) :
    Stores D { s with dataQueue := q, platform := p } := by
  obtain ⟨tx, rx, es, hn⟩ := hs.network
  obtain ⟨rs, hr⟩ := hs.requests
  exact ⟨⟨zs, hz⟩, ⟨tx, rx, es, hn.data q p⟩, ⟨rs, hr.congr rfl rfl⟩⟩

lemma datahourGet_stores (hs : Stores D s) {load create : Bool} {o : Option ℕ}
    (hrun : (datahourGet T n load create).run s = .ok o u) : Stores D u := by
  obtain ⟨xs, hk⟩ := hs.hours
  obtain ⟨o', q, p, zs, hget, hc, -⟩ := datahourGet_cached hk.cache n load create
  obtain ⟨-, rfl⟩ := EStateM.Result.ok.inj (hrun.symm.trans hget)
  exact hs.moved (hk.get hget hc)

lemma dataSaveHour_onDisk {pre post : List (ℕ × DataHour)} {a : ℕ} {h : DataHour}
    (hk : OnDisk D s (pre ++ (a, h) :: post)) : ∃ q p h', (dataSaveHour T a).run s =
        .ok () { s with dataQueue := q, platform := p } ∧
      OnDisk D { s with dataQueue := q, platform := p } (pre ++ (a, h') :: post) := by
  rcases dataSaveHour_cases hk.cache with ⟨-, hrun⟩ | ⟨-, rv, q, p, h', hsave, hh', hrun, hc⟩
  · exact ⟨s.dataQueue, s.platform, h, hrun, hk⟩
  have hp : (T.hourSave h.hourId (hourBytes h.sealed) s.platform).2 = p := congrArg Prod.snd hsave
  refine ⟨q, p, h', hrun, hk.replace hc (hp ▸ hk.files.saved h) ?_⟩
  rw [hh']
  split <;> rfl

lemma dataSave_stores (hs : Stores D s) {r : Unit} (hrun : (dataSave T).run s = .ok r u) :
    Stores D u := by
  obtain ⟨xs, hk⟩ := hs.hours
  obtain ⟨ys, q, p, hsave, hk'⟩ := dataSave_keeps (I := OnDisk D) (fun _ _ hk => hk.cache)
    (fun _ _ _ _ _ hk => dataSaveHour_onDisk hk) hk
  obtain ⟨-, rfl⟩ := EStateM.Result.ok.inj (hrun.symm.trans hsave)
  exact hs.moved hk'

lemma calculateDataCheck_onDisk (hk : OnDisk D s xs) {info : VariableInfo} {logNum : UInt32}
    {r : ZejfErr × Option UInt32} (hrun : (calculateDataCheck T info n logNum).run s = .ok r u) :
    ∃ q p zs, u = { s with dataQueue := q, platform := p } ∧ OnDisk D u zs := by
  rcases calculateDataCheck_hour hk.cache info n logNum with
    ⟨q, p, zs, hget, hc, hcheck⟩ | ⟨a, pre, h, post, q, p, q', hget, hc, hcheck, hc'⟩
  · obtain ⟨-, rfl⟩ := EStateM.Result.ok.inj (hrun.symm.trans hcheck)
    exact ⟨q, p, zs, rfl, hk.get hget hc⟩
  · obtain ⟨-, rfl⟩ := EStateM.Result.ok.inj (hrun.symm.trans hcheck)
    have hz := hk.get hget hc
    exact ⟨q', p, _, rfl, hz.replace hc' hz.files (check_kept h _ info logNum).1⟩

lemma receiveCheck_stores (hs : Stores D s)
    (hrun : (inHand packet (dataCheckReceive T)).run s = .ok rv u) : Stores D u := by
  obtain ⟨xs, hk⟩ := hs.hours
  obtain ⟨tx, rx, es, hn⟩ := hs.network
  obtain ⟨rs, hr⟩ := hs.requests
  obtain ⟨t, hreceive, rfl⟩ := inHand_cases hrun
  obtain ⟨hn₁, hloose⟩ := hn.push packet
  have hpacket : (s.packets.push packet).cells s.packets.next = some packet :=
    (Heap.push_cells _ _ _).trans (if_pos rfl)
  obtain ⟨message, hm, ⟨hfields, rfl⟩ | ⟨f, r, t', hfields, hcheck, hadd⟩⟩ :=
    dataCheckReceive_cases hpacket hreceive
  · exact ⟨⟨xs, hk.congr rfl rfl⟩, ⟨tx, rx, es, hn₁.erase hloose⟩,
      ⟨rs, hr.congr rfl rfl⟩⟩
  · obtain ⟨q, p, zs, rfl, hz⟩ := calculateDataCheck_onDisk
      (s := { s with packets := s.packets.push packet })
      (hk.congr rfl rfl) hcheck
    have hn₂ := hn₁.data q p
    rcases hadd with rfl | ⟨-, -, hadd⟩
    · exact ⟨⟨zs, hz.congr rfl rfl⟩, ⟨tx, rx, es, hn₂.erase hloose⟩,
        ⟨rs, hr.congr rfl rfl⟩⟩
    · obtain ⟨rq, rhs, qs, rfl, hqs⟩ := dataRequestAdd_keeps
        (s := { s with packets := s.packets.push packet, dataQueue := q, platform := p })
        (hr.congr rfl rfl) hadd
      have hn₃ := hn₂.setRequests rq rhs
      exact ⟨⟨zs, hz.congr rfl rfl⟩, ⟨tx, rx, es, hn₃.erase hloose⟩,
        ⟨qs, hqs.congr rfl rfl⟩⟩

lemma StoreOp.run_stores (hs : Stores D s) {op : StoreOp} {r : Unit}
    (hrun : (op.run T).run s = .ok r u) : Stores D u := by
  cases op with
  | log call =>
    obtain ⟨rv, v, hcall, hreturn⟩ := run_bind_inv hrun
    obtain ⟨-, rfl⟩ := EStateM.Result.ok.inj hreturn
    exact (LogCall.run_stores hs hcall).1
  | receiveCheck packet =>
    obtain ⟨rv, v, hreceive, hreturn⟩ := run_bind_inv hrun
    obtain ⟨-, rfl⟩ := EStateM.Result.ok.inj hreturn
    exact receiveCheck_stores hs hreceive
  | get n load create =>
    obtain ⟨o, v, hget, hreturn⟩ := run_bind_inv hrun
    obtain ⟨-, rfl⟩ := EStateM.Result.ok.inj hreturn
    exact datahourGet_stores hs hget
  | save => exact dataSave_stores hs hrun

/-- In every state of a run from an empty cache, a log that returns an error has changed nothing
of any hour, cached or on disk, exactly if its hour was not made anew for it, it did not add the
variable before it found the sample number too large, and what an evicted hour had is on disk. -/
theorem rejectedLog_unchanged_iff (D : FallibleStorage T)
    (hqueue : s.dataQueue = listCreate DataHour T.hourBufferSize) (hfiles : D.Named s.platform)
    (hnetwork : NetworkHolds T s tx rx es) (hrequests : s.RequestsHold rs)
    {tr : List (StoreOp × Unit)} (htrace : Trace (StoreOp.run T) s tr t) {call : LogCall}
    (hrun : (call.run T).run t = .ok rv u) (hrv : rv ≠ .ok) :
    D.contents u = D.contents t ↔ D.CallLeavesNoTrace t call := by
  have hs : Stores D s := ⟨⟨[], .empty hqueue, List.nodup_nil, hfiles⟩, ⟨tx, rx, es, hnetwork⟩,
    ⟨rs, hrequests⟩⟩
  have ht : Stores D t := htrace.invariant (I := fun _ t => Stores D t) (A := fun _ => True)
    (fun _ _ => trivial) hs (fun _ _ _ _ _ _ ht hop => StoreOp.run_stores ht hop)
  exact (LogCall.run_stores ht hrun).2 hrv

end Calls

section Failing

variable {settings : Settings} {n m : UInt32} {b : List UInt8}
  {p : (UInt32 → Option (List UInt8)) × List Bool}

lemma failing_load_ok (h : ((Target.failing settings).hourLoad n p).1 = (.ok, b)) :
    p.1 n = some b := by
  cases hf : p.1 n with
  | none => simp [Target.failing, hf] at h
  | some c => simpa [Target.failing, hf] using h

lemma failing_load_missing
    (h : ((Target.failing settings).hourLoad n p).1.1 = .fileDoesntExist) : p.1 n = none := by
  cases hf : p.1 n with
  | none => rfl
  | some c => simp [Target.failing, hf] at h

lemma failing_load_files (n : UInt32) (p : (UInt32 → Option (List UInt8)) × List Bool) :
    ((Target.failing settings).hourLoad n p).2.1 = p.1 := rfl

/-- A save writes the whole file or nothing, and no other file. -/
lemma failing_save : (((Target.failing settings).hourSave n b p).1 = .ok →
      ((Target.failing settings).hourSave n b p).2.1 n = some b) ∧
    (((Target.failing settings).hourSave n b p).1 ≠ .ok →
      ((Target.failing settings).hourSave n b p).2.1 n = p.1 n) ∧
    (m ≠ n → ((Target.failing settings).hourSave n b p).2.1 m = p.1 m) := by
  by_cases hfails : p.2.head? = some false
  · simp [Target.failing, hfails]
  · simp +contextual [Target.failing, hfails]

end Failing

def FallibleStorage.failing (settings : Settings) : FallibleStorage (Target.failing settings) where
  files p := p.1
  load_ok _ _ _ h := failing_load_ok h
  load_missing _ _ h := failing_load_missing h
  load_files n p := failing_load_files n p
  save_ok n _ _ h := (failing_save (m := n)).1 h
  save_failed n _ _ h := Or.inl ((failing_save (m := n)).2.1 h)
  save_others _ _ _ _ hm := failing_save.2.2 hm

/-- The first log makes the hour and the variable. -/
def firstLog : LogCall := .log ⟨4, 7⟩ 1 0 5 0 false

def wrongRate : LogCall := .log ⟨5, 7⟩ 1 0 6 0 false

theorem wrongRate_unchanged : ∃ t u,
    ((StoreOp.log firstLog).run (Target.failing Settings.zejfPress)).run failingStart = .ok () t ∧
      (wrongRate.run (Target.failing Settings.zejfPress)).run t = .ok .invalidSampleRate u ∧
      (FallibleStorage.failing Settings.zejfPress).contents u =
        (FallibleStorage.failing Settings.zejfPress).contents t := by
  let T := Target.failing Settings.zejfPress
  let t := leaves (((StoreOp.log firstLog).run T).run failingStart)
  have hfirst : ((StoreOp.log firstLog).run T).run failingStart = .ok () t :=
    run_eq_of_outcome (a := ()) (by decide +kernel)
  have hsecond := run_eq_of_outcome (x := wrongRate.run T) (s := t) (a := .invalidSampleRate)
    (by decide +kernel)
  refine ⟨t, _, hfirst, hsecond, ?_⟩
  have hnamed : (FallibleStorage.failing Settings.zejfPress).Named failingStart.platform := by
    intro n b hour hb
    cases hb
  refine (rejectedLog_unchanged_iff (FallibleStorage.failing Settings.zejfPress) rfl hnamed
    (NetworkHolds.initial _ _) (zejfInit_requestsHold _ _) (Trace.nil.snoc hfirst) hsecond
    (by decide)).mpr ⟨Or.inr (by decide +kernel), ?_, ?_⟩
  · have hknown : (lookedUp T t.cached t.platform 1 true true).map
        (fun h => (getVariable h 7).isSome) = some true := by decide +kernel
    intro h hlooked hnone
    rw [hlooked, Option.map_some, hnone] at hknown
    cases hknown
  · have hroom : listIsFull t.dataQueue = false := by decide +kernel
    intro _ _ hfull
    rw [hroom] at hfull
    cases hfull

/-- The sample number is as large as the rate, and the hour did not exist. -/
def tooLate : LogCall := .log ⟨4, 7⟩ 1 4 5 0 false

theorem tooLate_not_unchanged : ∃ u,
    (tooLate.run (Target.failing Settings.zejfPress)).run failingStart = .ok .logNumber u ∧
      (FallibleStorage.failing Settings.zejfPress).contents failingStart 1 = none ∧
      ((FallibleStorage.failing Settings.zejfPress).contents u 1).isSome := by
  have hrun := run_eq_of_outcome (x := tooLate.run (Target.failing Settings.zejfPress))
    (s := failingStart) (a := .logNumber) (by decide +kernel)
  exact ⟨_, hrun, rfl, by decide +kernel⟩

end ZejfMeteo
