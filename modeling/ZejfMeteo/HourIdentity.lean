import ZejfMeteo.DataRuns
import ZejfMeteo.Lib.Trace

/-!
# Which hour the cache answers with

A cached hour is known by its `hour_id`, and a loaded hour brings its `hour_id` along in its
file. Runs of lookups, logs and reads are followed, and what they hand to `hour_save` is
recorded.
-/

namespace ZejfMeteo
open Runs

variable {δ : Type}

/-- The platform that also writes down which bytes are saved under which number. -/
def Target.recording (T : Target δ) : Target (δ × List (UInt32 × List UInt8)) where
  toSettings := T.toSettings
  hourLoad n p := ((T.hourLoad n p.1).1, (T.hourLoad n p.1).2, p.2)
  hourSave n b p := ((T.hourSave n b p.1).1, (T.hourSave n b p.1).2, p.2 ++ [(n, b)])
  networkSendVia msg i time p :=
    ((T.networkSendVia msg i time p.1).1, (T.networkSendVia msg i time p.1).2, p.2)
  getAllInterfaces p := T.getAllInterfaces p.1
  providedVariables := T.providedVariables
  demandedVariables := T.demandedVariables
  printValue := T.printValue
  scanValue := T.scanValue
  doubleToUInt32 := T.doubleToUInt32
  doubleToUInt32_eq := T.doubleToUInt32_eq

/-- A device whose saves are recorded. -/
abbrev Recorded (δ : Type) := Globals (δ × List (UInt32 × List UInt8))

def Globals.saves (s : Recorded δ) : List (UInt32 × List UInt8) := s.platform.2

/-- A call that may look an hour up. -/
inductive CacheOp
  | get (hourNumber : UInt32) (load create : Bool)
  | log (target : VariableInfo) (hourNumber sampleNumber : UInt32) (value : Sample)
      (time : UInt32) (announce : Bool)
  | getVal (info : VariableInfo) (hourNumber logNumber : UInt32) (load createNew : Bool)

inductive CacheResult
  | hour (a : Option ℕ)
  | code (rv : ZejfErr)
  | value (rv : ZejfErr) (value : Option Sample)
deriving DecidableEq

namespace CacheOp

def hourNumber : CacheOp → UInt32
  | get n _ _ => n
  | log _ n _ _ _ _ => n
  | getVal _ n _ _ _ => n

def load : CacheOp → Bool
  | get _ load _ => load
  | log .. => true
  | getVal _ _ _ load _ => load

def create : CacheOp → Bool
  | get _ _ create => create
  | log .. => true
  | getVal _ _ _ _ create => create

def run (T : Target δ) : CacheOp → Run (Globals δ) CacheResult
  | get n load create => do
    return .hour (← datahourGet T n load create)
  | log target n k value time announce => do
    return .code (← dataLog T target n k value time announce)
  | getVal info n k load create => do
    let (rv, value) ← dataGetVal T info n k load create
    return .value rv value

end CacheOp

variable (T : Target δ)

/-- The hour at a node was loaded or created for the number: a call with this number has put
it into the cache. -/
def BroughtInFor (s : Recorded δ) (tr : List (CacheOp × CacheResult)) (a : ℕ) (n : UInt32) : Prop :=
  ∃ pre op r post t u, tr = pre ++ (op, r) :: post ∧ Trace (CacheOp.run T.recording) s pre t ∧
    (op.run T.recording).run t = .ok r u ∧ op.hourNumber = n ∧ a ∉ t.cached.map Prod.fst ∧
    a ∈ u.cached.map Prod.fst

/-- The lookup of a call returns the hour that was asked for or none, no hour is cached twice
afterwards, and what the call saved are hours under the numbers they were brought in for. -/
structure AnswersAsked (s : Recorded δ) (tr : List (CacheOp × CacheResult)) (t : Recorded δ)
    (op : CacheOp) (r : CacheResult) : Prop where
  answer : ∀ a v, (datahourGet T.recording op.hourNumber op.load op.create).run t = .ok (some a) v →
    ∃ h, (a, h) ∈ v.cached ∧ h.hourId = op.hourNumber
  once : ∀ u, (op.run T.recording).run t = .ok r u → (u.cached.map (fun x => x.2.hourId)).Nodup
  saved : ∀ u, (op.run T.recording).run t = .ok r u → ∃ new, u.saves = t.saves ++ new ∧
    ∀ n bytes, (n, bytes) ∈ new → ∃ a h, (a, h) ∈ t.cached ∧ bytes = hourBytes h.sealed ∧
      BroughtInFor T s tr a n

/-- What is loaded on a miss, if it is accepted as an hour, is the hour that was asked for. -/
def LoadsAsked (t : Recorded δ) (op : CacheOp) : Prop :=
  (∀ x ∈ t.cached, x.2.hourId ≠ op.hourNumber) → op.load = true → ∀ buffer hour,
    (T.hourLoad op.hourNumber t.platform.1).1 = (.ok, buffer) →
    hourDeserialize T.toSettings buffer buffer.length = some hour → hour.hourId = op.hourNumber

section Steps

variable {T : Target δ} {s t u : Recorded δ} {tr : List (CacheOp × CacheResult)} {op : CacheOp}
  {r : CacheResult} {xs ys zs : List (ℕ × DataHour)} {tx rx : List Queued} {es : List RoutingEntry}
  {a : ℕ} {n : UInt32}

/-- Every call looks its hour up first and keeps the hours that are then in the cache. -/
lemma CacheOp.run_cached (op : CacheOp) (hc : t.CacheHolds T.recording xs)
    (hn : NetworkHolds T.recording t tx rx es) : ∃ o q p zs r u ys sent,
      (datahourGet T.recording op.hourNumber op.load op.create).run t =
        .ok o { t with dataQueue := q, platform := p } ∧
      ({ t with dataQueue := q, platform := p } : Recorded δ).CacheHolds T.recording zs ∧
      (op.run T.recording).run t = .ok r u ∧
      Globals.Logged T.recording { t with dataQueue := q, platform := p } zs tx rx es u ys sent := by
  cases op with
  | get n load create =>
    obtain ⟨o, q, p, zs, hget, hc', -⟩ := datahourGet_cached hc n load create
    exact ⟨o, q, p, zs, _, _, zs, [], hget, hc', (run_bind_ok hget).trans rfl,
      Globals.Logged.cache_only (q := q) (hn.data q p) hc' rfl⟩
  | log target n k value time announce =>
    obtain ⟨o, q, p, zs, r, u, ys, sent, hget, hc', hrun, hlogged⟩ :=
      dataLog_cached hc hn target n k value time announce
    exact ⟨o, q, p, zs, _, u, ys, sent, hget, hc', (run_bind_ok hrun).trans rfl, hlogged⟩
  | getVal info n k load create =>
    obtain ⟨o, q, p, zs, r, hget, hc', hrun⟩ := dataGetVal_cached hc info n k load create
    exact ⟨o, q, p, zs, _, _, zs, [], hget, hc', (run_bind_ok hrun).trans rfl,
      Globals.Logged.cache_only (q := q) (hn.data q p) hc' rfl⟩

/-- What comes in on a miss is the hour asked for, if what is loaded is. -/
lemma fetched_asked {load create : Bool} {platform : δ} {hour : DataHour}
    (hload : load = true → ∀ buffer hour, (T.hourLoad n platform).1 = (.ok, buffer) →
      hourDeserialize T.toSettings buffer buffer.length = some hour → hour.hourId = n)
    (h : fetched T n load create platform = some hour) : hour.hourId = n := by
  have hmissing : ∀ {hour}, (if create then some (hourCreate n) else none) = some hour →
      hour.hourId = n := by
    intro hour h
    cases create with
    | false => cases h
    | true =>
      rw [← Option.some.inj h]
      rfl
  cases load with
  | false => exact hmissing h
  | true =>
    simp only [fetched, if_true] at h
    split at h
    · rename_i buffer hbuffer
      obtain ⟨loaded, hread, rfl⟩ := Option.map_eq_some_iff.mp h
      exact hload rfl buffer loaded hbuffer hread
    · exact hmissing h
    · cases h

lemma BroughtInFor.concat (h : BroughtInFor T s tr a n) (x : CacheOp × CacheResult) :
    BroughtInFor T s (tr ++ [x]) a n := by
  obtain ⟨pre, op, r, post, t, u, rfl, hrest⟩ := h
  exact ⟨pre, op, r, post ++ [x], t, u, by simp, hrest⟩

/-- A trace of calls over a cache and a network in order. -/
structure InService (T : Target δ) (s : Recorded δ) (rx : List Queued) (es : List RoutingEntry)
    (tr : List (CacheOp × CacheResult)) (t : Recorded δ) : Prop where
  trace : Trace (CacheOp.run T.recording) s tr t
  cache : ∃ xs, t.CacheHolds T.recording xs
  network : ∃ tx, NetworkHolds T.recording t tx rx es

/-- Every cached hour has the number that it was brought in for, and no two have the same. -/
structure Identified (T : Target δ) (s : Recorded δ) (tr : List (CacheOp × CacheResult))
    (t : Recorded δ) : Prop where
  once : (t.cached.map (fun x => x.2.hourId)).Nodup
  brought : ∀ x ∈ t.cached, BroughtInFor T s tr x.1 x.2.hourId

lemma InService.step (h : InService T s rx es tr t) (hrun : (op.run T.recording).run t = .ok r u) :
    InService T s rx es (tr ++ [(op, r)]) u := by
  obtain ⟨xs, hc⟩ := h.cache
  obtain ⟨tx, hn⟩ := h.network
  obtain ⟨o, q, p, zs, r', u', ys, sent, -, -, hrun', hlogged⟩ := op.run_cached hc hn
  obtain ⟨-, rfl⟩ := EStateM.Result.ok.inj (hrun.symm.trans hrun')
  exact ⟨h.trace.snoc hrun, ⟨ys, hlogged.cache⟩, ⟨_, hlogged.network⟩⟩

/-- A lookup that answers with the hour asked for has loaded no other one. -/
lemma loadsAsked_of_answer (hc : t.CacheHolds T.recording xs)
    (hanswer : ∀ a v, (datahourGet T.recording op.hourNumber op.load op.create).run t =
      .ok (some a) v → ∃ h, (a, h) ∈ v.cached ∧ h.hourId = op.hourNumber) : LoadsAsked T t op := by
  intro hmiss hload buffer hour hbuffer hread
  rw [hc.cached_eq] at hmiss
  have hlookup := datahourGet_run hc op.hourNumber op.load op.create
  generalize hrun : (datahourGet T.recording op.hourNumber op.load op.create).run t = run at *
  have hfetched : fetched T.recording op.hourNumber op.load op.create t.platform =
      some { hour with flags := 0 } := by
    have hbuffer' : (T.recording.hourLoad op.hourNumber t.platform).1 = (.ok, buffer) := hbuffer
    simp only [fetched, hload, if_true, hbuffer']
    rw [show T.recording.toSettings = T.toSettings from rfl, hread]
    rfl
  cases hlookup with
  | hit pre x post q split id newest result holds => exact absurd id (hmiss x (by simp [split]))
  | absent miss nothing result =>
    rw [hfetched] at nothing
    cases nothing
  | added miss hour' node q p ys fresh new result holds room =>
    obtain ⟨h, hmem, hid⟩ := hanswer node _ result
    rw [holds.cached_eq] at hmem
    have hnodup := holds.queue.ring.nodup
    have hsame : (node, h) = (node, hour') :=
      List.inj_on_of_nodup_map hnodup hmem (by simp) rfl
    have hids := congrArg DataHour.hourId (Option.some.inj (hfetched.symm.trans new))
    rw [(Prod.mk.inj hsame).2] at hid
    exact hids.trans hid

lemma mem_hourKeys {x : ℕ × DataHour} (h : x ∈ xs) : (x.1, x.2.hourId) ∈ hourKeys xs :=
  List.mem_map.mpr ⟨x, h, rfl⟩

/-- The numbers and the nodes of the hours decide whether they are identified. -/
lemma Identified.of_keys (hc : u.CacheHolds T.recording ys) (hkeys : hourKeys ys = hourKeys zs)
    (honce : (zs.map (fun x => x.2.hourId)).Nodup)
    (hbrought : ∀ x ∈ zs, BroughtInFor T s tr x.1 x.2.hourId) : Identified T s tr u where
  once := by
    rw [hc.cached_eq, ← map_snd_hourKeys, hkeys, map_snd_hourKeys]
    exact honce
  brought x hx := by
    rw [hc.cached_eq] at hx
    have hm := mem_hourKeys hx
    rw [hkeys] at hm
    obtain ⟨z, hz, he⟩ := List.mem_map.mp hm
    have hz' := hbrought z hz
    rwa [(Prod.mk.inj he).1, (Prod.mk.inj he).2] at hz'

/-- A call that loads no other hour than the one asked for. -/
lemma Identified.step (hs : InService T s rx es tr t) (ht : Identified T s tr t)
    (hload : LoadsAsked T t op) (hrun : (op.run T.recording).run t = .ok r u) :
    Identified T s (tr ++ [(op, r)]) u ∧ AnswersAsked T s tr t op r := by
  obtain ⟨xs, hc⟩ := hs.cache
  obtain ⟨tx, hn⟩ := hs.network
  obtain ⟨o, q, p, zs, r', u', ys, sent, hget, hc', hrun', hlogged⟩ := op.run_cached hc hn
  obtain ⟨rfl, rfl⟩ := EStateM.Result.ok.inj (hrun.symm.trans hrun')
  have honce := ht.once
  have hbrought := fun x hx => (ht.brought x hx).concat (op, r)
  rw [hc.cached_eq] at honce hbrought
  obtain ⟨_, _, _, -, hframe⟩ := hlogged.frame
  have hsaves : u.saves = p.2 := by
    rw [hframe]
    rfl
  -- It is enough to know what the lookup has left in the cache and what it has saved.
  suffices hzs : (zs.map (fun x => x.2.hourId)).Nodup ∧
      (∀ x ∈ zs, BroughtInFor T s (tr ++ [(op, r)]) x.1 x.2.hourId) ∧
      (∀ a, o = some a → ∃ h, (a, h) ∈ zs ∧ h.hourId = op.hourNumber) ∧
      (p.2 = t.saves ∨ ∃ x ∈ xs, p.2 = t.saves ++ [(x.2.hourId, hourBytes x.2.sealed)]) by
    obtain ⟨honce', hbrought', hanswer, hsaved⟩ := hzs
    have hu := Identified.of_keys hlogged.cache hlogged.keys honce' hbrought'
    refine ⟨hu, ?_, ?_, ?_⟩
    · intro a v hv
      obtain ⟨rfl, rfl⟩ := EStateM.Result.ok.inj (hget.symm.trans hv)
      rw [hc'.cached_eq]
      exact hanswer a rfl
    · intro u' hu'
      obtain ⟨-, rfl⟩ := EStateM.Result.ok.inj (hrun.symm.trans hu')
      exact hu.once
    · intro u' hu'
      obtain ⟨-, rfl⟩ := EStateM.Result.ok.inj (hrun.symm.trans hu')
      rw [hsaves]
      rcases hsaved with hsame | ⟨x, hx, hsaved⟩
      · exact ⟨[], by simp [hsame], by simp⟩
      · refine ⟨_, hsaved, ?_⟩
        intro n bytes hm
        obtain ⟨rfl, rfl⟩ := Prod.mk.inj (List.mem_singleton.mp hm)
        rw [← hc.cached_eq] at hx
        exact ⟨x.1, x.2, hx, rfl, ht.brought x hx⟩
  have hleft : LookupLeft T.recording t xs op.hourNumber op.load op.create o p zs :=
    datahourGet_left hc hget hc'
  cases hleft with
  | hit pre x post split id newest perm =>
    refine ⟨(perm.map _).nodup_iff.mpr honce, ?_, ?_, Or.inl rfl⟩
    · intro y hy
      exact hbrought y (perm.mem_iff.mp hy)
    · intro a ha
      obtain rfl := Option.some.inj ha
      exact ⟨x.2, List.mem_cons_self, id⟩
  | absent miss nothing =>
    refine ⟨honce, hbrought, by simp, Or.inl ?_⟩
    unfold afterLoad
    split <;> rfl
  | added miss hour node p ys' fresh new sub room =>
    have hid : hour.hourId = op.hourNumber := by
      refine fetched_asked ?_ new
      unfold LoadsAsked at hload
      rw [hc.cached_eq] at hload
      exact hload miss
    have hnew : BroughtInFor T s (tr ++ [(op, r)]) node hour.hourId := by
      refine ⟨tr, op, r, [], t, u, rfl, hs.trace, hrun, hid.symm, ?_, ?_⟩
      · rw [hc.cached_eq]
        exact fresh
      · rw [hlogged.cache.cached_eq, ← map_fst_hourKeys, hlogged.keys, map_fst_hourKeys]
        simp
    refine ⟨hourIds_added honce sub miss hid, ?_, ?_, ?_⟩
    · intro y hy
      rcases List.mem_append.mp hy with hy | hy
      · exact hbrought y (sub.subset hy)
      · rw [List.mem_singleton.mp hy]
        exact hnew
    · intro a ha
      obtain rfl := Option.some.inj ha
      exact ⟨hour, by simp, hid⟩
    · have hafter : (afterLoad T.recording op.hourNumber op.load t.platform).2 = t.saves := by
        unfold afterLoad
        split <;> rfl
      rcases room with ⟨-, rfl⟩ | ⟨x, rfl, rfl⟩
      · exact Or.inl hafter
      · refine Or.inr ⟨x, List.mem_cons_self, ?_⟩
        rw [← hafter]
        rfl

end Steps

section Runs

variable {T : Target δ} {s t : Recorded δ} {tr : List (CacheOp × CacheResult)}
  {tx rx : List Queued} {es : List RoutingEntry}

lemma inService_start (hqueue : s.dataQueue = listCreate DataHour T.hourBufferSize)
    (hnetwork : NetworkHolds T.recording s tx rx es) : InService T s rx es [] s where
  trace := .nil
  cache := ⟨[], .empty hqueue⟩
  network := ⟨tx, hnetwork⟩

lemma identified_start (hqueue : s.dataQueue = listCreate DataHour T.hourBufferSize) :
    Identified T s [] s := by
  have hcached : s.cached = [] := by
    rw [Globals.cached, hqueue]
    exact (LinkedList.listCreate_holds _ _).items_eq
  refine ⟨?_, ?_⟩
  · rw [hcached]
    exact List.nodup_nil
  · rw [hcached]
    intro x hx
    cases hx

/-- From an empty cache, every call answers with the hour that was asked for, keeps the hours
apart and saves them under their own numbers, exactly if no call loads another hour than the
one it asks for. -/
theorem answersAsked_iff_loadsAsked
    (hqueue : s.dataQueue = listCreate DataHour T.hourBufferSize)
    (hnetwork : NetworkHolds T.recording s tx rx es)
    (htrace : Trace (CacheOp.run T.recording) s tr t) :
    Throughout (CacheOp.run T.recording) s (AnswersAsked T s) tr ↔
      Throughout (CacheOp.run T.recording) s (fun _ t op _ => LoadsAsked T t op) tr := by
  have hstart := inService_start hqueue hnetwork
  constructor
  · intro hall
    refine hall.mono (I := InService T s rx es) htrace hstart ?_
    intro tr t op r u hs hanswers hrun
    obtain ⟨xs, hc⟩ := hs.cache
    exact ⟨hs.step hrun, loadsAsked_of_answer hc hanswers.answer⟩
  · intro hall
    refine hall.mono (I := fun tr t => InService T s rx es tr t ∧ Identified T s tr t) htrace
      ⟨hstart, identified_start hqueue⟩ ?_
    rintro tr t op r u ⟨hs, ht⟩ hload hrun
    obtain ⟨hu, hanswers⟩ := ht.step hs hload hrun
    exact ⟨⟨hs.step hrun, hu⟩, hanswers⟩

/-- Every sequence of calls can be served. -/
theorem cacheRun_complete (hqueue : s.dataQueue = listCreate DataHour T.hourBufferSize)
    (hnetwork : NetworkHolds T.recording s tx rx es) (ops : List CacheOp) :
    ∃ tr t, Trace (CacheOp.run T.recording) s tr t ∧ tr.map Prod.fst = ops := by
  have hstep : ∀ (op : CacheOp) (t : Recorded δ), True → (∃ tr, InService T s rx es tr t) →
      ∃ r u, (op.run T.recording).run t = .ok r u ∧ ∃ tr, InService T s rx es tr u := by
    rintro op t - ⟨tr, hs⟩
    obtain ⟨xs, hc⟩ := hs.cache
    obtain ⟨tx', hn⟩ := hs.network
    obtain ⟨o, q, p, zs, r, u, ys, sent, -, -, hrun, -⟩ := op.run_cached hc hn
    exact ⟨r, u, hrun, _, hs.step hrun⟩
  obtain ⟨tr, t, htrace, hmap, -⟩ := Trace.complete (A := fun _ => True) hstep
    ⟨[], inService_start hqueue hnetwork⟩ (fun _ _ => trivial)
  exact ⟨tr, t, htrace, hmap⟩

end Runs

/-- An hour with one sample. -/
def storedHour : DataHour :=
  { hourCreate 5 with vars := [{ info := ⟨1, 7⟩, data := [6], size_eq := rfl }] }

/-- A device for six hours with a file of hour 5. -/
def hourStored : Target Unit :=
  { Target.bare Settings.zejfOutside with
    hourLoad := fun n p =>
      (if n = 5 then (.ok, hourBytes storedHour.sealed) else (.fileDoesntExist, []), p)
    hourSave := fun _ _ p => (.ok, p) }

def nothingCached : Recorded Unit := zejfInit hourStored.recording ((), [])

/-- Hour 5 is loaded and read, and a sample is logged to hour 1. Four more hours fill the cache;
the next ones push out both, which are saved, and hour 5 is loaded again. -/
def fullCacheCalls : List CacheOp :=
  [.get 5 true false, .getVal ⟨1, 7⟩ 5 0 true false, .log ⟨1, 7⟩ 1 0 6 0 false, .get 2 true true,
    .get 3 true true, .get 4 true true, .get 6 true true, .get 8 true true, .get 9 true true,
    .getVal ⟨1, 7⟩ 5 0 true false]

theorem fullCacheCalls_answersAsked :
    (leaves ((serve (CacheOp.run hourStored.recording) fullCacheCalls).run nothingCached)).saves.map
        Prod.fst = [5, 1, 2] ∧
      Throughout (CacheOp.run hourStored.recording) nothingCached
        (AnswersAsked hourStored nothingCached)
        (replay (CacheOp.run hourStored.recording) fullCacheCalls nothingCached) := by
  refine ⟨by decide +kernel, (answersAsked_iff_loadsAsked rfl (NetworkHolds.initial _ _)
    (.of_replay (by decide +kernel))).mpr ?_⟩
  intro _ op _ _ t _ _ _ _ buffer hour hload hread
  have hwf : storedHour.WellFormed hourStored.toSettings := by
    constructor <;> decide
  by_cases hfive : op.hourNumber = 5
  · obtain rfl : hourBytes storedHour.sealed = buffer := by
      simpa [hourStored, hfive] using hload
    obtain rfl := Option.some.inj ((hourDeserialize_hourBytes hwf).symm.trans hread)
    exact hfive.symm
  · simp [hourStored, hfive] at hload

/-- Whatever hour is asked for, the file holds hour 5. -/
def misnamedFiles : Target Unit :=
  { Target.bare Settings.zejfMeteo with
    hourLoad := fun _ p => ((.ok, hourBytes (hourCreate 5).sealed), p) }

def misnamed : Recorded Unit := zejfInit misnamedFiles.recording ((), [])

/-- Hour 7 is asked for and hour 5 is returned. -/
theorem misnamed_not_answersAsked : ∃ t,
    Trace (CacheOp.run misnamedFiles.recording) misnamed [(.get 7 true false, .hour (some 0))] t ∧
      ¬Throughout (CacheOp.run misnamedFiles.recording) misnamed
        (AnswersAsked misnamedFiles misnamed) [(.get 7 true false, .hour (some 0))] := by
  have hrun : outcome ((CacheOp.run misnamedFiles.recording (.get 7 true false)).run misnamed) =
      some (.hour (some 0)) := by decide +kernel
  have hget : outcome ((datahourGet misnamedFiles.recording 7 true false).run misnamed) =
      some (some 0) := by decide +kernel
  have hids : hourKeys (leaves ((datahourGet misnamedFiles.recording 7 true false).run
      misnamed)).cached = [(0, 5)] := by decide +kernel
  refine ⟨_, Trace.nil.snoc (run_eq_of_outcome hrun), ?_⟩
  intro hall
  have hanswers := hall [] (.get 7 true false) (.hour (some 0)) [] misnamed rfl .nil
  obtain ⟨h, hmem, hid⟩ := hanswers.answer 0 _ (run_eq_of_outcome hget)
  have hkey : (0, h.hourId) ∈ hourKeys (leaves ((datahourGet misnamedFiles.recording 7 true
    false).run misnamed)).cached := mem_hourKeys hmem
  rw [hids, hid] at hkey
  exact absurd hkey (by decide)

end ZejfMeteo
