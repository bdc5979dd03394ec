import ZejfMeteo.DataOperations
import ZejfMeteo.Storage
import ZejfMeteo.Lib.Trace

/-!
# Evictions while the disk fails

A full cache drops the hour at its tail whether or not it could be saved. What has been logged
to that hour can then only be read from a copy that is left elsewhere.
-/

namespace ZejfMeteo
open Runs

variable {δ : Type}

/-- A call of a data function, or a lookup of an hour. -/
inductive HourOp
  | data (op : DataOp)
  | get (hourNumber : UInt32) (load create : Bool)

def HourOp.run (T : Target δ) : HourOp → Run (Globals δ) DataOut
  | .data op => op.run T
  | .get n load create => do
    let hour ← datahourGet T n load create
    return (if hour.isSome then .ok else .null, none)

/-- A log to this slot has returned `ZEJF_OK`. -/
def Acknowledged (tr : List (HourOp × DataOut)) (id : UInt16) (n k : UInt32) : Prop :=
  ∃ op out, (.data op, out) ∈ tr ∧ AcknowledgedLog id n k op out

/-- `datahour_get` has to make room for the hour `new`, and the hour `old` at the tail cannot be
saved. -/
structure FailsToSave (T : Target δ) (t : Globals δ) (n : UInt32) (load create : Bool)
    (old : ℕ × DataHour) (ys : List (ℕ × DataHour)) (new : DataHour) : Prop where
  cached : t.cached = old :: ys
  full : listIsFull t.dataQueue
  miss : ∀ y ∈ t.cached, y.2.hourId ≠ n
  new : fetched T n load create t.platform = some new
  fails : (T.hourSave old.2.hourId (hourBytes old.2.sealed)
    (afterLoad T n load t.platform)).1 ≠ .ok

/-- The lookup fails and leaves the cache as it was, or what `old` has of the acknowledged
samples can still be read. -/
def KeepsAcknowledged (T : Target δ) (tr : List (HourOp × DataOut)) (t : Globals δ) (n : UInt32)
    (load create : Bool) (old : DataHour) : Prop :=
  ∃ o u, (datahourGet T n load create).run t = .ok o u ∧ ((o = none ∧ u.cached = t.cached) ∨
    ∀ info k val, Acknowledged tr info.id old.hourId k → old.sample info.id k = some val →
      ∃ v, (dataGetVal T info old.hourId k true false).run u = .ok (.ok, some val) v)

/-- The copy of `old` that is left: a cached one, or else what is loaded after its save has
failed. -/
def copyLeft (T : Target δ) (t : Globals δ) (n : UInt32) (load : Bool) (old : DataHour)
    (ys : List (ℕ × DataHour)) (new : DataHour) : Option DataHour :=
  if new.hourId = old.hourId then some new
  else localHour T ys (T.hourSave old.hourId (hourBytes old.sealed)
    (afterLoad T n load t.platform)).2 old.hourId

section Evictions

variable {T : Target δ} {s t u : Globals δ} {tr : List (HourOp × DataOut)} {n : UInt32}
  {load create : Bool} {old : ℕ × DataHour} {ys : List (ℕ × DataHour)} {new : DataHour}
  {tx rx : List Queued} {es : List RoutingEntry}

/-- The cache and the network of a device over any platform. -/
structure KeepsHours (T : Target δ) (s : Globals δ) : Prop where
  cache : ∃ xs, s.CacheHolds T xs
  network : ∃ tx rx es, NetworkHolds T s tx rx es

lemma HourOp.run_keepsHours (hs : KeepsHours T s) (op : HourOp) {r : DataOut}
    (hrun : (op.run T).run s = .ok r u) : KeepsHours T u := by
  obtain ⟨xs, hc⟩ := hs.cache
  obtain ⟨tx, rx, es, hn⟩ := hs.network
  cases op with
  | get n load create =>
    obtain ⟨o, q, p, zs, hget, hc', -⟩ := datahourGet_cached hc n load create
    obtain ⟨-, rfl⟩ := EStateM.Result.ok.inj (hrun.symm.trans ((run_bind_ok hget).trans rfl))
    exact ⟨⟨zs, hc'⟩, tx, rx, es, hn.data q p⟩
  | data op =>
    cases op with
    | log target n k value time announce =>
      obtain ⟨o, q, p, zs, r, v, ys, sent, -, -, hlog, hlogged⟩ :=
        dataLog_cached hc hn target n k value time announce
      obtain ⟨-, rfl⟩ := EStateM.Result.ok.inj (hrun.symm.trans ((run_bind_ok hlog).trans rfl))
      exact ⟨⟨ys, hlogged.cache⟩, _, rx, es, hlogged.network⟩
    | getVal info n k =>
      obtain ⟨q, p, ys, hget, hc'⟩ := dataGetVal_local hc info n k
      obtain ⟨-, rfl⟩ := EStateM.Result.ok.inj (hrun.symm.trans hget)
      exact ⟨⟨ys, hc'⟩, tx, rx, es, hn.data q p⟩
    | check info n k =>
      obtain ⟨ys, q, p, hcheck, hc'⟩ := calculateDataCheck_local hc info n k
      obtain ⟨-, rfl⟩ := EStateM.Result.ok.inj (hrun.symm.trans hcheck)
      exact ⟨⟨ys, hc'⟩, tx, rx, es, hn.data q p⟩
    | save =>
      obtain ⟨ys, q, p, hsave, hc'⟩ := dataSave_cached hc
      obtain ⟨-, rfl⟩ := EStateM.Result.ok.inj (hrun.symm.trans ((run_bind_ok hsave).trans rfl))
      exact ⟨⟨ys, hc'⟩, tx, rx, es, hn.data q p⟩

/-- A newer copy of an hour is found first. -/
lemma localHour_concat (a : ℕ) (p : δ) : localHour T (ys ++ [(a, new)]) p n =
    if new.hourId = n then some new else localHour T ys p n := by
  unfold localHour
  rw [List.reverse_append, List.reverse_singleton, List.singleton_append, List.find?_cons]
  by_cases hid : new.hourId = n
  · simp [hid]
  · rw [if_neg hid, beq_false_of_ne hid]

/-- The hour comes in, and the one at the tail is gone although it could not be saved. -/
lemma datahourGet_evicts {xs : List (ℕ × DataHour)} (hc : t.CacheHolds T xs)
    (hf : FailsToSave T t n load create old ys new) :
    ∃ a u, (datahourGet T n load create).run t = .ok (some a) u ∧
      u.CacheHolds T (ys ++ [(a, new)]) ∧
      u.platform = (T.hourSave old.2.hourId (hourBytes old.2.sealed)
        (afterLoad T n load t.platform)).2 := by
  obtain rfl : xs = old :: ys := hc.cached_eq.symm.trans hf.cached
  have hmiss := hf.miss
  rw [hf.cached] at hmiss
  have hlookup := datahourGet_run hc n load create
  generalize (datahourGet T n load create).run t = run at hlookup
  cases hlookup with
  | hit pre x post q split id newest result holds =>
    exact absurd id (hmiss x (by simp [split]))
  | absent miss nothing result =>
    rw [hf.new] at nothing
    cases nothing
  | added miss hour node q p zs fresh hnew result holds room =>
    obtain rfl := Option.some.inj (hf.new.symm.trans hnew)
    rcases room with ⟨rfl, -⟩ | ⟨x, hx, hp⟩
    · exact absurd hf.full (hc.not_isFull holds)
    · obtain ⟨rfl, rfl⟩ := List.cons.inj hx
      exact ⟨node, _, result, holds, hp⟩

/-- A lookup that evicts an hour that cannot be saved keeps what has been acknowledged exactly
if the copy that is left has it. -/
theorem keepsAcknowledged_iff_copyLeft
    (hqueue : s.dataQueue = listCreate DataHour T.hourBufferSize)
    (hnetwork : NetworkHolds T s tx rx es) (htrace : Trace (HourOp.run T) s tr t)
    (hfails : FailsToSave T t n load create old ys new) :
    KeepsAcknowledged T tr t n load create old.2 ↔
      ∀ id k val, Acknowledged tr id old.2.hourId k → old.2.sample id k = some val →
        (copyLeft T t n load old.2 ys new).bind (·.sample id k) = some val := by
  have hstart : KeepsHours T s := ⟨⟨[], .empty hqueue⟩, tx, rx, es, hnetwork⟩
  have hkeeps : KeepsHours T t := htrace.invariant (I := fun _ t => KeepsHours T t)
    (A := fun _ => True) (fun _ _ => trivial) hstart
    (fun _ _ op _ _ _ hs hrun => HourOp.run_keepsHours hs op hrun)
  obtain ⟨xs, hc⟩ := hkeeps.cache
  obtain ⟨a, u, hrun, hcu, hplatform⟩ := datahourGet_evicts hc hfails
  have hleft : localHour T (ys ++ [(a, new)]) u.platform old.2.hourId =
      copyLeft T t n load old.2 ys new := by
    rw [localHour_concat, hplatform]
    rfl
  constructor
  · rintro ⟨o, u', hrun', hno | hreads⟩ id k val hack hval
    · obtain ⟨rfl, rfl⟩ := EStateM.Result.ok.inj (hrun.symm.trans hrun')
      cases hno.1
    · obtain ⟨rfl, rfl⟩ := EStateM.Result.ok.inj (hrun.symm.trans hrun')
      obtain ⟨v, hread⟩ := hreads ⟨0, id⟩ k val hack hval
      obtain ⟨q, p, zs, hread', -⟩ := dataGetVal_local hcu ⟨0, id⟩ old.2.hourId k
      rw [hleft] at hread'
      obtain ⟨hval', -⟩ := EStateM.Result.ok.inj (hread'.symm.trans hread)
      obtain ⟨w, hw, hsample⟩ := read_local_iff.mp hval'
      rw [hsample, hw]
  · intro hcopy
    refine ⟨some a, u, hrun, Or.inr ?_⟩
    intro info k val hack hval
    obtain ⟨q, p, zs, hread, -⟩ := dataGetVal_local hcu info old.2.hourId k
    rw [hleft, read_local_iff.mpr ⟨val, rfl, hcopy info.id k val hack hval⟩] at hread
    exact ⟨_, hread⟩

end Evictions

/-- The outside sensor, whose cache takes six hours, with a disk whose first save fails. -/
abbrev smallCache := Target.failing Settings.zejfOutside

def smallStart : Globals ((UInt32 → Option (List UInt8)) × List Bool) :=
  zejfInit smallCache (fun _ => none, [false])

/-- A sample is logged to each of six hours. -/
def sixHours : List HourOp :=
  [1, 2, 3, 4, 5, 6].map (fun n => .data (.log ⟨4, 7⟩ n 0 5 0 false))

def sixLogged : Globals ((UInt32 → Option (List UInt8)) × List Bool) :=
  leaves ((serve (HourOp.run smallCache) sixHours).run smallStart)

lemma sixHours_trace : Trace (HourOp.run smallCache) smallStart
    (sixHours.zip (List.replicate 6 (.ok, none))) sixLogged := by
  have hserved : outcome ((serve (HourOp.run smallCache) sixHours).run smallStart) =
      some (List.replicate 6 (.ok, none)) := by decide +kernel
  exact (Trace.of_serve (run_eq_of_outcome hserved)).1

/-- The cache is full and the first hour cannot be saved when a seventh one is created. -/
lemma sixHours_failsToSave : ∃ old ys, old.2.hourId = 1 ∧ old.2.sample 7 0 = some 5 ∧
    FailsToSave smallCache sixLogged 7 true true old ys (hourCreate 7) := by
  have hcached : sixLogged.cached.map (fun x => (x.2.hourId, x.2.sample 7 0)) =
      [1, 2, 3, 4, 5, 6].map (fun n => (n, some 5)) := by decide +kernel
  have hfull : listIsFull sixLogged.dataQueue = true := by decide +kernel
  have hfile : (RecallingStorage.failing Settings.zejfOutside).files sixLogged.platform 7 = none := by
    decide +kernel
  have hsaves : sixLogged.platform.2.head? = some false := by decide +kernel
  have hmiss : ∀ y ∈ sixLogged.cached, y.2.hourId ≠ 7 := by decide +kernel
  obtain ⟨old, ys, hsplit, hold, -⟩ := List.map_eq_cons_iff.mp hcached
  refine ⟨old, ys, congrArg Prod.fst hold, congrArg Prod.snd hold, hsplit, hfull, hmiss, ?_, ?_⟩
  · rw [(RecallingStorage.failing Settings.zejfOutside).fetched_missing hfile]
    rfl
  · simp [Target.failing, afterLoad, hsaves]

lemma sixHours_acknowledged :
    Acknowledged (sixHours.zip (List.replicate 6 (.ok, none))) 7 1 0 := by
  refine ⟨.log ⟨4, 7⟩ 1 0 5 0 false, (.ok, none), ?_, ⟨4, 7⟩, 5, 0, false, rfl, rfl, rfl⟩
  simp [sixHours]

theorem sixHours_keepsAcknowledged_iff : ∃ tr, ∃ old : ℕ × DataHour, ∃ ys,
    Acknowledged tr 7 old.2.hourId 0 ∧
    (KeepsAcknowledged smallCache tr sixLogged 7 true true old.2 ↔
      ∀ id k val, Acknowledged tr id old.2.hourId k → old.2.sample id k = some val →
        (copyLeft smallCache sixLogged 7 true old.2 ys (hourCreate 7)).bind (·.sample id k) =
          some val) := by
  obtain ⟨old, ys, hid, -, hfails⟩ := sixHours_failsToSave
  refine ⟨_, old, ys, ?_, keepsAcknowledged_iff_copyLeft (s := smallStart) rfl
    (NetworkHolds.initial _ _) sixHours_trace hfails⟩
  rw [hid]
  exact sixHours_acknowledged

/-- The sample of the first hour is lost. -/
theorem sixHours_not_keepsAcknowledged : ¬∀ tr t n load create old ys new,
    Trace (HourOp.run smallCache) smallStart tr t →
      FailsToSave smallCache t n load create old ys new →
        KeepsAcknowledged smallCache tr t n load create old.2 := by
  intro hall
  obtain ⟨old, ys, hid, hsample, hfails⟩ := sixHours_failsToSave
  obtain ⟨o, u, hrun, hkeeps⟩ := hall _ _ _ _ _ _ _ _ sixHours_trace hfails
  have hget : outcome ((datahourGet smallCache 7 true true).run sixLogged) = some (some 6) := by
    decide +kernel
  have hread : outcome ((dataGetVal smallCache ⟨4, 7⟩ 1 0 true false).run
      (leaves ((datahourGet smallCache 7 true true).run sixLogged))) = some (.null, none) := by
    decide +kernel
  obtain ⟨hsome, hu⟩ := EStateM.Result.ok.inj (hrun.symm.trans (run_eq_of_outcome hget))
  rcases hkeeps with ⟨hnone, -⟩ | hkeeps
  · rw [hsome] at hnone
    cases hnone
  · obtain ⟨v, hval⟩ := hkeeps ⟨4, 7⟩ 0 5 (hid.symm ▸ sixHours_acknowledged) hsample
    rw [hid, hu, run_eq_of_outcome hread] at hval
    have hvalue := (EStateM.Result.ok.inj hval).1
    exact absurd hvalue (by decide)

end ZejfMeteo
