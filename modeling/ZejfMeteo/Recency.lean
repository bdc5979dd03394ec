import ZejfMeteo.DataRuns
import ZejfMeteo.Lib.Recency
import ZejfMeteo.Lib.Trace

/-!
# Which hour is evicted

The queue of cached hours is a ring. An hour comes in at the head, and one that is found is
moved to the tail, where the next eviction takes its hour.
-/

namespace ZejfMeteo
open Runs Recency

variable {δ : Type}

/-- A call of `datahour_get`. -/
structure HourGet where
  hourNumber : UInt32
  load : Bool
  create : Bool
deriving DecidableEq

/-- An hour that is returned is known by the address of its node. -/
def HourGet.run (T : Target δ) (g : HourGet) : Run (Globals δ) (Option ℕ) :=
  datahourGet T g.hourNumber g.load g.create

/-- The hours that the calls of a trace have returned. -/
def returned (tr : List (HourGet × Option ℕ)) : List (Option ℕ) := tr.map Prod.snd

/-- The hour is cached before the call and not after it. -/
def EvictedBy (T : Target δ) (t : Globals δ) (g : HourGet) (x : ℕ × DataHour) : Prop :=
  x ∈ t.cached ∧ ∃ o u, (g.run T).run t = .ok o u ∧ x.1 ∉ u.cached.map Prod.fst

/-- What the call evicts is the cached hour that was returned or brought in the longest time
ago, and not the one that the call before has returned. -/
structure EvictsOldest (T : Target δ) (tr : List (HourGet × Option ℕ)) (t : Globals δ)
    (g : HourGet) : Prop where
  oldest : ∀ x, EvictedBy T t g x → ∀ y ∈ t.cached, y ≠ x →
    lastUse (returned tr) x.1 < lastUse (returned tr) y.1
  notLast : ∀ x, EvictedBy T t g x → (returned tr).getLast? ≠ some (some x.1)

/-- The hour is cached. -/
def Hits (t : Globals δ) (g : HourGet) : Prop := ∃ x ∈ t.cached, x.2.hourId = g.hourNumber

/-- The call has to make room: the cache is full, and an hour that is not cached can be loaded
or created. -/
structure MakesRoom (T : Target δ) (t : Globals δ) (g : HourGet) : Prop where
  full : listIsFull t.dataQueue
  miss : ¬Hits t g
  new : (fetched T g.hourNumber g.load g.create t.platform).isSome

/-- No hour has been found while two or more were cached. -/
def NoneMoved (T : Target δ) (s : Globals δ) (tr : List (HourGet × Option ℕ)) : Prop :=
  Throughout (HourGet.run T) s (fun _ t g _ => Hits t g → t.cached.length < 2) tr

/-- How a call changes the hours of the cache, given from the tail on. -/
inductive Changes (T : Target δ) (t : Globals δ) (g : HourGet) (xs : List (ℕ × DataHour)) :
    Option ℕ → List (ℕ × DataHour) → Prop
  | hit (pre : List (ℕ × DataHour)) (x : ℕ × DataHour) (post : List (ℕ × DataHour))
      (split : xs = pre ++ x :: post) (id : x.2.hourId = g.hourNumber) :
      Changes T t g xs (some x.1) (x :: (post ++ pre))
  | absent (miss : ¬Hits t g)
      (nothing : fetched T g.hourNumber g.load g.create t.platform = none) :
      Changes T t g xs none xs
  | room (miss : ¬Hits t g) (notFull : ¬listIsFull t.dataQueue) (node : ℕ) (hour : DataHour)
      (fresh : node ∉ xs.map Prod.fst) : Changes T t g xs (some node) (xs ++ [(node, hour)])
  | evict (makes : MakesRoom T t g) (x : ℕ × DataHour) (ys : List (ℕ × DataHour)) (node : ℕ)
      (hour : DataHour) (split : xs = x :: ys) (fresh : node ∉ xs.map Prod.fst) :
      Changes T t g xs (some node) (ys ++ [(node, hour)])

section Calls

variable {T : Target δ} {s t u : Globals δ} {tr : List (HourGet × Option ℕ)} {g : HourGet}
  {o : Option ℕ} {xs ys zs : List (ℕ × DataHour)} {x : ℕ × DataHour}

/-- A cache with room takes an hour in and keeps all others. -/
lemma datahourGet_room (hc : t.CacheHolds T xs) (hroom : xs.length < t.dataQueue.capacity)
    {n : UInt32} {load create : Bool} {hour : DataHour} (hmiss : ∀ x ∈ xs, x.2.hourId ≠ n)
    (hnew : fetched T n load create t.platform = some hour) :
    ∃ o u node, (datahourGet T n load create).run t = .ok o u ∧
      u.dataQueue.Holds (xs ++ [(node, hour)]) := by
  have hfetch := datahourFetch_run (T := T) n load create t
  rw [hnew] at hfetch
  obtain ⟨q, hadd, hq, -, -⟩ := hourAdd_room (T := T) (s := { t with
    platform := afterLoad T n load t.platform }) hc.queue hroom hour
  rcases hourFind_run hc.queue n with ⟨-, hfind⟩ | ⟨pre, x, post, q, rfl, hid, -⟩
  · refine ⟨q.head, { t with
      dataQueue := q
      platform := afterLoad T n load t.platform }, _, ?_, hq⟩
    rw [datahourGet, run_bind_ok hfind]
    simp only
    rw [run_bind_ok hfetch]
    simp only
    rw [run_bind_ok hadd]
    rfl
  · exact absurd hid (hmiss x (by simp))

lemma changes_of_run (hc : t.CacheHolds T xs) (hrun : (g.run T).run t = .ok o u) :
    ∃ zs, u.CacheHolds T zs ∧ Changes T t g xs o zs := by
  have hmissed : (∀ x ∈ xs, x.2.hourId ≠ g.hourNumber) → ¬Hits t g := by
    rintro hmiss ⟨x, hx, hid⟩
    rw [hc.cached_eq] at hx
    exact hmiss x hx hid
  have hget : (datahourGet T g.hourNumber g.load g.create).run t = .ok o u := hrun
  obtain ⟨o', q, p, zs, hget', holds, -⟩ := datahourGet_cached hc g.hourNumber g.load g.create
  obtain ⟨rfl, rfl⟩ := EStateM.Result.ok.inj (hget.symm.trans hget')
  refine ⟨zs, holds, ?_⟩
  cases datahourGet_left hc hget holds with
  | hit pre x post split id newest perm => exact .hit pre x post split id
  | absent miss nothing => exact .absent (hmissed miss) nothing
  | added miss hour node p ys fresh new sub room =>
    by_cases hfull : listIsFull t.dataQueue
    · rcases room with ⟨rfl, -⟩ | ⟨x, rfl, -⟩
      · exact absurd hfull (hc.not_isFull holds)
      · exact .evict ⟨hfull, hmissed miss, by rw [new]; rfl⟩ x ys node hour rfl fresh
    · have hroom : xs.length < t.dataQueue.capacity := by
        have hbound := hc.queue.bounded
        rw [hc.queue.isFull, decide_eq_true_iff] at hfull
        omega
      obtain ⟨o', u', node', hrun', hq⟩ := datahourGet_room hc hroom miss new
      obtain ⟨-, rfl⟩ := EStateM.Result.ok.inj (hget.symm.trans hrun')
      have hsame := holds.queue.items_eq.symm.trans hq.items_eq
      obtain ⟨rfl, -⟩ := List.append_inj' hsame rfl
      exact .room (hmissed miss) hfull node hour fresh

/-- What is evicted is the hour at the tail. -/
lemma evictedBy_iff (hc : t.CacheHolds T xs) (hrun : (g.run T).run t = .ok o u) :
    EvictedBy T t g x ↔ MakesRoom T t g ∧ xs.head? = some x := by
  obtain ⟨zs, hcu, hchanges⟩ := changes_of_run hc hrun
  have hgone : EvictedBy T t g x ↔ x ∈ xs ∧ x.1 ∉ zs.map Prod.fst := by
    unfold EvictedBy
    rw [hc.cached_eq]
    refine and_congr_right fun _ => ?_
    constructor
    · rintro ⟨o', u', hrun', hx⟩
      obtain ⟨-, rfl⟩ := EStateM.Result.ok.inj (hrun.symm.trans hrun')
      rwa [hcu.cached_eq] at hx
    · intro hx
      refine ⟨o, u, hrun, ?_⟩
      rwa [hcu.cached_eq]
  have hkept : (∀ y ∈ xs, y ∈ zs) → ¬(x ∈ xs ∧ x.1 ∉ zs.map Prod.fst) := by
    rintro hsub ⟨hx, hgone⟩
    exact hgone (List.mem_map_of_mem (hsub x hx))
  rw [hgone]
  cases hchanges with
  | hit pre z post split id =>
    refine iff_of_false (hkept fun y hy => ?_) fun h => ?_
    · rw [split] at hy
      simp only [List.mem_append, List.mem_cons] at hy ⊢
      tauto
    · refine h.1.miss ⟨z, ?_, id⟩
      rw [hc.cached_eq, split]
      exact List.mem_append_right _ List.mem_cons_self
  | absent miss nothing =>
    refine iff_of_false (hkept fun y hy => hy) fun h => ?_
    have hnew := h.1.new
    rw [nothing] at hnew
    cases hnew
  | room miss notFull node hour fresh =>
    exact iff_of_false (hkept fun y hy => List.mem_append_left _ hy) fun h => notFull h.1.full
  | evict makes z ys node hour split fresh =>
    subst split
    have hnodup := hc.queue.ring.nodup
    rw [List.map_cons, List.nodup_cons] at hnodup
    rw [List.map_cons, List.mem_cons, not_or] at fresh
    rw [List.head?_cons, Option.some_inj]
    constructor
    · rintro ⟨hx, hgone⟩
      refine ⟨makes, ?_⟩
      rcases List.mem_cons.mp hx with rfl | hx
      · rfl
      · exact absurd (List.mem_map_of_mem (List.mem_append_left _ hx)) hgone
    · rintro ⟨-, rfl⟩
      refine ⟨List.mem_cons_self, ?_⟩
      rw [List.map_append, List.mem_append, not_or]
      refine ⟨hnodup.1, ?_⟩
      rw [List.map_singleton, List.mem_singleton]
      exact Ne.symm fresh.1

lemma returned_concat (tr : List (HourGet × Option ℕ)) (g : HourGet) (o : Option ℕ) :
    returned (tr ++ [(g, o)]) = returned tr ++ [o] := List.map_append

/-- As long as no hour has been moved the queue goes from the least to the most recently
returned hour. From then on, until an hour is evicted, the tail is newer than another hour. -/
structure Rotated (T : Target δ) (s : Globals δ) (tr : List (HourGet × Option ℕ))
    (t : Globals δ) (xs : List (ℕ × DataHour)) : Prop where
  trace : Trace (HourGet.run T) s tr t
  cache : t.CacheHolds T xs
  inOrder : NoneMoved T s tr → InOrder (returned tr) (xs.map Prod.fst)
  stale : ¬NoneMoved T s tr → ∃ x ys, xs = x :: ys ∧ Stale (returned tr) x.1 (ys.map Prod.fst)

/-- An hour that has just been found is newer than any other one. -/
lemma stale_of_found (hc : u.CacheHolds T (x :: ys)) (hys : 0 < ys.length) :
    Stale (returned tr ++ [some x.1]) x.1 (ys.map Prod.fst) := by
  obtain ⟨y, hy⟩ := List.exists_mem_of_length_pos hys
  have hnodup := hc.queue.ring.nodup
  rw [List.map_cons, List.nodup_cons] at hnodup
  refine ⟨y.1, List.mem_map_of_mem hy, lastUse_concat_lt ?_⟩
  intro he
  exact hnodup.1 (he ▸ List.mem_map_of_mem hy)

/-- Whether a call evicts the oldest hour depends on what was before it. -/
lemma Rotated.evictsOldest_iff (h : Rotated T s tr t xs) (hsize : 2 ≤ T.hourBufferSize)
    (hrun : (g.run T).run t = .ok o u) :
    EvictsOldest T tr t g ↔ (MakesRoom T t g → NoneMoved T s tr) := by
  constructor
  · intro hE hM
    by_contra hmoved
    obtain ⟨x, ys, rfl, b, hb, hlt⟩ := h.stale hmoved
    obtain ⟨y, hy, rfl⟩ := List.mem_map.mp hb
    have hx : EvictedBy T t g x := (evictedBy_iff h.cache hrun).mpr ⟨hM, rfl⟩
    have hne : y ≠ x := by
      rintro rfl
      exact Nat.lt_irrefl _ hlt
    have hmem : y ∈ t.cached := by
      rw [h.cache.cached_eq]
      exact List.mem_cons_of_mem x hy
    exact Nat.lt_asymm hlt (hE.oldest x hx y hmem hne)
  · intro hcond
    have hfirst : ∀ x, EvictedBy T t g x → listIsFull t.dataQueue ∧ ∃ ys, xs = x :: ys ∧
        ∀ y ∈ ys, lastUse (returned tr) x.1 < lastUse (returned tr) y.1 := by
      intro x hx
      obtain ⟨hM, hhead⟩ := (evictedBy_iff h.cache hrun).mp hx
      obtain ⟨ys, rfl⟩ := List.head?_eq_some_iff.mp hhead
      have horder := List.pairwise_cons.mp (h.inOrder (hcond hM))
      exact ⟨hM.full, ys, rfl, fun y hy => horder.1 y.1 (List.mem_map_of_mem hy)⟩
    constructor
    · intro x hx y hy hne
      obtain ⟨-, ys, rfl, hys⟩ := hfirst x hx
      rw [h.cache.cached_eq] at hy
      exact hys y ((List.mem_cons.mp hy).resolve_left hne)
    · intro x hx hlast
      obtain ⟨hfull, ys, rfl, hys⟩ := hfirst x hx
      rw [h.cache.queue.isFull, decide_eq_true_iff, h.cache.capacity] at hfull
      cases ys with
      | nil => exact absurd hsize (by rw [← hfull, List.length_singleton]; decide)
      | cons y ys =>
        have hlt := hys y List.mem_cons_self
        rw [lastUse_of_getLast? hlast] at hlt
        exact Nat.not_lt.mpr (lastUse_le _ _) hlt

lemma Rotated.step (h : Rotated T s tr t xs) (hcond : MakesRoom T t g → NoneMoved T s tr)
    (hrun : (g.run T).run t = .ok o u) : ∃ ys, Rotated T s (tr ++ [(g, o)]) u ys := by
  obtain ⟨zs, hcu, hchanges⟩ := changes_of_run h.cache hrun
  have hmoved : NoneMoved T s (tr ++ [(g, o)]) ↔
      NoneMoved T s tr ∧ (Hits t g → t.cached.length < 2) := Throughout.snoc_iff h.trace g o
  refine ⟨zs, h.trace.snoc hrun, hcu, ?_, ?_⟩ <;> rw [hmoved, returned_concat]
  · rintro ⟨hbefore, hhits⟩
    have horder := h.inOrder hbefore
    cases hchanges with
    | hit pre x post split id =>
      have hshort := hhits ⟨x, by simp [h.cache.cached_eq, split], id⟩
      rw [h.cache.cached_eq, split, List.length_append, List.length_cons] at hshort
      obtain rfl : pre = [] := List.eq_nil_of_length_eq_zero (by omega)
      obtain rfl : post = [] := List.eq_nil_of_length_eq_zero (by omega)
      exact List.pairwise_singleton _ _
    | absent miss nothing => exact horder.concat_none
    | room miss notFull node hour fresh =>
      rw [List.map_append]
      exact horder.concat_some fresh
    | evict makes x ys node hour split fresh =>
      rw [split, List.map_cons] at horder fresh
      rw [List.map_append]
      exact horder.tail.concat_some fun hm => fresh (List.mem_cons_of_mem _ hm)
  · intro hnot
    by_cases hbefore : NoneMoved T s tr
    · -- This call moves an hour in front of the others.
      have hhits : ¬(Hits t g → t.cached.length < 2) := fun hh => hnot ⟨hbefore, hh⟩
      cases hchanges with
      | hit pre x post split id =>
        refine ⟨x, post ++ pre, rfl, ?_⟩
        have hlong : 2 ≤ t.cached.length := by
          by_contra hlt
          exact hhits fun _ => Nat.lt_of_not_le hlt
        rw [h.cache.cached_eq, split, List.length_append, List.length_cons] at hlong
        refine stale_of_found hcu ?_
        rw [List.length_append]
        omega
      | absent miss nothing => exact absurd (fun hh => absurd hh miss) hhits
      | room miss notFull node hour fresh => exact absurd (fun hh => absurd hh miss) hhits
      | evict makes x ys node hour split fresh =>
        exact absurd (fun hh => absurd hh makes.miss) hhits
    · obtain ⟨x, ys, hxs, hstale⟩ := h.stale hbefore
      cases hchanges with
      | hit pre z post split id =>
        refine ⟨z, post ++ pre, rfl, ?_⟩
        obtain ⟨b, hb, -⟩ := hstale
        have hlen := congrArg List.length (hxs.symm.trans split)
        have hpos := List.length_pos_of_mem hb
        rw [List.length_map] at hpos
        rw [List.length_cons, List.length_append, List.length_cons] at hlen
        refine stale_of_found hcu ?_
        rw [List.length_append]
        omega
      | absent miss nothing => exact ⟨x, ys, hxs, hstale.concat_none⟩
      | room miss notFull node hour fresh =>
        subst hxs
        rw [List.map_cons, List.mem_cons, not_or] at fresh
        refine ⟨x, ys ++ [(node, hour)], rfl, ?_⟩
        rw [List.map_append]
        exact hstale.concat_some fresh.1 fresh.2
      | evict makes z zs node hour split fresh => exact absurd (hcond makes) hbefore

/-- **The hour that is found is the next to go.** From an empty cache, every call evicts the
oldest hour exactly if no call has to make room after one that has found its hour among two or
more. -/
theorem evictsOldest_iff_noneMoved (hsize : 2 ≤ T.hourBufferSize)
    (hqueue : s.dataQueue = listCreate DataHour T.hourBufferSize)
    (htrace : Trace (HourGet.run T) s tr t) :
    Throughout (HourGet.run T) s (fun tr t g _ => EvictsOldest T tr t g) tr ↔
      Throughout (HourGet.run T) s (fun tr t g _ => MakesRoom T t g → NoneMoved T s tr) tr := by
  have hstart : ∃ xs, Rotated T s [] s xs :=
    ⟨[], .nil, .empty hqueue, fun _ => List.Pairwise.nil,
      fun hno => absurd (Throughout.nil _ _ _) hno⟩
  constructor
  · intro hall
    refine hall.mono (I := fun tr t => ∃ xs, Rotated T s tr t xs) htrace hstart ?_
    rintro tr t g o u ⟨xs, h⟩ hE hrun
    have hcond := (h.evictsOldest_iff hsize hrun).mp hE
    exact ⟨h.step hcond hrun, hcond⟩
  · intro hall
    refine hall.mono (I := fun tr t => ∃ xs, Rotated T s tr t xs) htrace hstart ?_
    rintro tr t g o u ⟨xs, h⟩ hcond hrun
    exact ⟨h.step hcond hrun, (h.evictsOldest_iff hsize hrun).mpr hcond⟩

end Calls

abbrev outsideSensor := Target.bare Settings.zejfOutside

def outsideStart : Globals Unit := zejfInit outsideSensor ()

/-- Six hours fill the cache, and the first of them is asked for again. -/
def sevenGets : List HourGet := [1, 2, 3, 4, 5, 6, 1].map (fun n => ⟨n, false, true⟩)

def sevenReturned : List (Option ℕ) := [some 0, some 1, some 2, some 3, some 4, some 5, some 0]

def sevenGot : Globals Unit :=
  leaves ((serve (HourGet.run outsideSensor) sevenGets).run outsideStart)

lemma sevenGets_trace :
    Trace (HourGet.run outsideSensor) outsideStart (sevenGets.zip sevenReturned) sevenGot := by
  have hserved : outcome ((serve (HourGet.run outsideSensor) sevenGets).run outsideStart) =
      some sevenReturned := by decide +kernel
  exact (Trace.of_serve (run_eq_of_outcome hserved)).1

/-- The only hour is found, and then as many others come in that two have to go. -/
def eightHours : List HourGet := [1, 1, 2, 3, 4, 5, 6, 7, 8].map (fun n => ⟨n, false, true⟩)

theorem eightHours_evictsOldest :
    Throughout (HourGet.run outsideSensor) outsideStart
      (fun tr t g _ => EvictsOldest outsideSensor tr t g)
      (replay (HourGet.run outsideSensor) eightHours outsideStart) := by
  refine (evictsOldest_iff_noneMoved (by decide) rfl (.of_replay (by decide +kernel))).mpr ?_
  have hnone : NoneMoved outsideSensor outsideStart
      (replay (HourGet.run outsideSensor) eightHours outsideStart) := by
    refine (Throughout.of_meetsAll (p := fun t g =>
      !(t.cached.any fun x => x.2.hourId == g.hourNumber) || decide (t.cached.length < 2))
      (by decide +kernel)).imp ?_
    rintro _ t g _ hmet ⟨x, hx, hid⟩
    have hany : t.cached.any (fun x => x.2.hourId == g.hourNumber) = true :=
      List.any_eq_true.mpr ⟨x, hx, by simpa using hid⟩
    rw [hany] at hmet
    simpa using hmet
  intro pre g o post t he _ _
  rw [he] at hnone
  exact Throughout.before hnone

/-- The hour that has just been asked for goes when a seventh hour comes in. -/
theorem seventhHour_not_evictsOldest : ∃ tr t,
    Trace (HourGet.run outsideSensor) outsideStart tr t ∧
    ¬Throughout (HourGet.run outsideSensor) outsideStart
      (fun tr t g _ => EvictsOldest outsideSensor tr t g) tr := by
  have hget : outcome ((HourGet.run outsideSensor ⟨7, false, true⟩).run sevenGot) =
      some (some 6) := by decide +kernel
  have hbefore : sevenGot.cached.map Prod.fst = [0, 1, 2, 3, 4, 5] := by decide +kernel
  have hafter : (leaves ((HourGet.run outsideSensor ⟨7, false, true⟩).run sevenGot)).cached.map
      Prod.fst = [1, 2, 3, 4, 5, 6] := by decide +kernel
  have hrun := run_eq_of_outcome hget
  refine ⟨_, _, sevenGets_trace.snoc hrun, fun hall => ?_⟩
  have hlast := ((Throughout.snoc_iff sevenGets_trace _ _).mp hall).2
  have hfirst : 0 ∈ sevenGot.cached.map Prod.fst := by
    rw [hbefore]
    exact List.mem_cons_self
  obtain ⟨x, hx, hid⟩ := List.mem_map.mp hfirst
  have hgone : EvictedBy outsideSensor sevenGot ⟨7, false, true⟩ x := by
    refine ⟨hx, _, _, hrun, ?_⟩
    rw [hafter, hid]
    decide
  apply hlast.notLast x hgone
  rw [hid]
  decide

end ZejfMeteo
