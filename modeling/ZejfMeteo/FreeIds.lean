import ZejfMeteo.Routing
import ZejfMeteo.Lib.Trace

/-!
# Identifiers for new devices

`routing_find_free_id` counts up from a cursor that survives between the calls. Its search
goes around once; what it finds is usable unless the search ends at `BROADCAST`, where the
cursor wraps to 0, or at the id of the device itself.
-/

namespace ZejfMeteo
open Runs

variable {δ : Type}

/-- How many ids a search from the cursor looks at before it comes to `id`. -/
def roundPos (cursor id : UInt16) : ℕ :=
  if cursor.toNat ≤ id.toNat then id.toNat - cursor.toNat
  else 2 ^ 16 - cursor.toNat + (id.toNat - reservedDeviceIds.toNat)

/-- The first id that no entry has, in the order of a search from the cursor. -/
structure FirstFree (ids : List UInt16) (cursor id : UInt16) : Prop where
  range : reservedDeviceIds.toNat ≤ id.toNat
  free : id ∉ ids
  first : ∀ x : UInt16, reservedDeviceIds.toNat ≤ x.toNat →
    roundPos cursor x < roundPos cursor id → x ∈ ids

lemma roundPos_lt {c x : UInt16} (hc : 1000 ≤ c.toNat) (hx : 1000 ≤ x.toNat) :
    roundPos c x < 64536 := by
  have hres : reservedDeviceIds.toNat = 1000 := rfl
  have hclt := c.toNat_lt
  have hxlt := x.toNat_lt
  unfold roundPos
  split <;> omega

lemma roundPos_inj {c x y : UInt16} (hc : 1000 ≤ c.toNat) (hx : 1000 ≤ x.toNat)
    (hy : 1000 ≤ y.toNat) (h : roundPos c x = roundPos c y) : x = y := by
  have hres : reservedDeviceIds.toNat = 1000 := rfl
  have hclt := c.toNat_lt
  have hxlt := x.toNat_lt
  have hylt := y.toNat_lt
  unfold roundPos at h
  apply UInt16.toNat_inj.mp
  split at h <;> split at h <;> omega

/-- The search moves on by one position and is through when it is back at the cursor. -/
lemma roundPos_next {c x y : UInt16} (hc : 1000 ≤ c.toNat) (hx : 1000 ≤ x.toNat)
    (hy : y = if x + 1 = 0 then reservedDeviceIds else x + 1) : 1000 ≤ y.toNat ∧
      (y = c → roundPos c x = 64535) ∧ (y ≠ c → roundPos c y = roundPos c x + 1) := by
  have hres : reservedDeviceIds.toNat = 1000 := rfl
  have hclt := c.toNat_lt
  have hxlt := x.toNat_lt
  have hsum : (x + 1).toNat = (x.toNat + 1) % 2 ^ 16 := UInt16.toNat_add x 1
  have hzero : (0 : UInt16).toNat = 0 := rfl
  have hval : y.toNat = if x.toNat = 65535 then 1000 else x.toNat + 1 := by
    rw [hy]
    by_cases hwrap : x + 1 = 0
    · rw [hwrap, hzero] at hsum
      rw [if_pos hwrap, if_pos (by omega), hres]
    · have hne : (x + 1).toNat ≠ 0 := by
        intro h0
        exact hwrap (UInt16.toNat_inj.mp (h0.trans hzero.symm))
      rw [if_neg hwrap, if_neg (by omega)]
      omega
  have hpos : ∀ z : UInt16, roundPos c z = if c.toNat ≤ z.toNat then z.toNat - c.toNat
      else 2 ^ 16 - c.toNat + (z.toNat - 1000) := fun z => rfl
  refine ⟨?_, ?_, ?_⟩
  · split at hval <;> omega
  · rintro rfl
    rw [hpos]
    split at hval <;> split <;> omega
  · intro hne
    have hnat : y.toNat ≠ c.toNat := fun h => hne (UInt16.toNat_inj.mp h)
    rw [hpos, hpos]
    split at hval <;> split <;> split <;> omega

section Search

variable {s : Globals δ} {size : ℕ} {es : List RoutingEntry}

/-- The loop finds the first free id or comes back to the cursor. The invariant is that all
ids that come before the current one are taken. -/
lemma findFreeIdFrom_run (h : s.TableHolds size es) (hc : 1000 ≤ s.nextFreeId.toNat) {fuel : ℕ}
    {id : UInt16} (hid : 1000 ≤ id.toNat)
    (hbefore : ∀ x : UInt16, 1000 ≤ x.toNat →
      roundPos s.nextFreeId x < roundPos s.nextFreeId id → x ∈ es.map RoutingEntry.deviceId)
    (hfuel : 64536 ≤ roundPos s.nextFreeId id + fuel) :
    ((findFreeIdFrom fuel id).run s = .ok none s ∧
      ∀ x : UInt16, 1000 ≤ x.toNat → x ∈ es.map RoutingEntry.deviceId) ∨
    ∃ found, (findFreeIdFrom fuel id).run s = .ok (some found) s ∧
      FirstFree (es.map RoutingEntry.deviceId) s.nextFreeId found := by
  induction fuel generalizing id with
  | zero =>
    have hlt := roundPos_lt hc hid
    omega
  | succ fuel ih =>
    rw [findFreeIdFrom, run_bind_ok (routingEntryFind_run h id)]
    cases hfind : es.findIdx? (fun e => e.deviceId == id) with
    | none => exact Or.inr ⟨id, rfl, hid, findIdx?_deviceId_none.mp hfind, hbefore⟩
    | some i =>
      have htaken : id ∈ es.map RoutingEntry.deviceId := by
        by_contra hnot
        rw [findIdx?_deviceId_none.mpr hnot] at hfind
        cases hfind
      have hupto : ∀ x : UInt16, 1000 ≤ x.toNat →
          roundPos s.nextFreeId x ≤ roundPos s.nextFreeId id →
          x ∈ es.map RoutingEntry.deviceId := by
        intro x hx hle
        rcases Nat.lt_or_eq_of_le hle with hlt | heq
        · exact hbefore x hx hlt
        · rw [roundPos_inj hc hx hid heq]
          exact htaken
      dsimp only
      generalize hnext : (if id + 1 = 0 then reservedDeviceIds else id + 1) = next
      obtain ⟨hrange, hlast, hmove⟩ := roundPos_next hc hid hnext.symm
      rw [run_bind_ok (EStateM.run_get s)]
      by_cases hround : next = s.nextFreeId
      · rw [if_pos hround]
        refine Or.inl ⟨rfl, ?_⟩
        intro x hx
        have hlt := roundPos_lt hc hx
        have hend := hlast hround
        exact hupto x hx (by omega)
      · rw [if_neg hround]
        have hpos := hmove hround
        apply ih hrange
        · intro x hx hlt
          exact hupto x hx (by omega)
        · omega

/-- A search from a cursor in range returns; when the last id of all is the one that it
finds, the cursor leaves the range and the first id is returned unseen. -/
lemma routingFindFreeId_run (h : s.TableHolds size es) (hc : 1000 ≤ s.nextFreeId.toNat) :
    ((routingFindFreeId).run s = .ok 0 s ∧
      ∀ x : UInt16, 1000 ≤ x.toNat → x ∈ es.map RoutingEntry.deviceId) ∨
    ∃ id, (routingFindFreeId).run s =
        .ok (if id + 1 = 0 then reservedDeviceIds else id) { s with nextFreeId := id + 1 } ∧
      FirstFree (es.map RoutingEntry.deviceId) s.nextFreeId id := by
  have hnone : ∀ x : UInt16, 1000 ≤ x.toNat →
      roundPos s.nextFreeId x < roundPos s.nextFreeId s.nextFreeId →
      x ∈ es.map RoutingEntry.deviceId := by
    intro x hx hlt
    unfold roundPos at hlt
    rw [if_pos (Nat.le_refl _)] at hlt
    omega
  have hfuel : 64536 ≤ roundPos s.nextFreeId s.nextFreeId + 2 ^ 16 := by omega
  unfold routingFindFreeId
  rw [run_bind_ok (EStateM.run_get s)]
  rcases findFreeIdFrom_run h hc hc hnone hfuel with
    ⟨hrun, hall⟩ | ⟨id, hrun, hfirst⟩
  · rw [run_bind_ok hrun]
    exact Or.inl ⟨rfl, hall⟩
  · rw [run_bind_ok hrun]
    exact Or.inr ⟨id, rfl, hfirst⟩

/-- A table that is smaller than the range leaves an id free. -/
lemma exists_free_id (hsize : es.length < 64536) :
    ∃ x : UInt16, 1000 ≤ x.toNat ∧ x ∉ es.map RoutingEntry.deviceId := by
  by_contra hnone
  have hsub : (List.range 64536).map (fun n => UInt16.ofNat (1000 + n)) ⊆
      es.map RoutingEntry.deviceId := by
    intro x hx
    obtain ⟨n, hn, rfl⟩ := List.mem_map.mp hx
    rw [List.mem_range] at hn
    by_contra hfree
    refine hnone ⟨_, ?_, hfree⟩
    rw [UInt16.toNat_ofNat']
    change 1000 ≤ (1000 + n) % 65536
    omega
  have hnodup : ((List.range 64536).map (fun n => UInt16.ofNat (1000 + n))).Nodup := by
    refine List.Nodup.map_on ?_ List.nodup_range
    intro n hn m hm heq
    rw [List.mem_range] at hn hm
    have hval := congrArg UInt16.toNat heq
    rw [UInt16.toNat_ofNat', UInt16.toNat_ofNat'] at hval
    change (1000 + n) % 65536 = (1000 + m) % 65536 at hval
    omega
  have hlen := (hnodup.subperm hsub).length_le
  rw [List.length_map, List.length_map, List.length_range] at hlen
  omega

/-- As long as a free id lies ahead of the search, it ends there or before. -/
lemma findFreeIdFrom_ahead (h : s.TableHolds size es) {x : UInt16}
    (hx : x ∉ es.map RoutingEntry.deviceId) {fuel : ℕ} {id : UInt16}
    (hc : s.nextFreeId.toNat ≤ id.toNat) (hid : id.toNat ≤ x.toNat)
    (hfuel : x.toNat < id.toNat + fuel) : ∃ r, (findFreeIdFrom fuel id).run s = .ok r s := by
  induction fuel generalizing id with
  | zero => omega
  | succ fuel ih =>
    rw [findFreeIdFrom, run_bind_ok (routingEntryFind_run h id)]
    cases hfind : es.findIdx? (fun e => e.deviceId == id) with
    | none => exact ⟨some id, rfl⟩
    | some i =>
      have hne : id.toNat ≠ x.toNat := by
        intro heq
        rw [UInt16.toNat_inj.mp heq, findIdx?_deviceId_none.mpr hx] at hfind
        cases hfind
      have hxlt := x.toNat_lt
      have hsum : (id + 1).toNat = id.toNat + 1 := by
        rw [UInt16.toNat_add]
        exact Nat.mod_eq_of_lt (by change id.toNat + 1 < 65536; omega)
      have hnz : id + 1 ≠ 0 := by
        intro h0
        rw [h0] at hsum
        simp at hsum
      have hmoved : id + 1 ≠ s.nextFreeId := by
        intro heq
        rw [heq] at hsum
        omega
      dsimp only
      rw [if_neg hnz, run_bind_ok (EStateM.run_get s), if_neg hmoved]
      exact ih (by omega) (by omega) (by omega)

/-- A search in a table that is smaller than the range returns, wherever it starts. -/
lemma routingFindFreeId_total (h : s.TableHolds size es) (hsize : size < 64536) :
    ∃ id nf, (routingFindFreeId).run s = .ok id { s with nextFreeId := nf } := by
  suffices hsearch : ∃ r, (findFreeIdFrom (2 ^ 16) s.nextFreeId).run s = .ok r s by
    obtain ⟨r, hrun⟩ := hsearch
    unfold routingFindFreeId
    rw [run_bind_ok (EStateM.run_get s), run_bind_ok hrun]
    cases r with
    | none => exact ⟨0, s.nextFreeId, rfl⟩
    | some found => exact ⟨_, found + 1, rfl⟩
  by_cases hc : 1000 ≤ s.nextFreeId.toNat
  · have hnone : ∀ x : UInt16, 1000 ≤ x.toNat →
        roundPos s.nextFreeId x < roundPos s.nextFreeId s.nextFreeId →
        x ∈ es.map RoutingEntry.deviceId := by
      intro x hx hlt
      unfold roundPos at hlt
      rw [if_pos (Nat.le_refl _)] at hlt
      omega
    have hfuel : 64536 ≤ roundPos s.nextFreeId s.nextFreeId + 2 ^ 16 := by omega
    rcases findFreeIdFrom_run h hc hc hnone hfuel with ⟨hrun, -⟩ | ⟨found, hrun, -⟩
    · exact ⟨none, hrun⟩
    · exact ⟨some found, hrun⟩
  · obtain ⟨x, hx, hfree⟩ := exists_free_id (Nat.lt_of_le_of_lt h.bounded hsize)
    have hxlt := x.toNat_lt
    exact findFreeIdFrom_ahead h hfree (Nat.le_refl _) (by omega) (by omega)

end Search

/-- A request for an id, or anything that leaves another table behind. -/
inductive IdOp (size : ℕ)
  | request
  | change (es : List RoutingEntry) (h : es.length ≤ size)

def IdOp.run {size : ℕ} : IdOp size → Run (Globals δ) (Option UInt16)
  | .request => do
    return some (← routingFindFreeId)
  | .change es _ => do
    modify fun s => { s with
      routingTable := es.map some ++ List.replicate (size - es.length) none
      routingTableTop := es.length }
    return none

/-- An assigned id is in range, is not used by any device and is not the own one; there is
none only if every id in range is taken. -/
def UsableId (deviceId : UInt16) (ids : List UInt16) (id : UInt16) : Prop :=
  (id ≠ 0 → reservedDeviceIds ≤ id ∧ id < broadcast ∧ id ∉ ids ∧ id ≠ deviceId) ∧
    (id = 0 → ∀ x, reservedDeviceIds ≤ x → x < broadcast → x ∈ ids ∨ x = deviceId)

/-- The search does not end at `bad`: an entry has it, or a free id comes before it. -/
def SearchAvoids (ids : List UInt16) (cursor bad : UInt16) : Prop :=
  reservedDeviceIds ≤ bad → bad ∈ ids ∨
    ∃ x, reservedDeviceIds ≤ x ∧ x ∉ ids ∧ roundPos cursor x < roundPos cursor bad

/-- A device that asks gets an id that nobody has, or 0 when all are taken. -/
def AssignsUsable (deviceId : UInt16) (size : ℕ) (_ : List (IdOp size × Option UInt16))
    (s : Globals δ) (_ : IdOp size) (result : Option UInt16) : Prop :=
  ∀ es id, s.TableHolds size es → result = some id →
    UsableId deviceId (es.map RoutingEntry.deviceId) id

/-- A search that starts in this state ends neither at `BROADCAST` nor at the own id. -/
def SearchesWell (deviceId : UInt16) (size : ℕ) (_ : List (IdOp size × Option UInt16))
    (s : Globals δ) (op : IdOp size) (_ : Option UInt16) : Prop :=
  op = .request → ∀ es, s.TableHolds size es →
    SearchAvoids (es.map RoutingEntry.deviceId) s.nextFreeId broadcast ∧
      SearchAvoids (es.map RoutingEntry.deviceId) s.nextFreeId deviceId

/-- The table is in order and the cursor in range. -/
def IdsReady (size : ℕ) (s : Globals δ) : Prop :=
  (∃ es, s.TableHolds size es) ∧ 1000 ≤ s.nextFreeId.toNat

section Requests

variable {s : Globals δ} {size : ℕ} {deviceId : UInt16}

lemma FirstFree.ne_of_avoids {ids : List UInt16} {cursor id bad : UInt16}
    (h : FirstFree ids cursor id) (hbad : SearchAvoids ids cursor bad) : id ≠ bad := by
  rintro rfl
  rcases hbad (UInt16.le_iff_toNat_le.mpr h.range) with hmem | ⟨x, hx, hfree, hlt⟩
  · exact h.free hmem
  · exact hfree (h.first x (UInt16.le_iff_toNat_le.mp hx) hlt)

lemma change_tableHolds (s : Globals δ) {es : List RoutingEntry} (h : es.length ≤ size) :
    ({ s with
      routingTable := es.map some ++ List.replicate (size - es.length) none
      routingTableTop := es.length } : Globals δ).TableHolds size es :=
  ⟨rfl, rfl, h⟩

/-- Every operation is served. -/
lemma IdOp.run_ok (hs : IdsReady size s) (op : IdOp size) :
    ∃ o t, op.run.run s = .ok o t := by
  obtain ⟨⟨es, ht⟩, hc⟩ := hs
  cases op with
  | request =>
    rcases routingFindFreeId_run ht hc with ⟨hrun, -⟩ | ⟨id, hrun, -⟩
    · exact ⟨_, _, run_bind_ok hrun⟩
    · exact ⟨_, _, run_bind_ok hrun⟩
  | change fs h => exact ⟨_, _, rfl⟩

/-- One request with a search that ends well assigns a usable id and leaves the cursor in
range. -/
lemma request_step {tr : List (IdOp size × Option UInt16)} {o : Option UInt16} {t : Globals δ}
    (hs : IdsReady size s) (hwell : SearchesWell deviceId size tr s .request o)
    (hrun : (IdOp.request : IdOp size).run.run s = .ok o t) :
    IdsReady size t ∧ AssignsUsable deviceId size tr s .request o := by
  obtain ⟨⟨es, ht⟩, hc⟩ := hs
  have hres : reservedDeviceIds.toNat = 1000 := rfl
  have hbroadcast : broadcast.toNat = 65535 := rfl
  rcases routingFindFreeId_run ht hc with ⟨hfind, hall⟩ | ⟨id, hfind, hfirst⟩
  · have hstep : (IdOp.request : IdOp size).run.run s = .ok (some 0) s := run_bind_ok hfind
    obtain ⟨rfl, rfl⟩ := EStateM.Result.ok.inj (hstep.symm.trans hrun)
    refine ⟨⟨⟨es, ht⟩, hc⟩, ?_⟩
    rintro fs id hfs heq
    obtain rfl := ht.unique hfs
    obtain rfl := Option.some.inj heq
    refine ⟨fun hne => absurd rfl hne, ?_⟩
    intro _ x hx _
    exact Or.inl (hall x (UInt16.le_iff_toNat_le.mp hx))
  · obtain ⟨hbad, hself⟩ := hwell rfl es ht
    have hnb : id ≠ broadcast := hfirst.ne_of_avoids hbad
    have hnself : id ≠ deviceId := hfirst.ne_of_avoids hself
    have hlt : id.toNat < 65535 := by
      have hidlt := id.toNat_lt
      have hne : id.toNat ≠ broadcast.toNat := fun heq => hnb (UInt16.toNat_inj.mp heq)
      omega
    have hrange := hfirst.range
    have hsum : (id + 1).toNat = id.toNat + 1 := by
      rw [UInt16.toNat_add]
      exact Nat.mod_eq_of_lt (by change id.toNat + 1 < 65536; omega)
    have hnz : id + 1 ≠ 0 := by
      intro h0
      rw [h0] at hsum
      simp at hsum
    rw [if_neg hnz] at hfind
    have hstep : (IdOp.request : IdOp size).run.run s =
        .ok (some id) { s with nextFreeId := id + 1 } := run_bind_ok hfind
    obtain ⟨rfl, rfl⟩ := EStateM.Result.ok.inj (hstep.symm.trans hrun)
    refine ⟨⟨⟨es, ht.slots, ht.top, ht.bounded⟩, ?_⟩, ?_⟩
    · show 1000 ≤ (id + 1).toNat
      omega
    · rintro fs x hfs heq
      obtain rfl := ht.unique hfs
      obtain rfl := Option.some.inj heq
      refine ⟨fun _ => ⟨UInt16.le_iff_toNat_le.mpr hrange, ?_, hfirst.free, hnself⟩, ?_⟩
      · exact UInt16.lt_iff_toNat_lt.mpr (by omega)
      · rintro rfl
        exact absurd hrange (by decide)

lemma idOp_step {tr : List (IdOp size × Option UInt16)} {op : IdOp size} {o : Option UInt16}
    {t : Globals δ} (hs : IdsReady size s) (hwell : SearchesWell deviceId size tr s op o)
    (hrun : op.run.run s = .ok o t) :
    IdsReady size t ∧ AssignsUsable deviceId size tr s op o := by
  cases op with
  | request => exact request_step hs hwell hrun
  | change es h =>
    obtain ⟨rfl, rfl⟩ := EStateM.Result.ok.inj hrun
    refine ⟨⟨⟨es, change_tableHolds s h⟩, hs.2⟩, ?_⟩
    intro fs id _ heq
    cases heq

/-- **Assigned ids are usable as long as no search ends at `BROADCAST` or at the own id.**
Every further operation is served as well. -/
theorem assignsUsable_throughout (h : IdsReady size s) {tr : List (IdOp size × Option UInt16)}
    {t : Globals δ} (htrace : Trace IdOp.run s tr t)
    (hwell : Throughout IdOp.run s (SearchesWell deviceId size) tr) :
    Throughout IdOp.run s (AssignsUsable deviceId size) tr ∧
      ∀ op : IdOp size, ∃ o u, op.run.run t = .ok o u := by
  refine ⟨hwell.mono (I := fun _ => IdsReady size) htrace h ?_, ?_⟩
  · intro tr t op o u ht hw hrun
    exact idOp_step ht hw hrun
  · have ht := hwell.invariant (I := fun _ => IdsReady size) htrace h
      (fun tr t op o u ht hw hrun => (idOp_step ht hw hrun).1)
    exact fun op => IdOp.run_ok ht op

/-- The id server with an empty table. -/
def newServer : Globals Unit := zejfInit (Target.bare Settings.zejfMeteo) ()

lemma newServer_ready (cursor : UInt16) (h : 1000 ≤ cursor.toNat) :
    IdsReady 16 { newServer with nextFreeId := cursor } :=
  ⟨⟨[], ⟨rfl, rfl, Nat.zero_le _⟩⟩, h⟩

/-- With no device in the table a request gets the cursor and moves it on. -/
lemma newServer_request (cursor : UInt16) :
    (IdOp.request : IdOp 16).run.run { newServer with nextFreeId := cursor } =
      .ok (some (if cursor + 1 = 0 then reservedDeviceIds else cursor))
        { newServer with nextFreeId := cursor + 1 } := rfl

/-- A device with the next id comes into the table, and leaves it again. -/
def takenBetween : List (IdOp 16) :=
  [.request, .change [{ routingEntryCreate with deviceId := 1001 }] (by decide), .request,
    .change [] (by decide), .request]

/-- The id at the cursor or the one after it is free, and comes before `BROADCAST`. -/
def freeAhead (t : Globals Unit) : IdOp 16 → Bool
  | .request => [t.nextFreeId, t.nextFreeId + 1].any fun x =>
    decide (reservedDeviceIds ≤ x ∧ x ∉ t.routes.map RoutingEntry.deviceId ∧
      roundPos t.nextFreeId x < roundPos t.nextFreeId broadcast)
  | .change _ _ => true

theorem takenBetween_assignsUsable :
    (replay IdOp.run takenBetween newServer).map Prod.snd =
        [some 1000, none, some 1002, none, some 1003] ∧
      Throughout IdOp.run newServer (AssignsUsable 1 16)
        (replay IdOp.run takenBetween newServer) ∧
      ∀ op : IdOp 16, ∃ o u, op.run.run (leaves ((serve IdOp.run takenBetween).run newServer)) =
        .ok o u := by
  refine ⟨by decide +kernel, assignsUsable_throughout (newServer_ready 1000 (by decide))
    (.of_replay (by decide +kernel)) ?_⟩
  refine (Throughout.of_meetsAll (p := freeAhead) (by decide +kernel)).imp ?_
  rintro _ t op _ hmet rfl es hes
  obtain ⟨x, -, hx⟩ := List.any_eq_true.mp hmet
  rw [decide_eq_true_iff, hes.routes] at hx
  refine ⟨fun _ => Or.inr ⟨x, hx⟩, ?_⟩
  intro hlow
  exact absurd hlow (by decide)

/-- Requests from the start on, as many as there are ids below `BROADCAST`. -/
lemma newServer_requests (n : ℕ) (hn : n ≤ 64535) :
    ∃ tr : List (IdOp 16 × Option UInt16), Trace IdOp.run newServer tr
      { newServer with nextFreeId := UInt16.ofNat (1000 + n) } := by
  induction n with
  | zero => exact ⟨[], Trace.nil⟩
  | succ n ih =>
    obtain ⟨tr, htrace⟩ := ih (by omega)
    have hnext : UInt16.ofNat (1000 + n) + 1 = UInt16.ofNat (1000 + (n + 1)) := by
      apply UInt16.toNat_inj.mp
      rw [UInt16.toNat_add, UInt16.toNat_ofNat', UInt16.toNat_ofNat']
      change ((1000 + n) % 65536 + 1) % 65536 = (1000 + (n + 1)) % 65536
      omega
    have hrun := newServer_request (UInt16.ofNat (1000 + n))
    rw [hnext] at hrun
    exact ⟨_, htrace.snoc hrun⟩

/-- After 65535 has been come to, the next request is refused although every id is free. -/
theorem newServer_not_assignsUsable :
    ∃ (tr : List (IdOp 16 × Option UInt16)) (t : Globals Unit), Trace IdOp.run newServer tr t ∧
    ¬Throughout IdOp.run newServer (AssignsUsable 1 16) tr := by
  obtain ⟨tr, htrace⟩ := newServer_requests 64535 (Nat.le_refl _)
  have hlast := htrace.snoc (newServer_request (UInt16.ofNat (1000 + 64535)))
  have hwrapped : UInt16.ofNat (1000 + 64535) + 1 = 0 := by decide
  rw [hwrapped, if_pos rfl] at hlast
  refine ⟨_, _, hlast.snoc (newServer_request 0), ?_⟩
  intro hall
  obtain ⟨-, hzero⟩ := (Throughout.snoc_iff hlast _ _).mp hall
  have hused := hzero [] 0 ⟨rfl, rfl, Nat.zero_le _⟩ rfl
  rcases hused.2 rfl 1000 (by decide) (by decide) with hmem | hself
  · cases hmem
  · exact absurd hself (by decide)

end Requests

end ZejfMeteo
