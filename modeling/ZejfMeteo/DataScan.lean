import ZejfMeteo.DataCheck

/-!
# The scan for missing data

`run_data_check` goes through the last hours, the routing table and the variables of every
entry. It stops at the first variable that is not in the local hour, and so it asks for all
that is missing only if no variable it comes to is absent.
-/

namespace ZejfMeteo
open Runs Format

variable {δ : Type} {T : Target δ}

/-- One round of the loops: an hour, and a variable that a device provides. -/
structure CheckItem where
  hourNum : UInt32
  deviceId : UInt16
  info : VariableInfo

/-- The last `min hours 120` hours, from the current one back. -/
def window (currentHourNum hours : UInt32) : List UInt32 :=
  (List.range (min hours.toNat 120)).map (fun k => currentHourNum - UInt32.ofNat k)

/-- Every hour of the window with everything that is provided to the device. -/
def checkItems (es : List RoutingEntry) (currentHourNum hours : UInt32) : List CheckItem :=
  (window currentHourNum hours).flatMap (fun hourNum =>
    es.flatMap (fun e => e.provided.map (fun info => ⟨hourNum, e.deviceId, info⟩)))

section Items

variable (T) (currentHourNum currentMillis time : UInt32)

def checkItem (i : CheckItem) : Run (Globals δ) Bool :=
  checkVariable T currentHourNum currentMillis time i.hourNum i.deviceId i.info

/-- The device demands the variable and the hour is not the one that has just begun. -/
def Asked (i : CheckItem) : Prop :=
  tooRecent T currentHourNum currentMillis i.hourNum i.info = false ∧ demands T i.info = true

/-- The last sample that is asked for. -/
def CheckItem.logNum (i : CheckItem) : UInt32 :=
  lastLogNum T currentHourNum currentMillis i.hourNum i.info

/-- The samples of the local copy that are not empty, as a count leaves them behind; an hour
or variable that is not there, or has another rate, holds none. -/
def heldSamples (s : Globals δ) (i : CheckItem) : ℕ :=
  match localVariable T s i.hourNum i.info.id with
  | none => 0
  | some v =>
    if v.info.samplesPerHour = i.info.samplesPerHour then
      (v.counted (isProvided T i.info) (i.logNum T currentHourNum currentMillis)).filled
    else 0

/-- The variable is in the local hour, at the rate of its provider. -/
def Present (s : Globals δ) (i : CheckItem) : Prop :=
  ∃ v, localVariable T s i.hourNum i.info.id = some v ∧
    v.info.samplesPerHour = i.info.samplesPerHour

/-- A `DATA_CHECK` that asks the provider about the item. -/
def IsCheckFor (i : CheckItem) (p : Packet) : Prop :=
  p.fromId = T.deviceId ∧ p.toId = i.deviceId ∧ p.command = dataCheckCommand ∧
    ∃ n : UInt32, p.message = some (snprintf T.packetMaxLength
      (numbersMessage i.info i.hourNum (i.logNum T currentHourNum currentMillis) (.num n.toNat)))

/-- The state in which the scan stands after some items. -/
def scanned (is : List CheckItem) (s : Globals δ) : Globals δ :=
  leaves ((scan (checkItem T currentHourNum currentMillis time) is).run s)

/-- If the item at hand makes the device send a packet, it can be sent. -/
def SendSucceeds (s : Globals δ) (i : CheckItem) : Prop :=
  ∀ n t packet u,
    (calculateDataCheck T i.info i.hourNum (i.logNum T currentHourNum currentMillis)).run s =
      .ok (.ok, some n) t →
    n ≠ i.info.samplesPerHour →
    (networkPreparePacket T i.deviceId dataCheckCommand (snprintf T.packetMaxLength
      (numbersMessage i.info i.hourNum (i.logNum T currentHourNum currentMillis)
        (.num n.toNat)))).run t = .ok packet u →
    ∃ w, (networkSendPacket T packet time).run u = .ok .ok w

/-- Every `network_send_packet` of the scan succeeds. -/
def SendsSucceed (is : List CheckItem) (s : Globals δ) : Prop :=
  ∀ pre i post, is = pre ++ i :: post → Asked T currentHourNum currentMillis i →
    ∀ t, (scan (checkItem T currentHourNum currentMillis time) pre).run s = .ok true t →
    SendSucceeds T currentHourNum currentMillis time t i

/-- A transmit queue holds a `DATA_CHECK` for every item that is asked for and of which the
scan does not find all samples; its packet did not exist when the scan came to the item. -/
def ChecksMissing (is : List CheckItem) (s : Globals δ) (tx : List Queued) : Prop :=
  ∀ pre i post, is = pre ++ i :: post → Asked T currentHourNum currentMillis i →
    heldSamples T currentHourNum currentMillis
      (scanned T currentHourNum currentMillis time pre s) i ≠ i.info.samplesPerHour.toNat →
    ∃ q ∈ tx, (scanned T currentHourNum currentMillis time pre s).packets.cells q.addr = none ∧
      IsCheckFor T currentHourNum currentMillis i q.packet

/-- Every item that is asked for, of a variable with samples, is present when the scan comes
to it. -/
def NothingAbsent (is : List CheckItem) (s : Globals δ) : Prop :=
  ∀ pre i post, is = pre ++ i :: post → Asked T currentHourNum currentMillis i →
    i.info.samplesPerHour ≠ 0 →
    Present T (scanned T currentHourNum currentMillis time pre s) i

end Items

section Scanning

variable {s : Globals δ} {xs : List (ℕ × DataHour)} {tx rx : List Queued} {size : ℕ}
  {es : List RoutingEntry} {currentHourNum currentMillis time : UInt32} {i : CheckItem}

lemma heldSamples_of_present {v : Variable}
    (hv : localVariable T s i.hourNum i.info.id = some v)
    (hrate : v.info.samplesPerHour = i.info.samplesPerHour) :
    heldSamples T currentHourNum currentMillis s i =
      (v.counted (isProvided T i.info) (i.logNum T currentHourNum currentMillis)).filled := by
  simp only [heldSamples, hv, hrate, if_true]

lemma heldSamples_of_absent (h : ¬Present T s i) :
    heldSamples T currentHourNum currentMillis s i = 0 := by
  rw [heldSamples]
  split
  · rfl
  · rename_i v hv
    exact if_neg (fun hrate => h ⟨v, hv, hrate⟩)

/-- The count of an absent variable fails, that of a present one does not. -/
lemma checkResult_ok_iff {k : UInt32} :
    (checkResult T i.info k (localVariable T s i.hourNum i.info.id)).1 = .ok ↔
      Present T s i := by
  rw [Present]
  cases localVariable T s i.hourNum i.info.id with
  | none => simp [checkResult]
  | some v =>
    by_cases hrate : i.info.samplesPerHour = v.info.samplesPerHour
    · simp [checkResult, hrate]
    · simp [checkResult, hrate, Ne.symm hrate]

lemma checkResult_absent {k : UInt32} (h : ¬Present T s i) :
    (checkResult T i.info k (localVariable T s i.hourNum i.info.id)).2 = none := by
  rw [Present] at h
  cases hv : localVariable T s i.hourNum i.info.id with
  | none => rfl
  | some v =>
    have hrate : i.info.samplesPerHour ≠ v.info.samplesPerHour := fun he =>
      h ⟨v, hv, he.symm⟩
    simp [checkResult, hrate]

/-- What the scan does with one item. It goes on unless an asked item is absent. -/
structure ItemDone (T : Target δ) (currentHourNum currentMillis : UInt32) (s : Globals δ)
    (i : CheckItem) (go : Bool) (sent : List Queued) : Prop where
  go_iff : go = true ↔ (Asked T currentHourNum currentMillis i → i.info.samplesPerHour ≠ 0 →
    Present T s i)
  missing : go = true → Asked T currentHourNum currentMillis i →
    heldSamples T currentHourNum currentMillis s i ≠ i.info.samplesPerHour.toNat →
    ∃ q ∈ sent, s.packets.cells q.addr = none ∧ IsCheckFor T currentHourNum currentMillis i q.packet
  stopped : go = false → sent = []

/-- A count that leads to a send leads to a successful one. -/
lemma dataCheckSend_succeeds (hc : s.CacheHolds T xs)
    (hsend : SendSucceeds T currentHourNum currentMillis time s i) (hpresent : Present T s i)
    (hall : (checkResult T i.info (i.logNum T currentHourNum currentMillis)
      (localVariable T s i.hourNum i.info.id)).2.getD 0 ≠ i.info.samplesPerHour) :
    ∃ t, (dataCheckSend T i.deviceId i.info i.hourNum (i.logNum T currentHourNum currentMillis)
      time).run s = .ok .ok t := by
  obtain ⟨v, hv, hrate⟩ := hpresent
  obtain ⟨ys, q, p, hcalc, -⟩ := calculateDataCheck_local hc i.info i.hourNum
    (i.logNum T currentHourNum currentMillis)
  have hresult : checkResult T i.info (i.logNum T currentHourNum currentMillis)
      (localVariable T s i.hourNum i.info.id) =
        (.ok, some (v.count (isProvided T i.info) (i.logNum T currentHourNum currentMillis))) := by
    simp [checkResult, hv, hrate]
  rw [hresult] at hcalc hall
  have hprepare := networkPreparePacket_run (T := T)
    (s := { s with dataQueue := q, platform := p }) i.deviceId dataCheckCommand
    (some (snprintf T.packetMaxLength (numbersMessage i.info i.hourNum
      (i.logNum T currentHourNum currentMillis) (.num (v.count (isProvided T i.info)
        (i.logNum T currentHourNum currentMillis)).toNat))))
  obtain ⟨w, hw⟩ := hsend _ _ _ _ hcalc hall hprepare
  refine ⟨w, ?_⟩
  rw [dataCheckSend, run_bind_ok hcalc]
  simp only [Option.getD_some] at hall ⊢
  rw [if_neg hall, if_neg (by simp), if_neg (numbersMessage_length _ _ _ _), run_bind_ok hprepare]
  exact hw

/-- The rules of a single item. -/
lemma checkItem_run (time : UInt32) (hc : s.CacheHolds T xs) (hs : s.QueuesHold tx rx)
    (ht : s.TableHolds size es) (hsend : Asked T currentHourNum currentMillis i →
      SendSucceeds T currentHourNum currentMillis time s i) :
    ∃ go s' ys sent, (checkItem T currentHourNum currentMillis time i).run s = .ok go s' ∧
      s'.CacheHolds T ys ∧ s'.QueuesHold (tx ++ sent) rx ∧ s'.TableHolds size es ∧
      ItemDone T currentHourNum currentMillis s i go sent := by
  have hnil : s.QueuesHold (tx ++ []) rx := by simpa using hs
  have hskip : ¬Asked T currentHourNum currentMillis i →
      ItemDone T currentHourNum currentMillis s i true [] := fun hasked =>
    ⟨⟨fun _ h => absurd h hasked, fun _ => rfl⟩, fun _ h => absurd h hasked, fun _ => rfl⟩
  rw [checkItem, checkVariable]
  by_cases hrecent : tooRecent T currentHourNum currentMillis i.hourNum i.info = true
  · rw [if_pos hrecent]
    exact ⟨true, s, xs, [], rfl, hc, hnil, ht, hskip (fun h => by simp [h.1] at hrecent)⟩
  rw [if_neg hrecent]
  by_cases hdemands : demands T i.info = true
  · rw [if_neg (not_not.mpr hdemands)]
    have hasked : Asked T currentHourNum currentMillis i := ⟨by simpa using hrecent, hdemands⟩
    obtain ⟨rv, ys, q, p, tq, ps, sent, hrun, hc', hs', hcase⟩ := dataCheckSend_run hc hs ht
      i.deviceId i.info i.hourNum (i.logNum T currentHourNum currentMillis) time
    refine ⟨rv == .ok, _, ys, sent, ?_, hc', hs', ⟨ht.slots, ht.top, ht.bounded⟩, ?_⟩
    · exact (run_bind_ok hrun).trans rfl
    cases hcase with
    | complete all ok =>
      subst ok
      have hpresent : i.info.samplesPerHour ≠ 0 → Present T s i := by
        intro hrate
        by_contra habsent
        rw [checkResult_absent habsent] at all
        exact hrate all.symm
      refine ⟨by simpa using fun _ => hpresent, ?_, fun _ => rfl⟩
      intro _ _ hheld
      by_cases habsent : Present T s i
      · obtain ⟨v, hv, hrate⟩ := habsent
        rw [heldSamples_of_present hv hrate] at hheld
        simp only [checkResult, hv, hrate, ne_eq, not_true, if_false, Option.getD_some] at all
        rw [Variable.filled_counted (all.trans hrate.symm), hrate] at hheld
        exact absurd rfl hheld
      · have hzero : i.info.samplesPerHour = 0 := not_not.mp (fun h => habsent (hpresent h))
        rw [heldSamples_of_absent habsent, hzero] at hheld
        exact absurd rfl hheld
    | failed notAll error same =>
      have habsent : ¬Present T s i := fun h => error (checkResult_ok_iff.mpr h)
      rw [checkResult_absent habsent] at notAll
      have hrv : (rv == .ok) = false := by simpa [same] using error
      refine ⟨?_, ?_, fun _ => rfl⟩
      · rw [hrv]
        simp only [Bool.false_eq_true, false_iff]
        exact fun h => habsent (h hasked (Ne.symm notAll))
      · intro htrue
        rw [hrv] at htrue
        cases htrue
    | refused notAll counted error same =>
      obtain ⟨t, ht'⟩ := dataCheckSend_succeeds hc (hsend hasked)
        (checkResult_ok_iff.mp counted) notAll
      rw [hrun] at ht'
      cases ht'
      exact absurd same.symm error
    | sent notAll counted sendOk ok node =>
      have hpresent := checkResult_ok_iff.mp counted
      refine ⟨by simp [ok, hpresent], ?_, fun h => by simp [ok] at h⟩
      intro _ _ _
      refine ⟨_, List.mem_singleton_self _, s.packets.next_free, rfl, rfl, rfl, _, rfl⟩
  · rw [if_pos hdemands]
    exact ⟨true, s, xs, [], rfl, hc, hnil, ht, hskip (fun h => hdemands h.2)⟩

lemma scanned_nil : scanned T currentHourNum currentMillis time [] s = s := rfl

lemma scanned_cons_go {s' : Globals δ} {is : List CheckItem}
    (h : (checkItem T currentHourNum currentMillis time i).run s = .ok true s') :
    scanned T currentHourNum currentMillis time (i :: is) s =
      scanned T currentHourNum currentMillis time is s' := by
  rw [scanned, scan_cons_go h, scanned]

/-- The whole scan: it ends, and it asks for everything that is missing if and only if
nothing is absent. -/
lemma scan_checksMissing_iff {is : List CheckItem} (hc : s.CacheHolds T xs)
    (hs : s.QueuesHold tx rx) (ht : s.TableHolds size es)
    (hsends : SendsSucceed T currentHourNum currentMillis time is s) :
    ∃ go s' sent, (scan (checkItem T currentHourNum currentMillis time) is).run s = .ok go s' ∧
      s'.QueuesHold (tx ++ sent) rx ∧
      (ChecksMissing T currentHourNum currentMillis time is s (tx ++ sent) ↔
        NothingAbsent T currentHourNum currentMillis time is s) := by
  induction is generalizing s xs tx with
  | nil =>
    refine ⟨true, s, [], rfl, by simpa using hs, ?_⟩
    have hsplit : ∀ (pre post : List CheckItem) i, [] ≠ pre ++ i :: post := by simp
    exact ⟨fun _ pre i post he => absurd he (hsplit pre post i),
      fun _ pre i post he => absurd he (hsplit pre post i)⟩
  | cons i is ih =>
    obtain ⟨hsend, hrest⟩ := forall_split_cons.mp hsends
    obtain ⟨go, s₁, ys, sent, hrun, hc₁, hs₁, ht₁, hdone⟩ := checkItem_run time hc hs ht
      (fun hasked => hsend hasked s rfl)
    cases go with
    | true =>
      have hsends₁ : SendsSucceed T currentHourNum currentMillis time is s₁ :=
        fun pre j post he hasked t hpre =>
          hrest pre j post he hasked t ((scan_cons_go hrun).trans hpre)
      obtain ⟨go', s', sent', hscan, hs', hiff⟩ := ih hc₁ hs₁ ht₁ hsends₁
      have happ : tx ++ sent ++ sent' = tx ++ (sent ++ sent') := List.append_assoc _ _ _
      refine ⟨go', s', sent ++ sent', (scan_cons_go hrun).trans hscan, happ ▸ hs', ?_⟩
      rw [happ] at hiff
      rw [ChecksMissing, NothingAbsent, forall_split_cons, forall_split_cons, scanned_nil]
      simp only [scanned_cons_go hrun]
      refine and_congr ?_ hiff
      -- The scan has gone on, so both sides hold of this item.
      refine ⟨fun _ => hdone.go_iff.mp rfl, fun _ hasked hheld => ?_⟩
      obtain ⟨q, hq, hfree, hcheck⟩ := hdone.missing rfl hasked hheld
      exact ⟨q, by simp [hq], hfree, hcheck⟩
    | false =>
      have hsent := hdone.stopped rfl
      refine ⟨false, s₁, sent, scan_cons_stop hrun, hs₁, ?_⟩
      have habsent : ¬(Asked T currentHourNum currentMillis i → i.info.samplesPerHour ≠ 0 →
          Present T s i) := fun h => absurd (hdone.go_iff.mpr h) (by simp)
      rw [ChecksMissing, NothingAbsent, forall_split_cons, forall_split_cons, scanned_nil]
      refine iff_of_false ?_ (fun h => habsent h.1)
      -- Nothing was queued, and all that is in the queue existed before.
      rintro ⟨hhead, -⟩
      simp only [Classical.not_imp] at habsent
      obtain ⟨hasked, hrate, hnot⟩ := habsent
      have hheld : heldSamples T currentHourNum currentMillis s i ≠
          i.info.samplesPerHour.toNat := by
        rw [heldSamples_of_absent hnot]
        exact fun h => hrate (UInt32.toNat_inj.mp h.symm)
      obtain ⟨q, hq, hfree, -⟩ := hhead hasked hheld
      have hlive := hs.live q (List.mem_append_left _ (by simpa [hsent] using hq))
      rw [hfree] at hlive
      cases hlive

/-- The cache, the queues and the table are in order. -/
def ScanReady (T : Target δ) (rx : List Queued) (es : List RoutingEntry) (s : Globals δ) : Prop :=
  ∃ xs tx, s.CacheHolds T xs ∧ NetworkHolds T s tx rx es

lemma checkVariable_ready {hourNum : UInt32} {deviceId : UInt16} (info : VariableInfo)
    (s : Globals δ) (hready : ScanReady T rx es s) :
    ∃ go s', (checkVariable T currentHourNum currentMillis time hourNum deviceId info).run s =
      .ok go s' ∧ ScanReady T rx es s' := by
  rw [checkVariable]
  split
  · exact ⟨true, s, rfl, hready⟩
  split
  · exact ⟨true, s, rfl, hready⟩
  obtain ⟨xs, tx, hc, hn⟩ := hready
  obtain ⟨rv, ys, q, p, tq, ps, sent, hrun, hc', hs', -⟩ := dataCheckSend_run hc hn.queues hn.table
    deviceId info hourNum (lastLogNum T currentHourNum currentMillis hourNum info) time
  exact ⟨rv == .ok, _, (run_bind_ok hrun).trans rfl, ys, _, hc', hs',
    hn.table.congr rfl rfl⟩

section Loops

variable (T) (currentHourNum currentMillis time)

/-- The loop over what an entry provides. -/
def scanEntry (hourNum : UInt32) (e : RoutingEntry) : Run (Globals δ) Bool :=
  scan (checkVariable T currentHourNum currentMillis time hourNum e.deviceId) e.provided

/-- The loop over the entries of a table. -/
def scanHour (es : List RoutingEntry) (hourNum : UInt32) : Run (Globals δ) Bool :=
  scan (scanEntry T currentHourNum currentMillis time hourNum) es

end Loops

lemma scanEntry_ready (currentHourNum currentMillis time hourNum : UInt32) (e : RoutingEntry)
    (s : Globals δ) (hready : ScanReady T rx es s) :
    ∃ go s', (scanEntry T currentHourNum currentMillis time hourNum e).run s = .ok go s' ∧
      ScanReady T rx es s' :=
  scan_keeps checkVariable_ready e.provided hready

lemma scanHour_ready (currentHourNum currentMillis time : UInt32) (fs : List RoutingEntry)
    (hourNum : UInt32) (hready : ScanReady T rx es s) :
    ∃ go s', (scanHour T currentHourNum currentMillis time fs hourNum).run s = .ok go s' ∧
      ScanReady T rx es s' :=
  scan_keeps (scanEntry_ready _ _ _ _) fs hready

/-- The walk along the routing table. -/
lemma checkEntries_run {fs : List RoutingEntry} {hourNum : UInt32}
    (hready : ScanReady T rx (es ++ fs) s) :
    (checkEntries T currentHourNum currentMillis time hourNum es.length fs.length).run s =
      (scanHour T currentHourNum currentMillis time fs hourNum).run s := by
  induction fs generalizing es s with
  | nil => rfl
  | cons e fs ih =>
    have hlen : es.length + 1 = (es ++ [e]).length := by simp
    have happ : es ++ e :: fs = es ++ [e] ++ fs := by simp
    obtain ⟨go, s', hrun, hready'⟩ := scanEntry_ready currentHourNum currentMillis time hourNum e s
      hready
    obtain ⟨xs, tx, hc, hn⟩ := hready
    have hrun' : (scan (checkVariable T currentHourNum currentMillis time hourNum e.deviceId)
      e.provided).run s = .ok go s' := hrun
    rw [List.length_cons, checkEntries, run_bind_ok hn.table.tableEntry_run, run_bind_ok hrun',
      scanHour]
    cases go with
    | true =>
      rw [scan_cons_go hrun, if_pos rfl, hlen, ih (happ ▸ hready'), scanHour]
    | false =>
      rw [scan_cons_stop hrun]
      rfl

/-- The walk back in time, over `n` hours. -/
lemma checkHours_run (currentHourNum currentMillis time : UInt32) {limit hourNum : UInt32}
    {n : ℕ} (hready : ScanReady T rx es s)
    (hlimit : hourNum.toNat = limit.toNat + n) :
    (checkHours T currentHourNum currentMillis time limit (n + 1) hourNum).run s =
      (scan (scanHour T currentHourNum currentMillis time es)
        ((List.range n).map (fun k => hourNum - UInt32.ofNat k))).run s := by
  induction n generalizing hourNum s with
  | zero =>
    have hge : ¬limit < hourNum := by
      rw [UInt32.lt_iff_toNat_lt]
      omega
    rw [checkHours, if_neg hge]
    rfl
  | succ n ih =>
    have hlt : limit < hourNum := by
      rw [UInt32.lt_iff_toNat_lt]
      omega
    have hprev : (hourNum - 1).toNat = limit.toNat + n := by
      have hle : (1 : UInt32) ≤ hourNum := by
        rw [UInt32.le_iff_toNat_le]
        change 1 ≤ _
        omega
      rw [UInt32.toNat_sub_of_le _ _ hle]
      change _ - 1 = _
      omega
    have hwindow : (List.range (n + 1)).map (fun k => hourNum - UInt32.ofNat k) =
        hourNum :: (List.range n).map (fun k => hourNum - 1 - UInt32.ofNat k) := by
      rw [List.range_succ_eq_map, List.map_cons, List.map_map]
      congr 1
      · simp
      · refine List.map_congr_left (fun k _ => ?_)
        have hone : UInt32.ofNat (k + 1) = 1 + UInt32.ofNat k := by
          rw [UInt32.ofNat_add, UInt32.add_comm]
          rfl
        simp only [Function.comp, hone]
        grind
    obtain ⟨go, s', hrun, hready'⟩ := scanHour_ready currentHourNum currentMillis time es hourNum
      hready
    have hentries : (checkEntries T currentHourNum currentMillis time hourNum 0 es.length).run s =
        .ok go s' := by
      have hready₀ : ScanReady T rx ([] ++ es) s := hready
      exact (checkEntries_run hready₀).trans hrun
    obtain ⟨xs, tx, hc, hn⟩ := hready
    rw [checkHours, if_pos hlt, run_bind_ok (EStateM.run_get s), hn.table.top, hwindow,
      run_bind_ok hentries]
    cases go with
    | true =>
      rw [scan_cons_go hrun, if_pos rfl]
      exact ih hready' hprev
    | false =>
      rw [scan_cons_stop hrun]
      rfl

/-- `run_data_check` is one scan over its items. -/
lemma runDataCheck_run {hours : UInt32} {go : Bool} {s' : Globals δ}
    (hready : ScanReady T rx es s) (hhours : hours ≤ currentHourNum)
    (hscan : (scan (checkItem T currentHourNum currentMillis time)
      (checkItems es currentHourNum hours)).run s = .ok go s') :
    (runDataCheck T currentHourNum currentMillis time hours).run s = .ok () s' := by
  have hitems : scan (checkItem T currentHourNum currentMillis time)
      (checkItems es currentHourNum hours) =
        scan (scanHour T currentHourNum currentMillis time es) (window currentHourNum hours) := by
    rw [checkItems, scan_flatMap]
    congr 1
    funext hourNum
    rw [scan_flatMap, scanHour]
    congr 1
    funext e
    rw [scan_map]
    rfl
  have hmin : (if 24 * 5 < hours then 24 * 5 else hours : UInt32).toNat = min hours.toNat 120 := by
    have hlt : (24 * 5 < hours) ↔ 120 < hours.toNat := UInt32.lt_iff_toNat_lt
    split
    · rename_i h
      rw [Nat.min_eq_right (hlt.mp h).le]
      rfl
    · rename_i h
      rw [Nat.min_eq_left (Nat.not_lt.mp (fun h' => h (hlt.mpr h')))]
  have hle : (if 24 * 5 < hours then 24 * 5 else hours : UInt32) ≤ currentHourNum := by
    rw [UInt32.le_iff_toNat_le, hmin]
    exact (Nat.min_le_left _ _).trans (UInt32.le_iff_toNat_le.mp hhours)
  have hlimit : currentHourNum.toNat =
      (currentHourNum - if 24 * 5 < hours then 24 * 5 else hours).toNat + min hours.toNat 120 := by
    rw [UInt32.toNat_sub_of_le _ _ hle, hmin]
    rw [UInt32.le_iff_toNat_le, hmin] at hle
    omega
  have hrun := checkHours_run currentHourNum currentMillis time hready hlimit
  rw [hitems, window, ← hrun] at hscan
  simp only [runDataCheck, hmin]
  rw [run_bind_ok hscan]
  rfl

/-- `run_data_check` asks for everything that the local copy lacks if and only if nothing that
it comes to is absent: an hour without a file, a variable that the hour does not have, or one
at another rate ends it. -/
theorem runDataCheck_checksMissing_iff {hours : UInt32} (hcache : s.CacheHolds T xs)
    (hnetwork : NetworkHolds T s tx rx es) (hhours : hours ≤ currentHourNum)
    (hsends : SendsSucceed T currentHourNum currentMillis time
      (checkItems es currentHourNum hours) s) :
    ∃ s' tx', (runDataCheck T currentHourNum currentMillis time hours).run s = .ok () s' ∧
      s'.QueuesHold tx' rx ∧
      (ChecksMissing T currentHourNum currentMillis time (checkItems es currentHourNum hours) s tx' ↔
        NothingAbsent T currentHourNum currentMillis time
          (checkItems es currentHourNum hours) s) := by
  obtain ⟨go, s', sent, hscan, hs', hiff⟩ :=
    scan_checksMissing_iff hcache hnetwork.queues hnetwork.table hsends
  exact ⟨s', tx ++ sent, runDataCheck_run ⟨xs, tx, hcache, hnetwork⟩ hhours hscan, hs', hiff⟩

end Scanning

/-- A pressure sensor that demands variable 7. -/
def demandingTarget : Target Unit :=
  { Target.bare Settings.zejfPress with demandedVariables := [7] }

/-- Device 3 provides it, four times an hour. -/
def providerEntry : RoutingEntry where
  lastSeen := 0
  deviceId := 3
  demandCount := 0
  demandedVariables := []
  interface := none
  paused := 0
  distance := 1
  providedCount := 1
  providedVariables := [⟨4, 7⟩]
  subscribed := false
  demand_le := Nat.le_refl _
  provided_le := Nat.le_refl _

def emptyNode : Globals Unit :=
  { zejfInit demandingTarget () with
    routingTable := some providerEntry :: List.replicate 15 none
    routingTableTop := 1 }

lemma emptyNode_cacheHolds : emptyNode.CacheHolds demandingTarget [] where
  queue := LinkedList.listCreate_holds DataHour _
  capacity := rfl
  wellFormed x hx := by cases hx

lemma emptyNode_networkHolds : NetworkHolds demandingTarget emptyNode [] [] [providerEntry] where
  queues := ⟨LinkedList.listCreate_holds ℕ _, LinkedList.listCreate_holds ℕ _, by simp,
    List.nodup_nil, fun a ha => by cases ha⟩
  table := ⟨rfl, rfl, by decide⟩

/-- Fifty minutes into hour 10. -/
lemma emptyNode_asked : Asked demandingTarget 10 3000000 ⟨10, 3, ⟨4, 7⟩⟩ :=
  ⟨by decide +kernel, by decide⟩

lemma emptyNode_absent : ¬Present demandingTarget emptyNode ⟨10, 3, ⟨4, 7⟩⟩ := by
  rintro ⟨v, hv, -⟩
  have hnone : localVariable demandingTarget emptyNode 10 7 = none := rfl
  rw [hnone] at hv
  cases hv

/-- The device sends nothing at all, so no send fails. -/
lemma emptyNode_sendsSucceed : SendsSucceed demandingTarget 10 3000000 0
    (checkItems [providerEntry] 10 1) emptyNode := by
  refine forall_split_cons.mpr ⟨?_, fun pre j post he => absurd he (by simp)⟩
  intro hasked t hpre n u packet w hcalc
  obtain ⟨-, rfl⟩ := hpre
  have hnull : (calculateDataCheck demandingTarget ⟨4, 7⟩ 10
      (lastLogNum demandingTarget 10 3000000 10 ⟨4, 7⟩)).run emptyNode =
        .ok (.null, none) emptyNode := rfl
  have hboth := hnull.symm.trans hcalc
  cases hboth

/-- It does not ask for the hour that it lacks. -/
theorem emptyNode_not_checksMissing : SendsSucceed demandingTarget 10 3000000 0
    (checkItems [providerEntry] 10 1) emptyNode ∧ ∃ s' tx',
    (runDataCheck demandingTarget 10 3000000 0 1).run emptyNode = .ok () s' ∧
      s'.QueuesHold tx' [] ∧ ¬ChecksMissing demandingTarget 10 3000000 0
        (checkItems [providerEntry] 10 1) emptyNode tx' := by
  obtain ⟨go, s', sent, hscan, hs', hiff⟩ := scan_checksMissing_iff emptyNode_cacheHolds
    emptyNode_networkHolds.queues emptyNode_networkHolds.table emptyNode_sendsSucceed
  have hready : ScanReady demandingTarget [] [providerEntry] emptyNode :=
    ⟨[], [], emptyNode_cacheHolds, emptyNode_networkHolds⟩
  refine ⟨emptyNode_sendsSucceed, s', [] ++ sent,
    runDataCheck_run hready (by decide) hscan, hs', ?_⟩
  rw [hiff]
  intro hpresent
  exact emptyNode_absent (hpresent [] _ [] rfl emptyNode_asked (by decide))

/-- Two of the four samples are there. -/
def halfVariable : Variable where
  info := ⟨4, 7⟩
  data := [5, valueEmpty, 6, valueEmpty]
  size_eq := rfl

def halfHour : DataHour := { hourCreate 10 with vars := [halfVariable] }

/-- The device has half of the hour. -/
def halfNode : Globals Unit :=
  { emptyNode with dataQueue := LinkedList.ofItems demandingTarget.hourBufferSize [halfHour] }

lemma halfNode_cacheHolds : halfNode.CacheHolds demandingTarget [(0, halfHour)] where
  queue := (LinkedList.ofItems_holds demandingTarget.hourBufferSize_pos).1
  capacity := (LinkedList.ofItems_holds demandingTarget.hourBufferSize_pos).2.1
  wellFormed x hx := by
    rw [List.mem_singleton.mp hx]
    constructor <;> decide

lemma halfNode_networkHolds : NetworkHolds demandingTarget halfNode [] [] [providerEntry] :=
  emptyNode_networkHolds.data _ ()

/-- Hour 11 has just begun, so it is hour 10 that is asked for. -/
lemma halfNode_items : checkItems [providerEntry] 11 2 =
    [⟨11, 3, ⟨4, 7⟩⟩, ⟨10, 3, ⟨4, 7⟩⟩] := rfl

lemma halfNode_not_asked : ¬Asked demandingTarget 11 0 ⟨11, 3, ⟨4, 7⟩⟩ :=
  fun h => absurd h.1 (by decide +kernel)

lemma halfNode_sendsSucceed :
    SendsSucceed demandingTarget 11 0 0 (checkItems [providerEntry] 11 2) halfNode := by
  rw [halfNode_items]
  refine forall_split_cons.mpr ⟨fun hasked => absurd hasked halfNode_not_asked,
    forall_split_cons.mpr ⟨?_, fun pre j post he => absurd he (by simp)⟩⟩
  intro hasked t hpre n u packet w hcalc hmore hprepare
  have hscan : outcome ((scan (checkItem demandingTarget 11 0 0) [⟨11, 3, ⟨4, 7⟩⟩]).run halfNode) =
      some true := by decide +kernel
  obtain ⟨-, rfl⟩ := EStateM.Result.ok.inj (hpre.symm.trans (run_eq_of_outcome hscan))
  have hcount := run_eq_of_outcome (x := calculateDataCheck demandingTarget ⟨4, 7⟩ 10
    (CheckItem.logNum demandingTarget 11 0 ⟨10, 3, ⟨4, 7⟩⟩)) (a := (.ok, some 2))
    (s := leaves ((scan (checkItem demandingTarget 11 0 0) [⟨11, 3, ⟨4, 7⟩⟩]).run halfNode))
    (by decide +kernel)
  obtain ⟨hn, rfl⟩ := EStateM.Result.ok.inj (hcalc.symm.trans hcount)
  obtain rfl := Option.some.inj (Prod.mk.inj hn).2
  have hpacket := run_eq_of_outcome (a := 0) (x := networkPreparePacket demandingTarget 3
    dataCheckCommand (snprintf demandingTarget.packetMaxLength (numbersMessage ⟨4, 7⟩ 10
      (CheckItem.logNum demandingTarget 11 0 ⟨10, 3, ⟨4, 7⟩⟩) (.num (2 : UInt32).toNat))))
    (s := leaves ((calculateDataCheck demandingTarget ⟨4, 7⟩ 10
      (CheckItem.logNum demandingTarget 11 0 ⟨10, 3, ⟨4, 7⟩⟩)).run
        (leaves ((scan (checkItem demandingTarget 11 0 0) [⟨11, 3, ⟨4, 7⟩⟩]).run halfNode))))
    (by decide +kernel)
  obtain ⟨rfl, rfl⟩ := EStateM.Result.ok.inj (hprepare.symm.trans hpacket)
  exact ⟨_, run_eq_of_outcome (by decide +kernel)⟩

/-- It asks for the other half. -/
theorem halfNode_checksMissing : ∃ s' tx',
    (runDataCheck demandingTarget 11 0 0 2).run halfNode = .ok () s' ∧ s'.QueuesHold tx' [] ∧
      ChecksMissing demandingTarget 11 0 0 (checkItems [providerEntry] 11 2) halfNode tx' ∧
      tx' ≠ [] := by
  obtain ⟨s', tx', hrun, hq, hiff⟩ := runDataCheck_checksMissing_iff halfNode_cacheHolds
    halfNode_networkHolds (by decide) halfNode_sendsSucceed
  have hpresent : NothingAbsent demandingTarget 11 0 0 (checkItems [providerEntry] 11 2)
      halfNode := by
    rw [halfNode_items]
    refine forall_split_cons.mpr ⟨fun hasked => absurd hasked halfNode_not_asked,
      forall_split_cons.mpr ⟨fun _ _ => ?_, fun pre j post he => absurd he (by simp)⟩⟩
    have hrate : (localVariable demandingTarget (scanned demandingTarget 11 0 0
        [⟨11, 3, ⟨4, 7⟩⟩] halfNode) 10 7).map (fun v => v.info.samplesPerHour) = some 4 := by
      decide +kernel
    exact Option.map_eq_some_iff.mp hrate
  have hchecks := hiff.mpr hpresent
  refine ⟨s', tx', hrun, hq, hchecks, ?_⟩
  obtain ⟨q, hmem, -⟩ := hchecks [⟨11, 3, ⟨4, 7⟩⟩] ⟨10, 3, ⟨4, 7⟩⟩ [] halfNode_items
    ⟨by decide +kernel, by decide⟩ (by decide +kernel)
  exact List.ne_nil_of_mem hmem

end ZejfMeteo
