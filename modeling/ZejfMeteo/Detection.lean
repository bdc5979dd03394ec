import ZejfMeteo.DataCheck

/-!
# What a check detects

A device sends how many samples it holds of an hour, and the device that is checked compares
this number with its own. Numbers are compared and not the samples, so a sample that is missing
is only noticed if the number of samples shows it.
-/

namespace ZejfMeteo
open Runs Format

variable {α β : Type}

/-- How many samples up to `logNum` are not empty. -/
def Variable.held (v : Variable) (logNum : UInt32) : ℕ :=
  (v.data.take (logNum.toNat + 1)).countP (fun val => decide (val ≠ valueEmpty))

/-- A sample up to `logNum` that `w` holds is missing from `v`. -/
def Misses (v w : Variable) (logNum : UInt32) : Prop :=
  ∃ i ≤ logNum.toNat, ∃ val, w.data[i]? = some val ∧ val ≠ valueEmpty ∧
    v.data[i]? = some valueEmpty

/-- No sample up to `logNum` that `v` holds is missing from `w`. -/
def Covers (v w : Variable) (logNum : UInt32) : Prop := ¬Misses w v logNum

/-- A request has been queued for the device that the packet comes from. -/
def Requests (rs qs : List Requested) (packet : Packet) (info : VariableInfo)
    (hourNum logNum : UInt32) : Prop :=
  ∃ node addr, qs = rs ++ [⟨node, addr, newRequest packet.fromId info hourNum 0 logNum⟩]

section Counts

variable {v w : Variable} {logNum : UInt32}

lemma held_eq_count (v : Variable) (isProv : Bool) (logNum : UInt32) :
    (v.counted isProv logNum).held logNum = (v.count isProv logNum).toNat :=
  (v.count_toNat isProv logNum).symm

/-- If all samples of `v` are held by `w`, and one more, the numbers show it. -/
lemma held_lt_of_covers (hsize : v.info.samplesPerHour = w.info.samplesPerHour)
    (hmisses : Misses v w logNum) (hcovers : Covers v w logNum) : v.held logNum < w.held logNum := by
  obtain ⟨i, hi, val, hval, hne, hempty⟩ := hmisses
  have hlength : v.data.length = w.data.length := by rw [v.size_eq, w.size_eq, hsize]
  refine countP_lt_of_getElem? ?_ (i := i) (x := valueEmpty) (y := val) ?_ ?_ (by simp) (by simpa)
  · intro j x hx
    rw [List.getElem?_take] at hx
    split at hx
    · rename_i hj
      obtain ⟨hlt, -⟩ := List.getElem?_eq_some_iff.mp hx
      have hy := List.getElem?_eq_getElem (hlength ▸ hlt)
      refine ⟨_, (List.getElem?_take_of_lt hj).trans hy, ?_⟩
      simp only [decide_eq_true_eq]
      intro hx' hy'
      rw [hy'] at hy
      exact hcovers ⟨j, Nat.lt_succ_iff.mp hj, x, hx, hx', hy⟩
    · cases hx
  · rw [List.getElem?_take_of_lt (Nat.lt_succ_iff.mpr hi), hempty]
  · rw [List.getElem?_take_of_lt (Nat.lt_succ_iff.mpr hi), hval]

/-- A provider holds every sample that it has counted. -/
lemma counted_covers (v w : Variable) (logNum : UInt32) :
    Covers v (w.counted true logNum) logNum := by
  rintro ⟨i, hi, val, -, -, hempty⟩
  rw [Variable.counted_getElem?, if_pos hi] at hempty
  obtain ⟨old, -, hmark⟩ := Option.map_eq_some_iff.mp hempty
  have hne : decide (markSample true old ≠ valueEmpty) = true := by
    rw [markSample_ne, Bool.or_true]
  exact of_decide_eq_true hne hmark

/-- A device that misses a sample does not hold all of them. -/
lemma count_ne_of_misses {isProv : Bool} (hmisses : Misses (v.counted isProv logNum) w logNum) :
    v.count isProv logNum ≠ v.info.samplesPerHour := by
  intro hall
  obtain ⟨i, -, -, -, -, hempty⟩ := hmisses
  have hfilled := (Variable.filled_counted hall).trans (v.counted isProv logNum).size_eq.symm
  have hheld := List.countP_eq_length.mp hfilled valueEmpty (List.mem_of_getElem? hempty)
  exact absurd hheld (by decide)

end Counts

section Detection

variable {A : Target α} {B : Target β} {s : Globals α} {t : Globals β}
  {xs ys : List (ℕ × DataHour)} {tx rx : List Queued} {es : List RoutingEntry}
  {rs : List Requested} {v w : Variable} {info : VariableInfo} {hourNum logNum : UInt32}

/-- If a device misses a sample that the device it checks with holds, the check is sent unless
no packet can be sent to that device, and the other device queues a request exactly if it holds
more samples, which is so if it provides the variable or covers what the first device holds. -/
theorem check_detects_iff_more (hcA : s.CacheHolds A xs) (hnA : NetworkHolds A s tx rx es)
    (hv : localVariable A s hourNum info.id = some v)
    (hrateA : v.info.samplesPerHour = info.samplesPerHour) (hcB : t.CacheHolds B ys)
    (hrB : t.RequestsHold rs) (hw : localVariable B t hourNum info.id = some w)
    (hrateB : w.info.samplesPerHour = info.samplesPerHour)
    (hmisses : Misses (v.counted (isProvided A info) logNum) (w.counted (isProvided B info) logNum)
      logNum) (toId : UInt16) (time : UInt32) :
    ∃ uA sent, (dataCheckSend A toId info hourNum logNum time).run s =
        .ok (sendResult A es (listIsFull s.txQueue) toId) uA ∧
      uA.QueuesHold (tx ++ sent) rx ∧
      (sendResult A es (listIsFull s.txQueue) toId = .ok → ∃ q, sent = [q] ∧ ∀ b packet,
        t.packets.cells b = some packet → packet.message = q.packet.message →
        packet.fromId = q.packet.fromId →
        ∃ rv uB qs, (dataCheckReceive B b).run t = .ok rv uB ∧ uB.RequestsHold qs ∧
          (qs = rs ∨ Requests rs qs packet info hourNum logNum) ∧
          (Requests rs qs packet info hourNum logNum ↔
            (v.counted (isProvided A info) logNum).held logNum <
              (w.counted (isProvided B info) logNum).held logNum ∧
            ¬(isPending rs A.deviceId hourNum info.id ∨ listIsFull t.dataRequestsQueue))) ∧
      (isProvided B info = true ∨ Covers (v.counted (isProvided A info) logNum)
          (w.counted (isProvided B info) logNum) logNum →
        (v.counted (isProvided A info) logNum).held logNum <
          (w.counted (isProvided B info) logNum).held logNum) := by
  obtain ⟨rv, zs, q, p, tq, ps, sent, hrun, -, hqueues, hsent⟩ :=
    dataCheckSend_run hcA hnA.queues hnA.table toId info hourNum logNum time
  have hresultA : checkResult A info logNum (some v) = (.ok, some (v.count (isProvided A info)
      logNum)) := if_neg (not_not.mpr hrateA.symm)
  have hresultB : checkResult B info logNum (some w) = (.ok, some (w.count (isProvided B info)
      logNum)) := if_neg (not_not.mpr hrateB.symm)
  rw [hv, hresultA] at hsent
  have hrv : rv = sendResult A es (listIsFull s.txQueue) toId := by
    cases hsent with
    | complete all ok => exact absurd (all.trans hrateA.symm) (count_ne_of_misses hmisses)
    | failed notAll error same => exact absurd rfl error
    | refused notAll counted error same => exact same
    | sent notAll counted sendOk ok node => exact ok.trans sendOk.symm
  rw [hrv] at hrun hsent
  refine ⟨_, sent, hrun, hqueues, ?_, ?_⟩
  · intro hok
    cases hsent with
    | complete all ok => exact absurd (all.trans hrateA.symm) (count_ne_of_misses hmisses)
    | failed notAll error same => exact absurd rfl error
    | refused notAll counted error same => exact absurd hok error
    | sent notAll counted sendOk ok node =>
      refine ⟨_, rfl, ?_⟩
      intro b packet hpacket hmessage hfrom
      have hprint : packet.message = some (print (numbersMessage info hourNum logNum
          (.num (v.count (isProvided A info) logNum).toNat))) := by
        rw [hmessage]
        refine congrArg some (snprintf_numbersMessage A.toSettings ?_)
        exact (length_decimal_uint32 _).trans (by decide)
      obtain ⟨rv', ys', qs, q', p', rq, rhs, hreceive, -, hqs, hcase⟩ :=
        dataCheckReceive_run hcB hrB hpacket hprint
      have hsender : packet.fromId = A.deviceId := hfrom
      rw [hw, hresultB, Option.getD_some, hsender] at hcase
      rw [held_eq_count, held_eq_count, ← UInt32.lt_iff_toNat_lt]
      refine ⟨rv', _, qs, hreceive, hqs, ?_⟩
      have hnot : ¬Requests rs rs packet info hourNum logNum := by
        rintro ⟨node, addr, he⟩
        simpa using congrArg List.length he
      split at hcase
      · rename_i hmore
        obtain ⟨-, node, addr, rfl⟩ := hcase
        have hrequests : Requests rs _ packet info hourNum logNum := ⟨node, addr, by rw [hsender]⟩
        exact ⟨Or.inr hrequests, iff_of_true hrequests hmore⟩
      · rename_i hmore
        obtain rfl := hcase
        exact ⟨Or.inl rfl, iff_of_false hnot hmore⟩
  · rintro (hprov | hcovers)
    · rw [hprov] at hmisses ⊢
      exact held_lt_of_covers (hrateA.trans hrateB.symm) hmisses (counted_covers _ w logNum)
    · exact held_lt_of_covers (hrateA.trans hrateB.symm) hmisses hcovers

end Detection

section TwoSamples

abbrev sensor : Target Unit := Target.bare Settings.zejfPress

abbrev server : Target Unit := Target.bare Settings.zejfMeteo

/-- A variable with two samples an hour. -/
def twoSamples (first second : Sample) : Variable where
  info := ⟨2, 7⟩
  data := [first, second]
  size_eq := rfl

def twoSamplesHour (v : Variable) : DataHour := { hourCreate 10 with vars := [v] }

def serverEntry : RoutingEntry := { routingEntryCreate with deviceId := Settings.zejfMeteo.deviceId }

/-- The sensor has the hour in its cache and knows the way to the server. -/
def sensorWith (v : Variable) : Globals Unit :=
  { zejfInit sensor () with
    dataQueue := LinkedList.ofItems 12 [twoSamplesHour v]
    routingTable := some serverEntry :: List.replicate 15 none
    routingTableTop := 1 }

/-- The server has the hour in its cache and a packet at address 0. -/
def serverWith (w : Variable) (packet : Packet) : Globals Unit :=
  { zejfInit server () with
    dataQueue := LinkedList.ofItems 128 [twoSamplesHour w]
    packets := Heap.ofList [packet] }

/-- The check that the sensor sends when it holds one of the samples. -/
def oneHeld : Packet :=
  sentPacket sensor 1 dataCheckCommand (snprintf 128 (numbersMessage ⟨2, 7⟩ 10 1 (.num 1))) 0

lemma ofItems_cacheHolds {T : Target Unit} {s : Globals Unit} {v : Variable}
    (hinfo : v.info = ⟨2, 7⟩) (hrate : 2 ≤ T.sampleRateMax) (hvars : 1 ≤ T.variablesMax)
    (hq : s.dataQueue = LinkedList.ofItems T.hourBufferSize [twoSamplesHour v]) :
    s.CacheHolds T [(0, twoSamplesHour v)] where
  queue := hq ▸ (LinkedList.ofItems_holds T.hourBufferSize_pos).1
  capacity := hq ▸ (LinkedList.ofItems_holds T.hourBufferSize_pos).2.1
  wellFormed x hx := by
    rw [List.mem_singleton.mp hx]
    refine ⟨hvars, List.nodup_singleton _, ?_, ?_⟩
    · intro w hw
      rw [List.mem_singleton.mp hw, hinfo]
      decide
    · intro w hw
      rw [List.mem_singleton.mp hw, hinfo]
      exact hrate

lemma sensorWith_networkHolds (v : Variable) :
    NetworkHolds sensor (sensorWith v) [] [] [serverEntry] where
  queues := by
    have hq := zejfInit_queuesHold sensor ()
    exact ⟨hq.txHolds, hq.rxHolds, hq.live, hq.distinct, hq.next⟩
  table := ⟨rfl, rfl, by decide⟩

lemma sensorWith_local (a b : Sample) :
    localVariable sensor (sensorWith (twoSamples a b)) 10 7 = some (twoSamples a b) := rfl

lemma serverWith_local (a b : Sample) (packet : Packet) :
    localVariable server (serverWith (twoSamples a b) packet) 10 7 = some (twoSamples a b) := rfl

/-- The server holds all that the sensor holds and one more sample. -/
theorem oneMore_detects_iff_more : ∃ u sent,
    (dataCheckSend sensor 1 ⟨2, 7⟩ 10 1 0).run (sensorWith (twoSamples 5 valueEmpty)) =
        .ok (sendResult sensor [serverEntry]
          (listIsFull (sensorWith (twoSamples 5 valueEmpty)).txQueue) 1) u ∧
      u.QueuesHold ([] ++ sent) [] ∧
      (sendResult sensor [serverEntry]
          (listIsFull (sensorWith (twoSamples 5 valueEmpty)).txQueue) 1 = .ok →
        ∃ q, sent = [q] ∧ ∀ b packet,
        (serverWith (twoSamples 5 6) oneHeld).packets.cells b = some packet →
        packet.message = q.packet.message → packet.fromId = q.packet.fromId →
        ∃ rv u' qs, (dataCheckReceive server b).run (serverWith (twoSamples 5 6) oneHeld) =
            .ok rv u' ∧ u'.RequestsHold qs ∧
          (qs = [] ∨ Requests [] qs packet ⟨2, 7⟩ 10 1) ∧
          (Requests [] qs packet ⟨2, 7⟩ 10 1 ↔
            ((twoSamples 5 valueEmpty).counted (isProvided sensor ⟨2, 7⟩) 1).held 1 <
              ((twoSamples 5 6).counted (isProvided server ⟨2, 7⟩) 1).held 1 ∧
            ¬(isPending [] 2 10 7 ∨
              listIsFull (serverWith (twoSamples 5 6) oneHeld).dataRequestsQueue))) ∧
      (isProvided server ⟨2, 7⟩ = true ∨
          Covers ((twoSamples 5 valueEmpty).counted (isProvided sensor ⟨2, 7⟩) 1)
            ((twoSamples 5 6).counted (isProvided server ⟨2, 7⟩) 1) 1 →
        ((twoSamples 5 valueEmpty).counted (isProvided sensor ⟨2, 7⟩) 1).held 1 <
          ((twoSamples 5 6).counted (isProvided server ⟨2, 7⟩) 1).held 1) :=
  check_detects_iff_more (A := sensor) (B := server) (s := sensorWith (twoSamples 5 valueEmpty))
    (t := serverWith (twoSamples 5 6) oneHeld) (v := twoSamples 5 valueEmpty)
    (w := twoSamples 5 6)
    (ofItems_cacheHolds (v := twoSamples 5 valueEmpty) rfl (by decide) (by decide) rfl)
    (sensorWith_networkHolds _) (sensorWith_local 5 valueEmpty) rfl
    (ofItems_cacheHolds (v := twoSamples 5 6) rfl (by decide) (by decide) rfl)
    (show (serverWith (twoSamples 5 6) oneHeld).RequestsHold [] from
      ⟨LinkedList.listCreate_holds ℕ _, by simp, List.nodup_nil⟩)
    (serverWith_local 5 6 oneHeld) rfl ⟨1, by decide, 6, rfl, by decide, rfl⟩ 1 0

/-- Each of them holds the sample that the other one misses, and nothing comes of the check. -/
theorem swapped_not_detected :
    localVariable sensor (sensorWith (twoSamples 5 valueEmpty)) 10 7 =
        some (twoSamples 5 valueEmpty) ∧
      localVariable server (serverWith (twoSamples valueEmpty 6) oneHeld) 10 7 =
        some (twoSamples valueEmpty 6) ∧
      Misses ((twoSamples 5 valueEmpty).counted (isProvided sensor ⟨2, 7⟩) 1)
        ((twoSamples valueEmpty 6).counted (isProvided server ⟨2, 7⟩) 1) 1 ∧
      (∃ u, (dataCheckSend sensor 1 ⟨2, 7⟩ 10 1 0).run (sensorWith (twoSamples 5 valueEmpty)) =
          .ok .ok u ∧ u.txQueue.items.map Prod.snd = [0] ∧ u.packets.cells 0 = some oneHeld) ∧
      ∃ u, (dataCheckReceive server 0).run (serverWith (twoSamples valueEmpty 6) oneHeld) =
          .ok .ok u ∧ listIsEmpty u.dataRequestsQueue ∧
        ¬listIsFull (serverWith (twoSamples valueEmpty 6) oneHeld).dataRequestsQueue := by
  have hsend : outcome ((dataCheckSend sensor 1 ⟨2, 7⟩ 10 1 0).run
      (sensorWith (twoSamples 5 valueEmpty))) = some .ok := by decide +kernel
  have hreceive : outcome ((dataCheckReceive server 0).run
      (serverWith (twoSamples valueEmpty 6) oneHeld)) = some .ok := by decide +kernel
  refine ⟨sensorWith_local _ _, serverWith_local _ _ _, ⟨1, by decide, 6, rfl, by decide, rfl⟩, ?_, ?_⟩
  · exact ⟨_, run_eq_of_outcome hsend, by decide +kernel, by decide +kernel⟩
  · exact ⟨_, run_eq_of_outcome hreceive, by decide +kernel, by decide +kernel⟩

end TwoSamples

end ZejfMeteo
