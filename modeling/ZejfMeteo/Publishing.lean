import ZejfMeteo.Backfill
import ZejfMeteo.Restarts
import ZejfMeteo.Lib.Replica

/-!
# Live samples

A sample that a device logs goes to those who demand the variable, if it is to be announced, and to
those who have subscribed. What another device then reads of it is told by a replica of the writes
that the device has acknowledged.
-/

namespace ZejfMeteo
open Runs Format Replicas

variable {δ α β : Type}

/-! ### What a log sends -/

/-- Some variable that the entry demands is this one. -/
def RoutingEntry.demands (entry : RoutingEntry) (id : UInt16) : Bool :=
  entry.demanded.any (fun var => var == allVariables || var == id)

/-- Those who are told of a sample, in the order in which they are. -/
def recipients (es : List RoutingEntry) (id : UInt16) (announce : Bool) : List UInt16 :=
  ((if announce then es.filter (·.demands id) else []) ++ es.filter (·.subscribed)).map
    (·.deviceId)

def logPacket (T : Target δ) (info : VariableInfo) (n k : UInt32) (val : Sample) (time : UInt32)
    (toId : UInt16) : Packet :=
  sentPacket T toId dataLogCommand
    (snprintf T.packetMaxLength (numbersMessage info n k (.str (T.printValue val)))) time

/-- Nothing is sent to the device itself. -/
def logPackets (T : Target δ) (info : VariableInfo) (n k : UInt32) (val : Sample) (time : UInt32)
    (ids : List UInt16) : List Packet :=
  (ids.filter (· ≠ T.deviceId)).map (logPacket T info n k val time)

section Sending

variable {T : Target δ} {s u : Globals δ} {tx rx : List Queued} {es : List RoutingEntry}
  {size room : ℕ} {info : VariableInfo} {n k : UInt32} {val : Sample} {time : UInt32}

lemma logPackets_append (ids ids' : List UInt16) : logPackets T info n k val time (ids ++ ids') =
    logPackets T info n k val time ids ++ logPackets T info n k val time ids' := by
  rw [logPackets, List.filter_append, List.map_append]
  rfl

/-- Two batches that are cut off at the end of the queue, one after the other. -/
lemma take_append_take {γ : Type} (xs ys : List γ) (room : ℕ) :
    xs.take room ++ ys.take (room - (xs.take room).length) = (xs ++ ys).take room := by
  rw [List.take_append, List.length_take]
  congr 2
  omega

/-- A known device gets its log if there is room in the queue. -/
lemma sendResult_ok_iff {e : RoutingEntry} (he : e ∈ es) (txFull : Bool) :
    sendResult T es txFull e.deviceId = .ok ↔ e.deviceId ≠ T.deviceId ∧ txFull = false := by
  have hfound : es.findIdx? (fun f => f.deviceId == e.deviceId) ≠ none := by
    intro hnone
    have hall := List.findIdx?_eq_none_iff.mp hnone e he
    simp at hall
  unfold sendResult
  by_cases hown : e.deviceId = T.deviceId
  · simp [hown]
  · rw [if_neg hown, if_neg (fun h => hfound h.2)]
    cases txFull <;> simp [hown]

/-- The logs to all wanted entries are queued in order until the queue is full. -/
lemma sendLogs_sends (T : Target δ) (info : VariableInfo) (n k : UInt32) (val : Sample)
    (time : UInt32) (wanted : RoutingEntry → Bool) {fs : List RoutingEntry}
    (hs : s.QueuesHold tx rx) (ht : s.TableHolds size (es ++ fs)) (result : ZejfErr) :
    ∃ rv tq ps sent, (sendLogs T wanted info n k val time es.length fs.length result).run s =
        .ok rv { s with txQueue := tq, packets := ps } ∧
      tq.capacity = s.txQueue.capacity ∧
      ({ s with txQueue := tq, packets := ps } : Globals δ).QueuesHold (tx ++ sent) rx ∧
      sent.map Queued.packet = (logPackets T info n k val time
        ((fs.filter wanted).map (·.deviceId))).take (s.txQueue.capacity - tx.length) := by
  induction fs generalizing s es tx result with
  | nil =>
    refine ⟨result, s.txQueue, s.packets, [], rfl, rfl, ?_, by simp [logPackets]⟩
    rw [List.append_nil]
    exact hs
  | cons e fs ih =>
    have hentry := ht.tableEntry_run
    have happ : es ++ e :: fs = es ++ [e] ++ fs := by simp
    have hlen : es.length + 1 = (es ++ [e]).length := by simp
    rw [List.length_cons, sendLogs, run_bind_ok hentry, hlen]
    by_cases hw : wanted e = true
    · obtain ⟨tq, ps, hrun, hcap, hs', -⟩ :=
        dataSendLog_run (T := T) hs ht e.deviceId info n k val time
      have ht' : ({ s with txQueue := tq, packets := ps } : Globals δ).TableHolds size
          (es ++ [e] ++ fs) := happ ▸ ⟨ht.slots, ht.top, ht.bounded⟩
      obtain ⟨rv, tq', ps', sent, hrest, hcap', hs'', hsent⟩ := ih hs' ht'
        (if sendResult T (es ++ e :: fs) (listIsFull s.txQueue) e.deviceId ≠ .ok then .partialSend
          else result)
      have hmem : e ∈ es ++ e :: fs := by simp
      have hok := sendResult_ok_iff (T := T) hmem (listIsFull s.txQueue)
      have hbound := hs.txHolds.bounded
      have hfull := hs.txHolds.isFull
      rw [List.length_map] at hbound hfull
      have hcapacity : ({ s with txQueue := tq, packets := ps } : Globals δ).txQueue.capacity =
        s.txQueue.capacity := hcap
      rw [if_pos hw, run_bind_ok hrun, List.filter_cons_of_pos hw, List.map_cons]
      rw [hcapacity] at hsent
      by_cases hown : e.deviceId = T.deviceId
      · rw [if_neg (fun h => (hok.mp h).1 hown)] at hs'' hsent
        refine ⟨rv, tq', ps', sent, hrest, hcap'.trans hcap, hs'', ?_⟩
        rw [hsent, logPackets, logPackets, List.filter_cons_of_neg (by simp [hown])]
      · have hcons : logPackets T info n k val time
            (e.deviceId :: (fs.filter wanted).map (·.deviceId)) =
            logPacket T info n k val time e.deviceId ::
              logPackets T info n k val time ((fs.filter wanted).map (·.deviceId)) := by
          rw [logPackets, List.filter_cons_of_pos (by simp [hown]), List.map_cons]
          rfl
        rw [hcons]
        by_cases hroom : listIsFull s.txQueue = true
        · have hzero : s.txQueue.capacity - tx.length = 0 := by
            have heq := of_decide_eq_true (hfull ▸ hroom)
            omega
          rw [if_neg (fun h => by rw [(hok.mp h).2] at hroom; cases hroom)] at hs'' hsent
          refine ⟨rv, tq', ps', sent, hrest, hcap'.trans hcap, hs'', ?_⟩
          rw [hsent, hzero, List.take_zero, List.take_zero]
        · rw [Bool.not_eq_true] at hroom
          have hlt : tx.length ≠ s.txQueue.capacity := of_decide_eq_false (hfull ▸ hroom)
          obtain ⟨m, hm⟩ := Nat.exists_eq_succ_of_ne_zero
            (by omega : s.txQueue.capacity - tx.length ≠ 0)
          rw [if_pos (hok.mpr ⟨hown, hroom⟩)] at hs'' hsent
          rw [List.append_assoc] at hs''
          refine ⟨rv, tq', ps', _, hrest, hcap'.trans hcap, hs'', ?_⟩
          have hleft : s.txQueue.capacity - (tx ++ [Queued.mk s.txQueue.nodes.next s.packets.next
              (logPacket T info n k val time e.deviceId)]).length = m := by
            rw [List.length_append, List.length_singleton]
            omega
          rw [List.map_append, hm, List.take_succ_cons]
          refine congrArg (_ :: ·) (hsent.trans ?_)
          exact congrArg (List.take · _) hleft
    · obtain ⟨rv, tq, ps, sent, hrest, hcap, hs', hsent⟩ := ih hs (happ ▸ ht) result
      rw [if_neg hw, List.filter_cons_of_neg hw]
      exact ⟨rv, tq, ps, sent, hrest, hcap, hs', hsent⟩

/-- What telling of a sample leaves in the transmit queue. -/
lemma spreadLog_sends (T : Target δ) (info : VariableInfo) (n k : UInt32) (val : Sample)
    (time : UInt32) (hn : NetworkHolds T s tx rx es) (announce : Bool) :
    ∃ tq ps sent, (spreadLog T info n k val time announce).run s =
        .ok () { s with txQueue := tq, packets := ps } ∧
      NetworkHolds T { s with txQueue := tq, packets := ps } (tx ++ sent) rx es ∧
      sent.map Queued.packet = (logPackets T info n k val time
        (recipients es info.id announce)).take (s.txQueue.capacity - tx.length) := by
  have ht' : s.TableHolds T.routingTableSize ([] ++ es) := hn.table
  have htable : ∀ {tq ps}, ({ s with txQueue := tq, packets := ps } : Globals δ).TableHolds
      T.routingTableSize ([] ++ es) := hn.table.congr rfl rfl
  have htop := hn.table.top
  cases announce with
  | false =>
    obtain ⟨rv, tq, ps, sent, hrun, -, hq, hsent⟩ :=
      sendLogs_sends T info n k val time (·.subscribed) hn.queues ht' .ok
    rw [List.length_nil, ← htop] at hrun
    refine ⟨tq, ps, sent, ?_, ⟨hq, htable⟩, hsent⟩
    have hbroadcast : (networkBroadcastLog T info n k val time).run s = _ := hrun
    exact (run_bind_ok hbroadcast).trans rfl
  | true =>
    obtain ⟨rv, tq, ps, sent, hrun, hcap, hq, hsent⟩ :=
      sendLogs_sends T info n k val time (·.demands info.id) hn.queues ht' .ok
    obtain ⟨rv', tq', ps', sent', hrun', -, hq', hsent'⟩ :=
      sendLogs_sends T info n k val time (·.subscribed) hq htable .ok
    rw [List.length_nil, ← htop] at hrun hrun'
    rw [List.append_assoc] at hq'
    refine ⟨tq', ps', sent ++ sent', ?_, ⟨hq', htable⟩, ?_⟩
    · have hannounce : (networkAnnounceLog T info n k val time).run s = _ := hrun
      have hbroadcast : (networkBroadcastLog T info n k val time).run
        { s with txQueue := tq, packets := ps } = _ := hrun'
      exact (run_bind_ok hannounce).trans ((run_bind_ok hbroadcast).trans rfl)
    · have hcapacity : ({ s with txQueue := tq, packets := ps } : Globals δ).txQueue.capacity =
        s.txQueue.capacity := hcap
      have hleft : s.txQueue.capacity - (tx ++ sent).length =
          s.txQueue.capacity - tx.length - (sent.map Queued.packet).length := by
        rw [List.length_append, List.length_map]
        omega
      rw [hcapacity, hleft, hsent] at hsent'
      rw [List.map_append, hsent, hsent', take_append_take, ← logPackets_append, recipients,
        List.map_append]
      rfl

/-- The part of the state that the network holds in order. -/
def Globals.networkPart (s : Globals δ) :=
  (s.txQueue, s.rxQueue, s.nextPacket, s.packets, s.routingTable, s.routingTableTop)

lemma NetworkHolds.part (hn : NetworkHolds T s tx rx es) (hu : u.networkPart = s.networkPart) :
    NetworkHolds T u tx rx es := by
  simp only [Globals.networkPart, Prod.mk.injEq] at hu
  obtain ⟨htx, hrx, hnext, hpackets, htable, htop⟩ := hu
  exact ⟨hn.queues.congr htx hrx hnext (fun q _ => congrArg (·.cells q.addr) hpackets),
    hn.table.congr htable htop⟩

/-- What a log does to the network: it tells of the sample if it acknowledges it, and otherwise
nothing. -/
def Spreads (T : Target δ) (info : VariableInfo) (n k : UInt32) (val : Sample) (time : UInt32)
    (announce : Bool) (s : Globals δ) (rv : ZejfErr) (u : Globals δ) : Prop :=
  (rv ≠ .ok ∧ u.networkPart = s.networkPart) ∨ (rv = .ok ∧ ∃ v w, v.networkPart = s.networkPart ∧
    (spreadLog T info n k val time announce).run v = .ok () w ∧ u.networkPart = w.networkPart)

lemma Spreads.of_part {announce : Bool} {rv : ZejfErr} {v : Globals δ}
    (h : Spreads T info n k val time announce v rv u) (hv : v.networkPart = s.networkPart) :
    Spreads T info n k val time announce s rv u := by
  rcases h with ⟨hrv, hu⟩ | ⟨hrv, w, w', hw, hrun, hu⟩
  · exact Or.inl ⟨hrv, hu.trans hv⟩
  · exact Or.inr ⟨hrv, w, w', hw.trans hv, hrun, hu⟩

lemma keeps_run {γ ι : Type} {f : Globals δ → γ} {x : Run (Globals δ) ι} {a : ι} (h : Keeps f x)
    (hrun : x.run s = .ok a u) : f u = f s := by
  have hleaves := h s
  rw [hrun] at hleaves
  exact hleaves

lemma keeps_readHour (hour : ℕ) :
    Keeps (fun s : Globals δ => s.networkPart) (readHour hour) :=
  keeps_bind (keeps_zoom (fun _ _ => rfl) _) (fun _ => keeps_pure _)

lemma keeps_updateHour (hour : ℕ) (f : DataHour → DataHour) :
    Keeps (fun s : Globals δ => s.networkPart) (updateHour hour f) :=
  keeps_zoom (fun _ _ => rfl) _

lemma dataLogAt_spreads {hour i : ℕ} {announce : Bool} {rv : ZejfErr}
    (hrun : (dataLogAt T hour i info n k val time announce).run s = .ok rv u) :
    Spreads T info n k val time announce s rv u := by
  rw [dataLogAt] at hrun
  obtain ⟨h, s', hread, hrun⟩ := run_bind_inv hrun
  have hs' := keeps_run (keeps_readHour hour) hread
  cases hv : h.vars[i]? with
  | none =>
    rw [hv] at hrun
    cases hrun
  | some v =>
    simp only [hv] at hrun
    split at hrun
    · cases hrun
      exact Or.inl ⟨by simp, hs'⟩
    split at hrun
    · cases hrun
      exact Or.inl ⟨by simp, hs'⟩
    split at hrun
    · cases hrun
    split at hrun
    · cases hrun
      exact Or.inl ⟨by simp, hs'⟩
    obtain ⟨_, s₁, hput, hrun⟩ := run_bind_inv hrun
    obtain ⟨_, s₂, hspread, hrun⟩ := run_bind_inv hrun
    obtain ⟨_, s₃, hflag, hrun⟩ := run_bind_inv hrun
    cases hrun
    exact Or.inr ⟨rfl, s₁, s₂, (keeps_run (keeps_updateHour _ _) hput).trans hs', hspread,
      keeps_run (keeps_updateHour _ _) hflag⟩

lemma dataLog_spreads {xs : List (ℕ × DataHour)} {announce : Bool} {rv : ZejfErr}
    (hc : s.CacheHolds T xs) (hrun : (dataLog T info n k val time announce).run s = .ok rv u) :
    Spreads T info n k val time announce s rv u := by
  obtain ⟨o, q, p, ys, hget, -⟩ := datahourGet_cached hc n true true
  rw [dataLog, run_bind_ok hget] at hrun
  have hpart : ({ s with dataQueue := q, platform := p } : Globals δ).networkPart =
    s.networkPart := rfl
  cases o with
  | none =>
    cases hrun
    exact Or.inl ⟨by simp, hpart⟩
  | some hour =>
    simp only at hrun
    obtain ⟨h, s', hread, hrun⟩ := run_bind_inv hrun
    have hs' := (keeps_run (keeps_readHour hour) hread).trans hpart
    cases hv : getVariable h info.id with
    | some i =>
      simp only [hv] at hrun
      exact (dataLogAt_spreads hrun).of_part hs'
    | none =>
      simp only [hv] at hrun
      cases hadd : hourAddVariable T.toSettings h info with
      | mk rv' h' =>
      simp only [hadd] at hrun
      split at hrun
      next hrv =>
        cases hrun
        exact Or.inl ⟨hrv, hs'⟩
      next =>
        obtain ⟨_, s₁, hput, hrun⟩ := run_bind_inv hrun
        have hs₁ := (keeps_run (keeps_updateHour hour _) hput).trans hs'
        cases hi : getVariable h' info.id with
        | none =>
          simp only [hi] at hrun
          cases hrun
        | some i =>
          simp only [hi] at hrun
          exact (dataLogAt_spreads hrun).of_part hs₁

/-- A log queues one packet for every recipient, as many as fit, if it acknowledges the sample, and
no packet otherwise. -/
theorem dataLog_sends {xs : List (ℕ × DataHour)} {announce : Bool} {rv : ZejfErr}
    (hc : s.CacheHolds T xs) (hn : NetworkHolds T s tx rx es)
    (hrun : (dataLog T info n k val time announce).run s = .ok rv u) :
    ∃ sent, NetworkHolds T u (tx ++ sent) rx es ∧ sent.map Queued.packet =
      if rv = .ok then (logPackets T info n k val time (recipients es info.id announce)).take
        (s.txQueue.capacity - tx.length) else [] := by
  rcases dataLog_spreads hc hrun with ⟨hrv, hu⟩ | ⟨rfl, v, w, hv, hspread, hu⟩
  · refine ⟨[], ?_, by rw [if_neg hrv]; rfl⟩
    rw [List.append_nil]
    exact hn.part hu
  · have hcapacity : v.txQueue.capacity = s.txQueue.capacity :=
      congrArg LinkedList.capacity (congrArg Prod.fst hv)
    obtain ⟨tq, ps, sent, hrun', hn', hsent⟩ :=
      spreadLog_sends T info n k val time (hn.part hv) announce
    obtain ⟨-, rfl⟩ := EStateM.Result.ok.inj (hspread.symm.trans hrun')
    exact ⟨sent, hn'.part hu, by rw [if_pos rfl, hsent, hcapacity]⟩

end Sending

namespace RefStore

/-- Whatever variable the one store has, the other one has too, with the same rate. -/
def Within (m m' : RefStore) : Prop :=
  ∀ n id v, (m n).lookup id = some v → ∃ v', (m' n).lookup id = some v' ∧
    v'.info.samplesPerHour = v.info.samplesPerHour

/-- There is a slot for this sample. -/
def Has (m : RefStore) (info : VariableInfo) (n k : UInt32) : Prop :=
  ∃ v, (m n).lookup info.id = some v ∧ v.info.samplesPerHour = info.samplesPerHour ∧
    k < info.samplesPerHour

/-- No hour has too many variables, and every one has a rate that is allowed. -/
structure Fits (m : RefStore) (cfg : Settings) : Prop where
  card_le : ∀ n, (m n).keys.card ≤ cfg.variablesMax
  rate_le : ∀ n id v, (m n).lookup id = some v → v.info.samplesPerHour.toNat ≤ cfg.sampleRateMax

section Within

variable {m m' m'' : RefStore} {cfg cfg' : Settings} {info target : VariableInfo} {n k : UInt32}
  {id : UInt16} {val : Sample} {v w : Variable}

lemma Within.refl (m : RefStore) : m.Within m := fun _ _ v hv => ⟨v, hv, rfl⟩

lemma Within.trans (h : m.Within m') (h' : m'.Within m'') : m.Within m'' := by
  intro n id v hv
  obtain ⟨v', hv', hrate⟩ := h n id v hv
  obtain ⟨v'', hv'', hrate'⟩ := h' n id v' hv'
  exact ⟨v'', hv'', hrate'.trans hrate⟩

lemma Has.within (h : m.Has info n k) (hm : m.Within m') : m'.Has info n k := by
  obtain ⟨v, hv, hrate, hk⟩ := h
  obtain ⟨v', hv', hrate'⟩ := hm n _ v hv
  exact ⟨v', hv', hrate'.trans hrate, hk⟩

lemma lookup_put (n' : UInt32) (id' : UInt16) : (m.put n id v n').lookup id' =
    if n = n' ∧ id = id' then some v else (m n').lookup id' := by
  rw [put]
  by_cases hn : n = n'
  · subst hn
    rw [Function.update_self]
    by_cases hid : id = id'
    · subst hid
      simp [Finmap.lookup_insert]
    · rw [Finmap.lookup_insert_of_ne _ (Ne.symm hid), if_neg (fun h => hid h.2)]
  · rw [Function.update_of_ne (Ne.symm hn), if_neg (fun h => hn h.1)]

/-- A variable that is put in its own place keeps its rate. -/
lemma within_put (h : ∀ w, (m n).lookup id = some w →
    v.info.samplesPerHour = w.info.samplesPerHour) : m.Within (m.put n id v) := by
  intro n' id' w hw
  rw [lookup_put]
  by_cases hslot : n = n' ∧ id = id'
  · obtain ⟨rfl, rfl⟩ := hslot
    exact ⟨v, if_pos ⟨rfl, rfl⟩, h w hw⟩
  · exact ⟨w, by rw [if_neg hslot]; exact hw, rfl⟩

/-- A store in which a variable is put stays in one that has it. -/
lemma Within.put (h : m.Within m') (hv : (m' n).lookup id = some w)
    (hrate : w.info.samplesPerHour = v.info.samplesPerHour) : (m.put n id v).Within m' := by
  intro n' id' v' hv'
  rw [lookup_put] at hv'
  split at hv'
  next hslot =>
    obtain ⟨rfl, rfl⟩ := hslot
    obtain rfl := Option.some.inj hv'
    exact ⟨w, hv, hrate⟩
  next => exact h n' id' v' hv'

lemma within_write (hv : (m n).lookup target.id = some v) :
    m.Within (write target n k val v m).2 := by
  rw [write]
  split
  · exact .refl m
  split
  · exact .refl m
  split
  · exact .refl m
  · refine within_put ?_
    intro w hw
    obtain rfl := Option.some.inj (hw.symm.trans hv)
    rfl

/-- A log takes no variable away. -/
lemma within_log : m.Within (log cfg target n k val m).2 := by
  rw [log]
  cases hl : (m n).lookup target.id with
  | some v => exact within_write hl
  | none =>
    simp only
    split
    · exact .refl m
    split
    · exact .refl m
    · have hnew : m.Within (m.put n target.id (Variable.create target)) := by
        refine within_put ?_
        intro w hw
        rw [hl] at hw
        cases hw
      exact hnew.trans (within_write (by rw [lookup_put, if_pos ⟨rfl, rfl⟩]))

lemma within_check {isProv : Bool} : m.Within (check isProv info n k m).2 := by
  rw [check]
  cases hl : (m n).lookup info.id with
  | none => exact .refl m
  | some v =>
    simp only
    split
    · exact .refl m
    · refine within_put ?_
      intro w hw
      obtain rfl := Option.some.inj (hw.symm.trans hl)
      rfl

lemma Within.check {isProv : Bool} (h : m.Within m') :
    (RefStore.check isProv info n k m).2.Within m' := by
  rw [RefStore.check]
  cases hl : (m n).lookup info.id with
  | none => exact h
  | some v =>
    obtain ⟨w, hw, hrate⟩ := h n _ v hl
    simp only
    split
    · exact h
    · exact h.put hw hrate

lemma Within.write (h : m.Within m') (hv : (m' n).lookup target.id = some w)
    (hrate : w.info.samplesPerHour = v.info.samplesPerHour) :
    (RefStore.write target n k val v m).2.Within m' := by
  rw [RefStore.write]
  split
  · exact h
  split
  · exact h
  split
  · exact h
  · exact h.put hv hrate

/-- A sample for which another store has a slot is logged into a store within it. -/
lemma Within.log (h : m.Within m') (hhas : m'.Has target n k) :
    (RefStore.log cfg target n k val m).2.Within m' := by
  obtain ⟨w, hw, hrate, -⟩ := hhas
  rw [RefStore.log]
  cases hl : (m n).lookup target.id with
  | some v =>
    obtain ⟨w', hw', hrate'⟩ := h n _ v hl
    exact h.write hw' hrate'
  | none =>
    simp only
    split
    · exact h
    split
    · exact h
    · have hnew : w.info.samplesPerHour = (Variable.create target).info.samplesPerHour := hrate
      exact (h.put hw hnew).write hw hnew

/-- What has been acknowledged has a slot. -/
lemma has_of_log (hok : (RefStore.log cfg target n k val m).1 = .ok) :
    (RefStore.log cfg target n k val m).2.Has target n k := by
  have hwrite : ∀ {m : RefStore} {v}, (RefStore.write target n k val v m).1 = .ok →
      (RefStore.write target n k val v m).2.Has target n k := by
    intro m v hok
    rw [RefStore.write] at hok ⊢
    split at hok
    · cases hok
    split at hok
    · cases hok
    split at hok
    · cases hok
    next hrate hk hvalue =>
      rw [if_neg hrate, if_neg hk, if_neg hvalue]
      rw [not_not] at hrate
      refine ⟨v.setSample k.toNat val, by rw [lookup_put, if_pos ⟨rfl, rfl⟩], hrate, ?_⟩
      rw [← hrate]
      exact UInt32.not_le.mp hk
  rw [RefStore.log] at hok ⊢
  cases hl : (m n).lookup target.id with
  | some v =>
    rw [hl] at hok
    exact hwrite hok
  | none =>
    rw [hl] at hok
    simp only at hok ⊢
    split at hok
    · cases hok
    split at hok
    · cases hok
    next hrate hfull =>
      rw [if_neg hrate, if_neg hfull]
      exact hwrite hok

/-- A measured sample for which there is a slot is taken. -/
lemma write_takes (hrate : v.info.samplesPerHour = target.samplesPerHour)
    (hk : k < target.samplesPerHour) (hval : Measured val) :
    (RefStore.write target n k val v m).1 = .ok := by
  rw [RefStore.write, if_neg (not_not.mpr hrate), hrate, if_neg (UInt32.not_le.mpr hk),
    if_neg (fun h => h.2 hval)]

/-- A store within one that fits takes every measured sample for which the other one has a
slot. -/
lemma Within.takes (h : m.Within m') (hfits : m'.Fits cfg') (hrates : cfg'.sampleRateMax ≤
    cfg.sampleRateMax) (hvars : cfg'.variablesMax ≤ cfg.variablesMax) (hhas : m'.Has target n k)
    (hval : Measured val) : (RefStore.log cfg target n k val m).1 = .ok := by
  obtain ⟨w, hw, hrate, hk⟩ := hhas
  rw [RefStore.log]
  cases hl : (m n).lookup target.id with
  | some v =>
    obtain ⟨w', hw', hrate'⟩ := h n _ v hl
    obtain rfl := Option.some.inj (hw'.symm.trans hw)
    exact write_takes (hrate'.symm.trans hrate) hk hval
  | none =>
    have hpos : target.samplesPerHour ≠ 0 := by
      intro hzero
      rw [hzero] at hk
      exact UInt32.not_lt_zero hk
    have hle := hfits.rate_le n _ w hw
    have hvalid : ¬(target.samplesPerHour = 0 ∨
        cfg.sampleRateMax < target.samplesPerHour.toNat) := by
      rw [hrate] at hle
      rintro (hzero | hlt)
      · exact hpos hzero
      · omega
    -- The variable is in the other store and not in this one.
    have hlt : (m n).keys.card < (m' n).keys.card := by
      apply Finset.card_lt_card
      refine ⟨?_, ?_⟩
      · intro id hid
        rw [Finmap.mem_keys, ← Finmap.lookup_isSome] at hid ⊢
        obtain ⟨v, hv⟩ := Option.isSome_iff_exists.mp hid
        obtain ⟨v', hv', -⟩ := h n id v hv
        rw [hv']
        rfl
      · intro hsub
        have hmem : target.id ∈ (m n).keys :=
          hsub (Finmap.mem_keys.mpr (Finmap.lookup_isSome.mp (by rw [hw]; rfl)))
        rw [Finmap.mem_keys, ← Finmap.lookup_isSome, hl] at hmem
        cases hmem
    have hroom : (m n).keys.card ≠ cfg.variablesMax := by
      have hcard := hfits.card_le n
      omega
    simp only
    rw [if_neg hvalid, if_neg hroom]
    exact write_takes rfl hk hval

end Within

end RefStore

lemma Couples.fits {T : Target δ} {D : FaithfulStorage T} {s : Globals δ}
    {xs : List (ℕ × DataHour)} {m : RefStore} (hc : Couples D s xs m) : m.Fits T.toSettings := by
  have hwf : ∀ n hour, localHour T xs s.platform n = some hour → hour.WellFormed T.toSettings := by
    intro n hour hlocal
    unfold localHour at hlocal
    cases hfind : xs.reverse.find? (fun x => x.2.hourId == n) with
    | some x =>
      rw [hfind] at hlocal
      obtain rfl := Option.some.inj hlocal
      exact hc.cache.wellFormed x (List.mem_reverse.mp (List.mem_of_find?_eq_some hfind))
    | none =>
      rw [hfind] at hlocal
      cases hf : D.files s.platform n with
      | none =>
        simp only [fetched_missing hf] at hlocal
        cases hlocal
      | some b =>
        obtain ⟨saved, hsaved, -, rfl⟩ := hc.files n b hf
        simp only [fetched_saved hsaved hf] at hlocal
        obtain rfl := Option.some.inj hlocal
        exact ⟨hsaved.count_le, hsaved.ids_nodup, hsaved.rate_pos, hsaved.rate_le⟩
  have hvars : ∀ n, (localVars T xs s.platform n).length ≤ T.variablesMax ∧
      ∀ v ∈ localVars T xs s.platform n, v.info.samplesPerHour.toNat ≤ T.sampleRateMax := by
    intro n
    unfold localVars
    cases hlocal : localHour T xs s.platform n with
    | none => exact ⟨Nat.zero_le _, by simp⟩
    | some hour => exact ⟨(hwf n hour hlocal).count_le, (hwf n hour hlocal).rate_le⟩
  refine ⟨?_, ?_⟩
  · intro n
    rw [(hc.agrees n).card]
    exact (hvars n).1
  · intro n id v hv
    rw [(hc.agrees n).lookup] at hv
    exact (hvars n).2 v (List.mem_of_find?_eq_some hv)

/-! ### Two devices -/

/-- An hour, a variable and the number of a sample. -/
abbrev Slot := UInt32 × UInt16 × UInt32

def LogFields.slot (f : LogFields) : Slot := (f.hourNumber, f.info.id, f.sampleNum)

/-- What a log says of its slot when its value is read this way, if the value was measured. -/
def LogFields.entries (read : Sample → Sample) (f : LogFields) : List (Slot × Sample) :=
  if Measured f.val then [(f.slot, read f.val)] else []

/-- What a device reads in a packet that comes in. -/
def arriving (B : Target β) (p : Packet) : List (Slot × Sample) :=
  match p.message.bind (logFields B) with
  | some f => f.entries id
  | none => []

/-- The packets to a device that have been added to the transmit queue. -/
def newLogs (s u : Globals α) (id : UInt16) : List Packet :=
  ((u.txPackets.drop s.txPackets.length).map Queued.packet).filter
    (fun p => p.toId = id ∨ p.toId = broadcast)

/-- The sample that a call has acknowledged. -/
def DataOp.writes : DataOp → DataOut → List LogFields
  | .log target n k val _ _, out => if out.1 = .ok then [⟨target, n, k, val⟩] else []
  | _, _ => []

/-- The device is one of those whom a call tells of its sample, and there is room for all of
them. -/
def DataOp.Tells (s : Globals α) (id : UInt16) : DataOp → Prop
  | .log target _ _ _ _ announce => id ∈ recipients s.routes target.id announce ∧
    s.txPackets.length + (recipients s.routes target.id announce).length ≤ s.txQueue.capacity
  | _ => False

instance (s : Globals α) (id : UInt16) (op : DataOp) : Decidable (op.Tells s id) :=
  match op with
  | .log _ _ _ _ _ _ => inferInstanceAs (Decidable (_ ∧ _))
  | .getVal _ _ _ | .check _ _ _ | .save => isFalse (fun h => h)

/-- Two devices, the logs that the first one has queued for the second one and that have not come
in yet, what the first one has acknowledged, and of what of it the second one is told. -/
structure Mirror (α β : Type) where
  publisher : Globals α
  follower : Globals β
  underway : List Packet
  written : List LogFields
  told : List LogFields

/-- A call of the publisher, anything else that leaves its data alone, a log that comes in, or a
call of the follower that logs nothing. -/
inductive Mirror.Step {A : Target α} (D : FaithfulStorage A) (B : Target β) :
    Mirror α β → Mirror α β → Prop
  | call {y : Mirror α β} {u : Globals α} (op : DataOp) {out : DataOut}
    (run : (op.run A).run y.publisher = .ok out u) :
    Step D B y { y with
      publisher := u
      underway := y.underway ++ newLogs y.publisher u B.deviceId
      written := y.written ++ op.writes out
      told := y.told ++ if op.Tells y.publisher B.deviceId then op.writes out else [] }
  | other {y : Mirror α β} {u : Globals α}
    (data : ∀ m, ServesData D y.publisher m → ServesData D u m) :
    Step D B y { y with publisher := u }
  | arrive {y : Mirror α β} {t : Globals β} {before after : List Packet} {p packet : Packet}
    (underway : y.underway = before ++ p :: after) (message : packet.message = p.message)
    (time : UInt32) {rv : ZejfErr}
    (run : (inHand packet (fun a => processDataLog B a time)).run y.follower = .ok rv t) :
    Step D B y { y with follower := t, underway := before ++ after }
  | use {y : Mirror α β} {t : Globals β} (op : DataOp) {out : DataOut}
    (reads : ∀ target n k val time announce, op ≠ .log target n k val time announce)
    (run : (op.run B).run y.follower = .ok out t) :
    Step D B y { y with follower := t }

/-- The state is that of a replica: what the follower has measured is what the replica holds. -/
structure Mirror.Shows {A : Target α} {B : Target β} (DA : FaithfulStorage A)
    (DB : FaithfulStorage B) (y : Mirror α β) (mA mB : RefStore) (r : Replica Slot Sample) :
    Prop where
  publisher : ServesData DA y.publisher mA
  follower : ServesData DB y.follower mB
  within : mB.Within mA
  written : ∀ x ∈ r.written, ∃ f ∈ y.written, x ∈ f.entries (received B A)
  told : ∀ f ∈ y.told, ∀ x ∈ f.entries (received B A), x ∈ r.told
  underway : r.underway = y.underway.flatMap (arriving B)
  store : ∀ n slot, mB.reading n slot = r.store (n, slot)
  slots : ∀ p ∈ y.underway, ∃ message f, p.message = some message ∧
    logFields B message = some f ∧ mA.Has f.info f.hourNumber f.sampleNum

section Mirror

variable {A : Target α} {B : Target β} {DA : FaithfulStorage A} {DB : FaithfulStorage B}
  {y z : Mirror α β} {s u : Globals α} {t : Globals β} {mA mB : RefStore}
  {r : Replica Slot Sample} {f : LogFields} {p : Packet} {op : DataOp} {out : DataOut}

lemma mem_entries {read : Sample → Sample} {x : Slot × Sample} :
    x ∈ f.entries read ↔ Measured f.val ∧ x = (f.slot, read f.val) := by
  unfold LogFields.entries
  split <;> simp [*]

lemma Understands.measured_received (h : Understands B A) (val : Sample) :
    Measured (received B A val) ↔ Measured val := by
  obtain ⟨-, -, hrank⟩ := h.scan val
  rw [measured_iff, measured_iff, hrank]

/-- What a packet with a sample says when it comes in is what the sample says. -/
lemma arriving_logPacket (h : Understands B A) (info : VariableInfo) (n k : UInt32) (val : Sample)
    (time : UInt32) (toId : UInt16) : arriving B (logPacket A info n k val time toId) =
      LogFields.entries (received B A) ⟨info, n, k, val⟩ := by
  have hfields : (logPacket A info n k val time toId).message.bind (logFields B) =
      some ⟨info, n, k, received B A val⟩ := h.logFields info n k val
  rw [arriving, hfields]
  simp only [LogFields.entries, h.measured_received]
  rfl

lemma within_spec (op : DataOp) (m : RefStore) : m.Within (op.spec A m).2 := by
  cases op with
  | log target n k val time announce => exact RefStore.within_log
  | getVal info n k => exact .refl m
  | check info n k => exact RefStore.within_check
  | save => exact .refl m

/-- A call that logs nothing queues nothing. -/
lemma newLogs_of_part (h : u.networkPart = s.networkPart) (id : UInt16) : newLogs s u id = [] := by
  simp only [Globals.networkPart, Prod.mk.injEq] at h
  obtain ⟨htx, -, -, hpackets, -⟩ := h
  have hsame : u.txPackets = s.txPackets := by
    unfold Globals.txPackets Globals.queued
    rw [htx, hpackets]
  rw [newLogs, hsame, List.drop_length]
  rfl

/-- What a call queues for a device says what it has acknowledged, and if the device is told, it
says it. -/
lemma newLogs_said (h : Understands B A) (hne : A.deviceId ≠ B.deviceId)
    (hs : ServesData DA s mA) (hrun : (op.run A).run s = .ok out u) :
    (∀ p ∈ newLogs s u B.deviceId, ∃ f ∈ op.writes out, ∃ message, p.message = some message ∧
      logFields B message = some { f with val := received B A f.val } ∧
      arriving B p = f.entries (received B A)) ∧
    (op.Tells s B.deviceId → ∀ f ∈ op.writes out, ∃ p ∈ newLogs s u B.deviceId,
      arriving B p = f.entries (received B A)) := by
  obtain ⟨xs, tx, rx, es, hc, hn⟩ := hs
  cases op with
  | getVal info n k =>
    obtain ⟨o, q, p, zs, r, -, -, hget⟩ := dataGetVal_cached hc.cache info n k true false
    obtain ⟨-, rfl⟩ := EStateM.Result.ok.inj (hrun.symm.trans hget)
    rw [newLogs_of_part (s := s) (u := { s with dataQueue := q, platform := p }) rfl]
    exact ⟨by simp, fun htells => htells.elim⟩
  | check info n k =>
    obtain ⟨ys, q, p, hcheck, -⟩ := calculateDataCheck_run hc info n k
    obtain ⟨-, rfl⟩ := EStateM.Result.ok.inj (hrun.symm.trans hcheck)
    rw [newLogs_of_part (s := s) (u := { s with dataQueue := q, platform := p }) rfl]
    exact ⟨by simp, fun htells => htells.elim⟩
  | save =>
    obtain ⟨ys, q, p, hsave, -⟩ := dataSave_run hc
    rw [DataOp.run, run_bind_ok hsave] at hrun
    obtain ⟨-, rfl⟩ := EStateM.Result.ok.inj hrun
    rw [newLogs_of_part (s := s) (u := { s with dataQueue := q, platform := p }) rfl]
    exact ⟨by simp, fun htells => htells.elim⟩
  | log target n k val time announce =>
    obtain ⟨rv, v, hlog, hreturn⟩ := run_bind_inv hrun
    obtain ⟨rfl, rfl⟩ := EStateM.Result.ok.inj hreturn
    obtain ⟨sent, hn', hsent⟩ := dataLog_sends hc.cache hn hlog
    have hnew : newLogs s v B.deviceId = ((if rv = .ok then (logPackets A target n k val time
        (recipients es target.id announce)).take (s.txQueue.capacity - tx.length) else []).filter
          (fun p => p.toId = B.deviceId ∨ p.toId = broadcast)) := by
      rw [newLogs, hn'.txPackets, hn.txPackets, List.drop_left, hsent]
    have hroutes : s.routes = es := hn.table.routes
    rw [hnew, DataOp.Tells, hroutes, hn.txPackets]
    by_cases hrv : rv = .ok
    · have hwrites : DataOp.writes (.log target n k val time announce) (rv, none) =
        [⟨target, n, k, val⟩] := if_pos hrv
      rw [if_pos hrv, hwrites]
      have hsaid : ∀ toId, arriving B (logPacket A target n k val time toId) =
        LogFields.entries (received B A) ⟨target, n, k, val⟩ :=
        arriving_logPacket h target n k val time
      constructor
      · intro p hp
        have hp := List.mem_of_mem_take (List.mem_of_mem_filter hp)
        obtain ⟨toId, -, rfl⟩ := List.mem_map.mp hp
        exact ⟨_, List.mem_singleton_self _, _, rfl, h.logFields target n k val, hsaid toId⟩
      · rintro ⟨hmem, hroom⟩ f hf
        rw [List.mem_singleton.mp hf]
        refine ⟨logPacket A target n k val time B.deviceId, ?_, hsaid _⟩
        have hle : (logPackets A target n k val time (recipients es target.id announce)).length ≤
            s.txQueue.capacity - tx.length := by
          have hfilter : (logPackets A target n k val time
              (recipients es target.id announce)).length ≤
              (recipients es target.id announce).length := by
            rw [logPackets, List.length_map]
            exact List.length_filter_le _ _
          omega
        rw [List.take_of_length_le hle, List.mem_filter]
        refine ⟨List.mem_map_of_mem (List.mem_filter.mpr ⟨hmem, ?_⟩), ?_⟩
        · exact decide_eq_true hne.symm
        · exact decide_eq_true (Or.inl rfl)
    · have hwrites : DataOp.writes (.log target n k val time announce) (rv, none) = [] :=
        if_neg hrv
      rw [if_neg hrv, hwrites]
      exact ⟨by simp, fun _ => by simp⟩

/-- What a call has acknowledged has a slot. -/
lemma writes_has (hs : ServesData DA s mA) (hrun : (op.run A).run s = .ok out u) :
    ∀ f ∈ op.writes out, (op.spec A mA).2.Has f.info f.hourNumber f.sampleNum := by
  intro f hf
  cases op with
  | getVal info n k => cases hf
  | check info n k => cases hf
  | save => cases hf
  | log target n k val time announce =>
    obtain ⟨u', hspec, -⟩ := DataOp.simulates DA (.log target n k val time announce) s mA hs
    obtain ⟨rfl, -⟩ := EStateM.Result.ok.inj (hrun.symm.trans hspec)
    by_cases hok : (RefStore.log A.toSettings target n k val mA).1 = .ok
    · have hwrites : DataOp.writes (.log target n k val time announce)
          ((DataOp.log target n k val time announce).spec A mA).1 = [⟨target, n, k, val⟩] :=
        if_pos hok
      rw [hwrites] at hf
      rw [List.mem_singleton.mp hf]
      exact RefStore.has_of_log hok
    · have hwrites : DataOp.writes (.log target n k val time announce)
          ((DataOp.log target n k val time announce).spec A mA).1 = [] := if_neg hok
      rw [hwrites] at hf
      cases hf

/-- A call of the publisher writes what it acknowledges and tells some of it. -/
lemma Mirror.Shows.call (hy : y.Shows DA DB mA mB r) (h : Understands B A)
    (hne : A.deviceId ≠ B.deviceId) (hrun : (op.run A).run y.publisher = .ok out u) :
    ∃ mA' r', Replicas.Step r r' ∧ Mirror.Shows DA DB { y with
      publisher := u
      underway := y.underway ++ newLogs y.publisher u B.deviceId
      written := y.written ++ op.writes out
      told := y.told ++ if op.Tells y.publisher B.deviceId then op.writes out else [] } mA' mB r' := by
  obtain ⟨u', hspec, hu⟩ := DataOp.simulates DA op y.publisher mA hy.publisher
  obtain ⟨-, rfl⟩ := EStateM.Result.ok.inj (hrun.symm.trans hspec)
  obtain ⟨hsaid, htold⟩ := newLogs_said h hne hy.publisher hrun
  have hhas := writes_has hy.publisher hrun
  have hwithin := within_spec (A := A) op mA
  refine ⟨_, r.write ((op.writes out).flatMap (LogFields.entries (received B A)))
    ((newLogs y.publisher u B.deviceId).flatMap (arriving B)), .write _ _ ?_, hu, hy.follower,
    hy.within.trans hwithin, ?_, ?_, ?_, hy.store, ?_⟩
  · intro x hx
    obtain ⟨p, hp, hx⟩ := List.mem_flatMap.mp hx
    obtain ⟨f, hf, -, -, -, hentries⟩ := hsaid p hp
    exact List.mem_flatMap.mpr ⟨f, hf, hentries ▸ hx⟩
  · intro x hx
    rcases List.mem_append.mp hx with hx | hx
    · obtain ⟨f, hf, hx⟩ := hy.written x hx
      exact ⟨f, List.mem_append_left _ hf, hx⟩
    · obtain ⟨f, hf, hx⟩ := List.mem_flatMap.mp hx
      exact ⟨f, List.mem_append_right _ hf, hx⟩
  · intro f hf x hx
    rcases List.mem_append.mp hf with hf | hf
    · exact List.mem_append_left _ (hy.told f hf x hx)
    · split at hf
      next htells =>
        obtain ⟨p, hp, hentries⟩ := htold htells f hf
        exact List.mem_append_right _ (List.mem_flatMap.mpr ⟨p, hp, hentries ▸ hx⟩)
      next => cases hf
  · show r.underway ++ _ = _
    rw [hy.underway, List.flatMap_append]
  · intro p hp
    rcases List.mem_append.mp hp with hp | hp
    · obtain ⟨message, f, hm, hf, hslot⟩ := hy.slots p hp
      exact ⟨message, f, hm, hf, hslot.within hwithin⟩
    · obtain ⟨f, hf, message, hm, hfields, -⟩ := hsaid p hp
      exact ⟨message, _, hm, hfields, hhas f hf⟩

/-- The readings of a store after a log that it takes. -/
lemma reading_taken {m : RefStore} {cfg : Settings} {target : VariableInfo} {n k : UInt32}
    {val : Sample} (hok : (RefStore.log cfg target n k val m).1 = .ok) (hval : Measured val)
    (n' : UInt32) (slot : UInt16 × UInt32) : (RefStore.log cfg target n k val m).2.reading n' slot =
      Function.update (fun x : Slot => m.reading x.1 x.2) (n, target.id, k) (some val)
        (n', slot) := by
  rw [reading_log]
  by_cases hslot : n = n' ∧ (target.id, k) = slot
  · obtain ⟨rfl, rfl⟩ := hslot
    rw [if_pos ⟨⟨hok, hval⟩, rfl, rfl⟩, Function.update_self]
  · have hne : (n', slot) ≠ (n, target.id, k) := by
      intro he
      obtain ⟨rfl, rfl⟩ := Prod.mk.inj he
      exact hslot ⟨rfl, rfl⟩
    rw [if_neg (fun h => hslot h.2), Function.update_of_ne hne]

/-- A log that comes in is taken, and the replica holds its value. -/
lemma Mirror.Shows.arrive {before after : List Packet} {packet : Packet}
    (hy : y.Shows DA DB mA mB r) (hrates : A.sampleRateMax ≤ B.sampleRateMax)
    (hvars : A.variablesMax ≤ B.variablesMax) (hunderway : y.underway = before ++ p :: after)
    (hmessage : packet.message = p.message) (time : UInt32) :
    ∃ rv t mB' r', (inHand packet (fun a => processDataLog B a time)).run y.follower = .ok rv t ∧
      Relation.ReflTransGen Replicas.Step r r' ∧
      Mirror.Shows DA DB { y with follower := t, underway := before ++ after } mA mB' r' := by
  obtain ⟨message, f, hm, hf, hhas⟩ := hy.slots p (hunderway ▸ by simp)
  obtain ⟨rv, t, hrun, ht⟩ := hy.follower.receiveLog (hmessage.trans hm) hf time
  obtain ⟨xs, tx, rx, es, hc, -⟩ := hy.publisher
  have hleft : ∀ q ∈ before ++ after, ∃ message f, q.message = some message ∧
      logFields B message = some f ∧ mA.Has f.info f.hourNumber f.sampleNum := by
    intro q hq
    refine hy.slots q ?_
    rw [hunderway]
    rcases List.mem_append.mp hq with hq | hq
    · exact List.mem_append_left _ hq
    · exact List.mem_append_right _ (List.mem_cons_of_mem _ hq)
  have hreads : arriving B p = f.entries id := by
    rw [arriving, hm, Option.bind_some, hf]
  have hsplit : r.underway = before.flatMap (arriving B) ++
      (f.entries id ++ after.flatMap (arriving B)) := by
    rw [hy.underway, hunderway, List.flatMap_append, List.flatMap_cons, hreads]
  have hwithin : (RefStore.log B.toSettings f.info f.hourNumber f.sampleNum f.val mB).2.Within mA :=
    hy.within.log hhas
  by_cases hmeasured : Measured f.val
  · have hok : (RefStore.log B.toSettings f.info f.hourNumber f.sampleNum f.val mB).1 = .ok :=
      hy.within.takes hc.fits hrates hvars hhas hmeasured
    have hentries : f.entries id = [(f.slot, f.val)] := if_pos hmeasured
    rw [hentries, List.singleton_append] at hsplit
    refine ⟨rv, t, _, _, hrun, .single (.arrive hsplit), hy.publisher, ht, hwithin, hy.written,
      hy.told, ?_, ?_, hleft⟩
    · show before.flatMap _ ++ after.flatMap _ = (before ++ after).flatMap _
      rw [List.flatMap_append]
    · intro n slot
      have hstore : (fun x : Slot => mB.reading x.1 x.2) = r.store := by
        funext x
        exact hy.store x.1 x.2
      rw [reading_taken hok hmeasured, hstore]
      rfl
  · have hentries : f.entries id = [] := if_neg hmeasured
    rw [hentries, List.nil_append, ← List.flatMap_append] at hsplit
    refine ⟨rv, t, _, r, hrun, .refl, hy.publisher, ht, hwithin, hy.written, hy.told, hsplit, ?_,
      hleft⟩
    intro n slot
    rw [reading_log, if_neg (fun h => hmeasured h.1.2)]
    exact hy.store n slot

/-- A call of the follower that logs nothing changes nothing that has been measured. -/
lemma Mirror.Shows.use (hy : y.Shows DA DB mA mB r)
    (hreads : ∀ target n k val time announce, op ≠ .log target n k val time announce)
    (hrun : (op.run B).run y.follower = .ok out t) :
    ∃ mB', Mirror.Shows DA DB { y with follower := t } mA mB' r := by
  obtain ⟨t', hspec, ht⟩ := DataOp.simulates DB op y.follower mB hy.follower
  obtain ⟨-, rfl⟩ := EStateM.Result.ok.inj (hrun.symm.trans hspec)
  have hkept : (op.spec B mB).2.Within mA ∧ ∀ n slot, (op.spec B mB).2.reading n slot =
      mB.reading n slot := by
    cases op with
    | log target n k val time announce => exact absurd rfl (hreads _ _ _ _ _ _)
    | getVal info n k => exact ⟨hy.within, fun _ _ => rfl⟩
    | check info n k => exact ⟨hy.within.check, fun n slot => reading_check n slot⟩
    | save => exact ⟨hy.within, fun _ _ => rfl⟩
  exact ⟨_, hy.publisher, ht, hkept.1, hy.written, hy.told, hy.underway,
    fun n slot => (hkept.2 n slot).trans (hy.store n slot), hy.slots⟩

/-- What one step of the two devices does is what the replica does. -/
lemma Mirror.Shows.step (hy : y.Shows DA DB mA mB r) (h : Understands B A)
    (hne : A.deviceId ≠ B.deviceId) (hrates : A.sampleRateMax ≤ B.sampleRateMax)
    (hvars : A.variablesMax ≤ B.variablesMax) (hstep : Mirror.Step DA B y z) :
    ∃ mA' mB' r', Relation.ReflTransGen Replicas.Step r r' ∧ z.Shows DA DB mA' mB' r' := by
  cases hstep with
  | call op run =>
    obtain ⟨mA', r', hr, hz⟩ := hy.call h hne run
    exact ⟨mA', mB, r', .single hr, hz⟩
  | other data =>
    exact ⟨mA, mB, r, .refl, data mA hy.publisher, hy.follower, hy.within, hy.written, hy.told,
      hy.underway, hy.store, hy.slots⟩
  | arrive underway message time run =>
    obtain ⟨rv, t, mB', r', hrun, hr, hz⟩ := hy.arrive hrates hvars underway message time
    obtain ⟨-, rfl⟩ := EStateM.Result.ok.inj (run.symm.trans hrun)
    exact ⟨mA, mB', r', hr, hz⟩
  | use op reads run =>
    obtain ⟨mB', hz⟩ := hy.use reads run
    exact ⟨mA, mB', r, .refl, hz⟩

lemma Mirror.shows_of_reached (h : Understands B A) (hne : A.deviceId ≠ B.deviceId)
    (hrates : A.sampleRateMax ≤ B.sampleRateMax) (hvars : A.variablesMax ≤ B.variablesMax)
    (hs : ServesData DA s mA) (ht : ServesData DB t mB) (hin : mB.Within mA)
    (hreach : Relation.ReflTransGen (Mirror.Step DA B) ⟨s, t, [], [], []⟩ y) :
    ∃ mA' mB' r', Relation.ReflTransGen Replicas.Step
        (Replica.start (fun x : Slot => mB.reading x.1 x.2)) r' ∧ y.Shows DA DB mA' mB' r' := by
  induction hreach with
  | refl =>
    refine ⟨mA, mB, _, .refl, hs, ht, hin, ?_, ?_, rfl, fun _ _ => rfl, ?_⟩
    · intro x hx
      cases hx
    · intro f hf
      cases hf
    · intro p hp
      cases hp
  | tail _ hstep ih =>
    obtain ⟨mA₁, mB₁, r₁, hr₁, hy₁⟩ := ih
    obtain ⟨mA₂, mB₂, r₂, hr₂, hy₂⟩ := hy₁.step h hne hrates hvars hstep
    exact ⟨mA₂, mB₂, r₂, hr₁.trans hr₂, hy₂⟩

lemma ServesData.getVal {D : FaithfulStorage B} (ht : ServesData D t mB) (info : VariableInfo)
    (n k : UInt32) : ∃ out v, (dataGetVal B info n k true false).run t = .ok out v ∧
      measured out.2 = mB.reading n (info.id, k) := by
  obtain ⟨xs, tx, rx, es, hc, -⟩ := ht
  obtain ⟨ys, q, p, hrun, -⟩ := dataGetVal_run hc info n k
  exact ⟨_, _, hrun, measured_getVal info⟩

/-- **Live samples.** A device logs samples while another one, which has no variable that the first
one has not, receives the logs that it is told of, in any order and maybe not all of them. Neither
device ever fails. What the second one has measured then it had from the start, or the first one has
acknowledged it for the same slot. When nothing is under way, the second one has a sample in every
slot of which it has been told. -/
theorem samples_followed (hread : Understands B A) (hne : A.deviceId ≠ B.deviceId)
    (hrates : A.sampleRateMax ≤ B.sampleRateMax) (hvars : A.variablesMax ≤ B.variablesMax)
    (hs : ServesData DA s mA) (ht : ServesData DB t mB) (hin : mB.Within mA)
    (hreach : Relation.ReflTransGen (Mirror.Step DA B) ⟨s, t, [], [], []⟩ y) :
    (∀ op : DataOp, ∃ out u, (op.run A).run y.publisher = .ok out u) ∧
    (∀ p ∈ y.underway, ∀ packet : Packet, packet.message = p.message → ∀ time, ∃ rv u,
      (inHand packet (fun a => processDataLog B a time)).run y.follower = .ok rv u) ∧
    ∀ info n k, ∃ out v, (dataGetVal B info n k true false).run y.follower = .ok out v ∧
      (∀ val, measured out.2 = some val → mB.reading n (info.id, k) = some val ∨
        ∃ f ∈ y.written, f.slot = (n, info.id, k) ∧ Measured f.val ∧ received B A f.val = val) ∧
      (y.underway = [] → (∃ f ∈ y.told, f.slot = (n, info.id, k) ∧ Measured f.val) →
        ∃ f ∈ y.written, f.slot = (n, info.id, k) ∧ Measured f.val ∧
          measured out.2 = some (received B A f.val)) := by
  obtain ⟨mA', mB', r, hr, hy⟩ := Mirror.shows_of_reached hread hne hrates hvars hs ht hin hreach
  have hsound := sound_of_reached hr
  refine ⟨?_, ?_, ?_⟩
  · intro op
    obtain ⟨u, hrun, -⟩ := DataOp.simulates DA op y.publisher mA' hy.publisher
    exact ⟨_, u, hrun⟩
  · intro p hp packet hmessage time
    obtain ⟨before, after, hunderway⟩ := List.append_of_mem hp
    obtain ⟨rv, u, -, -, hrun, -⟩ := hy.arrive hrates hvars hunderway hmessage time
    exact ⟨rv, u, hrun⟩
  · intro info n k
    obtain ⟨out, v, hrun, hout⟩ := hy.follower.getVal info n k
    rw [hy.store] at hout
    refine ⟨out, v, hrun, ?_, ?_⟩
    · intro val hval
      rcases hsound.holds _ _ (hout.symm.trans hval) with htold | hold
      · obtain ⟨f, hf, hentry⟩ := hy.written _ (hsound.written _ htold)
        obtain ⟨hmeasured, he⟩ := mem_entries.mp hentry
        obtain ⟨hslot, hval⟩ := Prod.mk.inj he
        exact Or.inr ⟨f, hf, hslot.symm, hmeasured, hval.symm⟩
      · exact Or.inl hold
    · rintro hnone ⟨f, hf, hslot, hmeasured⟩
      have hnone : r.underway = [] := by
        rw [hy.underway, hnone]
        rfl
      obtain ⟨val, hval, htold⟩ := hsound.settled hnone
        (hy.told f hf _ (mem_entries.mpr ⟨hmeasured, rfl⟩))
      obtain ⟨g, hg, hentry⟩ := hy.written _ (hsound.written _ htold)
      obtain ⟨hgm, he⟩ := mem_entries.mp hentry
      obtain ⟨hgslot, rfl⟩ := Prod.mk.inj he
      refine ⟨g, hg, hgslot.symm.trans hslot, hgm, ?_⟩
      rw [hout, ← hslot]
      exact hval

end Mirror

/-- A sensor to which the server has subscribed. -/
def subscribedTo : Globals (UInt32 → Option (List UInt8)) :=
  { zejfInit askedSensor (fun _ => none) with
    routingTable := some { routingEntryCreate with deviceId := 1, subscribed := true } ::
      List.replicate 15 none
    routingTableTop := 1 }

lemma subscribedTo_serves :
    ServesData (.plain Settings.zejfPress [⟨2, 7⟩]) subscribedTo RefStore.empty :=
  ⟨[], [], [], [{ routingEntryCreate with deviceId := 1, subscribed := true }],
    Couples.initial _ rfl (fun _ => rfl),
    (zejfInit_queuesHold _ (fun _ => none)).congr rfl rfl rfl (fun _ _ => rfl), rfl, rfl, by decide⟩

lemma server_serves : ServesData (.plain Settings.zejfMeteo [])
    (zejfInit askingServer (fun _ => none)) RefStore.empty :=
  ⟨[], [], [], [], Couples.initial _ rfl (fun _ => rfl), NetworkHolds.initial _ _⟩

/-- The sensor measures 6. -/
def sixMeasured : DataOp := .log ⟨2, 7⟩ 10 0 0x40C00000 0 false

def sixQueued : Globals (UInt32 → Option (List UInt8)) :=
  leaves ((sixMeasured.run askedSensor).run subscribedTo)

/-- The server has the sample when its log has come in. -/
theorem sixMeasured_followed :
    ∃ y : Mirror (UInt32 → Option (List UInt8)) (UInt32 → Option (List UInt8)),
      Relation.ReflTransGen
        (Mirror.Step (FaithfulStorage.plain Settings.zejfPress [⟨2, 7⟩]) askingServer)
        ⟨subscribedTo, zejfInit askingServer (fun _ => none), [], [], []⟩ y ∧ y.underway = [] ∧
      ∃ out v, (dataGetVal askingServer ⟨2, 7⟩ 10 0 true false).run y.follower = .ok out v ∧
        measured out.2 = some 0x40C00000 := by
  have hrun : (sixMeasured.run askedSensor).run subscribedTo = .ok (.ok, none) sixQueued :=
    run_eq_of_outcome (by decide +kernel)
  obtain ⟨p, hp⟩ : ∃ p, newLogs subscribedTo sixQueued askingServer.deviceId = [p] :=
    List.length_eq_one_iff.mp (by decide +kernel)
  have htells : sixMeasured.Tells subscribedTo askingServer.deviceId := by decide +kernel
  have hcall := Mirror.Step.call (D := .plain Settings.zejfPress [⟨2, 7⟩]) (B := askingServer)
    (y := ⟨subscribedTo, zejfInit askingServer (fun _ => none), [], [], []⟩) sixMeasured hrun
  dsimp only at hcall
  rw [hp, if_pos htells] at hcall
  have hall := samples_followed (plain_understands _ _ _ _) (by decide) (by decide) (by decide)
    subscribedTo_serves server_serves (RefStore.Within.refl _) (.single hcall)
  obtain ⟨rv, t, harrive⟩ := hall.2.1 p (by simp) p rfl 0
  have hunderway : [p] = [] ++ p :: [] := rfl
  have hreach := Relation.ReflTransGen.tail (.single hcall)
    (Mirror.Step.arrive hunderway rfl 0 harrive)
  obtain ⟨out, v, hget, -, hsettled⟩ := (samples_followed (plain_understands _ _ _ _) (by decide)
    (by decide) (by decide) subscribedTo_serves server_serves (RefStore.Within.refl _)
    hreach).2.2 ⟨2, 7⟩ 10 0
  obtain ⟨f, hf, -, -, hval⟩ := hsettled rfl ⟨⟨⟨2, 7⟩, 10, 0, 0x40C00000⟩,
    List.mem_singleton_self _, rfl, by decide⟩
  refine ⟨_, hreach, rfl, out, v, hget, ?_⟩
  obtain rfl := List.mem_singleton.mp hf
  rw [hval]
  decide

end ZejfMeteo
