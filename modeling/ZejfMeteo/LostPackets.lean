import ZejfMeteo.TransmitRuns

/-!
# How packets leave the transmit queue

Every error of `network_send_via` but `ZEJF_ERR_SEND_UNABLE` takes a packet out of the
queue, and a copy of a broadcast times out with the broadcast. Broadcasts are expanded into
one packet for each device, as long as no device has the address of all.
-/

namespace ZejfMeteo
open Runs

variable {δ : Type} (T : Target δ)

def NetOp.time : NetOp → UInt32
  | .accept _ _ time => time
  | .send _ time => time
  | .transmit time => time
  | .check time => time

/-- A packet entered the queue in an operation of the trace, at the time of this operation. -/
def EnteredAt (s : Globals δ) (tr : List (NetOp × NetResult)) (packet : ℕ) (since : UInt32) :
    Prop :=
  ∃ pre op r post t u, tr = pre ++ (op, r) :: post ∧ Trace (NetOp.run T) s pre t ∧
    (op.run T).run t = .ok r u ∧ packet ∉ t.txPackets.map Queued.addr ∧
    packet ∈ u.txPackets.map Queued.addr ∧ op.time = since

/-- A packet has been queued for `PACKET_DELETE_TIMEOUT`. -/
def QueuedLong (s : Globals δ) (tr : List (NetOp × NetResult)) (packet : ℕ) (now : UInt32) :
    Prop :=
  ∃ since, EnteredAt T s tr packet since ∧ T.packetDeleteTimeout ≤ (now - since).toNat

/-- A packet for one device leaves the queue only when it is delivered, after the timeout or
if there is no route to the device. -/
def LeavesRightly (s : Globals δ) (tr : List (NetOp × NetResult)) (t : Globals δ) (op : NetOp)
    (r : NetResult) : Prop :=
  ∀ u, (op.run T).run t = .ok r u → ∀ q ∈ t.txPackets, q.packet.toId ≠ broadcast →
    q.addr ∉ u.txPackets.map Queued.addr →
      r = .exit (.attempt q.addr .ok) ∨ QueuedLong T s tr q.addr op.time ∨
        q.packet.toId ∉ t.routes.map RoutingEntry.deviceId

/-- The interface that packets for a device leave over. -/
def Globals.link (s : Globals δ) (toId : UInt16) : Option Interface :=
  (s.routes.find? (fun e => e.deviceId == toId)).bind (fun e => s.interfaceAt e.interface)

/-- What `network_send_via` answers to an attempt to send a packet; there is no answer
without a route. -/
def Globals.answer (s : Globals δ) (p : Packet) (time : UInt32) : Option ZejfErr :=
  (s.link p.toId).map (fun i => (T.networkSendVia (p.wire T) i time s.platform).1)

/-- The packet under the cursor is not too old by its `time_received` and is sent or kept,
or it has been queued for long. -/
def SendsOrKeeps (s : Globals δ) (tr : List (NetOp × NetResult)) (t : Globals δ) (op : NetOp)
    (_ : NetResult) : Prop :=
  ∀ time q rv, op = .transmit time → t.view.head? = some q → q.packet.toId ≠ broadcast →
    t.answer T q.packet time = some rv →
      QueuedLong T s tr q.addr time ∨
        ¬T.packetDeleteTimeout ≤ (time - q.packet.timeReceived).toNat ∧
          (rv = .ok ∨ rv = .sendUnable)

section Leaving

variable {T} {s t u : Globals δ} {tr : List (NetOp × NetResult)} {op : NetOp} {r : NetResult}
  {xs ys tx' : List Queued} {q : Queued} {time : UInt32} {exit : TxExit} {n : ℕ}
  {cursor : Option ℕ} {p : Packet} {platform : δ}

/-- An attempt goes over the link of the destination. -/
lemma Answer.link {e : RoutingEntry} {rv : ZejfErr}
    (he : t.routes.find? (fun e => e.deviceId == p.toId) = some e)
    (hanswer : Answer T t time e p rv platform) : ∃ i, t.link p.toId = some i ∧
      T.networkSendVia (p.wire T) i time t.platform = (rv, platform) := by
  obtain ⟨i, hi, hrv⟩ := hanswer
  refine ⟨i, ?_, hrv⟩
  unfold Globals.link
  rw [he]
  exact hi

lemma answer_eq {e : RoutingEntry} {rv : ZejfErr}
    (he : t.routes.find? (fun e => e.deviceId == p.toId) = some e)
    (hanswer : Answer T t time e p rv platform) : t.answer T p time = some rv := by
  obtain ⟨i, hi, hrv⟩ := hanswer.link he
  unfold Globals.answer
  rw [hi, Option.map_some, hrv]

lemma link_isSome_iff (ht : t.InOrder T) {toId : UInt16} :
    (t.link toId).isSome ↔ toId ∈ t.routes.map RoutingEntry.deviceId := by
  unfold Globals.link
  cases he : t.routes.find? (fun e => e.deviceId == toId) with
  | none =>
    rw [List.find?_eq_none] at he
    refine iff_of_false (by simp) ?_
    intro hm
    obtain ⟨e, hmem, hid⟩ := List.mem_map.mp hm
    exact he e hmem (by simp [hid])
  | some e =>
    have hmem := List.mem_of_find?_eq_some he
    have hid := List.find?_some he
    exact iff_of_true (ht.routes e hmem) (List.mem_map.mpr ⟨e, hmem, by simpa using hid⟩)

/-- There is an answer exactly if there is a route. -/
lemma answer_isSome_iff (ht : t.InOrder T) (time : UInt32) :
    (t.answer T p time).isSome ↔ p.toId ∈ t.routes.map RoutingEntry.deviceId := by
  unfold Globals.answer
  rw [Option.isSome_map, link_isSome_iff ht]

/-- Packets that are not under the cursor stay. -/
lemma TxOutcome.others_stay {es : List RoutingEntry}
    (h : TxOutcome T t time es xs q ys exit n tx' cursor platform) :
    ∀ c ∈ xs ++ ys, c.addr ∈ tx'.map Queued.addr := by
  intro c hc
  apply List.mem_map_of_mem
  cases h <;> simp only [List.mem_append, List.mem_cons] at hc ⊢ <;> tauto

/-- What becomes of the packet under the cursor. -/
lemma TxOutcome.leaves_iff (ht : t.InOrder T)
    (h : TxOutcome T t time t.routes xs q ys exit n tx' cursor platform)
    (hnodup : ((xs ++ q :: ys).map Queued.addr).Nodup) (hto : q.packet.toId ≠ broadcast)
    (long : Prop) :
    (q.addr ∉ tx'.map Queued.addr → NetResult.exit exit = .exit (.attempt q.addr .ok) ∨ long ∨
        q.packet.toId ∉ t.routes.map RoutingEntry.deviceId) ↔
      ∀ rv, t.answer T q.packet time = some rv → long ∨
        ¬T.packetDeleteTimeout ≤ (time - q.packet.timeReceived).toNat ∧
          (rv = .ok ∨ rv = .sendUnable) := by
  have hgone : q.addr ∉ (xs ++ ys).map Queued.addr := by
    rw [List.map_append, List.map_cons, List.nodup_middle, List.nodup_cons,
      ← List.map_append] at hnodup
    exact hnodup.1
  cases h with
  | timeout hold =>
    constructor
    · intro hleave rv hrv
      rcases hleave hgone with hsent | hlong | hnone
      · cases hsent
      · exact Or.inl hlong
      · rw [← answer_isSome_iff ht time, hrv] at hnone
        exact absurd rfl hnone
    · intro hkeep _
      by_cases hroute : q.packet.toId ∈ t.routes.map RoutingEntry.deviceId
      · obtain ⟨rv, hrv⟩ := Option.isSome_iff_exists.mp
          ((answer_isSome_iff ht time).mpr hroute)
        exact Or.inr (Or.inl ((hkeep rv hrv).resolve_right (fun hnot => hnot.1 hold)))
      · exact Or.inr (Or.inr hroute)
  | expanded sent hfresh hto' => exact absurd hto' hto
  | blocked hfresh hto' => exact absurd hto' hto
  | noRoute hfresh hto' hnone =>
    refine iff_of_true (fun _ => Or.inr (Or.inr hnone)) ?_
    intro rv hrv
    rw [← answer_isSome_iff ht time, hrv] at hnone
    exact absurd rfl hnone
  | unable e platform hfresh hto' he hanswer =>
    refine iff_of_true (fun hnot => absurd (by simp) hnot) ?_
    intro rv hrv
    obtain rfl := Option.some.inj (hrv.symm.trans (answer_eq he hanswer))
    exact Or.inr ⟨hfresh, Or.inr rfl⟩
  | attempted e rv platform hfresh hto' he hanswer hrv =>
    have hsome := answer_eq he hanswer
    have hroute := (answer_isSome_iff (p := q.packet) ht time).mp (by rw [hsome]; rfl)
    constructor
    · intro hleave rv' hrv'
      obtain rfl := Option.some.inj (hrv'.symm.trans hsome)
      rcases hleave hgone with hsent | hlong | hnone
      · cases hsent
        exact Or.inr ⟨hfresh, Or.inl rfl⟩
      · exact Or.inl hlong
      · exact absurd hroute hnone
    · intro hkeep _
      rcases hkeep rv hsome with hlong | ⟨-, rfl | hunable⟩
      · exact Or.inr (Or.inl hlong)
      · exact Or.inl rfl
      · exact absurd hunable hrv

lemma NetStep.leavesRightly (h : NetStep T t op r u) (ht : t.InOrder T)
    (hrun : (op.run T).run t = .ok r u) :
    LeavesRightly T s tr t op r ↔ SendsOrKeeps T s tr t op r := by
  have hresult : LeavesRightly T s tr t op r ↔ ∀ q ∈ t.txPackets, q.packet.toId ≠ broadcast →
      q.addr ∉ u.txPackets.map Queued.addr →
        r = .exit (.attempt q.addr .ok) ∨ QueuedLong T s tr q.addr op.time ∨
          q.packet.toId ∉ t.routes.map RoutingEntry.deviceId := by
    constructor
    · intro hall
      exact hall u hrun
    · intro hall u' hrun'
      obtain ⟨-, rfl⟩ := EStateM.Result.ok.inj (hrun.symm.trans hrun')
      exact hall
  rw [hresult]
  by_cases hop : op.transmits = false
  · -- Nothing leaves.
    obtain ⟨-, -, htx⟩ := h.keeps hop
    refine iff_of_true ?_ ?_
    · intro q hq _ hgone
      refine absurd (List.mem_map_of_mem ?_) hgone
      rcases htx with hsame | ⟨c, hmore, -⟩
      · rw [hsame]
        exact hq
      · rw [hmore]
        exact List.mem_append_left _ hq
    · rintro time q rv rfl
      cases hop
  obtain ⟨time, rfl⟩ := NetOp.eq_transmit (Bool.eq_true_of_not_eq_false hop)
  cases h with
  | refused msg interface _ hop' => cases hop'
  | handled fate hop' => cases hop'
  | idle htx =>
    have hperm := Globals.InOrder.view_perm t
    rw [htx] at hperm ⊢
    refine iff_of_true ?_ ?_
    · intro q hq
      cases hq
    · intro time q rv _ hq
      rw [hperm.eq_nil] at hq
      cases hq
  | transmitted time xs c ys n htx hcursor hout hrx hroutes hcreated =>
    have hnodup := ht.addrs_nodup
    rw [htx] at hnodup
    have hview := ht.view_cursor htx hcursor
    have hhead : t.view.head? = some c := by
      rw [hview]
      rfl
    constructor
    · intro hall time' q rv htime hq hto
      obtain rfl := NetOp.transmit.inj htime
      obtain rfl := Option.some.inj (hhead.symm.trans hq)
      exact (hout.leaves_iff ht hnodup hto _).mp (hall c (by rw [htx]; simp) hto) rv
    · intro hkeep q hq hto hgone
      have hqc : q = c := by
        by_contra hne
        apply hgone
        apply hout.others_stay
        rw [htx] at hq
        simp only [List.mem_append, List.mem_cons] at hq ⊢
        tauto
      obtain rfl := hqc
      exact (hout.leaves_iff ht hnodup hto _).mpr
        (fun rv hrv => hkeep time q rv rfl hhead hto hrv) hgone

/-- **A failed send loses no packet** exactly as long as every answer is a success or
`ZEJF_ERR_SEND_UNABLE` and no copy of a broadcast is too old before its time. -/
theorem leavesRightly_iff_sendsOrKeeps (hT : T.Steady) (hs : s.InOrder T)
    (htrace : Trace (NetOp.run T) s tr t) (hallowed : ∀ x ∈ tr, x.1.Allowed T s) :
    Throughout (NetOp.run T) s (LeavesRightly T s) tr ↔
      Throughout (NetOp.run T) s (SendsOrKeeps T s) tr := by
  refine Throughout.congr (J := fun _ => s.Running T) htrace hallowed
    (Globals.Running.start hs) ?_
  intro tr t op r u hop ht hrun
  obtain ⟨hstep, -, hu⟩ := ht.step hT hop hrun
  exact ⟨hu, hstep.leavesRightly ht.inOrder hrun⟩

end Leaving

/-- A server whose `write` fails. -/
def brokenServer : Target Unit :=
  { bareServer with networkSendVia := fun _ _ _ p => (.io, p) }

/-- The packet is sent as soon as it has been queued. -/
def lostAtOnce : List (NetOp × NetResult) :=
  [(heardOver 0 0, .returned .ok), (.send letter 0, .returned .ok)] ++
    [(.transmit 0, .exit (.attempt 1 .io))]

def brokenRoute : Globals Unit := leaves (((heardOver 0 0).run brokenServer).run twoLinks)

def brokenLetter : Globals Unit :=
  leaves (((NetOp.send letter 0).run brokenServer).run brokenRoute)

def brokenSending : Globals Unit :=
  leaves (((NetOp.transmit 0).run brokenServer).run brokenLetter)

lemma brokenLetter_trace : Trace (NetOp.run brokenServer) twoLinks
    [(heardOver 0 0, .returned .ok), (.send letter 0, .returned .ok)] brokenLetter := by
  have hheard : ((heardOver 0 0).run brokenServer).run twoLinks =
      .ok (.returned .ok) brokenRoute := rfl
  have hsend : ((NetOp.send letter 0).run brokenServer).run brokenRoute =
      .ok (.returned .ok) brokenLetter := rfl
  exact (Trace.nil.snoc hheard).snoc hsend

lemma brokenSending_run : ((NetOp.transmit 0).run brokenServer).run brokenLetter =
    .ok (.exit (.attempt 1 .io)) brokenSending := rfl

lemma letter_allowed {T : Target Unit} (hT : T.deviceId = 1) (time : UInt32) :
    (NetOp.send letter time).Allowed T twoLinks := by
  refine ⟨?_, fun h => absurd h (by decide), fun _ h => absurd hT.symm h⟩
  intro a ha
  cases ha

/-- The error of a failed `write` loses the packet. -/
theorem lostAtOnce_not_leavesRightly :
    Trace (NetOp.run brokenServer) twoLinks lostAtOnce brokenSending ∧
      (∀ x ∈ lostAtOnce, x.1.Allowed brokenServer twoLinks) ∧
      ¬Throughout (NetOp.run brokenServer) twoLinks (LeavesRightly brokenServer twoLinks)
        lostAtOnce := by
  refine ⟨brokenLetter_trace.snoc brokenSending_run, ?_, ?_⟩
  · intro x hx
    simp only [lostAtOnce, List.mem_append, List.mem_cons, List.not_mem_nil, or_false] at hx
    rcases hx with (rfl | rfl) | rfl
    · rfl
    · exact letter_allowed rfl 0
    · trivial
  · intro hall
    have hlast := ((Throughout.snoc_iff brokenLetter_trace _ _).mp hall).2
    have hqueued : brokenLetter.txPackets.map (fun q => (q.addr, q.packet.toId)) = [(1, 5)] := rfl
    have hgone : brokenSending.txPackets.map Queued.addr = [] := rfl
    have hroute : brokenLetter.routes.map RoutingEntry.deviceId = [5] := rfl
    obtain ⟨q, hq, hfields⟩ := List.mem_map.mp (hqueued ▸ List.mem_singleton_self (1, (5 : UInt16)))
    obtain ⟨haddr, hto⟩ := Prod.mk.inj hfields
    have hleaves := hlast brokenSending brokenSending_run q hq (by rw [hto]; decide)
      (by rw [hgone]; simp)
    rw [haddr, hto, hroute] at hleaves
    rcases hleaves with hsent | ⟨since, hentered, hlong⟩ | hnone
    · cases hsent
    · -- Both operations before had the clock at 0.
      obtain ⟨pre, op, r, post, t, u, htr, -, -, -, -, rfl⟩ := hentered
      have hmem : (op, r) ∈ [(heardOver 0 0, NetResult.returned .ok),
          (.send letter 0, .returned .ok)] := by
        rw [htr]
        simp
      simp only [List.mem_cons, List.not_mem_nil, or_false] at hmem
      rcases hmem with h | h
      · cases h
        exact absurd hlong (by decide)
      · cases h
        exact absurd hlong (by decide)
    · simp at hnone

/-- What is under the cursor is not too old, and its link takes it or cannot send now. -/
def takenInTime (t : Globals Unit) : NetOp → Bool
  | .transmit time => t.view.head?.all fun q =>
    (t.answer busyServer q.packet time).all fun rv =>
      !(busyServer.packetDeleteTimeout ≤ (time - q.packet.timeReceived).toNat) &&
        (rv == .ok || rv == .sendUnable)
  | _ => true

/-- Both packets are kept until their links take them. -/
theorem twoLetters_leavesRightly :
    Throughout (NetOp.run busyServer) twoLinks (LeavesRightly busyServer twoLinks)
      (replay (NetOp.run busyServer) twoLetters twoLinks) := by
  refine (leavesRightly_iff_sendsOrKeeps busyServer_steady twoLinks_inOrder_busy twoLetters_trace
    twoLetters_allowed).mpr ?_
  refine (Throughout.of_meetsAll (p := takenInTime) (by decide +kernel)).imp ?_
  rintro _ t op _ hmet time q rv rfl hq - hrv
  simp only [takenInTime, hq, hrv, Option.all_some] at hmet
  exact .inr (by simpa using hmet)

end ZejfMeteo
