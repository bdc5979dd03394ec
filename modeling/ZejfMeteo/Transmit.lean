import ZejfMeteo.Forwarding

/-!
# The transmit step

One call of `network_send_tx` looks at the packet under the cursor `next_packet` and sends,
expands, keeps or drops it. `TxOutcome` says what each way out leaves of the queue.
-/

namespace ZejfMeteo
open Runs

variable {δ : Type}

/-! ### Broadcasts -/

/-- The copy of a broadcast for one entry of the table. -/
def broadcastCopy (T : Target δ) (p : Packet) (e : RoutingEntry) : Packet :=
  { ownPacket T e.deviceId p.command p.message with timeReceived := p.timeReceived }

section Broadcasts

variable {T : Target δ} {s : Globals δ} {tx rx : List Queued} {es fs : List RoutingEntry}
  {size : ℕ} {q : Queued}

lemma listIsFull_of_room (hs : s.QueuesHold tx rx) (h : tx.length < s.txQueue.capacity) :
    listIsFull s.txQueue = false := by
  rw [hs.txHolds.isFull, decide_eq_false_iff_not, List.length_map]
  omega

/-- A packet for a device of the table is queued if there is room. -/
lemma sendResult_entry (e : RoutingEntry) (h : e ∈ es) :
    sendResult T es false e.deviceId = if e.deviceId = T.deviceId then .itself else .ok := by
  have hfound : es.findIdx? (fun f => f.deviceId == e.deviceId) ≠ none := by
    intro hnone
    exact findIdx?_deviceId_none.mp hnone (List.mem_map_of_mem h)
  unfold sendResult
  by_cases hself : e.deviceId = T.deviceId
  · rw [if_pos hself, if_pos hself]
  · rw [if_neg hself, if_neg hself, if_neg (by tauto), if_neg Bool.false_ne_true]

/-- With enough room the expansion of a broadcast queues a copy for every other device of the
table. -/
lemma expandBroadcast_run (hs : s.QueuesHold tx rx) (ht : s.TableHolds size (es ++ fs))
    (hq : q ∈ tx) (hcommand : q.packet.command ≠ idRequest ∧ q.packet.command ≠ rip)
    (hroom : fs.length + tx.length ≤ s.txQueue.capacity) {fuel : ℕ} (hfuel : fs.length < fuel)
    (result : ZejfErr) :
    ∃ tq ps sent, (expandBroadcast T q.addr fuel es.length result).run s =
        .ok (if fs.all (fun e => e.deviceId != T.deviceId) then result else .partialSend)
          { s with txQueue := tq, packets := ps } ∧
      tq.capacity = s.txQueue.capacity ∧
      ({ s with txQueue := tq, packets := ps } : Globals δ).QueuesHold (tx ++ sent) rx ∧
      ps.next = s.packets.next + fs.length ∧
      (∀ b, ({ s with txQueue := tq, packets := ps } : Globals δ).Loose (tx ++ sent) rx b ↔
        s.Loose tx rx b) ∧
      (∀ r ∈ sent, s.packets.next ≤ r.addr) ∧ sent.map Queued.packet =
        (fs.filter (fun e => e.deviceId != T.deviceId)).map (broadcastCopy T q.packet) := by
  induction fs generalizing s es tx fuel result with
  | nil =>
    obtain ⟨fuel, rfl⟩ := Nat.exists_eq_succ_of_ne_zero (Nat.ne_zero_of_lt hfuel)
    have hlt : ¬es.length < s.routingTableTop := by
      rw [ht.top]
      simp
    have hnil : tx ++ [] = tx := List.append_nil tx
    refine ⟨s.txQueue, s.packets, [], ?_, rfl, ?_, rfl, ?_, by simp, rfl⟩
    · rw [expandBroadcast, run_bind_ok (EStateM.run_get s), if_neg hlt]
      rfl
    · rw [hnil]
      exact hs
    · rw [hnil]
      exact fun b => Iff.rfl
  | cons e fs ih =>
    obtain ⟨fuel, rfl⟩ := Nat.exists_eq_succ_of_ne_zero (Nat.ne_zero_of_lt hfuel)
    rw [List.length_cons] at hroom hfuel
    have hlt : es.length < s.routingTableTop := by
      rw [ht.top]
      simp
    have hrest : fs.length < fuel := by omega
    have happ : es ++ e :: fs = es ++ [e] ++ fs := by simp
    have hfree := listIsFull_of_room hs (by omega)
    obtain ⟨tq, ps, hsend, hcap, hs', hcount, hloose⟩ := send_own (T := T) hs ht e.deviceId
      hcommand.1 hcommand.2 q.packet.message q.packet.timeReceived
    rw [hfree, sendResult_entry e (by simp)] at hsend hs' hloose
    have hstep : (expandBroadcast T q.addr (fuel + 1) es.length result).run s =
        (expandBroadcast T q.addr fuel (es ++ [e]).length
          (if (if e.deviceId = T.deviceId then ZejfErr.itself else .ok) ≠ .ok then .partialSend
            else result)).run { s with txQueue := tq, packets := ps } := by
      have hprep := networkPreparePacket_run (T := T) (s := s) e.deviceId q.packet.command
        q.packet.message
      rw [run_bind_ok hprep] at hsend
      rw [expandBroadcast, run_bind_ok (EStateM.run_get s), if_pos hlt,
        run_bind_ok ht.tableEntry_run, run_bind_ok (readPacket_run (hs.cell hq)),
        run_bind_ok hprep, run_bind_ok hsend, List.length_append, List.length_singleton]
    have ht' : ({ s with txQueue := tq, packets := ps } : Globals δ).TableHolds size
        (es ++ [e] ++ fs) := happ ▸ ⟨ht.slots, ht.top, ht.bounded⟩
    rw [hstep]
    by_cases hself : e.deviceId = T.deviceId
    · rw [if_pos hself, if_neg (by decide)] at hs' hloose
      obtain ⟨tq', ps', sent, hrun, hcap', hs'', hcount', hloose', hnew, hmap⟩ := ih hs' ht' hq
        (by dsimp only; omega) hrest .partialSend
      refine ⟨tq', ps', sent, ?_, hcap'.trans hcap, hs'', ?_,
        fun b => (hloose' b).trans (hloose b), ?_, ?_⟩
      · rw [if_pos hself, if_pos (by decide), hrun]
        simp [hself]
      · rw [hcount', hcount, List.length_cons]
        omega
      · intro r hr
        have hlow := hnew r hr
        rw [hcount] at hlow
        omega
      · rw [hmap, List.filter_cons_of_neg (by simp [hself])]
    · rw [if_neg hself, if_pos rfl] at hs' hloose
      obtain ⟨tq', ps', sent, hrun, hcap', hs'', hcount', hloose', hnew, hmap⟩ := ih hs' ht'
        (List.mem_append_left _ hq) (by
          dsimp only
          rw [List.length_append, List.length_singleton]
          omega) hrest result
      rw [List.append_assoc, List.singleton_append] at hs'' hloose'
      refine ⟨tq', ps', _ :: sent, ?_, hcap'.trans hcap, hs'', ?_,
        fun b => (hloose' b).trans (hloose b), ?_, ?_⟩
      · rw [if_neg hself, if_neg (by decide), hrun]
        simp [hself]
      · rw [hcount', hcount, List.length_cons]
        omega
      · intro r hr
        rcases List.mem_cons.mp hr with rfl | hr
        · exact Nat.le_refl _
        · have hlow := hnew r hr
          rw [hcount] at hlow
          omega
      · rw [List.map_cons, hmap, List.filter_cons_of_pos (by simp [hself]), List.map_cons]
        rfl

end Broadcasts

/-! ### One step -/

/-- The cursor on the first packet of a view of the queue. -/
def nextNode (view : List Queued) : Option ℕ := view.head?.map Queued.node

/-- What an attempt leaves in a packet. -/
def Packet.attempted (p : Packet) (interface : Option ℕ) (time : UInt32) : Packet :=
  { { p with timeSent := time }.prepare with destinationInterface := interface }

/-- The bytes that are handed to the platform for a packet. -/
def Packet.wire (T : Target δ) (p : Packet) : List UInt8 :=
  (packetText p).take (T.packetMaxLength - 1)

/-- What the platform makes of an attempt over the interface of an entry. -/
def Answer (T : Target δ) (s : Globals δ) (time : UInt32) (e : RoutingEntry) (p : Packet)
    (rv : ZejfErr) (platform : δ) : Prop :=
  ∃ i, s.interfaceAt e.interface = some i ∧
    T.networkSendVia (p.wire T) i time s.platform = (rv, platform)

/-- What a step makes of the queue `xs ++ q :: ys` with the cursor on `q`: the way out, how
many packets were created, the new queue, the new cursor and the new platform. -/
inductive TxOutcome (T : Target δ) (s : Globals δ) (time : UInt32) (es : List RoutingEntry)
    (xs : List Queued) (q : Queued) (ys : List Queued) :
    TxExit → ℕ → List Queued → Option ℕ → δ → Prop
  | timeout (hold : T.packetDeleteTimeout ≤ (time - q.packet.timeReceived).toNat) :
    TxOutcome T s time es xs q ys (.timeout q.addr) 0 (xs ++ ys) (nextNode (ys ++ xs)) s.platform
  | expanded (sent : List Queued)
    (hfresh : ¬T.packetDeleteTimeout ≤ (time - q.packet.timeReceived).toNat)
    (hto : q.packet.toId = broadcast)
    (hroom : es.length + (xs ++ q :: ys).length ≤ s.txQueue.capacity)
    (hnew : ∀ r ∈ sent, s.packets.next ≤ r.addr)
    (hsent : sent.map Queued.packet =
      (es.filter (fun e => e.deviceId != T.deviceId)).map (broadcastCopy T q.packet)) :
    TxOutcome T s time es xs q ys
      (.broadcast q.addr (if es.all (fun e => e.deviceId != T.deviceId) then .ok else .partialSend))
      es.length (xs ++ ys ++ sent) (nextNode (ys ++ sent ++ xs)) s.platform
  | blocked (hfresh : ¬T.packetDeleteTimeout ≤ (time - q.packet.timeReceived).toNat)
    (hto : q.packet.toId = broadcast)
    (hroom : ¬es.length + (xs ++ q :: ys).length ≤ s.txQueue.capacity) :
    TxOutcome T s time es xs q ys (.broadcast q.addr .queueFull) 0 (xs ++ q :: ys)
      (nextNode (ys ++ xs ++ [q])) s.platform
  | noRoute (hfresh : ¬T.packetDeleteTimeout ≤ (time - q.packet.timeReceived).toNat)
    (hto : q.packet.toId ≠ broadcast)
    (hnone : q.packet.toId ∉ es.map RoutingEntry.deviceId) :
    TxOutcome T s time es xs q ys (.noRoute q.addr) 0 (xs ++ ys) (nextNode (ys ++ xs)) s.platform
  | unable (e : RoutingEntry) (platform : δ)
    (hfresh : ¬T.packetDeleteTimeout ≤ (time - q.packet.timeReceived).toNat)
    (hto : q.packet.toId ≠ broadcast) (he : es.find? (fun e => e.deviceId == q.packet.toId) = some e)
    (hanswer : Answer T s time e q.packet .sendUnable platform) :
    TxOutcome T s time es xs q ys (.attempt q.addr .sendUnable) 0
      (xs ++ { q with packet := q.packet.attempted e.interface time } :: ys)
      (nextNode (ys ++ xs ++ [q])) platform
  | attempted (e : RoutingEntry) (rv : ZejfErr) (platform : δ)
    (hfresh : ¬T.packetDeleteTimeout ≤ (time - q.packet.timeReceived).toNat)
    (hto : q.packet.toId ≠ broadcast) (he : es.find? (fun e => e.deviceId == q.packet.toId) = some e)
    (hanswer : Answer T s time e q.packet rv platform) (hrv : rv ≠ .sendUnable) :
    TxOutcome T s time es xs q ys (.attempt q.addr rv) 0 (xs ++ ys) (nextNode (ys ++ xs)) platform

section Step

variable {T : Target δ} {s : Globals δ} {xs ys tx rx : List Queued} {es : List RoutingEntry}
  {q : Queued} {p : Packet} {a : ℕ}

/-- The packet under the cursor. -/
lemma exists_cursor (h : s.QueuesHold tx rx) (hne : tx ≠ []) :
    ∃ xs q ys, tx = xs ++ q :: ys ∧
      (s.nextPacket = some q.node ∨ s.nextPacket = none ∧ xs = []) := by
  cases hnext : s.nextPacket with
  | none =>
    cases tx with
    | nil => exact absurd rfl hne
    | cons q ys => exact ⟨[], q, ys, rfl, Or.inr ⟨rfl, rfl⟩⟩
  | some node =>
    obtain ⟨q, hq, rfl⟩ := List.mem_map.mp (h.next node hnext)
    obtain ⟨xs, ys, rfl⟩ := List.append_of_mem hq
    exact ⟨xs, q, ys, rfl, Or.inl rfl⟩

lemma networkSendTx_empty (h : s.QueuesHold [] rx) (time : UInt32) :
    (networkSendTx T time).run s = .ok .empty s := by
  have hempty : listIsEmpty s.txQueue = true := by
    simp [listIsEmpty, h.txHolds.count]
  unfold networkSendTx
  rw [run_bind_ok (EStateM.run_get s), if_pos hempty]
  rfl

/-- The step sets the cursor if it is NULL and deals with the packet under it. -/
lemma networkSendTx_cursor (h : s.QueuesHold (xs ++ q :: ys) rx)
    (hcursor : s.nextPacket = some q.node ∨ s.nextPacket = none ∧ xs = []) (time : UInt32) :
    (networkSendTx T time).run s =
      (transmitPacket T q.node time).run { s with nextPacket := some q.node } := by
  have hempty : listIsEmpty s.txQueue = false := by
    simp [listIsEmpty, h.txHolds.count]
  unfold networkSendTx
  rw [run_bind_ok (EStateM.run_get s), if_neg (by simp [hempty])]
  rcases hcursor with hnext | ⟨hnext, rfl⟩
  · have hs : ({ s with nextPacket := some q.node } : Globals δ) = s := by rw [← hnext]
    rw [if_neg (by simp [hnext]), run_bind_ok (EStateM.run_get s), hs]
    simp only [hnext]
  · have htail : s.txQueue.tail = some q.node := h.txHolds.tail
    rw [if_pos hnext, run_bind_ok (EStateM.run_modify _ _), run_bind_ok (EStateM.run_get _)]
    simp only [htail]

lemma nextOne_run (h : s.QueuesHold (xs ++ q :: ys) rx) :
    (nextOne q.node).run s = .ok () { s with nextPacket := nextNode (ys ++ xs ++ [q]) } := by
  unfold nextOne
  rw [run_bind_ok h.node_run, EStateM.run_modify]
  have hfirst : some (Ring.firstAddr ((ys ++ xs).map Queued.ref) q.node) =
      nextNode (ys ++ xs ++ [q]) := by
    unfold nextNode
    cases ys ++ xs <;> rfl
  rw [hfirst]

/-- The cursor leaves a node that is removed. -/
lemma nextAfterRemoval_self (h : s.QueuesHold (xs ++ q :: ys) rx) :
    nextAfterRemoval (some q.node) q.node (Ring.firstAddr ((ys ++ xs).map Queued.ref) q.node) =
      nextNode (ys ++ xs) := by
  unfold nextAfterRemoval nextNode
  rw [if_pos rfl]
  cases hview : ys ++ xs with
  | nil => exact if_pos rfl
  | cons r view =>
    have hr : r ∈ xs ++ ys := by
      have hmem : r ∈ ys ++ xs := by simp [hview]
      simpa [or_comm] using hmem
    exact if_neg (h.node_ne hr)

lemma prepareAndSend_run (hp : s.packets.cells a = some p) {d : Option ℕ} {i : Interface}
    (hi : s.interfaceAt d = some i) (time : UInt32) :
    ∃ ps, (prepareAndSend T a d time).run s = .ok
        (T.networkSendVia (p.wire T) i time s.platform).1
        { s with packets := ps, platform := (T.networkSendVia (p.wire T) i time s.platform).2 } ∧
      ps.next = s.packets.next ∧
      ps.cells a = some { p.prepare with destinationInterface := d } ∧
      ∀ b, b ≠ a → ps.cells b = s.packets.cells b := by
  have hset := updatePacket_run
    (s := { s with packets := s.packets.modify a (fun _ => p.prepare) }) (a := a)
    (fun p => { p with destinationInterface := d }) (by simp [hp])
  have hvia := networkSendVia_run (T := T) (s := { s with
    packets := (s.packets.modify a (fun _ => p.prepare)).modify a
      (fun p => { p with destinationInterface := d }) }) (p.wire T) hi time
  refine ⟨(s.packets.modify a (fun _ => p.prepare)).modify a
    (fun p => { p with destinationInterface := d }), ?_, rfl, ?_, ?_⟩
  · unfold prepareAndSend
    rw [run_bind_ok (packetToBuffer_run hp)]
    dsimp only
    rw [if_neg (by simp), run_bind_ok hset]
    exact hvia
  · simp [Heap.modify_cells, hp]
  · intro b hb
    simp [Heap.modify_cells, hb]

/-- A queued packet may be changed in place. -/
lemma Globals.QueuesHold.setPacket (h : s.QueuesHold (xs ++ q :: ys) rx) {ps : Heap Packet}
    (hq : ps.cells q.addr = some p) (hps : ∀ b, b ≠ q.addr → ps.cells b = s.packets.cells b) :
    ({ s with packets := ps } : Globals δ).QueuesHold (xs ++ { q with packet := p } :: ys) rx where
  txHolds := by
    have htx := h.txHolds
    rw [List.map_append, List.map_cons] at htx ⊢
    exact htx
  rxHolds := h.rxHolds
  live r hr := by
    obtain ⟨hnew, -⟩ := h.addr_split
    simp only [List.append_assoc, List.cons_append, List.mem_append, List.mem_cons] at hr
    by_cases hrq : r = { q with packet := p }
    · rw [hrq]
      exact hq
    · have hother : r ∈ xs ++ ys ++ rx := by
        simp only [List.mem_append]
        tauto
      have hne : r.addr ≠ q.addr := by
        intro he
        exact hnew (he ▸ List.mem_map_of_mem hother)
      have hold : r ∈ xs ++ q :: ys ++ rx := by
        simp only [List.mem_append, List.mem_cons] at hother ⊢
        tauto
      exact (hps _ hne).trans (h.live r hold)
  distinct := by
    have hd := h.distinct
    simp only [List.map_append, List.map_cons] at hd ⊢
    exact hd
  next := by
    have hn := h.next
    simp only [List.map_append, List.map_cons] at hn ⊢
    exact hn

/-- From a node with one transmit queue to a node with another one, over the same table. -/
structure Moved (T : Target δ) (s s' : Globals δ) (tx rx tx' : List Queued)
    (es : List RoutingEntry) (n : ℕ) : Prop where
  holds : NodeHolds T s' tx' rx es
  frame : s.NetworkOnly s'
  links : T.getAllInterfaces s'.platform = T.getAllInterfaces s.platform
  created : s'.packets.next = s.packets.next + n
  loose : ∀ b, s'.Loose tx' rx b ↔ s.Loose tx rx b

lemma Moved.trans {s₁ s₂ : Globals δ} {tx₁ tx₂ : List Queued} {n m : ℕ}
    (h : Moved T s s₁ tx rx tx₁ es n) (h' : Moved T s₁ s₂ tx₁ rx tx₂ es m) :
    Moved T s s₂ tx rx tx₂ es (n + m) where
  holds := h'.holds
  frame := h.frame.trans h'.frame
  links := h'.links.trans h.links
  created := by
    rw [h'.created, h.created]
    omega
  loose b := (h'.loose b).trans (h.loose b)

/-- The cursor may be set to any node of the queue. -/
lemma NodeHolds.setCursor (h : NodeHolds T s tx rx es) {cursor : Option ℕ}
    (hcursor : ∀ a ∈ cursor, a ∈ tx.map Queued.node) :
    Moved T s { s with nextPacket := cursor } tx rx tx es 0 where
  holds := h.congr ⟨h.network.queues.txHolds, h.network.queues.rxHolds, h.network.queues.live,
    h.network.queues.distinct, hcursor⟩ ⟨rfl, rfl, rfl, rfl, rfl, fun _ => rfl⟩ rfl rfl rfl
    h.ordinary
  frame := ⟨rfl, rfl, rfl, rfl, rfl, fun _ => rfl⟩
  links := rfl
  created := rfl
  loose _ := Iff.rfl

lemma nextNode_mem {view : List Queued} (hview : ∀ r ∈ view, r ∈ tx) :
    ∀ a ∈ nextNode view, a ∈ tx.map Queued.node := by
  intro a ha
  unfold nextNode at ha
  obtain ⟨r, hr, rfl⟩ := Option.map_eq_some_iff.mp ha
  exact List.mem_map_of_mem (hview r (List.mem_of_mem_head? hr))

lemma nextOne_moved (h : NodeHolds T s (xs ++ q :: ys) rx es) :
    ∃ s', (nextOne q.node).run s = .ok () s' ∧ s'.nextPacket = nextNode (ys ++ xs ++ [q]) ∧
      s'.platform = s.platform ∧ Moved T s s' (xs ++ q :: ys) rx (xs ++ q :: ys) es 0 := by
  refine ⟨_, nextOne_run h.network.queues, rfl, rfl, h.setCursor (nextNode_mem ?_)⟩
  intro r hr
  simp only [List.mem_append, List.mem_cons] at hr ⊢
  tauto

lemma packetRemove_moved (h : NodeHolds T s (xs ++ q :: ys) rx es)
    (hnext : s.nextPacket = some q.node) :
    ∃ s', (packetRemove q.node).run s = .ok () s' ∧ s'.nextPacket = nextNode (ys ++ xs) ∧
      s'.platform = s.platform ∧ Moved T s s' (xs ++ q :: ys) rx (xs ++ ys) es 0 := by
  obtain ⟨tq, hrun, hq, hcap⟩ := packetRemove_run h.network.queues
  have hcursor := nextAfterRemoval_self h.network.queues
  rw [← hnext] at hcursor
  rw [hcursor] at hrun hq
  refine ⟨_, hrun, rfl, rfl, ?_, ⟨rfl, rfl, rfl, hcap, rfl, fun _ => rfl⟩, rfl, rfl, ?_⟩
  · refine h.congr hq ⟨rfl, rfl, rfl, hcap, rfl, fun _ => rfl⟩ rfl rfl rfl ?_
    intro r hr
    apply h.ordinary
    simp only [List.mem_append, List.mem_cons] at hr ⊢
    tauto
  · intro b
    unfold Globals.Loose
    rw [Heap.erase_cells]
    by_cases hb : b = q.addr
    · simp [hb]
    · simp [hb]

/-- An attempt changes the packet in place and tells the platform. -/
lemma attempt_moved (hT : T.Steady) (h : NodeHolds T s (xs ++ q :: ys) rx es) {e : RoutingEntry}
    {i : Interface} (hi : s.interfaceAt e.interface = some i) (time : UInt32) :
    ∃ s', (do
        updatePacket q.addr (fun p => { p with timeSent := time })
        prepareAndSend T q.addr e.interface time).run s =
        .ok (T.networkSendVia (q.packet.wire T) i time s.platform).1 s' ∧
      s'.nextPacket = s.nextPacket ∧
      s'.platform = (T.networkSendVia (q.packet.wire T) i time s.platform).2 ∧
      Moved T s s' (xs ++ q :: ys) rx
        (xs ++ { q with packet := q.packet.attempted e.interface time } :: ys) es 0 := by
  have hcell := h.network.queues.cell (q := q) (by simp)
  have hset := updatePacket_run (s := s) (a := q.addr) (fun p => { p with timeSent := time })
    (by rw [hcell]; rfl)
  have hp : ({ s with
      packets := s.packets.modify q.addr (fun p => { p with timeSent := time }) } :
      Globals δ).packets.cells q.addr = some { q.packet with timeSent := time } := by
    simp [Heap.modify_cells, hcell]
  have hwire : Packet.wire T { q.packet with timeSent := time } = q.packet.wire T := by
    cases hm : q.packet.message <;>
      simp [Packet.wire, packetText, Packet.prepare, hm, packetPieces, packetHeader,
        packetChecksum]
  obtain ⟨ps, hrun, hnext, hq, hps⟩ := prepareAndSend_run (T := T) hp hi time
  rw [hwire] at hrun
  have hcells : ∀ b, b ≠ q.addr → ps.cells b = s.packets.cells b := by
    intro b hb
    rw [hps b hb, Heap.modify_cells, if_neg hb]
  have hqueues := h.network.queues.setPacket hq hcells
  have hattempted : ∀ r ∈ xs ++ { q with packet := q.packet.attempted e.interface time } :: ys ++ rx,
      r.packet.command ≠ idRequest ∧ r.packet.command ≠ rip := by
    intro r hr
    have hcommand : (q.packet.attempted e.interface time).command = q.packet.command :=
      (prepare_fields { q.packet with timeSent := time }).2.2.1
    simp only [List.mem_append, List.mem_cons] at hr
    rcases hr with (hr | rfl | hr) | hr
    · exact h.ordinary r (by simp [hr])
    · rw [hcommand]
      exact h.ordinary q (by simp)
    · exact h.ordinary r (by simp [hr])
    · exact h.ordinary r (by simp [hr])
  refine ⟨_, (run_bind_ok hset).trans hrun, rfl, rfl, ?_, ⟨rfl, rfl, rfl, rfl, rfl, fun _ => rfl⟩,
    hT.sendVia _ _ _ _, hnext, ?_⟩
  · refine h.congr ?_ ⟨rfl, rfl, rfl, rfl, rfl, fun _ => rfl⟩ rfl rfl (hT.sendVia _ _ _ _)
      hattempted
    exact ⟨hqueues.txHolds, hqueues.rxHolds, hqueues.live, hqueues.distinct, hqueues.next⟩
  · intro b
    unfold Globals.Loose
    have hsome : (ps.cells b).isSome = (s.packets.cells b).isSome := by
      by_cases hb : b = q.addr
      · rw [hb, hq, hcell]
        rfl
      · rw [hcells b hb]
    dsimp only
    rw [hsome]
    simp

/-- The entry is read in between, and what comes after finds what the attempt has left. -/
lemma attempt_then {β : Type} {pre post : List RoutingEntry} {e : RoutingEntry} {rv : ZejfErr}
    {s' : Globals δ} {time : UInt32} (h : NodeHolds T s tx rx (pre ++ e :: post)) (hq : q ∈ tx)
    (hattempt : (do
      updatePacket q.addr (fun p => { p with timeSent := time })
      prepareAndSend T q.addr e.interface time).run s = .ok rv s')
    (k : ZejfErr → Run (Globals δ) β) : (do
      updatePacket q.addr (fun p => { p with timeSent := time })
      let entry ← tableEntry pre.length
      let rv ← prepareAndSend T q.addr entry.interface time
      k rv).run s = (k rv).run s' := by
  have htable : ∀ ps, (tableEntry pre.length).run { s with packets := ps } =
      .ok e { s with packets := ps } := by
    intro ps
    have ht : ({ s with packets := ps } : Globals δ).TableHolds T.routingTableSize
        (pre ++ e :: post) :=
      h.network.table.congr rfl rfl
    exact ht.tableEntry_run
  have hset := updatePacket_run (s := s) (a := q.addr) (fun p => { p with timeSent := time })
    (by rw [h.network.queues.live q (List.mem_append_left _ hq)]; rfl)
  rw [run_bind_ok hset] at hattempt ⊢
  rw [run_bind_ok (htable _), run_bind_ok hattempt]

/-- A broadcast is expanded if the copies for all entries fit in beside it. -/
lemma processBroadcastPacket_moved (h : NodeHolds T s tx rx es) (hq : q ∈ tx)
    (hroom : es.length + tx.length ≤ s.txQueue.capacity) :
    ∃ s' sent, (processBroadcastPacket T q.addr).run s =
        .ok (if es.all (fun e => e.deviceId != T.deviceId) then .ok else .partialSend) s' ∧
      s'.nextPacket = s.nextPacket ∧ s'.platform = s.platform ∧
      Moved T s s' tx rx (tx ++ sent) es es.length ∧
      (∀ r ∈ sent, s.packets.next ≤ r.addr) ∧ sent.map Queued.packet =
        (es.filter (fun e => e.deviceId != T.deviceId)).map (broadcastCopy T q.packet) := by
  have ht : s.TableHolds T.routingTableSize ([] ++ es) := h.network.table
  have hcommand := h.ordinary q (List.mem_append_left _ hq)
  have hsize := h.network.table.bounded
  obtain ⟨tq, ps, sent, hrun, hcap, hs', hnext, hloose, hnew, hmap⟩ := expandBroadcast_run
    h.network.queues ht hq hcommand hroom (Nat.lt_succ_of_le hsize) .ok
  have hcount : s.txQueue.itemCount = tx.length := by
    rw [h.network.queues.txHolds.count, List.length_map]
  have hfits : s.routingTableTop ≤ s.txQueue.capacity - s.txQueue.itemCount := by
    rw [h.network.table.top, hcount]
    omega
  refine ⟨{ s with txQueue := tq, packets := ps }, sent, ?_, rfl, rfl,
    ⟨?_, ⟨rfl, rfl, rfl, hcap, rfl, fun _ => rfl⟩, rfl, hnext, hloose⟩, hnew, hmap⟩
  · unfold processBroadcastPacket
    rw [run_bind_ok (EStateM.run_get s), if_pos hfits]
    exact hrun
  · refine h.congr hs' ⟨rfl, rfl, rfl, hcap, rfl, fun _ => rfl⟩ rfl rfl rfl ?_
    intro r hr
    simp only [List.mem_append] at hr
    rcases hr with (hr | hr) | hr
    · exact h.ordinary r (List.mem_append_left _ hr)
    · have hm := List.mem_map_of_mem (f := Queued.packet) hr
      rw [hmap] at hm
      obtain ⟨e, -, he⟩ := List.mem_map.mp hm
      rw [← he]
      exact hcommand
    · exact h.ordinary r (List.mem_append_right _ hr)

lemma processBroadcastPacket_full (h : NodeHolds T s tx rx es)
    (hroom : ¬es.length + tx.length ≤ s.txQueue.capacity) (packet : ℕ) :
    (processBroadcastPacket T packet).run s = .ok .queueFull s := by
  have hcount : s.txQueue.itemCount = tx.length := by
    rw [h.network.queues.txHolds.count, List.length_map]
  have hbound := h.network.queues.txHolds.bounded
  rw [List.length_map] at hbound
  have hfits : ¬s.routingTableTop ≤ s.txQueue.capacity - s.txQueue.itemCount := by
    rw [h.network.table.top, hcount]
    omega
  unfold processBroadcastPacket
  rw [run_bind_ok (EStateM.run_get s), if_neg hfits]
  rfl

/-- **What one transmit step does.** -/
theorem networkSendTx_outcome (hT : T.Steady) (h : NodeHolds T s (xs ++ q :: ys) rx es)
    (hcursor : s.nextPacket = some q.node ∨ s.nextPacket = none ∧ xs = []) (time : UInt32) :
    ∃ exit n tx' s', (networkSendTx T time).run s = .ok exit s' ∧
      TxOutcome T s time es xs q ys exit n tx' s'.nextPacket s'.platform ∧
      Moved T s s' (xs ++ q :: ys) rx tx' es n := by
  have hset : Moved T s { s with nextPacket := some q.node } (xs ++ q :: ys) rx
      (xs ++ q :: ys) es 0 := by
    apply h.setCursor
    intro a ha
    rw [← Option.some.inj ha]
    simp
  rw [networkSendTx_cursor h.network.queues hcursor time]
  -- From here on the cursor is on the packet.
  generalize hs₀ : ({ s with nextPacket := some q.node } : Globals δ) = s₀ at hset
  have hnext : s₀.nextPacket = some q.node := by rw [← hs₀]
  have hcreated : s₀.packets.next = s.packets.next := by rw [← hs₀]
  have hcap : s₀.txQueue.capacity = s.txQueue.capacity := by rw [← hs₀]
  have hat : ∀ e : RoutingEntry, s₀.interfaceAt e.interface = s.interfaceAt e.interface := by
    intro e
    rw [← hs₀]
    rfl
  have hplatform : s₀.platform = s.platform := by rw [← hs₀]
  have h₀ := hset.holds
  have hread := readPacket_run (h₀.network.queues.cell (q := q) (by simp))
  obtain ⟨s₁, hremove, hnext₁, hplat₁, hremoved⟩ := packetRemove_moved h₀ hnext
  unfold transmitPacket
  rw [run_bind_ok h₀.network.queues.node_run]
  dsimp only
  rw [run_bind_ok hread]
  by_cases hold : T.packetDeleteTimeout ≤ (time - q.packet.timeReceived).toNat
  · rw [if_pos hold, run_bind_ok hremove]
    refine ⟨_, 0, xs ++ ys, s₁, rfl, ?_, hset.trans hremoved⟩
    rw [hnext₁, hplat₁, hplatform]
    exact .timeout hold
  rw [if_neg hold]
  by_cases hto : q.packet.toId = broadcast
  · rw [if_pos hto]
    by_cases hroom : es.length + (xs ++ q :: ys).length ≤ s.txQueue.capacity
    · obtain ⟨s₂, sent, hexpand, hnext₂, hplat₂, hexpanded, hnew, hmap⟩ :=
        processBroadcastPacket_moved h₀ (q := q) (by simp) (hcap ▸ hroom)
      have hsplit : xs ++ q :: ys ++ sent = xs ++ q :: (ys ++ sent) := by simp
      rw [hsplit] at hexpanded
      obtain ⟨s₃, hremove₃, hnext₃, hplat₃, hremoved₃⟩ := packetRemove_moved hexpanded.holds
        (hnext₂.trans hnext)
      have hkeep : ¬((if es.all (fun e => e.deviceId != T.deviceId) then ZejfErr.ok
          else .partialSend) ≠ .ok ∧
          (if es.all (fun e => e.deviceId != T.deviceId) then ZejfErr.ok else .partialSend) ≠
            .partialSend) := by
        split <;> simp
      rw [run_bind_ok hexpand, if_neg hkeep, run_bind_ok hremove₃]
      have hmoved := (hset.trans hexpanded).trans hremoved₃
      rw [← List.append_assoc, Nat.zero_add, Nat.add_zero] at hmoved
      refine ⟨_, es.length, xs ++ ys ++ sent, s₃, rfl, ?_, hmoved⟩
      rw [hnext₃, hplat₃, hplat₂, hplatform]
      exact .expanded sent hold hto hroom (hcreated ▸ hnew) hmap
    · have hfull := processBroadcastPacket_full h₀ (hcap ▸ hroom) q.addr
      obtain ⟨s₂, hone, hnext₂, hplat₂, hmoved⟩ := nextOne_moved h₀
      rw [run_bind_ok hfull, if_pos (by decide), run_bind_ok hone]
      refine ⟨_, 0, xs ++ q :: ys, s₂, rfl, ?_, hset.trans hmoved⟩
      rw [hnext₂, hplat₂, hplatform]
      exact .blocked hold hto hroom
  rw [if_neg hto, run_bind_ok (routingEntryFind_run h₀.network.table q.packet.toId)]
  cases hfind : es.findIdx? (fun e => e.deviceId == q.packet.toId) with
  | none =>
    dsimp only
    rw [run_bind_ok hremove]
    refine ⟨_, 0, xs ++ ys, s₁, rfl, ?_, hset.trans hremoved⟩
    rw [hnext₁, hplat₁, hplatform]
    exact .noRoute hold hto (findIdx?_deviceId_none.mp hfind)
  | some index =>
    obtain ⟨hlt, hid, hbefore⟩ := List.findIdx?_eq_some_iff_getElem.mp hfind
    have hfirst : es.find? (fun e => e.deviceId == q.packet.toId) = some es[index] :=
      List.find?_eq_some_iff_getElem.mpr ⟨hid, index, hlt, rfl, by simpa using hbefore⟩
    obtain ⟨pre, e, post, rfl, rfl, hfound⟩ : ∃ pre e post, es = pre ++ e :: post ∧
        index = pre.length ∧ es.find? (fun e => e.deviceId == q.packet.toId) = some e :=
      ⟨es.take index, es[index], es.drop (index + 1), by simp, by simp; omega, hfirst⟩
    have he : e ∈ pre ++ e :: post := by simp
    obtain ⟨i, hi⟩ := Option.isSome_iff_exists.mp (h₀.routes e he)
    obtain ⟨s₂, hattempt, hnext₂, hplat₂, hattempted⟩ := attempt_moved hT h₀ hi time
    have hanswer : Answer T s time e q.packet
        (T.networkSendVia (q.packet.wire T) i time s₀.platform).1 s₂.platform :=
      ⟨i, (hat e).symm.trans hi, by rw [hplat₂, hplatform]⟩
    generalize (T.networkSendVia (q.packet.wire T) i time s₀.platform).1 = rv at hattempt hanswer
    dsimp only
    rw [attempt_then h₀ (by simp) hattempt]
    by_cases hrv : rv = .sendUnable
    · subst hrv
      obtain ⟨s₃, hone, hnext₃, hplat₃, hkept⟩ := nextOne_moved hattempted.holds
      rw [if_pos rfl]
      refine ⟨_, 0, _, s₃, run_bind_ok hone, ?_, (hset.trans hattempted).trans hkept⟩
      have hview : nextNode (ys ++ xs ++
          [{ q with packet := q.packet.attempted e.interface time }]) =
          nextNode (ys ++ xs ++ [q]) := by
        unfold nextNode
        cases ys ++ xs <;> rfl
      rw [hnext₃, hview, hplat₃]
      exact .unable e _ hold hto hfound hanswer
    · obtain ⟨s₃, hremove₃, hnext₃, hplat₃, hremoved₃⟩ := packetRemove_moved hattempted.holds
        (hnext₂.trans hnext)
      rw [if_neg hrv]
      refine ⟨_, 0, xs ++ ys, s₃, run_bind_ok hremove₃, ?_, (hset.trans hattempted).trans hremoved₃⟩
      rw [hnext₃, hplat₃]
      exact .attempted e rv _ hold hto hfound hanswer hrv

end Step

end ZejfMeteo
