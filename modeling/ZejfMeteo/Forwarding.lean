import ZejfMeteo.RouteUpdates
import ZejfMeteo.FreeIds

/-!
# Packets that come in and go out

A received line becomes a packet, a packet that is accepted or prepared passes
`networkSendPacket`, and `network_send_tx` deals with one packet of the transmit queue at a
time. What `networkSendPacket` makes of a packet is its `Fate`.
-/

namespace ZejfMeteo
open Runs

variable {δ : Type} (T : Target δ)

/-! ### The code -/

/-- Every packet from outside passes this function. -/
def networkAccept (msg : List UInt8) (length interface : ℕ) (time : UInt32) :
    Run (Globals δ) ZejfErr := do
  let packet ← zoom Globals.packetsLens (Heap.alloc packetCreate)
  match packetFromString (← readPacket packet) msg length with
  | .error e => throw e
  | .ok (rv, p) =>
    updatePacket packet (fun _ => p)
    if rv ≠ .ok then
      packetDestroy packet
      return rv
    let p := { p with sourceInterface := some interface, ttl := p.ttl + 1 }
    updatePacket packet (fun _ => p)
    if T.packetMaxTtl ≤ p.ttl.toNat then
      packetDestroy packet
      return .ttl
    networkSendPacket T packet time

def prepareAndSend (packet : ℕ) (destinationInterface : Option ℕ) (time : UInt32) :
    Run (Globals δ) ZejfErr := do
  let (rv, buff) ← packetToBuffer T packet
  if rv ≠ .ok then
    return .sendUnable
  updatePacket packet (fun p => { p with destinationInterface })
  networkSendVia T buff destinationInterface time

/-- The loop of `process_broadcast_packet`. -/
def expandBroadcast (packet : ℕ) : ℕ → ℕ → ZejfErr → Run (Globals δ) ZejfErr
  | 0, _, _ => throw .outOfFuel
  | fuel + 1, i, result => do
    if i < (← get).routingTableTop then
      let entry ← tableEntry i
      let p ← readPacket packet
      let newPacket ← networkPreparePacket T entry.deviceId p.command p.message
      let rv ← networkSendPacket T newPacket p.timeReceived
      expandBroadcast packet fuel (i + 1) (if rv ≠ .ok then .partialSend else result)
    else
      return result

def processBroadcastPacket (packet : ℕ) : Run (Globals δ) ZejfErr := do
  let s ← get
  if s.routingTableTop ≤ s.txQueue.capacity - s.txQueue.itemCount then
    expandBroadcast T packet (T.routingTableSize + 1) 0 .ok
  else
    return .queueFull

/-- The ways out of `network_send_tx`, with the packet that it dealt with. An attempt has
the answer of `network_send_via`. -/
inductive TxExit
  | empty
  | timeout (packet : ℕ)
  | broadcast (packet : ℕ) (rv : ZejfErr)
  | noRoute (packet : ℕ)
  | attempt (packet : ℕ) (rv : ZejfErr)
deriving DecidableEq

/-- The label `next_one`. -/
def nextOne (node : ℕ) : Run (Globals δ) Unit := do
  let c ← zoom Globals.txQueueLens (LinkedList.node node)
  modify fun s => { s with nextPacket := some c.next }

/-- Deals with the packet of a node of the transmit queue; no queue ever holds a NULL
packet. -/
def transmitPacket (node : ℕ) (time : UInt32) : Run (Globals δ) TxExit := do
  let packet := (← zoom Globals.txQueueLens (LinkedList.node node)).item
  let p ← readPacket packet
  if T.packetDeleteTimeout ≤ (time - p.timeReceived).toNat then
    packetRemove node
    return .timeout packet
  if p.toId = broadcast then
    let rv ← processBroadcastPacket T packet
    if rv ≠ .ok ∧ rv ≠ .partialSend then
      nextOne node
      return .broadcast packet rv
    packetRemove node
    return .broadcast packet rv
  match ← routingEntryFind p.toId with
  | none =>
    packetRemove node
    return .noRoute packet
  | some index =>
    updatePacket packet (fun p => { p with timeSent := time })
    let rv ← prepareAndSend T packet (← tableEntry index).interface time
    if rv = .sendUnable then
      nextOne node
      return .attempt packet rv
    packetRemove node
    return .attempt packet rv

/-- The source returns nothing. -/
def networkSendTx (time : UInt32) : Run (Globals δ) TxExit := do
  let s ← get
  if listIsEmpty s.txQueue then
    return .empty
  if s.nextPacket = none then
    modify fun s => { s with nextPacket := s.txQueue.tail }
  match (← get).nextPacket with
  | none => throw .nullPointer
  | some node => transmitPacket T node time

/-- `network_send_routing_info`: the announcement of the device itself. -/
def networkSendRoutingInfo (time : UInt32) : Run (Globals δ) ZejfErr := do
  let packet ← networkPreparePacket T 0 rip none
  updatePacket packet (fun p => { p with flags := 1 })
  let result ← networkSendEverywhere T packet time
  packetDestroy packet
  return result

/-! ### The fate of a packet -/

/-- The branches of `networkSendPacket`. -/
inductive Fate
  | itself
  | noSuchDevice
  | idRequest
  | rip
  | full
  | ownerless
  | queued
deriving DecidableEq

def Packet.fate (es : List RoutingEntry) (txFull rxFull : Bool) (p : Packet) : Fate :=
  if p.fromId = T.deviceId ∧ p.toId = T.deviceId then .itself
  else if p.fromId = T.deviceId ∧ p.toId ≠ broadcast ∧
    es.findIdx? (fun e => e.deviceId == p.toId) = none then .noSuchDevice
  else if p.command = idRequest then .idRequest
  else if p.command = rip then .rip
  else if (if p.toId = T.deviceId then rxFull else txFull) = true then .full
  else if p.fromId ≠ T.deviceId ∧ p.sourceInterface = none then .ownerless
  else .queued

/-- The table after a packet. -/
def routesAfter (es : List RoutingEntry) (p : Packet) (time : UInt32) : Fate → List RoutingEntry
  | .rip => (updateRoutes T es p.fromId p.sourceInterface p.ttl time).2
  | _ => es

/-- The transmit queue after a packet. -/
def Globals.txAfter (s : Globals δ) (a : ℕ) (p : Packet) (time : UInt32) (fate : Fate)
    (tx : List Queued) : List Queued :=
  if fate = .queued ∧ p.toId ≠ T.deviceId then
    tx ++ [⟨s.txQueue.nodes.next, a, { p with timeReceived := time, timeSent := 0 }⟩]
  else tx

/-- The receive queue after a packet. -/
def Globals.rxAfter (s : Globals δ) (a : ℕ) (p : Packet) (time : UInt32) (fate : Fate)
    (rx : List Queued) : List Queued :=
  if fate = .queued ∧ p.toId = T.deviceId then
    rx ++ [⟨s.rxQueue.nodes.next, a, { p with timeReceived := time, timeSent := 0 }⟩]
  else rx

/-! ### What a node holds -/

/-- Not every id can be taken, and sending does not change what interfaces there are. -/
structure Target.Steady : Prop where
  tableSize : T.routingTableSize < 64536
  sendVia : ∀ msg i time p,
    T.getAllInterfaces (T.networkSendVia msg i time p).2 = T.getAllInterfaces p

/-- The queues and the table are in order, every interface that is in use is live, and no
request for an id and no announcement is queued. -/
structure NodeHolds (s : Globals δ) (tx rx : List Queued) (es : List RoutingEntry) : Prop where
  network : NetworkHolds T s tx rx es
  routes : ∀ e ∈ es, (s.interfaceAt e.interface).isSome
  links : ∀ a ∈ T.getAllInterfaces s.platform, (s.interfaces.cells a).isSome
  ordinary : ∀ q ∈ tx ++ rx, q.packet.command ≠ idRequest ∧ q.packet.command ≠ rip

/-- Only the network's part of the state is different, and no interface came or went. -/
structure Globals.NetworkOnly (s s' : Globals δ) : Prop where
  dataQueue : s'.dataQueue = s.dataQueue
  dataRequestsQueue : s'.dataRequestsQueue = s.dataRequestsQueue
  requests : s'.requests = s.requests
  txCapacity : s'.txQueue.capacity = s.txQueue.capacity
  rxCapacity : s'.rxQueue.capacity = s.rxQueue.capacity
  interfaces : ∀ a, (s'.interfaces.cells a).isSome = (s.interfaces.cells a).isSome

/-- A packet that may be handed to `networkSendPacket`: its interface is live, and it has
one if it is a request for an id or an announcement of another device. -/
structure Globals.Sendable (s : Globals δ) (p : Packet) : Prop where
  live : ∀ a, p.sourceInterface = some a → (s.interfaces.cells a).isSome
  idRequest : p.command = idRequest → p.sourceInterface.isSome
  rip : p.command = rip → p.fromId ≠ T.deviceId → p.sourceInterface.isSome

section Frames

variable {T} {s s' t : Globals δ} {tx rx tx' rx' : List Queued} {es es' : List RoutingEntry} {a : ℕ}
  {p : Packet}

lemma interfaceAt_isSome_iff {p : Option ℕ} :
    (s.interfaceAt p).isSome ↔ ∃ a, p = some a ∧ (s.interfaces.cells a).isSome := by
  cases p with
  | none => simp [Globals.interfaceAt]
  | some a => simp [Globals.interfaceAt]

lemma Globals.NetworkOnly.refl (s : Globals δ) : s.NetworkOnly s :=
  ⟨rfl, rfl, rfl, rfl, rfl, fun _ => rfl⟩

lemma Globals.NetworkOnly.trans (h : s.NetworkOnly s') (h' : s'.NetworkOnly t) :
    s.NetworkOnly t where
  dataQueue := h'.dataQueue.trans h.dataQueue
  dataRequestsQueue := h'.dataRequestsQueue.trans h.dataRequestsQueue
  requests := h'.requests.trans h.requests
  txCapacity := h'.txCapacity.trans h.txCapacity
  rxCapacity := h'.rxCapacity.trans h.rxCapacity
  interfaces a := (h'.interfaces a).trans (h.interfaces a)

lemma Globals.NetworkOnly.interfaceAt (h : s.NetworkOnly s') (p : Option ℕ) :
    (s'.interfaceAt p).isSome ↔ (s.interfaceAt p).isSome := by
  rw [interfaceAt_isSome_iff, interfaceAt_isSome_iff]
  simp only [h.interfaces]

/-- Other queues over the same table and the same interfaces. -/
lemma NodeHolds.congr (h : NodeHolds T s tx rx es) (hq : s'.QueuesHold tx' rx')
    (hframe : s.NetworkOnly s') (htable : s'.routingTable = s.routingTable)
    (htop : s'.routingTableTop = s.routingTableTop)
    (hlinks : T.getAllInterfaces s'.platform = T.getAllInterfaces s.platform)
    (hordinary : ∀ q ∈ tx' ++ rx', q.packet.command ≠ idRequest ∧ q.packet.command ≠ rip) :
    NodeHolds T s' tx' rx' es where
  network := ⟨hq, htable.trans h.network.table.slots, htop.trans h.network.table.top,
    h.network.table.bounded⟩
  routes e he := (hframe.interfaceAt e.interface).mpr (h.routes e he)
  links b hb := by
    rw [hlinks] at hb
    rw [hframe.interfaces]
    exact h.links b hb
  ordinary := hordinary

lemma notMem_addr_ne {b : ℕ} (hb : b ∉ (tx ++ rx).map Queued.addr) :
    ∀ q ∈ tx ++ rx, q.addr ≠ b := by
  rintro q hq rfl
  exact hb (List.mem_map_of_mem hq)

/-- A packet that is in no queue may be changed or destroyed. -/
lemma NodeHolds.setPackets (h : NodeHolds T s tx rx es) {ps : Heap Packet}
    (ha : a ∉ (tx ++ rx).map Queued.addr) (hps : ∀ b, b ≠ a → ps.cells b = s.packets.cells b) :
    NodeHolds T { s with packets := ps } tx rx es := by
  have hframe : s.NetworkOnly { s with packets := ps } := ⟨rfl, rfl, rfl, rfl, rfl, fun _ => rfl⟩
  refine h.congr ?_ hframe rfl rfl rfl h.ordinary
  exact h.network.queues.congr rfl rfl rfl (fun q hq => hps _ (notMem_addr_ne ha q hq))

lemma Globals.QueuesHold.pushTx (h : s.QueuesHold tx rx) (hp : s.packets.cells a = some p)
    (ha : a ∉ (tx ++ rx).map Queued.addr) {tq : LinkedList ℕ} {node : ℕ}
    (hq : tq.Holds (tx.map Queued.ref ++ [(node, a)])) :
    ({ s with txQueue := tq } : Globals δ).QueuesHold (tx ++ [⟨node, a, p⟩]) rx where
  txHolds := by
    rw [List.map_append]
    exact hq
  rxHolds := h.rxHolds
  live q hm := by
    have hcase : q ∈ tx ++ rx ∨ q = ⟨node, a, p⟩ := by
      simp only [List.mem_append, List.mem_singleton] at hm ⊢
      tauto
    rcases hcase with hold | rfl
    · exact h.live q hold
    · exact hp
  distinct := by
    have hperm : ((tx ++ [(⟨node, a, p⟩ : Queued)] ++ rx).map Queued.addr).Perm
        (a :: (tx ++ rx).map Queued.addr) := by
      simp only [List.append_assoc, List.singleton_append, List.map_append, List.map_cons]
      exact List.perm_middle
    exact hperm.nodup_iff.mpr (List.nodup_cons.mpr ⟨ha, h.distinct⟩)
  next b hb := by
    have hm := h.next b hb
    simp [hm]

lemma Globals.QueuesHold.pushRx (h : s.QueuesHold tx rx) (hp : s.packets.cells a = some p)
    (ha : a ∉ (tx ++ rx).map Queued.addr) {rq : LinkedList ℕ} {node : ℕ}
    (hq : rq.Holds (rx.map Queued.ref ++ [(node, a)])) :
    ({ s with rxQueue := rq } : Globals δ).QueuesHold tx (rx ++ [⟨node, a, p⟩]) where
  txHolds := h.txHolds
  rxHolds := by
    rw [List.map_append]
    exact hq
  live q hm := by
    have hcase : q ∈ tx ++ rx ∨ q = ⟨node, a, p⟩ := by
      simp only [List.mem_append, List.mem_singleton] at hm ⊢
      tauto
    rcases hcase with hold | rfl
    · exact h.live q hold
    · exact hp
  distinct := by
    have hperm : ((tx ++ (rx ++ [(⟨node, a, p⟩ : Queued)])).map Queued.addr).Perm
        (a :: (tx ++ rx).map Queued.addr) := by
      rw [← List.append_assoc, List.map_append]
      exact List.perm_append_singleton _ _
    exact hperm.nodup_iff.mpr (List.nodup_cons.mpr ⟨ha, h.distinct⟩)
  next := h.next

end Frames

section Links

variable {T} {s : Globals δ} {tx rx : List Queued} {es : List RoutingEntry} {a : ℕ} {p : Packet}

lemma networkSendVia_run (msg : List UInt8) {interface : Option ℕ} {i : Interface}
    (h : s.interfaceAt interface = some i) (time : UInt32) :
    (networkSendVia T msg interface time).run s =
      .ok (T.networkSendVia msg i time s.platform).1
        { s with platform := (T.networkSendVia msg i time s.platform).2 } := by
  unfold networkSendVia
  rw [run_bind_ok (readInterface_run h), Globals.platformCall_run]

/-- Writing a packet never fails; its newlines are coded in place. -/
lemma packetToBuffer_run (h : s.packets.cells a = some p) :
    (packetToBuffer T a).run s =
      .ok (.ok, (packetText p).take (T.packetMaxLength - 1))
        { s with packets := s.packets.modify a (fun _ => p.prepare) } := by
  have hpos := packetText_pos p
  have hlive : (s.packets.cells a).isSome := by
    rw [h]
    rfl
  unfold packetText at hpos
  unfold packetToBuffer
  rw [run_bind_ok (readPacket_run h)]
  unfold packetToString
  dsimp only
  rw [run_bind_ok (updatePacket_run (fun _ => p.prepare) hlive), if_pos hpos]
  rfl

/-- What the platform has been told after a text was sent to some interfaces, except those
with the uid of the source. -/
def floodLinks (T : Target δ) (is : Heap Interface) (source : Option ℤ) (buff : List UInt8)
    (time : UInt32) (as : List ℕ) (platform : δ) : δ :=
  as.foldl (fun platform a =>
    match is.cells a with
    | none => platform
    | some i =>
      if some i.uid = source then platform
      else (T.networkSendVia buff i time platform).2) platform

/-- One round of the loop skips the interface that the packet came from. -/
lemma sendEverywhere_cons (hp : s.packets.cells a = some p)
    (hsource : ∀ b, p.sourceInterface = some b → (s.interfaces.cells b).isSome)
    (buff : List UInt8) (time : UInt32) {b : ℕ} {i : Interface}
    (hi : s.interfaceAt (some b) = some i) (as : List ℕ) (result : ZejfErr) :
    (sendEverywhere T a buff time (b :: as) result).run s =
      (if some i.uid = (s.interfaceAt p.sourceInterface).map Interface.uid then
        sendEverywhere T a buff time as result
      else do
        let res ← networkSendVia T buff (some b) time
        sendEverywhere T a buff time as (if res ≠ .ok then .partialSend else result)).run s := by
  rw [sendEverywhere, run_bind_ok (readPacket_run hp), run_bind_ok (readInterface_run hi)]
  cases hsrc : p.sourceInterface with
  | none => simp [Globals.interfaceAt]
  | some c =>
    obtain ⟨j, hj⟩ := Option.isSome_iff_exists.mp (hsource c hsrc)
    have hjc : s.interfaceAt (some c) = some j := hj
    dsimp only
    rw [run_bind_ok (readInterface_run hjc), hjc]
    simp

lemma sendEverywhere_run (hp : s.packets.cells a = some p)
    (hsource : ∀ b, p.sourceInterface = some b → (s.interfaces.cells b).isSome)
    (buff : List UInt8) (time : UInt32) {as : List ℕ}
    (has : ∀ b ∈ as, (s.interfaces.cells b).isSome) (result : ZejfErr) :
    ∃ rv, (sendEverywhere T a buff time as result).run s = .ok rv { s with
      platform := floodLinks T s.interfaces
        ((s.interfaceAt p.sourceInterface).map Interface.uid) buff time as s.platform } := by
  induction as generalizing s result with
  | nil => exact ⟨result, rfl⟩
  | cons b as ih =>
    obtain ⟨i, hi⟩ := Option.isSome_iff_exists.mp (has b (by simp))
    have hib : s.interfaceAt (some b) = some i := hi
    have hrest : ∀ c ∈ as, (s.interfaces.cells c).isSome :=
      fun c hc => has c (List.mem_cons_of_mem _ hc)
    rw [sendEverywhere_cons hp hsource buff time hib]
    unfold floodLinks
    rw [List.foldl_cons, hi]
    dsimp only
    by_cases hback : some i.uid = (s.interfaceAt p.sourceInterface).map Interface.uid
    · rw [if_pos hback, if_pos hback]
      exact ih hp hsource hrest result
    · rw [if_neg hback, if_neg hback]
      obtain ⟨rv, hrun⟩ := ih
        (s := { s with platform := (T.networkSendVia buff i time s.platform).2 }) hp hsource hrest
        (if (T.networkSendVia buff i time s.platform).1 ≠ .ok then .partialSend else result)
      refine ⟨rv, ?_⟩
      rw [run_bind_ok (networkSendVia_run buff hib time)]
      exact hrun

lemma floodLinks_links (hT : T.Steady) (is : Heap Interface) (source : Option ℤ)
    (buff : List UInt8) (time : UInt32) (as : List ℕ) (platform : δ) :
    T.getAllInterfaces (floodLinks T is source buff time as platform) =
      T.getAllInterfaces platform := by
  unfold floodLinks
  induction as generalizing platform with
  | nil => rfl
  | cons b as ih =>
    rw [List.foldl_cons, ih]
    cases is.cells b with
    | none => rfl
    | some i =>
      dsimp only
      split
      · rfl
      · exact hT.sendVia _ _ _ _

lemma prepare_interfaces (p : Packet) : p.prepare.sourceInterface = p.sourceInterface ∧
    p.prepare.destinationInterface = p.destinationInterface := by
  unfold Packet.prepare
  split <;> exact ⟨rfl, rfl⟩

lemma networkSendEverywhere_run (hp : s.packets.cells a = some p)
    (hsource : ∀ b, p.sourceInterface = some b → (s.interfaces.cells b).isSome)
    (hlinks : ∀ b ∈ T.getAllInterfaces s.platform, (s.interfaces.cells b).isSome)
    (time : UInt32) :
    ∃ rv, (networkSendEverywhere T a time).run s = .ok rv { s with
      packets := s.packets.modify a (fun _ => p.prepare)
      platform := floodLinks T s.interfaces
        ((s.interfaceAt p.sourceInterface).map Interface.uid)
        ((packetText p).take (T.packetMaxLength - 1)) time (T.getAllInterfaces s.platform)
        s.platform } := by
  have hprep : ({ s with packets := s.packets.modify a (fun _ => p.prepare) } :
      Globals δ).packets.cells a = some p.prepare := by
    simp [Heap.modify_cells, hp]
  have hsrc := (prepare_interfaces p).1
  rw [← hsrc] at hsource
  obtain ⟨rv, hrun⟩ := sendEverywhere_run (T := T) hprep hsource
    ((packetText p).take (T.packetMaxLength - 1)) time hlinks .ok
  refine ⟨rv, ?_⟩
  unfold networkSendEverywhere
  rw [run_bind_ok (packetToBuffer_run hp), ← hsrc]
  exact hrun

/-- The packet that announces the device. -/
def announcement (T : Target δ) : Packet := { ownPacket T 0 rip none with flags := 1 }

/-- The announcement goes out over all interfaces and leaves nothing behind. -/
lemma networkSendRoutingInfo_run
    (hlinks : ∀ b ∈ T.getAllInterfaces s.platform, (s.interfaces.cells b).isSome)
    (time : UInt32) :
    ∃ rv ps, (networkSendRoutingInfo T time).run s = .ok rv { s with
        packets := ps
        platform := floodLinks T s.interfaces none
          ((packetText (announcement T)).take (T.packetMaxLength - 1)) time
          (T.getAllInterfaces s.platform) s.platform } ∧
      ∀ b, ps.cells b = s.packets.cells b := by
  have hflag := updatePacket_run (s := { s with
    packets := s.packets.push (ownPacket T 0 rip none) }) (a := s.packets.next)
    (fun p => { p with flags := 1 }) (by simp)
  have hp : ((s.packets.push (ownPacket T 0 rip none)).modify s.packets.next
      (fun p => { p with flags := 1 })).cells s.packets.next = some (announcement T) := by
    simp [Heap.modify_cells, Heap.push_cells, announcement]
  obtain ⟨rv, hflood⟩ := networkSendEverywhere_run (T := T) (s := { s with
    packets := (s.packets.push (ownPacket T 0 rip none)).modify s.packets.next
      (fun p => { p with flags := 1 }) }) hp (fun b hb => by cases hb) hlinks time
  refine ⟨rv, (((s.packets.push (ownPacket T 0 rip none)).modify s.packets.next
    (fun p => { p with flags := 1 })).modify s.packets.next
    (fun _ => (announcement T).prepare)).erase s.packets.next, ?_, ?_⟩
  · unfold networkSendRoutingInfo
    rw [run_bind_ok (networkPreparePacket_run 0 rip none), run_bind_ok hflag,
      run_bind_ok hflood, run_bind_ok (packetDestroy_run (by simp))]
    rfl
  · intro b
    by_cases hb : b = s.packets.next
    · rw [Heap.erase_cells, if_pos hb, hb, s.packets.next_free]
    · rw [Heap.erase_cells, if_neg hb, Heap.modify_cells, if_neg hb, Heap.modify_cells,
        if_neg hb, Heap.push_cells, if_neg hb]

lemma routes_live (hroutes : ∀ e ∈ es, (s.interfaceAt e.interface).isSome)
    (hsend : s.Sendable T p) (hrip : p.command = rip) (time : UInt32) :
    ∀ e ∈ (updateRoutes T es p.fromId p.sourceInterface p.ttl time).2,
      (s.interfaceAt e.interface).isSome := by
  intro e he
  rcases updateRoutes_interface he with ⟨hself, hi⟩ | ⟨f, hf, hi⟩
  · obtain ⟨b, hb⟩ := Option.isSome_iff_exists.mp (hsend.rip hrip hself)
    rw [hi]
    exact interfaceAt_isSome_iff.mpr ⟨b, hb, hsend.live b hb⟩
  · rw [← hi]
    exact hroutes f hf

/-- An announcement updates the table, and it is passed on if that changed a route or
confirmed it. -/
lemma processRipPacket_run (ht : s.TableHolds T.routingTableSize es)
    (hlinks : ∀ b ∈ T.getAllInterfaces s.platform, (s.interfaces.cells b).isSome)
    (hp : s.packets.cells a = some p) (hsend : s.Sendable T p) (hrip : p.command = rip)
    (time : UInt32) :
    ∃ rv ps table top is, (processRipPacket T a time).run s = .ok rv { s with
        packets := ps
        routingTable := table
        routingTableTop := top
        interfaces := is
        platform := if (updateRoutes T es p.fromId p.sourceInterface p.ttl time).1 = .ok ∧
            p.flags ≠ 0 then
          floodLinks T is ((s.interfaceAt p.sourceInterface).map Interface.uid)
            ((packetText p).take (T.packetMaxLength - 1)) time (T.getAllInterfaces s.platform)
            s.platform
          else s.platform } ∧
      (∀ t : Globals δ, t.routingTable = table → t.routingTableTop = top →
        t.TableHolds T.routingTableSize
          (updateRoutes T es p.fromId p.sourceInterface p.ttl time).2) ∧
      (∀ b, (is.cells b).map Interface.uid = (s.interfaces.cells b).map Interface.uid) ∧
      ps.next = s.packets.next ∧ ∀ b, (ps.cells b).isSome = (s.packets.cells b).isSome ∧
        (b ≠ a → ps.cells b = s.packets.cells b) := by
  -- The table is updated first, with the counters of the interface of a new route.
  have hupdate : ∃ table top is, (routingTableUpdate T p.fromId p.sourceInterface p.ttl time).run
      s = .ok (updateRoutes T es p.fromId p.sourceInterface p.ttl time).1
        { s with routingTable := table, routingTableTop := top, interfaces := is } ∧
      ({ s with routingTable := table, routingTableTop := top, interfaces := is } :
        Globals δ).TableHolds T.routingTableSize
          (updateRoutes T es p.fromId p.sourceInterface p.ttl time).2 ∧
      (∀ b, (is.cells b).map Interface.uid = (s.interfaces.cells b).map Interface.uid) := by
    by_cases hself : p.fromId = T.deviceId
    · unfold routingTableUpdate updateRoutes
      rw [if_pos hself, if_pos hself]
      exact ⟨_, _, _, rfl, ht, fun _ => rfl⟩
    · obtain ⟨c, hc⟩ := Option.isSome_iff_exists.mp (hsend.rip hrip hself)
      obtain ⟨table, top, is, hrun, htable, his⟩ := routingTableUpdate_run ht p.fromId
        (interfaceAt_isSome_iff.mpr ⟨c, hc, hsend.live c hc⟩) p.ttl time
      refine ⟨table, top, is, hrun, htable, ?_⟩
      intro b
      rcases his with rfl | ⟨d, -, rfl⟩
      · rfl
      · rw [Heap.modify_cells]
        split
        · cases s.interfaces.cells b <;> rfl
        · rfl
  obtain ⟨table, top, is, hrun, htable, huid⟩ := hupdate
  generalize hresult : updateRoutes T es p.fromId p.sourceInterface p.ttl time = result at *
  have hsome : ∀ b, (is.cells b).isSome = (s.interfaces.cells b).isSome := by
    intro b
    rw [← Option.isSome_map (f := Interface.uid), huid, Option.isSome_map]
  have htables : ∀ t : Globals δ, t.routingTable = table → t.routingTableTop = top →
      t.TableHolds T.routingTableSize result.2 := fun t h h' =>
    ⟨h.trans htable.slots, h'.trans htable.top, htable.bounded⟩
  unfold processRipPacket
  rw [run_bind_ok (readPacket_run hp), run_bind_ok hrun]
  by_cases hpass : result.1 = .ok ∧ p.flags ≠ 0
  · simp only [if_pos hpass]
    obtain ⟨rv, hflood⟩ := networkSendEverywhere_run (T := T)
      (s := { s with routingTable := table, routingTableTop := top, interfaces := is }) hp
      (fun b hb => (hsome b).trans (hsend.live b hb))
      (fun b hb => (hsome b).trans (hlinks b hb)) time
    have hat : (({ s with routingTable := table, routingTableTop := top, interfaces := is } :
        Globals δ).interfaceAt p.sourceInterface).map Interface.uid =
        (s.interfaceAt p.sourceInterface).map Interface.uid := by
      cases p.sourceInterface with
      | none => rfl
      | some c => exact huid c
    rw [hat] at hflood
    refine ⟨rv, _, table, top, is, hflood, htables, huid, rfl, ?_⟩
    intro b
    refine ⟨Heap.modify_isSome _ _ _ _, ?_⟩
    intro hb
    rw [Heap.modify_cells, if_neg hb]
  · simp only [if_neg hpass]
    exact ⟨result.1, s.packets, table, top, is, rfl, htables, huid, rfl,
      fun b => ⟨rfl, fun _ => rfl⟩⟩

/-- A packet that is prepared only to be written leaves no trace on the heap. -/
lemma writeReply_run (s : Globals δ) (toId : UInt16) (command : UInt8) {β : Type}
    (k : ZejfErr → List UInt8 → Run (Globals δ) β) :
    ∃ ps buff, (∀ b, ps.cells b = s.packets.cells b) ∧ s.packets.next ≤ ps.next ∧ (do
        let pack ← networkPreparePacket T toId command none
        let (rv, buff) ← packetToBuffer T pack
        packetDestroy pack
        k rv buff).run s = (k .ok buff).run { s with packets := ps } := by
  have hpush : (s.packets.push (ownPacket T toId command none)).cells s.packets.next =
      some (ownPacket T toId command none) := by
    simp [Heap.push_cells]
  have hwrite := packetToBuffer_run (T := T)
    (s := { s with packets := s.packets.push (ownPacket T toId command none) }) hpush
  have hfree := packetDestroy_run (s := { s with
    packets := (s.packets.push (ownPacket T toId command none)).modify s.packets.next
      (fun _ => (ownPacket T toId command none).prepare) }) (a := s.packets.next)
      (by simp [Heap.modify_cells, hpush])
  refine ⟨((s.packets.push (ownPacket T toId command none)).modify s.packets.next
    (fun _ => (ownPacket T toId command none).prepare)).erase s.packets.next,
    (packetText (ownPacket T toId command none)).take (T.packetMaxLength - 1), ?_,
    Nat.le_succ _, ?_⟩
  · intro b
    by_cases hb : b = s.packets.next
    · rw [Heap.erase_cells, if_pos hb, hb, s.packets.next_free]
    · rw [Heap.erase_cells, if_neg hb, Heap.modify_cells, if_neg hb, Heap.push_cells, if_neg hb]
  · rw [run_bind_ok (networkPreparePacket_run toId command none), run_bind_ok hwrite,
      run_bind_ok hfree]

/-- Handling a request for an id takes the next id and answers over the interface that the
request came from. -/
lemma processIdRequest_run (hp : s.packets.cells a = some p) {i : Interface}
    (hi : s.interfaceAt p.sourceInterface = some i) {id nf : UInt16}
    (hfind : (routingFindFreeId).run s = .ok id { s with nextFreeId := nf }) (time : UInt32) :
    ∃ rv ps platform, (processIdRequest T a time).run s =
        .ok rv { s with packets := ps, nextFreeId := nf, platform } ∧
      (∀ b, ps.cells b = s.packets.cells b) ∧ s.packets.next ≤ ps.next ∧
      (platform = s.platform ∨ ∃ msg, platform = (T.networkSendVia msg i time s.platform).2) := by
  unfold processIdRequest
  rw [run_bind_ok hfind]
  by_cases hzero : id = 0
  · rw [if_pos hzero]
    exact ⟨_, s.packets, s.platform, rfl, fun _ => rfl, Nat.le_refl _, Or.inl rfl⟩
  rw [if_neg hzero]
  obtain ⟨ps, buff, hps, hgrows, hreply⟩ := writeReply_run (T := T) { s with nextFreeId := nf } id idInfo
    (fun rv buff => do
      if rv ≠ .ok then
        return rv
      networkSendVia T buff (← readPacket a).sourceInterface time)
  have hread : (readPacket a).run { s with nextFreeId := nf, packets := ps } =
      .ok p { s with nextFreeId := nf, packets := ps } :=
    readPacket_run ((hps a).trans hp)
  have hvia := networkSendVia_run (T := T) (s := { s with nextFreeId := nf, packets := ps }) buff
    hi time
  refine ⟨(T.networkSendVia buff i time s.platform).1, ps,
    (T.networkSendVia buff i time s.platform).2, hreply.trans ?_, hps, hgrows,
    Or.inr ⟨buff, rfl⟩⟩
  rw [if_neg (by simp)]
  exact (run_bind_ok hread).trans hvia

end Links

section Sending

variable {T} {s : Globals δ} {tx rx : List Queued} {es : List RoutingEntry} {a : ℕ} {p : Packet}

/-- What is left of a node after a packet of some fate. -/
structure Sent (T : Target δ) (s s' : Globals δ) (tx rx tx' rx' : List Queued)
    (es' : List RoutingEntry) (a : ℕ) : Prop where
  holds : NodeHolds T s' tx' rx' es'
  frame : s.NetworkOnly s'
  nextPacket : s'.nextPacket = s.nextPacket
  links : T.getAllInterfaces s'.platform = T.getAllInterfaces s.platform
  grows : s.packets.next ≤ s'.packets.next
  loose : ∀ b, s'.Loose tx' rx' b ↔ s.Loose tx rx b ∧ b ≠ a

/-- A packet that does not stay is destroyed, whatever else has happened to the node. -/
lemma Sent.destroyed {s₁ : Globals δ} {es' : List RoutingEntry}
    (h : NodeHolds T s₁ tx rx es') (hframe : s.NetworkOnly s₁)
    (hnext : s₁.nextPacket = s.nextPacket)
    (hlinks : T.getAllInterfaces s₁.platform = T.getAllInterfaces s.platform)
    (hgrows : s.packets.next ≤ s₁.packets.next)
    (hlive : ∀ b, (s₁.packets.cells b).isSome = (s.packets.cells b).isSome)
    (ha : a ∉ (tx ++ rx).map Queued.addr) :
    Sent T s { s₁ with packets := s₁.packets.erase a } tx rx tx rx es' a where
  holds := h.setPackets ha (fun b hb => by rw [Heap.erase_cells, if_neg hb])
  frame := hframe.trans ⟨rfl, rfl, rfl, rfl, rfl, fun _ => rfl⟩
  nextPacket := hnext
  links := hlinks
  grows := hgrows
  loose b := by
    unfold Globals.Loose
    rw [Heap.erase_cells]
    by_cases hb : b = a
    · simp [hb]
    · simp [hb, hlive]

lemma networkPushPacket_sent (h : NodeHolds T s tx rx es) (hp : s.packets.cells a = some p)
    (ha : a ∉ (tx ++ rx).map Queued.addr)
    (hcommand : p.command ≠ idRequest ∧ p.command ≠ rip)
    (hroom : listIsFull (if p.toId = T.deviceId then s.rxQueue else s.txQueue) = false)
    (time : UInt32) :
    ∃ s', (do
        updatePacket a (fun p => { p with timeReceived := time, timeSent := 0 })
        networkPushPacket T a).run s = .ok .ok s' ∧
      Sent T s s' tx rx (s.txAfter T a p time .queued tx) (s.rxAfter T a p time .queued rx) es a := by
  have hlive : (s.packets.cells a).isSome := by
    rw [hp]
    rfl
  have hstamp := updatePacket_run (fun p => { p with timeReceived := time, timeSent := 0 }) hlive
  generalize hs₁ : ({ s with
    packets := s.packets.modify a (fun p => { p with timeReceived := time, timeSent := 0 }) } :
    Globals δ) = s₁ at hstamp
  have hp₁ : s₁.packets.cells a = some { p with timeReceived := time, timeSent := 0 } := by
    rw [← hs₁]
    simp [Heap.modify_cells, hp]
  have h₁ : NodeHolds T s₁ tx rx es := by
    rw [← hs₁]
    exact h.setPackets ha (fun b hb => by rw [Heap.modify_cells, if_neg hb])
  have hframe : s.NetworkOnly s₁ := by
    rw [← hs₁]
    exact ⟨rfl, rfl, rfl, rfl, rfl, fun _ => rfl⟩
  have htxq : s₁.txQueue = s.txQueue := by rw [← hs₁]
  have hrxq : s₁.rxQueue = s.rxQueue := by rw [← hs₁]
  have hnextp : s₁.nextPacket = s.nextPacket := by rw [← hs₁]
  have hplat : s₁.platform = s.platform := by rw [← hs₁]
  have hgrows : s.packets.next ≤ s₁.packets.next := by
    rw [← hs₁]
    exact Nat.le_refl _
  have hpackets : ∀ b, (s₁.packets.cells b).isSome = (s.packets.cells b).isSome := by
    intro b
    rw [← hs₁]
    exact Heap.modify_isSome _ _ _ _
  rw [run_bind_ok hstamp]
  unfold networkPushPacket
  rw [run_bind_ok (readPacket_run hp₁)]
  by_cases hself : p.toId = T.deviceId
  · rw [if_pos hself] at hroom
    have hcount : (rx.map Queued.ref).length < s₁.rxQueue.capacity := by
      have hb := h₁.network.queues.rxHolds.bounded
      rw [← hrxq, h₁.network.queues.rxHolds.isFull, decide_eq_false_iff_not] at hroom
      omega
    obtain ⟨rq, hpush, hrq, hcap, -, -⟩ :=
      LinkedList.listPush_holds h₁.network.queues.rxHolds hcount a
    have hzoom := run_zoom_ok (l := Globals.rxQueueLens) (s := s₁) (x := listPush a) hpush
    refine ⟨{ s₁ with rxQueue := rq }, ?_, ?_⟩
    · rw [if_pos hself, run_bind_ok hzoom]
      rfl
    · have hq := h₁.network.queues.pushRx hp₁ ha hrq
      rw [hrxq] at hq
      unfold Globals.txAfter Globals.rxAfter
      rw [if_neg (by simp [hself]), if_pos ⟨rfl, hself⟩]
      refine ⟨h₁.congr hq ⟨rfl, rfl, rfl, rfl, hcap, fun _ => rfl⟩ rfl rfl rfl ?_,
        hframe.trans ⟨rfl, rfl, rfl, rfl, hcap, fun _ => rfl⟩, hnextp, by rw [hplat], hgrows, ?_⟩
      · intro q hq
        rw [← List.append_assoc, List.mem_append, List.mem_singleton] at hq
        rcases hq with hold | rfl
        · exact h.ordinary q hold
        · exact hcommand
      · intro b
        unfold Globals.Loose
        rw [hpackets b, ← List.append_assoc, List.map_append, List.mem_append]
        simp
        tauto
  · rw [if_neg hself] at hroom
    have hroom₁ : listIsFull s₁.txQueue = false := by rw [htxq]; exact hroom
    obtain ⟨tq, hpush, htq, hcap, -, -⟩ := LinkedList.listPush_holds h₁.network.queues.txHolds
      (txQueue_notFull h₁.network.queues hroom₁) a
    have hzoom := run_zoom_ok (l := Globals.txQueueLens) (s := s₁) (x := listPush a) hpush
    refine ⟨{ s₁ with txQueue := tq }, ?_, ?_⟩
    · rw [if_neg hself, run_bind_ok hzoom]
      rfl
    · have hq := h₁.network.queues.pushTx hp₁ ha htq
      rw [htxq] at hq
      unfold Globals.txAfter Globals.rxAfter
      rw [if_pos ⟨rfl, hself⟩, if_neg (by simp [hself])]
      refine ⟨h₁.congr hq ⟨rfl, rfl, rfl, hcap, rfl, fun _ => rfl⟩ rfl rfl rfl ?_,
        hframe.trans ⟨rfl, rfl, rfl, hcap, rfl, fun _ => rfl⟩, hnextp, by rw [hplat], hgrows, ?_⟩
      · intro q hq
        simp only [List.mem_append, List.mem_singleton] at hq
        rcases hq with (hold | rfl) | hold
        · exact h.ordinary q (List.mem_append_left _ hold)
        · exact hcommand
        · exact h.ordinary q (List.mem_append_right _ hold)
      · intro b
        unfold Globals.Loose
        rw [hpackets b]
        simp only [List.map_append, List.mem_append, List.map_cons, List.map_nil,
          List.mem_singleton]
        tauto

/-- A request for an id is destroyed once it has been dealt with. -/
lemma processIdRequest_sent (hT : T.Steady) (h : NodeHolds T s tx rx es)
    (hp : s.packets.cells a = some p) (ha : a ∉ (tx ++ rx).map Queued.addr)
    (hsend : s.Sendable T p) (hid : p.command = idRequest) (time : UInt32) :
    ∃ rv s', (do
        if (← processIdRequest T a time) ≠ .ok then
          packetDestroy a
          return .generic
        packetDestroy a
        return .ok : Run (Globals δ) ZejfErr).run s = .ok rv s' ∧
      Sent T s s' tx rx tx rx es a := by
  obtain ⟨c, hc⟩ := Option.isSome_iff_exists.mp (hsend.idRequest hid)
  obtain ⟨i, hi⟩ := Option.isSome_iff_exists.mp
    (interfaceAt_isSome_iff.mpr ⟨c, hc, hsend.live c hc⟩)
  obtain ⟨id, nf, hsearch⟩ := routingFindFreeId_total h.network.table hT.tableSize
  obtain ⟨rv, ps, platform, hrun, hps, hgrows, hplatform⟩ :=
    processIdRequest_run (T := T) hp hi hsearch time
  have hlinks : T.getAllInterfaces platform = T.getAllInterfaces s.platform := by
    rcases hplatform with rfl | ⟨msg, rfl⟩
    · rfl
    · exact hT.sendVia _ _ _ _
  have hframe : s.NetworkOnly { s with packets := ps, nextFreeId := nf, platform } :=
    ⟨rfl, rfl, rfl, rfl, rfl, fun _ => rfl⟩
  have hq : ({ s with packets := ps, nextFreeId := nf, platform } : Globals δ).QueuesHold tx rx :=
    h.network.queues.congr rfl rfl rfl (fun q _ => hps q.addr)
  have hgone := Sent.destroyed (a := a) (h.congr hq hframe rfl rfl hlinks h.ordinary) hframe rfl
    hlinks hgrows (fun b => congrArg Option.isSome (hps b)) ha
  have hfree := packetDestroy_run (s := { s with packets := ps, nextFreeId := nf, platform })
    (a := a) (by rw [show Globals.packets _ = ps from rfl, hps, hp]; rfl)
  rw [run_bind_ok hrun]
  by_cases hrv : rv ≠ .ok
  · rw [if_pos hrv]
    exact ⟨_, _, run_bind_ok hfree, hgone⟩
  · rw [if_neg hrv]
    exact ⟨_, _, run_bind_ok hfree, hgone⟩

/-- An announcement is destroyed once it has been passed on. -/
lemma processRipPacket_sent (hT : T.Steady) (h : NodeHolds T s tx rx es)
    (hp : s.packets.cells a = some p) (ha : a ∉ (tx ++ rx).map Queued.addr)
    (hsend : s.Sendable T p) (hrip : p.command = rip) (time : UInt32) :
    ∃ rv s', (do
        let rv ← processRipPacket T a time
        packetDestroy a
        return rv : Run (Globals δ) ZejfErr).run s = .ok rv s' ∧
      Sent T s s' tx rx tx rx (updateRoutes T es p.fromId p.sourceInterface p.ttl time).2 a := by
  obtain ⟨rv, ps, table, top, is, hrun, htable, huid, hgrows, hps⟩ := processRipPacket_run
    h.network.table h.links hp hsend hrip time
  generalize hplatform : (if (updateRoutes T es p.fromId p.sourceInterface p.ttl time).1 = .ok ∧
    p.flags ≠ 0 then
      floodLinks T is ((s.interfaceAt p.sourceInterface).map Interface.uid)
        ((packetText p).take (T.packetMaxLength - 1)) time (T.getAllInterfaces s.platform)
        s.platform
    else s.platform) = platform at hrun
  have hlinks : T.getAllInterfaces platform = T.getAllInterfaces s.platform := by
    rw [← hplatform]
    split
    · exact floodLinks_links hT _ _ _ _ _ _
    · rfl
  have hsome : ∀ b, (is.cells b).isSome = (s.interfaces.cells b).isSome := by
    intro b
    rw [← Option.isSome_map (f := Interface.uid), huid, Option.isSome_map]
  generalize hs₁ : ({ s with
    packets := ps
    routingTable := table
    routingTableTop := top
    interfaces := is
    platform } : Globals δ) = s₁ at hrun
  have hframe : s.NetworkOnly s₁ := by
    rw [← hs₁]
    exact ⟨rfl, rfl, rfl, rfl, rfl, hsome⟩
  have hs₁p : s₁.packets = ps := by rw [← hs₁]
  have hplat₁ : s₁.platform = platform := by rw [← hs₁]
  have hholds : NodeHolds T s₁ tx rx
      (updateRoutes T es p.fromId p.sourceInterface p.ttl time).2 := by
    refine ⟨⟨?_, htable s₁ (by rw [← hs₁]) (by rw [← hs₁])⟩, ?_, ?_, h.ordinary⟩
    · refine h.network.queues.congr (by rw [← hs₁]) (by rw [← hs₁]) (by rw [← hs₁]) ?_
      intro q hq
      rw [hs₁p]
      exact (hps q.addr).2 (notMem_addr_ne ha q hq)
    · intro e he
      exact (hframe.interfaceAt e.interface).mpr (routes_live h.routes hsend hrip time e he)
    · intro b hb
      rw [hplat₁, hlinks] at hb
      rw [hframe.interfaces]
      exact h.links b hb
  have hgone := Sent.destroyed (a := a) hholds hframe (by rw [← hs₁]) (by rw [hplat₁, hlinks])
    (by rw [hs₁p, hgrows]) (fun b => by rw [hs₁p]; exact (hps b).1) ha
  have hfree := packetDestroy_run (s := s₁) (a := a) (by rw [hs₁p, (hps a).1, hp]; rfl)
  rw [run_bind_ok hrun]
  exact ⟨_, _, run_bind_ok hfree, hgone⟩

/-- **What becomes of a packet.** It is destroyed, or it is queued last. -/
theorem networkSendPacket_sent (hT : T.Steady) (h : NodeHolds T s tx rx es)
    (hp : s.packets.cells a = some p) (ha : a ∉ (tx ++ rx).map Queued.addr)
    (hsend : s.Sendable T p) (time : UInt32) {fate : Fate}
    (hfate : p.fate T es (listIsFull s.txQueue) (listIsFull s.rxQueue) = fate) :
    ∃ rv s', (networkSendPacket T a time).run s = .ok rv s' ∧
      Sent T s s' tx rx (s.txAfter T a p time fate tx) (s.rxAfter T a p time fate rx)
        (routesAfter T es p time fate) a ∧ (fate = .queued → rv = .ok) := by
  have hlive : (s.packets.cells a).isSome := by
    rw [hp]
    rfl
  have hdestroy := packetDestroy_run hlive
  have hroute := routingEntryFind_run h.network.table p.toId
  have hgone := Sent.destroyed h (Globals.NetworkOnly.refl s) rfl rfl (Nat.le_refl _)
    (fun _ => rfl) ha
  unfold Packet.fate at hfate
  rw [networkSendPacket, run_bind_ok (readPacket_run hp)]
  by_cases hitself : p.fromId = T.deviceId ∧ p.toId = T.deviceId
  · rw [if_pos hitself] at hfate ⊢
    subst hfate
    exact ⟨_, _, run_bind_ok hdestroy, hgone, by simp⟩
  rw [if_neg hitself] at hfate ⊢
  dsimp only
  -- The look at the table is skipped for packets of others and for broadcasts.
  by_cases hnone : p.fromId = T.deviceId ∧ p.toId ≠ broadcast ∧
      es.findIdx? (fun e => e.deviceId == p.toId) = none
  · rw [if_pos hnone] at hfate
    subst hfate
    rw [if_pos ⟨hnone.1, hnone.2.1⟩, run_bind_ok hroute, if_pos hnone.2.2]
    exact ⟨_, _, run_bind_ok hdestroy, hgone, by simp⟩
  rw [if_neg hnone] at hfate
  have hskip : ∀ x : Run (Globals δ) ZejfErr,
      (if p.fromId = T.deviceId ∧ p.toId ≠ broadcast then do
        let found ← routingEntryFind p.toId
        if found = none then do
          packetDestroy a
          pure ZejfErr.noSuchDevice
        else x
      else x).run s = x.run s := by
    intro x
    by_cases hown : p.fromId = T.deviceId ∧ p.toId ≠ broadcast
    · have hfound : es.findIdx? (fun e => e.deviceId == p.toId) ≠ none := by tauto
      rw [if_pos hown, run_bind_ok hroute, if_neg hfound]
    · rw [if_neg hown]
  rw [hskip]
  by_cases hid : p.command = idRequest
  · rw [if_pos hid] at hfate ⊢
    subst hfate
    obtain ⟨rv, s', hrun, hsent⟩ := processIdRequest_sent hT h hp ha hsend hid time
    exact ⟨rv, s', hrun, hsent, by simp⟩
  rw [if_neg hid] at hfate ⊢
  by_cases hrip : p.command = rip
  · rw [if_pos hrip] at hfate ⊢
    subst hfate
    obtain ⟨rv, s', hrun, hsent⟩ := processRipPacket_sent hT h hp ha hsend hrip time
    exact ⟨rv, s', hrun, hsent, by simp⟩
  rw [if_neg hrip, run_bind_ok (EStateM.run_get s)]
  rw [if_neg hrip] at hfate
  have hfull : listIsFull (if p.toId = T.deviceId then s.rxQueue else s.txQueue) =
      if p.toId = T.deviceId then listIsFull s.rxQueue else listIsFull s.txQueue := by
    split <;> rfl
  rw [← hfull] at hfate
  by_cases hroom : listIsFull (if p.toId = T.deviceId then s.rxQueue else s.txQueue) = true
  · rw [if_pos hroom] at hfate ⊢
    subst hfate
    exact ⟨_, _, run_bind_ok hdestroy, hgone, by simp⟩
  rw [if_neg hroom] at hfate ⊢
  by_cases howner : p.fromId ≠ T.deviceId ∧ p.sourceInterface = none
  · rw [if_pos howner] at hfate
    subst hfate
    rw [if_pos ⟨howner.1, hrip⟩, if_pos howner.2]
    exact ⟨_, _, run_bind_ok hdestroy, hgone, by simp⟩
  rw [if_neg howner] at hfate
  subst hfate
  obtain ⟨s', hpush, hsent⟩ := networkPushPacket_sent h hp ha ⟨hid, hrip⟩ (by simpa using hroom)
    time
  have hqueue : ∀ x : Run (Globals δ) ZejfErr,
      (if p.fromId ≠ T.deviceId ∧ p.command ≠ rip then
        if p.sourceInterface = none then do
          packetDestroy a
          pure ZejfErr.ok
        else x
      else x).run s = x.run s := by
    intro x
    by_cases hother : p.fromId ≠ T.deviceId ∧ p.command ≠ rip
    · have hsource : p.sourceInterface ≠ none := by tauto
      rw [if_pos hother, if_neg hsource]
    · rw [if_neg hother]
  rw [hqueue, ← bind_assoc, run_bind_ok hpush]
  exact ⟨.ok, s', rfl, hsent, fun _ => rfl⟩

/-- The packet that a line from an interface becomes, unless it is refused. -/
def acceptedPacket (T : Target δ) (msg : List UInt8) (interface : ℕ) : Option Packet :=
  match packetFromString packetCreate msg msg.length with
  | .ok (.ok, p) =>
    if T.packetMaxTtl ≤ (p.ttl + 1).toNat then none
    else some { p with sourceInterface := some interface, ttl := p.ttl + 1 }
  | _ => none

lemma networkAccept_refused {msg : List UInt8} {interface : ℕ}
    (h : acceptedPacket T msg interface = none) (s : Globals δ) (time : UInt32) :
    ∃ rv ps, (networkAccept T msg msg.length interface time).run s =
      .ok rv { s with packets := ps } ∧ rv ≠ .ok ∧ s.packets.next ≤ ps.next ∧
      ∀ b, ps.cells b = s.packets.cells b := by
  have halloc : (zoom Globals.packetsLens (Heap.alloc packetCreate)).run s =
      .ok s.packets.next { s with packets := s.packets.push packetCreate } :=
    run_zoom_ok (l := Globals.packetsLens) (Heap.alloc_run _ _)
  have hnew : ({ s with packets := s.packets.push packetCreate } : Globals δ).packets.cells
      s.packets.next = some packetCreate := by
    simp [Heap.push_cells]
  obtain ⟨rv, p, hread, -, -⟩ := packetFromString_total packetCreate msg
  unfold acceptedPacket at h
  rw [hread] at h
  unfold networkAccept
  rw [run_bind_ok halloc, run_bind_ok (readPacket_run hnew), hread]
  dsimp only
  have hset := updatePacket_run (s := { s with packets := s.packets.push packetCreate })
    (a := s.packets.next) (fun _ => p) (by simp)
  rw [run_bind_ok hset]
  have hcells : ∀ (h : Heap Packet) (f : Packet → Packet) (b : ℕ), (((h.push packetCreate).modify
      h.next f).erase h.next).cells b = h.cells b := by
    intro h f b
    by_cases hb : b = h.next
    · rw [Heap.erase_cells, if_pos hb, hb, h.next_free]
    · rw [Heap.erase_cells, if_neg hb, Heap.modify_cells, if_neg hb, Heap.push_cells, if_neg hb]
  by_cases hrv : rv ≠ .ok
  · have hfree := packetDestroy_run (s := { s with
      packets := (s.packets.push packetCreate).modify s.packets.next (fun _ => p) })
      (a := s.packets.next) (by simp)
    rw [if_pos hrv, run_bind_ok hfree]
    exact ⟨rv, _, rfl, hrv, Nat.le_succ _, hcells s.packets _⟩
  · obtain rfl := not_not.mp hrv
    have httl : T.packetMaxTtl ≤ (p.ttl + 1).toNat := by
      by_contra hlow
      dsimp only at h
      rw [if_neg hlow] at h
      cases h
    have hset' := updatePacket_run (s := { s with
      packets := (s.packets.push packetCreate).modify s.packets.next (fun _ => p) })
      (a := s.packets.next)
      (fun _ => { p with sourceInterface := some interface, ttl := p.ttl + 1 }) (by simp)
    have hfree := packetDestroy_run (s := { s with
      packets := ((s.packets.push packetCreate).modify s.packets.next (fun _ => p)).modify
        s.packets.next
        (fun _ => { p with sourceInterface := some interface, ttl := p.ttl + 1 }) })
      (a := s.packets.next) (by simp)
    rw [if_neg hrv, run_bind_ok hset', if_pos httl, run_bind_ok hfree]
    refine ⟨.ttl, _, rfl, by decide, Nat.le_succ _, ?_⟩
    intro b
    by_cases hb : b = s.packets.next
    · rw [Heap.erase_cells, if_pos hb, hb, s.packets.next_free]
    · rw [Heap.erase_cells, if_neg hb, Heap.modify_cells, if_neg hb, Heap.modify_cells, if_neg hb,
        Heap.push_cells, if_neg hb]

/-- An accepted line becomes a new packet that is handed to `networkSendPacket`. -/
lemma networkAccept_accepted {msg : List UInt8} {interface : ℕ}
    (h : acceptedPacket T msg interface = some p) (s : Globals δ) (time : UInt32) :
    ∃ ps, (networkAccept T msg msg.length interface time).run s =
        (networkSendPacket T s.packets.next time).run { s with packets := ps } ∧
      ps.cells s.packets.next = some p ∧ s.packets.next < ps.next ∧
      ∀ b, b ≠ s.packets.next → ps.cells b = s.packets.cells b := by
  have halloc : (zoom Globals.packetsLens (Heap.alloc packetCreate)).run s =
      .ok s.packets.next { s with packets := s.packets.push packetCreate } :=
    run_zoom_ok (l := Globals.packetsLens) (Heap.alloc_run _ _)
  have hnew : ({ s with packets := s.packets.push packetCreate } : Globals δ).packets.cells
      s.packets.next = some packetCreate := by
    simp [Heap.push_cells]
  obtain ⟨rv, q, hread, -, -⟩ := packetFromString_total packetCreate msg
  unfold acceptedPacket at h
  rw [hread] at h
  cases rv with
  | ok =>
    dsimp only at h
    have httl : ¬T.packetMaxTtl ≤ (q.ttl + 1).toNat := by
      intro hhigh
      rw [if_pos hhigh] at h
      cases h
    rw [if_neg httl] at h
    obtain rfl := Option.some.inj h
    have hset := updatePacket_run (s := { s with packets := s.packets.push packetCreate })
      (a := s.packets.next) (fun _ => q) (by simp)
    have hset' := updatePacket_run (s := { s with
      packets := (s.packets.push packetCreate).modify s.packets.next (fun _ => q) })
      (a := s.packets.next)
      (fun _ => { q with sourceInterface := some interface, ttl := q.ttl + 1 }) (by simp)
    refine ⟨((s.packets.push packetCreate).modify s.packets.next (fun _ => q)).modify
      s.packets.next (fun _ => { q with sourceInterface := some interface, ttl := q.ttl + 1 }),
      ?_, ?_, Nat.lt_succ_self _, ?_⟩
    · unfold networkAccept
      rw [run_bind_ok halloc, run_bind_ok (readPacket_run hnew), hread]
      dsimp only
      rw [run_bind_ok hset, if_neg (by simp), run_bind_ok hset', if_neg httl]
    · simp [Heap.modify_cells, Heap.push_cells]
    · intro b hb
      simp [Heap.modify_cells, Heap.push_cells, hb]
  | _ => cases h

lemma next_notMem (h : s.QueuesHold tx rx) : s.packets.next ∉ (tx ++ rx).map Queued.addr := by
  intro hm
  obtain ⟨q, hq, ha⟩ := List.mem_map.mp hm
  exact s.packets.ne_next (a := q.addr) (by rw [h.live q hq]; rfl) ha

lemma Sent.ofNew {s' : Globals δ} {tx' rx' : List Queued} {es' : List RoutingEntry}
    {ps : Heap Packet} (h : Sent T { s with packets := ps } s' tx rx tx' rx' es' s.packets.next)
    (hgrows : s.packets.next < ps.next)
    (hps : ∀ b, b ≠ s.packets.next → ps.cells b = s.packets.cells b) :
    Sent T s s' tx rx tx' rx' es' s.packets.next where
  holds := h.holds
  frame := ⟨h.frame.dataQueue, h.frame.dataRequestsQueue, h.frame.requests, h.frame.txCapacity,
    h.frame.rxCapacity, h.frame.interfaces⟩
  nextPacket := h.nextPacket
  links := h.links
  grows := Nat.le_of_lt (Nat.lt_of_lt_of_le hgrows h.grows)
  loose b := by
    rw [h.loose b]
    unfold Globals.Loose
    by_cases hb : b = s.packets.next
    · simp [hb]
    · simp [hb, hps b hb]

/-- What a line from an interface makes of a node. -/
theorem networkAccept_sent (hT : T.Steady) (h : NodeHolds T s tx rx es) (msg : List UInt8)
    {interface : ℕ} (hlive : (s.interfaces.cells interface).isSome) (time : UInt32) :
    (acceptedPacket T msg interface = none ∧
      ∃ rv ps, (networkAccept T msg msg.length interface time).run s =
        .ok rv { s with packets := ps } ∧ rv ≠ .ok ∧ s.packets.next ≤ ps.next ∧
        ∀ b, ps.cells b = s.packets.cells b) ∨
    ∃ p fate rv s', acceptedPacket T msg interface = some p ∧
      p.fate T es (listIsFull s.txQueue) (listIsFull s.rxQueue) = fate ∧
      (networkAccept T msg msg.length interface time).run s = .ok rv s' ∧
      Sent T s s' tx rx (s.txAfter T s.packets.next p time fate tx)
        (s.rxAfter T s.packets.next p time fate rx) (routesAfter T es p time fate)
        s.packets.next := by
  cases hp : acceptedPacket T msg interface with
  | none => exact Or.inl ⟨rfl, networkAccept_refused hp s time⟩
  | some p =>
    have hsource : p.sourceInterface = some interface := by
      unfold acceptedPacket at hp
      split at hp
      · split at hp
        · cases hp
        · rw [← Option.some.inj hp]
      · cases hp
    obtain ⟨ps, hrun, hnew, hgrows, hps⟩ := networkAccept_accepted hp s time
    have hfresh := next_notMem h.network.queues
    have hsend : ({ s with packets := ps } : Globals δ).Sendable T p := by
      refine ⟨?_, ?_, ?_⟩
      · intro b hb
        obtain rfl := Option.some.inj (hsource.symm.trans hb)
        exact hlive
      · intro _
        rw [hsource]
        rfl
      · intro _ _
        rw [hsource]
        rfl
    obtain ⟨rv, s', hsent, hs', -⟩ := networkSendPacket_sent hT (h.setPackets hfresh hps) hnew
      hfresh hsend time rfl
    exact Or.inr ⟨p, _, rv, s', rfl, rfl, hrun.trans hsent, hs'.ofNew hgrows hps⟩

end Sending

end ZejfMeteo
