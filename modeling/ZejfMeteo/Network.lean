import ZejfMeteo.Routing

/-!
# Queues of packets

`zejf_network.c` and the senders of `data_info.c`: every packet passes
`networkSendPacket` on its way into the receive or the transmit queue.
-/

namespace ZejfMeteo
open Runs Format

variable {δ : Type} (T : Target δ)

/-! ### Commands -/

def rip : UInt8 := 0x01

def dataLogCommand : UInt8 := 0x06

def dataCheckCommand : UInt8 := 0x08

def idRequest : UInt8 := 0x0F

def idInfo : UInt8 := 0x10

/-! ### The code of `zejf_network.c` -/

/-- Allocation succeeds; the packet owns a copy of the message. -/
def networkPreparePacket (toId : UInt16) (command : UInt8) (msg : Option (List UInt8)) :
    Run (Globals δ) ℕ :=
  zoom Globals.packetsLens (Heap.alloc { packetCreate with
    command
    fromId := T.deviceId
    toId
    ttl := 0
    messageSize := UInt16.ofNat (msg.getD []).length
    message := msg })

/-- Writes a packet to a buffer of `PACKET_MAX_LENGTH` bytes. -/
def packetToBuffer (packet : ℕ) : Run (Globals δ) (ZejfErr × List UInt8) := do
  let p ← readPacket packet
  let (rv, p, buff) := packetToString p T.packetMaxLength
  updatePacket packet (fun _ => p)
  return (rv, buff)

/-- The platform looks at the interface, so it must be live. -/
def networkSendVia (msg : List UInt8) (interface : Option ℕ) (time : UInt32) :
    Run (Globals δ) ZejfErr := do
  let i ← readInterface interface
  Globals.platformCall (T.networkSendVia msg i time)

def processIdRequest (packet : ℕ) (time : UInt32) : Run (Globals δ) ZejfErr := do
  let asignedId ← routingFindFreeId
  if asignedId = 0 then
    return .noFreeSlots
  let pack ← networkPreparePacket T asignedId idInfo none
  let (rv, buff) ← packetToBuffer T pack
  packetDestroy pack
  if rv ≠ .ok then
    return rv
  networkSendVia T buff (← readPacket packet).sourceInterface time

/-- Sends to every interface but the one the packet came from. -/
def sendEverywhere (packet : ℕ) (buff : List UInt8) (time : UInt32) :
    List ℕ → ZejfErr → Run (Globals δ) ZejfErr
  | [], result => return result
  | interface :: rest, result => do
    let p ← readPacket packet
    let i ← readInterface (some interface)
    let back ← match p.sourceInterface with
      | none => pure false
      | some source => do
        let sourceInterface ← readInterface (some source)
        pure (i.uid == sourceInterface.uid)
    if back then
      sendEverywhere packet buff time rest result
    else
      let res ← networkSendVia T buff (some interface) time
      sendEverywhere packet buff time rest (if res ≠ .ok then .partialSend else result)

def networkSendEverywhere (packet : ℕ) (time : UInt32) : Run (Globals δ) ZejfErr := do
  let (rv, buff) ← packetToBuffer T packet
  if rv ≠ .ok then
    return .generic
  sendEverywhere T packet buff time (T.getAllInterfaces (← get).platform) .ok

def processRipPacket (packet : ℕ) (now : UInt32) : Run (Globals δ) ZejfErr := do
  let p ← readPacket packet
  let rv ← routingTableUpdate T p.fromId p.sourceInterface p.ttl now
  if rv = .ok ∧ p.flags ≠ 0 then
    networkSendEverywhere T packet now
  else
    return rv

def networkPushPacket (packet : ℕ) : Run (Globals δ) ZejfErr := do
  let p ← readPacket packet
  let pushed ← if p.toId = T.deviceId then zoom Globals.rxQueueLens (listPush packet)
    else zoom Globals.txQueueLens (listPush packet)
  return if pushed then .ok else .generic

/-- Queues a packet or, for the special commands, handles it at once; unless the packet
ends up in a queue it is destroyed. -/
def networkSendPacket (packet : ℕ) (time : UInt32) : Run (Globals δ) ZejfErr := do
  let p ← readPacket packet
  if p.fromId = T.deviceId ∧ p.toId = T.deviceId then
    packetDestroy packet
    return .itself
  if p.fromId = T.deviceId ∧ p.toId ≠ broadcast then
    if (← routingEntryFind p.toId) = none then
      packetDestroy packet
      return .noSuchDevice
  if p.command = idRequest then
    if (← processIdRequest T packet time) ≠ .ok then
      packetDestroy packet
      return .generic
    packetDestroy packet
    return .ok
  if p.command = rip then
    let rv ← processRipPacket T packet time
    packetDestroy packet
    return rv
  let s ← get
  if listIsFull (if p.toId = T.deviceId then s.rxQueue else s.txQueue) then
    packetDestroy packet
    return .queueFull
  if p.fromId ≠ T.deviceId ∧ p.command ≠ rip then
    if p.sourceInterface = none then
      packetDestroy packet
      return .ok
  updatePacket packet (fun p => { p with timeReceived := time, timeSent := 0 })
  let rv ← networkPushPacket T packet
  if rv ≠ .ok then
    packetDestroy packet
    return .outOfMemory
  return .ok

/-- The slots of the transmit queue that a sender of some priority may fill. -/
def allocatePacketQueue (priority : ℕ) : Run (Globals δ) ℕ := do
  let s ← get
  return (s.txQueue.capacity - s.txQueue.itemCount) / priority

/-! ### The senders of `data_info.c` -/

def comma : UInt8 := 0x2C

/-- `msg` of five numbers or of four numbers and a value, with commas between. -/
def numbersMessage (info : VariableInfo) (a b : UInt32) (last : Piece) : List Piece :=
  [.num info.id.toNat, .lit comma, .num info.samplesPerHour.toNat, .lit comma, .num a.toNat,
    .lit comma, .num b.toNat, .lit comma, last]

/-- The scan format of such a message, with numbers as wide as the fields they go to. -/
def numbersFormat (last : Directive) : List Directive :=
  [.num 16, .lit comma, .num 32, .lit comma, .num 32, .lit comma, .num 32, .lit comma, last]

def dataSendLog (toId : UInt16) (info : VariableInfo) (hourNumber sampleNum : UInt32)
    (val : Sample) (time : UInt32) : Run (Globals δ) ZejfErr := do
  let pieces := numbersMessage info hourNumber sampleNum (.str (T.printValue val))
  if (print pieces).length = 0 then
    return .packetFormat
  let packet ← networkPreparePacket T toId dataLogCommand (snprintf T.packetMaxLength pieces)
  networkSendPacket T packet time

/-- Sends a log to every entry that `wanted` holds for, out of the `n` from `i` on. -/
def sendLogs (wanted : RoutingEntry → Bool) (info : VariableInfo) (hourNumber sampleNum : UInt32)
    (val : Sample) (time : UInt32) : ℕ → ℕ → ZejfErr → Run (Globals δ) ZejfErr
  | _, 0, result => return result
  | i, n + 1, result => do
    let entry ← tableEntry i
    if wanted entry then
      let rv ← dataSendLog T entry.deviceId info hourNumber sampleNum val time
      sendLogs wanted info hourNumber sampleNum val time (i + 1) n
        (if rv ≠ .ok then .partialSend else result)
    else
      sendLogs wanted info hourNumber sampleNum val time (i + 1) n result

/-- The first `demand_count` demanded variables of an entry. -/
def RoutingEntry.demanded (entry : RoutingEntry) : List UInt16 :=
  entry.demandedVariables.take entry.demandCount.toNat

def networkAnnounceLog (info : VariableInfo) (hourNumber sampleNum : UInt32) (val : Sample)
    (time : UInt32) : Run (Globals δ) ZejfErr := do
  let demands (entry : RoutingEntry) : Bool :=
    entry.demanded.any (fun var => var == allVariables || var == info.id)
  sendLogs T demands info hourNumber sampleNum val time 0 (← get).routingTableTop .ok

def networkBroadcastLog (info : VariableInfo) (hourNumber sampleNum : UInt32) (val : Sample)
    (time : UInt32) : Run (Globals δ) ZejfErr := do
  sendLogs T (·.subscribed) info hourNumber sampleNum val time 0 (← get).routingTableTop .ok

section Messages

variable {scanFloat : List UInt8 → Option (UInt32 × List UInt8)} {info : VariableInfo}
  {a b : UInt32} {last : Piece}

lemma numbersMessage_length (info : VariableInfo) (a b : UInt32) (last : Piece) :
    (print (numbersMessage info a b last)).length ≠ 0 := by
  simp [print, numbersMessage, Piece.text]

lemma print_numbersMessage : print (numbersMessage info a b last) =
    decimal info.id.toNat ++ comma :: (decimal info.samplesPerHour.toNat ++
      comma :: (decimal a.toNat ++ comma :: (decimal b.toNat ++ comma :: last.text))) := by
  simp [print, numbersMessage, Piece.text]

/-- The four numbers in front are found again. -/
lemma sscanf_numbersMessage (d : Directive) :
    sscanf scanFloat (numbersFormat d) (print (numbersMessage info a b last)) =
      [.num info.id.toNat, .num info.samplesPerHour.toNat, .num a.toNat, .num b.toNat] ++
        sscanf scanFloat [d] last.text := by
  have hcomma := head?_cons_stop (by decide : isDigit comma = false)
  rw [print_numbersMessage, numbersFormat, sscanf_uint16 _ (hcomma _), sscanf_lit,
    sscanf_uint32 _ (hcomma _), sscanf_lit, sscanf_uint32 _ (hcomma _), sscanf_lit,
    sscanf_uint32 _ (hcomma _), sscanf_lit]
  rfl

lemma sscanf_numbersMessage_num (n : UInt32) :
    sscanf scanFloat (numbersFormat (.num 32)) (print (numbersMessage info a b (.num n.toNat))) =
      [.num info.id.toNat, .num info.samplesPerHour.toNat, .num a.toNat, .num b.toNat,
        .num n.toNat] := by
  have hn : sscanf scanFloat [.num 32] (decimal n.toNat ++ []) = [.num n.toNat] := by
    rw [sscanf_uint32 n (by simp)]
    rfl
  rw [List.append_nil] at hn
  rw [sscanf_numbersMessage, show Piece.text (.num n.toNat) = decimal n.toNat from rfl, hn]
  rfl

/-- Such a message is not cut off. -/
lemma snprintf_numbersMessage (cfg : Settings) (hlast : last.text.length ≤ 45) :
    snprintf cfg.packetMaxLength (numbersMessage info a b last) =
      print (numbersMessage info a b last) := by
  have hmax := cfg.packetMaxLength_ge
  have hid := length_decimal_uint16 info.id
  have hrate := length_decimal_uint32 info.samplesPerHour
  have ha := length_decimal_uint32 a
  have hb := length_decimal_uint32 b
  apply List.take_of_length_le
  rw [print_numbersMessage]
  simp only [List.length_append, List.length_cons]
  omega

end Messages

/-! ### What the queues hold -/

/-- A packet in a queue, with its address and that of its node. -/
structure Queued where
  node : ℕ
  addr : ℕ
  packet : Packet

def Queued.ref (q : Queued) : ℕ × ℕ := (q.node, q.addr)

/-- The transmit and the receive queue hold these live packets, no packet twice, and
`next_packet` is NULL or in the transmit queue. -/
structure Globals.QueuesHold (s : Globals δ) (tx rx : List Queued) : Prop where
  txHolds : s.txQueue.Holds (tx.map Queued.ref)
  rxHolds : s.rxQueue.Holds (rx.map Queued.ref)
  live : ∀ q ∈ tx ++ rx, s.packets.cells q.addr = some q.packet
  distinct : ((tx ++ rx).map Queued.addr).Nodup
  next : ∀ a ∈ s.nextPacket, a ∈ tx.map Queued.node

/-- A node of the transmit queue holds one packet. -/
lemma Globals.QueuesHold.node_ne {s : Globals δ} {xs ys rx : List Queued} {q r : Queued}
    (h : s.QueuesHold (xs ++ q :: ys) rx) (hr : r ∈ xs ++ ys) : r.node ≠ q.node := by
  have hnodup := h.txHolds.ring.nodup
  rw [List.map_map] at hnodup
  exact ne_of_nodup_map hnodup hr

/-- The queues hold the same as long as their packets stay as they are. -/
lemma Globals.QueuesHold.congr {s s' : Globals δ} {tx rx : List Queued} (h : s.QueuesHold tx rx)
    (htx : s'.txQueue = s.txQueue) (hrx : s'.rxQueue = s.rxQueue)
    (hnext : s'.nextPacket = s.nextPacket)
    (hcells : ∀ q ∈ tx ++ rx, s'.packets.cells q.addr = s.packets.cells q.addr) :
    s'.QueuesHold tx rx where
  txHolds := htx ▸ h.txHolds
  rxHolds := hrx ▸ h.rxHolds
  live q hq := (hcells q hq).trans (h.live q hq)
  distinct := h.distinct
  next := hnext ▸ h.next

lemma zejfInit_queuesHold (T : Target δ) (platform : δ) :
    (zejfInit T platform).QueuesHold [] [] where
  txHolds := LinkedList.listCreate_holds ℕ _
  rxHolds := LinkedList.listCreate_holds ℕ _
  live q hq := by cases hq
  distinct := List.nodup_nil
  next a ha := by cases ha

/-- A packet on the heap that is in no queue. -/
def Globals.Loose (s : Globals δ) (tx rx : List Queued) (a : ℕ) : Prop :=
  (s.packets.cells a).isSome ∧ a ∉ (tx ++ rx).map Queued.addr

section Sending

variable {T} {s : Globals δ} {a : ℕ} {p : Packet} {tx rx : List Queued} {size : ℕ}
  {es : List RoutingEntry}

lemma readPacket_run (h : s.packets.cells a = some p) : (readPacket a).run s = .ok p s := by
  rw [readPacket, run_zoom_ok (l := Globals.packetsLens) (Heap.read_run h), Lens.set_get]

lemma updatePacket_run (f : Packet → Packet) (h : (s.packets.cells a).isSome) :
    (updatePacket a f).run s = .ok () { s with packets := s.packets.modify a f } :=
  run_zoom_ok (l := Globals.packetsLens) (Heap.update_run f h)

lemma packetDestroy_run (h : (s.packets.cells a).isSome) :
    (packetDestroy a).run s = .ok () { s with packets := s.packets.erase a } :=
  run_zoom_ok (l := Globals.packetsLens) (Heap.free_run h)

/-- The packet that `networkPreparePacket` makes. -/
def ownPacket (T : Target δ) (toId : UInt16) (command : UInt8) (msg : Option (List UInt8)) :
    Packet :=
  { packetCreate with
    command
    fromId := T.deviceId
    toId
    messageSize := UInt16.ofNat (msg.getD []).length
    message := msg }

lemma networkPreparePacket_run (toId : UInt16) (command : UInt8) (msg : Option (List UInt8)) :
    (networkPreparePacket T toId command msg).run s =
      .ok s.packets.next { s with packets := s.packets.push (ownPacket T toId command msg) } :=
  run_zoom_ok (l := Globals.packetsLens) (Heap.alloc_run _ _)

/-- What comes of sending a packet of the device's own. -/
def sendResult (T : Target δ) (es : List RoutingEntry) (txFull : Bool) (toId : UInt16) : ZejfErr :=
  if toId = T.deviceId then .itself
  else if toId ≠ broadcast ∧ es.findIdx? (fun e => e.deviceId == toId) = none then .noSuchDevice
  else if txFull then .queueFull
  else .ok

/-- A packet that is destroyed instead of queued leaves the queues as they were. -/
lemma Globals.QueuesHold.dropped (h : s.QueuesHold tx rx) (p : Packet) :
    ({ s with packets := (s.packets.push p).erase s.packets.next } : Globals δ).QueuesHold tx rx where
  txHolds := h.txHolds
  rxHolds := h.rxHolds
  live q hq := by
    have hl := h.live q hq
    have hne := s.packets.ne_next (a := q.addr) (by rw [hl]; rfl)
    simp [Heap.erase_cells, Heap.push_cells, hne, hl]
  distinct := h.distinct
  next := h.next

/-- What has been allocated and destroyed again is gone. -/
lemma push_erase_cells (h : Heap Packet) (p : Packet) (b : ℕ) :
    ((h.push p).erase h.next).cells b = h.cells b := by
  rw [Heap.erase_cells, Heap.push_cells]
  by_cases hb : b = h.next
  · rw [if_pos hb, hb, h.next_free]
  · rw [if_neg hb, if_neg hb]

lemma loose_dropped (p : Packet) (b : ℕ) :
    ({ s with packets := (s.packets.push p).erase s.packets.next } : Globals δ).Loose tx rx b ↔
      s.Loose tx rx b := by
  unfold Globals.Loose
  dsimp only
  rw [push_erase_cells]

/-- A new packet that is queued is not loose. -/
lemma loose_queued (p : Packet) (f : Packet → Packet) (tq : LinkedList ℕ) (node b : ℕ) :
    ({ s with
      txQueue := tq
      packets := (s.packets.push p).modify s.packets.next f } : Globals δ).Loose
      (tx ++ [⟨node, s.packets.next, f p⟩]) rx b ↔ s.Loose tx rx b := by
  unfold Globals.Loose
  by_cases hb : b = s.packets.next
  · subst hb
    simp [s.packets.next_free]
  · simp [Heap.push_cells, hb]

/-- A new packet that is pushed is queued last. -/
lemma Globals.QueuesHold.queued (h : s.QueuesHold tx rx) (p : Packet) (f : Packet → Packet)
    {tq : LinkedList ℕ} {node : ℕ}
    (hq : tq.Holds (tx.map Queued.ref ++ [(node, s.packets.next)])) :
    ({ s with
      txQueue := tq
      packets := (s.packets.push p).modify s.packets.next f } : Globals δ).QueuesHold
      (tx ++ [⟨node, s.packets.next, f p⟩]) rx where
  txHolds := by
    rw [List.map_append]
    exact hq
  rxHolds := h.rxHolds
  live q hm := by
    have hcase : q ∈ tx ++ rx ∨ q = ⟨node, s.packets.next, f p⟩ := by
      simp only [List.mem_append, List.mem_singleton] at hm ⊢
      tauto
    rcases hcase with hold | rfl
    · have hl := h.live q hold
      have hne := s.packets.ne_next (a := q.addr) (by rw [hl]; rfl)
      simp [Heap.modify_cells, Heap.push_cells, hne, hl]
    · simp [Heap.modify_cells, Heap.push_cells]
  distinct := by
    have hfresh : s.packets.next ∉ (tx ++ rx).map Queued.addr := by
      intro hm
      obtain ⟨q, hq, ha⟩ := List.mem_map.mp hm
      exact s.packets.ne_next (a := q.addr) (by rw [h.live q hq]; rfl) ha
    have hperm : ((tx ++ [(⟨node, s.packets.next, f p⟩ : Queued)] ++ rx).map Queued.addr).Perm
        (s.packets.next :: (tx ++ rx).map Queued.addr) := by
      simp only [List.append_assoc, List.singleton_append, List.map_append, List.map_cons]
      exact List.perm_middle
    exact hperm.nodup_iff.mpr (List.nodup_cons.mpr ⟨hfresh, h.distinct⟩)
  next a ha := by
    have hm := h.next a ha
    simp [hm]

/-- The four ways of a packet of the device's own through `networkSendPacket`. -/
lemma networkSendPacket_run (ht : s.TableHolds size es) (hp : s.packets.cells a = some p)
    (hfrom : p.fromId = T.deviceId) (hid : p.command ≠ idRequest) (hrip : p.command ≠ rip)
    (time : UInt32) {q : LinkedList ℕ} (hpush : listIsFull s.txQueue = false →
      (listPush a).run s.txQueue = .ok true q) :
    (networkSendPacket T a time).run s =
      if sendResult T es (listIsFull s.txQueue) p.toId = .ok then
        .ok .ok { s with
          txQueue := q
          packets := s.packets.modify a (fun p => { p with timeReceived := time, timeSent := 0 }) }
      else .ok (sendResult T es (listIsFull s.txQueue) p.toId)
        { s with packets := s.packets.erase a } := by
  have hread := readPacket_run hp
  have hdestroy := packetDestroy_run (s := s) (a := a) (by rw [hp]; rfl)
  have hfind := routingEntryFind_run ht p.toId
  rw [networkSendPacket, run_bind_ok hread]
  by_cases hself : p.toId = T.deviceId
  · simp [sendResult, hfrom, hself, hdestroy]
  by_cases hroute : p.toId ≠ broadcast ∧ es.findIdx? (fun e => e.deviceId == p.toId) = none
  · simp [sendResult, hfrom, hself, hroute, hfind, hdestroy]
  have hres : sendResult T es (listIsFull s.txQueue) p.toId =
      if listIsFull s.txQueue then .queueFull else .ok := by
    rw [sendResult, if_neg hself, if_neg hroute]
  -- A broadcast skips the look at the table, any other destination is found there.
  have hskip : p.toId = broadcast ∨
      es.findIdx? (fun e => e.deviceId == p.toId) ≠ none := by tauto
  rw [hres]
  cases hfull : listIsFull s.txQueue with
  | true =>
    rcases hskip with hb | hb
    · have hself' : broadcast ≠ T.deviceId := hb ▸ hself
      simp [hfrom, hself', hid, hrip, hfull, hdestroy, hb]
    · simp [hfrom, hself, hid, hrip, hfull, hdestroy, hfind, hb]
  | false =>
    have hupdate := updatePacket_run (s := s) (a := a)
      (fun p => { p with timeReceived := time, timeSent := 0 }) (by rw [hp]; rfl)
    generalize hs1 : ({ s with
      packets := s.packets.modify a (fun p => { p with timeReceived := time, timeSent := 0 }) } :
      Globals δ) = s1 at hupdate
    have hnetworkPush : (networkPushPacket T a).run s1 = .ok .ok { s1 with txQueue := q } := by
      have hp1 : s1.packets.cells a = some { p with timeReceived := time, timeSent := 0 } := by
        rw [← hs1]
        simp [Heap.modify_cells, hp]
      have htx : s1.txQueue = s.txQueue := by rw [← hs1]
      have hzoom := run_zoom_ok (l := Globals.txQueueLens) (s := s1) (x := listPush a)
        (by rw [show Globals.txQueueLens.get s1 = s.txQueue from htx]; exact hpush hfull)
      rw [networkPushPacket, run_bind_ok (readPacket_run hp1)]
      simp only [hself, if_false]
      rw [run_bind_ok hzoom]
      rfl
    rcases hskip with hb | hb
    · have hself' : broadcast ≠ T.deviceId := hb ▸ hself
      simp [hfrom, hself', hid, hrip, hfull, hb, hupdate, hnetworkPush]
      simp [← hs1]
    · simp [hfrom, hself, hid, hrip, hfull, hfind, hb, hupdate, hnetworkPush]
      simp [← hs1]

/-- What a packet of the device's own looks like in the queue. -/
def sentPacket (T : Target δ) (toId : UInt16) (command : UInt8) (msg : List UInt8)
    (time : UInt32) : Packet :=
  { ownPacket T toId command (some msg) with timeReceived := time }

lemma txQueue_notFull (hs : s.QueuesHold tx rx) (h : listIsFull s.txQueue = false) :
    (tx.map Queued.ref).length < s.txQueue.capacity := by
  have hb := hs.txHolds.bounded
  rw [hs.txHolds.isFull, decide_eq_false_iff_not] at h
  omega

/-- Preparing and sending a packet of the device's own appends it to the transmit queue or
destroys it, and nothing else happens. -/
lemma send_own (hs : s.QueuesHold tx rx) (ht : s.TableHolds size es) (toId : UInt16)
    {command : UInt8} (hid : command ≠ idRequest) (hrip : command ≠ rip)
    (msg : Option (List UInt8)) (time : UInt32) : ∃ tq ps, (do
        let packet ← networkPreparePacket T toId command msg
        networkSendPacket T packet time).run s =
        .ok (sendResult T es (listIsFull s.txQueue) toId) { s with txQueue := tq, packets := ps } ∧
      tq.capacity = s.txQueue.capacity ∧
      ({ s with txQueue := tq, packets := ps } : Globals δ).QueuesHold
        (if sendResult T es (listIsFull s.txQueue) toId = .ok then
          tx ++ [⟨s.txQueue.nodes.next, s.packets.next,
            { ownPacket T toId command msg with timeReceived := time }⟩]
        else tx) rx ∧
      ps.next = s.packets.next + 1 ∧
      ∀ b, ({ s with txQueue := tq, packets := ps } : Globals δ).Loose
        (if sendResult T es (listIsFull s.txQueue) toId = .ok then
          tx ++ [⟨s.txQueue.nodes.next, s.packets.next,
            { ownPacket T toId command msg with timeReceived := time }⟩]
        else tx) rx b ↔ s.Loose tx rx b := by
  have hp : ({ s with packets := s.packets.push (ownPacket T toId command msg) } :
      Globals δ).packets.cells s.packets.next = some (ownPacket T toId command msg) := by
    simp [Heap.push_cells]
  have htable : ({ s with packets := s.packets.push (ownPacket T toId command msg) } :
      Globals δ).TableHolds size es := ⟨ht.slots, ht.top, ht.bounded⟩
  cases hfull : listIsFull s.txQueue with
  | true =>
    have hrun := networkSendPacket_run (T := T) htable hp rfl hid hrip time (q := s.txQueue)
      (by simp [hfull])
    have hne : sendResult T es true toId ≠ .ok := by
      rw [sendResult]
      split <;> [decide; (split <;> decide)]
    rw [show (ownPacket T toId command msg).toId = toId from rfl, hfull, if_neg hne] at hrun
    rw [if_neg hne, run_bind_ok (networkPreparePacket_run toId command msg)]
    exact ⟨_, _, hrun, rfl, hs.dropped _, rfl, loose_dropped _⟩
  | false =>
    obtain ⟨q, hpush, hq, hcap, -, -⟩ := LinkedList.listPush_holds hs.txHolds
      (txQueue_notFull hs hfull) s.packets.next
    have hrun := networkSendPacket_run (T := T) htable hp rfl hid hrip time (fun _ => hpush)
    rw [show (ownPacket T toId command msg).toId = toId from rfl, hfull] at hrun
    rw [run_bind_ok (networkPreparePacket_run toId command msg)]
    by_cases hok : sendResult T es false toId = .ok
    · rw [if_pos hok] at hrun ⊢
      rw [hok]
      exact ⟨q, _, hrun, hcap, hs.queued _ _ hq, rfl,
        loose_queued _ (fun p => { p with timeReceived := time, timeSent := 0 }) q _⟩
    · rw [if_neg hok] at hrun ⊢
      exact ⟨_, _, hrun, rfl, hs.dropped _, rfl, loose_dropped _⟩

lemma dataSendLog_run (hs : s.QueuesHold tx rx) (ht : s.TableHolds size es) (toId : UInt16)
    (info : VariableInfo) (hourNumber sampleNum : UInt32) (val : Sample) (time : UInt32) :
    ∃ tq ps, (dataSendLog T toId info hourNumber sampleNum val time).run s =
        .ok (sendResult T es (listIsFull s.txQueue) toId) { s with txQueue := tq, packets := ps } ∧
      tq.capacity = s.txQueue.capacity ∧
      ({ s with txQueue := tq, packets := ps } : Globals δ).QueuesHold
        (if sendResult T es (listIsFull s.txQueue) toId = .ok then
          tx ++ [⟨s.txQueue.nodes.next, s.packets.next, sentPacket T toId dataLogCommand
            (snprintf T.packetMaxLength
              (numbersMessage info hourNumber sampleNum (.str (T.printValue val)))) time⟩]
        else tx) rx ∧
      ∀ b, ({ s with txQueue := tq, packets := ps } : Globals δ).Loose
        (if sendResult T es (listIsFull s.txQueue) toId = .ok then
          tx ++ [⟨s.txQueue.nodes.next, s.packets.next, sentPacket T toId dataLogCommand
            (snprintf T.packetMaxLength
              (numbersMessage info hourNumber sampleNum (.str (T.printValue val)))) time⟩]
        else tx) rx b ↔ s.Loose tx rx b := by
  simp only [dataSendLog, numbersMessage_length, if_false]
  obtain ⟨tq, ps, hrun, hcap, hq, -, hloose⟩ := send_own (T := T) hs ht toId
    (by decide : dataLogCommand ≠ idRequest) (by decide) (some _) time
  exact ⟨tq, ps, hrun, hcap, hq, hloose⟩

/-- Sending logs along the table only adds packets to the transmit queue. -/
lemma sendLogs_run (wanted : RoutingEntry → Bool) (info : VariableInfo)
    (hourNumber sampleNum : UInt32) (val : Sample) (time : UInt32) {fs : List RoutingEntry}
    (hs : s.QueuesHold tx rx) (ht : s.TableHolds size (es ++ fs)) (result : ZejfErr) :
    ∃ rv tq ps sent, (sendLogs T wanted info hourNumber sampleNum val time es.length fs.length
        result).run s = .ok rv { s with txQueue := tq, packets := ps } ∧
      tq.capacity = s.txQueue.capacity ∧
      ({ s with txQueue := tq, packets := ps } : Globals δ).QueuesHold (tx ++ sent) rx ∧
      (∀ b, ({ s with txQueue := tq, packets := ps } : Globals δ).Loose (tx ++ sent) rx b ↔
        s.Loose tx rx b) ∧ ∀ q ∈ sent, q.packet.command = dataLogCommand := by
  induction fs generalizing s es tx result with
  | nil =>
    have hnil : tx ++ [] = tx := List.append_nil tx
    refine ⟨result, s.txQueue, s.packets, [], rfl, rfl, ?_⟩
    rw [hnil]
    exact ⟨hs, fun b => Iff.rfl, by simp⟩
  | cons e fs ih =>
    have hentry := ht.tableEntry_run
    have happ : es ++ e :: fs = es ++ [e] ++ fs := by simp
    have hlen : es.length + 1 = (es ++ [e]).length := by simp
    rw [List.length_cons, sendLogs, run_bind_ok hentry, hlen]
    by_cases hw : wanted e = true
    · obtain ⟨tq, ps, hrun, hcap, hs', hloose⟩ :=
        dataSendLog_run (T := T) hs ht e.deviceId info hourNumber sampleNum val time
      have ht' : ({ s with txQueue := tq, packets := ps } : Globals δ).TableHolds size
          (es ++ [e] ++ fs) := happ ▸ ⟨ht.slots, ht.top, ht.bounded⟩
      obtain ⟨rv, tq', ps', sent, hrest, hcap', hs'', hloose', hsent⟩ := ih hs' ht'
        (if sendResult T (es ++ e :: fs) (listIsFull s.txQueue) e.deviceId ≠ .ok then .partialSend
          else result)
      rw [if_pos hw, run_bind_ok hrun]
      by_cases hok : sendResult T (es ++ e :: fs) (listIsFull s.txQueue) e.deviceId = .ok
      · rw [if_pos hok, List.append_assoc] at hs'' hloose'
        rw [if_pos hok] at hloose
        refine ⟨rv, tq', ps', _, hrest, hcap'.trans hcap, hs'',
          fun b => (hloose' b).trans (hloose b), ?_⟩
        intro q hq
        rcases List.mem_append.mp hq with hq | hq
        · rw [List.mem_singleton.mp hq]
          rfl
        · exact hsent q hq
      · rw [if_neg hok] at hs'' hloose hloose'
        exact ⟨rv, tq', ps', sent, hrest, hcap'.trans hcap, hs'',
          fun b => (hloose' b).trans (hloose b), hsent⟩
    · rw [if_neg hw]
      exact ih hs (happ ▸ ht) result

lemma networkAnnounceLog_run (hs : s.QueuesHold tx rx) (ht : s.TableHolds size es)
    (info : VariableInfo) (hourNumber sampleNum : UInt32) (val : Sample) (time : UInt32) :
    ∃ rv tq ps sent, (networkAnnounceLog T info hourNumber sampleNum val time).run s =
        .ok rv { s with txQueue := tq, packets := ps } ∧
      tq.capacity = s.txQueue.capacity ∧
      ({ s with txQueue := tq, packets := ps } : Globals δ).QueuesHold (tx ++ sent) rx ∧
      (∀ b, ({ s with txQueue := tq, packets := ps } : Globals δ).Loose (tx ++ sent) rx b ↔
        s.Loose tx rx b) ∧ ∀ q ∈ sent, q.packet.command = dataLogCommand := by
  have ht' : s.TableHolds size ([] ++ es) := ht
  have hlogs := fun wanted =>
    sendLogs_run (T := T) wanted info hourNumber sampleNum val time hs ht' .ok
  rw [List.length_nil, ← ht.top] at hlogs
  rw [networkAnnounceLog, run_bind_ok (EStateM.run_get s)]
  exact hlogs _

lemma networkBroadcastLog_run (hs : s.QueuesHold tx rx) (ht : s.TableHolds size es)
    (info : VariableInfo) (hourNumber sampleNum : UInt32) (val : Sample) (time : UInt32) :
    ∃ rv tq ps sent, (networkBroadcastLog T info hourNumber sampleNum val time).run s =
        .ok rv { s with txQueue := tq, packets := ps } ∧
      tq.capacity = s.txQueue.capacity ∧
      ({ s with txQueue := tq, packets := ps } : Globals δ).QueuesHold (tx ++ sent) rx ∧
      (∀ b, ({ s with txQueue := tq, packets := ps } : Globals δ).Loose (tx ++ sent) rx b ↔
        s.Loose tx rx b) ∧ ∀ q ∈ sent, q.packet.command = dataLogCommand := by
  have ht' : s.TableHolds size ([] ++ es) := ht
  have hlogs := fun wanted =>
    sendLogs_run (T := T) wanted info hourNumber sampleNum val time hs ht' .ok
  rw [List.length_nil, ← ht.top] at hlogs
  rw [networkBroadcastLog, run_bind_ok (EStateM.run_get s)]
  exact hlogs _

/-- The queues and the table of a device are in order. -/
structure NetworkHolds (T : Target δ) (s : Globals δ) (tx rx : List Queued)
    (es : List RoutingEntry) : Prop where
  queues : s.QueuesHold tx rx
  table : s.TableHolds T.routingTableSize es

/-- Neither the data nor the platform matters to the network. -/
lemma NetworkHolds.data (hn : NetworkHolds T s tx rx es) (q : LinkedList DataHour) (p : δ) :
    NetworkHolds T { s with dataQueue := q, platform := p } tx rx es where
  queues := hn.queues.congr rfl rfl rfl (fun _ _ => rfl)
  table := hn.table.congr rfl rfl

/-- Nor do the data requests. -/
lemma NetworkHolds.setRequests (hn : NetworkHolds T s tx rx es) (q : LinkedList ℕ)
    (hs : Heap DataRequest) :
    NetworkHolds T { s with dataRequestsQueue := q, requests := hs } tx rx es where
  queues := hn.queues.congr rfl rfl rfl (fun _ _ => rfl)
  table := hn.table.congr rfl rfl

/-- Nothing is queued or routed yet. -/
lemma NetworkHolds.initial (T : Target δ) (platform : δ) :
    NetworkHolds T (zejfInit T platform) [] [] [] where
  queues := zejfInit_queuesHold T platform
  table := zejfInit_tableHolds T platform

end Sending

end ZejfMeteo
