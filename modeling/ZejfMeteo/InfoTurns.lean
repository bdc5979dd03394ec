import ZejfMeteo.Ownership
import ZejfMeteo.Lib.Turns

/-!
# Announcing in turns

A device announces its variables one after the other and over and over again, whatever room
there is in the transmit queue and whatever else happens in between. A call that runs out of
memory has announced the variables before that, and the next call goes on where it stopped.
-/

namespace ZejfMeteo
open Runs Format

variable {δ : Type} (T : Target δ)

/-! ### Scarce memory -/

/-- What there is no memory for while a packet is sent. If there is none for the packet itself,
`network_prepare_packet` writes to a NULL pointer. -/
inductive Shortage
  | message
  | node
deriving DecidableEq

/-- A packet that gets no message is not destroyed. -/
def networkPreparePacketScarce (short : Option Shortage) (toId : UInt16) (command : UInt8)
    (msg : List UInt8) : Run (Globals δ) (Option ℕ) := do
  let packet ← zoom Globals.packetsLens (Heap.alloc { packetCreate with
    command
    fromId := T.deviceId
    toId
    ttl := 0
    messageSize := UInt16.ofNat msg.length
    message := if short = some .message then none else some msg })
  if short = some .message then
    return none
  return some packet

/-- `list_push` gets no node. -/
def networkPushPacketScarce (short : Option Shortage) (packet : ℕ) : Run (Globals δ) ZejfErr :=
  if short = some .node then return .generic else networkPushPacket T packet

def networkSendPacketScarce (short : Option Shortage) (packet : ℕ) (time : UInt32) :
    Run (Globals δ) ZejfErr := do
  let p ← readPacket packet
  if p.fromId = T.deviceId ∧ p.toId = T.deviceId then
    packetDestroy packet
    return .itself
  if p.fromId = T.deviceId ∧ p.toId ≠ broadcast then
    if (← routingEntryFind p.toId) = none then
      packetDestroy packet
      return .noSuchDevice
  if p.command = idRequest then
    if (← processIdRequest T packet time) ≠ .ok then
      packetDestroy packet
      return .generic
    packetDestroy packet
    return .ok
  if p.command = rip then
    let rv ← processRipPacket T packet time
    packetDestroy packet
    return rv
  let s ← get
  if listIsFull (if p.toId = T.deviceId then s.rxQueue else s.txQueue) then
    packetDestroy packet
    return .queueFull
  if p.fromId ≠ T.deviceId ∧ p.command ≠ rip then
    if p.sourceInterface = none then
      packetDestroy packet
      return .ok
  updatePacket packet (fun p => { p with timeReceived := time, timeSent := 0 })
  let rv ← networkPushPacketScarce T short packet
  if rv ≠ .ok then
    packetDestroy packet
    return .outOfMemory
  return .ok

/-- What `p_send_provide` and `p_send_demand` do with their messages. -/
def pSendScarce (short : Option Shortage) (command : UInt8) (msg : List UInt8) (time : UInt32) :
    Run (Globals δ) ZejfErr := do
  match ← networkPreparePacketScarce T short broadcast command msg with
  | none => return .null
  | some packet => networkSendPacketScarce T short packet time

def provideMessage (info : VariableInfo) : List UInt8 :=
  snprintf T.packetMaxLength [.num info.id.toNat, .lit atSign, .num info.samplesPerHour.toNat]

def demandMessage (var : UInt16) : List UInt8 := snprintf T.packetMaxLength [.num var.toNat]

def pSendProvideScarce (short : Option Shortage) (info : VariableInfo) (time : UInt32) :
    Run (Globals δ) ZejfErr :=
  pSendScarce T short dataProvide (provideMessage T info) time

def pSendDemandScarce (short : Option Shortage) (var : UInt16) (time : UInt32) :
    Run (Globals δ) ZejfErr :=
  pSendScarce T short dataDemand (demandMessage T var) time

/-- What there is no memory for depends on the state. -/
abbrev Memory (δ : Type) := Globals δ → Option Shortage

def networkSendProvideInfoScarce (memory : Memory δ) (time : UInt32) : Run (Device δ) ZejfErr :=
  sendInfo T.providedVariables (fun info => do pSendProvideScarce T (memory (← get)) info time)
    Device.providePtrLens

def networkSendDemandInfoScarce (memory : Memory δ) (time : UInt32) : Run (Device δ) ZejfErr :=
  sendInfo T.demandedVariables (fun var => do pSendDemandScarce T (memory (← get)) var time)
    Device.demandPtrLens

section Ample

lemma networkPreparePacketScarce_none (toId : UInt16) (command : UInt8) (msg : List UInt8) :
    networkPreparePacketScarce T none toId command msg =
      some <$> networkPreparePacket T toId command (some msg) := rfl

lemma networkSendPacketScarce_none (packet : ℕ) (time : UInt32) :
    networkSendPacketScarce T none packet time = networkSendPacket T packet time := rfl

lemma pSendScarce_none (command : UInt8) (msg : List UInt8) (time : UInt32) :
    pSendScarce T none command msg time = (do
      let packet ← networkPreparePacket T broadcast command (some msg)
      networkSendPacket T packet time) := by
  rw [pSendScarce, networkPreparePacketScarce_none, bind_map_left]
  simp only [networkSendPacketScarce_none]

/-- With memory for everything a device announces what it provides as before. -/
lemma networkSendProvideInfoScarce_none (time : UInt32) :
    networkSendProvideInfoScarce T (fun _ => none) time = networkSendProvideInfo T time := by
  have hsend : (fun info => do pSendProvideScarce T ((fun _ => none) (← get)) info time) =
      (fun info => pSendProvide T info time) := by
    funext info
    exact pSendScarce_none T dataProvide (provideMessage T info) time
  rw [networkSendProvideInfoScarce, hsend, networkSendProvideInfo]

lemma networkSendDemandInfoScarce_none (time : UInt32) :
    networkSendDemandInfoScarce T (fun _ => none) time = networkSendDemandInfo T time := by
  have hsend : (fun var => do pSendDemandScarce T ((fun _ => none) (← get)) var time) =
      (fun var => pSendDemand T var time) := by
    funext var
    exact pSendScarce_none T dataDemand (demandMessage T var) time
  rw [networkSendDemandInfoScarce, hsend, networkSendDemandInfo]

end Ample

section OnePacket

variable {T} {s : Globals δ} {a : ℕ} {p : Packet} {tx rx : List Queued} {es : List RoutingEntry}

/-- If there is no node, the packet does not stay. -/
lemma networkSendPacketScarce_node (hp : s.packets.cells a = some p)
    (hfrom : p.fromId = T.deviceId) (hto : p.toId = broadcast) (hid : p.command ≠ idRequest)
    (hrip : p.command ≠ rip) (time : UInt32) : ∃ rv ps, rv ≠ ZejfErr.ok ∧
      (networkSendPacketScarce T (some .node) a time).run s = .ok rv { s with packets := ps } ∧
      ∀ b ≠ a, ps.cells b = s.packets.cells b := by
  have hdestroy := packetDestroy_run (s := s) (a := a) (by rw [hp]; rfl)
  have hgone : ∀ b ≠ a, (s.packets.erase a).cells b = s.packets.cells b := by
    intro b hb
    rw [Heap.erase_cells, if_neg hb]
  rw [networkSendPacketScarce, run_bind_ok (readPacket_run hp)]
  by_cases hself : broadcast = T.deviceId
  · refine ⟨.itself, s.packets.erase a, by decide, ?_, hgone⟩
    simp [hfrom, hto, hself, hdestroy]
  cases hfull : listIsFull s.txQueue with
  | true =>
    refine ⟨.queueFull, s.packets.erase a, by decide, ?_, hgone⟩
    simp [hfrom, hto, hself, hid, hrip, hfull, hdestroy]
  | false =>
    have hupdate := updatePacket_run (s := s) (a := a)
      (fun p => { p with timeReceived := time, timeSent := 0 }) (by rw [hp]; rfl)
    generalize hps : s.packets.modify a _ = ps at hupdate
    have hlive : (ps.cells a).isSome := by
      rw [← hps, Heap.modify_isSome, hp]
      rfl
    have hdestroy' := packetDestroy_run (s := { s with packets := ps }) hlive
    refine ⟨.outOfMemory, ps.erase a, by decide, ?_, ?_⟩
    · simp [hfrom, hto, hself, hid, hrip, hfull, hupdate, networkPushPacketScarce, hdestroy']
    · intro b hb
      rw [Heap.erase_cells, if_neg hb, ← hps, Heap.modify_cells, if_neg hb]

/-- Sending puts this packet at the end of the transmit queue if it succeeds, and leaves the
queues as they are if it does not. -/
def SendsOwn (T : Target δ) (send : Run (Globals δ) ZejfErr) (packet : Packet) : Prop :=
  ∀ s tx rx es, NetworkHolds T s tx rx es → ∃ rv s' sent, send.run s = .ok rv s' ∧
    NetworkHolds T s' (tx ++ sent) rx es ∧
    sent.map Queued.packet = if rv = .ok then [packet] else []

/-- A packet that is in no queue may be changed or freed. -/
lemma NetworkHolds.beside (hn : NetworkHolds T s tx rx es) {ps : Heap Packet}
    (hps : ∀ b ≠ s.packets.next, ps.cells b = s.packets.cells b) :
    NetworkHolds T { s with packets := ps } tx rx es where
  queues := hn.queues.congr rfl rfl rfl (fun q hq =>
    hps q.addr (s.packets.ne_next (by rw [hn.queues.live q hq]; rfl)))
  table := hn.table.congr rfl rfl

lemma pSendScarce_sendsOwn (short : Option Shortage) {command : UInt8} (hid : command ≠ idRequest)
    (hrip : command ≠ rip) (msg : List UInt8) (time : UInt32) :
    SendsOwn T (pSendScarce T short command msg time)
      (sentPacket T broadcast command msg time) := by
  intro s tx rx es hn
  rcases short with - | - | -
  · obtain ⟨tq, ps, hrun, -, hq, -, -⟩ :=
      send_own hn.queues hn.table broadcast hid hrip (some msg) time
    rw [pSendScarce_none]
    have htable : ({ s with txQueue := tq, packets := ps } : Globals δ).TableHolds
        T.routingTableSize es := hn.table.congr rfl rfl
    by_cases hok : sendResult T es (listIsFull s.txQueue) broadcast = .ok
    · rw [if_pos hok] at hq
      exact ⟨_, _, _, hrun, ⟨hq, htable⟩, by rw [if_pos hok]; rfl⟩
    · rw [if_neg hok] at hq
      refine ⟨_, _, [], hrun, ?_, by rw [if_neg hok]; rfl⟩
      rw [List.append_nil]
      exact ⟨hq, htable⟩
  · have hrun : (pSendScarce T (some .message) command msg time).run s = .ok .null { s with
        packets := s.packets.push { ownPacket T broadcast command (some msg) with
          message := none } } := rfl
    refine ⟨.null, _, [], hrun, ?_, rfl⟩
    rw [List.append_nil]
    refine hn.beside (fun b hb => ?_)
    rw [Heap.push_cells, if_neg hb]
  · have hp : ({ s with packets := s.packets.push (ownPacket T broadcast command (some msg)) } :
        Globals δ).packets.cells s.packets.next =
          some (ownPacket T broadcast command (some msg)) := by
      simp [Heap.push_cells]
    obtain ⟨rv, ps, hrv, hrun, hps⟩ := networkSendPacketScarce_node hp rfl rfl hid hrip time
    refine ⟨rv, { s with packets := ps }, [], hrun, ?_, (if_neg hrv).symm⟩
    rw [List.append_nil]
    refine hn.beside (fun b hb => ?_)
    rw [hps b hb, Heap.push_cells, if_neg hb]

end OnePacket

/-! ### One call -/

/-- These are the packets for the variables with these indices. -/
def AreFor (packets : List Packet) (indices : List ℕ) (sent : List Packet) : Prop :=
  List.Forall₂ (fun i p => packets[i]? = some p) indices sent

section OneCall

variable {T} {α : Type} {infos : List α} {send : α → Run (Globals δ) ZejfErr}
  {packet : α → Packet} {ptr : Lens (Device δ) UInt16} {d : Device δ} {tx rx : List Queued}
  {es : List RoutingEntry}

/-- What the loop has announced by the time it stops. -/
lemma sendInfoFrom_run (hsend : ∀ info, SendsOwn T (send info) (packet info))
    (hlength : infos.length < UInt16.size)
    (hcomm : ∀ s i d, Device.globalsLens.set s (ptr.set i d) =
      ptr.set i (Device.globalsLens.set s d)) (maxCount : ℕ)
    (hn : NetworkHolds T d.globals tx rx es) (hlt : (ptr.get d).toNat < infos.length) :
    ∃ rv s' i sent, (sendInfoFrom infos send ptr maxCount).run d =
        .ok rv (ptr.set i (Device.globalsLens.set s' d)) ∧
      NetworkHolds T s' (tx ++ sent) rx es ∧ sent.length ≤ maxCount ∧
      AreFor (infos.map packet) (List.range' (ptr.get d).toNat sent.length)
        (sent.map Queued.packet) ∧
      i.toNat = ((ptr.get d).toNat + sent.length) % infos.length := by
  induction maxCount generalizing d tx with
  | zero =>
    refine ⟨.ok, d.globals, ptr.get d, [], ?_, ?_, Nat.le_refl 0, .nil, ?_⟩
    · rw [show Device.globalsLens.set d.globals d = d from rfl, ptr.set_get]
      rfl
    · rw [List.append_nil]
      exact hn
    · exact (Nat.mod_eq_of_lt hlt).symm
  | succ n ih =>
    obtain ⟨rv, s1, sent1, hrun1, hn1, hsent1⟩ := hsend infos[(ptr.get d).toNat] _ _ _ _ hn
    have hzoom := run_zoom_ok (l := Device.globalsLens) (s := d) hrun1
    have hptr : ptr.get (Device.globalsLens.set s1 d) = ptr.get d := by
      have h := hcomm s1 (ptr.get d) d
      rw [ptr.set_get] at h
      rw [h, ptr.get_set]
    rw [sendInfoFrom, run_bind_ok (EStateM.run_get d), List.getElem?_eq_getElem hlt]
    dsimp only
    rw [run_bind_ok hzoom]
    by_cases hok : rv = .ok
    · rw [if_pos hok] at hsent1
      obtain ⟨q, rfl, hq⟩ : ∃ q, sent1 = [q] ∧ q.packet = packet infos[(ptr.get d).toNat] := by
        obtain ⟨q, hq, he⟩ := List.map_eq_singleton_iff.mp hsent1
        exact ⟨q, hq, he⟩
      have hfirst : (infos.map packet)[(ptr.get d).toNat]? = some q.packet := by
        rw [List.getElem?_map, List.getElem?_eq_getElem hlt, hq]
        rfl
      have hnext : (UInt16.ofNat (((ptr.get d).toNat + 1) % infos.length)).toNat =
          ((ptr.get d).toNat + 1) % infos.length := by
        have hmod := Nat.mod_lt ((ptr.get d).toNat + 1) (Nat.zero_lt_of_lt hlt)
        rw [UInt16.toNat_ofNat', Nat.mod_eq_of_lt (hmod.trans hlength)]
      rw [if_neg (not_not.mpr hok), run_bind_ok (EStateM.run_get _), hptr,
        run_bind_ok (EStateM.run_modify _ _)]
      generalize UInt16.ofNat (((ptr.get d).toNat + 1) % infos.length) = next at hnext
      by_cases hzero : next = 0
      · refine ⟨.ok, s1, next, [q], ?_, hn1, Nat.le_add_left 1 n, .cons hfirst .nil, hnext⟩
        rw [if_pos hzero]
        rfl
      · -- The next variable comes in the same round.
        have hround : next.toNat = (ptr.get d).toNat + 1 := by
          have hne : next.toNat ≠ 0 := fun he => hzero (UInt16.toNat_inj.mp he)
          rw [hnext] at hne ⊢
          refine Nat.mod_eq_of_lt (Nat.lt_of_le_of_ne hlt (fun he => hne ?_))
          rw [he, Nat.mod_self]
        have hlt' : next.toNat < infos.length := by
          rw [hnext]
          exact Nat.mod_lt _ (Nat.zero_lt_of_lt hlt)
        rw [if_neg hzero]
        have hglobals : (ptr.set next (Device.globalsLens.set s1 d)).globals = s1 := by
          rw [← hcomm]
          rfl
        obtain ⟨rv', s', i, sent, hrun, hn', hle, hsent, hi⟩ := ih
          (d := ptr.set next (Device.globalsLens.set s1 d)) (hglobals ▸ hn1)
          (by rw [ptr.get_set]; exact hlt')
        rw [ptr.get_set, hround] at hsent hi
        refine ⟨rv', s', i, q :: sent, ?_, ?_, Nat.succ_le_succ hle, .cons hfirst hsent, ?_⟩
        · rw [hrun, hcomm, ptr.set_set, Device.globalsLens.set_set]
        · rw [List.append_assoc] at hn'
          exact hn'
        · rw [hi, List.length_cons, Nat.add_right_comm, Nat.add_assoc]
    · rw [if_neg hok, List.map_eq_nil_iff] at hsent1
      subst hsent1
      refine ⟨rv, s1, ptr.get d, [], ?_, hn1, Nat.zero_le _, .nil, ?_⟩
      · rw [if_pos hok, ← hptr, ptr.set_get]
        rfl
      · exact (Nat.mod_eq_of_lt hlt).symm

/-- A call goes on with the turns where the last one stopped. -/
lemma sendInfo_run (hsend : ∀ info, SendsOwn T (send info) (packet info))
    (hlength : infos.length < UInt16.size)
    (hcomm : ∀ s i d, Device.globalsLens.set s (ptr.set i d) =
      ptr.set i (Device.globalsLens.set s d))
    (hn : NetworkHolds T d.globals tx rx es) {m : ℕ}
    (hptr : (ptr.get d).toNat = m % infos.length) :
    ∃ rv s' i sent, (sendInfo infos send ptr).run d =
        .ok rv (ptr.set i (Device.globalsLens.set s' d)) ∧
      NetworkHolds T s' (tx ++ sent) rx es ∧
      4 * sent.length ≤ d.globals.txQueue.capacity - d.globals.txQueue.itemCount ∧
      AreFor (infos.map packet) (List.range' (m % infos.length) sent.length)
        (sent.map Queued.packet) ∧
      i.toNat = (m + sent.length) % infos.length := by
  by_cases hnone : infos.length = 0
  · refine ⟨.generic, d.globals, ptr.get d, [], ?_, ?_, Nat.zero_le _, .nil, hptr⟩
    · rw [sendInfo, if_pos hnone, show Device.globalsLens.set d.globals d = d from rfl, ptr.set_get]
      rfl
    · rw [List.append_nil]
      exact hn
  · have hlt : (ptr.get d).toNat < infos.length := by
      rw [hptr]
      exact Nat.mod_lt _ (Nat.pos_of_ne_zero hnone)
    obtain ⟨rv, s', i, sent, hrun, hn', hle, hsent, hi⟩ := sendInfoFrom_run hsend hlength hcomm
      ((d.globals.txQueue.capacity - d.globals.txQueue.itemCount) / priorityMedium) hn hlt
    refine ⟨rv, s', i, sent, ?_, hn', ?_, hptr ▸ hsent, ?_⟩
    · rw [sendInfo, if_neg hnone, run_bind_ok (EStateM.run_get d), if_neg (Nat.not_le.mpr hlt)]
      exact hrun
    · exact (Nat.mul_le_mul_left 4 hle).trans (Nat.mul_div_le _ 4)
    · rw [hi, hptr, Nat.mod_add_mod]

end OneCall

/-! ### Calls in a row -/

/-- The two functions that announce variables. -/
inductive InfoKind
  | provide
  | demand
deriving DecidableEq

namespace InfoKind

def call (memory : Memory δ) (time : UInt32) : InfoKind → Run (Device δ) ZejfErr
  | provide => networkSendProvideInfoScarce T memory time
  | demand => networkSendDemandInfoScarce T memory time

/-- The position that the function keeps. -/
def ptr : InfoKind → Lens (Device δ) UInt16
  | provide => Device.providePtrLens
  | demand => Device.demandPtrLens

/-- How many variables there are to announce. -/
def count : InfoKind → ℕ
  | provide => T.providedVariables.length
  | demand => T.demandedVariables.length

/-- The packets for these variables. -/
def packets (time : UInt32) : InfoKind → List Packet
  | provide => T.providedVariables.map (fun info =>
      sentPacket T broadcast dataProvide (provideMessage T info) time)
  | demand => T.demandedVariables.map (fun var =>
      sentPacket T broadcast dataDemand (demandMessage T var) time)

end InfoKind

/-- A call, with what was free and what was queued for transmission before and after. -/
structure InfoCall where
  kind : InfoKind
  time : UInt32
  free : ℕ
  before : List Packet
  after : List Packet

/-- Packets for these variables have been queued in this order, without starting over and
within a quarter of the free slots. -/
structure InfoCall.Announces (call : InfoCall) (indices : List ℕ) : Prop where
  queued : ∃ sent, call.after = call.before ++ sent ∧
    AreFor (call.kind.packets T call.time) indices sent
  ascending : indices.Pairwise (· < ·)
  quarter : 4 * indices.length ≤ call.free

/-- A call, or anything else that happens to the global variables. -/
inductive InfoOp (δ : Type)
  | call (kind : InfoKind) (memory : Memory δ) (time : UInt32)
  | other (s : Globals δ)

/-- The queues and the routing table are in order. -/
def Globals.Connected (s : Globals δ) : Prop := ∃ tx rx es, NetworkHolds T s tx rx es

namespace InfoOp

def run : InfoOp δ → Run (Device δ) (Option InfoCall)
  | call kind memory time => do
    let s := (← get).globals
    let _ ← kind.call T memory time
    return some {
      kind
      time
      free := s.txQueue.capacity - s.txQueue.itemCount
      before := s.txPackets.map Queued.packet
      after := (← get).globals.txPackets.map Queued.packet }
  | other s => do
    modify (Device.globalsLens.set s)
    return none

def Allowed : InfoOp δ → Prop
  | call _ _ _ => True
  | other s => s.Connected T

end InfoOp

/-- The calls of one of the functions. -/
def callsOf (kind : InfoKind) (tr : List (InfoOp δ × Option InfoCall)) : List InfoCall :=
  (tr.filterMap Prod.snd).filter (fun call => call.kind = kind)

/-- Together the calls announce the first `m` turns of `n` variables. -/
def TakeTurns (n : ℕ) (calls : List InfoCall) (m : ℕ) : Prop :=
  ∃ indices, List.Forall₂ (InfoCall.Announces T) calls indices ∧ indices.flatten = turns n m

section Calls

variable {T} {kind : InfoKind} {d : Device δ} {tx rx : List Queued} {es : List RoutingEntry}

lemma AreFor.lt {packets sent : List Packet} {indices : List ℕ} (h : AreFor packets indices sent) :
    ∀ i ∈ indices, i < packets.length := by
  induction h with
  | nil => simp
  | cons hi _ ih =>
    intro j hj
    rcases List.mem_cons.mp hj with rfl | hj
    · exact (List.getElem?_eq_some_iff.mp hi).1
    · exact ih j hj

lemma InfoKind.length_packets (kind : InfoKind) (time : UInt32) :
    (kind.packets T time).length = kind.count T := by
  cases kind <;> exact List.length_map _

/-- One more call. -/
lemma TakeTurns.snoc {n m k : ℕ} {calls : List InfoCall} {call : InfoCall}
    (h : TakeTurns T n calls m) (hcall : call.Announces T (List.range' (m % n) k))
    (hn : call.kind.count T = n) : TakeTurns T n (calls ++ [call]) (m + k) := by
  obtain ⟨indices, hall, hturns⟩ := h
  obtain ⟨sent, -, hsent⟩ := hcall.queued
  refine ⟨indices ++ [List.range' (m % n) k], List.rel_append hall (.cons hcall .nil), ?_⟩
  rw [turns_add, List.flatten_append, hturns, List.flatten_singleton]
  intro j hj
  have hlt := hsent.lt (m % n + j) (List.mem_range'_1.mpr ⟨Nat.le_add_right _ _, by omega⟩)
  rwa [InfoKind.length_packets, hn] at hlt

lemma InfoKind.call_run (hcount : kind.count T < UInt16.size) (memory : Memory δ) (time : UInt32)
    (hn : NetworkHolds T d.globals tx rx es) {m : ℕ}
    (hptr : (kind.ptr.get d).toNat = m % kind.count T) :
    ∃ rv s' i sent, (kind.call T memory time).run d =
        .ok rv (kind.ptr.set i (Device.globalsLens.set s' d)) ∧
      NetworkHolds T s' (tx ++ sent) rx es ∧
      4 * sent.length ≤ d.globals.txQueue.capacity - d.globals.txQueue.itemCount ∧
      AreFor (kind.packets T time) (List.range' (m % kind.count T) sent.length)
        (sent.map Queued.packet) ∧
      i.toNat = (m + sent.length) % kind.count T := by
  cases kind with
  | provide =>
    refine sendInfo_run (fun info s tx rx es hn => ?_) hcount (fun _ _ _ => rfl) hn hptr
    exact pSendScarce_sendsOwn (memory s) (by decide) (by decide) (provideMessage T info) time
      s tx rx es hn
  | demand =>
    refine sendInfo_run (fun var s tx rx es hn => ?_) hcount (fun _ _ _ => rfl) hn hptr
    exact pSendScarce_sendsOwn (memory s) (by decide) (by decide) (demandMessage T var) time
      s tx rx es hn

/-- The other function keeps its position. -/
lemma InfoKind.get_set {other : InfoKind} (hne : other ≠ kind) (s : Globals δ) (i : UInt16) :
    other.ptr.get (kind.ptr.set i (Device.globalsLens.set s d)) = other.ptr.get d := by
  cases kind <;> cases other <;> first | rfl | exact absurd rfl hne

lemma InfoKind.globals_set (s : Globals δ) (i : UInt16) :
    (kind.ptr.set i (Device.globalsLens.set s d)).globals = s := by
  cases kind <;> rfl

/-- A call announces the variables whose turn it is. -/
lemma InfoKind.call_announces (hcount : kind.count T < UInt16.size) (memory : Memory δ)
    (time : UInt32) (hn : d.globals.Connected T) {m : ℕ}
    (hptr : (kind.ptr.get d).toNat = m % kind.count T) :
    ∃ call d' k, (InfoOp.run T (.call kind memory time)).run d = .ok (some call) d' ∧
      call.kind = kind ∧ call.Announces T (List.range' (m % kind.count T) k) ∧
      d'.globals.Connected T ∧ (kind.ptr.get d').toNat = (m + k) % kind.count T ∧
      ∀ other ≠ kind, other.ptr.get d' = other.ptr.get d := by
  obtain ⟨tx, rx, es, hn⟩ := hn
  obtain ⟨rv, s, i, sent, hrun, hn', hquarter, hsent, hi⟩ :=
    InfoKind.call_run hcount memory time hn hptr
  let call : InfoCall := {
    kind
    time
    free := d.globals.txQueue.capacity - d.globals.txQueue.itemCount
    before := tx.map Queued.packet
    after := (tx ++ sent).map Queued.packet }
  have hcall : (InfoOp.run T (.call kind memory time)).run d =
      .ok (some call) (kind.ptr.set i (Device.globalsLens.set s d)) := by
    rw [InfoOp.run, run_bind_ok (EStateM.run_get d), run_bind_ok hrun,
      run_bind_ok (EStateM.run_get _), InfoKind.globals_set, hn.txPackets, hn'.txPackets]
    rfl
  refine ⟨call, _, sent.length, hcall, rfl, ⟨⟨_, List.map_append, hsent⟩, ?_, ?_⟩, ?_, ?_, ?_⟩
  · exact List.pairwise_lt_range'
  · rwa [List.length_range']
  · rw [InfoKind.globals_set]
    exact ⟨_, _, _, hn'⟩
  · rw [kind.ptr.get_set, hi]
  · intro other hne
    exact InfoKind.get_set hne s i

lemma callsOf_call {tr : List (InfoOp δ × Option InfoCall)} {op : InfoOp δ} {call : InfoCall} :
    callsOf kind (tr ++ [(op, some call)]) =
      if call.kind = kind then callsOf kind tr ++ [call] else callsOf kind tr := by
  by_cases hk : call.kind = kind
  · simp [callsOf, hk]
  · simp [callsOf, hk]

lemma callsOf_other {tr : List (InfoOp δ × Option InfoCall)} {op : InfoOp δ} :
    callsOf kind (tr ++ [(op, none)]) = callsOf kind tr := by
  simp [callsOf]

/-- Both functions have taken their turns, and their positions are where these end. -/
structure InTurn (T : Target δ) (tr : List (InfoOp δ × Option InfoCall)) (d : Device δ) :
    Prop where
  connected : d.globals.Connected T
  turns : ∀ kind, ∃ m, TakeTurns T (kind.count T) (callsOf kind tr) m ∧
    (kind.ptr.get d).toNat = m % kind.count T

lemma InTurn.step (hcount : ∀ kind : InfoKind, kind.count T < UInt16.size)
    (tr : List (InfoOp δ × Option InfoCall)) (d : Device δ) (op : InfoOp δ) (hop : op.Allowed T)
    (h : InTurn T tr d) :
    ∃ o d', (op.run T).run d = .ok o d' ∧ InTurn T (tr ++ [(op, o)]) d' := by
  cases op with
  | call kind memory time =>
    obtain ⟨m, hturns, hptr⟩ := h.turns kind
    obtain ⟨call, d', k, hrun, rfl, hcall, hconnected, hptr', hother⟩ :=
      InfoKind.call_announces (hcount kind) memory time h.connected hptr
    refine ⟨some call, d', hrun, hconnected, ?_⟩
    intro other
    rw [callsOf_call]
    by_cases he : other = call.kind
    · subst he
      rw [if_pos rfl]
      exact ⟨m + k, hturns.snoc hcall rfl, hptr'⟩
    · rw [if_neg (fun hk => he hk.symm), hother other he]
      exact h.turns other
  | other s =>
    refine ⟨none, _, rfl, hop, ?_⟩
    intro kind
    rw [callsOf_other]
    obtain ⟨m, hturns, hptr⟩ := h.turns kind
    refine ⟨m, hturns, ?_⟩
    rw [← hptr]
    cases kind <;> rfl

end Calls

/-- **Announcements take turns.** Whatever room there is before each call, whatever memory runs
out during it and whatever else happens in between: the variables that the calls of a function
announce are the first ones of `0, 1, …, n - 1, 0, 1, …`, and no call starts over or fills more
than a quarter of the free slots. -/
theorem infoCalls_takeTurns (hcount : ∀ kind : InfoKind, kind.count T < UInt16.size)
    (platform : δ) (is : Heap Interface) {ops : List (InfoOp δ)} (hops : ∀ op ∈ ops, op.Allowed T) :
    ∃ tr d, Trace (InfoOp.run T) (Device.start T platform is) tr d ∧ tr.map Prod.fst = ops ∧
      ∀ kind, ∃ m, TakeTurns T (kind.count T) (callsOf kind tr) m := by
  have hstart : InTurn T [] (Device.start T platform is) := by
    have hn := NetworkHolds.initial T platform
    refine ⟨⟨[], [], [], hn.queues.congr rfl rfl rfl (fun _ _ => rfl), hn.table.congr rfl rfl⟩, ?_⟩
    intro kind
    refine ⟨0, ⟨[], .nil, (turns_zero _).symm⟩, ?_⟩
    rw [Nat.zero_mod]
    cases kind <;> rfl
  obtain ⟨tr, d, htrace, hmap, hturns⟩ :=
    Trace.complete_invariant (InTurn.step hcount) hstart hops
  refine ⟨tr, d, htrace, hmap, fun kind => ?_⟩
  obtain ⟨m, hm, -⟩ := hturns.turns kind
  exact ⟨m, hm⟩

/-- A device with three variables and a short transmit queue. -/
def threeVariables : Target Unit :=
  { Target.bare { Settings.zejfPress with txQueueSize := 8 } with
    providedVariables := [⟨12, 1⟩, ⟨12, 2⟩, ⟨60, 3⟩]
    demandedVariables := [allVariables] }

/-- A call that goes as far as the room does, one that gets no memory and, once the queue is
empty again, one to the end of the round and one that runs out of memory in the next. -/
def interruptedOps : List (InfoOp Unit) :=
  [.call .provide (fun _ => none) 0, .call .provide (fun _ => some .node) 0,
    .call .demand (fun _ => none) 0, .other (zejfInit threeVariables ()),
    .call .provide (fun _ => none) 0,
    .call .provide (fun s => if s.txQueue.itemCount = 1 then none else some .message) 0]

theorem interruptedOps_takeTurns : ∃ tr d, Trace (InfoOp.run threeVariables)
      (Device.start threeVariables () Heap.empty) tr d ∧ tr.map Prod.fst = interruptedOps ∧
    ∀ kind, ∃ m, TakeTurns threeVariables (kind.count threeVariables) (callsOf kind tr) m := by
  have hcount : ∀ kind : InfoKind, kind.count threeVariables < UInt16.size := by
    intro kind
    cases kind <;> decide
  have hops : ∀ op ∈ interruptedOps, op.Allowed threeVariables := by
    intro op hop
    cases op with
    | call kind memory time => trivial
    | other s =>
      obtain rfl : s = zejfInit threeVariables () := by simpa [interruptedOps] using hop
      exact ⟨[], [], [], NetworkHolds.initial threeVariables ()⟩
  exact infoCalls_takeTurns threeVariables hcount () Heap.empty hops

/-- How many packets each call has queued. -/
example : (outcome ((serve (InfoOp.run threeVariables) interruptedOps).run
    (Device.start threeVariables () Heap.empty))).map
      (·.map (·.map fun call => call.after.length - call.before.length)) =
    some [some 2, some 0, some 1, none, some 1, some 1] := by decide +kernel

end ZejfMeteo
