import ZejfMeteo.Transmit
import ZejfMeteo.Lib.Trace

/-!
# Runs of the network

Lines come in, packets are handed to `networkSendPacket`, the transmit step and the check of
the routing table take their turns, in any order. `NetStep` says what one of these does to
the queues and the routing table.
-/

namespace ZejfMeteo
open Runs

variable {δ : Type} (T : Target δ)

inductive NetOp
  | accept (msg : List UInt8) (interface : ℕ) (time : UInt32)
  | send (packet : Packet) (time : UInt32)
  | transmit (time : UInt32)
  | check (time : UInt32)

inductive NetResult
  | returned (rv : ZejfErr)
  | exit (exit : TxExit)
  | checked
deriving DecidableEq

/-- A new packet is handed to `networkSendPacket`. -/
def sendNew (p : Packet) (time : UInt32) : Run (Globals δ) ZejfErr := do
  let packet ← zoom Globals.packetsLens (Heap.alloc p)
  networkSendPacket T packet time

def NetOp.run : NetOp → Run (Globals δ) NetResult
  | .accept msg interface time => do
    return .returned (← networkAccept T msg msg.length interface time)
  | .send packet time => do
    return .returned (← sendNew T packet time)
  | .transmit time => do
    return .exit (← networkSendTx T time)
  | .check time => do
    routingTableCheck T time
    return .checked

/-- Lines come over live interfaces, and a packet that is sent is one that
`networkSendPacket` can handle. -/
def NetOp.Allowed (s : Globals δ) : NetOp → Prop
  | .accept _ interface _ => (s.interfaces.cells interface).isSome
  | .send packet _ => s.Sendable T packet
  | .transmit _ => True
  | .check _ => True

/-- The packet that an operation hands to `networkSendPacket`, and when. -/
def NetOp.handed : NetOp → Option (Packet × UInt32)
  | .accept msg interface time => (acceptedPacket T msg interface).map (·, time)
  | .send packet time => some (packet, time)
  | .transmit _ => none
  | .check _ => none

/-- The packets of a queue. -/
def Globals.queued (s : Globals δ) (queue : LinkedList ℕ) : List Queued :=
  queue.items.filterMap (fun x => (s.packets.cells x.2).map (Queued.mk x.1 x.2))

def Globals.txPackets (s : Globals δ) : List Queued := s.queued s.txQueue

def Globals.rxPackets (s : Globals δ) : List Queued := s.queued s.rxQueue

/-- The queues, the table and the interfaces are in order. -/
def Globals.InOrder (s : Globals δ) : Prop := NodeHolds T s s.txPackets s.rxPackets s.routes

section Views

variable {T} {s : Globals δ} {tx rx : List Queued} {es : List RoutingEntry}

lemma Globals.queued_eq {queue : LinkedList ℕ} {qs : List Queued}
    (hqueue : queue.Holds (qs.map Queued.ref))
    (hlive : ∀ q ∈ qs, s.packets.cells q.addr = some q.packet) : s.queued queue = qs := by
  unfold Globals.queued
  rw [hqueue.items_eq, List.filterMap_map]
  have hsome : ∀ q ∈ qs, ((fun x : ℕ × ℕ => (s.packets.cells x.2).map (Queued.mk x.1 x.2)) ∘
      Queued.ref) q = some q := by
    intro q hq
    show (s.packets.cells q.addr).map _ = _
    rw [hlive q hq]
    rfl
  rw [List.filterMap_congr hsome, List.filterMap_some]

lemma NetworkHolds.txPackets (h : NetworkHolds T s tx rx es) : s.txPackets = tx :=
  Globals.queued_eq h.queues.txHolds (fun q hq => h.queues.live q (List.mem_append_left _ hq))

lemma NodeHolds.txPackets (h : NodeHolds T s tx rx es) : s.txPackets = tx := h.network.txPackets

lemma NodeHolds.rxPackets (h : NodeHolds T s tx rx es) : s.rxPackets = rx :=
  Globals.queued_eq h.network.queues.rxHolds
    (fun q hq => h.network.queues.live q (List.mem_append_right _ hq))

lemma NodeHolds.inOrder (h : NodeHolds T s tx rx es) : s.InOrder T := by
  unfold Globals.InOrder
  rw [h.txPackets, h.rxPackets, h.network.table.routes]
  exact h

/-- A node that has just been set up, with some interfaces. -/
lemma zejfInit_inOrder (T : Target δ) (platform : δ) (is : Heap Interface)
    (hlinks : ∀ a ∈ T.getAllInterfaces platform, (is.cells a).isSome) :
    ({ zejfInit T platform with interfaces := is } : Globals δ).InOrder T := by
  have hnew := NetworkHolds.initial T platform
  have hholds : NodeHolds T { zejfInit T platform with interfaces := is } [] [] [] := by
    refine ⟨⟨hnew.queues.congr rfl rfl rfl (fun _ _ => rfl), hnew.table.slots, hnew.table.top,
      hnew.table.bounded⟩, ?_, hlinks, ?_⟩
    · intro e he
      cases he
    · intro q hq
      cases hq
  exact hholds.inOrder

end Views

/-- What an operation does to the queues, the cursor and the table. -/
inductive NetStep (s : Globals δ) : NetOp → NetResult → Globals δ → Prop
  | refused {op : NetOp} {rv : ZejfErr} {s' : Globals δ} (msg : List UInt8) (interface : ℕ)
    (time : UInt32) (hop : op = .accept msg interface time) (hnone : op.handed T = none)
    (htx : s'.txPackets = s.txPackets) (hrx : s'.rxPackets = s.rxPackets)
    (hroutes : s'.routes = s.routes) (hnext : s'.nextPacket = s.nextPacket) :
    NetStep s op (.returned rv) s'
  | handled {op : NetOp} {p : Packet} {time : UInt32} {rv : ZejfErr} {s' : Globals δ} (fate : Fate)
    (hop : op.handed T = some (p, time))
    (hfate : p.fate T s.routes (listIsFull s.txQueue) (listIsFull s.rxQueue) = fate)
    (htx : s'.txPackets = s.txAfter T s.packets.next p time fate s.txPackets)
    (hrx : s'.rxPackets = s.rxAfter T s.packets.next p time fate s.rxPackets)
    (hroutes : s'.routes = routesAfter T s.routes p time fate)
    (hnext : s'.nextPacket = s.nextPacket) : NetStep s op (.returned rv) s'
  | idle {time : UInt32} (htx : s.txPackets = []) : NetStep s (.transmit time) (.exit .empty) s
  | transmitted {exit : TxExit} {s' : Globals δ} (time : UInt32) (xs : List Queued) (q : Queued)
    (ys : List Queued) (n : ℕ) (htx : s.txPackets = xs ++ q :: ys)
    (hcursor : s.nextPacket = some q.node ∨ s.nextPacket = none ∧ xs = [])
    (hout : TxOutcome T s time s.routes xs q ys exit n s'.txPackets s'.nextPacket s'.platform)
    (hrx : s'.rxPackets = s.rxPackets) (hroutes : s'.routes = s.routes)
    (hcreated : s'.packets.next = s.packets.next + n) :
    NetStep s (.transmit time) (.exit exit) s'
  | checked {time : UInt32} {s' : Globals δ} (htx : s'.txPackets = s.txPackets)
    (hrx : s'.rxPackets = s.rxPackets)
    (hroutes : s'.routes = routesLeft (RoutingEntry.expired T time) s.routes)
    (hnext : s'.nextPacket = s.nextPacket) : NetStep s (.check time) .checked s'

/-- What every operation keeps. -/
structure Globals.Onward (s s' : Globals δ) : Prop where
  inOrder : s'.InOrder T
  frame : s.NetworkOnly s'
  links : T.getAllInterfaces s'.platform = T.getAllInterfaces s.platform
  grows : s.packets.next ≤ s'.packets.next
  loose : ∀ b, s'.Loose s'.txPackets s'.rxPackets b ↔ s.Loose s.txPackets s.rxPackets b

section Steps

variable {T} {s : Globals δ} {p : Packet}

/-- The queues and the table after a packet that came new. -/
lemma Sent.handled {op : NetOp} {time : UInt32} {rv : ZejfErr} {s' : Globals δ} {fate : Fate}
    (hop : op.handed T = some (p, time))
    (hfate : p.fate T s.routes (listIsFull s.txQueue) (listIsFull s.rxQueue) = fate)
    (h : Sent T s s' s.txPackets s.rxPackets
      (s.txAfter T s.packets.next p time fate s.txPackets)
      (s.rxAfter T s.packets.next p time fate s.rxPackets)
      (routesAfter T s.routes p time fate) s.packets.next) :
    NetStep T s op (.returned rv) s' ∧ s.Onward T s' := by
  have htx := h.holds.txPackets
  have hrx := h.holds.rxPackets
  refine ⟨.handled fate hop hfate htx hrx h.holds.network.table.routes h.nextPacket,
    h.holds.inOrder, h.frame, h.links, h.grows, ?_⟩
  intro b
  rw [htx, hrx, h.loose b]
  refine and_iff_left_of_imp ?_
  rintro ⟨hlive, -⟩ rfl
  rw [s.packets.next_free] at hlive
  cases hlive

lemma accept_step (hT : T.Steady) (hs : s.InOrder T) (msg : List UInt8) {interface : ℕ}
    (hlive : (s.interfaces.cells interface).isSome) (time : UInt32) :
    ∃ r s', (NetOp.run T (.accept msg interface time)).run s = .ok r s' ∧
      NetStep T s (.accept msg interface time) r s' ∧ s.Onward T s' := by
  rcases networkAccept_sent hT hs msg hlive time with
    ⟨hnone, rv, ps, hrun, -, hgrows, hps⟩ | ⟨p, fate, rv, s', hp, hfate, hrun, hsent⟩
  · have hframe : s.NetworkOnly { s with packets := ps } :=
      ⟨rfl, rfl, rfl, rfl, rfl, fun _ => rfl⟩
    have hholds : NodeHolds T { s with packets := ps } s.txPackets s.rxPackets s.routes :=
      hs.congr (hs.network.queues.congr rfl rfl rfl (fun q _ => hps q.addr)) hframe rfl rfl rfl
        hs.ordinary
    refine ⟨_, _, run_bind_ok hrun, .refused msg interface time rfl ?_ hholds.txPackets
      hholds.rxPackets hholds.network.table.routes rfl, hholds.inOrder, hframe, rfl, hgrows, ?_⟩
    · simp [NetOp.handed, hnone]
    · intro b
      rw [hholds.txPackets, hholds.rxPackets]
      unfold Globals.Loose
      rw [hps b]
  · have hop : (NetOp.accept msg interface time).handed T = some (p, time) := by
      simp [NetOp.handed, hp]
    exact ⟨_, s', run_bind_ok hrun, hsent.handled hop hfate⟩

lemma send_step (hT : T.Steady) (hs : s.InOrder T) (hsend : s.Sendable T p) (time : UInt32) :
    ∃ r s', (NetOp.run T (.send p time)).run s = .ok r s' ∧
      NetStep T s (.send p time) r s' ∧ s.Onward T s' := by
  have halloc : (zoom Globals.packetsLens (Heap.alloc p)).run s =
      .ok s.packets.next { s with packets := s.packets.push p } :=
    run_zoom_ok (l := Globals.packetsLens) (Heap.alloc_run _ _)
  have hfresh := next_notMem hs.network.queues
  have hcells : ∀ b, b ≠ s.packets.next → (s.packets.push p).cells b = s.packets.cells b := by
    intro b hb
    rw [Heap.push_cells, if_neg hb]
  have hnew : ({ s with packets := s.packets.push p } : Globals δ).packets.cells s.packets.next =
      some p := by
    simp [Heap.push_cells]
  obtain ⟨rv, s', hrun, hsent, -⟩ := networkSendPacket_sent hT (hs.setPackets hfresh hcells) hnew
    hfresh ⟨hsend.live, hsend.idRequest, hsend.rip⟩ time rfl
  have hcall : (sendNew T p time).run s = .ok rv s' := by
    unfold sendNew
    rw [run_bind_ok halloc, hrun]
  exact ⟨_, s', run_bind_ok hcall,
    (hsent.ofNew (Nat.lt_succ_self _) hcells).handled rfl rfl⟩

lemma transmit_step (hT : T.Steady) (hs : s.InOrder T) (time : UInt32) :
    ∃ r s', (NetOp.run T (.transmit time)).run s = .ok r s' ∧
      NetStep T s (.transmit time) r s' ∧ s.Onward T s' := by
  by_cases hempty : s.txPackets = []
  · have hqueues := hs.network.queues
    rw [hempty] at hqueues
    exact ⟨_, s, run_bind_ok (networkSendTx_empty hqueues time), .idle hempty, hs,
      Globals.NetworkOnly.refl s, rfl, Nat.le_refl _, fun _ => Iff.rfl⟩
  obtain ⟨xs, q, ys, htx, hcursor⟩ := exists_cursor hs.network.queues hempty
  have hholds : NodeHolds T s (xs ++ q :: ys) s.rxPackets s.routes := htx ▸ hs
  obtain ⟨exit, n, tx', s', hrun, hout, hmoved⟩ := networkSendTx_outcome hT hholds hcursor time
  have htx' := hmoved.holds.txPackets
  have hrx' := hmoved.holds.rxPackets
  have hgrows : s.packets.next ≤ s'.packets.next := by
    rw [hmoved.created]
    omega
  refine ⟨_, s', run_bind_ok hrun, .transmitted time xs q ys n htx hcursor (htx'.symm ▸ hout) hrx'
    hmoved.holds.network.table.routes hmoved.created, hmoved.holds.inOrder, hmoved.frame,
    hmoved.links, hgrows, ?_⟩
  intro b
  rw [htx', hrx', htx]
  exact hmoved.loose b

lemma check_step (hs : s.InOrder T) (time : UInt32) :
    ∃ r s', (NetOp.run T (.check time)).run s = .ok r s' ∧
      NetStep T s (.check time) r s' ∧ s.Onward T s' := by
  obtain ⟨table, top, hrun, htable⟩ := routingTableCheck_run (T := T) hs.network.table time
  have hframe : s.NetworkOnly { s with routingTable := table, routingTableTop := top } :=
    ⟨rfl, rfl, rfl, rfl, rfl, fun _ => rfl⟩
  have hholds : NodeHolds T { s with routingTable := table, routingTableTop := top } s.txPackets
      s.rxPackets (routesLeft (RoutingEntry.expired T time) s.routes) := by
    refine ⟨⟨hs.network.queues.congr rfl rfl rfl (fun _ _ => rfl), htable⟩, ?_, hs.links,
      hs.ordinary⟩
    intro e he
    exact hs.routes e ((routesLeft_sublist _ _).subset he)
  refine ⟨_, _, run_bind_ok hrun, .checked hholds.txPackets hholds.rxPackets htable.routes rfl,
    hholds.inOrder, hframe, rfl, Nat.le_refl _, ?_⟩
  intro b
  rw [hholds.txPackets, hholds.rxPackets]
  exact Iff.rfl

/-- Every allowed operation succeeds and leaves the node in order. -/
theorem NetOp.step (hT : T.Steady) (hs : s.InOrder T) {op : NetOp} (hop : op.Allowed T s) :
    ∃ r s', (op.run T).run s = .ok r s' ∧ NetStep T s op r s' ∧ s.Onward T s' := by
  cases op with
  | accept msg interface time => exact accept_step hT hs msg hop time
  | send p time => exact send_step hT hs hop time
  | transmit time => exact transmit_step hT hs time
  | check time => exact check_step hs time

lemma NetOp.Allowed.congr {s' : Globals δ} (hframe : s.NetworkOnly s') {op : NetOp} :
    op.Allowed T s' ↔ op.Allowed T s := by
  cases op with
  | accept msg interface time => simp only [NetOp.Allowed, hframe.interfaces]
  | send p time =>
    constructor
    · rintro ⟨hlive, hid, hrip⟩
      exact ⟨fun a ha => (hframe.interfaces a) ▸ hlive a ha, hid, hrip⟩
    · rintro ⟨hlive, hid, hrip⟩
      exact ⟨fun a ha => (hframe.interfaces a).symm ▸ hlive a ha, hid, hrip⟩
  | transmit time => exact Iff.rfl
  | check time => exact Iff.rfl

/-- A node that is in order and has the interfaces that it started with. -/
structure Globals.Running (T : Target δ) (s t : Globals δ) : Prop where
  inOrder : t.InOrder T
  frame : s.NetworkOnly t

lemma Globals.Running.start (hs : s.InOrder T) : s.Running T s :=
  ⟨hs, Globals.NetworkOnly.refl s⟩

/-- One step of a run. -/
lemma Globals.Running.step {t u : Globals δ} (hT : T.Steady) (ht : s.Running T t) {op : NetOp}
    {r : NetResult} (hop : op.Allowed T s) (hrun : (op.run T).run t = .ok r u) :
    NetStep T t op r u ∧ t.Onward T u ∧ s.Running T u := by
  obtain ⟨r', u', hrun', hstep, honward⟩ :=
    NetOp.step hT ht.inOrder ((NetOp.Allowed.congr ht.frame).mpr hop)
  obtain ⟨rfl, rfl⟩ := EStateM.Result.ok.inj (hrun.symm.trans hrun')
  exact ⟨hstep, honward, honward.inOrder, ht.frame.trans honward.frame⟩

lemma Globals.Running.ofTrace {t : Globals δ} {tr : List (NetOp × NetResult)} (hT : T.Steady)
    (hs : s.InOrder T) (htrace : Trace (NetOp.run T) s tr t)
    (hallowed : ∀ x ∈ tr, x.1.Allowed T s) : s.Running T t :=
  htrace.invariant (A := NetOp.Allowed T s) (I := fun _ => s.Running T) hallowed
    (Globals.Running.start hs) (fun _ _ _ _ _ hop ht hrun => (ht.step hT hop hrun).2.2)

/-- Every sequence of allowed operations runs through. -/
theorem netRun_complete (hT : T.Steady) (hs : s.InOrder T) {ops : List NetOp}
    (hops : ∀ op ∈ ops, op.Allowed T s) :
    ∃ tr t, Trace (NetOp.run T) s tr t ∧ tr.map Prod.fst = ops ∧ s.Running T t := by
  refine Trace.complete (I := s.Running T) (A := NetOp.Allowed T s) ?_
    (Globals.Running.start hs) hops
  intro op t hop ht
  obtain ⟨r, u, hrun, -, honward⟩ := NetOp.step hT ht.inOrder
    ((NetOp.Allowed.congr ht.frame).mpr hop)
  exact ⟨r, u, hrun, honward.inOrder, ht.frame.trans honward.frame⟩

end Steps

end ZejfMeteo
