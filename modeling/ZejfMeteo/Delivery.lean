import ZejfMeteo.Flooding
import ZejfMeteo.Lib.Parcels

/-!
# Delivery in a network

Once the announcements have gone through a network, its nodes send messages to each other. A
packet waits in a transmit queue, flies over a link and waits again, until it is in the receive
queue of the device that it is for; the nodes pass it on as `Lib/Parcels` has it.
-/

namespace ZejfMeteo
open Runs Format Parcels

/-! ### What is passed on -/

structure Load where
  command : UInt8
  text : List UInt8
deriving DecidableEq

/-- What the next device gets of a packet. -/
def Packet.carried (p : Packet) : Packet :=
  { packetCreate with
    fromId := p.fromId
    toId := p.toId
    command := p.command
    ttl := p.ttl
    flags := p.flags
    message := some p.text }

lemma packetText_carried (p : Packet) : packetText p.carried = packetText p :=
  packetText_congr rfl rfl rfl rfl rfl rfl

/-- A packet survives a hop, if it has not come too far. -/
lemma acceptedPacket_carried {δ : Type} {T : Target δ} {p : Packet} (hplain : PlainText p.text)
    (hlen : p.text.length < 2 ^ 16) (hnear : ¬T.packetMaxTtl ≤ (p.ttl + 1).toNat) (a : ℕ) :
    ∃ q, acceptedPacket T (packetText p) a = some q ∧ q.sourceInterface = some a ∧
      q.carried = { p.carried with ttl := p.ttl + 1 } := by
  obtain ⟨q, hread, hcontent⟩ := packetFromString_packetText p hplain hlen packetCreate
  unfold acceptedPacket
  rw [hread]
  dsimp only
  rw [hcontent.ttl, if_neg hnear]
  refine ⟨_, rfl, rfl, ?_⟩
  unfold Packet.carried Packet.text
  simp only [hcontent.fromId, hcontent.toId, hcontent.command, hcontent.flags, hcontent.message,
    Option.getD_some]
  rfl

section Untouched

variable {δ : Type} {T : Target δ} {γ : Type} {f : Globals δ → γ} {s : Globals δ} {a : ℕ}
  {p : Packet}

lemma keeps_tableEntry (i : ℕ) : Keeps f (tableEntry i) := by
  unfold tableEntry
  apply keeps_bind keeps_get
  intro s
  split
  · exact keeps_pure _
  · exact keeps_fault _
  · exact keeps_fault _

lemma keeps_routingEntryFind (id : UInt16) : Keeps f (routingEntryFind (δ := δ) id) := by
  have hfrom : ∀ n i, Keeps f (findEntryFrom (δ := δ) id i n) := by
    intro n
    induction n with
    | zero => exact fun i => keeps_pure _
    | succ n ih =>
      intro i
      unfold findEntryFrom
      apply keeps_bind (keeps_tableEntry i)
      intro e
      exact keeps_ite (keeps_pure _) (ih _)
  unfold routingEntryFind
  exact keeps_bind keeps_get (fun s => hfrom _ _)

lemma keeps_packetRemove (htx : ∀ q s, f (Globals.txQueueLens.set q s) = f s)
    (hps : ∀ h s, f (Globals.packetsLens.set h s) = f s)
    (hnext : ∀ (n : Option ℕ) (s : Globals δ), f { s with nextPacket := n } = f s) (node : ℕ) :
    Keeps f (packetRemove node) := by
  have hlist : ∀ {g : Option ℕ → Run (Globals δ) Unit}, Keeps f (g none) →
      (∀ packet, Keeps f (g (some packet))) →
      Keeps f (zoom Globals.txQueueLens (listRemove (some node)) >>= g) := by
    intro g hnone hsome
    apply keeps_bind (keeps_zoom htx _)
    intro item
    cases item with
    | none => exact hnone
    | some packet => exact hsome packet
  unfold packetRemove
  apply keeps_bind keeps_get
  intro s
  apply keeps_ite
  · apply keeps_bind (keeps_zoom htx _)
    intro c
    apply keeps_bind (keeps_set (fun s => hnext _ s))
    intro _
    exact hlist (keeps_pure _) (fun packet => keeps_zoom hps _)
  · exact hlist (keeps_pure _) (fun packet => keeps_zoom hps _)

/-- A packet of another device that is no request for an id and no announcement stays away from
the platform, the interfaces and the table. -/
lemma networkSendPacket_untouched (htx : ∀ q s, f (Globals.txQueueLens.set q s) = f s)
    (hrx : ∀ q s, f (Globals.rxQueueLens.set q s) = f s)
    (hps : ∀ h s, f (Globals.packetsLens.set h s) = f s)
    (hp : s.packets.cells a = some p) (hother : p.fromId ≠ T.deviceId)
    (hcommand : p.command ≠ idRequest ∧ p.command ≠ rip) (time : UInt32) :
    f (leaves ((networkSendPacket T a time).run s)) = f s := by
  have hread : ∀ b, Keeps f (readPacket (δ := δ) b) := fun b => keeps_zoom hps _
  have hdestroy : ∀ rv, Keeps f (do
      packetDestroy a
      return rv : Run (Globals δ) ZejfErr) :=
    fun rv => keeps_bind (keeps_zoom hps _) (fun _ => keeps_pure _)
  have hpush : Keeps f (networkPushPacket T a) := by
    unfold networkPushPacket
    apply keeps_bind (hread a)
    intro p
    exact keeps_ite (keeps_bind (keeps_zoom hrx _) (fun _ => keeps_pure _))
      (keeps_bind (keeps_zoom htx _) (fun _ => keeps_pure _))
  have hqueue : Keeps f (do
      updatePacket a (fun p => { p with timeReceived := time, timeSent := 0 })
      let rv ← networkPushPacket T a
      if rv ≠ .ok then
        packetDestroy a
        return .outOfMemory
      return .ok : Run (Globals δ) ZejfErr) := by
    apply keeps_bind (keeps_zoom hps _)
    intro _
    apply keeps_bind hpush
    intro rv
    exact keeps_ite (hdestroy _) (keeps_pure _)
  rw [networkSendPacket, run_bind_ok (readPacket_run hp), if_neg (fun h => hother h.1)]
  dsimp only
  rw [if_neg (fun h => hother h.1), if_neg hcommand.1, if_neg hcommand.2]
  refine keeps_bind keeps_get (fun s' => ?_) s
  apply keeps_ite (hdestroy _)
  apply keeps_ite
  · exact keeps_ite (hdestroy _) hqueue
  · exact hqueue

lemma keeps_readInterface (i : Option ℕ) : Keeps f (readInterface (δ := δ) i) := by
  cases i with
  | none => exact keeps_fault _
  | some b =>
    intro s
    cases hb : (Globals.interfacesLens.get s).cells b with
    | none =>
      have hrun : (Heap.read b).run (Globals.interfacesLens.get s) =
          .error .useAfterFree (Globals.interfacesLens.get s) := by
        unfold Heap.read
        rw [run_bind_ok (EStateM.run_get _), hb]
        rfl
      rw [readInterface, run_zoom_error hrun, Lens.set_get]
      rfl
    | some i =>
      rw [readInterface, run_zoom_ok (Heap.read_run hb), Lens.set_get]
      rfl

lemma keeps_networkSendVia (hplatform : ∀ (p : δ) (s : Globals δ), f { s with platform := p } = f s)
    (msg : List UInt8) (interface : Option ℕ) (time : UInt32) :
    Keeps f (networkSendVia T msg interface time) := by
  unfold networkSendVia
  apply keeps_bind (keeps_readInterface interface)
  intro i s
  exact hplatform _ s

/-- The transmit step leaves the interfaces alone as long as every packet in the queue is for
one device. -/
lemma networkSendTx_interfaces {tx rx : List Queued} (hs : s.QueuesHold tx rx)
    (hto : ∀ q ∈ tx, q.packet.toId ≠ broadcast) (time : UInt32) :
    (leaves ((networkSendTx T time).run s)).interfaces = s.interfaces := by
  have hremove := keeps_packetRemove (δ := δ) (f := Globals.interfaces) (fun _ _ => rfl)
    (fun _ _ => rfl) (fun _ _ => rfl)
  have hone : ∀ node, Keeps Globals.interfaces (nextOne (δ := δ) node) := fun node =>
    keeps_bind (keeps_zoom (fun _ _ => rfl) _) (fun c => keeps_set (fun _ => rfl))
  have hpackets : ∀ {α : Type} (x : Run (Heap Packet) α),
      Keeps (Globals.interfaces (δ := δ)) (zoom Globals.packetsLens x) :=
    fun x => keeps_zoom (fun _ _ => rfl) x
  have hsend : ∀ a i, Keeps Globals.interfaces (prepareAndSend T a i time) := by
    intro a i
    have hbuffer : Keeps Globals.interfaces (packetToBuffer T a) :=
      keeps_bind (hpackets _) (fun p => keeps_bind (hpackets _) (fun _ => keeps_pure _))
    refine keeps_bind hbuffer (fun x => keeps_ite (keeps_pure _) ?_)
    exact keeps_bind (hpackets _) (fun _ => keeps_networkSendVia (fun _ _ => rfl) _ _ _)
  by_cases hne : tx = []
  · subst hne
    rw [networkSendTx_empty hs]
    rfl
  obtain ⟨xs, q, ys, rfl, hcursor⟩ := exists_cursor hs hne
  have hset : ({ s with nextPacket := some q.node } : Globals δ).QueuesHold (xs ++ q :: ys) rx :=
    ⟨hs.txHolds, hs.rxHolds, hs.live, hs.distinct, by simp⟩
  rw [networkSendTx_cursor hs hcursor, transmitPacket, run_bind_ok hset.node_run]
  dsimp only
  rw [run_bind_ok (readPacket_run (hset.cell (q := q) (by simp))), if_neg (hto q (by simp))]
  refine keeps_ite (f := Globals.interfaces) ?_ ?_ { s with nextPacket := some q.node }
  · exact keeps_bind (hremove _) (fun _ => keeps_pure _)
  · refine keeps_bind (keeps_routingEntryFind _) (fun found => ?_)
    cases found with
    | none => exact keeps_bind (hremove _) (fun _ => keeps_pure _)
    | some index =>
      refine keeps_bind (hpackets _) (fun _ => keeps_bind (keeps_tableEntry _) (fun e => ?_))
      refine keeps_bind (hsend _ _) (fun rv => keeps_ite ?_ ?_)
      · exact keeps_bind (hone _) (fun _ => keeps_pure _)
      · exact keeps_bind (hremove _) (fun _ => keeps_pure _)

end Untouched

/-! ### The network -/

/-- What happens on the network, and what the code returns. -/
inductive Carriage (ι : Type)
  | sent (x : Parcel ι Load) (rv : ZejfErr)
  | transmitted (exit : TxExit)
  | delivered (rv : ZejfErr)

/-- A transmit step that finds a packet, or a line that gets to the other end. -/
def Carriage.moves {ι : Type} : Carriage ι → Bool
  | .sent _ _ => false
  | .transmitted exit => exit != .empty
  | .delivered _ => true

def Carriage.taken {ι : Type} : Carriage ι → Option (Parcel ι Load)
  | .sent x rv => if rv = .ok then some x else none
  | _ => none

/-- What `networkSendPacket` has taken from the devices themselves. -/
def taken {ι : Type} (es : List (Carriage ι)) : List (Parcel ι Load) :=
  es.filterMap Carriage.taken

lemma taken_append {ι : Type} (es es' : List (Carriage ι)) :
    taken (es ++ es') = taken es ++ taken es' :=
  List.filterMap_append

/-- What the clock of a device shows, counted from its start. -/
def clockAt {ι : Type} (boot : ι → ℕ) (now : ℕ) (u : ι) : UInt32 := UInt32.ofNat (boot u + now)

section Network

variable {ι : Type} [Fintype ι] (W : Wiring ι)

/-- The links take every line, and no device has the broadcast address. -/
structure Wiring.Reliable : Prop where
  answers : ∀ u msg i time p, ((W.node u).networkSendVia msg i time p).1 = .ok
  unicast : ∀ u, (W.node u).deviceId ≠ broadcast
  tableSize : ∀ u, (W.node u).routingTableSize < 64536

/-- An ordinary message that fits into a line of every device. -/
structure Wiring.Carriable (load : Load) : Prop where
  command : load.command ≠ idRequest ∧ load.command ≠ rip
  plain : PlainText load.text
  short : load.text.length < 2 ^ 16
  fits : ∀ u, load.text.length + 50 < (W.node u).packetMaxLength

/-- The packet of a parcel after some hops. -/
def Wiring.packet (x : Trip ι Load) : Packet :=
  { packetCreate with
    fromId := (W.node x.origin).deviceId
    toId := (W.node x.target).deviceId
    command := x.load.command
    ttl := UInt8.ofNat x.hops
    message := some x.load.text }

section Steps

variable [DecidableEq ι] (boot : ι → ℕ)

/-- A device sends a message, a device takes a transmit step, or a line gets to the other
end. -/
inductive Wiring.Carry (now : ℕ) (N : ι → Globals Outbox) :
    Carriage ι → (ι → Globals Outbox) → Prop
  | send (u d : ι) (command : UInt8) (msg : Option (List UInt8))
    (hload : W.Carriable ⟨command, msg.getD []⟩) (rv : ZejfErr) (s : Globals Outbox)
    (hrun : (do
        let packet ← networkPreparePacket (W.node u) (W.node d).deviceId command msg
        networkSendPacket (W.node u) packet (clockAt boot now u)).run (N u) = .ok rv s) :
    Carry now N (.sent ⟨u, d, ⟨command, msg.getD []⟩⟩ rv) (Function.update N u s)
  | transmit (u : ι) (exit : TxExit) (s : Globals Outbox)
    (hrun : (networkSendTx (W.node u) (clockAt boot now u)).run (N u) = .ok exit s) :
    Carry now N (.transmitted exit) (Function.update N u s)
  | deliver (u : ι) (a : ℕ) (ha : a < W.ports u) (line : List UInt8)
    (pre post : List (ℤ × List UInt8))
    (hflying : (N u).platform.flying = pre ++ (W.uid u a, line) :: post) (rv : ZejfErr)
    (s : Globals Outbox)
    (hrun : (networkAccept (W.node (W.peer u a).1) line line.length (W.peer u a).2
      (clockAt boot now (W.peer u a).1)).run (leaving N u (pre ++ post) (W.peer u a).1) =
        .ok rv s) :
    Carry now N (.delivered rv) (Function.update (leaving N u (pre ++ post)) (W.peer u a).1 s)

/-- The networks after some events, the last of them at a time. -/
inductive Wiring.Carries (start : ℕ) (N₀ : ι → Globals Outbox) :
    List (Carriage ι) → ℕ → (ι → Globals Outbox) → Prop
  | start : Carries start N₀ [] start N₀
  | snoc {es now N later e M} : Carries start N₀ es now N → now ≤ later →
      W.Carry boot later N e M → Carries start N₀ (es ++ [e]) later M

end Steps

/-- The announcements have gone through, and nothing else has been sent. -/
structure Wiring.Settled (N : ι → Globals Outbox) : Prop where
  holds : ∀ u, NodeHolds (W.node u) (N u) [] [] (N u).routes
  routes : ∀ u, W.Routes u (N u).routes
  interfaces : ∀ u, ∀ a < W.ports u,
    ((N u).interfaces.cells a).map Interface.uid = some (W.uid u a)
  flying : ∀ u, (N u).platform.flying = []
  ways : W.ShortestWays N

/-- Some packet may have waited too long, or there may be more packets than some queue holds. -/
def Wiring.Exceeds (N : ι → Globals Outbox) (start : ℕ) (es : List (Carriage ι)) (now : ℕ) : Prop :=
  ∃ u, (W.node u).packetDeleteTimeout ≤ now - start ∨
    (N u).txQueue.capacity < (taken es).length ∨ (N u).rxQueue.capacity < (taken es).length

/-! ### Ways -/

/-- The interface of the route to a device. -/
def Wiring.portTo (N : ι → Globals Outbox) (u d : ι) : Option ℕ :=
  (routeTo (N u).routes (W.node d).deviceId).map Prod.snd

section Ways

variable {W} {N : ι → Globals Outbox} {u d : ι}

lemma Wiring.Settled.port_iff (h : W.Settled N) {a : ℕ} : W.portTo N u d = some a ↔
    ∃ e ∈ (N u).routes, e.deviceId = (W.node d).deviceId ∧ e.interface = some a := by
  unfold Wiring.portTo
  constructor
  · intro hport
    obtain ⟨⟨k, b⟩, hroute, rfl⟩ := Option.map_eq_some_iff.mp hport
    obtain ⟨e, he, hid, -, hb⟩ := (routeTo_eq_some (h.routes u).distinct).mp hroute
    exact ⟨e, he, hid, hb⟩
  · rintro ⟨e, he, hid, ha⟩
    have hroute := (routeTo_eq_some (h.routes u).distinct).mpr ⟨e, he, hid, rfl, ha⟩
    rw [hroute]
    rfl

lemma Wiring.Settled.port_entry (h : W.Settled N) (hport : (W.portTo N u d).isSome) :
    ∃ k : ℕ, W.graph.edist u d = k ∧ 1 ≤ k ∧ k < W.maxTtl := by
  obtain ⟨a, ha⟩ := Option.isSome_iff_exists.mp hport
  obtain ⟨e, he, hid, -⟩ := h.port_iff.mp ha
  obtain ⟨d', hd', hdist⟩ := (h.ways.entries u e.deviceId _).mp ⟨e, he, rfl, rfl⟩
  obtain rfl := W.deviceId_inj (hd'.trans hid)
  exact ⟨_, hdist⟩

lemma Wiring.Settled.port_of_dist (h : W.Settled N) {k : ℕ} (hdist : W.graph.edist u d = k)
    (hpos : 1 ≤ k) (hnear : k < W.maxTtl) : (W.portTo N u d).isSome := by
  obtain ⟨e, he, hid, -⟩ := (h.ways.entries u _ k).mpr ⟨d, rfl, hdist, hpos, hnear⟩
  obtain ⟨a, ha⟩ := Option.isSome_iff_exists.mp ((h.routes u).interfaces e he)
  rw [h.port_iff.mpr ⟨e, he, hid, ha⟩]
  rfl

omit [Fintype ι] in
lemma edist_peer (L : Flood.Links ι) {a : ℕ} (ha : a < L.ports u) (d : ι) :
    L.graph.edist u d ≤ L.graph.edist (L.peer u a).1 d + 1 := by
  by_cases hloop : u = (L.peer u a).1
  · rw [← hloop]
    exact le_self_add
  · have hadj : L.graph.Adj u (L.peer u a).1 := ⟨hloop, a, ha, rfl⟩
    rw [add_comm]
    refine SimpleGraph.edist_triangle.trans (add_le_add_left ?_ _)
    exact (SimpleGraph.edist_eq_one_iff_adj.mpr hadj).le

/-- The link of a route is one hop closer. -/
lemma Wiring.Settled.port_closer (h : W.Settled N) {a : ℕ} (hport : W.portTo N u d = some a) :
    a < W.ports u ∧ ∃ k : ℕ, W.graph.edist (W.peer u a).1 d = k ∧ W.graph.edist u d = (k + 1 : ℕ) ∧
      k + 1 < W.maxTtl := by
  obtain ⟨e, he, hid, ha⟩ := h.port_iff.mp hport
  obtain ⟨b, hb, hb', hcloser⟩ := h.ways.interfaces u e he d hid
  obtain rfl := Option.some.inj (ha.symm.trans hb')
  obtain ⟨k, hk, -, hlimit⟩ := h.port_entry (u := u) (d := d) (by rw [hport]; rfl)
  have hnear := edist_peer W.toLinks hb d
  obtain ⟨j, hj⟩ := ENat.ne_top_iff_exists.mp hcloser.ne_top
  rw [← hj, hk] at hcloser hnear
  have hlt : j < k := by exact_mod_cast hcloser
  have hle : k ≤ j + 1 := by exact_mod_cast hnear
  obtain rfl : k = j + 1 := by omega
  exact ⟨hb, j, hj.symm, hk, hlimit⟩

/-- The ways of the tables. -/
noncomputable def Wiring.Settled.toWays (h : W.Settled N) : Ways ι where
  next u d := (W.portTo N u d).map (fun a => (W.peer u a).1)
  dist := W.graph.dist
  dist_self _ := SimpleGraph.dist_self
  closer := by
    intro u d v hnext
    obtain ⟨a, hport, rfl⟩ := Option.map_eq_some_iff.mp hnext
    obtain ⟨-, k, hpeer, hself, -⟩ := h.port_closer hport
    unfold SimpleGraph.dist
    rw [hpeer, hself]
    rfl
  onward := by
    intro u d v hnext
    obtain ⟨a, hport, rfl⟩ := Option.map_eq_some_iff.mp hnext
    obtain ⟨-, k, hpeer, -, hlimit⟩ := h.port_closer hport
    by_cases hk : k = 0
    · left
      rw [hk] at hpeer
      exact SimpleGraph.edist_eq_zero_iff.mp hpeer
    · right
      rw [Option.isSome_map]
      exact h.port_of_dist hpeer (by omega) (by omega)

lemma Wiring.Settled.next_isSome (h : W.Settled N) :
    (h.toWays.next u d).isSome = (W.portTo N u d).isSome := Option.isSome_map

lemma Wiring.Settled.near (h : W.Settled N) (hnext : (h.toWays.next u d).isSome) :
    W.graph.dist u d < W.maxTtl := by
  rw [h.next_isSome] at hnext
  obtain ⟨k, hk, -, hlimit⟩ := h.port_entry hnext
  unfold SimpleGraph.dist
  rw [hk]
  exact hlimit

end Ways

/-! ### A node and its parcels -/

/-- The state of a node shows which parcels wait in it, are on its links and have arrived. -/
structure Wiring.Bears (boot : ι → ℕ) (start now : ℕ) (N : ι → Globals Outbox) (u : ι)
    (s : Globals Outbox) (queue links inbox : List (Trip ι Load)) : Prop where
  holds : NodeHolds (W.node u) s s.txPackets s.rxPackets (N u).routes
  capacity : s.txQueue.capacity = (N u).txQueue.capacity ∧
    s.rxQueue.capacity = (N u).rxQueue.capacity
  interfaces : ∀ a < W.ports u, (s.interfaces.cells a).map Interface.uid = some (W.uid u a)
  waiting : s.txPackets.map (fun q => q.packet.carried) = queue.map W.packet
  arrived : s.rxPackets.map (fun q => q.packet.carried) = inbox.map W.packet
  flying : s.platform.flying = links.map (fun x =>
    (W.uid u ((W.portTo N u x.target).getD 0), packetText (W.packet x)))
  received : ∀ q ∈ s.txPackets, ∃ r, start ≤ r ∧ r ≤ now ∧
    q.packet.timeReceived = clockAt boot r u
  loads : ∀ x ∈ queue ++ links, W.Carriable x.load

section Nodes

variable {W} {boot : ι → ℕ} {start now : ℕ} {N : ι → Globals Outbox} {u d : ι}
  {s : Globals Outbox} {queue links inbox : List (Trip ι Load)}

lemma Wiring.Settled.bears (h : W.Settled N) (boot : ι → ℕ) (start : ℕ) (u : ι) :
    W.Bears boot start start N u (N u) [] [] [] := by
  have hholds := h.holds u
  have htx := hholds.txPackets
  have hrx := hholds.rxPackets
  refine ⟨?_, ⟨rfl, rfl⟩, h.interfaces u, ?_, ?_, h.flying u, ?_, ?_⟩
  · rw [htx, hrx]
    exact hholds
  · rw [htx]
    rfl
  · rw [hrx]
    rfl
  · rw [htx]
    intro q hq
    cases hq
  · intro x hx
    cases hx

lemma Wiring.Bears.later (h : W.Bears boot start now N u s queue links inbox) {later : ℕ}
    (hle : now ≤ later) : W.Bears boot start later N u s queue links inbox where
  holds := h.holds
  capacity := h.capacity
  interfaces := h.interfaces
  waiting := h.waiting
  arrived := h.arrived
  flying := h.flying
  received q hq := by
    obtain ⟨r, hstart, hnow, hr⟩ := h.received q hq
    exact ⟨r, hstart, hnow.trans hle, hr⟩
  loads := h.loads

/-- The next state of a node over the same table and the same interfaces. -/
lemma Wiring.Bears.next (h : W.Bears boot start now N u s queue links inbox) {s' : Globals Outbox}
    {tx rx : List Queued} (hholds : NodeHolds (W.node u) s' tx rx (N u).routes)
    (hframe : s.NetworkOnly s') (his : s'.interfaces = s.interfaces)
    {queue' links' inbox' : List (Trip ι Load)}
    (htx : tx.map (fun q => q.packet.carried) = queue'.map W.packet)
    (hrx : rx.map (fun q => q.packet.carried) = inbox'.map W.packet)
    (hflying : s'.platform.flying = links'.map (fun x =>
      (W.uid u ((W.portTo N u x.target).getD 0), packetText (W.packet x))))
    (hreceived : ∀ q ∈ tx, q ∈ s.txPackets ∨ q.packet.timeReceived = clockAt boot now u)
    (hle : start ≤ now) (hloads : ∀ x ∈ queue' ++ links', W.Carriable x.load) :
    W.Bears boot start now N u s' queue' links' inbox' := by
  have htx' := hholds.txPackets
  have hrx' := hholds.rxPackets
  refine ⟨by rwa [htx', hrx'], ?_, by rw [his]; exact h.interfaces, by rwa [htx'], by rwa [hrx'],
    hflying, ?_, hloads⟩
  · exact ⟨hframe.txCapacity.trans h.capacity.1, hframe.rxCapacity.trans h.capacity.2⟩
  · rw [htx']
    intro q hq
    rcases hreceived q hq with hold | hnew
    · exact h.received q hold
    · exact ⟨now, hle, Nat.le_refl _, hnew⟩

/-- A device takes a message of its own, or refuses it. -/
lemma Wiring.Bears.send (hW : W.Reliable) (hN : W.Settled N)
    (h : W.Bears boot start now N u s queue links inbox) (hle : start ≤ now) (d : ι)
    (command : UInt8) (msg : Option (List UInt8)) (hload : W.Carriable ⟨command, msg.getD []⟩) :
    ∃ rv s', (do
        let packet ← networkPreparePacket (W.node u) (W.node d).deviceId command msg
        networkSendPacket (W.node u) packet (clockAt boot now u)).run s = .ok rv s' ∧
      if rv = .ok then (W.portTo N u d).isSome ∧ W.Bears boot start now N u s'
        (queue ++ [⟨⟨u, d, ⟨command, msg.getD []⟩⟩, 0⟩]) links inbox
      else W.Bears boot start now N u s' queue links inbox := by
  obtain ⟨tq, ps, hrun, hcap, hq, -, -⟩ := send_own (T := W.node u) h.holds.network.queues
    h.holds.network.table (W.node d).deviceId hload.command.1 hload.command.2 msg
    (clockAt boot now u)
  have hframe : s.NetworkOnly { s with txQueue := tq, packets := ps } :=
    ⟨rfl, rfl, rfl, hcap, rfl, fun _ => rfl⟩
  refine ⟨_, _, hrun, ?_⟩
  by_cases hok : sendResult (W.node u) (N u).routes (listIsFull s.txQueue) (W.node d).deviceId = .ok
  · rw [if_pos hok] at hq ⊢
    have hfound : (W.node d).deviceId ∈ (N u).routes.map RoutingEntry.deviceId := by
      by_contra hnone
      have hmissing := findIdx?_deviceId_none.mpr hnone
      unfold sendResult at hok
      by_cases hself : (W.node d).deviceId = (W.node u).deviceId
      · rw [if_pos hself] at hok
        cases hok
      · rw [if_neg hself, if_pos ⟨hW.unicast d, hmissing⟩] at hok
        cases hok
    obtain ⟨e, he, hid⟩ := List.mem_map.mp hfound
    obtain ⟨a, ha⟩ := Option.isSome_iff_exists.mp ((hN.routes u).interfaces e he)
    have hport : (W.portTo N u d).isSome := by
      rw [hN.port_iff.mpr ⟨e, he, hid, ha⟩]
      rfl
    have hholds := h.holds.congr hq hframe rfl rfl rfl (by
      intro q hmem
      simp only [List.mem_append, List.mem_singleton] at hmem
      rcases hmem with (hold | rfl) | hold
      · exact h.holds.ordinary q (List.mem_append_left _ hold)
      · exact hload.command
      · exact h.holds.ordinary q (List.mem_append_right _ hold))
    refine ⟨hport, h.next hholds hframe rfl ?_ h.arrived h.flying ?_ hle ?_⟩
    · rw [List.map_append, List.map_append, h.waiting]
      rfl
    · intro q hmem
      rcases List.mem_append.mp hmem with hold | hnew
      · exact Or.inl hold
      · rw [List.mem_singleton.mp hnew]
        exact Or.inr rfl
    · intro x hx
      simp only [List.mem_append, List.mem_singleton] at hx
      rcases hx with (hold | rfl) | hold
      · exact h.loads x (List.mem_append_left _ hold)
      · exact hload
      · exact h.loads x (List.mem_append_right _ hold)
  · rw [if_neg hok] at hq ⊢
    exact h.next (h.holds.congr hq hframe rfl rfl rfl h.holds.ordinary) hframe rfl h.waiting
      h.arrived h.flying (fun q hq => Or.inl hq) hle h.loads

omit [Fintype ι] in
lemma clockAt_sub (boot : ι → ℕ) {r : ℕ} (hr : r ≤ now) (u : ι) :
    (clockAt boot now u - clockAt boot r u).toNat ≤ now - r := by
  have hsplit : clockAt boot now u = clockAt boot r u + UInt32.ofNat (now - r) := by
    unfold clockAt
    rw [← UInt32.ofNat_add]
    congr 1
    omega
  rw [hsplit, UInt32.add_comm, UInt32.add_sub_cancel, UInt32.toNat_ofNat']
  exact Nat.mod_le _ _

/-- A transmit step puts a packet on a link, unless it has waited too long. -/
lemma Wiring.Bears.transmit (hW : W.Reliable) (hN : W.Settled N)
    (h : W.Bears boot start now N u s queue links inbox) (hle : start ≤ now)
    (hways : ∀ x ∈ queue, (W.portTo N u x.target).isSome) :
    ∃ exit s', (networkSendTx (W.node u) (clockAt boot now u)).run s = .ok exit s' ∧
      (exit = .empty ∧ s' = s ∧ queue = [] ∨
      exit ≠ .empty ∧ ∃ pre x post, queue = pre ++ x :: post ∧
        (W.Bears boot start now N u s' (pre ++ post) (links ++ [x]) inbox ∨
        (W.node u).packetDeleteTimeout ≤ now - start ∧
          W.Bears boot start now N u s' (pre ++ post) links inbox)) := by
  have hqueues := h.holds.network.queues
  by_cases hempty : s.txPackets = []
  · have hwaiting := h.waiting
    rw [hempty] at hwaiting hqueues
    exact ⟨_, _, networkSendTx_empty hqueues _, Or.inl ⟨rfl, rfl, List.map_eq_nil_iff.mp
      hwaiting.symm⟩⟩
  have hsteady : (W.node u).Steady := ⟨hW.tableSize u, fun _ _ _ _ => by
    rw [W.allInterfaces, W.allInterfaces]⟩
  have hto : ∀ q ∈ s.txPackets, ∃ x ∈ queue, q.packet.carried = W.packet x := by
    intro q hq
    have hmem : q.packet.carried ∈ queue.map W.packet := by
      rw [← h.waiting]
      exact List.mem_map_of_mem hq
    obtain ⟨x, hx, hsame⟩ := List.mem_map.mp hmem
    exact ⟨x, hx, hsame.symm⟩
  have hunicast : ∀ q ∈ s.txPackets, q.packet.toId ≠ broadcast := by
    intro q hq
    obtain ⟨x, -, hsame⟩ := hto q hq
    have htoId := congrArg Packet.toId hsame
    exact fun hb => hW.unicast x.target (htoId.symm.trans hb)
  have his := networkSendTx_interfaces (T := W.node u) hqueues hunicast (clockAt boot now u)
  obtain ⟨xs, q, ys, htx, hcursor⟩ := exists_cursor hqueues hempty
  have hholds := h.holds
  rw [htx] at hholds
  obtain ⟨exit, n, tx', s', hrun, hout, hmoved⟩ := networkSendTx_outcome hsteady hholds hcursor
    (clockAt boot now u)
  rw [hrun] at his
  have hwaiting := h.waiting
  rw [htx, List.map_append, List.map_cons] at hwaiting
  obtain ⟨pre, rest, hqueue, hpre, hrest⟩ := List.map_eq_append_iff.mp hwaiting.symm
  obtain ⟨x, post, rfl, hx, hpost⟩ := List.map_eq_cons_iff.mp hrest
  have hleft : (xs ++ ys).map (fun q => q.packet.carried) = (pre ++ post).map W.packet := by
    rw [List.map_append, List.map_append, hpre, hpost]
  have hreceived : ∀ r ∈ xs ++ ys, r ∈ s.txPackets ∨
      r.packet.timeReceived = clockAt boot now u := by
    intro r hr
    rw [htx]
    rcases List.mem_append.mp hr with hbefore | hafter
    · exact Or.inl (List.mem_append_left _ hbefore)
    · exact Or.inl (List.mem_append_right _ (List.mem_cons_of_mem q hafter))
  refine ⟨exit, s', hrun, Or.inr ⟨?_, pre, x, post, hqueue, ?_⟩⟩
  · rintro rfl
    cases hout
  have hloads : ∀ y ∈ pre ++ post ++ (links ++ [x]), W.Carriable y.load := by
    intro y hy
    apply h.loads
    rw [hqueue]
    simp only [List.mem_append, List.mem_cons, List.not_mem_nil, or_false] at hy ⊢
    rcases hy with (hbefore | hafter) | hlink | hlast
    · simp [hbefore]
    · simp [hafter]
    · simp [hlink]
    · simp [hlast]
  have hport := hways x (by simp [hqueue])
  have htarget : q.packet.toId = (W.node x.target).deviceId := (congrArg Packet.toId hx).symm
  generalize s'.nextPacket = cursor at hout
  generalize hplatform : s'.platform = platform at hout
  cases hout with
  | timeout hold =>
    right
    obtain ⟨r, hstart, hnow, hr⟩ := h.received q (by simp [htx])
    have hsub := clockAt_sub boot hnow u
    rw [hr] at hold
    refine ⟨by omega, h.next hmoved.holds hmoved.frame his hleft h.arrived ?_ hreceived hle ?_⟩
    · rw [hplatform]
      exact h.flying
    · intro y hy
      apply hloads
      rw [← List.append_assoc]
      exact List.mem_append_left _ hy
  | expanded sent hfresh hb => exact absurd hb (hunicast q (by simp [htx]))
  | blocked hfresh hb => exact absurd hb (hunicast q (by simp [htx]))
  | noRoute hfresh hb hnone =>
    obtain ⟨a, ha⟩ := Option.isSome_iff_exists.mp hport
    obtain ⟨e, he, hid, -⟩ := hN.port_iff.mp ha
    exact absurd (List.mem_map.mpr ⟨e, he, hid.trans htarget.symm⟩) hnone
  | unable e platform hfresh hb he hanswer =>
    obtain ⟨i, -, hvia⟩ := hanswer
    have hok := hW.answers u (q.packet.wire (W.node u)) i (clockAt boot now u) s.platform
    rw [hvia] at hok
    cases hok
  | attempted e rv platform hfresh hb he hanswer hrv =>
    left
    obtain ⟨i, hi, hvia⟩ := hanswer
    have hid : e.deviceId = (W.node x.target).deviceId := by
      rw [← htarget]
      simpa using List.find?_some he
    obtain ⟨a, ha⟩ := Option.isSome_iff_exists.mp
      ((hN.routes u).interfaces e (List.mem_of_find?_eq_some he))
    have hporta : W.portTo N u x.target = some a :=
      hN.port_iff.mpr ⟨e, List.mem_of_find?_eq_some he, hid, ha⟩
    obtain ⟨hlt, -⟩ := hN.port_closer hporta
    have huid : i.uid = W.uid u a := by
      have hcell := h.interfaces a hlt
      rw [ha] at hi
      rw [show s.interfaces.cells a = some i from hi] at hcell
      exact Option.some.inj hcell
    have hline : q.packet.wire (W.node u) = packetText (W.packet x) := by
      have hfits := (hloads x (by simp)).fits u
      have hlen := length_packetText_le (W.packet x)
      rw [show (W.packet x).text = x.load.text from rfl] at hlen
      unfold Packet.wire
      rw [← packetText_carried q.packet, ← hx]
      exact List.take_of_length_le (by omega)
    have hflying : platform.flying = s.platform.flying ++ [(i.uid, q.packet.wire (W.node u))] := by
      have hsends := W.sendVia u (q.packet.wire (W.node u)) i (clockAt boot now u) s.platform
      rw [hvia] at hsends
      rw [show platform = _ from hsends]
    refine h.next hmoved.holds hmoved.frame his hleft h.arrived ?_ hreceived hle hloads
    rw [hplatform, hflying, h.flying, List.map_append, huid, hline, List.map_singleton, hporta]
    rfl

/-- A line from another device is queued, unless the queue that it is for is full. -/
lemma Wiring.Bears.accept (hW : W.Reliable)
    (h : W.Bears boot start now N u s queue links inbox) (hle : start ≤ now) {a : ℕ}
    (ha : a < W.ports u) {x : Trip ι Load} (hload : W.Carriable x.load)
    (hnear : x.hops + 1 < W.maxTtl) (horigin : x.origin ≠ u) :
    ∃ rv s', (networkAccept (W.node u) (packetText (W.packet x)) (packetText (W.packet x)).length a
        (clockAt boot now u)).run s = .ok rv s' ∧
      (x.target = u → W.Bears boot start now N u s' queue links (inbox ++ [x.hop]) ∨
        (N u).rxQueue.capacity ≤ inbox.length ∧ W.Bears boot start now N u s' queue links inbox) ∧
      (x.target ≠ u → W.Bears boot start now N u s' (queue ++ [x.hop]) links inbox ∨
        (N u).txQueue.capacity ≤ queue.length ∧
          W.Bears boot start now N u s' queue links inbox) := by
  have hmax := W.maxTtl_lt
  have httl : (W.packet x).ttl + 1 = UInt8.ofNat (x.hops + 1) := by
    rw [UInt8.ofNat_add]
    rfl
  have hhops : ¬(W.node u).packetMaxTtl ≤ ((W.packet x).ttl + 1).toNat := by
    rw [httl, UInt8.toNat_ofNat', Nat.mod_eq_of_lt (by omega), W.packetMaxTtl]
    omega
  obtain ⟨p, hp, hsource, hcarried⟩ := acceptedPacket_carried (p := W.packet x) (T := W.node u)
    hload.plain hload.short hhops a
  rw [httl] at hcarried
  have hhop : p.carried = W.packet x.hop := hcarried
  have hfrom : p.fromId ≠ (W.node u).deviceId := by
    have hid : p.fromId = (W.node x.origin).deviceId := congrArg Packet.fromId hhop
    rw [hid]
    exact fun he => horigin (W.deviceId_inj he)
  have hto : p.toId = (W.node x.target).deviceId := congrArg Packet.toId hhop
  have hcommand : p.command ≠ idRequest ∧ p.command ≠ rip := by
    have hsame : p.command = x.load.command := congrArg Packet.command hhop
    rw [hsame]
    exact hload.command
  have hsteady : (W.node u).Steady := ⟨hW.tableSize u, fun _ _ _ _ => by
    rw [W.allInterfaces, W.allInterfaces]⟩
  have hlive : (s.interfaces.cells a).isSome := by
    rw [← Option.isSome_map (f := Interface.uid), h.interfaces a ha]
    rfl
  rcases networkAccept_sent hsteady h.holds (packetText (W.packet x)) hlive (clockAt boot now u)
    with ⟨hnone, -⟩ | ⟨p', fate, rv, s', hp', hfate, hrun, hsent⟩
  · rw [hp] at hnone
    cases hnone
  obtain rfl := Option.some.inj (hp.symm.trans hp')
  refine ⟨rv, s', hrun, ?_⟩
  -- Neither the platform nor the interfaces are touched.
  obtain ⟨ps, hsend, hnew, -, -⟩ := networkAccept_accepted hp s (clockAt boot now u)
  have huntouched := networkSendPacket_untouched (T := W.node u) (s := { s with packets := ps })
    (f := fun s : Globals Outbox => (s.platform, s.interfaces)) (fun _ _ => rfl) (fun _ _ => rfl)
    (fun _ _ => rfl) hnew hfrom hcommand (clockAt boot now u)
  rw [← hsend, hrun] at huntouched
  obtain ⟨hplatform, his⟩ := Prod.mk.inj huntouched
  have hflying := h.flying
  rw [← show s'.platform = s.platform from hplatform] at hflying
  have howner : ¬(p.fromId ≠ (W.node u).deviceId ∧ p.sourceInterface = none) := by
    rw [hsource]
    simp
  unfold Packet.fate at hfate
  rw [if_neg (fun hown => hfrom hown.1), if_neg (fun hown => hfrom hown.1), if_neg hcommand.1,
    if_neg hcommand.2, if_neg howner] at hfate
  have hroutes : routesAfter (W.node u) (N u).routes p (clockAt boot now u) fate =
      (N u).routes := by
    cases fate with
    | rip =>
      exfalso
      split at hfate <;> split at hfate <;> cases hfate
    | _ => rfl
  have hholds := hsent.holds
  rw [hroutes] at hholds
  have hloads : ∀ ys : List (Trip ι Load), (∀ y ∈ ys, y ∈ queue ++ links ∨ y = x.hop) →
      ∀ y ∈ ys, W.Carriable y.load := by
    intro ys hys y hy
    rcases hys y hy with hold | rfl
    · exact h.loads y hold
    · exact hload
  have hkept : fate = .full → W.Bears boot start now N u s' queue links inbox := by
    rintro rfl
    exact h.next hholds hsent.frame his h.waiting h.arrived hflying (fun q hq => Or.inl hq) hle
      h.loads
  refine ⟨fun hself => ?_, fun hself => ?_⟩
  · have hown : p.toId = (W.node u).deviceId := by rw [hto, hself]
    rw [if_pos hown] at hfate
    by_cases hfull : listIsFull s.rxQueue = true
    · rw [if_pos hfull] at hfate
      right
      rw [h.holds.network.queues.rxHolds.isFull, decide_eq_true_iff, List.length_map] at hfull
      have hlen := congrArg List.length h.arrived
      rw [List.length_map, List.length_map] at hlen
      have hcap := h.capacity.2
      exact ⟨by omega, hkept hfate.symm⟩
    · rw [if_neg hfull] at hfate
      subst hfate
      left
      unfold Globals.txAfter Globals.rxAfter at hholds
      rw [if_neg (fun hb => hb.2 hown), if_pos ⟨rfl, hown⟩] at hholds
      refine h.next hholds hsent.frame his h.waiting ?_ hflying (fun q hq => Or.inl hq) hle h.loads
      rw [List.map_append, List.map_append, h.arrived, List.map_singleton, List.map_singleton,
        ← hhop]
      rfl
  · have hother : p.toId ≠ (W.node u).deviceId := by
      rw [hto]
      exact fun he => hself (W.deviceId_inj he)
    rw [if_neg hother] at hfate
    by_cases hfull : listIsFull s.txQueue = true
    · rw [if_pos hfull] at hfate
      right
      rw [h.holds.network.queues.txHolds.isFull, decide_eq_true_iff, List.length_map] at hfull
      have hlen := congrArg List.length h.waiting
      rw [List.length_map, List.length_map] at hlen
      have hcap := h.capacity.1
      exact ⟨by omega, hkept hfate.symm⟩
    · rw [if_neg hfull] at hfate
      subst hfate
      left
      unfold Globals.txAfter Globals.rxAfter at hholds
      rw [if_pos ⟨rfl, hother⟩, if_neg (fun hb => hother hb.2)] at hholds
      refine h.next hholds hsent.frame his ?_ h.arrived hflying ?_ hle ?_
      · rw [List.map_append, List.map_append, h.waiting, List.map_singleton, List.map_singleton,
          ← hhop]
        rfl
      · intro q hq
        rcases List.mem_append.mp hq with hold | hlast
        · exact Or.inl hold
        · rw [List.mem_singleton.mp hlast]
          exact Or.inr rfl
      · apply hloads
        intro y hy
        simp only [List.mem_append, List.mem_singleton] at hy ⊢
        rcases hy with (hold | hlast) | hlink
        · exact Or.inl (Or.inl hold)
        · exact Or.inr hlast
        · exact Or.inl (Or.inr hlink)

end Nodes

section Runs

variable {W} {boot : ι → ℕ} {start now later : ℕ} {N₀ N M : ι → Globals Outbox} {u : ι}
  {es : List (Carriage ι)} {e : Carriage ι} {fs : List Parcels.Event} {S S' : Parcels.State ι Load}

/-- The nodes show where all parcels are. -/
def Wiring.Shown (boot : ι → ℕ) (start now : ℕ) (N₀ N : ι → Globals Outbox)
    (S : Parcels.State ι Load) : Prop :=
  ∀ u, W.Bears boot start now N₀ u (N u) (S.items (.queue, u)) (S.items (.links, u))
    (S.items (.inbox, u))

variable [DecidableEq ι]

lemma Wiring.Shown.update (h : W.Shown boot start now N₀ N S) {s : Globals Outbox}
    (hu : W.Bears boot start now N₀ u s (S'.items (.queue, u)) (S'.items (.links, u))
      (S'.items (.inbox, u)))
    (hothers : ∀ w, w ≠ u → ∀ spot, S'.items (spot, w) = S.items (spot, w)) :
    W.Shown boot start now N₀ (Function.update N u s) S' := by
  intro w
  by_cases hw : w = u
  · subst hw
    rw [Function.update_self]
    exact hu
  · rw [Function.update_of_ne hw, hothers w hw, hothers w hw, hothers w hw]
    exact h w

/-- A run of the network and the moves of its parcels. -/
structure Wiring.Follows (hN : W.Settled N₀) (boot : ι → ℕ) (start : ℕ)
    (es : List (Carriage ι)) (now : ℕ) (N : ι → Globals Outbox) (fs : List Parcels.Event)
    (S : Parcels.State ι Load) : Prop where
  le : start ≤ now
  reaches : Parcels.Reaches hN.toWays fs S
  shown : W.Shown boot start now N₀ N S
  sent : S.sent = taken es
  moves : fs.count .moved + fs.count .lost = es.countP Carriage.moves
  lost : S.lost ≠ [] → W.Exceeds N₀ start es now

omit [DecidableEq ι] in
lemma Wiring.Exceeds.mono (h : W.Exceeds N₀ start es now) (hle : now ≤ later) (e : Carriage ι) :
    W.Exceeds N₀ start (es ++ [e]) later := by
  obtain ⟨u, hu⟩ := h
  refine ⟨u, ?_⟩
  rw [taken_append, List.length_append]
  omega

lemma count_event (fs : List Parcels.Event) (f g : Parcels.Event) :
    (fs ++ [f]).count g = fs.count g + if f = g then 1 else 0 := by
  rw [List.count_append, List.count_singleton]
  by_cases hf : f = g
  · simp [hf]
  · simp [hf]

lemma Wiring.Follows.sends {hN : W.Settled N₀} (h : W.Follows hN boot start es now N fs S)
    (hle : now ≤ later) (hW : W.Reliable) (u d : ι) (command : UInt8) (msg : Option (List UInt8))
    (hload : W.Carriable ⟨command, msg.getD []⟩) :
    ∃ rv s, (do
        let packet ← networkPreparePacket (W.node u) (W.node d).deviceId command msg
        networkSendPacket (W.node u) packet (clockAt boot later u)).run (N u) = .ok rv s ∧
      ∃ fs' S', W.Follows hN boot start (es ++ [.sent ⟨u, d, ⟨command, msg.getD []⟩⟩ rv]) later
        (Function.update N u s) fs' S' := by
  have hshown : W.Shown boot start later N₀ N S := fun w => (h.shown w).later hle
  have hstart := h.le.trans hle
  obtain ⟨rv, s, hrun, hnext⟩ := (hshown u).send hW hN hstart d command msg hload
  refine ⟨rv, s, hrun, ?_⟩
  have hmoves : es.countP Carriage.moves =
      (es ++ [Carriage.sent ⟨u, d, ⟨command, msg.getD []⟩⟩ rv]).countP Carriage.moves := by
    rw [List.countP_append]
    rfl
  by_cases hok : rv = .ok
  · rw [if_pos hok] at hnext
    subst hok
    have hway : (hN.toWays.next u d).isSome := by
      rw [hN.next_isSome]
      exact hnext.1
    refine ⟨fs ++ [.sent], S.send ⟨u, d, ⟨command, msg.getD []⟩⟩, hstart,
      h.reaches.snoc (.send _ hway), ?_, ?_, ?_, fun hlost => (h.lost hlost).mono hle _⟩
    · refine hshown.update ?_ (fun w hw spot =>
        State.put_other (fun he => hw (congrArg Prod.snd he)))
      have hbears := hnext.2
      unfold State.send
      simp only [State.put_self]
      rw [State.put_other (by simp), State.put_other (by simp)]
      exact hbears
    · rw [taken_append, ← h.sent]
      rfl
    · rw [← hmoves, count_event, count_event]
      exact h.moves
  · rw [if_neg hok] at hnext
    refine ⟨fs, S, hstart, h.reaches, hshown.update hnext (fun _ _ _ => rfl), ?_,
      h.moves.trans hmoves, fun hlost => (h.lost hlost).mono hle _⟩
    have hnone : Carriage.taken (.sent (⟨u, d, ⟨command, msg.getD []⟩⟩ : Parcel ι Load) rv) =
        none := if_neg hok
    rw [taken_append, h.sent]
    unfold taken
    rw [List.filterMap_cons_none hnone, List.filterMap_nil, List.append_nil]

lemma Wiring.Follows.transmits {hN : W.Settled N₀} (h : W.Follows hN boot start es now N fs S)
    (hle : now ≤ later) (hW : W.Reliable) (u : ι) :
    ∃ exit s, (networkSendTx (W.node u) (clockAt boot later u)).run (N u) = .ok exit s ∧
      ((N u).txPackets ≠ [] → exit ≠ .empty) ∧
      ∃ fs' S', W.Follows hN boot start (es ++ [.transmitted exit]) later
        (Function.update N u s) fs' S' := by
  have hshown : W.Shown boot start later N₀ N S := fun w => (h.shown w).later hle
  have hstart := h.le.trans hle
  have haccounted := h.reaches.accounted
  have hways : ∀ x ∈ S.items (.queue, u), (hN.toWays.next u x.target).isSome := fun x hx =>
    (haccounted.onWay _ x hx).2
  obtain ⟨exit, s, hrun, hnext⟩ := (hshown u).transmit hW hN hstart
    (fun x hx => hN.next_isSome ▸ hways x hx)
  have hsent : taken (es ++ [.transmitted exit]) = taken es := by
    rw [taken_append]
    exact List.append_nil _
  have hmoves : (es ++ [Carriage.transmitted (ι := ι) exit]).countP Carriage.moves =
      es.countP Carriage.moves + if exit = .empty then 0 else 1 := by
    rw [List.countP_append, List.countP_singleton]
    by_cases hexit : exit = .empty
    · simp [Carriage.moves, hexit]
    · simp [Carriage.moves, hexit]
  refine ⟨exit, s, hrun, ?_, ?_⟩
  · intro hne
    rcases hnext with ⟨-, -, hqueue⟩ | ⟨hexit, -⟩
    · have hwaiting := (hshown u).waiting
      rw [hqueue, List.map_nil, List.map_eq_nil_iff] at hwaiting
      exact absurd hwaiting hne
    · exact hexit
  rcases hnext with ⟨rfl, rfl, -⟩ | ⟨hexit, pre, x, post, hqueue, hmoved | ⟨hold, hlost⟩⟩
  · refine ⟨fs, S, hstart, h.reaches, ?_, h.sent.trans hsent.symm, ?_,
      fun hlost => (h.lost hlost).mono hle _⟩
    · rw [Function.update_eq_self]
      exact hshown
    · rw [hmoves]
      exact h.moves
  · have hx : (hN.toWays.next u x.target).isSome := hways x (by simp [hqueue])
    refine ⟨fs ++ [.moved], (S.take (.queue, u) (pre ++ post)).put (.links, u) x, hstart,
      h.reaches.snoc (.move hqueue (.leave hx)), ?_, h.sent.trans hsent.symm, ?_,
      fun hlost => (h.lost hlost).mono hle _⟩
    · refine hshown.update ?_ ?_
      · rw [State.put_other (by simp), State.take_self, State.put_self,
          State.take_other (by simp), State.put_other (by simp), State.take_other (by simp)]
        exact hmoved
      · intro w hw spot
        rw [State.put_other (fun he => hw (congrArg Prod.snd he)),
          State.take_other (fun he => hw (congrArg Prod.snd he))]
    · rw [hmoves, if_neg hexit, count_event, count_event, ← h.moves]
      simp only [reduceCtorEq, if_true, if_false]
      omega
  · refine ⟨fs ++ [.lost], S.lose (.queue, u) x (pre ++ post), hstart,
      h.reaches.snoc (.lose hqueue (by simp)), ?_, h.sent.trans hsent.symm, ?_,
      fun _ => ⟨u, Or.inl hold⟩⟩
    · refine hshown.update ?_ ?_
      · unfold State.lose
        dsimp only
        rw [State.take_self, State.take_other (by simp), State.take_other (by simp)]
        exact hlost
      · intro w hw spot
        exact State.take_other (fun he => hw (congrArg Prod.snd he)) _
    · rw [hmoves, if_neg hexit, count_event, count_event, ← h.moves]
      simp only [reduceCtorEq, if_true, if_false]
      omega

/-- A line on a link is that of a parcel on the way over this link. -/
lemma Wiring.Shown.takeLine (hN : W.Settled N₀) (h : W.Shown boot start now N₀ N S)
    (hle : start ≤ now) (hways : ∀ x ∈ S.items (.links, u), (W.portTo N₀ u x.target).isSome)
    {a : ℕ} (ha : a < W.ports u) {line : List UInt8} {fpre fpost : List (ℤ × List UInt8)}
    (hflying : (N u).platform.flying = fpre ++ (W.uid u a, line) :: fpost) :
    ∃ pre x post, S.items (.links, u) = pre ++ x :: post ∧ W.portTo N₀ u x.target = some a ∧
      line = packetText (W.packet x) ∧
      W.Shown boot start now N₀ (leaving N u (fpre ++ fpost))
        (S.take (.links, u) (pre ++ post)) := by
  have hnotes := (h u).flying
  rw [hflying] at hnotes
  obtain ⟨pre, rest, hlinks, hpre, hrest⟩ := List.map_eq_append_iff.mp hnotes.symm
  obtain ⟨x, post, rfl, hx, hpost⟩ := List.map_eq_cons_iff.mp hrest
  obtain ⟨b, hb⟩ := Option.isSome_iff_exists.mp (hways x (by simp [hlinks]))
  obtain ⟨hlt, -⟩ := hN.port_closer hb
  rw [hb] at hx
  obtain ⟨huid, hline⟩ := Prod.mk.inj hx
  obtain rfl := W.uid_inj hlt ha huid
  refine ⟨pre, x, post, hlinks, hb, hline.symm, ?_⟩
  have hu := h u
  have hframe : (N u).NetworkOnly
      { N u with platform := { (N u).platform with flying := fpre ++ fpost } } :=
    ⟨rfl, rfl, rfl, rfl, rfl, fun _ => rfl⟩
  have hqueues : ({ N u with platform := { (N u).platform with flying := fpre ++ fpost } } :
      Globals Outbox).QueuesHold (N u).txPackets (N u).rxPackets :=
    hu.holds.network.queues.congr rfl rfl rfl (fun _ _ => rfl)
  have hholds := hu.holds.congr hqueues hframe rfl rfl (by rw [W.allInterfaces, W.allInterfaces])
    hu.holds.ordinary
  refine h.update (hu.next hholds hframe rfl ?_ ?_ ?_ (fun q hq => Or.inl hq) hle ?_) ?_
  · rw [State.take_other (by simp)]
    exact hu.waiting
  · rw [State.take_other (by simp)]
    exact hu.arrived
  · rw [State.take_self, List.map_append, hpre, hpost]
  · intro y hy
    apply hu.loads
    rw [State.take_other (by simp), State.take_self] at hy
    rw [hlinks]
    simp only [List.mem_append, List.mem_cons] at hy ⊢
    rcases hy with hwaiting | hbefore | hafter
    · exact Or.inl hwaiting
    · exact Or.inr (Or.inl hbefore)
    · exact Or.inr (Or.inr (Or.inr hafter))
  · intro w hw spot
    exact State.take_other (fun he => hw (congrArg Prod.snd he)) _

lemma Wiring.Follows.delivers {hN : W.Settled N₀} (h : W.Follows hN boot start es now N fs S)
    (hle : now ≤ later) (hW : W.Reliable) {a : ℕ} (ha : a < W.ports u) {line : List UInt8}
    {fpre fpost : List (ℤ × List UInt8)}
    (hflying : (N u).platform.flying = fpre ++ (W.uid u a, line) :: fpost) :
    ∃ rv s, (networkAccept (W.node (W.peer u a).1) line line.length (W.peer u a).2
        (clockAt boot later (W.peer u a).1)).run (leaving N u (fpre ++ fpost) (W.peer u a).1) =
        .ok rv s ∧
      ∃ fs' S', W.Follows hN boot start (es ++ [.delivered rv]) later
        (Function.update (leaving N u (fpre ++ fpost)) (W.peer u a).1 s) fs' S' := by
  have hshown : W.Shown boot start later N₀ N S := fun w => (h.shown w).later hle
  have hstart := h.le.trans hle
  have haccounted := h.reaches.accounted
  have hways : ∀ x ∈ S.items (.links, u), (W.portTo N₀ u x.target).isSome := by
    intro x hx
    rw [← hN.next_isSome]
    exact (haccounted.onWay _ x hx).2
  obtain ⟨pre, x, post, hlinks, hport, rfl, hleft⟩ := hshown.takeLine hN hstart hways ha hflying
  generalize hv : (W.peer u a).1 = v at hleft ⊢
  have hx : x ∈ S.items (.links, u) := by simp [hlinks]
  have hnext : hN.toWays.next u x.target = some v := by
    change (W.portTo N₀ u x.target).map _ = _
    rw [hport, Option.map_some, hv]
  have hload : W.Carriable x.load := (hshown u).loads x (List.mem_append_right _ hx)
  -- The parcel has not gone all of its way yet.
  have hhops : x.hops + W.graph.dist u x.target = W.graph.dist x.origin x.target :=
    (haccounted.onWay _ x hx).1
  have hcloser : W.graph.dist v x.target + 1 = W.graph.dist u x.target := hN.toWays.closer hnext
  have hnear := hN.near (haccounted.sent _ (haccounted.mem_sent hx))
  have horigin : x.origin ≠ v := by
    rintro rfl
    omega
  obtain ⟨rv, s, hrun, htarget, hother⟩ := (hleft v).accept hW hstart (hv ▸ W.peer_lt ha) hload
    (by omega) horigin
  refine ⟨rv, s, hrun, ?_⟩
  have hsent : taken (es ++ [.delivered rv]) = taken es := by
    rw [taken_append]
    exact List.append_nil _
  have hmoves : (es ++ [Carriage.delivered (ι := ι) rv]).countP Carriage.moves =
      es.countP Carriage.moves + 1 := by
    rw [List.countP_append]
    rfl
  -- The parcel moves on or is lost.
  have hmove : ∀ {q}, hN.toWays.Moves (.links, u) x q x.hop → (q = (.inbox, v) ∨ q = (.queue, v)) →
      W.Bears boot start later N₀ v s
        (((S.take (.links, u) (pre ++ post)).put q x.hop).items (.queue, v))
        (((S.take (.links, u) (pre ++ post)).put q x.hop).items (.links, v))
        (((S.take (.links, u) (pre ++ post)).put q x.hop).items (.inbox, v)) →
      ∃ fs' S', W.Follows hN boot start (es ++ [.delivered rv]) later
        (Function.update (leaving N u (fpre ++ fpost)) v s) fs' S' := by
    intro q hmoves' hq hbears
    refine ⟨fs ++ [.moved], (S.take (.links, u) (pre ++ post)).put q x.hop, hstart,
      h.reaches.snoc (.move hlinks hmoves'), hleft.update hbears ?_, h.sent.trans hsent.symm, ?_,
      fun hlost => (h.lost hlost).mono hle _⟩
    · intro w hw spot
      apply State.put_other
      rcases hq with rfl | rfl <;> exact fun he => hw (congrArg Prod.snd he)
    · rw [hmoves, count_event, count_event, ← h.moves]
      simp only [reduceCtorEq, if_true, if_false]
      omega
  have hlose : W.Exceeds N₀ start (es ++ [.delivered rv]) later →
      W.Bears boot start later N₀ v s
        ((S.take (.links, u) (pre ++ post)).items (.queue, v))
        ((S.take (.links, u) (pre ++ post)).items (.links, v))
        ((S.take (.links, u) (pre ++ post)).items (.inbox, v)) →
      ∃ fs' S', W.Follows hN boot start (es ++ [.delivered rv]) later
        (Function.update (leaving N u (fpre ++ fpost)) v s) fs' S' := by
    intro hexceeds hbears
    refine ⟨fs ++ [.lost], S.lose (.links, u) x (pre ++ post), hstart,
      h.reaches.snoc (.lose hlinks (by simp)), hleft.update hbears (fun _ _ _ => rfl),
      h.sent.trans hsent.symm, ?_, fun _ => hexceeds⟩
    rw [hmoves, count_event, count_event, ← h.moves]
    simp only [reduceCtorEq, if_true, if_false]
    omega
  have hone : 1 ≤ (S.items (.links, u)).length := List.length_pos_of_mem hx
  by_cases hself : x.target = v
  · rcases htarget hself with hbears | ⟨hfull, hbears⟩
    · subst hself
      refine hmove (.arrive hnext) (Or.inl rfl) ?_
      rw [State.put_other (by simp), State.put_other (by simp), State.put_self]
      exact hbears
    · refine hlose ⟨v, ?_⟩ hbears
      rw [State.take_other (by simp)] at hfull
      have hroom := haccounted.room (p := (.inbox, v)) (q := (.links, u)) (by simp)
      rw [hsent, ← h.sent]
      omega
  · rcases hother hself with hbears | ⟨hfull, hbears⟩
    · refine hmove (.pass hnext (Ne.symm hself)) (Or.inr rfl) ?_
      rw [State.put_self, State.put_other (by simp), State.put_other (by simp)]
      exact hbears
    · refine hlose ⟨v, ?_⟩ hbears
      rw [State.take_other (by simp)] at hfull
      have hroom := haccounted.room (p := (.queue, v)) (q := (.links, u)) (by simp)
      rw [hsent, ← h.sent]
      omega

end Runs

section Start

variable {W} {N₀ N₁ N : ι → Globals Outbox} {u : ι} {events : List (Flood.Event ι)}

/-- Announcements stay out of the queues. -/
lemma networkAccept_ripLine_queues {s : Globals Outbox} {T : Target Outbox}
    {routes : List RoutingEntry} (ht : s.TableHolds T.routingTableSize routes)
    (hlinks : ∀ b ∈ T.getAllInterfaces s.platform, (s.interfaces.cells b).isSome) {a : ℕ}
    {i : Interface} (hlive : s.interfaces.cells a = some i) (id : UInt16) {k : ℕ} (hk : k < 255)
    (time : UInt32) (hs : s.QueuesHold [] []) :
    (leaves ((networkAccept T (ripLine id k) (ripLine id k).length a time).run s)).QueuesHold
      [] [] := by
  rcases acceptedPacket_ripLine (T := T) id hk a with ⟨hrefused, -⟩ | ⟨p, hp, hann, -⟩
  · obtain ⟨rv, ps, hrun, -⟩ := networkAccept_refused hrefused s time
    rw [hrun]
    exact hs.congr rfl rfl rfl (by simp)
  · obtain ⟨ps, hrun, hnew, -, -⟩ := networkAccept_accepted hp s time
    have ht' : ({ s with packets := ps } : Globals Outbox).TableHolds T.routingTableSize routes :=
      ⟨ht.slots, ht.top, ht.bounded⟩
    obtain ⟨rv, ps', table, top, is, hsent, -⟩ := networkSendPacket_announces ht' hlinks hnew hann
      hlive time
    rw [hrun, hsent]
    exact hs.congr rfl rfl rfl (by simp)

variable [DecidableEq ι]

lemma Wiring.Reaches.idle (hfresh : ∀ u, W.Fresh u (N₀ u)) (hidle : ∀ u, (N₀ u).QueuesHold [] [])
    (h : W.Reaches N₀ events N) : ∀ u, (N u).QueuesHold [] [] := by
  induction h with
  | start => exact hidle
  | @snoc es e N M hreach hstep ih =>
    obtain ⟨S, -, hcoupled⟩ := hreach.coupled hfresh
    intro w
    cases hstep with
    | announce u time rv s hrun =>
      by_cases hw : w = u
      · subst hw
        obtain ⟨rv', ps, hrun', -⟩ := networkSendRoutingInfo_run (hcoupled w).links time
        obtain ⟨-, rfl⟩ := EStateM.Result.ok.inj (hrun.symm.trans hrun')
        rw [Function.update_self]
        exact (ih w).congr rfl rfl rfl (by simp)
      · rw [Function.update_of_ne hw]
        exact ih w
    | deliver u a ha line pre post hflying time rv s hrun =>
      have hleft : ∀ w, (leaving N u (pre ++ post) w).QueuesHold [] [] := by
        intro w
        unfold leaving
        by_cases hw : w = u
        · subst hw
          rw [Function.update_self]
          exact (ih w).congr rfl rfl rfl (by simp)
        · rw [Function.update_of_ne hw]
          exact ih w
      by_cases hw : w = (W.peer u a).1
      · subst hw
        obtain ⟨npre, m, npost, -, -, hhops, hline, hshown⟩ := hcoupled.taken hflying
        obtain ⟨-, rfl⟩ := Prod.mk.inj hline
        have hpeer := hshown (W.peer u a).1
        obtain ⟨i, hi, -⟩ := Option.map_eq_some_iff.mp
          (hpeer.interfaces (W.peer u a).2 (W.peer_lt ha))
        have hqueues := networkAccept_ripLine_queues hpeer.holds hpeer.links hi
          (W.node m.origin).deviceId hhops time (hleft _)
        unfold Wiring.line at hrun
        rw [hrun] at hqueues
        rw [Function.update_self]
        exact hqueues
      · rw [Function.update_of_ne hw]
        exact hleft w

/-- Announcements settle a network. -/
lemma Wiring.Reaches.settled (hfresh : ∀ u, W.Fresh u (N₀ u))
    (hidle : ∀ u, (N₀ u).QueuesHold [] []) (h : W.Reaches N₀ events N)
    (hall : ∀ u, .announced u ∈ events) (hquiet : ∀ u, (N u).platform.flying = []) :
    W.Settled N := by
  obtain ⟨S, hS, hcoupled⟩ := h.coupled hfresh
  have hways := hcoupled.shortestWays hS.sound hall hquiet
  have hqueues := h.idle hfresh hidle
  refine ⟨?_, fun u => (hcoupled u).routes, fun u => (hcoupled u).interfaces, hquiet, hways⟩
  intro u
  refine ⟨⟨hqueues u, (hcoupled u).holds⟩, ?_, (hcoupled u).links, by simp⟩
  intro e he
  obtain ⟨d, -, hid⟩ := (hcoupled u).routes.others e he
  obtain ⟨a, ha, hinterface, -⟩ := hways.interfaces u e he d hid
  rw [hinterface, show (N u).interfaceAt (some a) = (N u).interfaces.cells a from rfl,
    ← Option.isSome_map (f := Interface.uid), (hcoupled u).interfaces a ha]
  rfl

end Start

/-! ### Delivery -/

/-- The packet of a parcel that has come the shortest way. -/
noncomputable def Wiring.delivered (x : Parcel ι Load) : Packet :=
  W.packet ⟨x, W.graph.dist x.origin x.target⟩

section Delivery

variable {W} {N₀ N₁ N : ι → Globals Outbox} {floods : List (Flood.Event ι)} {boot : ι → ℕ}
  {start now : ℕ} {es : List (Carriage ι)} [DecidableEq ι]

lemma Wiring.Settled.follows (hN : W.Settled N₁) (boot : ι → ℕ) (start : ℕ) :
    W.Follows hN boot start [] start N₁ [] .start :=
  ⟨Nat.le_refl _, .start, fun u => hN.bears boot start u, rfl, rfl, fun h => absurd rfl h⟩

lemma Wiring.Carries.follows (hW : W.Reliable) (hN : W.Settled N₁)
    (h : W.Carries boot start N₁ es now N) : ∃ fs S, W.Follows hN boot start es now N fs S := by
  induction h with
  | start => exact ⟨_, _, hN.follows boot start⟩
  | snoc hreach hle hstep ih =>
    obtain ⟨fs, S, hfollows⟩ := ih
    cases hstep with
    | send u d command msg hload rv s hrun =>
      obtain ⟨rv', s', hrun', hnext⟩ := hfollows.sends hle hW u d command msg hload
      obtain ⟨rfl, rfl⟩ := EStateM.Result.ok.inj (hrun.symm.trans hrun')
      exact hnext
    | transmit u exit s hrun =>
      obtain ⟨exit', s', hrun', -, hnext⟩ := hfollows.transmits hle hW u
      obtain ⟨rfl, rfl⟩ := EStateM.Result.ok.inj (hrun.symm.trans hrun')
      exact hnext
    | deliver u a ha line pre post hflying rv s hrun =>
      obtain ⟨rv', s', hrun', hnext⟩ := hfollows.delivers hle hW ha hflying
      obtain ⟨rfl, rfl⟩ := EStateM.Result.ok.inj (hrun.symm.trans hrun')
      exact hnext

/-- What is in a receive queue has come the shortest way. -/
lemma Wiring.Follows.arrived {hN : W.Settled N₁} {fs : List Parcels.Event}
    {S : Parcels.State ι Load} (h : W.Follows hN boot start es now N fs S) (v : ι) :
    (N v).rxPackets.map (fun q => q.packet.carried) =
      ((S.items (.inbox, v)).map Trip.toParcel).map W.delivered := by
  rw [(h.shown v).arrived, List.map_map]
  apply List.map_congr_left
  intro x hx
  obtain ⟨hhops, htarget⟩ := h.reaches.accounted.onWay _ x hx
  rw [if_pos rfl] at htarget
  have hdist : W.graph.dist v x.target = 0 := by
    rw [htarget]
    exact SimpleGraph.dist_self
  have hsum : x.hops + W.graph.dist v x.target = W.graph.dist x.origin x.target := hhops
  unfold Wiring.delivered
  rw [Function.comp_apply, ← hsum, hdist, Nat.add_zero]

/-- **Messages find their way.** Announcements have gone through a network; from then on the
devices send messages to each other and the network does its steps in any order. All packets together
are moved at most as often as their shortest ways are long, into a link and out of it, and each is
received at most once, by the device that it is for and unchanged. There is always another step as
long as something is on its way, and when nothing is any more, every message has arrived, unless one
may have waited for longer than `PACKET_DELETE_TIMEOUT` or there were more messages than a queue
holds. -/
theorem messages_delivered (hW : W.Reliable) (hfresh : ∀ u, W.Fresh u (N₀ u))
    (hidle : ∀ u, (N₀ u).QueuesHold [] []) (hflood : W.Reaches N₀ floods N₁)
    (hall : ∀ u, .announced u ∈ floods) (hquiet : ∀ u, (N₁ u).platform.flying = [])
    (h : W.Carries boot start N₁ es now N) :
    es.countP Carriage.moves ≤
        ((taken es).map (fun x => 2 * W.graph.dist x.origin x.target)).sum ∧
      (∀ v, ((N v).rxPackets.map (fun q => q.packet.carried)).Subperm
        (((taken es).filter (fun x => x.target = v)).map W.delivered)) ∧
      (∀ later, now ≤ later →
        (∃ u, (N u).txPackets ≠ [] ∨ (N u).platform.flying ≠ []) →
        ∃ e M, W.Carry boot later N e M ∧ e.moves) ∧
      (¬W.Exceeds N₁ start es now →
        (∀ u, (N u).txPackets = [] ∧ (N u).platform.flying = []) →
        ∀ v, ((N v).rxPackets.map (fun q => q.packet.carried)).Perm
          (((taken es).filter (fun x => x.target = v)).map W.delivered)) := by
  have hN := hflood.settled hfresh hidle hall hquiet
  obtain ⟨fs, S, hfollows⟩ := h.follows hW hN
  have haccounted := hfollows.reaches.accounted
  refine ⟨?_, ?_, ?_, ?_⟩
  · rw [← hfollows.moves, ← hfollows.sent]
    exact haccounted.bounded
  · intro v
    rw [hfollows.arrived v, ← hfollows.sent]
    have hle := Multiset.map_le_map (f := W.delivered) (haccounted.arrived_le v)
    rwa [Multiset.map_coe, Multiset.map_coe, Multiset.coe_le] at hle
  · rintro later hle ⟨u, htx | hflying⟩
    · obtain ⟨exit, s, hrun, hexit, -⟩ := hfollows.transmits hle hW u
      refine ⟨_, _, .transmit u exit s hrun, ?_⟩
      simpa [Carriage.moves] using hexit htx
    · obtain ⟨x, post, hsplit⟩ := List.exists_cons_of_ne_nil hflying
      have hlinks := (hfollows.shown u).flying
      rw [hsplit] at hlinks
      obtain ⟨y, ys, hitems, rfl, -⟩ := List.map_eq_cons_iff.mp hlinks.symm
      have hway : (W.portTo N₁ u y.target).isSome := by
        rw [← hN.next_isSome]
        exact (haccounted.onWay (.links, u) y (by simp [hitems])).2
      obtain ⟨a, ha⟩ := Option.isSome_iff_exists.mp hway
      rw [ha] at hsplit
      have hlt := (hN.port_closer ha).1
      have hflying : (N u).platform.flying =
          [] ++ (W.uid u a, packetText (W.packet y)) :: post := by
        rw [hsplit]
        rfl
      obtain ⟨rv, s, hrun, -⟩ := hfollows.delivers hle hW hlt hflying
      exact ⟨_, _, .deliver u a hlt _ [] post hflying rv s hrun, rfl⟩
  · intro hwithin hdone v
    have hlost : S.lost = [] := by
      by_contra hne
      exact hwithin (hfollows.lost hne)
    have hqueues : ∀ u, S.items (.queue, u) = [] := by
      intro u
      have hwaiting := (hfollows.shown u).waiting
      rw [(hdone u).1] at hwaiting
      exact List.map_eq_nil_iff.mp hwaiting.symm
    have hlinks : ∀ u, S.items (.links, u) = [] := by
      intro u
      have hflying := (hfollows.shown u).flying
      rw [(hdone u).2] at hflying
      exact List.map_eq_nil_iff.mp hflying.symm
    rw [hfollows.arrived v, ← hfollows.sent]
    exact (haccounted.arrived hlost hqueues hlinks v).map _

end Delivery

end Network

/-- The pressure sensor tells the wind sensor a value. -/
def stationMessage : List UInt8 := ascii "2,60,5,7,1013.2"

def stationLoad : Load := ⟨dataLogCommand, stationMessage⟩

def messageSent : Fin 3 → Globals Outbox :=
  Function.update stationsSettled pressStation (leaves ((do
    let packet ← networkPreparePacket (stations.node pressStation)
      (stations.node windStation).deviceId dataLogCommand (some stationMessage)
    networkSendPacket (stations.node pressStation) packet 0).run (stationsSettled pressStation)))

def stationTransmits (u : Fin 3) (N : Fin 3 → Globals Outbox) : Fin 3 → Globals Outbox :=
  Function.update N u (leaves ((networkSendTx (stations.node u) 0).run (N u)))

def stationParcel : Parcel (Fin 3) Load := ⟨pressStation, windStation, stationLoad⟩

def messageLine (k : ℕ) : List UInt8 := packetText (stations.packet ⟨stationParcel, k⟩)

def messageAtServer : Fin 3 → Globals Outbox :=
  stationHeard pressStation 0 (messageLine 0) (stationTransmits pressStation messageSent)

def messageReceived : Fin 3 → Globals Outbox :=
  stationHeard meteoStation 1 (messageLine 1) (stationTransmits meteoStation messageAtServer)

def messageEvents : List (Carriage (Fin 3)) :=
  [.sent stationParcel .ok, .transmitted (.attempt 3 .ok), .delivered .ok,
    .transmitted (.attempt 3 .ok), .delivered .ok]

lemma stations_reliable : stations.Reliable := ⟨fun _ _ _ _ _ => rfl, by decide, by decide⟩

lemma stationLoad_carriable : stations.Carriable stationLoad :=
  ⟨by decide, by decide +kernel, by decide, by decide⟩

lemma stationHeard_carry {N : Fin 3 → Globals Outbox} {u : Fin 3} {a : ℕ} {line : List UInt8}
    (ha : a < stations.ports u)
    (hflying : (N u).platform.flying = (stations.uid u a, line) :: (N u).platform.flying.drop 1)
    (hrun : outcome ((networkAccept (stations.node (stations.peer u a).1) line line.length
      (stations.peer u a).2 0).run
      (leaving N u ((N u).platform.flying.drop 1) (stations.peer u a).1)) = some .ok) :
    stations.Carry (fun _ => 0) 0 N (.delivered .ok) (stationHeard u a line N) :=
  .deliver u a ha line [] _ hflying .ok _ (run_eq_of_outcome hrun)

lemma message_carries :
    stations.Carries (fun _ => 0) 0 stationsSettled messageEvents 0 messageReceived := by
  have hsent : stations.Carry (fun _ => 0) 0 stationsSettled (.sent stationParcel .ok)
      messageSent :=
    .send pressStation windStation dataLogCommand (some stationMessage) stationLoad_carriable .ok
      _ (run_eq_of_outcome (by decide +kernel))
  have hfirst : stations.Carry (fun _ => 0) 0 messageSent (.transmitted (.attempt 3 .ok))
      (stationTransmits pressStation messageSent) :=
    .transmit pressStation _ _ (run_eq_of_outcome (by decide +kernel))
  have hserver : stations.Carry (fun _ => 0) 0 (stationTransmits pressStation messageSent)
      (.delivered .ok) messageAtServer :=
    stationHeard_carry (by decide) (by decide +kernel) (by decide +kernel)
  have hsecond : stations.Carry (fun _ => 0) 0 messageAtServer (.transmitted (.attempt 3 .ok))
      (stationTransmits meteoStation messageAtServer) :=
    .transmit meteoStation _ _ (run_eq_of_outcome (by decide +kernel))
  have hlast : stations.Carry (fun _ => 0) 0 (stationTransmits meteoStation messageAtServer)
      (.delivered .ok) messageReceived :=
    stationHeard_carry (by decide) (by decide +kernel) (by decide +kernel)
  exact .snoc (.snoc (.snoc (.snoc (.snoc .start (Nat.le_refl 0) hsent) (Nat.le_refl 0) hfirst)
    (Nat.le_refl 0) hserver) (Nat.le_refl 0) hsecond) (Nat.le_refl 0) hlast

/-- The message gets from one sensor to the other, over the server. -/
theorem message_delivered :
    ((messageReceived windStation).rxPackets.map (fun q => q.packet.carried)).Perm
      [stations.delivered stationParcel] := by
  have hidle : ∀ u, (stationsSetUp u).QueuesHold [] [] := fun u =>
    (zejfInit_queuesHold (stations.node u) ⟨0, []⟩).congr rfl rfl rfl (by simp)
  obtain ⟨-, -, -, hall⟩ := messages_delivered stations_reliable stations_fresh hidle
    stations_reaches stations_announced stationsSettled_quiet message_carries
  exact hall (by unfold Wiring.Exceeds; decide +kernel) (by decide +kernel) windStation

end ZejfMeteo
