import ZejfMeteo.LostPackets

/-!
# Relaying over the links of the server

`network_send_via` of `serial.c` puts a newline behind a packet in a second buffer of
`PACKET_MAX_LENGTH` bytes. Whether the next hop gets a whole line depends on the length of
the encoding.
-/

namespace ZejfMeteo
open Runs Format

/-- `STDIN_FILENO`. -/
def stdinFileno : ℤ := 0

/-- The file descriptors of the server: what has been handed to `write`, what its calls
return one after the other, and the list of interfaces. -/
structure Descriptors where
  written : List (ℤ × List UInt8)
  results : ℕ → ℤ
  interfaces : List ℕ

def Descriptors.write (fd : ℤ) (bytes : List UInt8) (d : Descriptors) : ℤ × Descriptors :=
  (d.results d.written.length, { d with written := d.written ++ [(fd, bytes)] })

/-- A serial line that is not open. -/
def Interface.closed (i : Interface) : Bool := i.type == .usb && i.handle == stdinFileno

/-- `network_send_via`; there are no other types of interfaces. -/
def serverSendVia (maxLength : ℕ) (msg : List UInt8) (interface : Interface) (_ : UInt32)
    (d : Descriptors) : ZejfErr × Descriptors :=
  if interface.closed then (.ok, d)
  else
    let msg2 := snprintf maxLength [.str msg, .lit newline]
    let (rv, d) := d.write interface.handle msg2
    (if rv ≤ 0 then .io else .ok, d)

/-- The node is the server. -/
structure Target.IsServer (T : Target Descriptors) : Prop where
  settings : T.toSettings = Settings.zejfMeteo
  sendVia : T.networkSendVia = serverSendVia T.packetMaxLength
  interfaces : T.getAllInterfaces = Descriptors.interfaces

variable (T : Target Descriptors)

/-- The packet at an address came in as a line and was queued for transmission; its `ttl` has
been counted up. -/
def AcceptedAs (s : Globals Descriptors) (tr : List (NetOp × NetResult)) (packet : ℕ)
    (p : Packet) : Prop :=
  ∃ pre msg interface time r post t u, tr = pre ++ (.accept msg interface time, r) :: post ∧
    Trace (NetOp.run T) s pre t ∧ (NetOp.run T (.accept msg interface time)).run t = .ok r u ∧
    acceptedPacket T msg interface = some p ∧ packet = t.packets.next ∧
    packet ∈ u.txPackets.map Queued.addr

/-- When an accepted packet is sent, one whole line is handed to `write`, and the next hop
reads the packet from it. To a closed serial line nothing is written. -/
def RelaysWhole (s : Globals Descriptors) (tr : List (NetOp × NetResult))
    (t : Globals Descriptors) (op : NetOp) (r : NetResult) : Prop :=
  ∀ u packet p, (op.run T).run t = .ok r u → r = .exit (.attempt packet .ok) →
    AcceptedAs T s tr packet p → ∃ i, t.link p.toId = some i ∧
      u.platform.written = t.platform.written ++
        (if i.closed then [] else [(i.handle, packetText p ++ [newline])]) ∧
      ∀ blank, ∃ q, packetFromString blank (packetText p) (packetText p).length = .ok (.ok, q) ∧
        p.SameContent q

/-- An accepted packet under the cursor that is about to be sent fits a line with its
newline, unless its link is a closed serial line. -/
def FitsLine (s : Globals Descriptors) (tr : List (NetOp × NetResult)) (t : Globals Descriptors)
    (op : NetOp) (_ : NetResult) : Prop :=
  ∀ time q p i, op = .transmit time → t.view.head? = some q → AcceptedAs T s tr q.addr p →
    ¬T.packetDeleteTimeout ≤ (time - q.packet.timeReceived).toNat → p.toId ≠ broadcast →
    t.link p.toId = some i → t.answer T p time = some .ok → i.closed = false →
      (packetText p).length + 1 < T.packetMaxLength

section Text

variable {T} {p q : Packet}

lemma replaceCharacter_idem (m : List UInt8) : replaceCharacter (replaceCharacter m newline
    newlineCode) newline newlineCode = replaceCharacter m newline newlineCode := by
  unfold replaceCharacter
  rw [List.map_map]
  apply List.map_congr_left
  intro c _
  by_cases hc : c = newline
  · simp [hc, newlineCode, newline]
  · simp [hc]

/-- An attempt changes nothing in what is written of a packet. -/
lemma packetText_attempted (p : Packet) (interface : Option ℕ) (time : UInt32) :
    packetText (p.attempted interface time) = packetText p := by
  unfold packetText packetPieces packetHeader packetChecksum Packet.attempted Packet.prepare
  cases hm : p.message with
  | none => simp only
  | some m => simp only [replaceCharacter_idem, length_replaceCharacter]

/-- The packet of an accepted line survives the way to the next hop. -/
lemma acceptedPacket_readable {msg : List UInt8} {interface : ℕ}
    (h : acceptedPacket T msg interface = some p) (blank : Packet) :
    ∃ q, packetFromString blank (packetText p) (packetText p).length = .ok (.ok, q) ∧
      p.SameContent q := by
  have hplain : PlainText p.text ∧ p.text.length < 2 ^ 16 := by
    unfold acceptedPacket at h
    split at h
    · rename_i p' hread
      split at h
      · cases h
      · obtain ⟨hplain, hlen⟩ := packetFromString_plain hread
        rw [← Option.some.inj h]
        exact ⟨hplain, hlen⟩
    · cases h
  exact packetFromString_packetText p hplain.1 hplain.2 blank

/-- Two buffers of the same size hold a text and a newline exactly if the second one holds
both. -/
lemma take_concat_take_iff {text : List UInt8} {c : UInt8} {n : ℕ} :
    (text.take n ++ [c]).take n = text ++ [c] ↔ text.length + 1 ≤ n := by
  constructor
  · intro h
    have hlen := congrArg List.length h
    rw [List.length_take, List.length_append, List.length_append, List.length_singleton] at hlen
    omega
  · intro h
    rw [List.take_of_length_le (by omega : text.length ≤ n), List.take_of_length_le]
    rw [List.length_append, List.length_singleton]
    omega

end Text

section Runs

variable {T} {s t u : Globals Descriptors} {tr : List (NetOp × NetResult)} {op : NetOp}
  {r : NetResult} {packet : ℕ} {p : Packet}

lemma Target.IsServer.steady (hT : T.IsServer) : T.Steady := by
  refine ⟨?_, ?_⟩
  · rw [hT.settings]
    decide
  · intro msg i time d
    rw [hT.interfaces, hT.sendVia]
    unfold serverSendVia
    split <;> rfl

/-- A packet came in before or it comes in now. -/
lemma AcceptedAs.concat (htrace : Trace (NetOp.run T) s tr t) (hrun : (op.run T).run t = .ok r u)
    (h : AcceptedAs T s (tr ++ [(op, r)]) packet p) : AcceptedAs T s tr packet p ∨
      ∃ msg interface time, op = .accept msg interface time ∧
        acceptedPacket T msg interface = some p ∧ packet = t.packets.next ∧
        packet ∈ u.txPackets.map Queued.addr := by
  obtain ⟨pre, msg, interface, time, r', post, t', u', he, hpre, hrun', hp, hfresh, hmem⟩ := h
  rcases List.eq_nil_or_concat post with rfl | ⟨post', x, rfl⟩
  · obtain ⟨rfl, hlast⟩ := List.append_inj' he rfl
    cases hlast
    obtain rfl := htrace.unique hpre
    obtain ⟨-, rfl⟩ := EStateM.Result.ok.inj (hrun.symm.trans hrun')
    exact Or.inr ⟨msg, interface, time, rfl, hp, hfresh, hmem⟩
  · rw [List.concat_eq_append, ← List.cons_append, ← List.append_assoc] at he
    exact Or.inl ⟨pre, msg, interface, time, r', post', t', u', (List.append_inj' he rfl).1, hpre,
      hrun', hp, hfresh, hmem⟩

lemma AcceptedAs.line (h : AcceptedAs T s tr packet p) :
    ∃ msg interface, acceptedPacket T msg interface = some p := by
  obtain ⟨pre, msg, interface, time, r, post, t, u, -, -, -, hp, -, -⟩ := h
  exact ⟨msg, interface, hp⟩

/-- The queue holds the packets of the lines that came in. -/
structure Relays (T : Target Descriptors) (s : Globals Descriptors)
    (tr : List (NetOp × NetResult)) (t : Globals Descriptors) : Prop where
  trace : Trace (NetOp.run T) s tr t
  running : s.Running T t
  created : ∀ packet p, AcceptedAs T s tr packet p → packet < t.packets.next
  content : ∀ q ∈ t.txPackets, ∀ p, AcceptedAs T s tr q.addr p →
    packetText q.packet = packetText p ∧ q.packet.toId = p.toId

/-- A packet that has just come in is queued as it is. -/
lemma NetStep.accepted_content (h : NetStep T t op r u) (ht : t.InOrder T) {q : Queued}
    {msg : List UInt8} {interface : ℕ} {time : UInt32} (hop : op = .accept msg interface time)
    (hp : acceptedPacket T msg interface = some p) (hq : q ∈ u.txPackets)
    (haddr : q.addr = t.packets.next) :
    packetText q.packet = packetText p ∧ q.packet.toId = p.toId := by
  have hold : q ∉ t.txPackets := by
    intro hm
    have hlt := ht.addr_lt hm
    omega
  have hhanded : op.handed T = some (p, time) := by
    rw [hop]
    simp [NetOp.handed, hp]
  cases h with
  | refused msg interface time hop' hnone htx hrx hroutes hnext => exact absurd (htx ▸ hq) hold
  | handled fate hop' hfate htx hrx hroutes hnext =>
    obtain ⟨rfl, rfl⟩ := Prod.mk.inj (Option.some.inj (hhanded.symm.trans hop'))
    rw [htx] at hq
    unfold Globals.txAfter at hq
    split at hq
    · rw [List.mem_append, List.mem_singleton] at hq
      obtain rfl := hq.resolve_left hold
      exact ⟨packetText_congr rfl rfl rfl rfl rfl rfl, rfl⟩
    · exact absurd hq hold
  | idle => cases hop
  | transmitted => cases hop
  | checked => cases hop

lemma Relays.step (hT : T.IsServer) (h : Relays T s tr t) (hop : op.Allowed T s)
    (hrun : (op.run T).run t = .ok r u) : Relays T s (tr ++ [(op, r)]) u := by
  obtain ⟨hstep, honward, hu⟩ := h.running.step hT.steady hop hrun
  refine ⟨h.trace.snoc hrun, hu, ?_, ?_⟩
  · intro packet p hp
    rcases hp.concat h.trace hrun with hbefore | ⟨msg, interface, time, -, -, -, hmem⟩
    · exact Nat.lt_of_lt_of_le (h.created packet p hbefore) honward.grows
    · obtain ⟨q, hq, rfl⟩ := List.mem_map.mp hmem
      exact hu.inOrder.addr_lt hq
  · intro q hq p hp
    rcases hp.concat h.trace hrun with hbefore | ⟨msg, interface, time, haccept, hpacket, hnew, -⟩
    · -- The packet was in the queue before.
      have hlt := h.created q.addr p hbefore
      rcases hstep.packets q hq with ⟨c, hc, haddr, hsame⟩ | hnew
      · rw [← haddr] at hbefore
        obtain ⟨htext, hto⟩ := h.content c hc p hbefore
        rcases hsame with hsame | ⟨i, time, hsame⟩
        · rw [hsame]
          exact ⟨htext, hto⟩
        · rw [hsame, packetText_attempted, attempted_toId]
          exact ⟨htext, hto⟩
      · omega
    · exact hstep.accepted_content h.running.inOrder haccept hpacket hq hnew

/-- The line that the server writes for a packet. -/
lemma serverSendVia_written (hT : T.IsServer) {i : Interface} {time : UInt32} {d d' : Descriptors}
    {rv : ZejfErr} (h : T.networkSendVia (p.wire T) i time d = (rv, d')) :
    d'.written = d.written ++ (if i.closed then []
      else [(i.handle, ((packetText p).take (T.packetMaxLength - 1) ++ [newline]).take
        (T.packetMaxLength - 1))]) := by
  rw [hT.sendVia] at h
  unfold serverSendVia at h
  by_cases hclosed : i.closed = true
  · rw [if_pos hclosed] at h
    rw [if_pos hclosed, List.append_nil, (Prod.mk.inj h).2]
  · rw [if_neg hclosed] at h
    rw [if_neg hclosed, ← (Prod.mk.inj h).2]
    simp [snprintf, print, Piece.text, Packet.wire]

/-- When the packet under the cursor is delivered. -/
lemma TxOutcome.delivered_iff (ht : t.InOrder T) {time : UInt32} {xs ys tx' : List Queued}
    {c : Queued} {exit : TxExit} {n : ℕ} {cursor : Option ℕ} {d : Descriptors}
    (h : TxOutcome T t time t.routes xs c ys exit n tx' cursor d) :
    exit = .attempt c.addr .ok ↔
      ¬T.packetDeleteTimeout ≤ (time - c.packet.timeReceived).toNat ∧
        c.packet.toId ≠ broadcast ∧ t.answer T c.packet time = some .ok := by
  cases h with
  | timeout hold => exact iff_of_false (by simp) (fun hc => hc.1 hold)
  | expanded sent hfresh hto => exact iff_of_false (by simp) (fun hc => hc.2.1 hto)
  | blocked hfresh hto => exact iff_of_false (by simp) (fun hc => hc.2.1 hto)
  | noRoute hfresh hto hnone =>
    refine iff_of_false (by simp) ?_
    rintro ⟨-, -, hsome⟩
    rw [← answer_isSome_iff ht time, hsome] at hnone
    exact hnone rfl
  | unable e platform hfresh hto he hanswer =>
    rw [answer_eq he hanswer]
    simp
  | attempted e rv platform hfresh hto he hanswer hrv =>
    rw [answer_eq he hanswer]
    simp [hfresh, hto]

/-- How the packet under the cursor is delivered. -/
lemma TxOutcome.delivered_via {time : UInt32} {xs ys tx' : List Queued} {c : Queued}
    {packet n : ℕ} {cursor : Option ℕ} {d : Descriptors}
    (h : TxOutcome T t time t.routes xs c ys (.attempt packet .ok) n tx' cursor d) :
    packet = c.addr ∧ ∃ i, t.link c.packet.toId = some i ∧
      T.networkSendVia (c.packet.wire T) i time t.platform = (.ok, d) := by
  cases h with
  | attempted e rv platform hfresh hto he hanswer hrv => exact ⟨rfl, hanswer.link he⟩

lemma answer_congr {q : Packet} (htext : packetText p = packetText q) (hto : p.toId = q.toId)
    (time : UInt32) : t.answer T p time = t.answer T q time := by
  unfold Globals.answer Packet.wire
  rw [htext, hto]

lemma NetStep.relaysWhole (hT : T.IsServer) (h : NetStep T t op r u) (ht : Relays T s tr t)
    (hrun : (op.run T).run t = .ok r u) :
    RelaysWhole T s tr t op r ↔ FitsLine T s tr t op r := by
  have hinOrder := ht.running.inOrder
  by_cases hop : op.transmits = false
  · have hexamined := (h.keeps hop).2.1
    refine iff_of_true ?_ ?_
    · rintro u packet p - rfl
      cases hexamined
    · rintro time q p i rfl
      cases hop
  obtain ⟨time, rfl⟩ := NetOp.eq_transmit (Bool.eq_true_of_not_eq_false hop)
  cases h with
  | refused msg interface _ hop' => cases hop'
  | handled fate hop' => cases hop'
  | idle htx =>
    have hperm := Globals.InOrder.view_perm t
    rw [htx] at hperm
    refine iff_of_true ?_ ?_
    · rintro u packet p - hr
      cases hr
    · intro time q p i _ hq
      rw [hperm.eq_nil] at hq
      cases hq
  | @transmitted exit _ time xs c ys n htx hcursor hout hrx hroutes hcreated =>
    have hhead : t.view.head? = some c := by
      rw [hinOrder.view_cursor htx hcursor]
      rfl
    have hc : c ∈ t.txPackets := by simp [htx]
    have hdelivered := hout.delivered_iff hinOrder
    constructor
    · intro hall time' q p i htime hq hp hfresh hto hi hok hopen
      obtain rfl := NetOp.transmit.inj htime
      obtain rfl := Option.some.inj (hhead.symm.trans hq)
      obtain ⟨htext, hdest⟩ := ht.content c hc p hp
      rw [← answer_congr htext hdest] at hok
      obtain rfl := hdelivered.mpr ⟨hfresh, by rw [hdest]; exact hto, hok⟩
      obtain ⟨-, j, hj, hsend⟩ := hout.delivered_via
      obtain ⟨k, hk, hwritten, -⟩ := hall u c.addr p hrun rfl hp
      obtain rfl := Option.some.inj (hi.symm.trans hk)
      rw [hdest] at hj
      obtain rfl := Option.some.inj (hi.symm.trans hj)
      have hline := serverSendVia_written hT hsend
      rw [hwritten, hopen] at hline
      have hsame := List.append_cancel_left hline
      simp only [Bool.false_eq_true, if_false, List.cons.injEq, Prod.mk.injEq, true_and, and_true]
        at hsame
      have hfits := take_concat_take_iff.mp (htext ▸ hsame.symm)
      omega
    · rintro hall u' packet p hrun' hr hp
      obtain ⟨-, rfl⟩ := EStateM.Result.ok.inj (hrun.symm.trans hrun')
      obtain rfl := NetResult.exit.inj hr
      obtain ⟨rfl, i, hi, hsend⟩ := hout.delivered_via
      obtain ⟨htext, hdest⟩ := ht.content c hc p hp
      obtain ⟨hfresh, hto, hok⟩ := hdelivered.mp rfl
      obtain ⟨msg, interface, hline⟩ := hp.line
      rw [hdest] at hi hto
      refine ⟨i, hi, ?_, acceptedPacket_readable hline⟩
      rw [serverSendVia_written hT hsend, htext]
      by_cases hclosed : i.closed = true
      · rw [if_pos hclosed, if_pos hclosed]
      · rw [answer_congr htext hdest] at hok
        have hfits := hall time c p i rfl hhead hp hfresh hto hi hok (by simpa using hclosed)
        rw [if_neg hclosed, if_neg hclosed, take_concat_take_iff.mpr (by omega)]

/-- **Relaying preserves packets** exactly as long as they fit a line of the server. -/
theorem relaysWhole_iff_fitsLine (hT : T.IsServer) (hs : s.InOrder T)
    (htrace : Trace (NetOp.run T) s tr t) (hallowed : ∀ x ∈ tr, x.1.Allowed T s) :
    Throughout (NetOp.run T) s (RelaysWhole T s) tr ↔
      Throughout (NetOp.run T) s (FitsLine T s) tr := by
  refine Throughout.congr (J := Relays T s) htrace hallowed
    ⟨Trace.nil, Globals.Running.start hs, ?_, ?_⟩ ?_
  · rintro packet p ⟨pre, msg, interface, time, r, post, t, u, he, -⟩
    simp at he
  · rintro q hq p ⟨pre, msg, interface, time, r, post, t, u, he, -⟩
    simp at he
  · intro tr t op r u hop ht hrun
    have hstep := (ht.running.step hT.steady hop hrun).1
    exact ⟨ht.step hT hop hrun, hstep.relaysWhole hT ht hrun⟩

end Runs

/-- The server with its descriptors and no storage. -/
def socketServer : Target Descriptors where
  toSettings := Settings.zejfMeteo
  hourLoad _ d := ((.fileDoesntExist, []), d)
  hourSave _ _ d := (.io, d)
  networkSendVia := serverSendVia Settings.zejfMeteo.packetMaxLength
  getAllInterfaces := Descriptors.interfaces
  providedVariables := []
  demandedVariables := [allVariables]
  printValue _ := []
  scanValue _ := none
  doubleToUInt32 := Double.toUInt32
  doubleToUInt32_eq := toUInt32_conforms

lemma socketServer_isServer : socketServer.IsServer := ⟨rfl, rfl, rfl⟩

/-- Two clients whose sockets take everything. -/
def twoClients : Globals Descriptors :=
  { zejfInit socketServer ⟨[], fun _ => 1, [0, 1]⟩ with
    interfaces := Heap.ofList [firstInterface, secondInterface] }

lemma twoClients_inOrder : twoClients.InOrder socketServer := by
  refine zejfInit_inOrder socketServer _ _ ?_
  intro a ha
  have hmem : a ∈ [0, 1] := ha
  simp only [List.mem_cons, List.not_mem_nil, or_false] at hmem
  rcases hmem with rfl | rfl <;> rfl

/-- A line for device 5 comes in from the second client and is passed on to the first. -/
def passedOn (line : List UInt8) : List (NetOp × NetResult) :=
  [(heardOver 0 0, .returned .ok), (.accept line 1 0, .returned .ok)] ++
    [(.transmit 0, .exit (.attempt 1 .ok))]

def routeKnown : Globals Descriptors :=
  leaves (((heardOver 0 0).run socketServer).run twoClients)

def lineIn (line : List UInt8) : Globals Descriptors :=
  leaves (((NetOp.accept line 1 0).run socketServer).run routeKnown)

def lineOut (line : List UInt8) : Globals Descriptors :=
  leaves (((NetOp.transmit 0).run socketServer).run (lineIn line))

/-- Whether the three operations return what `passedOn` says. -/
def PassesOn (line : List UInt8) : Prop :=
  outcome (((heardOver 0 0).run socketServer).run twoClients) = some (.returned .ok) ∧
    outcome (((NetOp.accept line 1 0).run socketServer).run routeKnown) = some (.returned .ok) ∧
    outcome (((NetOp.transmit 0).run socketServer).run (lineIn line)) =
      some (.exit (.attempt 1 .ok))

instance (line : List UInt8) : Decidable (PassesOn line) := inferInstanceAs (Decidable (_ ∧ _))

lemma routeKnown_trace {line : List UInt8} (h : PassesOn line) :
    Trace (NetOp.run socketServer) twoClients [(heardOver 0 0, .returned .ok)] routeKnown :=
  Trace.nil.snoc (run_eq_of_outcome h.1)

lemma lineIn_trace {line : List UInt8} (h : PassesOn line) :
    Trace (NetOp.run socketServer) twoClients
      [(heardOver 0 0, .returned .ok), (.accept line 1 0, .returned .ok)] (lineIn line) :=
  (routeKnown_trace h).snoc (run_eq_of_outcome h.2.1)

lemma lineOut_trace {line : List UInt8} (h : PassesOn line) :
    Trace (NetOp.run socketServer) twoClients (passedOn line) (lineOut line) :=
  (lineIn_trace h).snoc (run_eq_of_outcome h.2.2)

lemma passedOn_allowed (line : List UInt8) :
    ∀ x ∈ passedOn line, x.1.Allowed socketServer twoClients := by
  intro x hx
  simp only [passedOn, List.mem_append, List.mem_cons, List.not_mem_nil, or_false] at hx
  rcases hx with (rfl | rfl) | rfl
  · rfl
  · rfl
  · trivial

/-- `{6;5;5;0;0;0;110;aaa...}` with 110 letters. -/
def longLine : List UInt8 :=
  [0x7B, 0x36, 0x3B, 0x35, 0x3B, 0x35, 0x3B, 0x30, 0x3B, 0x30, 0x3B, 0x30, 0x3B, 0x31, 0x31, 0x30,
    0x3B] ++ List.replicate 110 0x61 ++ [0x7D]

/-- `{6;5;5;0;0;0;0;}` -/
def shortLine : List UInt8 :=
  [0x7B, 0x36, 0x3B, 0x35, 0x3B, 0x35, 0x3B, 0x30, 0x3B, 0x30, 0x3B, 0x30, 0x3B, 0x30, 0x3B, 0x7D]

/-- What the server makes of the long line. -/
def longPacket : Packet :=
  { packetCreate with
    sourceInterface := some 1
    fromId := 6
    toId := 5
    command := 5
    ttl := 1
    messageSize := 110
    message := some (List.replicate 110 0x61) }

/-- The long line is cut off, and its newline is lost. -/
theorem longLine_not_relaysWhole :
    Trace (NetOp.run socketServer) twoClients (passedOn longLine) (lineOut longLine) ∧
      (∀ x ∈ passedOn longLine, x.1.Allowed socketServer twoClients) ∧
      ¬Throughout (NetOp.run socketServer) twoClients (RelaysWhole socketServer twoClients)
        (passedOn longLine) := by
  have hpasses : PassesOn longLine := by decide +kernel
  have hp : acceptedPacket socketServer longLine 1 = some longPacket := by decide +kernel
  refine ⟨lineOut_trace hpasses, passedOn_allowed _, ?_⟩
  intro hall
  have hlast := ((Throughout.snoc_iff (lineIn_trace hpasses) _ _).mp hall).2
  have hnext : 1 = routeKnown.packets.next := by decide +kernel
  have hqueued : 1 ∈ (lineIn longLine).txPackets.map Queued.addr := by decide +kernel
  have haccepted : AcceptedAs socketServer twoClients
      [(heardOver 0 0, .returned .ok), (.accept longLine 1 0, .returned .ok)] 1 longPacket :=
    ⟨[(heardOver 0 0, .returned .ok)], longLine, 1, 0, _, [], routeKnown, lineIn longLine, rfl,
      routeKnown_trace hpasses, run_eq_of_outcome hpasses.2.1, hp, hnext, hqueued⟩
  obtain ⟨i, -, hwritten, -⟩ :=
    hlast (lineOut longLine) 1 longPacket (run_eq_of_outcome hpasses.2.2) rfl haccepted
  have hlines : (lineOut longLine).platform.written.map (fun x => x.2.length) = [127] := by
    decide +kernel
  have hnone : (lineIn longLine).platform.written = [] := by decide +kernel
  have hlong : (packetText longPacket ++ [newline]).length ≠ 127 := by decide +kernel
  rw [hwritten, hnone] at hlines
  split at hlines
  · cases hlines
  · rw [List.nil_append, List.map_singleton] at hlines
    exact hlong (List.singleton_inj.mp hlines)

theorem shortLine_relaysWhole_iff :
    Throughout (NetOp.run socketServer) twoClients (RelaysWhole socketServer twoClients)
        (passedOn shortLine) ↔
      Throughout (NetOp.run socketServer) twoClients (FitsLine socketServer twoClients)
        (passedOn shortLine) := by
  have hpasses : PassesOn shortLine := by decide +kernel
  exact relaysWhole_iff_fitsLine socketServer_isServer twoClients_inOrder (lineOut_trace hpasses)
    (passedOn_allowed _)

end ZejfMeteo
