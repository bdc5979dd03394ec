import ZejfMeteo.TransmitRuns

/-!
# The expansion of broadcasts

`network_send_tx` replaces a broadcast by a packet for each device of the routing table. The
number of broadcasts in the queue goes down with every expansion, unless an announcement has
brought the address of all devices into the table.
-/

namespace ZejfMeteo
open Runs

variable {δ : Type} (T : Target δ)

/-- The number of broadcasts that wait for transmission. -/
def Globals.broadcasts (s : Globals δ) : ℕ :=
  s.txPackets.countP (fun q => q.packet.toId == broadcast)

/-- A broadcast that is expanded is replaced by one packet for each device of the table, none
of them a broadcast. -/
def ExpandsUnicast (_ : List (NetOp × NetResult)) (t : Globals δ) (op : NetOp) (r : NetResult) :
    Prop :=
  ∀ u packet rv, (op.run T).run t = .ok r u → r = .exit (.broadcast packet rv) → rv ≠ .queueFull →
    ∃ xs q ys sent, t.txPackets = xs ++ q :: ys ∧ q.addr = packet ∧
      u.txPackets = xs ++ ys ++ sent ∧
      sent.map (fun c => c.packet.toId) = t.routes.map RoutingEntry.deviceId ∧
      (∀ c ∈ sent, c.packet.toId ≠ broadcast) ∧ u.broadcasts < t.broadcasts

/-- The packet under the cursor is a broadcast that is not too old, and the copies fit in. -/
def Globals.Expands (t : Globals δ) (time : UInt32) : Prop :=
  ∃ q, t.view.head? = some q ∧ q.packet.toId = broadcast ∧
    ¬T.packetDeleteTimeout ≤ (time - q.packet.timeReceived).toNat ∧
    t.routes.length + t.txPackets.length ≤ t.txQueue.capacity

/-- No entry of the table has the address of all devices when a broadcast is expanded. -/
def NoRouteToAll (_ : List (NetOp × NetResult)) (t : Globals δ) (op : NetOp) (_ : NetResult) :
    Prop :=
  ∀ time, op = .transmit time → t.Expands T time → broadcast ∉ t.routes.map RoutingEntry.deviceId

section Expansion

variable {T} {s t u : Globals δ} {tr : List (NetOp × NetResult)} {op : NetOp} {r : NetResult}
  {xs ys sent : List Queued} {q : Queued}

/-- The device itself is never in its own table. -/
lemma updateRoutes_noSelf {es : List RoutingEntry} {deviceId : UInt16} {interface : Option ℕ}
    {distance : UInt8} {time : UInt32} (h : T.deviceId ∉ es.map RoutingEntry.deviceId) :
    T.deviceId ∉ (updateRoutes T es deviceId interface distance time).2.map
      RoutingEntry.deviceId := by
  rcases updateRoutes_cases (T := T) es deviceId interface distance time with
    ⟨heq, -⟩ | ⟨heq, hself, -, -⟩ | ⟨pre, f, post, rfl, -, -, -, heq⟩
  · rw [heq]
    exact h
  · rw [heq, List.map_append, List.mem_append]
    rintro (hold | hnew)
    · exact h hold
    · exact hself (List.mem_singleton.mp hnew).symm
  · rw [heq]
    simp only [List.map_append, List.map_cons, RoutingEntry.heard_deviceId] at h ⊢
    exact h

lemma NetStep.routes_noSelf (h : NetStep T t op r u)
    (ht : T.deviceId ∉ t.routes.map RoutingEntry.deviceId) :
    T.deviceId ∉ u.routes.map RoutingEntry.deviceId := by
  rcases h.routes_cases with ⟨m, -, hroutes⟩ | ⟨-, hsub⟩
  · rw [hroutes]
    exact updateRoutes_noSelf ht
  · exact fun hm => ht ((hsub.map _).subset hm)

/-- Without the device itself in the table there is a copy for every entry. -/
lemma copies_toId {es : List RoutingEntry} (hself : T.deviceId ∉ es.map RoutingEntry.deviceId)
    (hsent : sent.map Queued.packet =
      (es.filter (fun e => e.deviceId != T.deviceId)).map (broadcastCopy T q.packet)) :
    sent.map (fun c => c.packet.toId) = es.map RoutingEntry.deviceId := by
  have hall : es.filter (fun e => e.deviceId != T.deviceId) = es := by
    rw [List.filter_eq_self]
    intro e he
    rw [bne_iff_ne]
    exact fun heq => hself (heq ▸ List.mem_map_of_mem he)
  rw [hall] at hsent
  have hto := congrArg (List.map Packet.toId) hsent
  rw [List.map_map, List.map_map] at hto
  exact hto

lemma countP_broadcast_eq_zero (h : ∀ c ∈ sent, c.packet.toId ≠ broadcast) :
    sent.countP (fun q => q.packet.toId == broadcast) = 0 := by
  rw [List.countP_eq_zero]
  intro c hc
  simpa using h c hc

/-- One broadcast less. -/
lemma broadcasts_expanded (htx : t.txPackets = xs ++ q :: ys) (hto : q.packet.toId = broadcast)
    (hu : u.txPackets = xs ++ ys ++ sent) (hsent : ∀ c ∈ sent, c.packet.toId ≠ broadcast) :
    u.broadcasts + 1 = t.broadcasts := by
  unfold Globals.broadcasts
  rw [htx, hu]
  simp only [List.countP_append, List.countP_cons, countP_broadcast_eq_zero hsent, hto]
  simp
  omega

lemma NetStep.expandsUnicast (h : NetStep T t op r u) (ht : t.InOrder T)
    (hself : T.deviceId ∉ t.routes.map RoutingEntry.deviceId)
    (hrun : (op.run T).run t = .ok r u) :
    ExpandsUnicast T tr t op r ↔ NoRouteToAll T tr t op r := by
  by_cases hop : op.transmits = false
  · -- Nothing but a transmit step expands anything.
    have hexamined := (h.keeps hop).2.1
    refine iff_of_true ?_ ?_
    · rintro u packet rv - rfl
      cases hexamined
    · rintro time rfl
      cases hop
  obtain ⟨time, rfl⟩ := NetOp.eq_transmit (Bool.eq_true_of_not_eq_false hop)
  cases h with
  | refused msg interface _ hop' => cases hop'
  | handled fate hop' => cases hop'
  | idle htx =>
    have hperm := Globals.InOrder.view_perm t
    rw [htx] at hperm
    refine iff_of_true ?_ ?_
    · rintro u packet rv - hr
      cases hr
    · rintro time - ⟨q, hq, -⟩
      rw [hperm.eq_nil] at hq
      cases hq
  | transmitted time xs c ys n htx hcursor hout hrx hroutes hcreated =>
    have hhead : t.view.head? = some c := by
      rw [ht.view_cursor htx hcursor]
      rfl
    have hcursor' : ∀ time', NetOp.transmit time = .transmit time' → t.Expands T time' →
        time' = time ∧ c.packet.toId = broadcast ∧
        ¬T.packetDeleteTimeout ≤ (time - c.packet.timeReceived).toNat ∧
        t.routes.length + (xs ++ c :: ys).length ≤ t.txQueue.capacity := by
      rintro time' htime ⟨q, hq, hto, hfresh, hroom⟩
      obtain rfl := NetOp.transmit.inj htime
      obtain rfl := Option.some.inj (hhead.symm.trans hq)
      exact ⟨rfl, hto, hfresh, htx ▸ hroom⟩
    generalize htx' : u.txPackets = tx' at hout
    generalize u.nextPacket = next at hout
    generalize u.platform = platform at hout
    cases hout with
    | timeout hold =>
      refine iff_of_true ?_ ?_
      · rintro u packet rv - hr
        cases hr
      · intro time' htime hexpands
        exact absurd hold (hcursor' time' htime hexpands).2.2.1
    | expanded sent hfresh hto hroom hnew hsent =>
      have hcopies := copies_toId hself hsent
      constructor
      · intro hall time' htime hexpands hmem
        obtain ⟨xs', q', ys', sent', -, -, -, hids, hnot, -⟩ := hall u c.addr _ hrun rfl (by
          split <;> simp)
        rw [← hids] at hmem
        obtain ⟨d, hd, hbroadcast⟩ := List.mem_map.mp hmem
        exact hnot d hd hbroadcast
      · rintro hall u' packet rv hrun' hr -
        obtain ⟨-, rfl⟩ := EStateM.Result.ok.inj (hrun.symm.trans hrun')
        obtain ⟨rfl, -⟩ := TxExit.broadcast.inj (NetResult.exit.inj hr)
        have hnone := hall time rfl ⟨c, hhead, hto, hfresh, htx ▸ hroom⟩
        have hunicast : ∀ d ∈ sent, d.packet.toId ≠ broadcast := by
          intro d hd hbroadcast
          apply hnone
          rw [← hcopies, ← hbroadcast]
          exact List.mem_map_of_mem (f := fun c : Queued => c.packet.toId) hd
        have hless := broadcasts_expanded htx hto htx' hunicast
        exact ⟨xs, c, ys, sent, htx, rfl, htx', hcopies, hunicast, by omega⟩
    | blocked hfresh hto hroom =>
      refine iff_of_true ?_ ?_
      · rintro u packet rv - hr hrv
        obtain ⟨-, rfl⟩ := TxExit.broadcast.inj (NetResult.exit.inj hr)
        exact absurd rfl hrv
      · intro time' htime hexpands
        exact absurd (hcursor' time' htime hexpands).2.2.2 hroom
    | noRoute hfresh hto =>
      refine iff_of_true ?_ ?_
      · rintro u packet rv - hr
        cases hr
      · intro time' htime hexpands
        exact absurd (hcursor' time' htime hexpands).2.1 hto
    | unable e platform hfresh hto =>
      refine iff_of_true ?_ ?_
      · rintro u packet rv - hr
        cases hr
      · intro time' htime hexpands
        exact absurd (hcursor' time' htime hexpands).2.1 hto
    | attempted e rv platform hfresh hto =>
      refine iff_of_true ?_ ?_
      · rintro u packet rv - hr
        cases hr
      · intro time' htime hexpands
        exact absurd (hcursor' time' htime hexpands).2.1 hto

/-- A transmit step pays for the packets that it creates with a broadcast. -/
lemma NetStep.broadcasts_le (h : NetStep T t op r u) (hop : op.transmits = true)
    (hnone : broadcast ∉ t.routes.map RoutingEntry.deviceId) :
    u.routes = t.routes ∧ u.packets.next + u.broadcasts * t.routes.length ≤
      t.packets.next + t.broadcasts * t.routes.length := by
  obtain ⟨time, rfl⟩ := NetOp.eq_transmit hop
  cases h with
  | refused msg interface _ hop' => cases hop'
  | handled fate hop' => cases hop'
  | idle htx => exact ⟨rfl, Nat.le_refl _⟩
  | transmitted time xs c ys n htx hcursor hout hrx hroutes hcreated =>
    refine ⟨hroutes, ?_⟩
    generalize htx' : u.txPackets = tx' at hout
    generalize u.nextPacket = next at hout
    generalize u.platform = platform at hout
    -- Unless a broadcast is expanded no packet is created and none becomes a broadcast.
    have hkept : n = 0 → u.broadcasts ≤ t.broadcasts →
        u.packets.next + u.broadcasts * t.routes.length ≤
          t.packets.next + t.broadcasts * t.routes.length := by
      rintro rfl hle
      rw [hcreated]
      exact Nat.add_le_add_left (Nat.mul_le_mul_right _ hle) _
    have hgone : u.txPackets = xs ++ ys → u.broadcasts ≤ t.broadcasts := by
      intro hu
      unfold Globals.broadcasts
      rw [hu, htx, List.countP_append, List.countP_append, List.countP_cons]
      omega
    cases hout with
    | expanded sent hfresh hto hroom hnew hsent =>
      have hunicast : ∀ d ∈ sent, d.packet.toId ≠ broadcast := by
        intro d hd hbroadcast
        have hcopy := List.mem_map_of_mem (f := Queued.packet) hd
        rw [hsent] at hcopy
        obtain ⟨e, he, heq⟩ := List.mem_map.mp hcopy
        apply hnone
        rw [← hbroadcast, ← heq]
        exact List.mem_map_of_mem (f := RoutingEntry.deviceId) (List.mem_filter.mp he).1
      have hless := broadcasts_expanded htx hto htx' hunicast
      rw [hcreated, ← hless, Nat.add_mul, Nat.one_mul]
      omega
    | timeout => exact hkept rfl (hgone htx')
    | noRoute => exact hkept rfl (hgone htx')
    | attempted => exact hkept rfl (hgone htx')
    | blocked => exact hkept rfl (by unfold Globals.broadcasts; rw [htx', htx])
    | unable e =>
      apply hkept rfl
      unfold Globals.broadcasts
      rw [htx', htx]
      simp only [List.countP_append, List.countP_cons, attempted_toId]
      exact Nat.le_refl _

/-- Calls of `network_send_tx` alone create at most one packet for each broadcast and each
entry. -/
lemma transmits_finite (hT : T.Steady) (ht : s.Running T t)
    (hnone : broadcast ∉ t.routes.map RoutingEntry.deviceId) {seg : List (NetOp × NetResult)}
    (hseg : Trace (NetOp.run T) t seg u) (hall : ∀ x ∈ seg, x.1.transmits = true) :
    u.packets.next ≤ t.packets.next + t.broadcasts * t.routes.length := by
  have hinvariant := hseg.invariant (A := fun op => op.transmits = true)
    (I := fun _ v => s.Running T v ∧ v.routes = t.routes ∧
      v.packets.next + v.broadcasts * t.routes.length ≤
        t.packets.next + t.broadcasts * t.routes.length)
    hall ⟨ht, rfl, Nat.le_refl _⟩ ?_
  · exact Nat.le_trans (Nat.le_add_right _ _) hinvariant.2.2
  · rintro seg v op r w hop ⟨hv, hroutes, hle⟩ hrun
    have hallowed : op.Allowed T s := by
      cases op with
      | transmit time => trivial
      | _ => cases hop
    obtain ⟨hstep, -, hw⟩ := hv.step hT hallowed hrun
    rw [← hroutes] at hnone
    obtain ⟨hsame, hless⟩ := hstep.broadcasts_le hop hnone
    rw [hroutes] at hsame hless
    exact ⟨hw, hsame, Nat.le_trans hless hle⟩

/-- Without announcements in the name of all devices there is no route to all devices. -/
theorem routes_noBroadcast (hT : T.Steady) (hs : s.InOrder T)
    (hstart : broadcast ∉ s.routes.map RoutingEntry.deviceId)
    (htrace : Trace (NetOp.run T) s tr t) (hallowed : ∀ x ∈ tr, x.1.Allowed T s)
    (hann : ∀ x ∈ tr, ∀ m ∈ x.1.announces T, m.deviceId ≠ broadcast) :
    broadcast ∉ t.routes.map RoutingEntry.deviceId := by
  have hinvariant := htrace.invariant
    (A := fun op => op.Allowed T s ∧ ∀ m ∈ op.announces T, m.deviceId ≠ broadcast)
    (I := fun _ v => s.Running T v ∧ broadcast ∉ v.routes.map RoutingEntry.deviceId)
    (fun x hx => ⟨hallowed x hx, hann x hx⟩) ⟨Globals.Running.start hs, hstart⟩ ?_
  · exact hinvariant.2
  · rintro tr v op r w ⟨hop, hm⟩ ⟨hv, hnot⟩ hrun
    obtain ⟨hstep, -, hw⟩ := hv.step hT hop hrun
    refine ⟨hw, ?_⟩
    rcases hstep.routes_cases with ⟨m, hannounces, hroutes⟩ | ⟨-, hsub⟩
    · rw [hroutes]
      have hdevice := hm m hannounces
      rcases updateRoutes_cases (T := T) v.routes m.deviceId m.interface m.distance m.time with
        ⟨heq, -⟩ | ⟨heq, -⟩ | ⟨pre, f, post, hv', -, -, -, heq⟩
      · rw [heq]
        exact hnot
      · rw [heq, List.map_append, List.mem_append]
        rintro (hold | hnew)
        · exact hnot hold
        · exact hdevice (List.mem_singleton.mp hnew).symm
      · rw [heq]
        rw [hv'] at hnot
        simp only [List.map_append, List.map_cons, RoutingEntry.heard_deviceId] at hnot ⊢
        exact hnot
    · exact fun hmem => hnot ((hsub.map _).subset hmem)

/-- **The expansion of broadcasts terminates** exactly as long as no broadcast is expanded
over a table with the address of all devices in it. -/
theorem expandsUnicast_iff_noRouteToAll (hT : T.Steady) (hs : s.InOrder T) (hempty : s.routes = [])
    (htrace : Trace (NetOp.run T) s tr t) (hallowed : ∀ x ∈ tr, x.1.Allowed T s) :
    (Throughout (NetOp.run T) s (ExpandsUnicast T) tr ↔
      Throughout (NetOp.run T) s (NoRouteToAll T) tr) ∧
    (broadcast ∉ t.routes.map RoutingEntry.deviceId → ∀ seg u, Trace (NetOp.run T) t seg u →
      (∀ x ∈ seg, x.1.transmits = true) →
        u.packets.next ≤ t.packets.next + t.broadcasts * t.routes.length) := by
  constructor
  · refine Throughout.congr (J := fun _ v => s.Running T v ∧
      T.deviceId ∉ v.routes.map RoutingEntry.deviceId) htrace hallowed
      ⟨Globals.Running.start hs, by simp [hempty]⟩ ?_
    intro tr v op r w hop hv hrun
    obtain ⟨hstep, -, hw⟩ := hv.1.step hT hop hrun
    exact ⟨⟨hw, hstep.routes_noSelf hv.2⟩, hstep.expandsUnicast hv.1.inOrder hv.2 hrun⟩
  · intro hnone seg u hseg hall
    exact transmits_finite hT (Globals.Running.ofTrace hT hs htrace hallowed) hnone hseg hall

end Expansion

/-- A packet to all devices. -/
def call : Packet := { packetCreate with fromId := 1, toId := broadcast, command := 5 }

/-- `{65535;0;1;0;0;0;0;}` -/
def broadcastLine : List UInt8 :=
  [0x7B, 0x36, 0x35, 0x35, 0x33, 0x35, 0x3B, 0x30, 0x3B, 0x31, 0x3B, 0x30, 0x3B, 0x30, 0x3B, 0x30,
    0x3B, 0x30, 0x3B, 0x7D]

/-- After some announcement a packet to all devices is sent. -/
def callAfter (line : List UInt8) : List (NetOp × NetResult) :=
  [(.accept line 0 0, .returned .ok), (.send call 0, .returned .ok)] ++
    [(.transmit 0, .exit (.broadcast 1 .ok))]

def announced (line : List UInt8) : Globals Unit :=
  leaves (((NetOp.accept line 0 0).run bareServer).run twoLinks)

def calling (line : List UInt8) : Globals Unit :=
  leaves (((NetOp.send call 0).run bareServer).run (announced line))

def called (line : List UInt8) : Globals Unit :=
  leaves (((NetOp.transmit 0).run bareServer).run (calling line))

lemma callAfter_allowed (line : List UInt8) :
    ∀ x ∈ callAfter line, x.1.Allowed bareServer twoLinks := by
  intro x hx
  simp only [callAfter, List.mem_append, List.mem_cons, List.not_mem_nil, or_false] at hx
  rcases hx with (rfl | rfl) | rfl
  · rfl
  · refine ⟨?_, fun h => absurd h (by decide), fun h => absurd h (by decide)⟩
    intro a ha
    cases ha
  · trivial

/-- Whether the three operations return what `callAfter` says. -/
def Calls (line : List UInt8) : Prop :=
  outcome (((NetOp.accept line 0 0).run bareServer).run twoLinks) = some (.returned .ok) ∧
    outcome (((NetOp.send call 0).run bareServer).run (announced line)) = some (.returned .ok) ∧
    outcome (((NetOp.transmit 0).run bareServer).run (calling line)) =
      some (.exit (.broadcast 1 .ok))

instance (line : List UInt8) : Decidable (Calls line) := inferInstanceAs (Decidable (_ ∧ _))

lemma calling_trace {line : List UInt8} (h : Calls line) :
    Trace (NetOp.run bareServer) twoLinks
      [(.accept line 0 0, .returned .ok), (.send call 0, .returned .ok)] (calling line) :=
  (Trace.nil.snoc (run_eq_of_outcome h.1)).snoc (run_eq_of_outcome h.2.1)

lemma called_trace {line : List UInt8} (h : Calls line) :
    Trace (NetOp.run bareServer) twoLinks (callAfter line) (called line) :=
  (calling_trace h).snoc (run_eq_of_outcome h.2.2)

/-- The copy for the entry of all devices is a broadcast again. -/
theorem callAfter_not_expandsUnicast :
    Trace (NetOp.run bareServer) twoLinks (callAfter broadcastLine) (called broadcastLine) ∧
      (∀ x ∈ callAfter broadcastLine, x.1.Allowed bareServer twoLinks) ∧
      ¬Throughout (NetOp.run bareServer) twoLinks (ExpandsUnicast bareServer)
        (callAfter broadcastLine) := by
  have hcalls : Calls broadcastLine := by decide +kernel
  refine ⟨called_trace hcalls, callAfter_allowed _, ?_⟩
  intro hall
  have hlast := ((Throughout.snoc_iff (calling_trace hcalls) _ _).mp hall).2
  obtain ⟨xs, q, ys, sent, -, -, -, hids, hunicast, -⟩ :=
    hlast _ 1 .ok (run_eq_of_outcome hcalls.2.2) rfl (by decide)
  have hroutes : (calling broadcastLine).routes.map RoutingEntry.deviceId = [broadcast] := by
    decide +kernel
  rw [hroutes] at hids
  have hmem := hids ▸ List.mem_singleton_self broadcast
  obtain ⟨c, hc, hto⟩ := List.mem_map.mp hmem
  exact hunicast c hc hto

theorem callAfter_expandsUnicast_iff :
    (Throughout (NetOp.run bareServer) twoLinks (ExpandsUnicast bareServer)
        (callAfter announcementLine) ↔
      Throughout (NetOp.run bareServer) twoLinks (NoRouteToAll bareServer)
        (callAfter announcementLine)) ∧
    (broadcast ∉ (called announcementLine).routes.map RoutingEntry.deviceId → ∀ seg u,
      Trace (NetOp.run bareServer) (called announcementLine) seg u →
      (∀ x ∈ seg, x.1.transmits = true) →
        u.packets.next ≤ (called announcementLine).packets.next +
          (called announcementLine).broadcasts * (called announcementLine).routes.length) := by
  have hcalls : Calls announcementLine := by decide +kernel
  exact expandsUnicast_iff_noRouteToAll bareServer_steady twoLinks_inOrder rfl
    (called_trace hcalls) (callAfter_allowed _)

end ZejfMeteo
