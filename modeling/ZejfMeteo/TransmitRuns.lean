import ZejfMeteo.RouteLife

/-!
# The transmit queue over whole runs

`next_packet` makes `network_send_tx` a round robin: `Globals.view` is the queue as the
cursor sees it. From what one step does to it follow that nothing is delivered twice, that
every packet has its turn, how packets get lost and what becomes of broadcasts.
-/

namespace ZejfMeteo
open Runs

variable {δ : Type}

/-- The transmit queue from `next_packet` on. -/
def Globals.view (s : Globals δ) : List Queued :=
  match s.nextPacket with
  | none => s.txPackets
  | some a => s.txPackets.rotate (s.txPackets.findIdx (fun q => q.node == a))

section Views

variable {T : Target δ} {s : Globals δ} {xs ys : List Queued} {q : Queued}

lemma Globals.InOrder.nodes_nodup (hs : s.InOrder T) : (s.txPackets.map Queued.node).Nodup := by
  have hring := hs.network.queues.txHolds.ring.nodup
  rw [List.map_map] at hring
  exact hring

lemma Globals.InOrder.addrs_nodup (hs : s.InOrder T) : (s.txPackets.map Queued.addr).Nodup := by
  have hdistinct := hs.network.queues.distinct
  rw [List.map_append] at hdistinct
  exact (List.nodup_append.mp hdistinct).1

/-- The addresses of queued packets have been given out. -/
lemma Globals.InOrder.addr_lt (hs : s.InOrder T) (hq : q ∈ s.txPackets) :
    q.addr < s.packets.next := by
  apply s.packets.lt_next
  rw [hs.network.queues.live q (List.mem_append_left _ hq)]
  rfl

lemma rotate_findIdx_node (hnodup : ((xs ++ q :: ys).map Queued.node).Nodup) :
    (xs ++ q :: ys).rotate ((xs ++ q :: ys).findIdx (fun r => r.node == q.node)) =
      q :: ys ++ xs := by
  rw [List.map_append, List.map_cons, List.nodup_middle, List.nodup_cons] at hnodup
  have hindex : (xs ++ q :: ys).findIdx (fun r => r.node == q.node) = xs.length := by
    rw [List.findIdx_eq (by simp)]
    constructor
    · simp
    · intro j hj
      rw [List.getElem_append_left hj]
      by_contra heq
      apply hnodup.1
      have hnode : xs[j].node = q.node := by simpa using heq
      rw [← hnode, List.mem_append]
      exact Or.inl (List.mem_map_of_mem (List.getElem_mem hj))
  rw [hindex, List.rotate_append_length_eq]

/-- With the cursor on a packet, or NULL and the packet the last one. -/
lemma Globals.InOrder.view_cursor (hs : s.InOrder T) (htx : s.txPackets = xs ++ q :: ys)
    (hcursor : s.nextPacket = some q.node ∨ s.nextPacket = none ∧ xs = []) :
    s.view = q :: ys ++ xs := by
  have hnodup := hs.nodes_nodup
  rw [htx] at hnodup
  unfold Globals.view
  rcases hcursor with hnext | ⟨hnext, rfl⟩
  · rw [hnext, htx]
    exact rotate_findIdx_node hnodup
  · rw [hnext, htx]
    simp

/-- With the cursor behind the packets `xs`. -/
lemma Globals.InOrder.view_eq (hs : s.InOrder T) (htx : s.txPackets = xs ++ ys)
    (hnext : s.nextPacket = nextNode (ys ++ xs)) : s.view = ys ++ xs := by
  cases ys with
  | cons q ys => exact hs.view_cursor htx (Or.inl hnext)
  | nil =>
    rw [List.append_nil] at htx
    cases xs with
    | nil =>
      unfold Globals.view
      rw [hnext, htx]
      rfl
    | cons q xs =>
      have htx' : s.txPackets = [] ++ q :: xs := htx
      rw [hs.view_cursor htx' (Or.inl hnext)]
      simp

lemma Globals.InOrder.view_perm (s : Globals δ) : s.view.Perm s.txPackets := by
  unfold Globals.view
  cases s.nextPacket with
  | none => exact List.Perm.refl _
  | some a => exact List.rotate_perm _ _

end Views

lemma attempted_toId (p : Packet) (interface : Option ℕ) (time : UInt32) :
    (p.attempted interface time).toId = p.toId :=
  (prepare_fields { p with timeSent := time }).2.1

/-- The packet that a call of `network_send_tx` has dealt with. -/
def TxExit.examined : TxExit → Option ℕ
  | .empty => none
  | .timeout packet => some packet
  | .broadcast packet _ => some packet
  | .noRoute packet => some packet
  | .attempt packet _ => some packet

def NetResult.examined : NetResult → Option ℕ
  | .exit e => e.examined
  | _ => none

/-- The packet that `network_send_via` has taken. -/
def NetResult.delivered : NetResult → Option ℕ
  | .exit (.attempt packet .ok) => some packet
  | _ => none

def NetOp.transmits : NetOp → Bool
  | .transmit _ => true
  | _ => false

section Steps

variable {T : Target δ} {s t u : Globals δ} {op : NetOp} {r : NetResult} {q : Queued}
  {rest : List Queued}

lemma NetOp.eq_transmit (h : op.transmits = true) : ∃ time, op = .transmit time := by
  cases op with
  | transmit time => exact ⟨time, rfl⟩
  | _ => cases h

/-- Only a transmit step takes packets out of the queue. -/
lemma NetStep.keeps (h : NetStep T t op r u) (hop : op.transmits = false) :
    u.nextPacket = t.nextPacket ∧ r.examined = none ∧
      (u.txPackets = t.txPackets ∨ ∃ q, u.txPackets = t.txPackets ++ [q] ∧
        q.addr = t.packets.next) := by
  cases h with
  | refused msg interface time hop hnone htx hrx hroutes hnext => exact ⟨hnext, rfl, Or.inl htx⟩
  | handled fate hop hfate htx hrx hroutes hnext =>
    refine ⟨hnext, rfl, ?_⟩
    rw [htx]
    unfold Globals.txAfter
    split
    · exact Or.inr ⟨_, rfl, rfl⟩
    · exact Or.inl rfl
  | idle htx => cases hop
  | transmitted time xs q ys n htx hcursor hout hrx hroutes hcreated => cases hop
  | checked htx hrx hroutes hnext => exact ⟨hnext, rfl, Or.inl htx⟩

/-- The packets of the queue were there before, perhaps with an attempt less behind them, or
are new. -/
lemma NetStep.packets (h : NetStep T t op r u) : ∀ q ∈ u.txPackets,
    (∃ c ∈ t.txPackets, c.addr = q.addr ∧
      (q.packet = c.packet ∨ ∃ i time, q.packet = c.packet.attempted i time)) ∨
    t.packets.next ≤ q.addr := by
  intro q hq
  have hsame : q ∈ t.txPackets → (∃ c ∈ t.txPackets, c.addr = q.addr ∧
      (q.packet = c.packet ∨ ∃ i time, q.packet = c.packet.attempted i time)) ∨
      t.packets.next ≤ q.addr := fun hold => Or.inl ⟨q, hold, rfl, Or.inl rfl⟩
  by_cases hop : op.transmits = false
  · obtain ⟨-, -, hkept | ⟨new, hnew, hfresh⟩⟩ := h.keeps hop
    · exact hsame (hkept ▸ hq)
    · rw [hnew, List.mem_append, List.mem_singleton] at hq
      rcases hq with hold | rfl
      · exact hsame hold
      · exact Or.inr (Nat.le_of_eq hfresh.symm)
  obtain ⟨time, rfl⟩ := NetOp.eq_transmit (Bool.eq_true_of_not_eq_false hop)
  cases h with
  | refused msg interface _ hop' => cases hop'
  | handled fate hop' => cases hop'
  | idle htx => exact hsame hq
  | transmitted time xs c ys n htx hcursor hout hrx hroutes hcreated =>
    rw [htx] at hsame ⊢
    generalize u.txPackets = tx' at hout hq
    generalize u.nextPacket = next at hout
    generalize u.platform = platform at hout
    cases hout with
    | expanded sent hfresh hto hroom hnew hsent =>
      rcases List.mem_append.mp hq with hold | hsent
      · apply hsame
        simp only [List.mem_append, List.mem_cons] at hold ⊢
        tauto
      · exact Or.inr (hnew q hsent)
    | unable e =>
      by_cases hc : q = { c with packet := c.packet.attempted e.interface time }
      · rw [hc]
        exact Or.inl ⟨c, by simp, rfl, Or.inr ⟨_, _, rfl⟩⟩
      · apply hsame
        simp only [List.mem_append, List.mem_cons] at hq ⊢
        tauto
    | _ =>
      apply hsame
      simp only [List.mem_append, List.mem_cons] at hq ⊢
      tauto

/-- The addresses of the queue were there before or are new. -/
lemma NetStep.addrs (h : NetStep T t op r u) : ∀ q ∈ u.txPackets,
    q.addr ∈ t.txPackets.map Queued.addr ∨ t.packets.next ≤ q.addr := by
  intro q hq
  rcases h.packets q hq with ⟨c, hc, haddr, -⟩ | hnew
  · exact Or.inl (haddr ▸ List.mem_map_of_mem hc)
  · exact Or.inr hnew

/-- A packet that is delivered was in the queue and leaves it. -/
lemma NetStep.delivered_gone (h : NetStep T t op r u) (ht : t.InOrder T) {a : ℕ}
    (ha : r.delivered = some a) :
    a ∈ t.txPackets.map Queued.addr ∧ a ∉ u.txPackets.map Queued.addr := by
  cases h with
  | refused => cases ha
  | handled => cases ha
  | idle => cases ha
  | checked => cases ha
  | transmitted time xs q ys n htx hcursor hout hrx hroutes hcreated =>
    have hnodup := ht.addrs_nodup
    rw [htx] at hnodup ⊢
    generalize u.txPackets = tx' at hout ⊢
    generalize u.nextPacket = next at hout
    generalize u.platform = platform at hout
    cases hout with
    | timeout => cases ha
    | expanded => cases ha
    | blocked => cases ha
    | noRoute => cases ha
    | unable => cases ha
    | attempted e rv =>
      have hq : q.addr = a := by
        cases rv <;> first | exact Option.some.inj ha | cases ha
      rw [List.map_append, List.map_cons, List.nodup_middle, List.nodup_cons] at hnodup
      rw [← hq]
      refine ⟨by simp, ?_⟩
      rw [← List.map_append] at hnodup
      exact hnodup.1

/-- A transmit step deals with the packet under the cursor; it goes or moves to the end of
the view. -/
lemma NetStep.view_transmit (h : NetStep T t op r u) (ht : t.InOrder T) (hu : u.InOrder T)
    (hop : op.transmits = true) (hview : t.view = q :: rest)
    (hto : q.packet.toId ≠ broadcast) : r.examined = some q.addr ∧
      (u.view = rest ∨ ∃ q', q'.addr = q.addr ∧ q'.packet.toId = q.packet.toId ∧
        u.view = rest ++ [q']) := by
  obtain ⟨time, rfl⟩ := NetOp.eq_transmit hop
  cases h with
  | refused msg interface _ hop' => cases hop'
  | handled fate hop' => cases hop'
  | idle htx =>
    have hperm := Globals.InOrder.view_perm t
    rw [htx, hview] at hperm
    exact absurd hperm.eq_nil (List.cons_ne_nil _ _)
  | transmitted time xs c ys n htx hcursor hout hrx hroutes hcreated =>
    have hcons := ht.view_cursor htx hcursor
    rw [hview, List.cons_append] at hcons
    obtain ⟨rfl, rfl⟩ := List.cons.inj hcons
    generalize htx' : u.txPackets = tx' at hout
    generalize hnext' : u.nextPacket = next at hout
    generalize u.platform = platform at hout
    cases hout with
    | timeout => exact ⟨rfl, Or.inl (hu.view_eq htx' hnext')⟩
    | expanded sent hfresh hto' => exact absurd hto' hto
    | blocked hfresh hto' => exact absurd hto' hto
    | noRoute => exact ⟨rfl, Or.inl (hu.view_eq htx' hnext')⟩
    | attempted => exact ⟨rfl, Or.inl (hu.view_eq htx' hnext')⟩
    | unable e =>
      refine ⟨rfl, Or.inr ⟨{ q with packet := q.packet.attempted e.interface time }, rfl,
        attempted_toId _ _ _, ?_⟩⟩
      have hsplit : u.txPackets =
          xs ++ [{ q with packet := q.packet.attempted e.interface time }] ++ ys := by
        rw [htx']
        simp
      rw [List.append_assoc]
      refine hu.view_eq hsplit ?_
      · rw [hnext']
        unfold nextNode
        cases ys with
        | nil => cases xs <;> rfl
        | cons => rfl

end Steps

def delivered (tr : List (NetOp × NetResult)) : List ℕ := tr.filterMap (fun x => x.2.delivered)

def examined (tr : List (NetOp × NetResult)) : List ℕ := tr.filterMap (fun x => x.2.examined)

/-- How often `network_send_tx` is called. -/
def transmits (tr : List (NetOp × NetResult)) : ℕ := tr.countP (fun x => x.1.transmits)

/-- The operation adds nothing to the transmit queue. -/
def EnqueuesNothing (T : Target δ) (_ : List (NetOp × NetResult)) (t : Globals δ) (op : NetOp)
    (r : NetResult) : Prop :=
  ∀ u, (op.run T).run t = .ok r u → u.txPackets.length ≤ t.txPackets.length

section RoundRobin

variable {T : Target δ} {s t u : Globals δ} {tr : List (NetOp × NetResult)} {op : NetOp}
  {r : NetResult}

lemma delivered_concat (tr : List (NetOp × NetResult)) (op : NetOp) (r : NetResult) :
    delivered (tr ++ [(op, r)]) = delivered tr ++ r.delivered.toList := by
  unfold delivered
  rw [List.filterMap_append]
  cases h : r.delivered <;> simp [h]

lemma examined_concat (tr : List (NetOp × NetResult)) (op : NetOp) (r : NetResult) :
    examined (tr ++ [(op, r)]) = examined tr ++ r.examined.toList := by
  unfold examined
  rw [List.filterMap_append]
  cases h : r.examined <;> simp [h]

lemma transmits_concat (tr : List (NetOp × NetResult)) (op : NetOp) (r : NetResult) :
    transmits (tr ++ [(op, r)]) = transmits tr + op.transmits.toNat := by
  unfold transmits
  rw [List.countP_append, List.countP_singleton]
  cases op.transmits <;> rfl

/-- Delivered packets are gone for good. -/
lemma delivered_step (hT : T.Steady) (ht : s.Running T t) (hop : op.Allowed T s)
    (hrun : (op.run T).run t = .ok r u) (hnodup : (delivered tr).Nodup)
    (hgone : ∀ a ∈ delivered tr, a < t.packets.next ∧ a ∉ t.txPackets.map Queued.addr) :
    (delivered (tr ++ [(op, r)])).Nodup ∧
      ∀ a ∈ delivered (tr ++ [(op, r)]), a < u.packets.next ∧ a ∉ u.txPackets.map Queued.addr := by
  obtain ⟨hstep, honward, hu⟩ := ht.step hT hop hrun
  have hold : ∀ a ∈ delivered tr, a < u.packets.next ∧ a ∉ u.txPackets.map Queued.addr := by
    intro a ha
    obtain ⟨hlt, hnot⟩ := hgone a ha
    refine ⟨Nat.lt_of_lt_of_le hlt honward.grows, ?_⟩
    intro hm
    obtain ⟨q, hq, rfl⟩ := List.mem_map.mp hm
    rcases hstep.addrs q hq with hbefore | hnew
    · exact hnot hbefore
    · omega
  rw [delivered_concat]
  cases hr : r.delivered with
  | none =>
    rw [Option.toList_none, List.append_nil]
    exact ⟨hnodup, hold⟩
  | some a =>
    obtain ⟨hmem, hleft⟩ := hstep.delivered_gone ht.inOrder hr
    have hfresh : a ∉ delivered tr := fun ha => (hgone a ha).2 hmem
    obtain ⟨q, hq, rfl⟩ := List.mem_map.mp hmem
    have hlt := Nat.lt_of_lt_of_le (ht.inOrder.addr_lt hq) honward.grows
    rw [Option.toList_some]
    refine ⟨List.nodup_append_comm.mp (List.nodup_cons.mpr ⟨hfresh, hnodup⟩), ?_⟩
    intro b hb
    rcases List.mem_append.mp hb with hb | hb
    · exact hold b hb
    · rw [List.mem_singleton.mp hb]
      exact ⟨hlt, hleft⟩

lemma delivered_nodup (hT : T.Steady) (hs : s.InOrder T) (htrace : Trace (NetOp.run T) s tr t)
    (hallowed : ∀ x ∈ tr, x.1.Allowed T s) : (delivered tr).Nodup := by
  have hinvariant := htrace.invariant (A := NetOp.Allowed T s)
    (I := fun tr t => s.Running T t ∧ (delivered tr).Nodup ∧
      ∀ a ∈ delivered tr, a < t.packets.next ∧ a ∉ t.txPackets.map Queued.addr)
    hallowed ⟨Globals.Running.start hs, List.nodup_nil, by simp [delivered]⟩ ?_
  · exact hinvariant.2.1
  · rintro tr t op r u hop ⟨ht, hnodup, hgone⟩ hrun
    exact ⟨(ht.step hT hop hrun).2.2, delivered_step hT ht hop hrun hnodup hgone⟩

/-- What the round has come to: the packets that have been looked at are the first of the
view, and what is left of them is at its end. -/
structure RoundHolds (t : Globals δ) (tr : List (NetOp × NetResult)) (u : Globals δ) : Prop where
  seen : examined tr = (t.view.take (transmits tr)).map Queued.addr
  ahead : ∃ kept, u.view = t.view.drop (transmits tr) ++ kept
  unicast : ∀ q ∈ u.view, q.packet.toId ≠ broadcast

lemma RoundHolds.step (hT : T.Steady) (ht : s.Running T t) (hop : op.Allowed T s)
    (hrun : (op.run T).run t = .ok r u) (hquiet : EnqueuesNothing T tr t op r) {t₀ : Globals δ}
    (h : RoundHolds t₀ tr t) (hlt : transmits (tr ++ [(op, r)]) ≤ t₀.view.length) :
    RoundHolds t₀ (tr ++ [(op, r)]) u := by
  obtain ⟨hstep, -, hu⟩ := ht.step hT hop hrun
  obtain ⟨kept, hahead⟩ := h.ahead
  rw [transmits_concat] at hlt
  cases htransmits : op.transmits with
  | false =>
    obtain ⟨hnext, hexamined, htx⟩ := hstep.keeps htransmits
    have hcount := transmits_concat tr op r
    rw [htransmits, Bool.toNat_false, Nat.add_zero] at hcount
    have hview : u.view = t.view := by
      have hsame : u.txPackets = t.txPackets := by
        rcases htx with hsame | ⟨q, hmore, -⟩
        · exact hsame
        · have hlen := hquiet u hrun
          rw [hmore, List.length_append, List.length_singleton] at hlen
          omega
      unfold Globals.view
      rw [hnext, hsame]
    refine ⟨?_, ⟨kept, ?_⟩, ?_⟩
    · rw [examined_concat, hexamined, Option.toList_none, List.append_nil, hcount, h.seen]
    · rw [hview, hcount, hahead]
    · rw [hview]
      exact h.unicast
  | true =>
    rw [htransmits, Bool.toNat_true] at hlt
    have hdrop := List.drop_eq_getElem_cons hlt
    rw [hdrop, List.cons_append] at hahead
    have hto := h.unicast _ (by rw [hahead]; exact List.mem_cons_self)
    obtain ⟨hexamined, hview⟩ := hstep.view_transmit ht.inOrder hu.inOrder htransmits hahead hto
    have hrest : ∀ q ∈ t₀.view.drop (transmits tr + 1) ++ kept, q.packet.toId ≠ broadcast := by
      intro q hq
      apply h.unicast
      rw [hahead]
      exact List.mem_cons_of_mem _ hq
    have hcount := transmits_concat tr op r
    rw [htransmits, Bool.toNat_true] at hcount
    refine ⟨?_, ?_, ?_⟩
    · rw [examined_concat, hexamined, Option.toList_some, hcount, h.seen,
        List.take_succ_eq_append_getElem hlt, List.map_append]
      rfl
    · rw [hcount]
      rcases hview with hgone | ⟨q', -, -, hlast⟩
      · exact ⟨kept, hgone⟩
      · exact ⟨kept ++ [q'], by rw [hlast, List.append_assoc]⟩
    · intro q hq
      rcases hview with hgone | ⟨q', -, hto', hlast⟩
      · rw [hgone] at hq
        exact hrest q hq
      · rw [hlast, List.mem_append, List.mem_singleton] at hq
        rcases hq with hq | rfl
        · exact hrest q hq
        · rw [hto']
          exact hto

/-- As many calls as there are packets look at every packet once. -/
lemma examined_perm (hT : T.Steady) (ht : s.Running T t) {seg : List (NetOp × NetResult)}
    (hseg : Trace (NetOp.run T) t seg u) (hallowed : ∀ x ∈ seg, x.1.Allowed T s)
    (hquiet : Throughout (NetOp.run T) t (EnqueuesNothing T) seg)
    (hunicast : ∀ q ∈ t.txPackets, q.packet.toId ≠ broadcast)
    (hcount : transmits seg = t.txPackets.length) :
    (examined seg).Perm (t.txPackets.map Queued.addr) := by
  have hperm := Globals.InOrder.view_perm t
  suffices hround : s.Running T u ∧ (transmits seg ≤ t.view.length → RoundHolds t seg u) by
    have hlen : transmits seg = t.view.length := hcount.trans hperm.length_eq.symm
    have hseen := (hround.2 (Nat.le_of_eq hlen)).seen
    rw [hlen, List.take_length] at hseen
    rw [hseen]
    exact hperm.map _
  clear hcount
  induction hseg with
  | nil =>
    refine ⟨ht, fun _ => ⟨rfl, ⟨[], by simp [transmits]⟩, ?_⟩⟩
    intro q hq
    exact hunicast q (hperm.mem_iff.mp hq)
  | snoc htrace hrun ih =>
    obtain ⟨hbefore, hlast⟩ := (Throughout.snoc_iff htrace _ _).mp hquiet
    obtain ⟨hv, hround⟩ := ih (fun x hx => hallowed x (List.mem_append_left _ hx)) hbefore
    have hop := hallowed _ List.mem_concat_self
    refine ⟨(hv.step hT hop hrun).2.2, ?_⟩
    intro hle
    have hle' := hle
    rw [transmits_concat] at hle'
    exact (hround (by omega)).step hT hv hop hrun hlast hle

/-- A round robin: the cursor is on a packet, none is delivered twice, and as many calls as
there are packets, with nothing enqueued in between, look at each of them once. -/
structure RoundRobin (T : Target δ) (s : Globals δ) (tr : List (NetOp × NetResult))
    (t : Globals δ) : Prop where
  cursor : ∀ a ∈ t.nextPacket, a ∈ t.txPackets.map Queued.node
  once : (delivered tr).Nodup
  turns : ∀ seg u, Trace (NetOp.run T) t seg u → (∀ x ∈ seg, x.1.Allowed T s) →
    Throughout (NetOp.run T) t (EnqueuesNothing T) seg →
    (∀ q ∈ t.txPackets, q.packet.toId ≠ broadcast) → transmits seg = t.txPackets.length →
    (examined seg).Perm (t.txPackets.map Queued.addr) ∧ (examined seg).Nodup

/-- **The transmit queue is a fair round robin that delivers at most once**, whatever
`network_send_via` answers. -/
theorem networkSendTx_roundRobin (hT : T.Steady) (hs : s.InOrder T)
    (htrace : Trace (NetOp.run T) s tr t) (hallowed : ∀ x ∈ tr, x.1.Allowed T s) :
    RoundRobin T s tr t := by
  have ht := Globals.Running.ofTrace hT hs htrace hallowed
  refine ⟨ht.inOrder.network.queues.next, delivered_nodup hT hs htrace hallowed, ?_⟩
  intro seg u hseg hallowed' hquiet hunicast hcount
  have hperm := examined_perm hT ht hseg hallowed' hquiet hunicast hcount
  exact ⟨hperm, hperm.nodup_iff.mpr ht.inOrder.addrs_nodup⟩

/-- A packet to the device that has been heard of. -/
def letter : Packet := { packetCreate with fromId := 1, toId := 5, command := 5 }

/-- A server that cannot send anything in its first ten milliseconds. -/
def busyServer : Target Unit :=
  { bareServer with
    networkSendVia := fun _ _ time p => (if time < 10 then .sendUnable else .ok, p) }

lemma busyServer_steady : busyServer.Steady := ⟨by decide, fun _ _ _ _ => rfl⟩

lemma twoLinks_inOrder_busy : twoLinks.InOrder busyServer :=
  zejfInit_inOrder busyServer () _ (fun a ha => by cases ha)

/-- Two packets are queued, and both are sent at the second attempt. -/
def twoLetters : List NetOp :=
  [heardFrom 5 0 0 0, heardFrom 6 1 1 1, .send letter 2, .send { letter with toId := 6 } 3,
    .transmit 4, .transmit 5, .transmit 10, .transmit 11]

def afterLetters : Globals Unit :=
  leaves ((serve (NetOp.run busyServer) twoLetters).run twoLinks)

lemma twoLetters_trace : Trace (NetOp.run busyServer) twoLinks
    (replay (NetOp.run busyServer) twoLetters twoLinks) afterLetters :=
  .of_replay (by decide +kernel)

lemma twoLetters_allowed : ∀ x ∈ replay (NetOp.run busyServer) twoLetters twoLinks,
    x.1.Allowed busyServer twoLinks := by
  have hletter : ∀ (toId : UInt16) (time : UInt32),
      (NetOp.send { letter with toId } time).Allowed busyServer twoLinks := by
    intro toId time
    have hcommand : letter.command ≠ idRequest := by decide
    have hown : letter.fromId = busyServer.deviceId := rfl
    refine ⟨?_, fun h => absurd h hcommand, fun _ h => absurd hown h⟩
    intro a ha
    cases ha
  intro x hx
  have hop := Trace.mem_of_replay hx
  simp only [twoLetters, List.mem_cons, List.not_mem_nil, or_false] at hop
  rcases hop with h | h | h | h | h | h | h | h <;> rw [h]
  · rfl
  · rfl
  · exact hletter 5 2
  · exact hletter 6 3
  all_goals trivial

theorem twoLetters_roundRobin : RoundRobin busyServer twoLinks
    (replay (NetOp.run busyServer) twoLetters twoLinks) afterLetters :=
  networkSendTx_roundRobin busyServer_steady twoLinks_inOrder_busy twoLetters_trace
    twoLetters_allowed

end RoundRobin

end ZejfMeteo
