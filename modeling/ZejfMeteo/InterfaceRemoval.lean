import ZejfMeteo.Network
import Mathlib.Data.List.Chain

/-!
# Losing an interface

`interface_removed` drops the routes and the packets of an interface that goes away. Both
loops delete from what they walk over, and both miss some of it: the first skips the entry
after one that it removed, the second stops early when it removed the tail of the queue.
-/

namespace ZejfMeteo
open Runs

variable {δ : Type}

/-! ### The code -/

/-- Takes a packet out of the transmit queue; `next_packet` moves on if it pointed to it. -/
def packetRemove (node : ℕ) : Run (Globals δ) Unit := do
  if (← get).nextPacket = some node then
    let c ← zoom Globals.txQueueLens (LinkedList.node node)
    modify fun s => { s with nextPacket := if c.next = node then none else some c.next }
  match ← zoom Globals.txQueueLens (listRemove (some node)) with
  | none => return
  | some packet => packetDestroy packet

/-- The loop of `network_interface_removed`; the next node is read before a node is freed. -/
def purgeLoop (interface : ℕ) : ℕ → ℕ → Run (Globals δ) Unit
  | 0, _ => throw .outOfFuel
  | fuel + 1, node => do
    let c ← zoom Globals.txQueueLens (LinkedList.node node)
    let packet ← readPacket c.item
    if packet.destinationInterface = some interface ∨ packet.sourceInterface = some interface then
      packetRemove node
    if (← get).txQueue.tail ≠ some c.next then
      purgeLoop interface fuel c.next

/-- A walk through a whole queue takes at most one round. -/
def networkInterfaceRemoved (interface : ℕ) : Run (Globals δ) Unit := do
  let s ← get
  match s.txQueue.tail with
  | none => return
  | some tail => purgeLoop interface (s.txQueue.itemCount + 1) tail

/-- The loop of `interface_removed` over the routing table. -/
def dropRoutes (interface : ℕ) : ℕ → ℕ → Run (Globals δ) Unit
  | 0, _ => throw .outOfFuel
  | fuel + 1, i => do
    if i < (← get).routingTableTop then
      let entry ← tableEntry i
      let uid := (← readInterface entry.interface).uid
      if uid = (← readInterface (some interface)).uid then
        routingEntryRemove i
      dropRoutes interface fuel (i + 1)

def interfaceRemoved (interface : ℕ) : Run (Globals δ) Unit := do
  dropRoutes interface ((← get).routingTableTop + 1) 0
  networkInterfaceRemoved interface

/-! ### The transmit queue -/

/-- The packet came from the interface or goes to it. -/
def Queued.via (interface : ℕ) (q : Queued) : Bool :=
  q.packet.destinationInterface == some interface || q.packet.sourceInterface == some interface

section Purge

variable {s : Globals δ} {xs ys tx rx : List Queued} {q : Queued} {interface : ℕ}

lemma Globals.QueuesHold.node_run (h : s.QueuesHold (xs ++ q :: ys) rx) :
    (zoom Globals.txQueueLens (LinkedList.node q.node)).run s =
      .ok ⟨Ring.firstAddr ((ys ++ xs).map Queued.ref) q.node,
        Ring.lastAddr q.node ((ys ++ xs).map Queued.ref), q.addr⟩ s := by
  have hh := h.txHolds
  rw [List.map_append, List.map_cons] at hh
  rw [List.map_append]
  exact run_zoom_ok (l := Globals.txQueueLens) hh.node_run

lemma Globals.QueuesHold.cell (h : s.QueuesHold tx rx) (hq : q ∈ tx) :
    s.packets.cells q.addr = some q.packet :=
  h.live q (List.mem_append_left _ hq)

lemma firstAddr_mem_of_ne (a : ℕ) {xs : List Queued} (h : xs ≠ []) :
    Ring.firstAddr (xs.map Queued.ref) a ∈ xs.map Queued.node := by
  cases xs with
  | nil => exact absurd rfl h
  | cons x xs => exact List.mem_cons_self

/-- `next_packet` leaves the node that is about to be removed. -/
def nextAfterRemoval (np : Option ℕ) (node next : ℕ) : Option ℕ :=
  if np = some node then (if next = node then none else some next) else np

lemma nextAfterRemoval_mem (h : s.QueuesHold (xs ++ q :: ys) rx) :
    ∀ a ∈ nextAfterRemoval s.nextPacket q.node
      (Ring.firstAddr ((ys ++ xs).map Queued.ref) q.node), a ∈ (xs ++ ys).map Queued.node := by
  intro a ha
  rw [nextAfterRemoval] at ha
  split at ha
  · split at ha
    · simp at ha
    · rename_i hne
      have hys : ys ++ xs ≠ [] := by
        intro he
        rw [he] at hne
        exact hne rfl
      rw [← Option.some_inj.mp ha]
      have hm := firstAddr_mem_of_ne q.node hys
      simp only [List.map_append, List.mem_append] at hm ⊢
      exact hm.symm
  · rename_i hne
    have hm := h.next a ha
    have haq : a ≠ q.node := by
      rintro rfl
      exact hne ha
    simpa [haq] using hm

lemma Globals.QueuesHold.addr_split (h : s.QueuesHold (xs ++ q :: ys) rx) :
    q.addr ∉ (xs ++ ys ++ rx).map Queued.addr ∧ ((xs ++ ys ++ rx).map Queued.addr).Nodup := by
  have hperm : ((xs ++ q :: ys ++ rx).map Queued.addr).Perm
      (q.addr :: (xs ++ ys ++ rx).map Queued.addr) := by
    simp only [List.append_assoc, List.map_append, List.map_cons, List.cons_append]
    exact List.perm_middle
  exact List.nodup_cons.mp (hperm.nodup_iff.mp h.distinct)

/-- Removing a packet takes just this packet out of the transmit queue. -/
lemma packetRemove_run (h : s.QueuesHold (xs ++ q :: ys) rx) :
    ∃ tq, (packetRemove q.node).run s =
        .ok () { s with
          txQueue := tq
          packets := s.packets.erase q.addr
          nextPacket := nextAfterRemoval s.nextPacket q.node
            (Ring.firstAddr ((ys ++ xs).map Queued.ref) q.node) } ∧
      ({ s with
        txQueue := tq
        packets := s.packets.erase q.addr
        nextPacket := nextAfterRemoval s.nextPacket q.node
          (Ring.firstAddr ((ys ++ xs).map Queued.ref) q.node) } : Globals δ).QueuesHold
        (xs ++ ys) rx ∧
      tq.capacity = s.txQueue.capacity := by
  have htx := h.txHolds
  rw [List.map_append, List.map_cons] at htx
  obtain ⟨tq, hremove, htq, hcap, -⟩ := LinkedList.listRemove_holds htx
  have hq : q ∈ xs ++ q :: ys := by simp
  have hnext := nextAfterRemoval_mem h
  generalize hnp : nextAfterRemoval s.nextPacket q.node
    (Ring.firstAddr ((ys ++ xs).map Queued.ref) q.node) = np at hnext
  have hlist : (zoom Globals.txQueueLens (listRemove (some q.node))).run
      { s with nextPacket := np } = .ok (some q.addr) { s with txQueue := tq, nextPacket := np } :=
    run_zoom_ok (l := Globals.txQueueLens) (s := { s with nextPacket := np }) hremove
  have hdestroy := packetDestroy_run (s := { s with txQueue := tq, nextPacket := np })
    (a := q.addr) (by rw [show Globals.packets _ = s.packets from rfl, h.cell hq]; rfl)
  obtain ⟨hnew, hnodup⟩ := h.addr_split
  refine ⟨tq, ?_, ⟨?_, h.rxHolds, ?_, hnodup, hnext⟩, hcap⟩
  · rw [packetRemove, run_bind_ok (EStateM.run_get s)]
    by_cases he : s.nextPacket = some q.node
    · rw [nextAfterRemoval, if_pos he] at hnp
      rw [if_pos he, run_bind_ok h.node_run, run_bind_ok (EStateM.run_modify _ _), hnp,
        run_bind_ok hlist, hdestroy]
    · rw [nextAfterRemoval, if_neg he] at hnp
      subst hnp
      rw [if_neg he, run_bind_ok hlist, hdestroy]
  · rw [List.map_append]
    exact htq
  · intro r hr
    have hne : r.addr ≠ q.addr := by
      intro he
      exact hnew (he ▸ List.mem_map_of_mem hr)
    have hold : r ∈ xs ++ q :: ys ++ rx := by
      simp only [List.mem_append, List.mem_cons] at hr ⊢
      tauto
    rw [Heap.erase_cells, if_neg hne]
    exact h.live r hold

/-- What is left of the loop once a node has been dealt with. -/
def purgeOn (interface fuel next : ℕ) : Run (Globals δ) Unit := do
  if (← get).txQueue.tail ≠ some next then
    purgeLoop interface fuel next

/-- One round of the loop removes the packet it looks at or leaves everything as it was. -/
lemma purgeLoop_step (h : s.QueuesHold (xs ++ q :: ys) rx) (interface fuel : ℕ) :
    ∃ tq ps np, (purgeLoop interface (fuel + 1) q.node).run s =
        (purgeOn interface fuel (Ring.firstAddr ((ys ++ xs).map Queued.ref) q.node)).run
          { s with txQueue := tq, packets := ps, nextPacket := np } ∧
      ({ s with txQueue := tq, packets := ps, nextPacket := np } : Globals δ).QueuesHold
        (xs ++ [q].filter (fun q => !q.via interface) ++ ys) rx := by
  have hread := readPacket_run (h.cell (q := q) (by simp))
  rw [purgeLoop, run_bind_ok h.node_run, run_bind_ok hread]
  by_cases hvia : q.packet.destinationInterface = some interface ∨
      q.packet.sourceInterface = some interface
  · obtain ⟨tq, hremove, hs, -⟩ := packetRemove_run h
    refine ⟨tq, s.packets.erase q.addr, nextAfterRemoval s.nextPacket q.node
      (Ring.firstAddr ((ys ++ xs).map Queued.ref) q.node), ?_, ?_⟩
    · rw [if_pos hvia, run_bind_ok hremove]
      rfl
    · have hv : q.via interface = true := by simpa [Queued.via] using hvia
      simpa [hv] using hs
  · refine ⟨s.txQueue, s.packets, s.nextPacket, ?_, ?_⟩
    · rw [if_neg hvia]
      rfl
    · have hv : q.via interface = false := by simpa [Queued.via] using hvia
      simpa [hv] using h

lemma purgeOn_stop {next : ℕ} (h : s.txQueue.tail = some next) (interface fuel : ℕ) :
    (purgeOn interface fuel next).run s = .ok () s := by
  simp [purgeOn, h]

lemma purgeOn_next {next : ℕ} (h : s.txQueue.tail ≠ some next) (interface fuel : ℕ) :
    (purgeOn interface fuel next).run s = (purgeLoop interface fuel next).run s := by
  simp [purgeOn, h]

/-- From any node after an unmatched tail, the loop deals with all the packets up to the
tail. The invariant is that those between the tail and the current node have been kept. -/
lemma purgeOn_run (interface : ℕ) {t : Queued} {kept rest : List Queued} {fuel : ℕ}
    (h : s.QueuesHold (t :: kept ++ rest) rx) (hfuel : rest.length ≤ fuel) :
    ∃ tq ps np, (purgeOn interface fuel (Ring.firstAddr (rest.map Queued.ref) t.node)).run s =
        .ok () { s with txQueue := tq, packets := ps, nextPacket := np } ∧
      ({ s with txQueue := tq, packets := ps, nextPacket := np } : Globals δ).QueuesHold
        (t :: kept ++ rest.filter (fun q => !q.via interface)) rx := by
  induction rest generalizing s kept fuel with
  | nil =>
    have htail : s.txQueue.tail = some t.node := h.txHolds.tail
    exact ⟨s.txQueue, s.packets, s.nextPacket, purgeOn_stop htail interface fuel, h⟩
  | cons q rest ih =>
    cases fuel with
    | zero => simp at hfuel
    | succ fuel =>
      have htail : s.txQueue.tail = some t.node := h.txHolds.tail
      have hne : t.node ≠ q.node := h.node_ne (List.mem_append_left _ List.mem_cons_self)
      have hnext : Ring.firstAddr ((rest ++ t :: kept).map Queued.ref) q.node =
          Ring.firstAddr (rest.map Queued.ref) t.node := by
        rw [List.map_append]
        cases rest <;> rfl
      obtain ⟨tq, ps, np, hstep, hs⟩ := purgeLoop_step h interface fuel
      have hkept : t :: kept ++ [q].filter (fun q => !q.via interface) ++ rest =
          t :: (kept ++ [q].filter (fun q => !q.via interface)) ++ rest := by simp
      rw [hkept] at hs
      obtain ⟨tq', ps', np', hrest, hs'⟩ := ih hs (by simpa using hfuel)
      refine ⟨tq', ps', np', ?_, ?_⟩
      · have hfirst : Ring.firstAddr ((q :: rest).map Queued.ref) t.node = q.node := rfl
        rw [hfirst, purgeOn_next (by simp [htail, hne]), hstep, hnext, hrest]
      · rw [← List.singleton_append (l := rest), List.filter_append]
        simpa using hs'

/-- The loop stopped in a list without nodes has nothing live to look at. -/
lemma purgeOn_dead (h : s.QueuesHold [] rx) (interface fuel next : ℕ) :
    (purgeOn interface (fuel + 1) next).run s = .error .useAfterFree s := by
  have htail : s.txQueue.tail = none := h.txHolds.tail
  have hdead : s.txQueue.nodes.cells next = none := by
    cases hc : s.txQueue.nodes.cells next with
    | none => rfl
    | some c => simpa using h.txHolds.live next c hc
  have hnode : (zoom Globals.txQueueLens (LinkedList.node next)).run s =
      .error .useAfterFree s :=
    run_zoom_error (l := Globals.txQueueLens)
      (run_zoom_error (l := LinkedList.nodesLens) (Heap.read_dead hdead))
  rw [purgeOn_next (by simp [htail]), purgeLoop, run_bind_error hnode]

lemma networkInterfaceRemoved_cons {t : Queued} {rest : List Queued}
    (h : s.QueuesHold (t :: rest) rx) (interface : ℕ) :
    ∃ tq ps np, (networkInterfaceRemoved interface).run s =
        (purgeOn interface (rest.length + 1) (Ring.firstAddr (rest.map Queued.ref) t.node)).run
          { s with txQueue := tq, packets := ps, nextPacket := np } ∧
      ({ s with txQueue := tq, packets := ps, nextPacket := np } : Globals δ).QueuesHold
        ([t].filter (fun q => !q.via interface) ++ rest) rx := by
  have htail : s.txQueue.tail = some t.node := h.txHolds.tail
  have hcount : s.txQueue.itemCount + 1 = rest.length + 1 + 1 := by
    rw [h.txHolds.count]
    simp
  have h' : s.QueuesHold ([] ++ t :: rest) rx := h
  obtain ⟨tq, ps, np, hstep, hs⟩ := purgeLoop_step h' interface (rest.length + 1)
  rw [List.append_nil] at hstep
  refine ⟨tq, ps, np, ?_, hs⟩
  rw [← hstep, ← hcount]
  simp [networkInterfaceRemoved, htail]

/-- If the tail stays in place, the walk ends after exactly one round. -/
lemma networkInterfaceRemoved_kept {t : Queued} {rest : List Queued}
    (h : s.QueuesHold (t :: rest) rx) (hvia : t.via interface = false) :
    ∃ tq ps np, (networkInterfaceRemoved interface).run s =
        .ok () { s with txQueue := tq, packets := ps, nextPacket := np } ∧
      ({ s with txQueue := tq, packets := ps, nextPacket := np } : Globals δ).QueuesHold
        ((t :: rest).filter (fun q => !q.via interface)) rx := by
  obtain ⟨tq, ps, np, hrun, hs⟩ := networkInterfaceRemoved_cons h interface
  rw [List.filter_cons_of_pos (by simp [hvia])] at hs ⊢
  have hs₀ : ({ s with txQueue := tq, packets := ps, nextPacket := np } : Globals δ).QueuesHold
      (t :: [] ++ rest) rx := hs
  obtain ⟨tq', ps', np', hrest, hs'⟩ := purgeOn_run interface hs₀ (Nat.le_succ rest.length)
  exact ⟨tq', ps', np', hrun.trans hrest, hs'⟩

/-- If the only node has been freed, the loop goes on with it. -/
lemma networkInterfaceRemoved_only {t : Queued} (h : s.QueuesHold [t] rx)
    (hvia : t.via interface = true) :
    ∃ s', (networkInterfaceRemoved interface).run s = .error .useAfterFree s' := by
  obtain ⟨tq, ps, np, hrun, hs⟩ := networkInterfaceRemoved_cons h interface
  rw [List.filter_cons_of_neg (by simp [hvia])] at hs
  rw [purgeOn_dead hs] at hrun
  exact ⟨_, hrun⟩

/-- If the next node has become the tail, the loop stops there. -/
lemma networkInterfaceRemoved_next {t u : Queued} {rest : List Queued}
    (h : s.QueuesHold (t :: u :: rest) rx) (hvia : t.via interface = true) :
    ∃ tq ps np, (networkInterfaceRemoved interface).run s =
        .ok () { s with txQueue := tq, packets := ps, nextPacket := np } ∧
      ({ s with txQueue := tq, packets := ps, nextPacket := np } : Globals δ).QueuesHold
        (u :: rest) rx := by
  obtain ⟨tq, ps, np, hrun, hs⟩ := networkInterfaceRemoved_cons h interface
  rw [List.filter_cons_of_neg (by simp [hvia])] at hs
  have htail : tq.tail = some u.node := hs.txHolds.tail
  have hfirst : Ring.firstAddr ((u :: rest).map Queued.ref) t.node = u.node := rfl
  rw [hfirst, purgeOn_stop (s := { s with txQueue := tq, packets := ps, nextPacket := np })
    htail] at hrun
  exact ⟨tq, ps, np, hrun, hs⟩

/-- The purge ends without touching a freed node and leaves exactly the packets in the queue
that have nothing to do with the interface, in order, with `next_packet` among them. -/
def PurgesExactly (s : Globals δ) (tx rx : List Queued) (interface : ℕ) : Prop :=
  ∃ tq ps np, (networkInterfaceRemoved interface).run s =
      .ok () { s with txQueue := tq, packets := ps, nextPacket := np } ∧
    ({ s with txQueue := tq, packets := ps, nextPacket := np } : Globals δ).QueuesHold
      (tx.filter (fun q => !q.via interface)) rx

/-- The tail is kept, or it is the only packet to remove and not the only packet. -/
def TailPurgeable (interface : ℕ) : List Queued → Prop
  | [] => True
  | t :: rest => t.via interface = false ∨ (rest ≠ [] ∧ ∀ q ∈ rest, q.via interface = false)

lemma Globals.QueuesHold.length_unique {tx' : List Queued} (h : s.QueuesHold tx rx)
    (h' : s.QueuesHold tx' rx) : tx.length = tx'.length := by
  have hc := h.txHolds.count.symm.trans h'.txHolds.count
  simpa using hc

lemma networkInterfaceRemoved_nil (h : s.QueuesHold [] rx) (interface : ℕ) :
    (networkInterfaceRemoved interface).run s = .ok () s := by
  have htail : s.txQueue.tail = none := h.txHolds.tail
  simp [networkInterfaceRemoved, htail]

/-- **When losing an interface purges the transmit queue exactly.** -/
theorem networkInterfaceRemoved_purges_iff (h : s.QueuesHold tx rx) (interface : ℕ) :
    PurgesExactly s tx rx interface ↔ TailPurgeable interface tx := by
  cases tx with
  | nil =>
    exact iff_of_true ⟨s.txQueue, s.packets, s.nextPacket, networkInterfaceRemoved_nil h interface,
      h⟩ trivial
  | cons t rest =>
    cases hvia : t.via interface with
    | false => exact iff_of_true (networkInterfaceRemoved_kept h hvia) (Or.inl hvia)
    | true =>
      cases rest with
      | nil =>
        obtain ⟨s', herror⟩ := networkInterfaceRemoved_only h hvia
        refine iff_of_false ?_ (by simp [TailPurgeable, hvia])
        rintro ⟨tq, ps, np, hok, -⟩
        rw [herror] at hok
        cases hok
      | cons u rest =>
        obtain ⟨tq, ps, np, hrun, hs⟩ := networkInterfaceRemoved_next h hvia
        constructor
        · rintro ⟨tq', ps', np', hok, hs'⟩
          rw [hrun] at hok
          cases hok
          have hlen := hs.length_unique hs'
          rw [List.filter_cons_of_neg (by simp [hvia])] at hlen
          refine Or.inr ⟨by simp, ?_⟩
          intro q hq
          have hall := List.length_filter_eq_length_iff.mp hlen.symm q hq
          simpa using hall
        · rintro (hfalse | ⟨-, hall⟩)
          · rw [hvia] at hfalse
            cases hfalse
          · refine ⟨tq, ps, np, hrun, ?_⟩
            rw [List.filter_cons_of_neg (by simp [hvia]),
              List.filter_eq_self.mpr (fun q hq => by simp [hall q hq])]
            exact hs

/-- The purge comes to an end unless the only packet in the queue is one to remove. -/
lemma networkInterfaceRemoved_returns_iff (h : s.QueuesHold tx rx) (interface : ℕ) :
    (∃ s', (networkInterfaceRemoved interface).run s = .ok () s') ↔
      ∀ q, tx = [q] → q.via interface = false := by
  cases tx with
  | nil => exact iff_of_true ⟨s, networkInterfaceRemoved_nil h interface⟩ (by simp)
  | cons t rest =>
    cases hvia : t.via interface with
    | false =>
      obtain ⟨tq, ps, np, hrun, -⟩ := networkInterfaceRemoved_kept h hvia
      refine iff_of_true ⟨_, hrun⟩ ?_
      rintro q he
      rw [← (List.cons.inj he).1]
      exact hvia
    | true =>
      cases rest with
      | nil =>
        obtain ⟨s', herror⟩ := networkInterfaceRemoved_only h hvia
        refine iff_of_false ?_ (by simp [hvia])
        rintro ⟨s'', hok⟩
        rw [herror] at hok
        cases hok
      | cons u rest =>
        obtain ⟨tq, ps, np, hrun, -⟩ := networkInterfaceRemoved_next h hvia
        exact iff_of_true ⟨_, hrun⟩ (by simp)

end Purge

/-! ### The routing table -/

/-- The object that an interface pointer refers to. -/
def Globals.interfaceAt (s : Globals δ) (interface : Option ℕ) : Option Interface :=
  interface.bind s.interfaces.cells

/-- The entry goes through an interface with this uid. -/
def RoutingEntry.via (s : Globals δ) (uid : ℤ) (entry : RoutingEntry) : Bool :=
  (s.interfaceAt entry.interface).any (fun i => i.uid == uid)

/-- What the loop leaves of a table: the entry after a removed one is not looked at. -/
def routesLeft (bad : RoutingEntry → Bool) : List RoutingEntry → List RoutingEntry
  | [] => []
  | [e] => if bad e then [] else [e]
  | e :: f :: es =>
    if bad e then f :: routesLeft bad es else e :: routesLeft bad (f :: es)

lemma routesLeft_sublist (bad : RoutingEntry → Bool) (es : List RoutingEntry) :
    (routesLeft bad es).Sublist es := by
  induction es using routesLeft.induct bad with
  | case1 => exact List.Sublist.refl _
  | case2 e he =>
    rw [routesLeft, if_pos he]
    exact List.nil_sublist _
  | case3 e he =>
    rw [routesLeft, if_neg he]
  | case4 e f es he ih =>
    rw [routesLeft, if_pos he]
    exact (ih.cons_cons f).cons e
  | case5 e f es he ih =>
    rw [routesLeft, if_neg he]
    exact ih.cons_cons e

/-- Exactly the bad entries are gone if and only if no two of them were neighbours. -/
lemma routesLeft_eq_filter_iff (bad : RoutingEntry → Bool) (es : List RoutingEntry) :
    routesLeft bad es = es.filter (fun e => !bad e) ↔
      es.IsChain (fun e f => ¬(bad e = true ∧ bad f = true)) := by
  induction es using routesLeft.induct bad with
  | case1 => simp [routesLeft]
  | case2 e he => simp [routesLeft, he]
  | case3 e he => simp [routesLeft, he]
  | case4 e f es he ih =>
    cases hf : bad f with
    | true =>
      -- The neighbour is bad too and stays.
      refine iff_of_false ?_ (by simp [he, hf])
      intro heq
      have hmem : f ∈ (e :: f :: es).filter (fun e => !bad e) := by
        rw [← heq, routesLeft, if_pos he]
        exact List.mem_cons_self
      simp [hf] at hmem
    | false =>
      rw [routesLeft, if_pos he, List.filter_cons_of_neg (by simp [he]),
        List.filter_cons_of_pos (by simp [hf]), List.cons_inj_right, ih]
      cases es <;> simp [he, hf]
  | case5 e f es he ih =>
    rw [routesLeft, if_neg he, List.filter_cons_of_pos (by simpa using he), List.cons_inj_right, ih]
    simp [he]

/-- The entries that the loop looks at. -/
def routesSeen (bad : RoutingEntry → Bool) : List RoutingEntry → List RoutingEntry
  | [] => []
  | [e] => [e]
  | e :: f :: es =>
    if bad e then e :: routesSeen bad es else e :: routesSeen bad (f :: es)

section Keeps

variable {β : Type} {f : Globals δ → β}

lemma readInterface_keeps (interface : Option ℕ) : Keeps f (readInterface interface) := by
  intro s
  cases interface with
  | none => rfl
  | some a =>
    cases ha : s.interfaces.cells a with
    | none =>
      rw [readInterface, run_zoom_error (l := Globals.interfacesLens) (Heap.read_dead ha)]
      rfl
    | some i =>
      rw [readInterface, run_zoom_ok (l := Globals.interfacesLens) (Heap.read_run ha)]
      rfl

lemma tableEntry_keeps (i : ℕ) : Keeps f (tableEntry i) := by
  refine keeps_bind keeps_get (fun t => ?_)
  cases t.routingTable[i]? with
  | none => exact keeps_fault _
  | some slot =>
    cases slot with
    | none => exact keeps_fault _
    | some entry => exact keeps_pure entry

lemma setTableEntry_keeps (hf : ∀ s table top,
      f { s with routingTable := table, routingTableTop := top } = f s)
    (i : ℕ) (entry : Option RoutingEntry) : Keeps f (setTableEntry i entry) := by
  intro s
  rw [setTableEntry, run_bind_ok (EStateM.run_get s), run_ite]
  split
  · exact hf s _ s.routingTableTop
  · rfl

lemma routingEntryRemove_keeps (hf : ∀ s table top,
      f { s with routingTable := table, routingTableTop := top } = f s) (i : ℕ) :
    Keeps f (routingEntryRemove i) := by
  have hshift : ∀ n i, Keeps f (shiftEntries i n) := by
    intro n
    induction n with
    | zero => exact fun i => keeps_pure ()
    | succ n ih =>
      intro i
      refine keeps_bind keeps_get (fun t => ?_)
      cases t.routingTable[i + 1]? with
      | none => exact keeps_bind (keeps_fault _) (fun _ => ih (i + 1))
      | some entry => exact keeps_bind (setTableEntry_keeps hf i entry) (fun _ => ih (i + 1))
  refine keeps_bind (tableEntry_keeps i) (fun _ => keeps_bind keeps_get (fun t => ?_))
  refine keeps_bind (hshift _ i) (fun _ => ?_)
  refine keeps_bind (keeps_set (fun s => hf s s.routingTable _)) (fun _ => ?_)
  exact keeps_bind keeps_get (fun _ => setTableEntry_keeps hf _ none)

lemma dropRoutes_keeps (hf : ∀ s table top,
      f { s with routingTable := table, routingTableTop := top } = f s) (interface fuel i : ℕ) :
    Keeps f (dropRoutes interface fuel i) := by
  induction fuel generalizing i with
  | zero => exact keeps_fault _
  | succ fuel ih =>
    refine keeps_bind keeps_get (fun t => keeps_ite ?_ (keeps_pure ()))
    refine keeps_bind (tableEntry_keeps i) (fun entry => ?_)
    refine keeps_bind (readInterface_keeps _) (fun _ => ?_)
    refine keeps_bind (readInterface_keeps _) (fun _ => ?_)
    exact keeps_ite (keeps_bind (routingEntryRemove_keeps hf i) (fun _ => ih (i + 1)))
      (ih (i + 1))

/-- The purge of the transmit queue leaves everything else alone, however it ends. -/
lemma networkInterfaceRemoved_keeps (hf : ∀ s q ps np,
      f { s with txQueue := q, packets := ps, nextPacket := np } = f s)
    (interface : ℕ) : Keeps f (networkInterfaceRemoved interface) := by
  have hqueue : ∀ q s, f (Globals.txQueueLens.set q s) = f s :=
    fun q s => hf s q s.packets s.nextPacket
  have hpackets : ∀ ps s, f (Globals.packetsLens.set ps s) = f s :=
    fun ps s => hf s s.txQueue ps s.nextPacket
  have hnext : ∀ (np : Globals δ → Option ℕ) s, f { s with nextPacket := np s } = f s :=
    fun np s => hf s s.txQueue s.packets (np s)
  have hremove : ∀ node, Keeps f (packetRemove node) := by
    intro node
    have hlist : Keeps f (do
        match ← zoom Globals.txQueueLens (listRemove (some node)) with
        | none => return
        | some packet => packetDestroy packet) := by
      refine keeps_bind (keeps_zoom hqueue _) (fun packet => ?_)
      cases packet with
      | none => exact keeps_pure ()
      | some packet => exact keeps_zoom hpackets _
    refine keeps_bind keeps_get (fun t => keeps_ite ?_ hlist)
    exact keeps_bind (keeps_zoom hqueue _) (fun c => keeps_bind (keeps_set (hnext _)) (fun _ => hlist))
  have hloop : ∀ fuel node, Keeps f (purgeLoop interface fuel node) := by
    intro fuel
    induction fuel with
    | zero => exact fun node => keeps_fault _
    | succ fuel ih =>
      intro node
      refine keeps_bind (keeps_zoom hqueue _) (fun c => ?_)
      refine keeps_bind (keeps_zoom hpackets _) (fun packet => ?_)
      have hon : Keeps f (purgeOn interface fuel c.next) :=
        keeps_bind keeps_get (fun t => keeps_ite (ih c.next) (keeps_pure ()))
      exact keeps_ite (keeps_bind (hremove node) (fun _ => hon)) hon
  refine keeps_bind keeps_get (fun t => ?_)
  cases t.txQueue.tail with
  | none => exact keeps_pure ()
  | some tail => exact hloop _ tail

/-- Losing an interface changes the routing table and the transmit queue. -/
lemma interfaceRemoved_keeps (hf : ∀ s table top,
      f { s with routingTable := table, routingTableTop := top } = f s)
    (hf' : ∀ s q ps np, f { s with txQueue := q, packets := ps, nextPacket := np } = f s)
    (interface : ℕ) : Keeps f (interfaceRemoved interface) := by
  refine keeps_bind keeps_get (fun t => ?_)
  exact keeps_bind (dropRoutes_keeps hf interface _ 0)
    (fun _ => networkInterfaceRemoved_keeps hf' interface)

end Keeps

section Routes

variable {s : Globals δ} {size : ℕ} {es fs : List RoutingEntry} {e : RoutingEntry}
  {interface : ℕ} {i : Interface}

lemma readInterface_run {p : Option ℕ} (h : s.interfaceAt p = some i) :
    (readInterface p).run s = .ok i s := by
  obtain ⟨a, rfl, ha⟩ := Option.bind_eq_some_iff.mp h
  exact run_zoom_ok (l := Globals.interfacesLens) (Heap.read_run ha)

lemma dropRoutes_step (ht : s.TableHolds size (es ++ e :: fs))
    (hlive : (s.interfaceAt e.interface).isSome) (hi : s.interfaces.cells interface = some i)
    (fuel : ℕ) : ∃ table top, (dropRoutes interface (fuel + 1) es.length).run s =
        (dropRoutes interface fuel (es.length + 1)).run
          { s with routingTable := table, routingTableTop := top } ∧
      ({ s with routingTable := table, routingTableTop := top } : Globals δ).TableHolds size
        (es ++ (if e.via s i.uid then fs else e :: fs)) := by
  obtain ⟨j, hj⟩ := Option.isSome_iff_exists.mp hlive
  have hlt : es.length < s.routingTableTop := by
    rw [ht.top]
    simp
  have hvia : e.via s i.uid = (j.uid == i.uid) := by
    rw [RoutingEntry.via, hj]
    rfl
  rw [dropRoutes, run_bind_ok (EStateM.run_get s), if_pos hlt, run_bind_ok ht.tableEntry_run,
    run_bind_ok (readInterface_run hj), run_bind_ok (readInterface_run (p := some interface) hi)]
  by_cases hu : j.uid = i.uid
  · obtain ⟨table, top, hremove, ht'⟩ := routingEntryRemove_run ht
    refine ⟨table, top, ?_, ?_⟩
    · rw [if_pos hu, run_bind_ok hremove]
    · simpa [hvia, hu] using ht'
  · refine ⟨s.routingTable, s.routingTableTop, ?_, ?_⟩
    · rw [if_neg hu]
    · simpa [hvia, hu] using ht

lemma dropRoutes_end (ht : s.TableHolds size es) (fuel : ℕ) {n : ℕ} (hn : es.length ≤ n) :
    (dropRoutes interface (fuel + 1) n).run s = .ok () s := by
  have hlt : ¬n < s.routingTableTop := by
    rw [ht.top]
    omega
  rw [dropRoutes, run_bind_ok (EStateM.run_get s), if_neg hlt]
  rfl

/-- A loop over the table that removes the bad entries, and moves on by one slot whether it
removed an entry or not, leaves what `routesLeft` says of those it has not looked at. -/
lemma sweep_run {loop : ℕ → ℕ → Run (Globals δ) Unit} {bad : RoutingEntry → Bool}
    (hend : ∀ table top es n fuel,
      ({ s with routingTable := table, routingTableTop := top } : Globals δ).TableHolds size es →
      es.length ≤ n → (loop (fuel + 1) n).run
        { s with routingTable := table, routingTableTop := top } =
          .ok () { s with routingTable := table, routingTableTop := top })
    (hstep : ∀ table top es e fs' fuel, e ∈ fs →
      ({ s with routingTable := table, routingTableTop := top } : Globals δ).TableHolds size
        (es ++ e :: fs') →
      ∃ table' top', (loop (fuel + 1) es.length).run
          { s with routingTable := table, routingTableTop := top } =
          (loop fuel (es.length + 1)).run
            { s with routingTable := table', routingTableTop := top' } ∧
        ({ s with routingTable := table', routingTableTop := top' } : Globals δ).TableHolds size
          (es ++ (if bad e then fs' else e :: fs')))
    (ht : s.TableHolds size (es ++ fs)) {fuel : ℕ} (hfuel : fs.length < fuel) :
    ∃ table top, (loop fuel es.length).run s =
        .ok () { s with routingTable := table, routingTableTop := top } ∧
      ({ s with routingTable := table, routingTableTop := top } : Globals δ).TableHolds size
        (es ++ routesLeft bad fs) := by
  suffices hsweep : ∀ gs, (∀ g ∈ gs, g ∈ fs) → ∀ table top es fuel, gs.length ≤ fuel →
      ({ s with routingTable := table, routingTableTop := top } : Globals δ).TableHolds size
        (es ++ gs) →
      ∃ table' top', (loop (fuel + 1) es.length).run
          { s with routingTable := table, routingTableTop := top } =
          .ok () { s with routingTable := table', routingTableTop := top' } ∧
        ({ s with routingTable := table', routingTableTop := top' } : Globals δ).TableHolds size
          (es ++ routesLeft bad gs) by
    obtain ⟨fuel, rfl⟩ := Nat.exists_eq_succ_of_ne_zero (Nat.ne_zero_of_lt hfuel)
    exact hsweep fs (fun g hg => hg) s.routingTable s.routingTableTop es fuel
      (Nat.le_of_lt_succ hfuel) ht
  intro gs
  induction gs using routesLeft.induct bad with
  | case1 =>
    intro hmem table top es fuel hfuel ht
    rw [List.append_nil] at ht
    refine ⟨table, top, hend table top es es.length fuel ht (Nat.le_refl _), ?_⟩
    rw [routesLeft, List.append_nil]
    exact ht
  | case2 e he =>
    intro hmem table top es fuel hfuel ht
    obtain ⟨fuel, rfl⟩ := Nat.exists_eq_succ_of_ne_zero (n := fuel) (by simp at hfuel; omega)
    obtain ⟨table', top', hrun, ht'⟩ := hstep table top es e [] (fuel + 1) (hmem e (by simp)) ht
    rw [if_pos he] at ht'
    refine ⟨table', top', hrun.trans (hend table' top' _ _ fuel ht' (by simp)), ?_⟩
    rw [routesLeft, if_pos he]
    exact ht'
  | case3 e he =>
    intro hmem table top es fuel hfuel ht
    obtain ⟨fuel, rfl⟩ := Nat.exists_eq_succ_of_ne_zero (n := fuel) (by simp at hfuel; omega)
    obtain ⟨table', top', hrun, ht'⟩ := hstep table top es e [] (fuel + 1) (hmem e (by simp)) ht
    rw [if_neg he] at ht'
    refine ⟨table', top', hrun.trans (hend table' top' _ _ fuel ht' (by simp)), ?_⟩
    rw [routesLeft, if_neg he]
    exact ht'
  | case4 e f gs he ih =>
    intro hmem table top es fuel hfuel ht
    obtain ⟨fuel, rfl⟩ := Nat.exists_eq_succ_of_ne_zero (n := fuel) (by simp at hfuel; omega)
    obtain ⟨table', top', hrun, ht'⟩ := hstep table top es e (f :: gs) (fuel + 1)
      (hmem e (by simp)) ht
    rw [if_pos he, List.append_cons] at ht'
    obtain ⟨table'', top'', hrest, ht''⟩ := ih (fun g hg => hmem g (by simp [hg])) table' top'
      (es ++ [f]) fuel (by simp at hfuel; omega) ht'
    rw [List.length_append, List.length_singleton] at hrest
    refine ⟨table'', top'', hrun.trans hrest, ?_⟩
    rw [routesLeft, if_pos he, List.append_cons]
    exact ht''
  | case5 e f gs he ih =>
    intro hmem table top es fuel hfuel ht
    obtain ⟨fuel, rfl⟩ := Nat.exists_eq_succ_of_ne_zero (n := fuel) (by simp at hfuel; omega)
    obtain ⟨table', top', hrun, ht'⟩ := hstep table top es e (f :: gs) (fuel + 1)
      (hmem e (by simp)) ht
    rw [if_neg he, List.append_cons] at ht'
    obtain ⟨table'', top'', hrest, ht''⟩ := ih (fun g hg => hmem g (List.mem_cons_of_mem _ hg))
      table' top' (es ++ [e]) fuel (by simp at hfuel ⊢; omega) ht'
    rw [List.length_append, List.length_singleton] at hrest
    refine ⟨table'', top'', hrun.trans hrest, ?_⟩
    rw [routesLeft, if_neg he, List.append_cons]
    exact ht''

/-- The loop leaves of the entries it has not looked at yet what `routesLeft` says. -/
lemma dropRoutes_run (bad : RoutingEntry → Bool) {fuel : ℕ} (hbad : ∀ e, e.via s i.uid = bad e)
    (ht : s.TableHolds size (es ++ fs)) (hlive : ∀ f ∈ fs, (s.interfaceAt f.interface).isSome)
    (hi : s.interfaces.cells interface = some i) (hfuel : fs.length < fuel) :
    ∃ table top, (dropRoutes interface fuel es.length).run s =
        .ok () { s with routingTable := table, routingTableTop := top } ∧
      ({ s with routingTable := table, routingTableTop := top } : Globals δ).TableHolds size
        (es ++ routesLeft bad fs) := by
  refine sweep_run (fun table top es n fuel ht hn => dropRoutes_end ht fuel hn) ?_ ht hfuel
  intro table top es e fs' fuel he ht'
  obtain ⟨table', top', hrun, ht''⟩ := dropRoutes_step ht' (hlive e he) hi fuel
  refine ⟨table', top', hrun, ?_⟩
  rw [← hbad e]
  exact ht''

/-- An entry without a live interface stops the loop. -/
lemma dropRoutes_dead (ht : s.TableHolds size (es ++ e :: fs))
    (hdead : s.interfaceAt e.interface = none) (fuel : ℕ) :
    ∃ f, (dropRoutes interface (fuel + 1) es.length).run s = .error f s := by
  have hlt : es.length < s.routingTableTop := by
    rw [ht.top]
    simp
  obtain ⟨f, hread⟩ : ∃ f, (readInterface e.interface).run s = .error f s := by
    cases ha : e.interface with
    | none => exact ⟨.nullPointer, rfl⟩
    | some a =>
      rw [ha] at hdead
      exact ⟨.useAfterFree, run_zoom_error (l := Globals.interfacesLens) (Heap.read_dead hdead)⟩
  refine ⟨f, ?_⟩
  rw [dropRoutes, run_bind_ok (EStateM.run_get s), if_pos hlt, run_bind_ok ht.tableEntry_run]
  exact run_bind_error hread

/-- The loop comes to an end if and only if every entry that it looks at has a live interface. -/
lemma dropRoutes_returns_iff (ht : s.TableHolds size (es ++ fs))
    (hi : s.interfaces.cells interface = some i) {fuel : ℕ} (hfuel : fs.length ≤ fuel) :
    (∃ s', (dropRoutes interface (fuel + 1) es.length).run s = .ok () s') ↔
      ∀ e ∈ routesSeen (·.via s i.uid) fs, (s.interfaceAt e.interface).isSome := by
  have hdead : ∀ {s : Globals δ} {es fs e fuel}, s.TableHolds size (es ++ e :: fs) →
      ¬(s.interfaceAt e.interface).isSome →
      ¬∃ s', (dropRoutes interface (fuel + 1) es.length).run s = .ok () s' := by
    rintro s es fs e fuel ht hnone ⟨s', hok⟩
    obtain ⟨f, herror⟩ : ∃ f, (dropRoutes interface (fuel + 1) es.length).run s = .error f s :=
      dropRoutes_dead ht (Option.not_isSome_iff_eq_none.mp hnone) fuel
    rw [herror] at hok
    cases hok
  -- Neither the table nor its top says what an entry goes through.
  generalize hbad : (fun e : RoutingEntry => e.via s i.uid) = bad
  induction fs using routesSeen.induct bad generalizing s es fuel with
  | case1 =>
    rw [List.append_nil] at ht
    exact iff_of_true ⟨s, dropRoutes_end ht fuel (Nat.le_refl _)⟩ (by simp [routesSeen])
  | case2 e =>
    by_cases hlive : (s.interfaceAt e.interface).isSome
    · obtain ⟨fuel, rfl⟩ := Nat.exists_eq_succ_of_ne_zero (n := fuel) (by simp at hfuel; omega)
      obtain ⟨table, top, hstep, ht'⟩ := dropRoutes_step ht hlive hi (fuel + 1)
      refine iff_of_true ⟨_, hstep.trans (dropRoutes_end ht' fuel ?_)⟩ (by simpa [routesSeen])
      split <;> simp
    · exact iff_of_false (hdead ht hlive) (by simpa [routesSeen] using hlive)
  | case3 e f fs he ih =>
    have hvia : e.via s i.uid = true := (congrFun hbad e).trans he
    have hlive : (s.interfaceAt e.interface).isSome := by
      cases ha : s.interfaceAt e.interface with
      | none => simp [RoutingEntry.via, ha] at hvia
      | some j => rfl
    obtain ⟨fuel, rfl⟩ := Nat.exists_eq_succ_of_ne_zero (n := fuel) (by simp at hfuel; omega)
    obtain ⟨table, top, hstep, ht'⟩ := dropRoutes_step ht hlive hi (fuel + 1)
    rw [if_pos hvia, List.append_cons] at ht'
    have hfuel' : fs.length ≤ fuel := by
      simp at hfuel
      omega
    have hrest := ih (s := { s with routingTable := table, routingTableTop := top }) ht' hi
      hfuel' hbad
    rw [List.length_append, List.length_singleton] at hrest
    rw [routesSeen, if_pos he, List.forall_mem_cons, hstep]
    exact hrest.trans (and_iff_right hlive).symm
  | case4 e f fs he ih =>
    by_cases hlive : (s.interfaceAt e.interface).isSome
    · have hvia : ¬e.via s i.uid = true := fun h => he ((congrFun hbad e).symm.trans h)
      obtain ⟨fuel, rfl⟩ := Nat.exists_eq_succ_of_ne_zero (n := fuel) (by simp at hfuel; omega)
      obtain ⟨table, top, hstep, ht'⟩ := dropRoutes_step ht hlive hi (fuel + 1)
      rw [if_neg hvia, List.append_cons] at ht'
      have hfuel' : (f :: fs).length ≤ fuel := by
        simp at hfuel ⊢
        omega
      have hrest := ih (s := { s with routingTable := table, routingTableTop := top }) ht' hi
        hfuel' hbad
      rw [List.length_append, List.length_singleton] at hrest
      rw [routesSeen, if_neg he, List.forall_mem_cons, hstep]
      exact hrest.trans (and_iff_right hlive).symm
    · refine iff_of_false (hdead ht hlive) ?_
      rw [routesSeen, if_neg he, List.forall_mem_cons]
      exact fun h => hlive h.1

/-- Exactly the entries through the interface are gone from the table, the others have moved
up in order, and no entry points to the interface any more. -/
def RoutesGone (s : Globals δ) (size : ℕ) (es : List RoutingEntry) (interface : ℕ) (uid : ℤ) :
    Prop :=
  let s' := leaves ((interfaceRemoved interface).run s)
  s'.TableHolds size (es.filter (fun e => !e.via s uid)) ∧
    ∀ e, some e ∈ s'.routingTable → e.interface ≠ some interface

/-- The table that `interfaceRemoved` leaves, whatever becomes of the transmit queue. -/
lemma interfaceRemoved_table (ht : s.TableHolds size es)
    (hlive : ∀ e ∈ es, (s.interfaceAt e.interface).isSome)
    (hi : s.interfaces.cells interface = some i) :
    (leaves ((interfaceRemoved interface).run s)).TableHolds size
      (routesLeft (·.via s i.uid) es) := by
  have ht₀ : s.TableHolds size ([] ++ es) := ht
  obtain ⟨table, top, hdrop, ht'⟩ := dropRoutes_run (·.via s i.uid)
    (fun _ => rfl) ht₀ hlive hi (Nat.lt_succ_self _)
  rw [List.length_nil, ← ht.top] at hdrop
  have hrun : (interfaceRemoved interface).run s = (networkInterfaceRemoved interface).run
      { s with routingTable := table, routingTableTop := top } :=
    (run_bind_ok (EStateM.run_get s)).trans (run_bind_ok hdrop)
  rw [hrun]
  have hkeep := networkInterfaceRemoved_keeps
    (f := fun s : Globals δ => (s.routingTable, s.routingTableTop)) (fun _ _ _ _ => rfl) interface
    { s with routingTable := table, routingTableTop := top }
  obtain ⟨htable, htop⟩ := Prod.mk.inj hkeep
  exact ⟨htable.trans ht'.slots, htop.trans ht'.top, ht'.bounded⟩

/-- Losing an interface comes to an end if and only if every route that is looked at has a live
interface and the only packet in the queue is not one to remove. -/
lemma interfaceRemoved_returns_iff {tx rx : List Queued} (ht : s.TableHolds size es)
    (hq : s.QueuesHold tx rx) (hi : s.interfaces.cells interface = some i) :
    (∃ s', (interfaceRemoved interface).run s = .ok () s') ↔
      (∀ e ∈ routesSeen (·.via s i.uid) es, (s.interfaceAt e.interface).isSome) ∧
        ∀ q, tx = [q] → q.via interface = false := by
  have ht₀ : s.TableHolds size ([] ++ es) := ht
  rw [← dropRoutes_returns_iff ht₀ hi (Nat.le_of_eq ht.top.symm), List.length_nil]
  have hget : (interfaceRemoved interface).run s = (do
      dropRoutes interface (s.routingTableTop + 1) 0
      networkInterfaceRemoved interface : Run (Globals δ) Unit).run s :=
    run_bind_ok (EStateM.run_get s)
  rw [hget]
  cases hdrop : (dropRoutes interface (s.routingTableTop + 1) 0).run s with
  | error e s' =>
    rw [run_bind_error hdrop]
    simp
  | ok o s' =>
    have hkeep := dropRoutes_keeps
      (f := fun s : Globals δ => (s.txQueue, s.rxQueue, s.packets, s.nextPacket))
      (fun _ _ _ => rfl) interface (s.routingTableTop + 1) 0 s
    rw [hdrop] at hkeep
    simp only [leaves_ok, Prod.mk.injEq] at hkeep
    obtain ⟨htx, hrx, hps, hnext⟩ := hkeep
    have hq' : s'.QueuesHold tx rx := hq.congr htx hrx hnext (fun q _ => by rw [hps])
    rw [run_bind_ok hdrop, ← networkInterfaceRemoved_returns_iff hq' interface]
    simp

/-- **When losing an interface removes all its routes.** -/
theorem interfaceRemoved_routesGone_iff (ht : s.TableHolds size es)
    (hlive : ∀ e ∈ es, (s.interfaceAt e.interface).isSome)
    (hi : s.interfaces.cells interface = some i) :
    RoutesGone s size es interface i.uid ↔
      es.IsChain (fun e f => ¬(e.via s i.uid = true ∧ f.via s i.uid = true)) := by
  have htable := interfaceRemoved_table ht hlive hi
  rw [← routesLeft_eq_filter_iff (·.via s i.uid) es]
  constructor
  · rintro ⟨hgone, -⟩
    exact htable.unique hgone
  · intro heq
    rw [heq] at htable
    refine ⟨htable, ?_⟩
    intro e he hinterface
    -- An entry that points to the interface has its uid and has been removed.
    rw [htable.slots] at he
    have hmem : e ∈ es.filter (fun e => !e.via s i.uid) := by simpa using he
    have hvia : e.via s i.uid = true := by
      simp [RoutingEntry.via, Globals.interfaceAt, hinterface, hi]
    simp [hvia] at hmem

/-- An interface with uid 0. -/
def firstInterface : Interface := ⟨0, .tcp, 5, 0, 0⟩

/-- A device behind the interface at address 0. -/
def entryBehind (deviceId : UInt16) : RoutingEntry :=
  { routingEntryCreate with deviceId, interface := some 0 }

/-- Two devices behind the same link. -/
def twoBehind : Globals Unit :=
  { zejfInit (Target.bare Settings.zejfPress) () with
    routingTable := [some (entryBehind 2), some (entryBehind 3)] ++ List.replicate 14 none
    routingTableTop := 2
    interfaces := Heap.ofList [firstInterface] }

lemma twoBehind_tableHolds : twoBehind.TableHolds 16 [entryBehind 2, entryBehind 3] :=
  ⟨rfl, rfl, by decide⟩

lemma twoBehind_live :
    ∀ e ∈ [entryBehind 2, entryBehind 3], (twoBehind.interfaceAt e.interface).isSome := by
  intro e he
  simp only [List.mem_cons, List.not_mem_nil, or_false] at he
  rcases he with rfl | rfl <;> rfl

/-- The second device keeps its route through the interface that is gone. -/
theorem twoBehind_not_gone : twoBehind.TableHolds 16 [entryBehind 2, entryBehind 3] ∧
    (∀ e ∈ [entryBehind 2, entryBehind 3], (twoBehind.interfaceAt e.interface).isSome) ∧
    twoBehind.interfaces.cells 0 = some firstInterface ∧
    ¬RoutesGone twoBehind 16 [entryBehind 2, entryBehind 3] 0 firstInterface.uid := by
  refine ⟨twoBehind_tableHolds, twoBehind_live, rfl, ?_⟩
  rintro ⟨-, hnone⟩
  refine hnone (entryBehind 3) ?_ rfl
  have hslot : (leaves ((interfaceRemoved 0).run twoBehind)).routingTable[0]? =
      some (some (entryBehind 3)) := rfl
  exact List.mem_of_getElem? hslot

theorem twoBehind_routesGone_iff :
    RoutesGone twoBehind 16 [entryBehind 2, entryBehind 3] 0 firstInterface.uid ↔
      [entryBehind 2, entryBehind 3].IsChain (fun e f =>
        ¬(e.via twoBehind firstInterface.uid = true ∧ f.via twoBehind firstInterface.uid = true)) :=
  interfaceRemoved_routesGone_iff twoBehind_tableHolds twoBehind_live rfl

end Routes

/-- A packet that came in over the interface at address 0. -/
def incomingPacket : Packet := { packetCreate with sourceInterface := some 0 }

/-- Two such packets wait for transmission. -/
def twoIncoming : Globals Unit :=
  { zejfInit (Target.bare Settings.zejfPress) () with
    txQueue := LinkedList.ofItems 32 [0, 1]
    packets := Heap.ofList [incomingPacket, incomingPacket] }

def twoIncomingQueue : List Queued := [⟨0, 0, incomingPacket⟩, ⟨1, 1, incomingPacket⟩]

lemma twoIncoming_queuesHold : twoIncoming.QueuesHold twoIncomingQueue [] where
  txHolds := (LinkedList.ofItems_holds (by decide : [0, 1].length ≤ 32)).1
  rxHolds := LinkedList.listCreate_holds ℕ _
  live q hq := by
    simp only [twoIncomingQueue, List.append_nil, List.mem_cons, List.not_mem_nil, or_false] at hq
    rcases hq with rfl | rfl <;> rfl
  distinct := by decide
  next a ha := by cases ha

/-- The purge removes the first packet and stops: the second one stays. -/
theorem twoIncoming_not_purged : twoIncoming.QueuesHold twoIncomingQueue [] ∧
    ¬PurgesExactly twoIncoming twoIncomingQueue [] 0 := by
  refine ⟨twoIncoming_queuesHold, ?_⟩
  rintro ⟨tq, ps, np, hrun, hs⟩
  have hone : (leaves ((networkInterfaceRemoved 0).run twoIncoming)).txQueue.itemCount = 1 := rfl
  rw [hrun, leaves_ok, hs.txHolds.count] at hone
  exact absurd hone (by decide)

theorem twoIncoming_purges_iff :
    PurgesExactly twoIncoming twoIncomingQueue [] 0 ↔ TailPurgeable 0 twoIncomingQueue :=
  networkInterfaceRemoved_purges_iff twoIncoming_queuesHold 0

end ZejfMeteo
