import ZejfMeteo.Ownership
import ZejfMeteo.RequestQueue

/-!
# Shutting down

`zejf_destroy` saves what is to be saved and frees what the firmware has allocated.
`list_destroy` frees the nodes of a ring while it walks along them, so that the ring is not one
any more from the first step on.
-/

namespace ZejfMeteo
open Runs Format

variable {δ : Type} (T : Target δ)

section Destroy

variable {σ α : Type} (l : Lens σ (LinkedList α)) (destructor : α → Run σ Unit)

/-- The `do` loop of `list_destroy`. Where it ends is told by `tail`, whose node is gone by then. -/
def listDestroyFrom : ℕ → ℕ → Run σ Unit
  | 0, _ => throw .outOfFuel
  | fuel + 1, node => do
    let c ← zoom l (LinkedList.node node)
    destructor c.item
    let c ← zoom l (LinkedList.node node)
    zoom l (zoom LinkedList.nodesLens (Heap.free node))
    if (l.get (← get)).tail ≠ some c.next then
      listDestroyFrom fuel c.next

/-- What is left of the list itself is not used any more. -/
def listDestroy : Run σ Unit := do
  let list := l.get (← get)
  match list.tail with
  | none => return
  | some tail => listDestroyFrom l destructor list.itemCount tail

end Destroy

def networkDestroy : Run (Globals δ) Unit := do
  listDestroy Globals.rxQueueLens packetDestroy
  listDestroy Globals.txQueueLens packetDestroy

/-- An entry is freed with its two arrays. -/
def routingEntryDestroy (index : ℕ) : Run (Globals δ) Unit := do
  match (← get).routingTable[index]? with
  | none => throw .outOfBounds
  | some none => return
  | some (some _) => setTableEntry index none

/-- Destroys the `n` entries from `i` on. -/
def routingDestroyFrom : ℕ → ℕ → Run (Globals δ) Unit
  | _, 0 => return
  | i, n + 1 => do
    routingEntryDestroy i
    routingDestroyFrom (i + 1) n

def routingDestroy : Run (Globals δ) Unit := do
  routingDestroyFrom 0 (← get).routingTableTop

def dataRequestsDestroy : Run (Globals δ) Unit :=
  listDestroy Globals.requestsQueueLens dataRequestDestroy

/-- `hour_destroy` frees what the node of the hour owns, and the node goes right after it. -/
def dataDestroy : Run (Globals δ) Unit :=
  listDestroy Globals.dataQueueLens (fun _ => return)

def zejfDestroy : Run (Globals δ) Unit := do
  dataSave T
  networkDestroy
  routingDestroy
  dataRequestsDestroy
  dataDestroy

section Lists

variable {σ α : Type} {l : Lens σ (LinkedList α)} {destructor : α → Run σ Unit}
  {I : List α → σ → Prop} {s : σ} {a p : ℕ} {v : α} {xs : List (ℕ × α)}

/-- One round of the loop frees the first node that is left, after its item. -/
lemma destroyRound_run (hset : ∀ vs q s, I vs s → I vs (l.set q s))
    (hstep : ∀ v vs s, I (v :: vs) s →
      ∃ t, (destructor v).run s = .ok () t ∧ I vs t ∧ l.get t = l.get s)
    {next : ℕ} {vs : List α} (hc : (l.get s).nodes.cells a = some ⟨next, p, v⟩)
    (hs : I (v :: vs) s) (fuel : ℕ) :
    ∃ u, l.get u = { l.get s with nodes := (l.get s).nodes.erase a } ∧ I vs u ∧
      (listDestroyFrom l destructor (fuel + 1) a).run s =
        (if (l.get s).tail ≠ some next then listDestroyFrom l destructor fuel next
          else pure ()).run u := by
  obtain ⟨t, hrun, ht, hget⟩ := hstep _ _ _ hs
  have hnode : ∀ s, (l.get s).nodes.cells a = some ⟨next, p, v⟩ →
      (zoom l (LinkedList.node a)).run s = .ok ⟨next, p, v⟩ s := by
    intro s hc
    have hread : (zoom l (LinkedList.node a)).run s = .ok ⟨next, p, v⟩ (l.set (l.get s) s) :=
      run_zoom_ok (LinkedList.node_run hc)
    rw [l.set_get] at hread
    exact hread
  have hct : (l.get t).nodes.cells a = some ⟨next, p, v⟩ := by rw [hget, hc]
  have hfree : (zoom l (zoom LinkedList.nodesLens (Heap.free a))).run t =
      .ok () (l.set { l.get t with nodes := (l.get t).nodes.erase a } t) :=
    run_zoom_ok (LinkedList.free_run (by rw [hct]; rfl))
  refine ⟨l.set { l.get t with nodes := (l.get t).nodes.erase a } t, ?_, hset _ _ _ ht, ?_⟩
  · rw [l.get_set, hget]
  · rw [listDestroyFrom, run_bind_ok (hnode s hc), run_bind_ok hrun, run_bind_ok (hnode t hct),
      run_bind_ok hfree, run_bind_ok (EStateM.run_get _), l.get_set, hget]

/-- Only the nodes still to be visited are left of the ring, and the last of them leads back to
where the walk began. `I` follows the items that the destructor has not seen yet. -/
lemma listDestroyFrom_run (hset : ∀ vs q s, I vs s → I vs (l.set q s))
    (hstep : ∀ v vs s, I (v :: vs) s →
      ∃ t, (destructor v).run s = .ok () t ∧ I vs t ∧ l.get t = l.get s)
    {start fuel : ℕ} (hfuel : xs.length < fuel)
    (hring : Ring.Segment (l.get s).nodes p ((a, v) :: xs) start)
    (hnodup : (((a, v) :: xs).map Prod.fst).Nodup) (hstart : start ∉ xs.map Prod.fst)
    (htail : (l.get s).tail = some start)
    (hlive : ∀ b, ((l.get s).nodes.cells b).isSome → b ∈ ((a, v) :: xs).map Prod.fst)
    (hs : I (((a, v) :: xs).map Prod.snd) s) :
    ∃ t, (listDestroyFrom l destructor fuel a).run s = .ok () t ∧ I [] t ∧
      ∀ b, (l.get t).nodes.cells b = none := by
  obtain ⟨fuel, rfl⟩ := Nat.exists_eq_succ_of_ne_zero (Nat.ne_zero_of_lt hfuel)
  induction xs generalizing s a p v fuel with
  | nil =>
    obtain ⟨u, hget, hu, hrun⟩ := destroyRound_run hset hstep hring.1 hs fuel
    refine ⟨u, ?_, hu, ?_⟩
    · rw [hrun, htail, if_neg (fun hne => hne rfl)]
      rfl
    · intro b
      rw [hget, Heap.erase_cells]
      split
      · rfl
      · by_contra hb
        have hmem := hlive b (Option.ne_none_iff_isSome.mp hb)
        simp only [List.map_cons, List.map_nil, List.mem_singleton] at hmem
        exact absurd hmem ‹_›
  | cons x xs ih =>
    obtain ⟨u, hget, hu, hrun⟩ := destroyRound_run hset hstep hring.1 hs fuel
    have hnotin := (List.nodup_cons.mp hnodup).1
    obtain ⟨fuel, rfl⟩ := Nat.exists_eq_succ_of_ne_zero (n := fuel)
      (by rw [List.length_cons] at hfuel; omega)
    have hrest : Ring.Segment (l.get u).nodes a (x :: xs) start := by
      refine hring.2.congr ?_
      intro b hb
      have hne : b ≠ a := fun he => hnotin (he ▸ hb)
      rw [hget, Heap.erase_cells, if_neg hne]
    have hleft : ∀ b, ((l.get u).nodes.cells b).isSome → b ∈ (x :: xs).map Prod.fst := by
      intro b hb
      rw [hget, Heap.erase_cells] at hb
      split at hb
      · cases hb
      · exact (List.mem_cons.mp (hlive b hb)).resolve_left ‹_›
    have hx : some start ≠ some x.1 :=
      fun he => hstart (Option.some.inj he ▸ List.mem_cons_self)
    obtain ⟨t, hloop, ht⟩ := ih hrest (List.nodup_cons.mp hnodup).2
      (fun hmem => hstart (List.mem_cons_of_mem _ hmem)) (by rw [hget]; exact htail) hleft hu fuel
      (by simpa using hfuel)
    refine ⟨t, ?_, ht⟩
    rw [hrun, htail, Ring.firstAddr_cons, if_pos hx]
    exact hloop

/-- Every item goes through the destructor once, in order, and no node is left. -/
theorem listDestroy_run (destructor : α → Run σ Unit) (hset : ∀ vs q s, I vs s → I vs (l.set q s))
    (hstep : ∀ v vs s, I (v :: vs) s →
      ∃ t, (destructor v).run s = .ok () t ∧ I vs t ∧ l.get t = l.get s)
    (hholds : (l.get s).Holds xs) (hs : I (xs.map Prod.snd) s) :
    ∃ t, (listDestroy l destructor).run s = .ok () t ∧ I [] t ∧
      ∀ b, (l.get t).nodes.cells b = none := by
  have hlive : ∀ b, ((l.get s).nodes.cells b).isSome → b ∈ xs.map Prod.fst := by
    intro b hb
    obtain ⟨c, hc⟩ := Option.isSome_iff_exists.mp hb
    exact hholds.live b c hc
  rw [listDestroy, run_bind_ok (EStateM.run_get s)]
  cases xs with
  | nil =>
    have htail : (l.get s).tail = none := hholds.tail
    simp only [htail]
    refine ⟨s, rfl, hs, ?_⟩
    intro b
    by_contra hb
    cases hlive b (Option.ne_none_iff_isSome.mp hb)
  | cons x xs =>
    have htail : (l.get s).tail = some x.1 := hholds.tail
    have hnodup := hholds.ring.nodup
    simp only [htail]
    exact listDestroyFrom_run hset hstep (by rw [hholds.count]; simp) hholds.ring.closed hnodup
      (List.nodup_cons.mp hnodup).1 htail hlive hs

end Lists

section Owned

variable {σ β : Type} {l : Lens σ (LinkedList ℕ)} {m : Lens σ (Heap β)} {s : σ}
  {xs : List (ℕ × ℕ)}

/-- A list whose items are addresses of live objects goes with all of them. -/
lemma listDestroy_owned (hget : ∀ h s, l.get (m.set h s) = l.get s)
    (hcomm : ∀ q h s, m.set h (l.set q s) = l.set q (m.set h s))
    (hholds : (l.get s).Holds xs) (hlive : ∀ x ∈ xs, ((m.get s).cells x.2).isSome)
    (hnodup : (xs.map Prod.snd).Nodup) :
    ∃ q h, (listDestroy l (fun v => zoom m (Heap.free v))).run s =
        .ok () (l.set q (m.set h s)) ∧ (∀ b, q.nodes.cells b = none) ∧
      ∀ b, h.cells b = if b ∈ xs.map Prod.snd then none else (m.get s).cells b := by
  have hsame : ∀ q h, m.get (l.set q (m.set h s)) = h := by
    intro q h
    rw [← hcomm, m.get_set]
  have hrun := listDestroy_run (fun v => zoom m (Heap.free v)) (l := l) (s := s)
    (I := fun vs t => ∃ q h gone, t = l.set q (m.set h s) ∧ gone ++ vs = xs.map Prod.snd ∧
      ∀ b, h.cells b = if b ∈ gone then none else (m.get s).cells b) ?_ ?_ hholds
    ⟨l.get s, m.get s, [], by rw [m.set_get, l.set_get], rfl, fun b => by simp⟩
  · obtain ⟨t, hrun, ⟨q, h, gone, rfl, hgone, hcells⟩, hnodes⟩ := hrun
    rw [List.append_nil] at hgone
    rw [l.get_set] at hnodes
    exact ⟨q, h, hrun, hnodes, hgone ▸ hcells⟩
  · rintro vs q _ ⟨q', h, gone, rfl, hgone, hcells⟩
    exact ⟨q, h, gone, l.set_set _ _ _, hgone, hcells⟩
  · rintro v vs _ ⟨q, h, gone, rfl, hgone, hcells⟩
    have hv : v ∈ xs.map Prod.snd := hgone ▸ by simp
    have hnew : v ∉ gone := by
      intro hmem
      rw [← hgone] at hnodup
      exact (List.nodup_append.mp hnodup).2.2 v hmem v (by simp) rfl
    have hfree : ((m.get (l.set q (m.set h s))).cells v).isSome := by
      obtain ⟨x, hx, rfl⟩ := List.mem_map.mp hv
      rw [hsame, hcells, if_neg hnew]
      exact hlive x hx
    refine ⟨_, run_zoom_ok (Heap.free_run hfree), ⟨q, h.erase v, gone ++ [v], ?_, ?_, ?_⟩, ?_⟩
    · rw [hsame, hcomm, m.set_set]
    · rw [List.append_assoc, List.singleton_append, hgone]
    · intro b
      rw [Heap.erase_cells, hcells]
      by_cases hb : b = v
      · simp [hb]
      · simp [hb]
    · rw [hget]

end Owned

section Globals

variable {T} {s : Globals δ} {tx rx : List Queued} {es fs : List RoutingEntry}
  {rs : List Requested} {xs : List (ℕ × DataHour)} {size : ℕ}

/-- The packets in the two queues are destroyed, each of them once, and no other ones. -/
lemma networkDestroy_run (h : s.QueuesHold tx rx) :
    ∃ rq tq ps, (networkDestroy : Run (Globals δ) Unit).run s =
        .ok () { s with rxQueue := rq, txQueue := tq, packets := ps } ∧
      (∀ b, rq.nodes.cells b = none) ∧ (∀ b, tq.nodes.cells b = none) ∧
      ∀ b, ps.cells b = if b ∈ (tx ++ rx).map Queued.addr then none else s.packets.cells b := by
  have hdistinct := h.distinct
  rw [List.map_append, List.nodup_append] at hdistinct
  have haddr : ∀ qs : List Queued, (qs.map Queued.ref).map Prod.snd = qs.map Queued.addr :=
    fun qs => List.map_map
  have hlive : ∀ q ∈ tx ++ rx, (s.packets.cells q.addr).isSome := by
    intro q hq
    rw [h.live q hq]
    rfl
  have hrx : ∀ x ∈ rx.map Queued.ref, (s.packets.cells x.2).isSome := by
    intro x hx
    obtain ⟨q, hq, rfl⟩ := List.mem_map.mp hx
    exact hlive q (List.mem_append_right _ hq)
  obtain ⟨rq, ps, hrun, hrq, hps⟩ := listDestroy_owned (l := Globals.rxQueueLens)
    (m := Globals.packetsLens) (fun _ _ => rfl) (fun _ _ _ => rfl) h.rxHolds hrx
    (by rw [haddr]; exact hdistinct.2.1)
  have htx : ∀ x ∈ tx.map Queued.ref, (ps.cells x.2).isSome := by
    intro x hx
    obtain ⟨q, hq, rfl⟩ := List.mem_map.mp hx
    have hout : q.addr ∉ rx.map Queued.addr :=
      fun hmem => hdistinct.2.2 _ (List.mem_map_of_mem hq) _ hmem rfl
    have hcell := hps q.addr
    rw [haddr, if_neg hout] at hcell
    show (ps.cells q.addr).isSome
    rw [hcell]
    exact hlive q (List.mem_append_left _ hq)
  obtain ⟨tq, ps', hrun', htq, hps'⟩ := listDestroy_owned (l := Globals.txQueueLens)
    (m := Globals.packetsLens) (s := { s with rxQueue := rq, packets := ps }) (fun _ _ => rfl)
    (fun _ _ _ => rfl) h.txHolds htx (by rw [haddr]; exact hdistinct.1)
  refine ⟨rq, tq, ps', ?_, hrq, htq, ?_⟩
  · rw [networkDestroy]
    exact (run_bind_ok hrun).trans hrun'
  · intro b
    have hcell : ps'.cells b = if b ∈ tx.map Queued.addr then none else ps.cells b := by
      rw [← haddr]
      exact hps' b
    rw [hcell, hps, haddr, List.map_append]
    by_cases hb : b ∈ tx.map Queued.addr
    · simp [hb]
    · simp only [hb, if_false, List.mem_append, false_or]
      rfl

/-- The requests that wait are destroyed, each of them once, and no other ones. -/
lemma dataRequestsDestroy_run (h : s.RequestsHold rs) :
    ∃ q hs, (dataRequestsDestroy : Run (Globals δ) Unit).run s =
        .ok () { s with dataRequestsQueue := q, requests := hs } ∧
      (∀ b, q.nodes.cells b = none) ∧
      ∀ b, hs.cells b = if b ∈ rs.map Requested.addr then none else s.requests.cells b := by
  have haddr : (rs.map Requested.ref).map Prod.snd = rs.map Requested.addr := List.map_map
  have hlive : ∀ x ∈ rs.map Requested.ref, (s.requests.cells x.2).isSome := by
    intro x hx
    obtain ⟨r, hr, rfl⟩ := List.mem_map.mp hx
    show (s.requests.cells r.addr).isSome
    rw [h.live r hr]
    rfl
  obtain ⟨q, hs, hrun, hq, hcells⟩ := listDestroy_owned (l := Globals.requestsQueueLens)
    (m := Globals.requestsLens) (fun _ _ => rfl) (fun _ _ _ => rfl) h.holds hlive
    (by rw [haddr]; exact h.distinct)
  rw [haddr] at hcells
  exact ⟨q, hs, hrun, hq, hcells⟩

/-- The cache goes with its hours. -/
lemma dataDestroy_run (h : s.dataQueue.Holds xs) :
    ∃ q, (dataDestroy : Run (Globals δ) Unit).run s = .ok () { s with dataQueue := q } ∧
      ∀ b, q.nodes.cells b = none := by
  obtain ⟨_, hrun, ⟨q, rfl⟩, hq⟩ := listDestroy_run
    (fun _ => (return : Run (Globals δ) Unit)) (l := Globals.dataQueueLens)
    (I := fun _ t => ∃ q, t = { s with dataQueue := q }) (s := s)
    (by rintro _ q _ ⟨q', rfl⟩; exact ⟨q, rfl⟩) (fun v vs t ht => ⟨t, rfl, ht, rfl⟩) h
    ⟨s.dataQueue, rfl⟩
  exact ⟨q, hrun, hq⟩

lemma routingDestroyFrom_run (pre slots rest : List (Option RoutingEntry))
    (h : s.routingTable = pre ++ slots ++ rest) :
    (routingDestroyFrom pre.length slots.length).run s =
      .ok () { s with routingTable := pre ++ List.replicate slots.length none ++ rest } := by
  induction slots generalizing s pre with
  | nil =>
    have hs : pre ++ List.replicate 0 none ++ rest = s.routingTable := by simp [h]
    rw [List.length_nil, routingDestroyFrom, hs]
    rfl
  | cons slot slots ih =>
    have hslot : s.routingTable[pre.length]? = some slot := by simp [h]
    have hlt : pre.length < s.routingTable.length := by simp [h]
    have hdestroy : (routingEntryDestroy pre.length).run s =
        .ok () { s with routingTable := pre ++ none :: slots ++ rest } := by
      rw [routingEntryDestroy, run_bind_ok (EStateM.run_get s)]
      simp only [hslot]
      cases slot with
      | none => rw [← h]; rfl
      | some entry => rw [setTableEntry_run hlt, h]; simp
    have hrest := ih (pre ++ [none]) (s := { s with routingTable := pre ++ none :: slots ++ rest })
      (by simp)
    rw [List.length_append, List.length_singleton] at hrest
    rw [List.length_cons, routingDestroyFrom, run_bind_ok hdestroy, hrest]
    simp [List.replicate_succ]

/-- No entry is left in the table. -/
lemma routingDestroy_run (h : s.TableHolds size es) :
    (routingDestroy : Run (Globals δ) Unit).run s =
      .ok () { s with routingTable := List.replicate size none } := by
  have hrun := routingDestroyFrom_run [] (es.map some) (List.replicate (size - es.length) none)
    (s := s) (by rw [h.slots]; rfl)
  rw [List.length_nil, List.length_map, List.nil_append, ← List.replicate_add,
    Nat.add_sub_cancel' h.bounded, ← h.top] at hrun
  rw [routingDestroy, run_bind_ok (EStateM.run_get s), hrun]

/-- Neither a packet nor a routing entry is left, nor a node of any list. -/
structure Globals.Freed (t : Globals δ) : Prop where
  packets : ∀ b, t.packets.cells b = none
  entries : ∀ slot ∈ t.routingTable, slot = none
  rxNodes : ∀ b, t.rxQueue.nodes.cells b = none
  txNodes : ∀ b, t.txQueue.nodes.cells b = none
  requestNodes : ∀ b, t.dataRequestsQueue.nodes.cells b = none
  hours : ∀ b, t.dataQueue.nodes.cells b = none

/-- A request that exists and waits in no queue. -/
def Globals.Leaked (s : Globals δ) (b : ℕ) : Prop :=
  (s.requests.cells b).isSome ∧ b ∉ s.dataRequestsQueue.items.map Prod.snd

/-- A state in which every packet is in a queue is freed. -/
lemma zejfDestroy_run (hc : s.CacheHolds T xs) (hn : NodeHolds T s tx rx es)
    (hr : s.RequestsHold rs) (hloose : ∀ b, ¬s.Loose tx rx b) :
    ∃ t, (zejfDestroy T).run s = .ok () t ∧ t.Freed ∧ (∀ b, (t.requests.cells b).isSome ↔
      s.Leaked b) ∧ t.platform = (leaves ((dataSave T).run s)).platform := by
  obtain ⟨ys, dq, p, hsave, hc'⟩ := dataSave_cached hc
  have hq : ({ s with dataQueue := dq, platform := p } : Globals δ).QueuesHold tx rx :=
    hn.network.queues.congr rfl rfl rfl (fun _ _ => rfl)
  obtain ⟨rq, tq, ps, hnetwork, hrq, htq, hps⟩ := networkDestroy_run hq
  have htable : ({ s with
      dataQueue := dq, platform := p, rxQueue := rq, txQueue := tq, packets := ps } :
        Globals δ).TableHolds T.routingTableSize es := hn.network.table.congr rfl rfl
  have hrouting := routingDestroy_run htable
  have hwaiting : ({ s with
      dataQueue := dq, platform := p, rxQueue := rq, txQueue := tq, packets := ps,
      routingTable := List.replicate T.routingTableSize none } : Globals δ).RequestsHold rs :=
    hr.congr rfl rfl
  obtain ⟨q, hs, hrequests, hq, hcells⟩ := dataRequestsDestroy_run hwaiting
  obtain ⟨dq', hdata, hdq⟩ := dataDestroy_run (s := { s with
    dataQueue := dq, platform := p, rxQueue := rq, txQueue := tq, packets := ps,
    routingTable := List.replicate T.routingTableSize none, dataRequestsQueue := q,
    requests := hs }) hc'.queue
  refine ⟨{ s with
    dataQueue := dq', platform := p, rxQueue := rq, txQueue := tq, packets := ps,
    routingTable := List.replicate T.routingTableSize none, dataRequestsQueue := q,
    requests := hs }, ?_, ⟨?_, ?_, hrq, htq, hq, hdq⟩, ?_, ?_⟩
  · rw [zejfDestroy, run_bind_ok hsave, run_bind_ok hnetwork, run_bind_ok hrouting,
      run_bind_ok hrequests]
    exact hdata
  · intro b
    show ps.cells b = none
    rw [hps]
    split
    · rfl
    · by_contra hb
      exact hloose b ⟨Option.ne_none_iff_isSome.mp hb, ‹_›⟩
  · intro slot hslot
    exact List.eq_of_mem_replicate hslot
  · intro b
    show (hs.cells b).isSome ↔ _
    rw [hcells, Globals.Leaked, hr.items_addr]
    by_cases hb : b ∈ rs.map Requested.addr
    · simp [hb]
    · simp [hb]
  · rw [hsave]
    rfl

/-- A device is in order after any operations that return. -/
lemma packetOps_settle (hT : T.Separate) {platform : δ} {is : Heap Interface}
    (hlinks : ∀ a ∈ T.getAllInterfaces platform, (is.cells a).isSome)
    {tr : List (PacketOp × Option ZejfErr)} {d : Device δ}
    (htrace : Trace (PacketOp.run T) (Device.start T platform is) tr d)
    (hallowed : ∀ x ∈ tr, x.1.Allowed T is) :
    Settles T (fun a => (is.cells a).isSome) (fun _ => False) d.globals := by
  refine htrace.invariant (A := PacketOp.Allowed T is)
    (I := fun _ d => Settles T (fun a => (is.cells a).isSome) (fun _ => False) d.globals)
    hallowed (start_settles platform hlinks) ?_
  intro _ t op r u hop ht hrun
  rcases PacketOp.accounts hT rfl hop ht with
    ⟨r', u', hrun', hu⟩ | ⟨_, _, _, _, e, u', _, _, _, hfault⟩
  · obtain ⟨rfl, rfl⟩ := EStateM.Result.ok.inj (hrun.symm.trans hrun')
    exact hu
  · cases hrun.symm.trans hfault

/-- **Shutting down.** After any operations `zejf_destroy` saves the cache and frees every packet,
routing entry, cached hour and list node, none of them twice. Only requests are left, and these are
the ones that had found no place in the queue. -/
theorem zejfDestroy_frees (hT : T.Separate) {platform : δ} {is : Heap Interface}
    (hlinks : ∀ a ∈ T.getAllInterfaces platform, (is.cells a).isSome)
    {tr : List (PacketOp × Option ZejfErr)} {d : Device δ}
    (htrace : Trace (PacketOp.run T) (Device.start T platform is) tr d)
    (hallowed : ∀ x ∈ tr, x.1.Allowed T is) :
    ∃ t, (zejfDestroy T).run d.globals = .ok () t ∧ t.Freed ∧
      (∀ b, (t.requests.cells b).isSome ↔ d.globals.Leaked b) ∧
      t.platform = (leaves ((dataSave T).run d.globals)).platform := by
  obtain ⟨es, rs, hs⟩ := packetOps_settle hT hlinks htrace hallowed
  obtain ⟨tx, rx, hn, hloose⟩ := hs.node
  obtain ⟨xs, hc⟩ := hs.cache
  exact zejfDestroy_run hc hn hs.requests (fun b hb => (hloose b).mp hb)

end Globals

/-- The question that is still to be sent is destroyed too. -/
theorem afterHearing_destroyed :
    ∃ t, (zejfDestroy bareServer).run afterHearing.globals = .ok () t ∧ t.Freed ∧
      (∀ b, (t.requests.cells b).isSome ↔ afterHearing.globals.Leaked b) ∧
      t.platform = (leaves ((dataSave bareServer).run afterHearing.globals)).platform := by
  have hask : (askForTime.run bareServer).run (Device.start bareServer () oneLink) =
      .ok (some .ok) afterAsking := rfl
  have hhear : (hearOfFive.run bareServer).run afterAsking = .ok (some .ok) afterHearing := rfl
  refine zejfDestroy_frees ⟨bareServer_steady, fun _ _ => rfl, fun _ _ _ => rfl⟩
    (fun a ha => by cases ha) ((Trace.nil.snoc hask).snoc hhear) ?_
  intro x hx
  simp only [List.nil_append, List.cons_append, List.mem_cons, List.not_mem_nil, or_false] at hx
  rcases hx with rfl | rfl
  · refine ⟨?_, ?_, ?_⟩
    · intro a ha
      cases ha
    · intro h
      cases h
    · intro h
      cases h
  · rfl

end ZejfMeteo
