import ZejfMeteo.Clients

/-!
# Silent clients

The loop of `watchdog_run` over the clients of the server. It starts at `head`, where it also
goes back to whenever it has removed a client; but being at `head` is what ends it.
-/

namespace ZejfMeteo.Clients
open Runs

variable {δ : Type}

section Code

variable (lastSeen : ℕ → Int64) (millis : Int64)

/-- What is asked of the client at an address, by its field `last_seen`. -/
def timedOut (client : ℕ) : Bool := 10 * 1000 < millis - lastSeen client

/-- The next node is read before a node is freed. -/
def watchdogLoop : ℕ → ℕ → Run (Server δ) Unit
  | 0, _ => throw .outOfFuel
  | fuel + 1, tmp => do
    let c ← zoom Server.clientsLens (LinkedList.node tmp)
    let _ ← readClient c.item
    let node ← if timedOut lastSeen millis c.item then do
        clientRemove (some tmp)
        pure (← get).clients.head
      else
        pure (some c.next)
    match node with
    | none => return
    | some node =>
      if (← get).clients.head ≠ some node then
        watchdogLoop fuel node

/-- A walk takes at most one round. -/
def watchdogPass : Run (Server δ) Unit := do
  let s ← get
  match s.clients.head with
  | none => return
  | some node => watchdogLoop lastSeen millis s.clients.itemCount node

end Code

/-- The pointers of the server are in order: the clients in its list are live and so are their
interfaces, the interfaces in the table are live and have different uids, and the queues and the
routing table of the network are in order. -/
structure Server.InOrder (s : Server δ) (cs : List Joined) (as : List ℕ) (tx rx : List Queued)
    (size : ℕ) (es : List RoutingEntry) : Prop where
  holds : s.clients.Holds (cs.map Joined.ref)
  live : ∀ c ∈ cs, s.clientObjects.cells c.addr = some c.client
  addrs : (cs.map Joined.addr).Nodup
  interfaces : ∀ c ∈ cs, (s.uidOf c.client.interface).isSome
  table : s.TableOf as
  known : ∀ a ∈ as, (s.uidOf a).isSome
  distinct : (as.map s.uidOf).Nodup
  queues : s.network.QueuesHold tx rx
  routes : s.network.TableHolds size es

/-- The network can lose the interface in the table that has the uid of the client's: the routes
that it looks at have live interfaces, and the only packet in the transmit queue, if there is
just one, has nothing to do with the interface. -/
def Server.CanLose (s : Server δ) (as : List ℕ) (tx : List Queued) (es : List RoutingEntry)
    (c : Joined) : Prop :=
  ∀ a ∈ as, ∀ i, s.network.interfaces.cells a = some i →
    s.uidOf c.client.interface = some i.uid →
    (∀ e ∈ routesSeen (·.via s.network i.uid) es, (s.network.interfaceAt e.interface).isSome) ∧
      ∀ q, tx = [q] → q.via a = false

section Removal

variable {s u : Server δ} {cs pre post : List Joined} {c : Joined} {as : List ℕ}
  {tx rx : List Queued} {size : ℕ} {es : List RoutingEntry} {uid : ℤ}

/-- What removing an interface changes, if it comes to an end. -/
lemma interfaceRemove_outcome (ht : s.TableOf as) (hknown : ∀ a ∈ as, (s.uidOf a).isSome)
    (hdistinct : (as.map s.uidOf).Nodup) (uid : ℤ) :
    ((∀ a ∈ as, s.uidOf a = some uid → ∃ n, (interfaceRemoved a).run s.network = .ok () n) ∧
      ∃ n slots count, uids n = uids s.network ∧ (interfaceRemove uid).run s =
        .ok () { s with network := n, allInterfaces := slots, interfaceCount := count }) ∨
    (¬(∀ a ∈ as, s.uidOf a = some uid → ∃ n, (interfaceRemoved a).run s.network = .ok () n) ∧
      ∃ e t, (interfaceRemove uid).run s = .error e t) := by
  by_cases hmem : some uid ∈ as.map s.uidOf
  · obtain ⟨a, ha, huid⟩ := List.mem_map.mp hmem
    obtain ⟨pre, post, rfl⟩ := List.append_of_mem ha
    have hothers : ∀ x ∈ pre ++ post, (s.uidOf x).isSome ∧ s.uidOf x ≠ some uid := by
      intro x hx
      refine ⟨hknown x (List.perm_middle.mem_iff.mpr (List.mem_cons_of_mem _ hx)), ?_⟩
      rw [← huid]
      exact ne_of_nodup_map hdistinct hx
    cases hgone : (interfaceRemoved a).run s.network with
    | error e n =>
      refine Or.inr ⟨?_, e, _, interfaceRemove_error ht huid
        (fun x hx => hothers x (List.mem_append_left _ hx)) hgone⟩
      intro hall
      obtain ⟨n', hok⟩ := hall a ha huid
      rw [hgone] at hok
      cases hok
    | ok o n =>
      have hn := interfaceRemoved_uids hgone
      obtain ⟨slots, count, hrun, -⟩ := interfaceRemove_run ht huid hothers hgone
      refine Or.inl ⟨?_, n, slots, count, hn, hrun⟩
      intro x hx hxu
      by_cases hxa : x = a
      · exact ⟨n, hxa ▸ hgone⟩
      · have hx' : x ∈ pre ++ post := by
          simp only [List.mem_append, List.mem_cons] at hx ⊢
          tauto
        exact absurd hxu (hothers x hx').2
  · have hothers : ∀ x ∈ as, (s.uidOf x).isSome ∧ s.uidOf x ≠ some uid :=
      fun x hx => ⟨hknown x hx, fun he => hmem (he ▸ List.mem_map_of_mem hx)⟩
    refine Or.inl ⟨fun x hx he => absurd he (hothers x hx).2, s.network, s.allInterfaces,
      s.interfaceCount, rfl, interfaceRemove_absent ht hothers⟩

lemma Server.InOrder.canLose_iff (h : s.InOrder cs as tx rx size es)
    (huid : s.uidOf c.client.interface = some uid) : s.CanLose as tx es c ↔
      ∀ a ∈ as, s.uidOf a = some uid → ∃ n, (interfaceRemoved a).run s.network = .ok () n := by
  constructor
  · intro hcan a ha he
    obtain ⟨i, hi, rfl⟩ := Option.map_eq_some_iff.mp he
    exact (interfaceRemoved_returns_iff h.routes h.queues hi).mpr (hcan a ha i hi huid)
  · intro hall a ha i hi he
    have hia : s.uidOf a = some uid := by
      rw [← huid, he, Server.uidOf, hi]
      rfl
    exact (interfaceRemoved_returns_iff h.routes h.queues hi).mp (hall a ha hia)

/-- A client that the network can lose leaves the list, and the others stay; otherwise there is
no end to it. -/
lemma clientRemove_outcome (h : s.InOrder (pre ++ c :: post) as tx rx size es) :
    (s.CanLose as tx es c ∧ ∃ u, (clientRemove (some c.node)).run s = .ok () u ∧
      u.clients.Holds ((pre ++ post).map Joined.ref) ∧
      ∀ d ∈ pre ++ post, u.clientObjects.cells d.addr = some d.client) ∨
    (¬s.CanLose as tx es c ∧ ∃ e u, (clientRemove (some c.node)).run s = .error e u) := by
  have hc : c ∈ pre ++ c :: post := by simp
  have hlive := h.interfaces c hc
  rw [Server.uidOf, Option.isSome_map] at hlive
  obtain ⟨i, hi⟩ := Option.isSome_iff_exists.mp hlive
  have huid : s.uidOf c.client.interface = some i.uid := by
    rw [Server.uidOf, hi]
    rfl
  obtain ⟨l, hlisted, hl, -⟩ := clientRemove_listed h.holds (h.live c hc) hi
  have ht : ({ s with clients := l } : Server δ).TableOf as :=
    ⟨h.table.slots, h.table.count, h.table.room⟩
  rw [h.canLose_iff huid, hlisted]
  rcases interfaceRemove_outcome ht h.known h.distinct i.uid with
    ⟨hall, n, slots, count, hn, hrun⟩ | ⟨hnot, e, t, hrun⟩
  · have hdestroy := clientDestroy_removed hn (h.live c hc) (h.interfaces c hc) l slots count
    refine Or.inl ⟨hall, _, (run_bind_ok hrun).trans hdestroy, hl, ?_⟩
    intro d hd
    show (s.clientObjects.erase c.addr).cells d.addr = _
    rw [Heap.erase_cells, if_neg (ne_of_nodup_map h.addrs hd)]
    exact h.live d (List.perm_middle.mem_iff.mpr (List.mem_cons_of_mem _ hd))
  · exact Or.inr ⟨hnot, e, t, run_bind_error hrun⟩

/-- The server that has these clients is in order if its network is. -/
lemma Server.Serves.inOrder (h : s.Serves cs) (hd : s.Distinct cs)
    (hq : s.network.QueuesHold tx rx) (ht : s.network.TableHolds size es) :
    s.InOrder cs (s.registered cs) tx rx size es where
  holds := h.holds
  live := h.live
  addrs := h.addrs
  interfaces _ hc := h.known _ (List.mem_cons_of_mem _ (List.mem_map_of_mem hc))
  table := h.table
  known := h.known
  distinct := hd
  queues := hq
  routes := ht

end Removal

section Walk

variable {lastSeen : ℕ → Int64} {millis : Int64} {s u : Server δ} {cs pre post : List Joined}
  {c z : Joined} {as : List ℕ} {tx rx : List Queued} {size : ℕ} {es : List RoutingEntry}

/-- A client that has not been seen for more than ten seconds. -/
def Joined.silent (lastSeen : ℕ → Int64) (millis : Int64) (c : Joined) : Bool :=
  timedOut lastSeen millis c.addr

/-- The clients in the order in which the loop comes to them. -/
def visited (cs : List Joined) : List Joined := cs.getLast?.toList ++ cs.dropLast

/-- What is left of the loop once a client has been looked at. -/
def watchdogOn (lastSeen : ℕ → Int64) (millis : Int64) (fuel next : ℕ) : Run (Server δ) Unit := do
  if (← get).clients.head ≠ some next then
    watchdogLoop lastSeen millis fuel next

/-- A silent client is removed, and that is the end of it. -/
lemma watchdogLoop_silent (hl : s.clients.Holds ((pre ++ c :: post).map Joined.ref))
    (hc : s.clientObjects.cells c.addr = some c.client) (hsilent : c.silent lastSeen millis)
    (fuel : ℕ) : (watchdogLoop lastSeen millis (fuel + 1) c.node).run s =
      (clientRemove (some c.node)).run s := by
  have hout : timedOut lastSeen millis c.addr = true := hsilent
  rw [watchdogLoop, run_bind_ok (clientNode_run hl), run_bind_ok (readClient_run hc), if_pos hout]
  cases hrun : (clientRemove (some c.node)).run s with
  | error e u => exact run_bind_error hrun
  | ok o u =>
    rw [run_bind_ok hrun, run_bind_ok (EStateM.run_get u), pure_bind]
    -- The next node is the head, so the loop ends whether there is one or not.
    cases hhead : u.clients.head with
    | none => rfl
    | some node =>
      dsimp only
      rw [run_bind_ok (EStateM.run_get u), if_neg (by simp [hhead])]
      rfl

lemma watchdogLoop_spared (hl : s.clients.Holds ((pre ++ c :: post).map Joined.ref))
    (hc : s.clientObjects.cells c.addr = some c.client) (hspared : ¬c.silent lastSeen millis)
    (fuel : ℕ) : (watchdogLoop lastSeen millis (fuel + 1) c.node).run s =
      (watchdogOn lastSeen millis fuel
        (Ring.firstAddr ((post ++ pre).map Joined.ref) c.node)).run s := by
  have hout : ¬timedOut lastSeen millis c.addr = true := hspared
  rw [watchdogLoop, run_bind_ok (clientNode_run hl), run_bind_ok (readClient_run hc), if_neg hout]
  rfl

/-- From the first of the clients that are left, the loop removes the first silent one, or comes
back to the head. -/
lemma watchdogOn_run {rest : List Joined} {fuel : ℕ}
    (hl : s.clients.Holds ((pre ++ rest ++ [z]).map Joined.ref))
    (hlive : ∀ c ∈ rest, s.clientObjects.cells c.addr = some c.client)
    (hfuel : rest.length ≤ fuel) :
    (watchdogOn lastSeen millis fuel (Ring.firstAddr (rest.map Joined.ref) z.node)).run s =
      match rest.find? (·.silent lastSeen millis) with
      | none => .ok () s
      | some c => (clientRemove (some c.node)).run s := by
  have hhead : s.clients.head = some z.node := by
    rw [hl.head]
    simp [Joined.ref]
  induction rest generalizing pre fuel with
  | nil => simp [watchdogOn, hhead]
  | cons c rest ih =>
    obtain ⟨fuel, rfl⟩ := Nat.exists_eq_succ_of_ne_zero (Nat.ne_zero_of_lt hfuel)
    have hne : z.node ≠ c.node := by
      have hnodup := hl.ring.nodup
      rw [List.map_map, List.append_assoc, List.cons_append] at hnodup
      exact ne_of_nodup_map hnodup (by simp)
    have hon : (watchdogOn lastSeen millis (fuel + 1)
        (Ring.firstAddr ((c :: rest).map Joined.ref) z.node)).run s =
        (watchdogLoop lastSeen millis (fuel + 1) c.node).run s := by
      rw [watchdogOn, run_bind_ok (EStateM.run_get s), hhead, if_pos (by simpa [Joined.ref])]
      rfl
    have hl' : s.clients.Holds ((pre ++ c :: (rest ++ [z])).map Joined.ref) := by simpa using hl
    have hc := hlive c List.mem_cons_self
    rw [hon]
    by_cases hsilent : c.silent lastSeen millis = true
    · rw [watchdogLoop_silent hl' hc hsilent, List.find?_cons_of_pos hsilent]
    · have hnext : Ring.firstAddr ((rest ++ [z] ++ pre).map Joined.ref) c.node =
          Ring.firstAddr (rest.map Joined.ref) z.node := by
        cases rest <;> rfl
      have hpast : s.clients.Holds ((pre ++ [c] ++ rest ++ [z]).map Joined.ref) := by
        simpa using hl
      rw [watchdogLoop_spared hl' hc hsilent, hnext, List.find?_cons_of_neg hsilent]
      exact ih hpast (fun d hd => hlive d (List.mem_cons_of_mem _ hd)) (by simpa using hfuel)

/-- A pass removes the first silent client that it comes to, and no other. -/
lemma watchdogPass_run (hl : s.clients.Holds (cs.map Joined.ref))
    (hlive : ∀ c ∈ cs, s.clientObjects.cells c.addr = some c.client) :
    (watchdogPass lastSeen millis).run s =
      match (visited cs).find? (·.silent lastSeen millis) with
      | none => .ok () s
      | some c => (clientRemove (some c.node)).run s := by
  rcases List.eq_nil_or_concat cs with rfl | ⟨rest, z, rfl⟩
  · have hhead : s.clients.head = none := hl.head
    rw [watchdogPass, run_bind_ok (EStateM.run_get s), hhead]
    rfl
  · rw [List.concat_eq_append] at hl hlive ⊢
    have hhead : s.clients.head = some z.node := by
      rw [hl.head]
      simp [Joined.ref]
    have hcount : s.clients.itemCount = rest.length + 1 := by
      rw [hl.count]
      simp
    have hz := hlive z (by simp)
    have hvisited : visited (rest ++ [z]) = z :: rest := by simp [visited]
    rw [watchdogPass, run_bind_ok (EStateM.run_get s), hhead, hvisited]
    dsimp only
    rw [hcount]
    by_cases hsilent : z.silent lastSeen millis = true
    · rw [watchdogLoop_silent hl hz hsilent, List.find?_cons_of_pos hsilent]
    · have hl' : s.clients.Holds (([] ++ rest ++ [z]).map Joined.ref) := hl
      rw [watchdogLoop_spared hl hz hsilent, List.find?_cons_of_neg hsilent, List.nil_append]
      exact watchdogOn_run hl' (fun c hc => hlive c (List.mem_append_left _ hc)) (Nat.le_refl _)

lemma visited_perm (cs : List Joined) : (visited cs).Perm cs := by
  rcases List.eq_nil_or_concat cs with rfl | ⟨rest, z, rfl⟩
  · exact List.Perm.refl []
  · simpa [visited] using (List.perm_append_singleton z rest).symm

lemma silent_length_le_one_iff (hsilent : c.silent lastSeen millis = true) :
    ((pre ++ c :: post).filter (·.silent lastSeen millis)).length ≤ 1 ↔
      ∀ d ∈ pre ++ post, ¬d.silent lastSeen millis = true := by
  rw [(List.perm_middle.filter _).length_eq, List.filter_cons_of_pos hsilent, List.length_cons,
    ← List.filter_eq_nil_iff, ← List.length_eq_zero_iff]
  omega

/-- The pass comes to an end without having looked at a freed node or client, and exactly the
clients that have been seen in the last ten seconds are in the list, in their order. -/
def RemovesSilent (lastSeen : ℕ → Int64) (millis : Int64) (s : Server δ) (cs : List Joined) :
    Prop :=
  ∃ u, (watchdogPass lastSeen millis).run s = .ok () u ∧
    u.clients.Holds ((cs.filter (fun c => !c.silent lastSeen millis)).map Joined.ref) ∧
    ∀ c ∈ cs, !c.silent lastSeen millis → u.clientObjects.cells c.addr = some c.client

/-- **A pass removes the silent clients exactly if there is at most one.** And the network must be
able to lose it. -/
theorem removesSilent_iff (h : s.InOrder cs as tx rx size es) (lastSeen : ℕ → Int64)
    (millis : Int64) : RemovesSilent lastSeen millis s cs ↔
      (cs.filter (·.silent lastSeen millis)).length ≤ 1 ∧
        ∀ c ∈ cs, c.silent lastSeen millis → s.CanLose as tx es c := by
  have hrun : (watchdogPass lastSeen millis).run s = _ := watchdogPass_run h.holds h.live
  have hmem : ∀ c, c ∈ visited cs ↔ c ∈ cs := fun c => (visited_perm cs).mem_iff
  cases hfind : (visited cs).find? (·.silent lastSeen millis) with
  | none =>
    rw [hfind] at hrun
    have hspared : ∀ c ∈ cs, ¬c.silent lastSeen millis = true :=
      fun c hc => List.find?_eq_none.mp hfind c ((hmem c).mpr hc)
    refine iff_of_true ⟨s, hrun, ?_, fun c hc _ => h.live c hc⟩ ⟨?_, ?_⟩
    · rw [List.filter_eq_self.mpr (fun c hc => by simpa using hspared c hc)]
      exact h.holds
    · rw [List.filter_eq_nil_iff.mpr hspared]
      exact Nat.zero_le 1
    · exact fun c hc hsilent => absurd hsilent (hspared c hc)
  | some c =>
    rw [hfind] at hrun
    have hsilent : c.silent lastSeen millis = true := List.find?_some hfind
    have hc : c ∈ cs := (hmem c).mp (List.mem_of_find?_eq_some hfind)
    obtain ⟨pre, post, rfl⟩ := List.append_of_mem hc
    rcases clientRemove_outcome h with ⟨hcan, u, hremove, hu, hlive⟩ | ⟨hnot, e, u, hremove⟩
    · have hleft : (pre ++ c :: post).filter (fun c => !c.silent lastSeen millis) =
          (pre ++ post).filter (fun c => !c.silent lastSeen millis) := by
        rw [List.filter_append, List.filter_cons_of_neg (by simp [hsilent]), ← List.filter_append]
      rw [silent_length_le_one_iff hsilent]
      constructor
      · rintro ⟨u', hu', hholds, -⟩
        obtain rfl := (EStateM.Result.ok.inj ((hrun.trans hremove).symm.trans hu')).2
        have hlen : (pre ++ post).length =
            ((pre ++ c :: post).filter (fun c => !c.silent lastSeen millis)).length := by
          simpa using hu.count.symm.trans hholds.count
        rw [hleft] at hlen
        have hspared : ∀ d ∈ pre ++ post, ¬d.silent lastSeen millis = true :=
          fun d hd => by simpa using List.length_filter_eq_length_iff.mp hlen.symm d hd
        refine ⟨hspared, ?_⟩
        intro d hd hd'
        rcases List.mem_append.mp hd with hd | hd
        · exact absurd hd' (hspared d (List.mem_append_left _ hd))
        · rcases List.mem_cons.mp hd with rfl | hd
          · exact hcan
          · exact absurd hd' (hspared d (List.mem_append_right _ hd))
      · rintro ⟨hspared, -⟩
        refine ⟨u, hrun.trans hremove, ?_, ?_⟩
        · rw [hleft, List.filter_eq_self.mpr (fun d hd => by simpa using hspared d hd)]
          exact hu
        · intro d hd hd'
          refine hlive d ?_
          have hne : d ≠ c := by
            rintro rfl
            simp [hsilent] at hd'
          simp only [List.mem_append, List.mem_cons] at hd ⊢
          tauto
    · refine iff_of_false ?_ (fun hall => hnot (hall.2 c hc hsilent))
      rintro ⟨u', hu', -⟩
      rw [hrun.trans hremove] at hu'
      cases hu'

end Walk

def firstClient : Joined := ⟨0, 0, ⟨0, 5, 1⟩⟩

def secondClient : Joined := ⟨1, 1, ⟨1, 6, 2⟩⟩

/-- Two clients after the USB interface, and nothing to send. -/
def twoClients : Server Unit where
  network := { zejfInit (Target.bare Settings.zejfMeteo) () with
    interfaces := Heap.ofList [⟨0, .usb, 0, 0, 0⟩, ⟨1, .tcp, 5, 0, 0⟩, ⟨2, .tcp, 6, 0, 0⟩] }
  clients := LinkedList.ofItems clientsMax [0, 1]
  clientObjects := Heap.ofList [firstClient.client, secondClient.client]
  nextClientUid := 2
  usbInterface1 := 0
  allInterfaces := [some 0, some 1, some 2] ++ List.replicate 29 none
  interfaceCount := 3
  nextUid := 3

lemma twoClients_inOrder :
    twoClients.InOrder [firstClient, secondClient] [0, 1, 2] [] [] 16 [] where
  holds := (LinkedList.ofItems_holds (by decide : [0, 1].length ≤ clientsMax)).1
  live c hc := by
    simp only [List.mem_cons, List.not_mem_nil, or_false] at hc
    rcases hc with rfl | rfl <;> rfl
  addrs := by decide
  interfaces c hc := by
    simp only [List.mem_cons, List.not_mem_nil, or_false] at hc
    rcases hc with rfl | rfl <;> rfl
  table := ⟨rfl, rfl, by decide⟩
  known a ha := by
    simp only [List.mem_cons, List.not_mem_nil, or_false] at ha
    rcases ha with rfl | rfl | rfl <;> rfl
  distinct := by decide
  queues := (zejfInit_queuesHold (Target.bare Settings.zejfMeteo) ()).congr rfl rfl rfl
    (fun _ _ => rfl)
  routes := (zejfInit_tableHolds (Target.bare Settings.zejfMeteo) ()).congr rfl rfl

/-- Only the first client is silent: it goes. -/
theorem twoClients_removesSilent :
    RemovesSilent (fun a => if a = 0 then 1000 else 19000) 20000 twoClients
      [firstClient, secondClient] := by
  refine (removesSilent_iff twoClients_inOrder _ _).mpr ⟨by decide, ?_⟩
  intro c hc hsilent a ha i hi huid
  exact ⟨by simp [routesSeen], by simp⟩

/-- Both are silent: the second one is removed, and the first one stays. -/
theorem twoClients_not_removed :
    twoClients.InOrder [firstClient, secondClient] [0, 1, 2] [] [] 16 [] ∧
    ¬RemovesSilent (fun _ => 1000) 20000 twoClients [firstClient, secondClient] := by
  refine ⟨twoClients_inOrder, ?_⟩
  rintro ⟨u, hrun, hu, -⟩
  have hone : (leaves ((watchdogPass (fun _ => 1000) 20000).run twoClients)).clients.itemCount =
      1 := by
    decide +kernel
  rw [hrun, leaves_ok, hu.count] at hone
  exact absurd hone (by decide)

end ZejfMeteo.Clients
