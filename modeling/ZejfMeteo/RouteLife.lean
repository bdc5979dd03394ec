import ZejfMeteo.NetworkRuns

/-!
# What keeps a route alive

An announcement of the length of a known route renews its `last_seen` even if it came over
another interface than the one that the route goes through. A route that has not been seen
for too long is removed, unless the one before it in the table is removed as well.
-/

namespace ZejfMeteo
open Runs

variable {δ : Type} (T : Target δ)

/-- An announcement of another device that has reached the routing table. -/
structure Announcement where
  deviceId : UInt16
  interface : Option ℕ
  distance : UInt8
  time : UInt32

def NetOp.announces (op : NetOp) : Option Announcement :=
  match op.handed T with
  | none => none
  | some (p, time) =>
    if p.command = rip ∧ p.fromId ≠ T.deviceId then
      some ⟨p.fromId, p.sourceInterface, p.ttl, time⟩
    else none

/-- The announcement came from the device of the entry over its interface and is as long as
the route. -/
def Announcement.confirms (m : Announcement) (e : RoutingEntry) : Bool :=
  m.deviceId == e.deviceId && m.interface == e.interface && m.distance == e.distance

/-- When the path of an entry was heard of last. -/
def lastHeard (ms : List Announcement) (e : RoutingEntry) : Option UInt32 :=
  (ms.filter (·.confirms e)).getLast?.map Announcement.time

/-- All announcements of a run. -/
def announcements (tr : List (NetOp × NetResult)) : List Announcement :=
  tr.filterMap (fun x => x.1.announces T)

/-- `last_seen` of every entry is the time of the last announcement over its own path, so
that an entry whose own path has been silent for too long is due for removal. -/
def KeptByOwnPath (tr : List (NetOp × NetResult)) (s : Globals δ) : Prop :=
  ∀ e ∈ s.routes, lastHeard (announcements T tr) e = some e.lastSeen ∧
    ∀ t now, lastHeard (announcements T tr) e = some t →
      T.routingEntryTimeout < (now - t).toNat → e.expired T now = true

/-- An announcement that is as long as the known route came over the interface of the route,
or at the time at which the route was last seen. -/
def ConfirmsOwnPath (_ : List (NetOp × NetResult)) (s : Globals δ) (op : NetOp)
    (_ : NetResult) : Prop :=
  ∀ m ∈ op.announces T, ∀ e ∈ s.routes, e.deviceId = m.deviceId → e.distance = m.distance →
    e.interface = m.interface ∨ e.lastSeen = m.time

section Updates

variable {T} {ms : List Announcement} {es : List RoutingEntry} {e : RoutingEntry}
  {m : Announcement}

lemma confirms_iff : m.confirms e = true ↔
    m.deviceId = e.deviceId ∧ m.interface = e.interface ∧ m.distance = e.distance := by
  simp [Announcement.confirms, and_assoc]

lemma lastHeard_concat (ms : List Announcement) (m : Announcement) (e : RoutingEntry) :
    lastHeard (ms ++ [m]) e = if m.confirms e then some m.time else lastHeard ms e := by
  unfold lastHeard
  rw [List.filter_append, List.filter_singleton]
  by_cases h : m.confirms e = true
  · simp [h]
  · simp [h]

lemma lastHeard_confirmed (hid : m.deviceId = e.deviceId) (hinterface : m.interface = e.interface)
    (hdistance : m.distance = e.distance) : lastHeard (ms ++ [m]) e = some m.time := by
  rw [lastHeard_concat, if_pos (confirms_iff.mpr ⟨hid, hinterface, hdistance⟩)]

/-- The time at which an entry was last seen does not matter to what confirms it. -/
lemma lastHeard_congr {f : RoutingEntry} (hid : e.deviceId = f.deviceId)
    (hinterface : e.interface = f.interface) (hdistance : e.distance = f.distance) :
    lastHeard ms e = lastHeard ms f := by
  unfold lastHeard Announcement.confirms
  rw [hid, hinterface, hdistance]

lemma lastHeard_other (h : e.deviceId ≠ m.deviceId) :
    lastHeard (ms ++ [m]) e = lastHeard ms e := by
  have hnot : ¬m.confirms e = true := by
    rw [confirms_iff]
    exact fun hc => h hc.1.symm
  rw [lastHeard_concat, if_neg hnot]

/-- The entry of the announced device is seen when its own path is heard of, unless another
path of its length is heard of at another time. -/
lemma lastHeard_heard (hid : e.deviceId = m.deviceId)
    (hlast : lastHeard ms e = some e.lastSeen) :
    lastHeard (ms ++ [m]) (e.heard m.interface m.distance m.time).2 =
        some (e.heard m.interface m.distance m.time).2.lastSeen ↔
      (e.distance = m.distance → e.interface = m.interface ∨ e.lastSeen = m.time) := by
  unfold RoutingEntry.heard
  by_cases hshort : m.distance < e.distance
  · -- The route is replaced by the announced one.
    have hne : e.distance ≠ m.distance := by
      intro he
      rw [he] at hshort
      exact absurd hshort (UInt8.lt_irrefl _)
    rw [if_pos hshort]
    refine iff_of_true ?_ (fun h => absurd h hne)
    exact lastHeard_confirmed hid.symm rfl rfl
  rw [if_neg hshort]
  by_cases hsame : e.distance = m.distance
  · rw [if_pos hsame]
    by_cases hpath : e.interface = m.interface
    · refine iff_of_true ?_ (fun _ => Or.inl hpath)
      exact lastHeard_confirmed hid.symm hpath.symm hsame.symm
    · -- Another path of the same length renews the entry but does not confirm it.
      have hnot : ¬m.confirms { e with lastSeen := m.time } = true := by
        rw [confirms_iff]
        exact fun hc => hpath hc.2.1.symm
      have hold : lastHeard ms { e with lastSeen := m.time } = lastHeard ms e :=
        lastHeard_congr rfl rfl rfl
      dsimp only
      rw [lastHeard_concat, if_neg hnot, hold, hlast, Option.some_inj]
      exact ⟨fun h _ => Or.inr h, fun h => (h hsame).resolve_left hpath⟩
  · rw [if_neg hsame]
    refine iff_of_true ?_ (fun h => absurd h hsame)
    have hnot : ¬m.confirms e = true := by
      rw [confirms_iff]
      exact fun hc => hsame hc.2.2.symm
    rw [lastHeard_concat, if_neg hnot]
    exact hlast

/-- The whole table after an announcement. -/
lemma updateRoutes_kept (hm : m.deviceId ≠ T.deviceId)
    (hdistinct : (es.map RoutingEntry.deviceId).Nodup)
    (hkept : ∀ e ∈ es, lastHeard ms e = some e.lastSeen) :
    (∀ e ∈ (updateRoutes T es m.deviceId m.interface m.distance m.time).2,
        lastHeard (ms ++ [m]) e = some e.lastSeen) ↔
      ∀ e ∈ es, e.deviceId = m.deviceId → e.distance = m.distance →
        e.interface = m.interface ∨ e.lastSeen = m.time := by
  have hother : ∀ e ∈ es, e.deviceId ≠ m.deviceId →
      lastHeard (ms ++ [m]) e = some e.lastSeen := by
    intro e he hne
    rw [lastHeard_other hne]
    exact hkept e he
  have hunknown : m.deviceId ∉ es.map RoutingEntry.deviceId → ∀ e ∈ es, e.deviceId ≠ m.deviceId := by
    rintro hnot e he hid
    exact hnot (hid ▸ List.mem_map_of_mem he)
  rcases updateRoutes_cases (T := T) es m.deviceId m.interface m.distance m.time with
    ⟨heq, hwhy⟩ | ⟨heq, -, -, hnot⟩ | ⟨pre, f, post, rfl, hid, -, -, heq⟩
  · have hnot := hunknown (hwhy.resolve_left hm).2
    rw [heq]
    exact iff_of_true (fun e he => hother e he (hnot e he)) (fun e he h => absurd h (hnot e he))
  · have hnot := hunknown hnot
    rw [heq]
    refine iff_of_true ?_ (fun e he h => absurd h (hnot e he))
    intro e he
    rcases List.mem_append.mp he with hold | hnew
    · exact hother e hold (hnot e hold)
    · rw [List.mem_singleton.mp hnew]
      exact lastHeard_confirmed rfl rfl rfl
  · -- Only the entry of the announced device changes.
    have hrest : ∀ e ∈ pre ++ post, e.deviceId ≠ m.deviceId := by
      intro e he hsame
      rw [List.map_append, List.map_cons, List.nodup_middle] at hdistinct
      apply (List.nodup_cons.mp hdistinct).1
      rw [hid, ← hsame, ← List.map_append]
      exact List.mem_map_of_mem he
    have hf := lastHeard_heard hid (hkept f (by simp))
    rw [heq]
    constructor
    · intro hall e he hdev
      have hef : e = f := by
        by_contra hne
        refine hrest e ?_ hdev
        simp only [List.mem_append, List.mem_cons] at he ⊢
        tauto
      rw [hef]
      exact hf.mp (hall _ (by simp))
    · intro hall e he
      simp only [List.mem_append, List.mem_cons] at he
      rcases he with hpre | rfl | hpost
      · exact hother e (by simp [hpre]) (hrest e (by simp [hpre]))
      · exact hf.mpr (hall f (by simp) hid)
      · exact hother e (by simp [hpost]) (hrest e (by simp [hpost]))

lemma updateRoutes_nodup (h : (es.map RoutingEntry.deviceId).Nodup) (deviceId : UInt16)
    (interface : Option ℕ) (distance : UInt8) (time : UInt32) :
    ((updateRoutes T es deviceId interface distance time).2.map RoutingEntry.deviceId).Nodup := by
  rcases updateRoutes_cases (T := T) es deviceId interface distance time with
    ⟨heq, -⟩ | ⟨heq, -, -, hnot⟩ | ⟨pre, f, post, rfl, -, -, -, heq⟩
  · rw [heq]
    exact h
  · rw [heq, List.map_append]
    exact (List.nodup_append_comm.mp (List.nodup_cons.mpr ⟨hnot, h⟩))
  · rw [heq]
    simp only [List.map_append, List.map_cons, RoutingEntry.heard_deviceId] at h ⊢
    exact h

end Updates

section Runs

variable {T} {s t u : Globals δ} {tr : List (NetOp × NetResult)} {op : NetOp} {r : NetResult}

lemma keptByOwnPath_iff : KeptByOwnPath T tr s ↔
    ∀ e ∈ s.routes, lastHeard (announcements T tr) e = some e.lastSeen := by
  constructor
  · intro h e he
    exact (h e he).1
  · intro h e he
    refine ⟨h e he, ?_⟩
    intro t now ht hsilent
    obtain rfl := Option.some.inj ((h e he).symm.trans ht)
    exact decide_eq_true hsilent

lemma announcements_concat (tr : List (NetOp × NetResult)) (op : NetOp) (r : NetResult) :
    announcements T (tr ++ [(op, r)]) = announcements T tr ++ (op.announces T).toList := by
  unfold announcements
  rw [List.filterMap_append]
  cases h : op.announces T <;> simp [h]

/-- What an operation does to the table: it takes an announcement, or it at most removes
entries. -/
lemma NetStep.routes_cases (h : NetStep T t op r u) :
    (∃ m, op.announces T = some m ∧
      u.routes = (updateRoutes T t.routes m.deviceId m.interface m.distance m.time).2) ∨
    op.announces T = none ∧ u.routes.Sublist t.routes := by
  cases h with
  | refused msg interface time hop hnone htx hrx hroutes hnext =>
    refine Or.inr ⟨?_, hroutes ▸ List.Sublist.refl _⟩
    unfold NetOp.announces
    rw [hnone]
  | @handled _ p time rv _ fate hop hfate htx hrx hroutes hnext =>
    by_cases hrip : p.command = rip ∧ p.fromId ≠ T.deviceId
    · have hfate' : fate = .rip := by
        rw [← hfate]
        unfold Packet.fate
        rw [if_neg (by tauto), if_neg (by tauto), if_neg (by rw [hrip.1]; decide), if_pos hrip.1]
      refine Or.inl ⟨⟨p.fromId, p.sourceInterface, p.ttl, time⟩, ?_, ?_⟩
      · unfold NetOp.announces
        rw [hop]
        exact if_pos hrip
      · rw [hroutes, hfate']
        rfl
    · refine Or.inr ⟨?_, ?_⟩
      · unfold NetOp.announces
        rw [hop]
        exact if_neg hrip
      · -- An announcement of the device itself leaves the table alone.
        have hsame : routesAfter T t.routes p time fate = t.routes := by
          by_cases hfate' : fate = .rip
          · have hself : p.command = rip := by
              rw [hfate'] at hfate
              unfold Packet.fate at hfate
              by_contra hcommand
              split_ifs at hfate
            rw [hfate']
            unfold routesAfter updateRoutes
            rw [if_pos (by tauto)]
          · cases fate <;> first | rfl | exact absurd rfl hfate'
        rw [hroutes, hsame]
  | idle htx => exact Or.inr ⟨rfl, List.Sublist.refl _⟩
  | transmitted time xs q ys n htx hcursor hout hrx hroutes hcreated =>
    exact Or.inr ⟨rfl, hroutes ▸ List.Sublist.refl _⟩
  | checked htx hrx hroutes hnext =>
    refine Or.inr ⟨rfl, ?_⟩
    rw [hroutes]
    exact routesLeft_sublist _ _

lemma announces_deviceId {m : Announcement} (h : op.announces T = some m) :
    m.deviceId ≠ T.deviceId := by
  unfold NetOp.announces at h
  split at h
  · cases h
  · split at h
    · rename_i hrip
      rw [← Option.some.inj h]
      exact hrip.2
    · cases h

lemma NetStep.routes_nodup (h : NetStep T t op r u)
    (ht : (t.routes.map RoutingEntry.deviceId).Nodup) :
    (u.routes.map RoutingEntry.deviceId).Nodup := by
  rcases h.routes_cases with ⟨m, -, hroutes⟩ | ⟨-, hsub⟩
  · rw [hroutes]
    exact updateRoutes_nodup ht _ _ _ _
  · exact ht.sublist (hsub.map _)

lemma NetStep.keptByOwnPath (h : NetStep T t op r u)
    (ht : (t.routes.map RoutingEntry.deviceId).Nodup) (hkept : KeptByOwnPath T tr t) :
    KeptByOwnPath T (tr ++ [(op, r)]) u ↔ ConfirmsOwnPath T tr t op r := by
  rw [keptByOwnPath_iff] at hkept ⊢
  rw [announcements_concat]
  unfold ConfirmsOwnPath
  rcases h.routes_cases with ⟨m, hm, hroutes⟩ | ⟨hnone, hsub⟩
  · rw [hroutes, hm, Option.toList_some, updateRoutes_kept (announces_deviceId hm) ht hkept]
    simp
  · rw [hnone, Option.toList_none, List.append_nil]
    refine iff_of_true ?_ (by simp)
    intro e he
    exact hkept e (hsub.subset he)

/-- **A route is kept alive only by its own path** exactly as long as no other path of the
same length is heard of. -/
theorem keptByOwnPath_iff_confirmsOwnPath (hT : T.Steady) (hs : s.InOrder T)
    (hempty : s.routes = []) (htrace : Trace (NetOp.run T) s tr t)
    (hallowed : ∀ x ∈ tr, x.1.Allowed T s) :
    Always (NetOp.run T) s (KeptByOwnPath T) tr ↔
      Throughout (NetOp.run T) s (ConfirmsOwnPath T) tr := by
  refine Always.iff_throughout (J := fun _ t => s.Running T t ∧
    (t.routes.map RoutingEntry.deviceId).Nodup) htrace hallowed
    ⟨Globals.Running.start hs, ?_⟩ ?_ ?_
  · rw [hempty]
    exact List.nodup_nil
  · rw [keptByOwnPath_iff, hempty]
    intro e he
    cases he
  · intro tr t op r u hop ht hrun
    obtain ⟨hstep, -, hu⟩ := ht.1.step hT hop hrun
    exact ⟨⟨hu, hstep.routes_nodup ht.2⟩, hstep.keptByOwnPath ht.2⟩

end Runs

/-- `{5;0;1;0;0;0;0;}`, the announcement of device 5 as it sends it itself. -/
def announcementLine : List UInt8 :=
  [0x7B, 0x35, 0x3B, 0x30, 0x3B, 0x31, 0x3B, 0x30, 0x3B, 0x30, 0x3B, 0x30, 0x3B, 0x30, 0x3B, 0x7D]

def secondInterface : Interface := ⟨1, .tcp, 6, 0, 0⟩

def bareServer : Target Unit := Target.bare Settings.zejfMeteo

lemma bareServer_steady : bareServer.Steady := ⟨by decide, fun _ _ _ _ => rfl⟩

/-- A server with two links to device 5. -/
def twoLinks : Globals Unit :=
  { zejfInit bareServer () with interfaces := Heap.ofList [firstInterface, secondInterface] }

lemma twoLinks_inOrder : twoLinks.InOrder bareServer :=
  zejfInit_inOrder bareServer () _ (fun a ha => by cases ha)

/-- The announcement comes in over one of the links. -/
def heardOver (interface : ℕ) (time : UInt32) : NetOp := .accept announcementLine interface time

def heardTwice : List (NetOp × NetResult) :=
  [(heardOver 0 0, .returned .ok), (heardOver 1 1, .returned .ok)]

def afterOne : Globals Unit := leaves (((heardOver 0 0).run bareServer).run twoLinks)

def afterTwo : Globals Unit := leaves (((heardOver 1 1).run bareServer).run afterOne)

lemma heardOnce_trace : Trace (NetOp.run bareServer) twoLinks [(heardOver 0 0, .returned .ok)]
    afterOne := by
  have hrun : ((heardOver 0 0).run bareServer).run twoLinks = .ok (.returned .ok) afterOne := rfl
  exact Trace.nil.snoc hrun

lemma heardTwice_trace : Trace (NetOp.run bareServer) twoLinks heardTwice afterTwo := by
  have hrun : ((heardOver 1 1).run bareServer).run afterOne = .ok (.returned .ok) afterTwo := rfl
  exact heardOnce_trace.snoc hrun

lemma heardTwice_allowed : ∀ x ∈ heardTwice, x.1.Allowed bareServer twoLinks := by
  intro x hx
  simp only [heardTwice, List.mem_cons, List.not_mem_nil, or_false] at hx
  rcases hx with rfl | rfl <;> rfl

/-- The route goes over the first link and was seen when the second one was heard of. -/
theorem heardTwice_not_keptByOwnPath :
    Trace (NetOp.run bareServer) twoLinks heardTwice afterTwo ∧
      (∀ x ∈ heardTwice, x.1.Allowed bareServer twoLinks) ∧
      ¬Always (NetOp.run bareServer) twoLinks (KeptByOwnPath bareServer) heardTwice := by
  refine ⟨heardTwice_trace, heardTwice_allowed, ?_⟩
  intro hall
  have hkept := hall heardTwice [] afterTwo rfl heardTwice_trace
  have hroutes : afterTwo.routes = [newRoute 5 (some 0) 1 1] := rfl
  have hlast := (hkept (newRoute 5 (some 0) 1 1) (by rw [hroutes]; simp)).1
  exact absurd hlast (by decide)

/-- An announcement of a device after some hops, both written as one digit. -/
def heardFrom (deviceId hops : UInt8) (interface : ℕ) (time : UInt32) : NetOp :=
  .accept ((announcementLine.set 1 (0x30 + deviceId)).set 7 (0x30 + hops)) interface time

/-- Device 5 is first heard of over the longer way, and then over both; device 6 over one. -/
def crossingWays : List NetOp :=
  [heardFrom 5 2 1 0, heardFrom 5 0 0 10, heardFrom 5 2 1 20, heardFrom 6 1 1 30,
    heardFrom 5 0 0 40, .check 50]

/-- An announcement at the distance of an entry comes over the interface of the entry. -/
def comesOverOwn (s : Globals Unit) (op : NetOp) : Bool :=
  (op.announces bareServer).all fun m =>
    s.routes.all fun e => !(e.deviceId == m.deviceId && e.distance == m.distance) ||
      e.interface == m.interface || e.lastSeen == m.time

theorem crossingWays_keptByOwnPath :
    Always (NetOp.run bareServer) twoLinks (KeptByOwnPath bareServer)
      (replay (NetOp.run bareServer) crossingWays twoLinks) := by
  refine (keptByOwnPath_iff_confirmsOwnPath bareServer_steady twoLinks_inOrder rfl
    (.of_replay (by decide +kernel)) ?_).mpr ?_
  · intro x hx
    have hop := Trace.mem_of_replay hx
    simp only [crossingWays, List.mem_cons, List.not_mem_nil, or_false] at hop
    rcases hop with h | h | h | h | h | h <;> rw [h] <;> first | rfl | trivial
  · refine (Throughout.of_meetsAll (p := comesOverOwn) (by decide +kernel)).imp ?_
    intro _ t op _ hmet m hm e he hid hdistance
    rw [comesOverOwn, Option.mem_def.mp hm, Option.all_some, List.all_eq_true] at hmet
    simpa [hid, hdistance] using hmet e he

/-- A route with the true time, in milliseconds, at which it was last seen. Its entry has the
counter of that time, which may have wrapped since. -/
structure Sighting where
  entry : RoutingEntry
  seen : ℕ
  lastSeen_eq : entry.lastSeen = UInt32.ofNat seen

def Sighting.age (g : Sighting) (now : ℕ) : ℕ := now - g.seen

/-- The sighting lies in the past, and less than one round of the counter ago. -/
structure Sighting.Recent (g : Sighting) (now : ℕ) : Prop where
  seen_le : g.seen ≤ now
  age_lt : g.age now < 2 ^ 32

/-- The check leaves exactly the routes that are not too old, in order, and frees the slots
behind them. -/
def TimesOutExactly (s : Globals δ) (gs : List Sighting) (now : ℕ) : Prop :=
  ∃ s', (routingTableCheck T (UInt32.ofNat now)).run s = .ok () s' ∧
    s'.TableHolds T.routingTableSize
      ((gs.filter (fun g => g.age now ≤ T.routingEntryTimeout)).map Sighting.entry)

section Timeout

variable {T} {s : Globals δ} {gs : List Sighting} {g : Sighting} {now : ℕ}

/-- The difference of the counters is the true age. -/
lemma Sighting.Recent.counted (h : g.Recent now) :
    (UInt32.ofNat now - g.entry.lastSeen).toNat = g.age now := by
  have hle := h.seen_le
  have hlt := h.age_lt
  have hnow := Nat.div_add_mod now (2 ^ 32)
  have hseen := Nat.div_add_mod g.seen (2 ^ 32)
  unfold Sighting.age at hlt ⊢
  rw [g.lastSeen_eq, UInt32.toNat_sub, UInt32.toNat_ofNat', UInt32.toNat_ofNat']
  omega

lemma Sighting.Recent.expired_eq (h : g.Recent now) :
    g.entry.expired T (UInt32.ofNat now) = decide (T.routingEntryTimeout < g.age now) := by
  unfold RoutingEntry.expired
  rw [h.counted]

/-- The routes that the code takes for expired are those that are too old. -/
lemma filter_expired (h : ∀ g ∈ gs, g.Recent now) :
    (gs.map Sighting.entry).filter (fun e => !e.expired T (UInt32.ofNat now)) =
      (gs.filter (fun g => g.age now ≤ T.routingEntryTimeout)).map Sighting.entry := by
  rw [List.filter_map]
  refine congrArg _ (List.filter_congr ?_)
  intro g hg
  simp only [Function.comp_apply, (h g hg).expired_eq, ← decide_not, Nat.not_lt]

lemma isChain_expired (h : ∀ g ∈ gs, g.Recent now) :
    (gs.map Sighting.entry).IsChain (fun e f => ¬(e.expired T (UInt32.ofNat now) = true ∧
        f.expired T (UInt32.ofNat now) = true)) ↔
      gs.IsChain (fun g g' => ¬(T.routingEntryTimeout < g.age now ∧
        T.routingEntryTimeout < g'.age now)) := by
  rw [List.isChain_map]
  apply List.IsChain.iff_of_mem_imp
  intro g g' hg hg'
  rw [(h g hg).expired_eq, (h g' hg').expired_eq, decide_eq_true_eq, decide_eq_true_eq]

end Timeout

/-- The check removes exactly the routes that are too old unless two of them are neighbours in
the table. -/
theorem timesOutExactly_iff {s : Globals δ} {gs : List Sighting} {now : ℕ}
    (htable : s.TableHolds T.routingTableSize (gs.map Sighting.entry))
    (hrecent : ∀ g ∈ gs, g.Recent now) :
    TimesOutExactly T s gs now ↔ gs.IsChain (fun g g' =>
      ¬(T.routingEntryTimeout < g.age now ∧ T.routingEntryTimeout < g'.age now)) := by
  obtain ⟨table, top, hrun, hleft⟩ :=
    routingTableCheck_run (T := T) htable (UInt32.ofNat now)
  rw [← isChain_expired hrecent, ← routesLeft_eq_filter_iff, filter_expired hrecent]
  constructor
  · rintro ⟨s', hrun', hexact⟩
    obtain rfl := (EStateM.Result.ok.inj (hrun.symm.trans hrun')).2
    exact hleft.routes.symm.trans hexact.routes
  · intro heq
    rw [heq] at hleft
    exact ⟨_, hrun, hleft⟩

/-- A route to device `id` that was last seen 100 seconds before the counter wrapped. -/
def oldSighting (id : UInt16) : Sighting where
  entry := newRoute id (some 0) 0 (UInt32.ofNat (2 ^ 32 - 100000))
  seen := 2 ^ 32 - 100000
  lastSeen_eq := rfl

/-- A route that was last seen after that. -/
def newSighting (id : UInt16) : Sighting where
  entry := newRoute id (some 0) 0 (UInt32.ofNat (2 ^ 32 + 100000))
  seen := 2 ^ 32 + 100000
  lastSeen_eq := rfl

/-- A server that has seen these routes. -/
def hasSeen (gs : List Sighting) : Globals Unit :=
  { zejfInit bareServer () with
    routingTable := gs.map (fun g => some g.entry) ++
      List.replicate (bareServer.routingTableSize - gs.length) none
    routingTableTop := gs.length }

lemma hasSeen_holds {gs : List Sighting} (h : gs.length ≤ bareServer.routingTableSize) :
    (hasSeen gs).TableHolds bareServer.routingTableSize (gs.map Sighting.entry) := by
  refine ⟨?_, (List.length_map _).symm, by rwa [List.length_map]⟩
  rw [List.map_map, List.length_map]
  rfl

theorem oldAndNew_timesOutExactly : TimesOutExactly bareServer
    (hasSeen [oldSighting 5, newSighting 6, oldSighting 7]) [oldSighting 5, newSighting 6,
      oldSighting 7] (2 ^ 32 + 150000) := by
  have hrecent : ∀ g ∈ [oldSighting 5, newSighting 6, oldSighting 7],
      g.Recent (2 ^ 32 + 150000) := by
    intro g hg
    simp only [List.mem_cons, List.not_mem_nil, or_false] at hg
    rcases hg with rfl | rfl | rfl <;> exact ⟨by decide, by decide⟩
  exact (timesOutExactly_iff bareServer (hasSeen_holds (by decide)) hrecent).mpr (by decide)

/-- Of two neighbours that are too old the second one stays. -/
theorem twoOld_not_timesOutExactly : ¬∀ gs now,
    (hasSeen gs).TableHolds bareServer.routingTableSize (gs.map Sighting.entry) →
      (∀ g ∈ gs, g.Recent now) → TimesOutExactly bareServer (hasSeen gs) gs now := by
  intro h
  have hholds : (hasSeen [oldSighting 5, oldSighting 6]).TableHolds bareServer.routingTableSize
      ([oldSighting 5, oldSighting 6].map Sighting.entry) := hasSeen_holds (by decide)
  obtain ⟨s', hrun, hexact⟩ := h [oldSighting 5, oldSighting 6] (2 ^ 32) hholds (by
    intro g hg
    simp only [List.mem_cons, List.not_mem_nil, or_false] at hg
    rcases hg with rfl | rfl <;> exact ⟨by decide, by decide⟩)
  obtain ⟨table, top, hrun', hleft⟩ :=
    routingTableCheck_run (T := bareServer) hholds (UInt32.ofNat (2 ^ 32))
  obtain rfl := (EStateM.Result.ok.inj (hrun.symm.trans hrun')).2
  exact absurd (hleft.routes.symm.trans hexact.routes) (by decide)

end ZejfMeteo
