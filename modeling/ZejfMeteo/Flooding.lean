import ZejfMeteo.NetworkRuns
import ZejfMeteo.Lib.Flood

/-!
# Announcements in a network

Nodes whose interfaces are linked in pairs. Every node runs the code; the links keep what is
sent until it is delivered, in any order. The network floods notes as `Lib/Flood` has it, and
so the tables of the nodes end up with the shortest ways.
-/

namespace ZejfMeteo
open Runs Format

/-! ### Announcements -/

/-- An announcement as it is passed on. -/
def ripPacket (fromId : UInt16) (ttl : UInt8) : Packet :=
  { packetCreate with command := rip, fromId, ttl, flags := 1 }

def ripLine (fromId : UInt16) (hops : ℕ) : List UInt8 :=
  packetText (ripPacket fromId (UInt8.ofNat hops))

/-- A received announcement that has come some hops. -/
structure Packet.Announces (p : Packet) (fromId : UInt16) (hops interface : ℕ) : Prop where
  source : p.sourceInterface = some interface
  sender : p.fromId = fromId
  receiver : p.toId = 0
  command : p.command = rip
  ttl : p.ttl = UInt8.ofNat hops
  flags : p.flags = 1
  text : p.text = []

/-- Distance and interface of the route to a device. -/
def routeTo (es : List RoutingEntry) (deviceId : UInt16) : Option (ℕ × ℕ) := do
  let entry ← es.find? (fun e => e.deviceId == deviceId)
  let interface ← entry.interface
  return (entry.distance.toNat, interface)

section Lines

variable {δ : Type} {T : Target δ} {id : UInt16} {k a : ℕ} {p : Packet}

lemma length_ripLine (T : Target δ) (id : UInt16) (k : ℕ) :
    (ripLine id k).length ≤ T.packetMaxLength - 1 := by
  have hmax := T.packetMaxLength_ge
  have hlen := length_packetText_le (ripPacket id (UInt8.ofNat k))
  have htext : (ripPacket id (UInt8.ofNat k)).text = [] := rfl
  rw [htext, List.length_nil] at hlen
  unfold ripLine
  omega

lemma packetText_announcement (T : Target δ) : packetText (announcement T) = ripLine T.deviceId 0 :=
  packetText_congr rfl rfl rfl rfl rfl rfl

lemma Packet.Announces.packetText (h : p.Announces id k a) : packetText p = ripLine id k :=
  packetText_congr h.sender h.receiver h.command h.ttl h.flags h.text

/-- An announcement is accepted until it has come too far. -/
lemma acceptedPacket_ripLine (id : UInt16) (hk : k < 255) (a : ℕ) :
    (acceptedPacket T (ripLine id k) a = none ∧ T.packetMaxTtl ≤ k + 1) ∨
    ∃ p, acceptedPacket T (ripLine id k) a = some p ∧ p.Announces id (k + 1) a ∧
      k + 1 < T.packetMaxTtl := by
  obtain ⟨q, hread, hcontent⟩ := packetFromString_packetText (ripPacket id (UInt8.ofNat k))
    (fun c hc => by cases hc) (Nat.two_pow_pos 16) packetCreate
  have httl : q.ttl + 1 = UInt8.ofNat (k + 1) := by
    rw [hcontent.ttl, UInt8.ofNat_add]
    rfl
  have hhops : (q.ttl + 1).toNat = k + 1 := by
    rw [httl, UInt8.toNat_ofNat', Nat.mod_eq_of_lt (by omega)]
  unfold acceptedPacket ripLine
  rw [hread]
  dsimp only
  by_cases hfar : T.packetMaxTtl ≤ (q.ttl + 1).toNat
  · rw [if_pos hfar]
    exact Or.inl ⟨rfl, hhops ▸ hfar⟩
  · rw [if_neg hfar]
    refine Or.inr ⟨_, rfl, ⟨rfl, hcontent.fromId, hcontent.toId, hcontent.command, httl,
      hcontent.flags, ?_⟩, by omega⟩
    unfold Packet.text
    rw [hcontent.message]
    rfl

end Lines

section Routes

variable {δ : Type} {T : Target δ} {es : List RoutingEntry} {id other : UInt16} {k a : ℕ}
  {time : UInt32}

lemma routeTo_append (es fs : List RoutingEntry) (id : UInt16) :
    routeTo (es ++ fs) id = if id ∈ es.map RoutingEntry.deviceId then routeTo es id
      else routeTo fs id := by
  unfold routeTo
  rw [List.find?_append]
  by_cases hid : id ∈ es.map RoutingEntry.deviceId
  · rw [if_pos hid]
    obtain ⟨e, he, hide⟩ := List.mem_map.mp hid
    have hsome : (es.find? (fun e => e.deviceId == id)).isSome := by
      rw [List.find?_isSome]
      exact ⟨e, he, by simpa using hide⟩
    obtain ⟨f, hf⟩ := Option.isSome_iff_exists.mp hsome
    rw [hf]
    rfl
  · rw [if_neg hid]
    have hnone : es.find? (fun e => e.deviceId == id) = none := by
      rw [List.find?_eq_none]
      intro e he hide
      exact hid (List.mem_map.mpr ⟨e, he, by simpa using hide⟩)
    rw [hnone]
    rfl

lemma routeTo_cons (e : RoutingEntry) (es : List RoutingEntry) (id : UInt16) :
    routeTo (e :: es) id = if e.deviceId = id then e.interface.map (fun a => (e.distance.toNat, a))
      else routeTo es id := by
  unfold routeTo
  by_cases hid : e.deviceId = id
  · rw [if_pos hid, List.find?_cons_of_pos (by simpa using hid)]
    cases h : e.interface with
    | none => simp [h]
    | some a => simp [h]
  · rw [if_neg hid, List.find?_cons_of_neg (by simpa using hid)]

lemma routeTo_none (h : id ∉ es.map RoutingEntry.deviceId) : routeTo es id = none := by
  have hsplit := routeTo_append es [] id
  rw [if_neg h, List.append_nil] at hsplit
  exact hsplit

lemma routeTo_eq_some (hdistinct : (es.map RoutingEntry.deviceId).Nodup) :
    routeTo es id = some (k, a) ↔ ∃ e ∈ es, e.deviceId = id ∧ e.distance.toNat = k ∧
      e.interface = some a := by
  have hentry : routeTo es id = some (k, a) ↔ ∃ e, es.find? (fun e => e.deviceId == id) = some e ∧
      e.distance.toNat = k ∧ e.interface = some a := by
    simp [routeTo, Option.bind_eq_some_iff, and_comm, and_left_comm]
  rw [hentry]
  constructor
  · rintro ⟨e, hfind, hk, ha⟩
    exact ⟨e, List.mem_of_find?_eq_some hfind, by simpa using List.find?_some hfind, hk, ha⟩
  · rintro ⟨e, he, hid, hk, ha⟩
    have hsome : (es.find? (fun e => e.deviceId == id)).isSome := by
      rw [List.find?_isSome]
      exact ⟨e, he, by simpa using hid⟩
    obtain ⟨f, hfind⟩ := Option.isSome_iff_exists.mp hsome
    have hf : f.deviceId = id := by simpa using List.find?_some hfind
    obtain rfl := List.inj_on_of_nodup_map hdistinct he (List.mem_of_find?_eq_some hfind)
      (hid.trans hf.symm)
    exact ⟨e, hfind, hk, ha⟩

/-- The route of an entry after an announcement is what is heard of it. -/
lemma RoutingEntry.heard_route {e : RoutingEntry} (he : e.interface.isSome) (distance : UInt8)
    (a : ℕ) (time : UInt32) :
    (e.heard (some a) distance time).2.interface.map
        (fun b => ((e.heard (some a) distance time).2.distance.toNat, b)) =
      Flood.heard (e.interface.map (fun b => (e.distance.toNat, b))) distance.toNat a ∧
    ((e.heard (some a) distance time).1 = .ok ↔
      ∀ x ∈ e.interface.map (fun b => (e.distance.toNat, b)), distance.toNat ≤ x.1) := by
  obtain ⟨b, hb⟩ := Option.isSome_iff_exists.mp he
  unfold RoutingEntry.heard Flood.heard
  rw [hb]
  by_cases hshort : distance < e.distance
  · have hlt : distance.toNat < e.distance.toNat := UInt8.lt_iff_toNat_lt.mp hshort
    simp [hshort, hlt, hlt.le]
  · have hlt : ¬distance.toNat < e.distance.toNat := fun h => hshort (UInt8.lt_iff_toNat_lt.mpr h)
    by_cases hsame : e.distance = distance
    · simp [hsame]
    · have hne : e.distance.toNat ≠ distance.toNat := fun h => hsame (UInt8.toNat_inj.mp h)
      have hle : ¬distance.toNat ≤ e.distance.toNat := by omega
      simp [hshort, hsame, hlt, hb, hle]

/-- What an announcement makes of the routes of a table with room for it. -/
lemma routeTo_updateRoutes (hself : id ≠ T.deviceId) (hes : ∀ e ∈ es, e.interface.isSome)
    (hroom : id ∉ es.map RoutingEntry.deviceId → es.length < T.routingTableSize)
    (distance : UInt8) (a : ℕ) (time : UInt32) :
    (∀ other, routeTo (updateRoutes T es id (some a) distance time).2 other =
      if other = id then Flood.heard (routeTo es id) distance.toNat a else routeTo es other) ∧
    ((updateRoutes T es id (some a) distance time).1 = .ok ↔
      ∀ x ∈ routeTo es id, distance.toNat ≤ x.1) := by
  rcases updateRoutes_cases (T := T) es id (some a) distance time with
    ⟨-, hown | ⟨hfull, hnew⟩⟩ | ⟨heq, -, -, hnew⟩ | ⟨pre, e, post, rfl, rfl, -, hpre, heq⟩
  · exact absurd hown hself
  · exact absurd (hroom hnew) (by omega)
  · rw [heq, routeTo_none hnew]
    refine ⟨?_, by simp⟩
    intro other
    have hid : (newRoute id (some a) distance time).deviceId = id := rfl
    rw [routeTo_append, routeTo_cons, hid]
    by_cases hother : other = id
    · rw [hother, if_neg hnew, if_pos rfl, if_pos rfl]
      rfl
    · rw [if_neg hother, if_neg (Ne.symm hother)]
      by_cases hold : other ∈ es.map RoutingEntry.deviceId
      · rw [if_pos hold]
      · rw [if_neg hold, routeTo_none hold]
        rfl
  · obtain ⟨hroute, hok⟩ := RoutingEntry.heard_route (hes e (by simp)) distance a time
    have hold : routeTo (pre ++ e :: post) e.deviceId =
        e.interface.map (fun b => (e.distance.toNat, b)) := by
      rw [routeTo_append, if_neg hpre, routeTo_cons, if_pos rfl]
    rw [heq, hold]
    refine ⟨?_, hok⟩
    intro other
    rw [routeTo_append, routeTo_append, routeTo_cons, routeTo_cons, RoutingEntry.heard_deviceId]
    by_cases hother : other = e.deviceId
    · rw [if_pos hother, hother, if_neg hpre, if_pos rfl, hroute]
    · rw [if_neg hother, if_neg (Ne.symm hother), if_neg (Ne.symm hother)]

end Routes

section Accepting

variable {δ : Type} {T : Target δ} {s : Globals δ} {es : List RoutingEntry} {id : UInt16}
  {k a : ℕ} {p : Packet} {packet : ℕ}

/-- Other announcements than the device's own get to the table, and it takes no notice of its
own. -/
lemma networkSendPacket_announces (ht : s.TableHolds T.routingTableSize es)
    (hlinks : ∀ b ∈ T.getAllInterfaces s.platform, (s.interfaces.cells b).isSome)
    (hp : s.packets.cells packet = some p) (h : p.Announces id k a) {i : Interface}
    (hlive : s.interfaces.cells a = some i) (time : UInt32) :
    ∃ rv ps table top is, (networkSendPacket T packet time).run s = .ok rv { s with
        packets := ps
        routingTable := table
        routingTableTop := top
        interfaces := is
        platform := if (updateRoutes T es id (some a) (UInt8.ofNat k) time).1 = .ok then
          floodLinks T is (some i.uid) (ripLine id k) time (T.getAllInterfaces s.platform)
            s.platform
          else s.platform } ∧
      (∀ t : Globals δ, t.routingTable = table → t.routingTableTop = top →
        t.TableHolds T.routingTableSize
          (updateRoutes T es id (some a) (UInt8.ofNat k) time).2) ∧
      ∀ b, (is.cells b).map Interface.uid = (s.interfaces.cells b).map Interface.uid := by
  have hline : (packetText p).take (T.packetMaxLength - 1) = ripLine id k := by
    rw [h.packetText]
    exact List.take_of_length_le (length_ripLine T id k)
  have hplatform : updateRoutes T es p.fromId p.sourceInterface p.ttl time =
      updateRoutes T es id (some a) (UInt8.ofNat k) time := by
    rw [h.sender, h.source, h.ttl]
  have hat : (s.interfaceAt p.sourceInterface).map Interface.uid = some i.uid := by
    rw [h.source, show s.interfaceAt (some a) = s.interfaces.cells a from rfl, hlive]
    rfl
  have hdestroy := packetDestroy_run (s := s) (a := packet) (by rw [hp]; rfl)
  -- The table takes no notice of the device's own announcements.
  have hown : p.fromId = T.deviceId →
      updateRoutes T es id (some a) (UInt8.ofNat k) time = (.generic, es) := by
    intro hfrom
    unfold updateRoutes
    rw [← h.sender, if_pos hfrom]
  have hdropped : ∀ rv, p.fromId = T.deviceId → (do
        packetDestroy packet
        return rv : Run (Globals δ) ZejfErr).run s = .ok rv { s with
          packets := s.packets.erase packet
          platform := if (updateRoutes T es id (some a) (UInt8.ofNat k) time).1 = .ok then
            floodLinks T s.interfaces (some i.uid) (ripLine id k) time
              (T.getAllInterfaces s.platform) s.platform
            else s.platform } := by
    intro rv hfrom
    rw [run_bind_ok hdestroy, hown hfrom]
    rfl
  have hkept : p.fromId = T.deviceId → ∀ t : Globals δ, t.routingTable = s.routingTable →
      t.routingTableTop = s.routingTableTop → t.TableHolds T.routingTableSize
        (updateRoutes T es id (some a) (UInt8.ofNat k) time).2 := by
    intro hfrom t htable htop
    rw [hown hfrom]
    exact ⟨htable.trans ht.slots, htop.trans ht.top, ht.bounded⟩
  rw [networkSendPacket, run_bind_ok (readPacket_run hp)]
  by_cases hitself : p.fromId = T.deviceId ∧ p.toId = T.deviceId
  · rw [if_pos hitself]
    exact ⟨_, _, _, _, _, hdropped .itself hitself.1, hkept hitself.1, fun _ => rfl⟩
  rw [if_neg hitself]
  dsimp only
  have hsend : s.Sendable T p := by
    refine ⟨?_, fun _ => by rw [h.source]; rfl, fun _ _ => by rw [h.source]; rfl⟩
    intro b hb
    obtain rfl := Option.some.inj (h.source.symm.trans hb)
    rw [hlive]
    rfl
  obtain ⟨rv, ps, table, top, is, hrun, htable, huid, -, hps⟩ := processRipPacket_run ht hlinks hp
    hsend h.command time
  rw [hline, hplatform, hat] at hrun
  rw [hplatform] at htable
  have hflags : ∀ x : Prop, (x ∧ p.flags ≠ 0) ↔ x := by
    intro x
    rw [h.flags]
    exact and_iff_left (by decide)
  simp only [hflags] at hrun
  have hrest : (do
        let rv ← processRipPacket T packet time
        packetDestroy packet
        return rv : Run (Globals δ) ZejfErr).run s = .ok rv { s with
        packets := ps.erase packet
        routingTable := table
        routingTableTop := top
        interfaces := is
        platform := if (updateRoutes T es id (some a) (UInt8.ofNat k) time).1 = .ok then
          floodLinks T is (some i.uid) (ripLine id k) time (T.getAllInterfaces s.platform)
            s.platform
          else s.platform } := by
    have hfree := packetDestroy_run (a := packet) (s := { s with
      packets := ps
      routingTable := table
      routingTableTop := top
      interfaces := is
      platform := if (updateRoutes T es id (some a) (UInt8.ofNat k) time).1 = .ok then
        floodLinks T is (some i.uid) (ripLine id k) time (T.getAllInterfaces s.platform)
          s.platform
        else s.platform }) ((hps packet).1.trans (by rw [hp]; rfl))
    rw [run_bind_ok hrun, run_bind_ok hfree]
    rfl
  have hnotid : p.command ≠ idRequest := by
    rw [h.command]
    decide
  by_cases hroute : p.fromId = T.deviceId ∧ p.toId ≠ broadcast
  · rw [if_pos hroute, run_bind_ok (routingEntryFind_run ht p.toId)]
    by_cases hnone : es.findIdx? (fun e => e.deviceId == p.toId) = none
    · rw [if_pos hnone]
      exact ⟨_, _, _, _, _, hdropped .noSuchDevice hroute.1, hkept hroute.1, fun _ => rfl⟩
    · rw [if_neg hnone, if_neg hnotid, if_pos h.command]
      exact ⟨rv, _, table, top, is, hrest, htable, huid⟩
  · rw [if_neg hroute, if_neg hnotid, if_pos h.command]
    exact ⟨rv, _, table, top, is, hrest, htable, huid⟩

/-- What a line with an announcement makes of a node: nothing if it has come too far. -/
lemma networkAccept_ripLine (id : UInt16) (ht : s.TableHolds T.routingTableSize es)
    (hlinks : ∀ b ∈ T.getAllInterfaces s.platform, (s.interfaces.cells b).isSome) {i : Interface}
    (hlive : s.interfaces.cells a = some i) (hk : k < 255) (time : UInt32) :
    ∃ rv s' fs, (networkAccept T (ripLine id k) (ripLine id k).length a time).run s = .ok rv s' ∧
      s'.TableHolds T.routingTableSize fs ∧
      (∀ b, (s'.interfaces.cells b).map Interface.uid =
        (s.interfaces.cells b).map Interface.uid) ∧
      if k + 1 < T.packetMaxTtl then
        fs = (updateRoutes T es id (some a) (UInt8.ofNat (k + 1)) time).2 ∧
        s'.platform =
          if (updateRoutes T es id (some a) (UInt8.ofNat (k + 1)) time).1 = .ok then
            floodLinks T s'.interfaces (some i.uid) (ripLine id (k + 1)) time
              (T.getAllInterfaces s.platform) s.platform
          else s.platform
      else fs = es ∧ s'.platform = s.platform := by
  rcases acceptedPacket_ripLine (T := T) id hk a with ⟨hrefused, hfar⟩ | ⟨p, hp, hann, hnear⟩
  · obtain ⟨rv, ps, hrun, -, -, -⟩ := networkAccept_refused hrefused s time
    refine ⟨rv, _, es, hrun, ⟨ht.slots, ht.top, ht.bounded⟩, fun _ => rfl, ?_⟩
    rw [if_neg (by omega)]
    exact ⟨rfl, rfl⟩
  · obtain ⟨ps, hrun, hnew, -, -⟩ := networkAccept_accepted hp s time
    have ht' : ({ s with packets := ps } : Globals δ).TableHolds T.routingTableSize es :=
      ⟨ht.slots, ht.top, ht.bounded⟩
    obtain ⟨rv, ps', table, top, is, hsent, htable, huid⟩ := networkSendPacket_announces ht' hlinks
      hnew hann hlive time
    refine ⟨rv, _, _, hrun.trans hsent, htable _ rfl rfl, huid, ?_⟩
    rw [if_pos hnear]
    exact ⟨rfl, rfl⟩

end Accepting

/-! ### The network -/

/-- What has been sent by a node: how many lines, and those that have not been delivered yet,
with the uids of their interfaces. -/
structure Outbox where
  sent : ℕ
  flying : List (ℤ × List UInt8)

/-- Devices with different ids. Interface `a` of a node lies at address `a` and is known by its
uid; its link keeps what is sent. The limit for `ttl` fits into its byte, and every table has
room for all other devices. -/
structure Wiring (ι : Type) [Fintype ι] extends Flood.Links ι where
  node : ι → Target Outbox
  uid : ι → ℕ → ℤ
  maxTtl : ℕ
  deviceId_inj : ∀ {u v}, (node u).deviceId = (node v).deviceId → u = v
  uid_inj : ∀ {u a b}, a < ports u → b < ports u → uid u a = uid u b → a = b
  packetMaxTtl : ∀ u, (node u).packetMaxTtl = maxTtl
  maxTtl_lt : maxTtl < 256
  routingTableSize : ∀ u, Fintype.card ι ≤ (node u).routingTableSize + 1
  sendVia : ∀ u msg interface time p, ((node u).networkSendVia msg interface time p).2 =
    ⟨p.sent + 1, p.flying ++ [(interface.uid, msg)]⟩
  allInterfaces : ∀ u p, (node u).getAllInterfaces p = List.range (ports u)

section Network

variable {ι : Type} [Fintype ι] (W : Wiring ι)

/-- A node with its interfaces that has sent nothing and has an empty table. -/
structure Wiring.Fresh (u : ι) (s : Globals Outbox) : Prop where
  routes : s.TableHolds (W.node u).routingTableSize []
  interfaces : ∀ a < W.ports u, (s.interfaces.cells a).map Interface.uid = some (W.uid u a)
  sent : s.platform.sent = 0
  flying : s.platform.flying = []

section Steps

variable [DecidableEq ι]

/-- The nodes after some lines of one of them have been taken from its links. -/
def leaving (N : ι → Globals Outbox) (u : ι) (lines : List (ℤ × List UInt8)) :
    ι → Globals Outbox :=
  Function.update N u { N u with platform := { (N u).platform with flying := lines } }

/-- A node announces itself, or one of the lines on the links gets to the other end. -/
inductive Wiring.Step (N : ι → Globals Outbox) : Flood.Event ι → (ι → Globals Outbox) → Prop
  | announce (u : ι) (time : UInt32) (rv : ZejfErr) (s : Globals Outbox)
    (hrun : (networkSendRoutingInfo (W.node u) time).run (N u) = .ok rv s) :
    Step N (.announced u) (Function.update N u s)
  | deliver (u : ι) (a : ℕ) (ha : a < W.ports u) (line : List UInt8)
    (pre post : List (ℤ × List UInt8))
    (hflying : (N u).platform.flying = pre ++ (W.uid u a, line) :: post)
    (time : UInt32) (rv : ZejfErr) (s : Globals Outbox)
    (hrun : (networkAccept (W.node (W.peer u a).1) line line.length (W.peer u a).2 time).run
      (leaving N u (pre ++ post) (W.peer u a).1) = .ok rv s) :
    Step N .delivered (Function.update (leaving N u (pre ++ post)) (W.peer u a).1 s)

/-- The networks after some events. -/
inductive Wiring.Reaches (N₀ : ι → Globals Outbox) :
    List (Flood.Event ι) → (ι → Globals Outbox) → Prop
  | start : Reaches N₀ [] N₀
  | snoc {es e N M} : Reaches N₀ es N → W.Step N e M → Reaches N₀ (es ++ [e]) M

end Steps

/-- The tables have the shortest ways to all devices that an announcement can come from. -/
structure Wiring.ShortestWays (N : ι → Globals Outbox) : Prop where
  entries : ∀ u id k, (∃ e ∈ (N u).routes, e.deviceId = id ∧ e.distance.toNat = k) ↔
    ∃ d, (W.node d).deviceId = id ∧ W.graph.edist u d = k ∧ 1 ≤ k ∧ k < W.maxTtl
  interfaces : ∀ u, ∀ e ∈ (N u).routes, ∀ d, e.deviceId = (W.node d).deviceId →
    ∃ a < W.ports u, e.interface = some a ∧
      W.graph.edist (W.peer u a).1 d < W.graph.edist u d

/-! ### A node and its part of the flood -/

/-- Entries for some of the other devices, one for each. -/
structure Wiring.Routes (u : ι) (es : List RoutingEntry) : Prop where
  others : ∀ e ∈ es, ∃ d, d ≠ u ∧ e.deviceId = (W.node d).deviceId
  interfaces : ∀ e ∈ es, e.interface.isSome
  distinct : (es.map RoutingEntry.deviceId).Nodup

/-- The line of a note. -/
def Wiring.line (m : Flood.Note ι) : List UInt8 := ripLine (W.node m.origin).deviceId m.hops

/-- The state of a node shows what the node knows and has sent. -/
structure Wiring.Shows (u : ι) (s : Globals Outbox) (table : ι → Option (ℕ × ℕ))
    (notes : List (Flood.Note ι)) (sent : ℕ) : Prop where
  holds : s.TableHolds (W.node u).routingTableSize s.routes
  routes : W.Routes u s.routes
  table : ∀ d, table d = routeTo s.routes (W.node d).deviceId
  interfaces : ∀ a < W.ports u, (s.interfaces.cells a).map Interface.uid = some (W.uid u a)
  sent : s.platform.sent = sent
  flying : s.platform.flying = notes.map (fun m => (W.uid u m.port, W.line m))
  notes : ∀ m ∈ notes, m.port < W.ports u ∧ m.hops < 255

section Nodes

variable {W} {u d : ι} {s s' : Globals Outbox} {es : List RoutingEntry}
  {table : ι → Option (ℕ × ℕ)} {notes : List (Flood.Note ι)} {sent : ℕ}

lemma Wiring.Routes.room (h : W.Routes u es) (hd : d ≠ u)
    (hnew : (W.node d).deviceId ∉ es.map RoutingEntry.deviceId) :
    es.length < (W.node u).routingTableSize := by
  classical
  have hsub : insert (W.node d).deviceId (es.map RoutingEntry.deviceId).toFinset ⊆
      (Finset.univ.erase u).image (fun v => (W.node v).deviceId) := by
    intro id hid
    rw [Finset.mem_insert, List.mem_toFinset, List.mem_map] at hid
    rw [Finset.mem_image]
    rcases hid with rfl | ⟨e, he, rfl⟩
    · exact ⟨d, by simpa using hd, rfl⟩
    · obtain ⟨v, hv, hid⟩ := h.others e he
      exact ⟨v, by simpa using hv, hid.symm⟩
  have hcard := (Finset.card_le_card hsub).trans Finset.card_image_le
  rw [Finset.card_insert_of_notMem (by simpa using hnew), List.toFinset_card_of_nodup h.distinct,
    List.length_map, Finset.card_erase_of_mem (Finset.mem_univ u), Finset.card_univ] at hcard
  have hsize := W.routingTableSize u
  omega

lemma Wiring.Routes.update (h : W.Routes u es) (hd : d ≠ u) (a : ℕ) (distance : UInt8)
    (time : UInt32) : W.Routes u
      (updateRoutes (W.node u) es (W.node d).deviceId (some a) distance time).2 := by
  rcases updateRoutes_cases (T := W.node u) es (W.node d).deviceId (some a) distance time with
    ⟨heq, -⟩ | ⟨heq, -, -, hnew⟩ | ⟨pre, e, post, rfl, hid, -, -, heq⟩
  · rw [heq]
    exact h
  · rw [heq]
    refine ⟨?_, ?_, ?_⟩
    · intro e he
      rcases List.mem_append.mp he with hold | hlast
      · exact h.others e hold
      · rw [List.mem_singleton.mp hlast]
        exact ⟨d, hd, rfl⟩
    · intro e he
      rcases List.mem_append.mp he with hold | hlast
      · exact h.interfaces e hold
      · rw [List.mem_singleton.mp hlast]
        rfl
    · rw [List.map_append, List.nodup_append]
      refine ⟨h.distinct, List.nodup_singleton _, ?_⟩
      rintro id hold id' hlast rfl
      rw [List.mem_singleton.mp hlast] at hold
      exact hnew hold
  · rw [heq]
    have hmid := RoutingEntry.heard_deviceId e (some a) distance time
    refine ⟨?_, ?_, ?_⟩
    · intro f hf
      rcases List.mem_append.mp hf with hpre | hrest
      · exact h.others f (by simp [hpre])
      · rcases List.mem_cons.mp hrest with rfl | hpost
        · exact ⟨d, hd, hmid.trans hid⟩
        · exact h.others f (by simp [hpost])
    · intro f hf
      rcases List.mem_append.mp hf with hpre | hrest
      · exact h.interfaces f (by simp [hpre])
      · rcases List.mem_cons.mp hrest with rfl | hpost
        · have he := h.interfaces e (by simp)
          unfold RoutingEntry.heard
          split
          · rfl
          · split <;> exact he
        · exact h.interfaces f (by simp [hpost])
    · have hids := h.distinct
      simpa only [List.map_append, List.map_cons, hmid] using hids

/-- Flooding puts the copies of a note on the links. -/
lemma Wiring.floodLinks_eq {is : Heap Interface}
    (his : ∀ a < W.ports u, (is.cells a).map Interface.uid = some (W.uid u a))
    (back : Option ℕ) (hback : ∀ b ∈ back, b < W.ports u) (d : ι) (k : ℕ) (time : UInt32) (p : Outbox) :
    floodLinks (W.node u) is (back.map (W.uid u)) (ripLine (W.node d).deviceId k) time
        (List.range (W.ports u)) p =
      ⟨p.sent + (W.copies u back d k).length,
        p.flying ++ (W.copies u back d k).map (fun m => (W.uid u m.port, W.line m))⟩ := by
  have hlist : ∀ (as : List ℕ), (∀ a ∈ as, a < W.ports u) → ∀ p : Outbox,
      floodLinks (W.node u) is (back.map (W.uid u)) (ripLine (W.node d).deviceId k) time as p =
        ⟨p.sent + (as.filter (fun a => some a ≠ back)).length, p.flying ++
          (as.filter (fun a => some a ≠ back)).map
            (fun a => (W.uid u a, ripLine (W.node d).deviceId k))⟩ := by
    intro as has
    induction as with
    | nil =>
      intro p
      simp [floodLinks]
    | cons a as ih =>
      intro p
      have ha := has a (by simp)
      obtain ⟨i, hi, huid⟩ := Option.map_eq_some_iff.mp (his a ha)
      have hsame : some i.uid = back.map (W.uid u) ↔ some a = back := by
        rw [huid]
        cases back with
        | none => simp
        | some b =>
          simp only [Option.map_some, Option.some.injEq]
          exact ⟨W.uid_inj ha (hback b rfl), congrArg (W.uid u)⟩
      have hrest := ih (fun b hb => has b (List.mem_cons_of_mem a hb))
      unfold floodLinks at hrest ⊢
      rw [List.foldl_cons, hi]
      dsimp only
      by_cases hskip : some a = back
      · rw [if_pos (hsame.mpr hskip), hrest, List.filter_cons_of_neg (by simpa using hskip)]
      · rw [if_neg (fun h => hskip (hsame.mp h)), hrest,
          List.filter_cons_of_pos (by simpa using hskip), W.sendVia, huid]
        simp only [List.length_cons, List.map_cons, List.append_assoc, List.singleton_append]
        congr 1
        omega
  rw [hlist _ (fun a ha => List.mem_range.mp ha)]
  simp only [Flood.Links.copies, List.length_map, List.map_map]
  rfl

lemma Wiring.Fresh.shows (h : W.Fresh u s) : W.Shows u s (fun _ => none) [] 0 := by
  have hroutes : s.routes = [] := h.routes.routes
  refine ⟨hroutes ▸ h.routes, ?_, ?_, h.interfaces, h.sent, h.flying, by simp⟩
  · rw [hroutes]
    exact ⟨by simp, by simp, by simp⟩
  · intro d
    rw [hroutes]
    rfl

lemma Wiring.Shows.table_iff (h : W.Shows u s table notes sent) {k a : ℕ} :
    table d = some (k, a) ↔ ∃ e ∈ s.routes, e.deviceId = (W.node d).deviceId ∧
      e.distance.toNat = k ∧ e.interface = some a := by
  rw [h.table]
  exact routeTo_eq_some h.routes.distinct

lemma Wiring.Shows.links (h : W.Shows u s table notes sent) :
    ∀ b ∈ (W.node u).getAllInterfaces s.platform, (s.interfaces.cells b).isSome := by
  intro b hb
  rw [W.allInterfaces, List.mem_range] at hb
  rw [← Option.isSome_map (f := Interface.uid), h.interfaces b hb]
  rfl

lemma Wiring.Shows.next (h : W.Shows u s table notes sent)
    (hroutes : s'.TableHolds (W.node u).routingTableSize es) (hes : W.Routes u es)
    {table' : ι → Option (ℕ × ℕ)} (htable : ∀ d, table' d = routeTo es (W.node d).deviceId)
    (his : ∀ b, (s'.interfaces.cells b).map Interface.uid =
      (s.interfaces.cells b).map Interface.uid)
    (copies : List (Flood.Note ι)) (hcopies : ∀ m ∈ copies, m.port < W.ports u ∧ m.hops < 255)
    (hplatform : s'.platform = ⟨s.platform.sent + copies.length,
      s.platform.flying ++ copies.map (fun m => (W.uid u m.port, W.line m))⟩) :
    W.Shows u s' table' (notes ++ copies) (sent + copies.length) := by
  have heq : s'.routes = es := hroutes.routes
  refine ⟨heq ▸ hroutes, heq ▸ hes, heq ▸ htable, ?_, ?_, ?_, ?_⟩
  · intro a ha
    rw [his, h.interfaces a ha]
  · rw [hplatform, h.sent]
  · rw [hplatform, h.flying, List.map_append]
  · intro m hm
    rcases List.mem_append.mp hm with hold | hnew
    · exact h.notes m hold
    · exact hcopies m hnew

lemma Wiring.copies_bounds {back : Option ℕ} {k : ℕ} (hk : k < 255) :
    ∀ m ∈ W.copies u back d k, m.port < W.ports u ∧ m.hops < 255 := by
  intro m hm
  obtain ⟨hport, -, -, hhops⟩ := Flood.mem_copies.mp hm
  exact ⟨hport, hhops ▸ hk⟩

lemma Wiring.Shows.announce (h : W.Shows u s table notes sent) (time : UInt32) :
    ∃ rv s', (networkSendRoutingInfo (W.node u) time).run s = .ok rv s' ∧
      W.Shows u s' table (notes ++ W.copies u none u 0)
        (sent + (W.copies u none u 0).length) := by
  obtain ⟨rv, ps, hrun, -⟩ := networkSendRoutingInfo_run h.links time
  have hline : (packetText (announcement (W.node u))).take ((W.node u).packetMaxLength - 1) =
      ripLine (W.node u).deviceId 0 := by
    rw [packetText_announcement]
    exact List.take_of_length_le (length_ripLine _ _ _)
  have hflood := W.floodLinks_eq h.interfaces none (by simp) u 0 time s.platform
  rw [Option.map_none] at hflood
  rw [hline, W.allInterfaces, hflood] at hrun
  refine ⟨rv, _, hrun, ?_⟩
  refine h.next ?_ h.routes h.table ?_ _ (W.copies_bounds (by decide)) ?_
  · exact ⟨h.holds.slots, h.holds.top, h.holds.bounded⟩
  · exact fun _ => rfl
  · rfl

variable [DecidableEq ι] {S : Flood.State ι} {v : ι} {q k : ℕ}

/-- A node gets a line, and does with it what it does with the note. -/
lemma Wiring.Shows.receive (h : W.Shows v s (S.table v) (S.flying v) (S.sent v))
    (hq : q < W.ports v) (hk : k < 255) (d : ι) (time : UInt32) :
    ∃ rv s', (networkAccept (W.node v) (ripLine (W.node d).deviceId k)
        (ripLine (W.node d).deviceId k).length q time).run s = .ok rv s' ∧
      W.Shows v s' ((S.receive W.toLinks W.maxTtl v q d (k + 1)).table v)
        ((S.receive W.toLinks W.maxTtl v q d (k + 1)).flying v)
        ((S.receive W.toLinks W.maxTtl v q d (k + 1)).sent v) := by
  obtain ⟨i, hi, huid⟩ := Option.map_eq_some_iff.mp (h.interfaces q hq)
  obtain ⟨rv, s', fs, hrun, hholds, his, hrest⟩ := networkAccept_ripLine
    (W.node d).deviceId h.holds h.links hi hk time
  refine ⟨rv, s', hrun, ?_⟩
  have hhops : (UInt8.ofNat (k + 1)).toNat = k + 1 := by
    rw [UInt8.toNat_ofNat', Nat.mod_eq_of_lt (by omega)]
  rw [W.packetMaxTtl] at hrest
  -- What is not taken changes no route and is not passed on.
  have hkeep : W.Routes v fs → (∀ d, S.table v d = routeTo fs (W.node d).deviceId) →
      s'.platform = s.platform → W.Shows v s' (S.table v) (S.flying v) (S.sent v) := by
    intro hfs htable hplatform
    have hnext := h.next hholds hfs htable his [] (by simp) (by simp [hplatform])
    simpa using hnext
  unfold Flood.State.receive
  by_cases hnear : k + 1 < W.maxTtl
  · rw [if_pos hnear] at hrest
    obtain ⟨rfl, hplatform⟩ := hrest
    by_cases hself : d = v
    · have hown : updateRoutes (W.node v) s.routes (W.node d).deviceId (some q)
          (UInt8.ofNat (k + 1)) time = (.generic, s.routes) := by
        unfold updateRoutes
        rw [if_pos (by rw [hself])]
      rw [if_neg (fun htakes => htakes.2.1 hself)]
      rw [hown] at hplatform hkeep
      exact hkeep h.routes h.table hplatform
    · obtain ⟨hroute, hok⟩ := routeTo_updateRoutes
        (fun he => hself (W.deviceId_inj he)) h.routes.interfaces (h.routes.room hself)
        (UInt8.ofNat (k + 1)) q time
      have hes := h.routes.update hself q (UInt8.ofNat (k + 1)) time
      rw [hhops, ← h.table d] at hok hroute
      by_cases hle : ∀ e ∈ S.table v d, k + 1 ≤ e.1
      · have hinterfaces : ∀ a < W.ports v, (s'.interfaces.cells a).map Interface.uid =
            some (W.uid v a) := fun a ha => (his a).trans (h.interfaces a ha)
        have hflood := W.floodLinks_eq hinterfaces (some q) (by simpa using hq) d (k + 1)
          time s.platform
        rw [Option.map_some, ← huid] at hflood
        rw [if_pos (hok.mpr hle), W.allInterfaces, hflood] at hplatform
        have htable : ∀ e, Function.update (S.table v) d (Flood.heard (S.table v d) (k + 1) q) e =
            routeTo (updateRoutes (W.node v) s.routes (W.node d).deviceId (some q)
              (UInt8.ofNat (k + 1)) time).2 (W.node e).deviceId := by
          intro e
          rw [hroute]
          by_cases he : e = d
          · rw [he, Function.update_self, if_pos rfl]
          · rw [Function.update_of_ne he, if_neg (fun hid => he (W.deviceId_inj hid)), h.table]
        have hnext := h.next hholds hes htable his (W.copies v (some q) d (k + 1))
          (W.copies_bounds (by have := W.maxTtl_lt; omega)) hplatform
        rw [if_pos ⟨hnear, hself, hle⟩]
        simpa only [Flood.State.send, Flood.State.setEntry, Function.update_self] using hnext
      · rw [if_neg (fun htakes => hle htakes.2.2)]
        rw [if_neg (fun h => hle (hok.mp h))] at hplatform
        refine hkeep hes ?_ hplatform
        intro e
        rw [hroute]
        by_cases hid : (W.node e).deviceId = (W.node d).deviceId
        · rw [if_pos hid, W.deviceId_inj hid, Flood.heard_longer hle]
        · rw [if_neg hid, h.table]
  · rw [if_neg hnear] at hrest
    obtain ⟨rfl, hplatform⟩ := hrest
    rw [if_neg (fun htakes => hnear htakes.1)]
    exact hkeep h.routes h.table hplatform

end Nodes

section Flooded

/-- All nodes show their parts of the flood. -/
def Wiring.Coupled (N : ι → Globals Outbox) (S : Flood.State ι) : Prop :=
  ∀ u, W.Shows u (N u) (S.table u) (S.flying u) (S.sent u)

variable {W} {N N₀ M : ι → Globals Outbox} {S : Flood.State ι} {u : ι}
  {es : List (Flood.Event ι)} {e : Flood.Event ι}

/-- Once no note is under way, the tables have the shortest ways. -/
lemma Wiring.Coupled.shortestWays (h : W.Coupled N S) {announced : ι → Prop}
    (hsound : Flood.Sound W.toLinks W.maxTtl announced S) (hall : ∀ u, announced u)
    (hquiet : ∀ u, (N u).platform.flying = []) : W.ShortestWays N := by
  have hnone : ∀ u, S.flying u = [] := by
    intro u
    have hnotes := (h u).flying
    rw [hquiet u] at hnotes
    exact List.map_eq_nil_iff.mp hnotes.symm
  refine ⟨?_, ?_⟩
  · intro u id k
    constructor
    · rintro ⟨entry, hentry, rfl, rfl⟩
      obtain ⟨d, -, hid⟩ := (h u).routes.others entry hentry
      obtain ⟨a, ha⟩ := Option.isSome_iff_exists.mp ((h u).routes.interfaces entry hentry)
      have htable := (h u).table_iff.mpr ⟨entry, hentry, hid, rfl, ha⟩
      exact ⟨d, hid.symm, (hsound.entry_iff hall hnone).mp ⟨a, htable⟩⟩
    · rintro ⟨d, rfl, hdist⟩
      obtain ⟨a, htable⟩ := (hsound.entry_iff hall hnone).mpr hdist
      obtain ⟨entry, hentry, hid, hk, -⟩ := (h u).table_iff.mp htable
      exact ⟨entry, hentry, hid, hk⟩
  · intro u entry hentry d hid
    obtain ⟨a, ha⟩ := Option.isSome_iff_exists.mp ((h u).routes.interfaces entry hentry)
    have htable := (h u).table_iff.mpr ⟨entry, hentry, hid, rfl, ha⟩
    obtain ⟨hport, hcloser⟩ := hsound.entry_port hall hnone htable
    exact ⟨a, hport, ha, hcloser⟩

variable [DecidableEq ι]

lemma Wiring.Coupled.taken (h : W.Coupled N S) {pre post : List (ℤ × List UInt8)}
    {x : ℤ × List UInt8} (hflying : (N u).platform.flying = pre ++ x :: post) :
    ∃ npre m npost, S.flying u = npre ++ m :: npost ∧ m.port < W.ports u ∧ m.hops < 255 ∧
      x = (W.uid u m.port, W.line m) ∧
      W.Coupled (leaving N u (pre ++ post)) (S.setFlying u (npre ++ npost)) := by
  have hnotes := (h u).flying
  rw [hflying] at hnotes
  obtain ⟨npre, rest, hsplit, rfl, hrest⟩ := List.map_eq_append_iff.mp hnotes.symm
  obtain ⟨m, npost, rfl, rfl, rfl⟩ := List.map_eq_cons_iff.mp hrest
  obtain ⟨hport, hhops⟩ := (h u).notes m (by simp [hsplit])
  refine ⟨npre, m, npost, hsplit, hport, hhops, rfl, ?_⟩
  intro w
  have hw := h w
  unfold leaving Flood.State.setFlying
  by_cases hwu : w = u
  · subst hwu
    simp only [Function.update_self]
    refine ⟨⟨hw.holds.slots, hw.holds.top, hw.holds.bounded⟩, hw.routes, hw.table, hw.interfaces,
      hw.sent, List.map_append.symm, ?_⟩
    intro n hn
    apply hw.notes n
    rw [hsplit]
    rcases List.mem_append.mp hn with hpre | hpost
    · simp [hpre]
    · simp [hpost]
  · simp only [Function.update_of_ne hwu]
    exact hw

lemma Wiring.Coupled.announce (h : W.Coupled N S) (u : ι) (time : UInt32) :
    ∃ rv s, (networkSendRoutingInfo (W.node u) time).run (N u) = .ok rv s ∧
      W.Coupled (Function.update N u s) (S.send u (W.copies u none u 0)) := by
  obtain ⟨rv, s, hrun, hshows⟩ := (h u).announce time
  refine ⟨rv, s, hrun, ?_⟩
  intro w
  unfold Flood.State.send
  by_cases hw : w = u
  · subst hw
    simpa only [Function.update_self] using hshows
  · simpa only [Function.update_of_ne hw] using h w

/-- Every line can be delivered, and then the note that it carries has been delivered. -/
lemma Wiring.Coupled.deliver (h : W.Coupled N S) {v : ι} {q : ℕ} (hq : q < W.ports v)
    {m : Flood.Note ι} (hm : m.hops < 255) (time : UInt32) :
    ∃ rv s, (networkAccept (W.node v) (W.line m) (W.line m).length q time).run (N v) =
        .ok rv s ∧
      W.Coupled (Function.update N v s)
        (S.receive W.toLinks W.maxTtl v q m.origin (m.hops + 1)) := by
  obtain ⟨rv, s, hrun, hshows⟩ := (h v).receive hq hm m.origin time
  refine ⟨rv, s, hrun, ?_⟩
  intro w
  by_cases hw : w = v
  · subst hw
    rw [Function.update_self]
    exact hshows
  · obtain ⟨htable, hflying, hsent⟩ := Flood.State.receive_other (s := S) (L := W.toLinks)
      W.maxTtl hw q m.origin (m.hops + 1)
    rw [Function.update_of_ne hw, htable, hflying, hsent]
    exact h w

/-- Every step of the network is one of the flood. -/
lemma Wiring.Coupled.step (h : W.Coupled N S) (hstep : W.Step N e M) :
    ∃ S', Flood.Step W.toLinks W.maxTtl S e S' ∧ W.Coupled M S' := by
  cases hstep with
  | announce u time rv s hrun =>
    obtain ⟨rv', s', hrun', hcoupled⟩ := h.announce u time
    obtain ⟨-, rfl⟩ := EStateM.Result.ok.inj (hrun.symm.trans hrun')
    exact ⟨_, .announce u, hcoupled⟩
  | deliver u a ha line pre post hflying time rv s hrun =>
    obtain ⟨npre, m, npost, hsplit, hport, hhops, hline, hleft⟩ := h.taken hflying
    obtain ⟨huid, rfl⟩ := Prod.mk.inj hline
    obtain rfl := W.uid_inj ha hport huid
    obtain ⟨rv', s', hrun', hcoupled⟩ := hleft.deliver (W.peer_lt ha) hhops time
    obtain ⟨-, rfl⟩ := EStateM.Result.ok.inj (hrun.symm.trans hrun')
    exact ⟨_, .deliver u npre m npost hsplit, hcoupled⟩

lemma Wiring.Reaches.coupled (hfresh : ∀ u, W.Fresh u (N₀ u)) (h : W.Reaches N₀ es N) :
    ∃ S, Flood.Reaches W.toLinks W.maxTtl es S ∧ W.Coupled N S := by
  induction h with
  | start => exact ⟨.start, .start, fun u => (hfresh u).shows⟩
  | @snoc es e N M hreach hstep ih =>
    obtain ⟨S, hS, hcoupled⟩ := ih
    obtain ⟨S', hS', hcoupled'⟩ := hcoupled.step hstep
    exact ⟨S', hS.snoc hS', hcoupled'⟩

/-- **Announcements find the shortest ways.** Every node may announce itself at any time and
every line may be delivered, but a bounded number of lines and steps follows from the
announcements; once no line is on its way and every node has announced itself, the tables of
all nodes have the shortest ways. -/
theorem flooding_shortestWays (hfresh : ∀ u, W.Fresh u (N₀ u)) (h : W.Reaches N₀ es N) :
    (∑ u, (N u).platform.sent ≤
        Flood.announcements es * Flood.budget (Finset.univ.sup W.ports) (W.maxTtl + 1) ∧
      es.length ≤ Flood.announcements es + ∑ u, (N u).platform.sent) ∧
    ((∀ u, ∃ M, W.Step N (.announced u) M) ∧
      ((∃ u, (N u).platform.flying ≠ []) → ∃ M, W.Step N .delivered M)) ∧
    ((∀ u, .announced u ∈ es) → (∀ u, (N u).platform.flying = []) → W.ShortestWays N) := by
  obtain ⟨S, hS, hcoupled⟩ := h.coupled hfresh
  have hsent : ∀ u, (N u).platform.sent = S.sent u := fun u => (hcoupled u).sent
  refine ⟨⟨?_, ?_⟩, ⟨?_, ?_⟩, ?_⟩
  · simp only [hsent]
    exact hS.bounded (fun u => Finset.le_sup (Finset.mem_univ u))
  · simp only [hsent]
    have hconserved := hS.conserved
    omega
  · intro u
    obtain ⟨rv, s, hrun, -⟩ := hcoupled.announce u 0
    exact ⟨_, .announce u 0 rv s hrun⟩
  · rintro ⟨u, hu⟩
    obtain ⟨x, post, hflying⟩ := List.exists_cons_of_ne_nil hu
    obtain ⟨npre, m, npost, -, hport, hhops, rfl, hleft⟩ :=
      hcoupled.taken (hflying.trans (List.nil_append _).symm)
    obtain ⟨rv, s, hrun, -⟩ := hleft.deliver (W.peer_lt hport) hhops 0
    exact ⟨_, .deliver u m.port hport _ [] post hflying 0 rv s hrun⟩
  · intro hall hquiet
    exact hcoupled.shortestWays hS.sound hall hquiet

end Flooded

end Network

/-- A device whose interfaces are known by their addresses. -/
def wired (settings : Settings) (ports : ℕ) : Target Outbox where
  toSettings := settings
  hourLoad _ p := ((.fileDoesntExist, []), p)
  hourSave _ _ p := (.io, p)
  networkSendVia msg interface _ p := (.ok, ⟨p.sent + 1, p.flying ++ [(interface.uid, msg)]⟩)
  getAllInterfaces _ := List.range ports
  providedVariables := []
  demandedVariables := []
  printValue _ := []
  scanValue _ := none
  doubleToUInt32 := Double.toUInt32
  doubleToUInt32_eq := toUInt32_conforms

abbrev pressStation : Fin 3 := 0

abbrev meteoStation : Fin 3 := 1

abbrev windStation : Fin 3 := 2

/-- The pressure and the wind sensor are on the two interfaces of the server. -/
def stationPorts (u : Fin 3) : ℕ := if u = 1 then 2 else 1

def stationPeer (u : Fin 3) (a : ℕ) : Fin 3 × ℕ :=
  if u = 1 then (if a = 0 then 0 else 2, 0) else (1, if u = 0 then 0 else 1)

def stationSettings (u : Fin 3) : Settings :=
  if u = pressStation then Settings.zejfPress
  else if u = meteoStation then Settings.zejfMeteo
  else Settings.zejfWind

lemma stationPeer_lt : ∀ u, ∀ a < stationPorts u,
    (stationPeer u a).2 < stationPorts (stationPeer u a).1 := by
  decide

lemma stationPeer_peer : ∀ u, ∀ a < stationPorts u,
    stationPeer (stationPeer u a).1 (stationPeer u a).2 = (u, a) := by
  decide

lemma stationSettings_inj : ∀ u v, (stationSettings u).deviceId = (stationSettings v).deviceId →
    u = v := by
  decide

lemma stationSettings_size : ∀ u, (stationSettings u).packetMaxTtl = 8 ∧
    Fintype.card (Fin 3) ≤ (stationSettings u).routingTableSize + 1 := by
  decide

lemma stationHops_lt : 8 < 256 := by
  decide

def stations : Wiring (Fin 3) where
  ports := stationPorts
  peer := stationPeer
  peer_lt ha := stationPeer_lt _ _ ha
  peer_peer ha := stationPeer_peer _ _ ha
  node u := wired (stationSettings u) (stationPorts u)
  uid _ a := a
  maxTtl := 8
  deviceId_inj h := stationSettings_inj _ _ h
  uid_inj _ _ h := Int.ofNat_inj.mp h
  packetMaxTtl u := (stationSettings_size u).1
  maxTtl_lt := stationHops_lt
  routingTableSize u := (stationSettings_size u).2
  sendVia _ _ _ _ _ := rfl
  allInterfaces _ _ := rfl

def stationsSetUp (u : Fin 3) : Globals Outbox :=
  { zejfInit (stations.node u) ⟨0, []⟩ with
    interfaces := Heap.ofList [⟨0, .usb, 0, 0, 0⟩, ⟨1, .usb, 0, 0, 0⟩] }

def stationAnnounces (u : Fin 3) (N : Fin 3 → Globals Outbox) : Fin 3 → Globals Outbox :=
  Function.update N u (leaves ((networkSendRoutingInfo (stations.node u) 0).run (N u)))

/-- The line that has been on the links of a station for the longest time gets to the other
end. -/
def stationHeard (u : Fin 3) (a : ℕ) (line : List UInt8) (N : Fin 3 → Globals Outbox) :
    Fin 3 → Globals Outbox :=
  Function.update (leaving N u ((N u).platform.flying.drop 1)) (stations.peer u a).1
    (leaves ((networkAccept (stations.node (stations.peer u a).1) line line.length
      (stations.peer u a).2 0).run
      (leaving N u ((N u).platform.flying.drop 1) (stations.peer u a).1)))

def stationLine (d : Fin 3) (k : ℕ) : List UInt8 := ripLine (stations.node d).deviceId k

/-- All three have announced themselves. -/
def stationsAnnounced : Fin 3 → Globals Outbox :=
  stationAnnounces 2 (stationAnnounces 1 (stationAnnounces 0 stationsSetUp))

/-- The server has passed on what the sensors announced. -/
def stationsPassedOn : Fin 3 → Globals Outbox :=
  stationHeard 2 0 (stationLine 2 0) (stationHeard 0 0 (stationLine 0 0) stationsAnnounced)

def stationsSettled : Fin 3 → Globals Outbox :=
  stationHeard 1 0 (stationLine 2 1) (stationHeard 1 1 (stationLine 0 1)
    (stationHeard 1 1 (stationLine 1 0) (stationHeard 1 0 (stationLine 1 0) stationsPassedOn)))

lemma stationHeard_step {N : Fin 3 → Globals Outbox} {u : Fin 3} {a : ℕ} {line : List UInt8}
    (ha : a < stations.ports u)
    (hflying : (N u).platform.flying = (stations.uid u a, line) :: (N u).platform.flying.drop 1)
    (hrun : outcome ((networkAccept (stations.node (stations.peer u a).1) line line.length
      (stations.peer u a).2 0).run
      (leaving N u ((N u).platform.flying.drop 1) (stations.peer u a).1)) = some .ok) :
    stations.Step N .delivered (stationHeard u a line N) :=
  .deliver u a ha line [] _ hflying 0 .ok _ (run_eq_of_outcome hrun)

lemma stationAnnounces_step {N : Fin 3 → Globals Outbox} {u : Fin 3}
    (hrun : outcome ((networkSendRoutingInfo (stations.node u) 0).run (N u)) = some .ok) :
    stations.Step N (.announced u) (stationAnnounces u N) :=
  .announce u 0 .ok _ (run_eq_of_outcome hrun)

/-- Two lines come to the server, which passes them on, and two lines of its own to the
sensors; then what it has passed on comes to them. -/
def stationEvents : List (Flood.Event (Fin 3)) :=
  [.announced 0, .announced 1, .announced 2, .delivered, .delivered, .delivered, .delivered,
    .delivered, .delivered]

lemma stations_reaches : stations.Reaches stationsSetUp stationEvents stationsSettled := by
  have hannounced : stations.Reaches stationsSetUp [.announced 0, .announced 1, .announced 2]
      stationsAnnounced :=
    .snoc (.snoc (.snoc .start (stationAnnounces_step (by decide +kernel)))
      (stationAnnounces_step (by decide +kernel))) (stationAnnounces_step (by decide +kernel))
  have hpassed : stations.Reaches stationsSetUp
      [.announced 0, .announced 1, .announced 2, .delivered, .delivered] stationsPassedOn :=
    .snoc (.snoc hannounced (stationHeard_step (by decide) (by decide +kernel) (by decide +kernel)))
      (stationHeard_step (by decide) (by decide +kernel) (by decide +kernel))
  exact .snoc (.snoc (.snoc (.snoc hpassed
    (stationHeard_step (by decide) (by decide +kernel) (by decide +kernel)))
    (stationHeard_step (by decide) (by decide +kernel) (by decide +kernel)))
    (stationHeard_step (by decide) (by decide +kernel) (by decide +kernel)))
    (stationHeard_step (by decide) (by decide +kernel) (by decide +kernel))

lemma stations_fresh (u : Fin 3) : stations.Fresh u (stationsSetUp u) := by
  have hinterfaces : ∀ u, ∀ a < stations.ports u,
      ((stationsSetUp u).interfaces.cells a).map Interface.uid = some (stations.uid u a) := by
    decide +kernel
  exact ⟨⟨rfl, rfl, Nat.zero_le _⟩, hinterfaces u, rfl, rfl⟩

lemma stations_announced (u : Fin 3) : .announced u ∈ stationEvents := by
  have hstations : ∀ u : Fin 3, u = 0 ∨ u = 1 ∨ u = 2 := by decide
  rcases hstations u with rfl | rfl | rfl <;> simp [stationEvents]

lemma stationsSettled_quiet : ∀ u, (stationsSettled u).platform.flying = [] := by
  decide +kernel

/-- The sensors get to know each other, though no wire is between them. -/
theorem stations_shortestWays :
    stations.Reaches stationsSetUp stationEvents stationsSettled ∧
      stations.ShortestWays stationsSettled := by
  obtain ⟨-, -, hways⟩ := flooding_shortestWays stations_fresh stations_reaches
  exact ⟨stations_reaches, hways stations_announced stationsSettled_quiet⟩

end ZejfMeteo
