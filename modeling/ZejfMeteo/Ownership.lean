import ZejfMeteo.Accounts
import ZejfMeteo.RouteLife

/-!
# No packet is lost and none is destroyed twice

A packet that is received is in hand while it is handled, and then it is destroyed. Together
with the packets that come in and go out this accounts for every packet of a run.
-/

namespace ZejfMeteo
open Runs Format

variable {δ : Type} (T : Target δ)

/-! ### Handling one packet -/

/-- The faults that handling a packet can end in: a message that is not there is read, or a
variable is stored for an entry whose counter has reached its maximum. -/
inductive Fatal (es : List RoutingEntry) (p : Packet) : Fault → Prop
  | noMessage (hcommand : p.command ∈
      [dataRequestCommand, dataCheckCommand, variablesRequest, messageCommand])
    (hmessage : p.message = none) : Fatal es p .nullPointer
  | manyVariables (e : RoutingEntry) (he : e ∈ es) (hfrom : e.deviceId = p.fromId)
    (hcount : p.command = dataProvide ∧ e.providedCount + 1 = 0 ∨
      p.command = dataDemand ∧ e.demandCount + 1 = 0) : Fatal es p .outOfBounds

/-- The state is in order apart from the packets in hand. -/
def Settles (I : ℕ → Bool) (L : ℕ → Prop) (s : Globals δ) : Prop :=
  ∃ es rs, Settled T I es rs L s

section Handling

variable {T} {I : ℕ → Bool} {es : List RoutingEntry} {rs : List Requested} {L : ℕ → Prop}
  {s : Globals δ} {E : Fault → Prop} {a : ℕ} {p : Packet}

lemma Settled.settles (hs : Settled T I es rs L s) : Settles T I L s := ⟨es, rs, hs⟩

/-- A routine that keeps routes and requests leaves the state settled. -/
lemma settles_of {α : Type} {x : Run (Globals δ) α}
    (h : Triple E (Settled T I es rs L) x (fun _ => Settled T I es rs L)) :
    Triple E (Settled T I es rs L) x (fun _ => Settles T I L) :=
  h.conseq (fun _ hs => hs) (fun _ _ hs => hs.settles)

lemma readPacket_triple {P : Globals δ → Prop} :
    Triple E (fun s => s.packets.cells a = some p ∧ P s) (readPacket a)
      (fun q s => q = p ∧ P s) := by
  apply Triple.of_run
  rintro s ⟨hp, hs⟩
  exact ⟨p, s, readPacket_run hp, rfl, hs⟩

lemma routingEntryFind_settled (id : UInt16) : Triple E (Settled T I es rs L)
    (routingEntryFind id) (fun o s => (∀ i, o = some i → ∃ xs e ys, es = xs ++ e :: ys ∧
      i = xs.length ∧ e.deviceId = id) ∧ Settled T I es rs L s) := by
  apply Triple.of_run
  intro s hs
  obtain ⟨tx, rx, hn, -⟩ := hs.node
  refine ⟨_, s, routingEntryFind_run hn.network.table id, ?_, hs⟩
  intro i hi
  obtain ⟨hlt, hid, -⟩ := List.findIdx?_eq_some_iff_getElem.mp hi
  refine ⟨es.take i, es[i], es.drop (i + 1), by simp, ?_, by simpa using hid⟩
  rw [List.length_take]
  omega

/-- An entry may be changed as long as it leads over the same interface. -/
lemma setTableEntry_settled {xs ys : List RoutingEntry} {e : RoutingEntry} (f : RoutingEntry)
    (hf : f.interface = e.interface) : Triple E (Settled T I (xs ++ e :: ys) rs L)
      (setTableEntry xs.length (some f)) (fun _ => Settled T I (xs ++ f :: ys) rs L) := by
  apply Triple.of_run
  intro s hs
  obtain ⟨tx, rx, hn, hloose⟩ := hs.node
  obtain ⟨table, hrun, htable⟩ := hn.network.table.set_run f
  have hframe : s.NetworkOnly { s with routingTable := table } :=
    ⟨rfl, rfl, rfl, rfl, rfl, fun _ => rfl⟩
  have hn' : NodeHolds T { s with routingTable := table } tx rx (xs ++ f :: ys) := by
    refine ⟨⟨hn.network.queues.congr rfl rfl rfl (fun _ _ => rfl), htable⟩, ?_, hn.links,
      hn.ordinary⟩
    intro g hg
    simp only [List.mem_append, List.mem_cons] at hg
    rcases hg with hg | rfl | hg
    · exact hn.routes g (by simp [hg])
    · have he := hn.routes e (by simp)
      show (s.interfaceAt g.interface).isSome
      rw [hf]
      exact he
    · exact hn.routes g (by simp [hg])
  exact ⟨(), _, hrun, hs.network hframe hn' hloose⟩

lemma routingEntryAdd_settled {xs ys : List RoutingEntry} {e : RoutingEntry}
    {count : RoutingEntry → UInt16} (hE : count e + 1 = 0 → E .outOfBounds)
    (known : RoutingEntry → Bool) {add : RoutingEntry → RoutingEntry}
    (hadd : (add e).interface = e.interface) : Triple E (Settled T I (xs ++ e :: ys) rs L)
      (routingEntryAdd xs.length known count add) (fun _ => Settles T I L) := by
  apply Triple.bind (tableEntry_settled rfl)
  intro e'
  apply Triple.and_left
  rintro rfl
  refine Triple.guard (fun _ hs => hs.settles) ?_
  intro _
  apply Triple.ite
  · intro hcount
    exact Triple.throw (fun _ _ => hE hcount)
  intro _
  exact Triple.bind (setTableEntry_settled _ hadd) (fun _ => Triple.pure (fun _ hs => hs.settles))

lemma dataRequestAdd_settled (toId : UInt16) (info : VariableInfo)
    (hourNumber startLog endLog : UInt32) : Triple E (Settled T I es rs L)
      (dataRequestAdd toId info hourNumber startLog endLog) (fun _ => Settles T I L) := by
  apply Triple.of_run
  intro s hs
  obtain ⟨rv, q, hs', qs, hrun, hr, -⟩ :=
    dataRequestAdd_run hs.requests toId info hourNumber startLog endLog
  exact ⟨rv, _, hrun, (hs.setRequests hr).settles⟩

/-! ### The handlers -/

/-- A handler looks at the message of its packet first. -/
lemma message_settled {missing : Run (Globals δ) ZejfErr}
    {handle : Packet → List UInt8 → Run (Globals δ) ZejfErr}
    (hmissing : p.message = none → Triple E (Settled T I es rs L) missing
      (fun _ => Settles T I L))
    (hhandle : ∀ message, Triple E (Settled T I es rs L) (handle p message)
      (fun _ => Settles T I L)) :
    Triple E (fun s => s.packets.cells a = some p ∧ Settled T I es rs L s) (do
      let p ← readPacket a
      match p.message with
      | none => missing
      | some message => handle p message) (fun _ => Settles T I L) := by
  apply Triple.bind readPacket_triple
  intro q
  apply Triple.and_left
  rintro rfl
  cases hm : q.message with
  | none => exact hmissing hm
  | some message => exact hhandle message

/-- What a device provides or demands is noted down in its entry. -/
lemma entry_settled {missing : Run (Globals δ) ZejfErr} {note : ℕ → Run (Globals δ) ZejfErr}
    (id : UInt16)
    (hmissing : Triple E (Settled T I es rs L) missing (fun _ => Settles T I L))
    (hnote : ∀ xs e ys, es = xs ++ e :: ys → e.deviceId = id →
      Triple E (Settled T I (xs ++ e :: ys) rs L) (note xs.length) (fun _ => Settles T I L)) :
    Triple E (Settled T I es rs L) (do
      match ← routingEntryFind id with
      | none => missing
      | some index => note index) (fun _ => Settles T I L) := by
  apply Triple.bind (routingEntryFind_settled id)
  intro o
  apply Triple.and_left
  intro ho
  cases o with
  | none => exact hmissing
  | some index =>
    obtain ⟨xs, e, ys, rfl, rfl, hfrom⟩ := ho index rfl
    exact hnote xs e ys rfl hfrom

lemma processDataDemand_settled (hcommand : p.command = dataDemand) :
    Triple (Fatal es p) (fun s => s.packets.cells a = some p ∧ Settled T I es rs L s)
      (processDataDemand a) (fun _ => Settles T I L) := by
  apply message_settled
  · exact fun _ => Triple.pure (fun _ hs => hs.settles)
  intro message
  apply entry_settled
  · exact Triple.pure (fun _ hs => hs.settles)
  rintro xs e ys rfl hfrom
  split
  · exact routingEntryAdd_settled
      (fun hcount => .manyVariables e (by simp) hfrom (Or.inr ⟨hcommand, hcount⟩)) _ rfl
  · exact Triple.pure (fun _ hs => hs.settles)

lemma processDataProvide_settled (hcommand : p.command = dataProvide) :
    Triple (Fatal es p) (fun s => s.packets.cells a = some p ∧ Settled T I es rs L s)
      (processDataProvide a) (fun _ => Settles T I L) := by
  apply message_settled
  · exact fun _ => Triple.pure (fun _ hs => hs.settles)
  intro message
  apply entry_settled
  · exact Triple.pure (fun _ hs => hs.settles)
  rintro xs e ys rfl hfrom
  split
  · exact routingEntryAdd_settled
      (fun hcount => .manyVariables e (by simp) hfrom (Or.inl ⟨hcommand, hcount⟩)) _ rfl
  · exact Triple.pure (fun _ hs => hs.settles)

lemma processDataSubscribe_settled :
    Triple E (fun s => s.packets.cells a = some p ∧ Settled T I es rs L s)
      (processDataSubscribe a) (fun _ => Settles T I L) := by
  apply Triple.bind readPacket_triple
  intro q
  apply Triple.and_left
  rintro rfl
  apply entry_settled
  · exact Triple.pure (fun _ hs => hs.settles)
  rintro xs e ys rfl -
  apply Triple.bind (tableEntry_settled rfl)
  intro e'
  apply Triple.and_left
  rintro rfl
  exact Triple.bind (setTableEntry_settled e'.subscribe rfl)
    (fun _ => Triple.pure (fun _ hs => hs.settles))

lemma processDataLog_settled (hT : T.Separate) (time : UInt32) :
    Triple E (fun s => s.packets.cells a = some p ∧ Settled T I es rs L s)
      (processDataLog T a time) (fun _ => Settles T I L) := by
  apply message_settled
  · exact fun _ => Triple.pure (fun _ hs => hs.settles)
  intro message
  split
  · exact settles_of (dataLog_settled hT _ _ _ _ _ _)
  · exact Triple.pure (fun _ hs => hs.settles)

lemma dataRequestReceive_settled (hE : p.message = none → E .nullPointer) :
    Triple E (fun s => s.packets.cells a = some p ∧ Settled T I es rs L s)
      (dataRequestReceive a) (fun _ => Settles T I L) := by
  apply message_settled
  · exact fun hm => Triple.throw (fun _ _ => hE hm)
  intro message
  split
  · exact dataRequestAdd_settled _ _ _ _ _
  · exact Triple.pure (fun _ hs => hs.settles)

lemma dataCheckReceive_settled (hT : T.Separate) (hE : p.message = none → E .nullPointer) :
    Triple E (fun s => s.packets.cells a = some p ∧ Settled T I es rs L s)
      (dataCheckReceive T a) (fun _ => Settles T I L) := by
  apply message_settled
  · exact fun hm => Triple.throw (fun _ _ => hE hm)
  intro message
  split
  · apply Triple.bind (calculateDataCheck_settled hT _ _ _)
    rintro ⟨rv, result⟩
    refine Triple.guard (fun _ hs => hs.settles) ?_
    intro _
    apply Triple.ite
    · intro _
      exact dataRequestAdd_settled _ _ _ _ _
    · intro _
      exact Triple.pure (fun _ hs => hs.settles)
  · exact Triple.pure (fun _ hs => hs.settles)

lemma sendVariables_settled (deviceId : UInt16) (hourNumber time : UInt32) (vars : List Variable) :
    Triple E (Settled T I es rs L) (sendVariables T deviceId hourNumber time vars)
      (fun _ => Settled T I es rs L) := by
  induction vars with
  | nil => exact Triple.pure (fun _ hs => hs)
  | cons var rest ih =>
    rw [sendVariables, ← bind_assoc]
    exact Triple.bind (send_settled deviceId (by decide) (by decide) _ time) (fun _ => ih)

lemma variablesRequestReceive_settled (hT : T.Separate) (time : UInt32)
    (hE : p.message = none → E .nullPointer) :
    Triple E (fun s => s.packets.cells a = some p ∧ Settled T I es rs L s)
      (variablesRequestReceive T a time) (fun _ => Settles T I L) := by
  apply message_settled
  · exact fun hm => Triple.throw (fun _ _ => hE hm)
  intro message
  split
  · apply Triple.bind (datahourGet_settled hT _ true false)
    intro o
    cases o with
    | none => exact Triple.pure (fun _ hs => hs.1.settles)
    | some hour =>
      rintro s ⟨hs, hsome⟩
      obtain ⟨pre, h, post, hc⟩ := hsome hour rfl
      rw [run_bind_ok (readHour_run hc.queue)]
      refine settles_of (Triple.ite ?_ ?_) s hs
      · intro _
        exact Triple.pure (fun _ hs => hs)
      · intro _
        exact sendVariables_settled _ _ time _
  · exact Triple.pure (fun _ hs => hs.settles)

/-! ### The receive queue -/

lemma networkCatchPacket_settled (hT : T.Separate) (time : UInt32) :
    Triple (Fatal es p) (fun s => s.packets.cells a = some p ∧ Settled T I es rs L s)
      (networkCatchPacket T a time) (fun caught s => if caught then Settles T I L s
        else s.packets.cells a = some p ∧ Settled T I es rs L s) := by
  have hcaught : ∀ {x : Run (Globals δ) ZejfErr}, Triple (Fatal es p)
      (fun s => s.packets.cells a = some p ∧ Settled T I es rs L s) x (fun _ => Settles T I L) →
      Triple (Fatal es p) (fun s => s.packets.cells a = some p ∧ Settled T I es rs L s) (do
        let _ ← x
        return true) (fun caught s => if caught then Settles T I L s
          else s.packets.cells a = some p ∧ Settled T I es rs L s) := by
    intro x hx
    exact Triple.bind hx (fun _ => Triple.pure (fun _ hs => hs))
  apply Triple.bind ((readPacket_triple (P := fun s =>
    s.packets.cells a = some p ∧ Settled T I es rs L s)).conseq (fun _ hs => ⟨hs.1, hs⟩)
      (fun _ _ hs => hs))
  intro q
  apply Triple.and_left
  rintro rfl
  apply Triple.ite
  · exact fun hcommand => hcaught (processDataDemand_settled hcommand)
  intro _
  apply Triple.ite
  · exact fun hcommand => hcaught (processDataProvide_settled hcommand)
  intro _
  apply Triple.ite
  · exact fun _ => hcaught (processDataLog_settled hT time)
  intro _
  apply Triple.ite
  · exact fun hcommand => hcaught (dataRequestReceive_settled (.noMessage (by simp [hcommand])))
  intro _
  apply Triple.ite
  · exact fun hcommand => hcaught (dataCheckReceive_settled hT (.noMessage (by simp [hcommand])))
  intro _
  apply Triple.ite
  · exact fun hcommand => hcaught
      (variablesRequestReceive_settled hT time (.noMessage (by simp [hcommand])))
  intro _
  apply Triple.ite
  · exact fun _ => hcaught processDataSubscribe_settled
  · intro _
    exact Triple.pure (fun _ hs => hs)

lemma networkProcessPacket_settled (clock : Clock) :
    Triple (Fatal es p) (fun s => s.packets.cells a = some p ∧ Settled T I es rs L s)
      (networkProcessPacket T clock a) (fun _ => Settles T I L) := by
  apply Triple.bind readPacket_triple
  intro q
  apply Triple.and_left
  rintro rfl
  apply Triple.ite
  · intro _
    unfold timeRequest
    rw [← bind_assoc, bind_assoc]
    exact Triple.bind (send_settled q.fromId (by decide) (by decide) _ clock.millis)
      (fun _ => Triple.pure (fun _ hs => hs.settles))
  intro _
  apply Triple.ite
  · rintro ⟨hcommand, hmessage⟩
    exact Triple.throw (fun _ _ => .noMessage (by simp [hcommand]) hmessage)
  · intro _
    exact Triple.pure (fun _ hs => hs.settles)

lemma packetDestroy_settled (ha : L a) : Triple E (Settled T I es rs L) (packetDestroy a)
    (fun _ => Settled T I es rs (fun b => L b ∧ b ≠ a)) := by
  apply Triple.of_run
  intro s hs
  obtain ⟨tx, rx, hn, hloose⟩ := hs.node
  obtain ⟨hlive, hfree⟩ := (hloose a).mpr ha
  have hn' : NodeHolds T { s with packets := s.packets.erase a } tx rx es :=
    hn.setPackets hfree (fun b hb => by rw [Heap.erase_cells, if_neg hb])
  refine ⟨(), _, packetDestroy_run hlive, hs.network ⟨rfl, rfl, rfl, rfl, rfl, fun _ => rfl⟩ hn' ?_⟩
  intro b
  rw [← hloose b]
  unfold Globals.Loose
  rw [Heap.erase_cells]
  by_cases hb : b = a
  · simp [hb]
  · simp [hb]

lemma popRx_settled (hs : Settled T I es rs L s) :
    (s.rxPackets = [] ∧ (zoom Globals.rxQueueLens listPop).run s = .ok none s) ∨
    ∃ q rest t, s.rxPackets = q :: rest ∧
      (zoom Globals.rxQueueLens listPop).run s = .ok (some q.addr) t ∧
      t.packets.cells q.addr = some q.packet ∧
      Settled T I es rs (fun b => L b ∨ b = q.addr) t := by
  obtain ⟨tx, rx, hn, hloose⟩ := hs.node
  rw [hn.rxPackets]
  have hqueues := hn.network.queues
  cases rx with
  | nil =>
    have hpop : (zoom Globals.rxQueueLens listPop).run s =
        .ok none (Globals.rxQueueLens.set s.rxQueue s) :=
      run_zoom_ok (l := Globals.rxQueueLens) (LinkedList.listPop_nil hqueues.rxHolds)
    exact Or.inl ⟨rfl, hpop⟩
  | cons q rest =>
    obtain ⟨rq, hpop, hrq, hcap, -⟩ :=
      LinkedList.listPop_holds (a := q.node) (v := q.addr) hqueues.rxHolds
    have hzoom : (zoom Globals.rxQueueLens listPop).run s =
        .ok (some q.addr) { s with rxQueue := rq } := run_zoom_ok (l := Globals.rxQueueLens) hpop
    have hcell := hqueues.live q (by simp)
    have hperm : ((tx ++ q :: rest).map Queued.addr).Perm
        (q.addr :: (tx ++ rest).map Queued.addr) := by
      rw [List.map_append, List.map_append, List.map_cons]
      exact List.perm_middle
    have hdistinct := List.nodup_cons.mp (hperm.nodup_iff.mp hqueues.distinct)
    have hq : ({ s with rxQueue := rq } : Globals δ).QueuesHold tx rest :=
      ⟨hqueues.txHolds, hrq, fun r hr => hqueues.live r (by
        rcases List.mem_append.mp hr with hr | hr <;> simp [hr]), hdistinct.2, hqueues.next⟩
    have hframe : s.NetworkOnly { s with rxQueue := rq } :=
      ⟨rfl, rfl, rfl, rfl, hcap, fun _ => rfl⟩
    have hn' : NodeHolds T { s with rxQueue := rq } tx rest es := by
      refine hn.congr hq hframe rfl rfl rfl ?_
      intro r hr
      apply hn.ordinary
      rcases List.mem_append.mp hr with hr | hr <;> simp [hr]
    refine Or.inr ⟨q, rest, _, rfl, hzoom, hcell, hs.network hframe hn' ?_⟩
    intro b
    rw [← hloose b]
    unfold Globals.Loose
    rw [hperm.mem_iff, List.mem_cons]
    by_cases hb : b = q.addr
    · subst hb
      exact iff_of_true ⟨by rw [hcell]; rfl, hdistinct.1⟩ (Or.inr rfl)
    · simp [hb]

/-- What is received is handled and destroyed. -/
lemma networkProcessRx_settled (hT : T.Separate) (hs : Settled T I es rs (fun _ => False) s)
    (clock : Clock) (time : UInt32) :
    (∃ t, (networkProcessRx T clock time).run s = .ok () t ∧ Settles T I (fun _ => False) t) ∨
    ∃ q rest e t, s.rxPackets = q :: rest ∧ Fatal es q.packet e ∧
      (networkProcessRx T clock time).run s = .error e t := by
  rcases popRx_settled hs with ⟨-, hpop⟩ | ⟨q, rest, t, hrx, hpop, hcell, ht⟩
  · exact Or.inl ⟨s, run_bind_ok hpop, hs.settles⟩
  have hdestroy : Triple (Fatal es q.packet) (Settles T I (fun b => False ∨ b = q.addr))
      (packetDestroy q.addr) (fun _ => Settles T I (fun _ => False)) := by
    rintro s ⟨es', rs', hs⟩
    apply ((packetDestroy_settled (E := Fatal es q.packet) (Or.inr rfl)).conseq (fun _ hs => hs) _)
      s hs
    intro _ s hs
    obtain ⟨tx, rx, hn, hloose⟩ := hs.node
    exact ⟨es', rs', ⟨tx, rx, hn, fun b => (hloose b).trans (by tauto)⟩, hs.cache, hs.requests,
      hs.interfaces⟩
  have hrest : Triple (Fatal es q.packet) (fun s => s.packets.cells q.addr = some q.packet ∧
      Settled T I es rs (fun b => False ∨ b = q.addr) s) (do
        if !(← networkCatchPacket T q.addr time) then
          networkProcessPacket T clock q.addr
        packetDestroy q.addr) (fun _ => Settles T I (fun _ => False)) := by
    apply Triple.bind (networkCatchPacket_settled hT time)
    intro caught
    cases caught with
    | true => exact hdestroy
    | false => exact Triple.bind (networkProcessPacket_settled clock) (fun _ => hdestroy)
  unfold networkProcessRx
  rw [run_bind_ok hpop]
  rcases hrest t ⟨hcell, ht⟩ with ⟨_, u, hrun, hu⟩ | ⟨e, u, hrun, he⟩
  · exact Or.inl ⟨u, hrun, hu⟩
  · exact Or.inr ⟨q, rest, e, u, hrx, he, hrun⟩

end Handling

/-! ### Operations of a device -/

/-- The calls that a device makes. -/
inductive PacketOp
  | accept (msg : List UInt8) (interface : ℕ) (time : UInt32)
  | send (packet : Packet) (time : UInt32)
  | processPackets (clock : Clock) (time : UInt32)
  | log (target : VariableInfo) (hourNumber sampleNumber : UInt32) (value : Sample)
    (time : UInt32) (announce : Bool)
  | provideInfo (time : UInt32)
  | demandInfo (time : UInt32)
  | routingInfo (time : UInt32)
  | dataCheck (currentHourNum currentMillis hours time : UInt32)
  | requests (time : UInt32)

/-- Returns the error code where there is one. -/
def PacketOp.run : PacketOp → Run (Device δ) (Option ZejfErr)
  | .accept msg interface time => zoom Device.globalsLens do
    return some (← networkAccept T msg msg.length interface time)
  | .send packet time => zoom Device.globalsLens do
    return some (← sendNew T packet time)
  | .processPackets clock time => zoom Device.globalsLens do
    networkProcessPackets T clock time
    return none
  | .log target hourNumber sampleNumber value time announce => zoom Device.globalsLens do
    return some (← dataLog T target hourNumber sampleNumber value time announce)
  | .provideInfo time => do
    return some (← networkSendProvideInfo T time)
  | .demandInfo time => do
    return some (← networkSendDemandInfo T time)
  | .routingInfo time => zoom Device.globalsLens do
    return some (← networkSendRoutingInfo T time)
  | .dataCheck currentHourNum currentMillis hours time => zoom Device.globalsLens do
    runDataCheck T currentHourNum currentMillis time hours
    return none
  | .requests time => zoom Device.globalsLens do
    dataRequestsProcess T time
    return none

/-- A device that has just been set up, with some interfaces. -/
def Device.start (platform : δ) (is : Heap Interface) : Device δ where
  globals := { zejfInit T platform with interfaces := is }
  providePtr := 0
  demandPtr := 0

/-- Lines come over live interfaces, and `network_send_packet` gets packets that it can
handle. -/
def PacketOp.Allowed (is : Heap Interface) : PacketOp → Prop
  | .accept _ interface _ => (is.cells interface).isSome
  | .send packet _ => (∀ a, packet.sourceInterface = some a → (is.cells a).isSome) ∧
    (packet.command = idRequest → packet.sourceInterface.isSome) ∧
    (packet.command = rip → packet.fromId ≠ T.deviceId → packet.sourceInterface.isSome)
  | _ => True

/-! ### The account -/

/-- The packets in the receive and in the transmit queue. -/
def Globals.contents (s : Globals δ) : List ℕ := (s.rxQueue.items ++ s.txQueue.items).map Prod.snd

/-- The packets that have been created and not destroyed are those in the two queues, and
every one of them is in one place of one queue. -/
structure Globals.Accounted (s : Globals δ) : Prop where
  disjoint : s.contents.Nodup
  live : ∀ a, (s.packets.cells a).isSome ↔ a ∈ s.contents

section Operations

variable {T} {I : ℕ → Bool} {es : List RoutingEntry} {rs : List Requested}
  {E : Fault → Prop} {s : Globals δ}

lemma Settles.accounted (hs : Settles T I (fun _ => False) s) : s.Accounted := by
  obtain ⟨es, rs, hs⟩ := hs
  obtain ⟨tx, rx, hn, hloose⟩ := hs.node
  have hqueues := hn.network.queues
  have hperm : s.contents.Perm ((tx ++ rx).map Queued.addr) := by
    unfold Globals.contents
    rw [hqueues.rxHolds.items_eq, hqueues.txHolds.items_eq, ← List.map_append, List.map_map]
    exact List.perm_append_comm.map _
  refine ⟨hperm.nodup_iff.mpr hqueues.distinct, ?_⟩
  intro a
  rw [hperm.mem_iff]
  constructor
  · intro hlive
    by_contra hout
    exact (hloose a).mp ⟨hlive, hout⟩
  · intro ha
    obtain ⟨q, hq, rfl⟩ := List.mem_map.mp ha
    rw [hqueues.live q hq]
    rfl

/-- What the network does to a node in order. -/
lemma netOp_settles (hT : T.Separate) (op : NetOp)
    (hop : ∀ s : Globals δ, (∀ a, (s.interfaces.cells a).isSome = I a) → op.Allowed T s) :
    Triple E (Settles T I (fun _ => False)) (op.run T) (fun _ => Settles T I (fun _ => False)) := by
  apply Triple.of_run
  rintro s ⟨es, rs, hs⟩
  obtain ⟨tx, rx, hn, hloose⟩ := hs.node
  obtain ⟨r, t, hrun, -, honward⟩ := NetOp.step hT.steady hn.inOrder (hop s hs.interfaces)
  have ht : Settled T I t.routes rs (fun _ => False) t := by
    refine hs.network honward.frame honward.inOrder ?_
    intro b
    rw [honward.loose b, hn.txPackets, hn.rxPackets]
    exact hloose b
  exact ⟨r, t, hrun, ht.settles⟩

lemma networkSendTx_settles (hT : T.Separate) (time : UInt32) :
    Triple E (Settles T I (fun _ => False)) (networkSendTx T time)
      (fun _ => Settles T I (fun _ => False)) := by
  apply Triple.of_map NetResult.exit
  exact netOp_settles hT (.transmit time) (fun _ _ => trivial)

lemma networkSendRoutingInfo_settled (hT : T.Separate) (time : UInt32) {L : ℕ → Prop} :
    Triple E (Settled T I es rs L) (networkSendRoutingInfo T time)
      (fun _ => Settled T I es rs L) := by
  apply Triple.of_run
  intro s hs
  obtain ⟨tx, rx, hn, hloose⟩ := hs.node
  obtain ⟨rv, ps, hrun, hps⟩ := networkSendRoutingInfo_run (T := T) hn.links time
  refine ⟨rv, _, hrun, hs.network ⟨rfl, rfl, rfl, rfl, rfl, fun _ => rfl⟩
    (hn.congr ?_ ⟨rfl, rfl, rfl, rfl, rfl, fun _ => rfl⟩ rfl rfl ?_ hn.ordinary) ?_⟩
  · exact hn.network.queues.congr rfl rfl rfl (fun q _ => hps q.addr)
  · exact floodLinks_links hT.steady _ _ _ _ _ _
  · intro b
    rw [← hloose b]
    unfold Globals.Loose
    rw [hps b]

section SendInfo

variable {α : Type} {infos : List α} {send : α → Run (Globals δ) ZejfErr}
  {ptr : Lens (Device δ) UInt16} {P : Globals δ → Prop}

lemma sendInfoFrom_triple (hsend : ∀ info, Triple E P (send info) (fun _ => P))
    (hset : ∀ i d, (ptr.set i d).globals = d.globals)
    (hget : ∀ s d, ptr.get (Device.globalsLens.set s d) = ptr.get d) (maxCount : ℕ) :
    Triple E (fun d => P d.globals ∧ (ptr.get d).toNat < infos.length)
      (sendInfoFrom infos send ptr maxCount) (fun _ d => P d.globals) := by
  induction maxCount with
  | zero => exact Triple.pure (fun _ hd => hd.1)
  | succ n ih =>
    rintro d ⟨hd, hlt⟩
    rw [sendInfoFrom, run_bind_ok (EStateM.run_get d), List.getElem?_eq_getElem hlt]
    have hzoom := Triple.zoom (l := Device.globalsLens) (F := fun d => (ptr.get d).toNat <
      infos.length) (hsend infos[(ptr.get d).toNat]) (fun s d hd => by rw [hget]; exact hd)
    refine Triple.bind hzoom ?_ d ⟨hd, hlt⟩
    intro rv
    refine Triple.guard (fun _ hd => hd.1) ?_
    intro _ d hd
    have hnext : (UInt16.ofNat (((ptr.get d).toNat + 1) % infos.length)).toNat <
        infos.length := by
      rw [UInt16.toNat_ofNat']
      exact Nat.lt_of_le_of_lt (Nat.mod_le _ _) (Nat.mod_lt _ (Nat.zero_lt_of_lt hd.2))
    rw [run_bind_ok (EStateM.run_get d), run_bind_ok (EStateM.run_modify _ _)]
    have hd' : P (ptr.set (UInt16.ofNat (((ptr.get d).toNat + 1) % infos.length)) d).globals := by
      rw [hset]
      exact hd.1
    refine Triple.ite (P := fun d' => d' = ptr.set (UInt16.ofNat
      (((ptr.get d).toNat + 1) % infos.length)) d) ?_ ?_ _ rfl
    · intro _
      exact Triple.pure (fun _ he => he ▸ hd')
    · intro _
      refine ih.conseq ?_ (fun _ _ hd => hd)
      rintro _ rfl
      exact ⟨hd', by rw [ptr.get_set]; exact hnext⟩

lemma sendInfo_triple (hsend : ∀ info, Triple E P (send info) (fun _ => P))
    (hset : ∀ i d, (ptr.set i d).globals = d.globals)
    (hget : ∀ s d, ptr.get (Device.globalsLens.set s d) = ptr.get d) :
    Triple E (fun d => P d.globals) (sendInfo infos send ptr) (fun _ d => P d.globals) := by
  have hloop : Triple E (fun d => P d.globals ∧ (ptr.get d).toNat < infos.length) (do
      let maxCount ← zoom Device.globalsLens (allocatePacketQueue priorityMedium)
      sendInfoFrom infos send ptr maxCount) (fun _ d => P d.globals) :=
    fun d hd => sendInfoFrom_triple hsend hset hget _ d hd
  refine Triple.guard (fun _ hd => hd) ?_
  intro hne d hd
  rw [run_bind_ok (EStateM.run_get d)]
  by_cases hlong : infos.length ≤ (ptr.get d).toNat
  · rw [if_pos hlong, run_bind_ok (EStateM.run_modify _ _)]
    refine hloop _ ⟨?_, ?_⟩
    · rw [hset]
      exact hd
    · rw [ptr.get_set]
      exact Nat.pos_of_ne_zero hne
  · rw [if_neg hlong]
    exact hloop d ⟨hd, Nat.lt_of_not_le hlong⟩

end SendInfo

/-- Code about the global variables, as an operation of a device. -/
lemma globals_triple {α : Type} {x : Run (Globals δ) α} {P Q : Globals δ → Prop}
    (h : Triple E P x (fun _ => Q)) : Triple E (fun d : Device δ => P d.globals)
      (zoom Device.globalsLens x) (fun _ d => Q d.globals) :=
  (Triple.zoom (l := Device.globalsLens) (F := fun _ => True) h (fun _ _ _ => trivial)).conseq
    (fun _ hd => ⟨hd, trivial⟩) (fun _ _ hd => hd.1)

lemma settles_triple {α : Type} {x : Run (Globals δ) α} {L : ℕ → Prop}
    (h : ∀ es rs, Triple E (Settled T I es rs L) x (fun _ => Settles T I L)) :
    Triple E (Settles T I L) x (fun _ => Settles T I L) := by
  rintro s ⟨es, rs, hs⟩
  exact h es rs s hs

/-- Every operation but the handling of a received packet returns and accounts for all
packets. -/
lemma PacketOp.settles (hT : T.Separate) {is : Heap Interface}
    (hI : I = fun a => (is.cells a).isSome) {op : PacketOp} (hop : op.Allowed T is)
    (hother : ∀ clock time, op ≠ .processPackets clock time) :
    Triple E (fun d : Device δ => Settles T I (fun _ => False) d.globals) (op.run T)
      (fun _ d => Settles T I (fun _ => False) d.globals) := by
  subst hI
  cases op with
  | accept msg interface time =>
    apply globals_triple
    apply Triple.map
    apply Triple.of_map NetResult.returned
    exact netOp_settles hT (.accept msg interface time) (fun s hs => (hs interface).trans hop)
  | send packet time =>
    apply globals_triple
    apply Triple.map
    apply Triple.of_map NetResult.returned
    exact netOp_settles hT (.send packet time)
      (fun s hs => ⟨fun a ha => (hs a).trans (hop.1 a ha), hop.2.1, hop.2.2⟩)
  | processPackets clock time => exact absurd rfl (hother clock time)
  | log target hourNumber sampleNumber value time announce =>
    apply globals_triple
    apply Triple.map
    apply settles_triple
    intro es rs
    exact settles_of (dataLog_settled hT target hourNumber sampleNumber value time announce)
  | provideInfo time =>
    apply Triple.map
    apply sendInfo_triple _ (fun _ _ => rfl) (fun _ _ => rfl)
    intro info
    apply settles_triple
    intro es rs
    exact settles_of (send_settled broadcast (by decide) (by decide) _ time)
  | demandInfo time =>
    apply Triple.map
    apply sendInfo_triple _ (fun _ _ => rfl) (fun _ _ => rfl)
    intro var
    apply settles_triple
    intro es rs
    exact settles_of (send_settled broadcast (by decide) (by decide) _ time)
  | routingInfo time =>
    apply globals_triple
    apply Triple.map
    apply settles_triple
    intro es rs
    exact settles_of (networkSendRoutingInfo_settled hT time)
  | dataCheck currentHourNum currentMillis hours time =>
    apply globals_triple
    apply Triple.map
    apply settles_triple
    intro es rs
    exact settles_of (runDataCheck_settled currentHourNum currentMillis time hT hours)
  | requests time =>
    apply globals_triple
    apply Triple.map
    apply settles_triple
    intro es rs
    exact (dataRequestsProcess_settled time hT).conseq (fun _ hs => hs)
      (fun _ _ ⟨rs', hs⟩ => hs.settles)

lemma processPackets_settles (hT : T.Separate) {d : Device δ}
    (hd : Settles T I (fun _ => False) d.globals) (clock : Clock) (time : UInt32) :
    (∃ d', (PacketOp.run T (.processPackets clock time)).run d = .ok none d' ∧
      Settles T I (fun _ => False) d'.globals) ∨
    ∃ q rest e d', d.globals.rxPackets = q :: rest ∧ Fatal d.globals.routes q.packet e ∧
      (PacketOp.run T (.processPackets clock time)).run d = .error e d' := by
  obtain ⟨es, rs, hs⟩ := hd
  obtain ⟨tx, rx, hn, -⟩ := hs.node
  rcases networkProcessRx_settled hT hs clock time with
    ⟨t, hrx, ht⟩ | ⟨q, rest, e, t, hrx, he, hrun⟩
  · have htx := networkSendTx_settles (E := fun _ => False) hT time t ht
    rcases htx with ⟨exit, u, htx, hu⟩ | ⟨e, u, -, he⟩
    · have hrun : (do
          networkProcessPackets T clock time
          return none : Run (Globals δ) (Option ZejfErr)).run d.globals = .ok none u := by
        rw [networkProcessPackets, bind_assoc, run_bind_ok hrx, bind_assoc, run_bind_ok htx]
        rfl
      exact Or.inl ⟨_, run_zoom_ok (l := Device.globalsLens) hrun, hu⟩
    · exact he.elim
  · have hfault : (do
        networkProcessPackets T clock time
        return none : Run (Globals δ) (Option ZejfErr)).run d.globals = .error e t := by
      rw [networkProcessPackets, bind_assoc, run_bind_error hrun]
    rw [hn.network.table.routes]
    exact Or.inr ⟨q, rest, e, _, hrx, he, run_zoom_error (l := Device.globalsLens) hfault⟩

/-- Every operation returns and accounts for all packets, unless the packet that it takes
from the receive queue is fatal. -/
lemma PacketOp.accounts (hT : T.Separate) {is : Heap Interface}
    (hI : I = fun a => (is.cells a).isSome) {op : PacketOp} (hop : op.Allowed T is) {d : Device δ}
    (hd : Settles T I (fun _ => False) d.globals) :
    (∃ r d', (op.run T).run d = .ok r d' ∧ Settles T I (fun _ => False) d'.globals) ∨
    ∃ clock time q rest e d', op = .processPackets clock time ∧
      d.globals.rxPackets = q :: rest ∧ Fatal d.globals.routes q.packet e ∧
      (op.run T).run d = .error e d' := by
  by_cases hprocess : ∃ clock time, op = .processPackets clock time
  · obtain ⟨clock, time, rfl⟩ := hprocess
    rcases processPackets_settles hT hd clock time with
      ⟨d', hrun, hd'⟩ | ⟨q, rest, e, d', hrx, he, hrun⟩
    · exact Or.inl ⟨none, d', hrun, hd'⟩
    · exact Or.inr ⟨clock, time, q, rest, e, d', rfl, hrx, he, hrun⟩
  · have htriple := PacketOp.settles (E := fun _ => False) hT hI hop
      (fun clock time he => hprocess ⟨clock, time, he⟩) d hd
    rcases htriple with hok | ⟨e, d', -, he⟩
    · exact Or.inl hok
    · exact he.elim

lemma start_settles (platform : δ) {is : Heap Interface}
    (hlinks : ∀ a ∈ T.getAllInterfaces platform, (is.cells a).isSome) :
    Settles T (fun a => (is.cells a).isSome) (fun _ => False)
      (Device.start T platform is).globals := by
  have hin := zejfInit_inOrder T platform is hlinks
  have hnew := zejfInit_requestsHold T platform
  refine ⟨_, [], ⟨_, _, hin, ?_⟩, ⟨[], .empty rfl⟩, ⟨hnew.holds, hnew.live, hnew.distinct⟩,
    fun _ => rfl⟩
  rintro b
  refine iff_of_false ?_ not_false
  rintro ⟨hlive, -⟩
  cases hlive

/-- **Packets are neither leaked nor destroyed twice.** After any operations the packets that
have been created and not destroyed are those in the two queues. The next operation returns,
except that the handling of a received packet may stop at a fault, which is never the use or
the destruction of a packet that is gone. -/
theorem packets_accounted (hT : T.Separate) {platform : δ} {is : Heap Interface}
    (hlinks : ∀ a ∈ T.getAllInterfaces platform, (is.cells a).isSome)
    {tr : List (PacketOp × Option ZejfErr)} {d : Device δ}
    (htrace : Trace (PacketOp.run T) (Device.start T platform is) tr d)
    (hallowed : ∀ x ∈ tr, x.1.Allowed T is) :
    d.globals.Accounted ∧ ∀ op : PacketOp, op.Allowed T is →
      (∃ r d', (op.run T).run d = .ok r d' ∧ d'.globals.Accounted) ∨
      ∃ clock time q rest e d', op = .processPackets clock time ∧
        d.globals.rxPackets = q :: rest ∧ Fatal d.globals.routes q.packet e ∧
        (op.run T).run d = .error e d' ∧ e ≠ .useAfterFree := by
  have hd : Settles T (fun a => (is.cells a).isSome) (fun _ => False) d.globals := by
    refine htrace.invariant (A := PacketOp.Allowed T is)
      (I := fun _ d => Settles T (fun a => (is.cells a).isSome) (fun _ => False) d.globals)
      hallowed (start_settles platform hlinks) ?_
    intro _ t op r u hop ht hrun
    rcases PacketOp.accounts hT rfl hop ht with
      ⟨r', u', hrun', hu⟩ | ⟨_, _, _, _, e, u', _, _, _, hfault⟩
    · obtain ⟨rfl, rfl⟩ := EStateM.Result.ok.inj (hrun.symm.trans hrun')
      exact hu
    · cases hrun.symm.trans hfault
  refine ⟨hd.accounted, ?_⟩
  intro op hop
  rcases PacketOp.accounts hT rfl hop hd with
    ⟨r, d', hrun, hd'⟩ | ⟨clock, time, q, rest, e, d', he, hrx, hfatal, hrun⟩
  · exact Or.inl ⟨r, d', hrun, hd'.accounted⟩
  · refine Or.inr ⟨clock, time, q, rest, e, d', he, hrx, hfatal, hrun, ?_⟩
    rintro rfl
    cases hfatal

end Operations

/-- A server with one link asks everybody for the time and hears of device 5. -/
def oneLink : Heap Interface := Heap.ofList [firstInterface]

def askForTime : PacketOp := .send (ownPacket bareServer broadcast timeRequestCommand none) 0

def hearOfFive : PacketOp := .accept announcementLine 0 0

def afterAsking : Device Unit :=
  leaves ((askForTime.run bareServer).run (Device.start bareServer () oneLink))

def afterHearing : Device Unit := leaves ((hearOfFive.run bareServer).run afterAsking)

/-- The announcement is gone, the question is still to be sent. -/
theorem afterHearing_accounted : Trace (PacketOp.run bareServer)
      (Device.start bareServer () oneLink)
      [(askForTime, some .ok), (hearOfFive, some .ok)] afterHearing ∧
    afterHearing.globals.contents = [0] ∧ afterHearing.globals.Accounted := by
  have hask : (askForTime.run bareServer).run (Device.start bareServer () oneLink) =
      .ok (some .ok) afterAsking := rfl
  have hhear : (hearOfFive.run bareServer).run afterAsking = .ok (some .ok) afterHearing := rfl
  have htrace := (Trace.nil.snoc hask).snoc hhear
  refine ⟨htrace, rfl, (packets_accounted ⟨bareServer_steady, fun _ _ => rfl, fun _ _ _ => rfl⟩
    (fun a ha => by cases ha) htrace ?_).1⟩
  intro x hx
  simp only [List.nil_append, List.cons_append, List.mem_cons, List.not_mem_nil, or_false] at hx
  rcases hx with rfl | rfl
  · refine ⟨?_, ?_, ?_⟩
    · intro a ha
      cases ha
    · intro h
      cases h
    · intro h
      cases h
  · rfl

end ZejfMeteo
