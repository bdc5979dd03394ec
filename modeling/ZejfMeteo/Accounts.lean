import ZejfMeteo.Reception
import ZejfMeteo.NetworkRuns
import ZejfMeteo.DataRuns
import ZejfMeteo.Lib.Triple

/-!
# Where the packets are

Whatever a node does, the packets that it has created and not destroyed are those in its two
queues and the ones it has in hand. `Settled` says so of a node in order, and every function
of the firmware has a triple about it.
-/

namespace ZejfMeteo
open Runs Format

variable {δ : Type} (T : Target δ)

/-- Neither sending nor storing changes what interfaces there are. -/
structure Target.Separate : Prop where
  steady : T.Steady
  load : ∀ n p, T.getAllInterfaces (T.hourLoad n p).2 = T.getAllInterfaces p
  save : ∀ n bytes p, T.getAllInterfaces (T.hourSave n bytes p).2 = T.getAllInterfaces p

/-- A node in order with the interfaces `I`, the routes `es` and the requests `rs`. The live
packets that are in no queue are those in `L`. -/
structure Settled (I : ℕ → Bool) (es : List RoutingEntry) (rs : List Requested) (L : ℕ → Prop)
    (s : Globals δ) : Prop where
  node : ∃ tx rx, NodeHolds T s tx rx es ∧ ∀ b, s.Loose tx rx b ↔ L b
  cache : ∃ xs, s.CacheHolds T xs
  requests : s.RequestsHold rs
  interfaces : ∀ a, (s.interfaces.cells a).isSome = I a

section Links

variable {T}

lemma keeps_datahourFetch (hT : T.Separate) (n : UInt32) (load create : Bool) :
    Keeps (fun s : Globals δ => T.getAllInterfaces s.platform) (datahourFetch T n load create) := by
  intro s
  rw [datahourFetch_run]
  show T.getAllInterfaces (afterLoad T n load s.platform) = _
  unfold afterLoad
  split
  · exact hT.load n s.platform
  · rfl

lemma keeps_hourAdd (hT : T.Separate) (hour : DataHour) :
    Keeps (fun s : Globals δ => T.getAllInterfaces s.platform) (hourAdd T hour) := by
  have hpush : Keeps (fun s : Globals δ => T.getAllInterfaces s.platform) (hourPush hour) := by
    apply keeps_bind (keeps_zoom (fun _ _ => rfl) _)
    intro pushed
    exact keeps_ite (keeps_pure _) (keeps_pure _)
  apply keeps_bind keeps_get
  intro s
  apply keeps_ite _ hpush
  apply keeps_bind (keeps_zoom (fun _ _ => rfl) _)
  intro old
  cases old with
  | none => exact keeps_pure _
  | some old =>
    refine keeps_bind ?_ (fun _ => hpush)
    intro s
    rw [datahourSave_run]
    exact hT.save _ _ _

/-- Looking an hour up leaves the links alone. -/
lemma keeps_datahourGet (hT : T.Separate) (n : UInt32) (load create : Bool) :
    Keeps (fun s : Globals δ => T.getAllInterfaces s.platform) (datahourGet T n load create) := by
  have hfind : ∀ fuel node, Keeps (fun s : Globals δ => T.getAllInterfaces s.platform)
      (hourFindFrom n fuel node) := by
    intro fuel
    induction fuel with
    | zero => exact fun _ => keeps_fault _
    | succ fuel ih =>
      intro node
      apply keeps_bind (keeps_zoom (fun _ _ => rfl) _)
      intro c
      apply keeps_ite
      · exact keeps_bind (keeps_zoom (fun _ _ => rfl) _) (fun _ => keeps_pure _)
      · apply keeps_bind keeps_get
        intro s
        exact keeps_ite (keeps_pure _) (ih _)
  apply keeps_bind
  · apply keeps_bind keeps_get
    intro s
    cases s.dataQueue.head with
    | none => exact keeps_pure _
    | some head => exact hfind _ _
  · intro found
    cases found with
    | some hour => exact keeps_pure _
    | none =>
      apply keeps_bind (keeps_datahourFetch hT n load create)
      intro fetched
      cases fetched with
      | none => exact keeps_pure _
      | some hour =>
        apply keeps_bind (keeps_hourAdd hT hour)
        intro rv
        exact keeps_ite (keeps_pure _) (keeps_bind keeps_get (fun _ => keeps_pure _))

lemma keeps_calculateDataCheck (hT : T.Separate) (info : VariableInfo) (hourNum logNum : UInt32) :
    Keeps (fun s : Globals δ => T.getAllInterfaces s.platform)
      (calculateDataCheck T info hourNum logNum) := by
  apply keeps_bind (keeps_datahourGet hT hourNum true false)
  intro hour
  cases hour with
  | none => exact keeps_pure _
  | some hour =>
    apply keeps_bind (keeps_bind (keeps_zoom (fun _ _ => rfl) _) (fun _ => keeps_pure _))
    intro h
    dsimp only
    cases getVariable h info.id with
    | none => exact keeps_pure _
    | some index =>
      dsimp only
      cases h.vars[index]? with
      | none => exact keeps_fault _
      | some var =>
        exact keeps_ite (keeps_pure _)
          (keeps_bind (keeps_zoom (fun _ _ => rfl) _) (fun _ => keeps_pure _))

end Links

section Settled

variable {T} {I : ℕ → Bool} {es es' : List RoutingEntry} {rs : List Requested} {L : ℕ → Prop}
  {s t : Globals δ} {E : Fault → Prop}

/-- The rest of the state does not matter to the network. -/
lemma NodeHolds.frame {tx rx : List Queued} (h : NodeHolds T s tx rx es)
    (htx : t.txQueue = s.txQueue) (hrx : t.rxQueue = s.rxQueue)
    (hnext : t.nextPacket = s.nextPacket) (hpackets : t.packets = s.packets)
    (htable : t.routingTable = s.routingTable) (htop : t.routingTableTop = s.routingTableTop)
    (hinterfaces : t.interfaces = s.interfaces)
    (hlinks : T.getAllInterfaces t.platform = T.getAllInterfaces s.platform) :
    NodeHolds T t tx rx es where
  network := ⟨h.network.queues.congr htx hrx hnext (fun q _ => congrArg (·.cells q.addr) hpackets),
    htable.trans h.network.table.slots, htop.trans h.network.table.top, h.network.table.bounded⟩
  routes e he := by
    have hold := interfaceAt_isSome_iff.mp (h.routes e he)
    rw [interfaceAt_isSome_iff, hinterfaces]
    exact hold
  links a ha := by
    rw [hlinks] at ha
    rw [hinterfaces]
    exact h.links a ha
  ordinary := h.ordinary

/-- Only the cache, the requests and the platform are different. -/
lemma Settled.data (hs : Settled T I es rs L s) {q : LinkedList DataHour} {p : δ}
    {xs : List (ℕ × DataHour)} (hlinks : T.getAllInterfaces p = T.getAllInterfaces s.platform)
    (hc : ({ s with dataQueue := q, platform := p } : Globals δ).CacheHolds T xs) :
    Settled T I es rs L { s with dataQueue := q, platform := p } where
  node := by
    obtain ⟨tx, rx, hn, hloose⟩ := hs.node
    exact ⟨tx, rx, hn.frame rfl rfl rfl rfl rfl rfl rfl hlinks, hloose⟩
  cache := ⟨xs, hc⟩
  requests := ⟨hs.requests.holds, hs.requests.live, hs.requests.distinct⟩
  interfaces := hs.interfaces

/-- Only the network's part of the state is different. -/
lemma Settled.network (hs : Settled T I es rs L s) {L' : ℕ → Prop} {tx rx : List Queued}
    (hframe : s.NetworkOnly t) (hn : NodeHolds T t tx rx es')
    (hloose : ∀ b, t.Loose tx rx b ↔ L' b) : Settled T I es' rs L' t where
  node := ⟨tx, rx, hn, hloose⟩
  cache := by
    obtain ⟨xs, hc⟩ := hs.cache
    exact ⟨xs, hc.congr hframe.dataQueue⟩
  requests := by
    have hr := hs.requests
    exact ⟨hframe.dataRequestsQueue ▸ hr.holds, hframe.requests ▸ hr.live, hr.distinct⟩
  interfaces a := (hframe.interfaces a).trans (hs.interfaces a)

/-- A packet that is in hand is live. -/
lemma Settled.live (hs : Settled T I es rs L s) {a : ℕ} (ha : L a) :
    (s.packets.cells a).isSome := by
  obtain ⟨tx, rx, -, hloose⟩ := hs.node
  exact ((hloose a).mpr ha).1

/-- A packet of the device's own is queued or destroyed. -/
lemma send_settled (toId : UInt16) {command : UInt8} (hid : command ≠ idRequest)
    (hrip : command ≠ rip) (msg : Option (List UInt8)) (time : UInt32) :
    Triple E (Settled T I es rs L) (do
      let packet ← networkPreparePacket T toId command msg
      networkSendPacket T packet time) (fun _ => Settled T I es rs L) := by
  apply Triple.of_run
  intro s hs
  obtain ⟨tx, rx, hn, hloose⟩ := hs.node
  obtain ⟨tq, ps, hrun, hcap, hq, -, hl⟩ :=
    send_own hn.network.queues hn.network.table toId hid hrip msg time
  have hframe : s.NetworkOnly { s with txQueue := tq, packets := ps } :=
    ⟨rfl, rfl, rfl, hcap, rfl, fun _ => rfl⟩
  refine ⟨_, _, hrun, hs.network hframe (hn.congr hq hframe rfl rfl rfl ?_)
    (fun b => (hl b).trans (hloose b))⟩
  intro r hr
  split at hr
  · simp only [List.mem_append, List.mem_singleton] at hr
    rcases hr with (hr | rfl) | hr
    · exact hn.ordinary r (List.mem_append_left _ hr)
    · exact ⟨hid, hrip⟩
    · exact hn.ordinary r (List.mem_append_right _ hr)
  · exact hn.ordinary r hr

lemma datahourGet_settled (hT : T.Separate) (n : UInt32) (load create : Bool) :
    Triple E (Settled T I es rs L) (datahourGet T n load create) (fun o s =>
      Settled T I es rs L s ∧
        ∀ a, o = some a → ∃ pre h post, s.CacheHolds T (pre ++ (a, h) :: post)) := by
  apply Triple.of_run
  intro s hs
  obtain ⟨xs, hc⟩ := hs.cache
  obtain ⟨o, q, p, ys, hrun, hc', hsome⟩ := datahourGet_cached hc n load create
  have hlinks := keeps_datahourGet hT n load create s
  rw [hrun] at hlinks
  refine ⟨o, _, hrun, hs.data hlinks hc', ?_⟩
  intro a ha
  obtain ⟨pre, h, post, rfl⟩ := hsome a ha
  exact ⟨pre, h, post, hc'⟩

lemma dataGetVal_settled (hT : T.Separate) (info : VariableInfo) (n k : UInt32)
    (load create : Bool) : Triple E (Settled T I es rs L) (dataGetVal T info n k load create)
      (fun _ => Settled T I es rs L) := by
  apply Triple.of_run
  intro s hs
  obtain ⟨xs, hc⟩ := hs.cache
  obtain ⟨o, q, p, zs, r, hget, hc', hrun⟩ := dataGetVal_cached hc info n k load create
  have hlinks := keeps_datahourGet hT n load create s
  rw [hget] at hlinks
  exact ⟨r, _, hrun, hs.data hlinks hc'⟩

lemma calculateDataCheck_settled (hT : T.Separate) (info : VariableInfo)
    (hourNum logNum : UInt32) : Triple E (Settled T I es rs L)
      (calculateDataCheck T info hourNum logNum) (fun _ => Settled T I es rs L) := by
  apply Triple.of_run
  intro s hs
  obtain ⟨xs, hc⟩ := hs.cache
  obtain ⟨ys, q, p, hrun, hc'⟩ := calculateDataCheck_local hc info hourNum logNum
  have hlinks := keeps_calculateDataCheck hT info hourNum logNum s
  rw [hrun] at hlinks
  exact ⟨_, _, hrun, hs.data hlinks hc'⟩

/-- A log only queues logs. -/
lemma dataLog_settled (hT : T.Separate) (target : VariableInfo) (n k : UInt32) (value : Sample)
    (time : UInt32) (announce : Bool) : Triple E (Settled T I es rs L)
      (dataLog T target n k value time announce) (fun _ => Settled T I es rs L) := by
  apply Triple.of_run
  intro s hs
  obtain ⟨xs, hc⟩ := hs.cache
  obtain ⟨tx, rx, hn, hloose⟩ := hs.node
  obtain ⟨o, q, p, zs, r, u, ys, sent, hget, hc', hrun, hlogged⟩ :=
    dataLog_cached hc hn.network target n k value time announce
  have hlinks := keeps_datahourGet hT n true true s
  rw [hget] at hlinks
  have hdata := hs.data hlinks hc'
  obtain ⟨q', tq, ps, hcap, rfl⟩ := hlogged.frame
  have hframe : ({ s with dataQueue := q, platform := p } : Globals δ).NetworkOnly
      { s with dataQueue := q, platform := p, txQueue := tq, packets := ps } :=
    ⟨rfl, rfl, rfl, hcap, rfl, fun _ => rfl⟩
  have hn' : NodeHolds T { s with dataQueue := q, platform := p, txQueue := tq, packets := ps }
      (tx ++ sent) rx es := by
    have hqueues := hlogged.network.queues
    have hn₁ := hn.frame (t := { s with dataQueue := q, platform := p }) rfl rfl rfl rfl rfl rfl
      rfl hlinks
    refine hn₁.congr ⟨hqueues.txHolds, hqueues.rxHolds, hqueues.live, hqueues.distinct,
      hqueues.next⟩ hframe rfl rfl rfl ?_
    intro r hr
    simp only [List.mem_append] at hr
    rcases hr with (hr | hr) | hr
    · exact hn.ordinary r (List.mem_append_left _ hr)
    · rw [hlogged.sent r hr]
      decide
    · exact hn.ordinary r (List.mem_append_right _ hr)
  have hnet := hdata.network hframe hn' (fun b => (hlogged.loose b).trans (hloose b))
  exact ⟨r, _, hrun, hnet.data rfl hlogged.cache⟩

lemma dataCheckSend_settled (hT : T.Separate) (toId : UInt16) (info : VariableInfo)
    (hourNum logNum time : UInt32) : Triple E (Settled T I es rs L)
      (dataCheckSend T toId info hourNum logNum time) (fun _ => Settled T I es rs L) := by
  apply Triple.bind (calculateDataCheck_settled hT info hourNum logNum)
  rintro ⟨rv, result⟩
  refine Triple.guard (fun _ hs => hs) ?_
  intro _
  refine Triple.guard (fun _ hs => hs) ?_
  intro _
  refine Triple.guard (fun _ hs => hs) ?_
  intro _
  exact send_settled toId (by decide) (by decide) _ time

lemma tableEntry_settled {xs ys : List RoutingEntry} {e : RoutingEntry}
    (hes : es = xs ++ e :: ys) : Triple E (Settled T I es rs L) (tableEntry xs.length)
      (fun e' s => e' = e ∧ Settled T I es rs L s) := by
  apply Triple.of_run
  intro s hs
  obtain ⟨tx, rx, hn, -⟩ := hs.node
  exact ⟨e, s, (hes ▸ hn.network.table).tableEntry_run, rfl, hs⟩

variable (currentHourNum currentMillis time : UInt32)

lemma checkVariable_settled (hT : T.Separate) (hourNum : UInt32) (deviceId : UInt16)
    (info : VariableInfo) : Triple E (Settled T I es rs L)
      (checkVariable T currentHourNum currentMillis time hourNum deviceId info)
      (fun _ => Settled T I es rs L) := by
  refine Triple.guard (fun _ hs => hs) ?_
  intro _
  refine Triple.guard (fun _ hs => hs) ?_
  intro _
  apply Triple.bind (dataCheckSend_settled hT deviceId info hourNum _ time)
  intro rv
  exact Triple.pure (fun _ hs => hs)

lemma checkEntries_settled (hT : T.Separate) (hourNum : UInt32) {xs ys : List RoutingEntry}
    (hes : es = xs ++ ys) : Triple E (Settled T I es rs L)
      (checkEntries T currentHourNum currentMillis time hourNum xs.length ys.length)
      (fun _ => Settled T I es rs L) := by
  induction ys generalizing xs with
  | nil => exact Triple.pure (fun _ hs => hs)
  | cons e ys ih =>
    have hnext : es = xs ++ [e] ++ ys := by simp [hes]
    have hlen : xs.length + 1 = (xs ++ [e]).length := by simp
    apply Triple.bind (tableEntry_settled hes)
    intro e'
    apply Triple.and_left
    rintro rfl
    apply Triple.bind (Triple.scan (fun info => checkVariable_settled currentHourNum currentMillis
      time hT hourNum e'.deviceId info) e'.provided)
    intro go
    apply Triple.ite
    · intro _
      rw [hlen]
      exact ih hnext
    · intro _
      exact Triple.pure (fun _ hs => hs)

/-- The table has as many entries as its counter says. -/
lemma top_settled {α : Type} {f : ℕ → Run (Globals δ) α} {Q : α → Globals δ → Prop}
    (h : Triple E (Settled T I es rs L) (f es.length) Q) : Triple E (Settled T I es rs L) (do
      f (← get).routingTableTop) Q := by
  intro s hs
  obtain ⟨tx, rx, hn, -⟩ := hs.node
  rw [run_bind_ok (EStateM.run_get s), hn.network.table.top]
  exact h s hs

lemma checkHours_settled (hT : T.Separate) {limit hourNum : UInt32} {fuel : ℕ}
    (hfuel : hourNum.toNat < limit.toNat + fuel) (hpos : 0 < fuel) :
    Triple E (Settled T I es rs L)
      (checkHours T currentHourNum currentMillis time limit fuel hourNum)
      (fun _ => Settled T I es rs L) := by
  induction fuel generalizing hourNum with
  | zero => exact absurd hpos (Nat.lt_irrefl 0)
  | succ fuel ih =>
    apply Triple.ite
    · intro hlt
      have hlt' := UInt32.lt_iff_toNat_lt.mp hlt
      have hprev : (hourNum - 1).toNat = hourNum.toNat - 1 :=
        UInt32.toNat_sub_of_le _ _ (UInt32.le_iff_toNat_le.mpr (by change 1 ≤ _; omega))
      have hes : es = [] ++ es := rfl
      apply top_settled (f := fun top => do
        if ← checkEntries T currentHourNum currentMillis time hourNum 0 top then
          checkHours T currentHourNum currentMillis time limit fuel (hourNum - 1)
        else
          return false)
      apply Triple.bind (checkEntries_settled currentHourNum currentMillis time hT hourNum hes)
      intro go
      apply Triple.ite
      · intro _
        apply ih
        · omega
        · omega
      · intro _
        exact Triple.pure (fun _ hs => hs)
    · intro _
      exact Triple.pure (fun _ hs => hs)

lemma runDataCheck_settled (hT : T.Separate) (hours : UInt32) :
    Triple E (Settled T I es rs L) (runDataCheck T currentHourNum currentMillis time hours)
      (fun _ => Settled T I es rs L) := by
  have hrun : ∀ h : UInt32, Triple E (Settled T I es rs L) (do
      let _ ← checkHours T currentHourNum currentMillis time (currentHourNum - h) (h.toNat + 1)
        currentHourNum) (fun _ => Settled T I es rs L) := by
    intro h
    refine Triple.bind (checkHours_settled currentHourNum currentMillis time hT ?_
      (Nat.succ_pos _)) (fun _ => Triple.pure (fun _ hs => hs))
    have hsub := UInt32.toNat_sub currentHourNum h
    have hh := h.toNat_lt
    have hc := currentHourNum.toNat_lt
    omega
  exact hrun _

lemma Settled.setRequests (hs : Settled T I es rs L s) {q : LinkedList ℕ} {hs' : Heap DataRequest}
    {qs : List Requested}
    (hr : ({ s with dataRequestsQueue := q, requests := hs' } : Globals δ).RequestsHold qs) :
    Settled T I es qs L { s with dataRequestsQueue := q, requests := hs' } where
  node := by
    obtain ⟨tx, rx, hn, hloose⟩ := hs.node
    exact ⟨tx, rx, hn.frame rfl rfl rfl rfl rfl rfl rfl rfl, hloose⟩
  cache := by
    obtain ⟨xs, hc⟩ := hs.cache
    exact ⟨xs, hc.congr rfl⟩
  requests := hr
  interfaces := hs.interfaces

lemma dataSendLog_settled (toId : UInt16) (info : VariableInfo) (hourNumber sampleNum : UInt32)
    (val : Sample) : Triple E (Settled T I es rs L)
      (dataSendLog T toId info hourNumber sampleNum val time) (fun _ => Settled T I es rs L) := by
  refine Triple.guard (fun _ hs => hs) ?_
  intro _
  exact send_settled toId (by decide) (by decide) _ time

/-- Every round drops the oldest request, sends a sample for it or counts an error. -/
lemma dataRequestsLoop_settled (hT : T.Separate) (remainingSlots requestCount : ℕ) :
    Triple E (Settled T I es rs L) (dataRequestsLoop T time remainingSlots requestCount)
      (fun _ s => ∃ rs', Settled T I es rs' L s) :=
  dataRequestsLoop_triple (I := fun rs s => Settled T I es rs L s) (fun _ _ hs => hs.requests)
    (fun _ _ _ _ _ hs hr _ _ => hs.setRequests hr)
    (fun _ _ _ _ _ _ hs hr _ => hs.setRequests hr)
    (fun _ _ => dataGetVal_settled hT _ _ _ _ _) (fun _ _ _ => dataSendLog_settled time _ _ _ _ _)
    remainingSlots requestCount

lemma dataRequestsProcess_settled (hT : T.Separate) :
    Triple E (Settled T I es rs L) (dataRequestsProcess T time)
      (fun _ s => ∃ rs', Settled T I es rs' L s) := by
  intro s hs
  rw [dataRequestsProcess]
  exact dataRequestsLoop_settled time hT _ 1 s hs

end Settled

end ZejfMeteo
