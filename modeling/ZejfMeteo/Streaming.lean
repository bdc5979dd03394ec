import ZejfMeteo.Messages
import ZejfMeteo.NetworkRuns

/-!
# Answers to requests

`data_requests_process` works on the oldest request sample by sample, over many calls, while
everything else goes on. Its rounds are written down as they happen, and what has been sent for
a request is read off the rounds of a whole run.
-/

namespace ZejfMeteo
open Runs Format

variable {δ : Type} (T : Target δ)

/-! ### Rounds -/

/-- A round on a request that is not finished, with the request and the state as they are then:
the sample that is read, if there is one, and what comes of reading or sending it. -/
structure Round (δ : Type) where
  addr : ℕ
  request : DataRequest
  moment : Globals δ
  val : Option Sample
  rv : ZejfErr
  success : Bool

def answerRound (time : UInt32) (addr : ℕ) (request : DataRequest) :
    Run (Globals δ) (Round δ) := do
  let moment ← get
  let (rv, val) ← dataGetVal T request.info request.hourNumber request.currentLog true false
  if rv ≠ .ok then
    return ⟨addr, request, moment, val, rv, false⟩
  match val with
  | none => return ⟨addr, request, moment, none, rv, false⟩
  | some val =>
    let rv ← dataSendLog T request.targetDevice request.info request.hourNumber
      request.currentLog val time
    return ⟨addr, request, moment, some val, rv, rv == .ok⟩

/-- `dataRequestsLoop` with its rounds. -/
def roundsLoop (time : UInt32) : ℕ → ℕ → Run (Globals δ) (List (Round δ))
  | 0, _ => return []
  | remainingSlots + 1, requestCount => do
    let s ← get
    if listIsEmpty s.dataRequestsQueue then
      return []
    match listPeek s.dataRequestsQueue with
    | none => throw .nullPointer
    | some node =>
      let c ← zoom Globals.requestsQueueLens (LinkedList.node node)
      let request ← readRequest c.item
      if requestFinished request ∨ 50 < request.errors then
        match ← zoom Globals.requestsQueueLens listPop with
        | none => pure ()
        | some popped => dataRequestDestroy popped
        if requestCount + 1 = 3 then
          return []
        roundsLoop time remainingSlots (requestCount + 1)
      else
        let round ← answerRound T time c.item request
        if round.success then
          updateRequest c.item (fun r => { r with currentLog := r.currentLog + 1 })
          return round :: (← roundsLoop time remainingSlots requestCount)
        else
          updateRequest c.item (fun r => { r with errors := r.errors + 1 })
          return [round]

/-- `data_requests_process`, with the slots that it may use and its rounds. -/
def requestRounds (time : UInt32) : Run (Globals δ) (ℕ × List (Round δ)) := do
  let remainingSlots ← allocatePacketQueue priorityHigh
  let rounds ← roundsLoop T time remainingSlots 1
  return (remainingSlots, rounds)

/-- A round reads a sample and sends it. -/
lemma answerRound_then {α : Type} (time : UInt32) (addr : ℕ) (request : DataRequest)
    {f : Round δ → Run (Globals δ) α} {g : Bool → Run (Globals δ) Unit}
    (h : ∀ round, Does (f round) (g round.success)) :
    Does (answerRound T time addr request >>= f) (do
      let (rv, val) ← dataGetVal T request.info request.hourNumber request.currentLog true false
      let success ← match rv, val with
        | .ok, some val => do
          let rv ← dataSendLog T request.targetDevice request.info request.hourNumber
            request.currentLog val time
          pure (rv == .ok)
        | _, _ => pure false
      g success) := by
  rw [answerRound, bind_assoc]
  apply Does.look
  intro moment
  rw [bind_assoc]
  apply Does.bind
  rintro ⟨rv, val⟩
  dsimp only
  by_cases hrv : rv = .ok
  · subst hrv
    rw [if_neg (by simp)]
    cases val with
    | none =>
      rw [pure_bind]
      exact h _
    | some val =>
      rw [bind_assoc]
      apply Does.bind
      intro rv
      rw [pure_bind]
      exact h _
  · rw [if_pos hrv]
    split
    · exact absurd rfl hrv
    · rw [pure_bind]
      exact h _

lemma roundsLoop_does (time : UInt32) (remainingSlots requestCount : ℕ) :
    Does (roundsLoop T time remainingSlots requestCount)
      (dataRequestsLoop T time remainingSlots requestCount) := by
  induction remainingSlots generalizing requestCount with
  | zero => exact Does.pure []
  | succ n ih =>
    rw [roundsLoop, dataRequestsLoop]
    apply Does.bind
    intro s
    apply Does.ite
    · exact Does.pure []
    cases listPeek s.dataRequestsQueue with
    | none => exact Does.fault _
    | some node =>
      apply Does.bind
      intro c
      apply Does.bind
      intro request
      apply Does.ite
      · apply Does.bind
        intro popped
        have hrest : Does (if requestCount + 1 = 3 then return [] else
            roundsLoop T time n (requestCount + 1)) (if requestCount + 1 = 3 then return else
              dataRequestsLoop T time n (requestCount + 1)) :=
          Does.ite (Does.pure []) (ih _)
        cases popped with
        | none => exact hrest
        | some a => exact Does.bind (fun _ => hrest)
      · refine answerRound_then T time c.item request (fun round => Does.ite ?_ ?_)
        · exact Does.bind (fun _ => Does.map _ (ih _))
        · exact Does.last _ _

/-- Writing the rounds down changes nothing. -/
theorem requestRounds_does (time : UInt32) :
    Does (requestRounds T time) (dataRequestsProcess T time) := by
  rw [requestRounds, dataRequestsProcess]
  apply Does.bind
  intro remainingSlots
  exact Does.map _ (roundsLoop_does T time remainingSlots 1)

namespace Round

variable (x : Round δ)

/-- The sample that the request asks for, as it is stored at that moment. -/
def stored : Option Sample :=
  (localHour T x.moment.cached x.moment.platform x.request.hourNumber).bind
    (·.sample x.request.info.id x.request.currentLog)

/-- The device that asks can be reached at that moment. -/
def Routable : Prop :=
  x.request.targetDevice ≠ T.deviceId ∧
    (x.request.targetDevice = broadcast ∨
      ∃ e ∈ x.moment.routes, e.deviceId = x.request.targetDevice)

/-- The log with a sample. -/
def log (time : UInt32) (val : Sample) : Packet :=
  sentPacket T x.request.targetDevice dataLogCommand (snprintf T.packetMaxLength
    (numbersMessage x.request.info x.request.hourNumber x.request.currentLog
      (.str (T.printValue val)))) time

/-- The logs that a round queues. -/
def logs (time : UInt32) : List Packet :=
  if x.success then (x.val.map (x.log T time)).toList else []

/-- A sample is sent if there is one and the device can be reached. The queue is never full. -/
structure Sound : Prop where
  success_iff : x.success = true ↔ (x.stored T).isSome ∧ x.Routable T
  val_eq : x.success = true → x.val = x.stored T
  rv_ne : x.rv ≠ .queueFull

end Round

/-- What some slots are used for, from the oldest request on. -/
inductive Answered : ℕ → List Requested → List (Round δ) → List Requested → Prop
  | full (rs : List Requested) : Answered 0 rs [] rs
  | idle (n : ℕ) : Answered n [] [] []
  | dropped {n : ℕ} {r : Requested} {rs rs' : List Requested} {rounds : List (Round δ)}
    (done : requestFinished r.request ∨ 50 < r.request.errors) (rest : Answered n rs rounds rs') :
    Answered (n + 1) (r :: rs) rounds rs'
  | enough {n : ℕ} {r : Requested} {rs : List Requested}
    (done : requestFinished r.request ∨ 50 < r.request.errors) : Answered (n + 1) (r :: rs) [] rs
  | sent {n : ℕ} {r : Requested} {rs rs' : List Requested} {x : Round δ} {rounds : List (Round δ)}
    (undone : ¬(requestFinished r.request ∨ 50 < r.request.errors)) (addr : x.addr = r.addr)
    (request : x.request = r.request) (sound : x.Sound T) (success : x.success = true)
    (rest : Answered n ({ r with request := { r.request with
      currentLog := r.request.currentLog + 1 } } :: rs) rounds rs') :
    Answered (n + 1) (r :: rs) (x :: rounds) rs'
  | failed {n : ℕ} {r : Requested} {rs : List Requested} {x : Round δ}
    (undone : ¬(requestFinished r.request ∨ 50 < r.request.errors)) (addr : x.addr = r.addr)
    (request : x.request = r.request) (sound : x.Sound T) (success : x.success = false) :
    Answered (n + 1) (r :: rs) [x] ({ r with request := { r.request with
      errors := r.request.errors + 1 } } :: rs)

/-- What the rounds of a call leave behind. -/
structure Globals.Served (s : Globals δ) (time : UInt32) (n : ℕ) (rs : List Requested)
    (tx rx : List Queued) (es : List RoutingEntry) (rounds : List (Round δ)) (u : Globals δ)
    (rs' : List Requested) (sent : List Queued) : Prop where
  answered : Answered T n rs rounds rs'
  cache : ∃ ys, u.CacheHolds T ys
  network : NetworkHolds T u (tx ++ sent) rx es
  requests : u.RequestsHold rs'
  next : u.requests.next = s.requests.next
  logs : sent.map Queued.packet = rounds.flatMap (·.logs T time)

section Rounds

variable {T} {s : Globals δ} {xs : List (ℕ × DataHour)} {tx rx : List Queued}
  {es : List RoutingEntry} {rs : List Requested} {toId : UInt16}

lemma sendResult_eq_ok_iff : sendResult T es false toId = .ok ↔
    toId ≠ T.deviceId ∧ (toId = broadcast ∨ ∃ e ∈ es, e.deviceId = toId) := by
  have hfind : es.findIdx? (fun e => e.deviceId == toId) = none ↔
      ¬∃ e ∈ es, e.deviceId = toId := by
    rw [List.findIdx?_eq_none_iff]
    simp
  simp only [sendResult, ne_eq, hfind, Bool.false_eq_true, if_false]
  split_ifs
  · simp_all
  · simp_all
  · simp only [true_iff]
    tauto

lemma sendResult_ne_queueFull : sendResult T es false toId ≠ .queueFull := by
  simp only [sendResult, Bool.false_eq_true, if_false]
  split_ifs
  · decide
  · decide
  · decide

lemma read_ne_queueFull (o : Option DataHour) (id : UInt16) (k : UInt32) :
    (o.elim (.null, none) (·.read id k)).1 ≠ .queueFull := by
  cases o with
  | none => exact (by decide : ZejfErr.null ≠ .queueFull)
  | some h =>
    rw [Option.elim_some, DataHour.read]
    split
    · exact (by decide : ZejfErr.null ≠ .queueFull)
    split
    · exact (by decide : ZejfErr.logNumber ≠ .queueFull)
    · exact (by decide : ZejfErr.ok ≠ .queueFull)

/-- A round queues at most one log. -/
lemma answerRound_run (hc : s.CacheHolds T xs) (hn : NetworkHolds T s tx rx es)
    (hroom : tx.length < s.txQueue.capacity) (time : UInt32) (addr : ℕ) (request : DataRequest) :
    ∃ x q p tq ps ys sent, (answerRound T time addr request).run s =
        .ok x { s with dataQueue := q, platform := p, txQueue := tq, packets := ps } ∧
      x.addr = addr ∧ x.request = request ∧ x.Sound T ∧
      ({ s with dataQueue := q, platform := p, txQueue := tq, packets := ps } :
        Globals δ).CacheHolds T ys ∧
      NetworkHolds T { s with dataQueue := q, platform := p, txQueue := tq, packets := ps }
        (tx ++ sent) rx es ∧
      tq.capacity = s.txQueue.capacity ∧ sent.map Queued.packet = x.logs T time := by
  obtain ⟨q, p, ys, hget, hc'⟩ := dataGetVal_local hc request.info request.hourNumber
    request.currentLog
  have hn' := hn.data q p
  have hfull : listIsFull s.txQueue = false := by
    rw [hn.queues.txHolds.isFull, List.length_map]
    exact decide_eq_false (Nat.ne_of_lt hroom)
  have hread : ∀ val, (localHour T xs s.platform request.hourNumber).elim (.null, none)
      (·.read request.info.id request.currentLog) = (.ok, val) ↔ ∃ w, val = some w ∧
        (localHour T xs s.platform request.hourNumber).bind
          (·.sample request.info.id request.currentLog) = some w :=
    fun _ => read_local_iff
  have hrv := read_ne_queueFull (localHour T xs s.platform request.hourNumber) request.info.id
    request.currentLog
  have hstored : ∀ val rv success, (Round.mk addr request s val rv success).stored T =
      (localHour T xs s.platform request.hourNumber).bind
        (·.sample request.info.id request.currentLog) := by
    intro val rv success
    rw [Round.stored, hc.cached_eq]
  have hroutable : ∀ val rv success, (Round.mk addr request s val rv success).Routable T ↔
      sendResult T es false request.targetDevice = .ok := by
    intro val rv success
    rw [sendResult_eq_ok_iff, Round.Routable, hn.table.routes]
  rw [answerRound, run_bind_ok (EStateM.run_get s), run_bind_ok hget]
  generalize (localHour T xs s.platform request.hourNumber).elim (ZejfErr.null, none)
    (·.read request.info.id request.currentLog) = found at hread hrv
  obtain ⟨rv, val⟩ := found
  dsimp only at hread hrv ⊢
  by_cases hok : rv ≠ .ok
  · rw [if_pos hok]
    refine ⟨_, q, p, s.txQueue, s.packets, ys, [], rfl, rfl, rfl, ⟨?_, ?_, hrv⟩, hc', ?_, rfl, rfl⟩
    · rw [hstored]
      refine iff_of_false (by simp) ?_
      rintro ⟨hsome, -⟩
      obtain ⟨w, hw⟩ := Option.isSome_iff_exists.mp hsome
      exact hok (Prod.mk.inj ((hread (some w)).mpr ⟨w, rfl, hw⟩)).1
    · simp
    · rw [List.append_nil]
      exact hn'
  rw [if_neg hok]
  obtain rfl := not_not.mp hok
  cases val with
  | none =>
    obtain ⟨w, hw, -⟩ := (hread none).mp rfl
    cases hw
  | some val =>
    obtain ⟨w, hw, hsample⟩ := (hread (some val)).mp rfl
    obtain rfl := Option.some.inj hw
    obtain ⟨tq, ps, hsend, hcap, hq, -⟩ := dataSendLog_run (T := T) hn'.queues hn'.table
      request.targetDevice request.info request.hourNumber request.currentLog val time
    rw [hfull] at hsend hq
    have htable : ({ s with dataQueue := q, platform := p, txQueue := tq, packets := ps } :
        Globals δ).TableHolds T.routingTableSize es := hn.table.congr rfl rfl
    have hsound : (Round.mk addr request s (some val)
        (sendResult T es false request.targetDevice)
        (sendResult T es false request.targetDevice == ZejfErr.ok)).Sound T := by
      refine ⟨?_, ?_, sendResult_ne_queueFull⟩
      · rw [hstored, hroutable, hsample]
        simp
      · intro _
        rw [hstored, hsample]
    rw [run_bind_ok hsend]
    by_cases hok : sendResult T es false request.targetDevice = .ok
    · rw [if_pos hok] at hq
      refine ⟨_, q, p, tq, ps, ys, _, rfl, rfl, rfl, hsound, hc'.congr rfl,
        ⟨hq, htable⟩, hcap, ?_⟩
      simp only [Round.logs, hok]
      rfl
    · rw [if_neg hok] at hq
      refine ⟨_, q, p, tq, ps, ys, [], rfl, rfl, rfl, hsound, hc'.congr rfl,
        ⟨?_, htable⟩, hcap, ?_⟩
      · rw [List.append_nil]
        exact hq
      · simp [Round.logs, hok]

lemma Round.length_logs (x : Round δ) (time : UInt32) : (x.logs T time).length ≤ 1 := by
  unfold Round.logs
  split
  · exact Option.length_toList_le
  · simp

lemma Globals.Served.same (hc : s.CacheHolds T xs) (hn : NetworkHolds T s tx rx es)
    (hr : s.RequestsHold rs) {time : UInt32} {n : ℕ} (h : Answered T n rs [] rs) :
    s.Served T time n rs tx rx es [] s rs [] where
  answered := h
  cache := ⟨xs, hc⟩
  network := by
    rw [List.append_nil]
    exact hn
  requests := hr
  next := rfl
  logs := rfl

/-- Every slot drops the oldest request, sends a sample for it or counts an error. -/
lemma roundsLoop_run (hc : s.CacheHolds T xs) (hn : NetworkHolds T s tx rx es)
    (hr : s.RequestsHold rs) (time : UInt32) {n : ℕ} (hroom : tx.length + n ≤ s.txQueue.capacity)
    (requestCount : ℕ) : ∃ rounds u rs' sent,
      (roundsLoop T time n requestCount).run s = .ok rounds u ∧
      s.Served T time n rs tx rx es rounds u rs' sent := by
  induction n generalizing s xs tx rs requestCount with
  | zero => exact ⟨[], s, rs, [], rfl, .same hc hn hr (.full rs)⟩
  | succ n ih =>
    rw [roundsLoop, run_bind_ok (EStateM.run_get s)]
    cases rs with
    | nil =>
      rw [if_pos hr.empty]
      exact ⟨[], s, [], [], rfl, .same hc hn hr (.idle _)⟩
    | cons r rs =>
      obtain ⟨hempty, hpeek, c, hnode, hitem, hread⟩ := hr.head_run
      rw [if_neg (by simp [hempty]), hpeek]
      dsimp only
      rw [run_bind_ok hnode, hitem, run_bind_ok hread]
      by_cases hdone : requestFinished r.request ∨ 50 < r.request.errors
      · rw [if_pos hdone]
        obtain ⟨q, hs', hpopped, hfree, hr', -, hheap⟩ := hr.pop_run
        have hnext : hs'.next = s.requests.next := (congrArg Heap.next hheap).trans rfl
        rw [run_bind_ok hpopped]
        dsimp only
        rw [run_bind_ok hfree]
        have hc' : ({ s with dataRequestsQueue := q, requests := hs' } : Globals δ).CacheHolds T xs :=
          hc.congr rfl
        have hn' := hn.setRequests q hs'
        by_cases hthird : requestCount + 1 = 3
        · rw [if_pos hthird]
          refine ⟨[], _, rs, [], rfl, .enough hdone, ⟨xs, hc'⟩, ?_, hr', hnext, rfl⟩
          rw [List.append_nil]
          exact hn'
        · rw [if_neg hthird]
          have hroom' : tx.length + n ≤ s.txQueue.capacity := by omega
          obtain ⟨rounds, u, rs', sent, hrun, hserved⟩ := ih hc' hn' hr' hroom' (requestCount + 1)
          exact ⟨rounds, u, rs', sent, hrun, .dropped hdone hserved.answered, hserved.cache,
            hserved.network, hserved.requests, hserved.next.trans hnext, hserved.logs⟩
      · rw [if_neg hdone]
        obtain ⟨x, q, p, tq, ps, ys, sent, hround, haddr, hrequest, hsound, hc', hn', hcap, hlogs⟩ :=
          answerRound_run hc hn (by omega) time r.addr r.request
        have hr' : ({ s with dataQueue := q, platform := p, txQueue := tq, packets := ps } :
            Globals δ).RequestsHold (r :: rs) := hr.congr rfl rfl
        rw [run_bind_ok hround]
        cases hsuccess : x.success with
        | false =>
          obtain ⟨hs', hupdate, hr'', hheap⟩ :=
            hr'.update_run (fun r => { r with errors := r.errors + 1 })
          have hnext : hs'.next = s.requests.next := (congrArg Heap.next hheap).trans rfl
          rw [if_neg (by simp), run_bind_ok hupdate]
          refine ⟨[x], _, _, sent, rfl, .failed hdone haddr hrequest hsound hsuccess,
            ⟨ys, hc'.congr rfl⟩, hn'.setRequests _ hs', hr'', hnext, ?_⟩
          simpa using hlogs
        | true =>
          obtain ⟨hs', hupdate, hr'', hheap⟩ :=
            hr'.update_run (fun r => { r with currentLog := r.currentLog + 1 })
          have hnext : hs'.next = s.requests.next := (congrArg Heap.next hheap).trans rfl
          have hsent : sent.length ≤ 1 := by
            rw [← List.length_map Queued.packet, hlogs]
            exact x.length_logs time
          have hroom' : (tx ++ sent).length + n ≤ tq.capacity := by
            rw [List.length_append, hcap]
            omega
          have hc'' : ({ s with
              dataQueue := q, platform := p, txQueue := tq, packets := ps, requests := hs' } :
              Globals δ).CacheHolds T ys := hc'.congr rfl
          have hn'' := hn'.setRequests s.dataRequestsQueue hs'
          obtain ⟨rounds, u, rs', sent', hrun, hserved⟩ :=
            ih hc'' hn'' hr'' hroom' requestCount
          rw [if_pos rfl, run_bind_ok hupdate, run_bind_ok hrun]
          refine ⟨x :: rounds, u, rs', sent ++ sent', rfl,
            .sent hdone haddr hrequest hsound hsuccess hserved.answered, hserved.cache, ?_,
            hserved.requests, hserved.next.trans hnext, ?_⟩
          · rw [← List.append_assoc]
            exact hserved.network
          · rw [List.map_append, hlogs, hserved.logs, List.flatMap_cons]

end Rounds

/-! ### Operations -/

/-- Calls that work on the requests, and anything else that happens between them. -/
inductive RequestOp (δ : Type)
  | process (time : UInt32)
  | add (toId : UInt16) (info : VariableInfo) (hourNumber startLog endLog : UInt32)
  | receiveRequest (packet : Packet)
  | receiveCheck (packet : Packet)
  | other (u : Globals δ)

inductive RequestResult (δ : Type)
  | answered (remainingSlots : ℕ) (rounds : List (Round δ))
  | accepted (request : Option (ℕ × DataRequest))
  | done

/-- Returns the request that a call has queued, if it has queued one. -/
def accepting (x : Run (Globals δ) ZejfErr) : Run (Globals δ) (RequestResult δ) := do
  let s ← get
  let _ ← x
  let t ← get
  if s.dataRequestsQueue.itemCount < t.dataRequestsQueue.itemCount then
    return .accepted ((t.requests.cells s.requests.next).map (fun r => (s.requests.next, r)))
  return .accepted none

namespace RequestOp

def run : RequestOp δ → Run (Globals δ) (RequestResult δ)
  | .process time => do
    let (remainingSlots, rounds) ← requestRounds T time
    return .answered remainingSlots rounds
  | .add toId info hourNumber startLog endLog =>
    accepting (dataRequestAdd toId info hourNumber startLog endLog)
  | .receiveRequest packet => accepting (inHand packet dataRequestReceive)
  | .receiveCheck packet => accepting (inHand packet (dataCheckReceive T))
  | .other u => do
    set u
    return .done

/-- The request that is asked for. -/
def asks : RequestOp δ → Option DataRequest
  | .process _ => none
  | .add toId info hourNumber startLog endLog =>
    some (newRequest toId info hourNumber startLog endLog)
  | .receiveRequest packet => (packet.message.bind numberFields).map
    (fun f => newRequest packet.fromId f.info f.hourNum f.first f.second)
  | .receiveCheck packet => (packet.message.bind numberFields).map
    (fun f => newRequest packet.fromId f.info f.hourNum 0 f.first)
  | .other _ => none

end RequestOp

/-- The cache, the transmit queue and the table may change, but not the requests. -/
structure Undisturbed (t u : Globals δ) : Prop where
  queue : u.dataRequestsQueue = t.dataRequestsQueue
  requests : u.requests = t.requests
  cache : ∃ xs, u.CacheHolds T xs
  network : ∃ tx rx es, NetworkHolds T u tx rx es

def RequestOp.Allowed (t : Globals δ) : RequestOp δ → Prop
  | .other u => Undisturbed T t u
  | _ => True

/-- The cache, the queues and the table are in order, and these requests wait. -/
structure Globals.Serving (s : Globals δ) (rs : List Requested) : Prop where
  cache : ∃ xs, s.CacheHolds T xs
  network : ∃ tx rx es, NetworkHolds T s tx rx es
  requests : s.RequestsHold rs

/-- What becomes of the waiting requests in a call that may queue the one it is asked for. -/
inductive Accepts (s : Globals δ) (rs : List Requested) (asked : Option DataRequest)
    (u : Globals δ) : Option (ℕ × DataRequest) → List Requested → Prop
  | kept (requests : u.RequestsHold rs) (next : s.requests.next ≤ u.requests.next) :
    Accepts s rs asked u none rs
  | added (node : ℕ) (request : DataRequest) (asks : asked = some request)
    (requests : u.RequestsHold (rs ++ [⟨node, s.requests.next, request⟩]))
    (next : s.requests.next < u.requests.next) : Accepts s rs asked u
      (some (s.requests.next, request)) (rs ++ [⟨node, s.requests.next, request⟩])

section Operations

variable {T} {s t u v : Globals δ} {rs qs : List Requested} {asked : Option DataRequest}
  {x : Run (Globals δ) ZejfErr} {o : RequestResult δ} {packet : Packet} {rv : ZejfErr}

lemma Accepts.congr {accepted : Option (ℕ × DataRequest)} (h : Accepts s rs asked u accepted qs)
    (hs : t.requests = s.requests) (hq : v.dataRequestsQueue = u.dataRequestsQueue)
    (hr : v.requests = u.requests) : Accepts t rs asked v accepted qs := by
  cases h with
  | kept requests next =>
    refine .kept (requests.congr hq hr) ?_
    rw [hs, hr]
    exact next
  | added node request asks requests next =>
    rw [← hs] at requests next ⊢
    refine .added node request asks (requests.congr hq hr) ?_
    rw [hr]
    exact next

lemma accepting_run (hs : s.RequestsHold rs) (hrun : (accepting x).run s = .ok o u) :
    ∃ rv, x.run s = .ok rv u ∧ ∀ asked accepted qs, Accepts s rs asked u accepted qs →
      o = .accepted accepted := by
  rw [accepting, run_bind_ok (EStateM.run_get s)] at hrun
  obtain ⟨rv, t, hcall, hrun⟩ := run_bind_inv hrun
  rw [run_bind_ok (EStateM.run_get t)] at hrun
  have hut : u = t := by
    split at hrun
    · exact (EStateM.Result.ok.inj hrun).2.symm
    · exact (EStateM.Result.ok.inj hrun).2.symm
  subst hut
  refine ⟨rv, hcall, ?_⟩
  intro asked accepted qs haccepts
  cases haccepts with
  | kept requests next =>
    have hcount : ¬s.dataRequestsQueue.itemCount < u.dataRequestsQueue.itemCount := by
      rw [hs.holds.count, requests.holds.count]
      exact Nat.lt_irrefl _
    rw [if_neg hcount] at hrun
    exact (EStateM.Result.ok.inj hrun).1.symm
  | added node request asks requests next =>
    have hcount : s.dataRequestsQueue.itemCount < u.dataRequestsQueue.itemCount := by
      rw [hs.holds.count, requests.holds.count]
      simp
    have hlive := requests.live ⟨node, s.requests.next, request⟩ (by simp)
    rw [if_pos hcount, hlive] at hrun
    exact (EStateM.Result.ok.inj hrun).1.symm

lemma Accepts.requests {accepted : Option (ℕ × DataRequest)}
    (h : Accepts s rs asked u accepted qs) : u.RequestsHold qs := by
  cases h with
  | kept requests next => exact requests
  | added node request asks requests next => exact requests

lemma Accepts.asks {accepted : Option (ℕ × DataRequest)} (h : Accepts s rs asked u accepted qs)
    (a : ℕ) (request : DataRequest) (ha : accepted = some (a, request)) : asked = some request := by
  cases h with
  | kept requests next => cases ha
  | added node request asks requests next =>
    obtain ⟨-, rfl⟩ := Prod.mk.inj (Option.some.inj ha)
    exact asks

/-- The request that a call of `data_request_add` is for may be queued. -/
lemma dataRequestAdd_accepts (hs : s.RequestsHold rs) {toId : UInt16} {info : VariableInfo}
    {hourNumber startLog endLog : UInt32}
    (hrun : (dataRequestAdd toId info hourNumber startLog endLog).run s = .ok rv u) :
    ∃ q hs accepted qs, u = { s with dataRequestsQueue := q, requests := hs } ∧
      Accepts s rs (some (newRequest toId info hourNumber startLog endLog)) u accepted qs := by
  obtain ⟨rv', q, hs', qs, hadd, hqs, -, hheap, hcase⟩ :=
    dataRequestAdd_run hs toId info hourNumber startLog endLog
  have hnext : s.requests.next ≤ hs'.next := by
    rw [hheap]
    split
    · exact Nat.le_refl _
    · exact Nat.le_succ _
  obtain ⟨-, rfl⟩ := EStateM.Result.ok.inj (hrun.symm.trans hadd)
  split at hcase
  · obtain ⟨-, rfl⟩ := hcase
    exact ⟨q, hs', none, qs, rfl, .kept hqs hnext⟩
  · obtain ⟨-, hlt, node, rfl⟩ := hcase
    exact ⟨q, hs', _, _, rfl, .added node _ rfl hqs hlt⟩

lemma NetworkHolds.handled {tx rx : List Queued} {es : List RoutingEntry}
    (hn : NetworkHolds T s tx rx es) (packet : Packet) (q : LinkedList DataHour) (p : δ)
    (rq : LinkedList ℕ) (hs : Heap DataRequest) : NetworkHolds T { s with
      dataQueue := q, platform := p, dataRequestsQueue := rq, requests := hs
      packets := (s.packets.push packet).erase s.packets.next } tx rx es where
  queues := hn.queues.congr rfl rfl rfl (fun _ _ => push_erase_cells _ _ _)
  table := hn.table.congr rfl rfl

/-- What is left behind by a call that may queue a request. -/
def Globals.Accepting (T : Target δ) (s : Globals δ) (rs : List Requested)
    (asked : Option DataRequest) (u : Globals δ) : Prop :=
  ∃ accepted qs, Accepts s rs asked u accepted qs ∧ u.Serving T qs

lemma accepting_step (hs : s.Serving T rs)
    (hx : ∀ rv, x.run s = .ok rv u → s.Accepting T rs asked u)
    (hrun : (accepting x).run s = .ok o u) :
    ∃ accepted qs, o = .accepted accepted ∧ Accepts s rs asked u accepted qs ∧ u.Serving T qs := by
  obtain ⟨rv, hcall, ho⟩ := accepting_run hs.requests hrun
  obtain ⟨accepted, qs, haccepts, hu⟩ := hx rv hcall
  exact ⟨accepted, qs, ho asked accepted qs haccepts, haccepts, hu⟩

lemma add_accepting (hs : s.Serving T rs) {toId : UInt16} {info : VariableInfo}
    {hourNumber startLog endLog : UInt32}
    (hrun : (dataRequestAdd toId info hourNumber startLog endLog).run s = .ok rv u) :
    s.Accepting T rs (some (newRequest toId info hourNumber startLog endLog)) u := by
  obtain ⟨xs, hc⟩ := hs.cache
  obtain ⟨tx, rx, es, hn⟩ := hs.network
  obtain ⟨q, hs', accepted, qs, rfl, haccepts⟩ := dataRequestAdd_accepts hs.requests hrun
  exact ⟨accepted, qs, haccepts, ⟨xs, hc.congr rfl⟩, ⟨tx, rx, es, hn.setRequests q hs'⟩,
    haccepts.requests⟩

/-- A packet in hand may add a request if its handler may. -/
lemma inHand_accepting (hs : s.Serving T rs) {handle : ℕ → Run (Globals δ) ZejfErr}
    (hhandle : ∀ t, (handle s.packets.next).run { s with packets := s.packets.push packet } =
      .ok rv t → ∃ q p rq hs ys accepted qs, t = { s with
        packets := s.packets.push packet
        dataQueue := q, platform := p, dataRequestsQueue := rq, requests := hs } ∧
        t.CacheHolds T ys ∧ Accepts s rs asked t accepted qs)
    (hrun : (inHand packet handle).run s = .ok rv u) : s.Accepting T rs asked u := by
  obtain ⟨tx, rx, es, hn⟩ := hs.network
  obtain ⟨t, hrun', rfl⟩ := inHand_cases hrun
  obtain ⟨q, p, rq, hs', ys, accepted, qs, rfl, hc, haccepts⟩ := hhandle t hrun'
  refine ⟨accepted, qs, haccepts.congr rfl rfl rfl, ⟨ys, hc.congr rfl⟩,
    ⟨tx, rx, es, hn.handled packet q p rq hs'⟩, haccepts.requests.congr rfl rfl⟩

lemma receiveRequest_accepting (hs : s.Serving T rs)
    (hrun : (inHand packet dataRequestReceive).run s = .ok rv u) :
    s.Accepting T rs (RequestOp.asks (δ := δ) (.receiveRequest packet)) u := by
  refine inHand_accepting hs ?_ hrun
  intro t hreceive
  obtain ⟨xs, hc⟩ := hs.cache
  have hcell : (s.packets.push packet).cells s.packets.next = some packet :=
    (Heap.push_cells _ _ _).trans (if_pos rfl)
  have hr : ({ s with packets := s.packets.push packet } : Globals δ).RequestsHold rs :=
    hs.requests.congr rfl rfl
  obtain ⟨message, hm, ⟨-, rfl⟩ | ⟨f, hf, hadd⟩⟩ :=
    dataRequestReceive_cases (s := { s with packets := s.packets.push packet }) hcell hreceive
  · exact ⟨s.dataQueue, s.platform, s.dataRequestsQueue, s.requests, xs, none, rs, rfl,
      hc.congr rfl, .kept hr (Nat.le_refl _)⟩
  · obtain ⟨q, hs', accepted, qs, rfl, haccepts⟩ := dataRequestAdd_accepts hr hadd
    have hasks : RequestOp.asks (δ := δ) (.receiveRequest packet) =
        some (newRequest packet.fromId f.info f.hourNum f.first f.second) := by
      rw [RequestOp.asks, hm, Option.bind_some, hf]
      rfl
    rw [hasks]
    exact ⟨s.dataQueue, s.platform, q, hs', xs, accepted, qs, rfl, hc.congr rfl,
      haccepts.congr rfl rfl rfl⟩

lemma receiveCheck_accepting (hs : s.Serving T rs)
    (hrun : (inHand packet (dataCheckReceive T)).run s = .ok rv u) :
    s.Accepting T rs (RequestOp.asks (δ := δ) (.receiveCheck packet)) u := by
  refine inHand_accepting hs ?_ hrun
  intro t hreceive
  obtain ⟨xs, hc⟩ := hs.cache
  have hcell : (s.packets.push packet).cells s.packets.next = some packet :=
    (Heap.push_cells _ _ _).trans (if_pos rfl)
  obtain ⟨message, hm, ⟨-, rfl⟩ | ⟨f, r, v, hf, hcalc, hadd⟩⟩ :=
    dataCheckReceive_cases (s := { s with packets := s.packets.push packet }) hcell hreceive
  · exact ⟨s.dataQueue, s.platform, s.dataRequestsQueue, s.requests, xs, none, rs, rfl,
      hc.congr rfl, .kept (hs.requests.congr rfl rfl) (Nat.le_refl _)⟩
  · have hc' : ({ s with packets := s.packets.push packet } : Globals δ).CacheHolds T xs :=
      hc.congr rfl
    obtain ⟨ys, q, p, hcalc', hz⟩ := calculateDataCheck_local hc' f.info f.hourNum f.first
    obtain ⟨-, rfl⟩ := EStateM.Result.ok.inj (hcalc.symm.trans hcalc')
    have hr : ({ s with packets := s.packets.push packet, dataQueue := q, platform := p } :
        Globals δ).RequestsHold rs := hs.requests.congr rfl rfl
    rcases hadd with rfl | ⟨-, -, hadd⟩
    · exact ⟨q, p, s.dataRequestsQueue, s.requests, ys, none, rs, rfl, hz,
        .kept hr (Nat.le_refl _)⟩
    · obtain ⟨rq, hs', accepted, qs, rfl, haccepts⟩ := dataRequestAdd_accepts hr hadd
      have hasks : RequestOp.asks (δ := δ) (.receiveCheck packet) =
          some (newRequest packet.fromId f.info f.hourNum 0 f.first) := by
        rw [RequestOp.asks, hm, Option.bind_some, hf]
        rfl
      rw [hasks]
      exact ⟨q, p, rq, hs', ys, accepted, qs, rfl, hz.congr rfl, haccepts.congr rfl rfl rfl⟩

end Operations

/-! ### What has been sent for a request -/

/-- What becomes of a request once some samples have been sent for it. -/
def DataRequest.After (r request : DataRequest) (sent : ℕ) : Prop :=
  r = { request with currentLog := r.currentLog, errors := r.errors } ∧
    r.currentLog.toNat = request.startLog.toNat + sent

/-- The rounds that have sent a sample for a request. -/
def sentFor (a : ℕ) (rounds : List (Round δ)) : List (Round δ) :=
  rounds.filter (fun x => decide (x.addr = a) && x.success)

/-- Of the requests that have been accepted, some wait and for each some samples have been sent,
one after the other and as they were stored. -/
structure Streams (accepted : List (ℕ × DataRequest)) (rounds : List (Round δ))
    (rs : List Requested) : Prop where
  known : ∀ x ∈ rounds, ∃ request, (x.addr, request) ∈ accepted
  sent : ∀ a request, (a, request) ∈ accepted → ∀ (i : ℕ) x, (sentFor a rounds)[i]? = some x →
    x.request.After request i ∧ ∃ val, x.val = some val ∧ x.stored T = some val
  cursor : ∀ r ∈ rs, ∃ request, (r.addr, request) ∈ accepted ∧
    r.request.After request (sentFor r.addr rounds).length

section Streams

variable {T} {accepted : List (ℕ × DataRequest)} {rounds : List (Round δ)} {rs rs' : List Requested}
  {r : Requested} {x : Round δ} {a n : ℕ}

lemma sentFor_append (a : ℕ) (rounds rounds' : List (Round δ)) :
    sentFor a (rounds ++ rounds') = sentFor a rounds ++ sentFor a rounds' := List.filter_append ..

/-- A sample that is stored is not the last one that a request could ask for. -/
lemma Round.currentLog_succ {val : Sample} (h : x.stored T = some val) :
    (x.request.currentLog + 1).toNat = x.request.currentLog.toNat + 1 := by
  obtain ⟨hour, -, hsample⟩ := Option.bind_eq_some_iff.mp h
  obtain ⟨v, -, hdata⟩ := Option.bind_eq_some_iff.mp hsample
  obtain ⟨hlt, -⟩ := List.getElem?_eq_some_iff.mp hdata
  have hsize := v.info.samplesPerHour.toNat_lt
  rw [v.size_eq] at hlt
  have hone : (1 : UInt32).toNat = 1 := rfl
  rw [UInt32.toNat_add, hone]
  omega

lemma key_unique (hkeys : (accepted.map Prod.fst).Nodup) {request request' : DataRequest}
    (h : (a, request) ∈ accepted) (h' : (a, request') ∈ accepted) : request = request' :=
  congrArg Prod.snd (List.inj_on_of_nodup_map hkeys h h' rfl)

lemma Streams.tail (h : Streams T accepted rounds (r :: rs)) : Streams T accepted rounds rs :=
  ⟨h.known, h.sent, fun x hx => h.cursor x (List.mem_cons_of_mem r hx)⟩

lemma Streams.failed (h : Streams T accepted rounds (r :: rs)) (haddr : x.addr = r.addr)
    (hsuccess : x.success = false) : Streams T accepted (rounds ++ [x])
      ({ r with request := { r.request with errors := r.request.errors + 1 } } :: rs) := by
  have hsame : ∀ a, sentFor a (rounds ++ [x]) = sentFor a rounds := by
    intro a
    rw [sentFor_append]
    simp [sentFor, hsuccess]
  obtain ⟨request, hmem, hafter, hcursor⟩ := h.cursor r List.mem_cons_self
  refine ⟨?_, ?_, ?_⟩
  · intro y hy
    rcases List.mem_append.mp hy with hy | hy
    · exact h.known y hy
    · rw [List.mem_singleton.mp hy, haddr]
      exact ⟨request, hmem⟩
  · intro a request' hmem' i y hy
    rw [hsame] at hy
    exact h.sent a request' hmem' i y hy
  · intro y hy
    rw [hsame]
    rcases List.mem_cons.mp hy with rfl | hy
    · refine ⟨request, hmem, ?_, hcursor⟩
      rw [hafter]
    · exact h.cursor y (List.mem_cons_of_mem r hy)

/-- A round that succeeds sends the next sample. -/
lemma Streams.next (h : Streams T accepted rounds (r :: rs))
    (hkeys : (accepted.map Prod.fst).Nodup) (haddrs : ((r :: rs).map Requested.addr).Nodup)
    (haddr : x.addr = r.addr) (hrequest : x.request = r.request) (hsound : x.Sound T)
    (hsuccess : x.success = true) : Streams T accepted (rounds ++ [x])
      ({ r with request := { r.request with currentLog := r.request.currentLog + 1 } } :: rs) := by
  have hlast : sentFor r.addr (rounds ++ [x]) = sentFor r.addr rounds ++ [x] := by
    rw [sentFor_append]
    simp [sentFor, hsuccess, haddr]
  have hsame : ∀ a, a ≠ r.addr → sentFor a (rounds ++ [x]) = sentFor a rounds := by
    intro a hne
    rw [sentFor_append]
    simp [sentFor, haddr, hne.symm]
  obtain ⟨val, hval⟩ := Option.isSome_iff_exists.mp (hsound.success_iff.mp hsuccess).1
  obtain ⟨request, hmem, hafter, hcursor⟩ := h.cursor r List.mem_cons_self
  refine ⟨?_, ?_, ?_⟩
  · intro y hy
    rcases List.mem_append.mp hy with hy | hy
    · exact h.known y hy
    · rw [List.mem_singleton.mp hy, haddr]
      exact ⟨request, hmem⟩
  · intro a request' hmem' i y hy
    by_cases ha : a = r.addr
    · subst ha
      obtain rfl := key_unique hkeys hmem hmem'
      rw [hlast] at hy
      by_cases hi : i < (sentFor r.addr rounds).length
      · rw [List.getElem?_append_left hi] at hy
        exact h.sent r.addr request hmem i y hy
      · rw [List.getElem?_append_right (Nat.not_lt.mp hi), List.getElem?_singleton] at hy
        split at hy
        · obtain rfl := Option.some.inj hy
          have hi' : i = (sentFor r.addr rounds).length := by omega
          rw [hrequest, hi']
          exact ⟨⟨hafter, hcursor⟩, val, (hsound.val_eq hsuccess).trans hval, hval⟩
        · cases hy
    · rw [hsame a ha] at hy
      exact h.sent a request' hmem' i y hy
  · intro y hy
    rcases List.mem_cons.mp hy with rfl | hy
    · refine ⟨request, hmem, ?_, ?_⟩
      · rw [hafter]
      · have hsucc := Round.currentLog_succ hval
        rw [hrequest] at hsucc
        dsimp only
        rw [hsucc, hcursor, hlast, List.length_append, List.length_singleton]
        omega
    · have hne : y.addr ≠ r.addr := by
        intro he
        exact (List.nodup_cons.mp haddrs).1 (he ▸ List.mem_map_of_mem hy)
      rw [hsame _ hne]
      exact h.cursor y (List.mem_cons_of_mem r hy)

lemma Streams.accept (h : Streams T accepted rounds rs) (hnew : ∀ y ∈ accepted, y.1 ≠ a)
    {request : DataRequest} (hstart : request.currentLog = request.startLog) (node : ℕ) :
    Streams T (accepted ++ [(a, request)]) rounds (rs ++ [⟨node, a, request⟩]) := by
  have hnothing : sentFor a rounds = [] := by
    rw [sentFor, List.filter_eq_nil_iff]
    intro x hx
    obtain ⟨request', hmem⟩ := h.known x hx
    have hne := hnew _ hmem
    simp [hne]
  refine ⟨?_, ?_, ?_⟩
  · intro x hx
    obtain ⟨request', hmem⟩ := h.known x hx
    exact ⟨request', List.mem_append_left _ hmem⟩
  · intro b request' hmem i x hx
    rcases List.mem_append.mp hmem with hmem | hmem
    · exact h.sent b request' hmem i x hx
    · obtain ⟨rfl, rfl⟩ := Prod.mk.inj (List.mem_singleton.mp hmem)
      rw [hnothing] at hx
      cases hx
  · intro r hr
    rcases List.mem_append.mp hr with hr | hr
    · obtain ⟨request', hmem, hafter⟩ := h.cursor r hr
      exact ⟨request', List.mem_append_left _ hmem, hafter⟩
    · obtain rfl := List.mem_singleton.mp hr
      refine ⟨request, by simp, rfl, ?_⟩
      rw [hnothing, hstart]
      rfl

lemma Answered.length_logs {rounds : List (Round δ)} (h : Answered T n rs rounds rs')
    (time : UInt32) : (rounds.flatMap (·.logs T time)).length ≤ n := by
  have hlogs := fun x : Round δ => x.length_logs (T := T) time
  induction h with
  | full rs => simp
  | idle n => simp
  | dropped done rest ih => omega
  | enough done => simp
  | sent undone addr request sound success rest ih =>
    rename_i x rounds
    have hx := hlogs x
    rw [List.flatMap_cons, List.length_append]
    omega
  | failed undone addr request sound success =>
    rename_i x
    have hx := hlogs x
    rw [List.flatMap_cons, List.flatMap_nil, List.append_nil]
    omega

lemma Answered.sound {rounds : List (Round δ)} (h : Answered T n rs rounds rs') :
    ∀ x ∈ rounds, x.Sound T := by
  induction h with
  | full rs => simp
  | idle n => simp
  | dropped done rest ih => exact ih
  | enough done => simp
  | sent undone addr request sound success rest ih => exact List.forall_mem_cons.mpr ⟨sound, ih⟩
  | failed undone addr request sound success => exact List.forall_mem_singleton.mpr sound

/-- What has been sent for a request continues over the rounds of a call. -/
theorem Answered.streams {rounds' : List (Round δ)} (h : Answered T n rs rounds' rs')
    (hkeys : (accepted.map Prod.fst).Nodup) (haddrs : (rs.map Requested.addr).Nodup)
    (hs : Streams T accepted rounds rs) : Streams T accepted (rounds ++ rounds') rs' := by
  induction h generalizing rounds with
  | full rs =>
    rw [List.append_nil]
    exact hs
  | idle n =>
    rw [List.append_nil]
    exact hs
  | dropped done rest ih => exact ih (List.nodup_cons.mp haddrs).2 hs.tail
  | enough done =>
    rw [List.append_nil]
    exact hs.tail
  | sent undone addr request sound success rest ih =>
    have hnext := ih haddrs (hs.next hkeys haddrs addr request sound success)
    rw [List.append_assoc] at hnext
    exact hnext
  | failed undone addr request sound success => exact hs.failed addr success

end Streams

/-! ### Runs -/

/-- The requests that wait, the oldest one first. -/
def Globals.waiting (s : Globals δ) : List Requested :=
  s.dataRequestsQueue.items.filterMap
    (fun x => (s.requests.cells x.2).map (Requested.mk x.1 x.2))

def RequestResult.rounds : RequestResult δ → List (Round δ)
  | .answered _ rounds => rounds
  | _ => []

def RequestResult.request : RequestResult δ → Option (ℕ × DataRequest)
  | .accepted request => request
  | _ => none

/-- The rounds of a run. -/
def roundsOf (tr : List (RequestOp δ × RequestResult δ)) : List (Round δ) :=
  tr.flatMap (fun x => x.2.rounds)

/-- The requests that a run has accepted. -/
def acceptedOf (tr : List (RequestOp δ × RequestResult δ)) : List (ℕ × DataRequest) :=
  tr.filterMap (fun x => x.2.request)

/-- Every accepted request has had its samples sent one after the other, from its first one to
the one before its cursor, and can be gone on with. -/
structure Streamed (tr : List (RequestOp δ × RequestResult δ)) (s : Globals δ) : Prop where
  distinct : ((acceptedOf tr).map Prod.fst).Nodup
  streams : Streams T (acceptedOf tr) (roundsOf tr) s.waiting
  returns : ∀ time, ∃ u, (dataRequestsProcess T time).run s = .ok () u

/-- A call of `data_requests_process` queues the logs of its rounds, at most half as many as
there are free slots, and never finds the queue full. The other calls accept what they are
asked for. -/
def RequestOp.Fits (t : Globals δ) : RequestOp δ → RequestResult δ → Prop
  | .process time, o => ∃ remainingSlots rounds u sent, o = .answered remainingSlots rounds ∧
    (dataRequestsProcess T time).run t = .ok () u ∧ u.txPackets = t.txPackets ++ sent ∧
    sent.map Queued.packet = rounds.flatMap (·.logs T time) ∧
    2 * sent.length ≤ t.txQueue.capacity - t.txQueue.itemCount ∧ ∀ x ∈ rounds, x.rv ≠ .queueFull
  | op, o => ∀ a request, o.request = some (a, request) → op.asks = some request

/-- What becomes of the waiting requests in one operation. -/
inductive RequestStep (s : Globals δ) (rs : List Requested) (op : RequestOp δ) (u : Globals δ) :
    RequestResult δ → List Requested → Prop
  | answered {remainingSlots : ℕ} {rounds : List (Round δ)} {rs' : List Requested}
    (answered : Answered T remainingSlots rs rounds rs')
    (next : u.requests.next = s.requests.next) :
    RequestStep s rs op u (.answered remainingSlots rounds) rs'
  | accepted {accepted : Option (ℕ × DataRequest)} {rs' : List Requested}
    (accepts : Accepts s rs op.asks u accepted rs') :
    RequestStep s rs op u (.accepted accepted) rs'
  | done (next : u.requests.next = s.requests.next) : RequestStep s rs op u .done rs

section Runs

variable {T} {s t u : Globals δ} {rs rs' : List Requested} {o : RequestResult δ}
  {op : RequestOp δ} {tr : List (RequestOp δ × RequestResult δ)}

lemma Globals.RequestsHold.waiting_eq (h : s.RequestsHold rs) : s.waiting = rs := by
  have hsome : ∀ r ∈ rs, ((fun x : ℕ × ℕ => (s.requests.cells x.2).map
      (Requested.mk x.1 x.2)) ∘ Requested.ref) r = some r := by
    intro r hr
    show (s.requests.cells r.addr).map _ = _
    rw [h.live r hr]
    rfl
  rw [Globals.waiting, h.holds.items_eq, List.filterMap_map, List.filterMap_congr hsome,
    List.filterMap_some]

/-- A call answers requests as far as half of the free slots go. -/
lemma requestRounds_run (hs : s.Serving T rs) (time : UInt32) :
    ∃ remainingSlots rounds u rs' sent,
      (requestRounds T time).run s = .ok (remainingSlots, rounds) u ∧ u.Serving T rs' ∧
      Answered T remainingSlots rs rounds rs' ∧ u.requests.next = s.requests.next ∧
      u.txPackets = s.txPackets ++ sent ∧
      sent.map Queued.packet = rounds.flatMap (·.logs T time) ∧
      2 * remainingSlots ≤ s.txQueue.capacity - s.txQueue.itemCount := by
  obtain ⟨xs, hc⟩ := hs.cache
  obtain ⟨tx, rx, es, hn⟩ := hs.network
  have hcount : s.txQueue.itemCount = tx.length := by
    rw [hn.queues.txHolds.count, List.length_map]
  have hhalf : 2 * ((s.txQueue.capacity - s.txQueue.itemCount) / priorityHigh) ≤
      s.txQueue.capacity - s.txQueue.itemCount := Nat.mul_div_le _ _
  have hbounded := hn.queues.txHolds.bounded
  rw [List.length_map] at hbounded
  have hroom : tx.length + (s.txQueue.capacity - s.txQueue.itemCount) / priorityHigh ≤
      s.txQueue.capacity := by
    omega
  obtain ⟨rounds, u, rs', sent, hrun, hserved⟩ := roundsLoop_run hc hn hs.requests time hroom 1
  refine ⟨_, rounds, u, rs', sent, ?_, ⟨hserved.cache, ⟨_, _, _, hserved.network⟩,
    hserved.requests⟩, hserved.answered, hserved.next, ?_, hserved.logs, hhalf⟩
  · rw [requestRounds, allocatePacketQueue, bind_assoc, run_bind_ok (EStateM.run_get s), pure_bind,
      run_bind_ok hrun]
    rfl
  · rw [hserved.network.txPackets, hn.txPackets]

lemma RequestOp.step (hs : s.Serving T rs) (hop : op.Allowed T s)
    (hrun : (op.run T).run s = .ok o u) :
    op.Fits T s o ∧ ∃ rs', u.Serving T rs' ∧ RequestStep T s rs op u o rs' := by
  cases op with
  | process time =>
    obtain ⟨n, rounds, t, rs', sent, hrounds, ht, hanswered, hnext, htx, hlogs, hhalf⟩ :=
      requestRounds_run hs time
    obtain ⟨found, v, hrounds', hreturn⟩ := run_bind_inv hrun
    obtain ⟨rfl, rfl⟩ := EStateM.Result.ok.inj (hrounds.symm.trans hrounds')
    obtain ⟨rfl, rfl⟩ := EStateM.Result.ok.inj hreturn
    have hlength := hanswered.length_logs time
    rw [← hlogs, List.length_map] at hlength
    refine ⟨⟨n, rounds, t, sent, rfl, (requestRounds_does T time).run_ok hrounds, htx, hlogs, ?_,
      fun x hx => (hanswered.sound x hx).rv_ne⟩, rs', ht, .answered hanswered hnext⟩
    omega
  | add toId info hourNumber startLog endLog =>
    obtain ⟨accepted, rs', rfl, haccepts, hu⟩ :=
      accepting_step hs (fun _ hcall => add_accepting hs hcall) hrun
    exact ⟨haccepts.asks, rs', hu, .accepted haccepts⟩
  | receiveRequest packet =>
    obtain ⟨accepted, rs', rfl, haccepts, hu⟩ :=
      accepting_step hs (fun _ hcall => receiveRequest_accepting hs hcall) hrun
    exact ⟨haccepts.asks, rs', hu, .accepted haccepts⟩
  | receiveCheck packet =>
    obtain ⟨accepted, rs', rfl, haccepts, hu⟩ :=
      accepting_step hs (fun _ hcall => receiveCheck_accepting hs hcall) hrun
    exact ⟨haccepts.asks, rs', hu, .accepted haccepts⟩
  | other v =>
    obtain ⟨rfl, rfl⟩ := EStateM.Result.ok.inj hrun
    refine ⟨?_, rs, ⟨hop.cache, hop.network, hs.requests.congr hop.queue hop.requests⟩,
      .done (congrArg Heap.next hop.requests)⟩
    intro a request ha
    cases ha

lemma RequestOp.asks_start {request : DataRequest} (h : op.asks = some request) :
    request.currentLog = request.startLog := by
  cases op with
  | process time => cases h
  | add toId info hourNumber startLog endLog =>
    obtain rfl := Option.some.inj h
    rfl
  | receiveRequest packet =>
    obtain ⟨f, -, rfl⟩ := Option.map_eq_some_iff.mp h
    rfl
  | receiveCheck packet =>
    obtain ⟨f, -, rfl⟩ := Option.map_eq_some_iff.mp h
    rfl
  | other v => cases h

lemma roundsOf_snoc (tr : List (RequestOp δ × RequestResult δ)) (op : RequestOp δ)
    (o : RequestResult δ) : roundsOf (tr ++ [(op, o)]) = roundsOf tr ++ o.rounds := by
  simp [roundsOf]

lemma acceptedOf_snoc (tr : List (RequestOp δ × RequestResult δ)) (op : RequestOp δ)
    (o : RequestResult δ) :
    acceptedOf (tr ++ [(op, o)]) = acceptedOf tr ++ o.request.toList := by
  rw [acceptedOf, List.filterMap_append]
  rfl

/-- What holds all the time of the requests that have been accepted, of the rounds and of the
requests that wait. -/
structure Streaming (T : Target δ) (accepted : List (ℕ × DataRequest)) (rounds : List (Round δ))
    (s : Globals δ) (rs : List Requested) : Prop where
  serving : s.Serving T rs
  distinct : (accepted.map Prod.fst).Nodup
  fresh : ∀ y ∈ accepted, y.1 < s.requests.next
  streams : Streams T accepted rounds rs

lemma Streaming.start (hs : s.Serving T []) : Streaming T [] [] s [] where
  serving := hs
  distinct := List.nodup_nil
  fresh := by simp
  streams := ⟨by simp, by simp, by simp⟩

lemma Streaming.streamed (h : Streaming T (acceptedOf tr) (roundsOf tr) s rs) :
    Streamed T tr s where
  distinct := h.distinct
  streams := by
    rw [h.serving.requests.waiting_eq]
    exact h.streams
  returns time := by
    obtain ⟨n, rounds, u, rs', sent, hrun, -⟩ := requestRounds_run h.serving time
    exact ⟨u, (requestRounds_does T time).run_ok hrun⟩

/-- Every operation keeps the streams going. -/
lemma Streaming.step {accepted : List (ℕ × DataRequest)} {rounds : List (Round δ)}
    (h : Streaming T accepted rounds s rs) (hop : op.Allowed T s)
    (hrun : (op.run T).run s = .ok o u) : op.Fits T s o ∧
      ∃ rs', Streaming T (accepted ++ o.request.toList) (rounds ++ o.rounds) u rs' := by
  obtain ⟨hfits, rs', hu, hstep⟩ := op.step h.serving hop hrun
  refine ⟨hfits, rs', ?_⟩
  cases hstep with
  | answered answered next =>
    simp only [RequestResult.request, RequestResult.rounds, Option.toList_none, List.append_nil]
    refine ⟨hu, h.distinct, ?_, answered.streams h.distinct h.serving.requests.distinct h.streams⟩
    rw [next]
    exact h.fresh
  | accepted accepts =>
    simp only [RequestResult.request, RequestResult.rounds, List.append_nil]
    cases accepts with
    | kept requests next =>
      rw [Option.toList_none, List.append_nil]
      exact ⟨hu, h.distinct, fun y hy => (h.fresh y hy).trans_le next, h.streams⟩
    | added node request asks requests next =>
      have hnew : ∀ y ∈ accepted, y.1 ≠ s.requests.next :=
        fun y hy => Nat.ne_of_lt (h.fresh y hy)
      rw [Option.toList_some]
      refine ⟨hu, ?_, ?_, h.streams.accept hnew (op.asks_start asks) node⟩
      · rw [List.map_append]
        refine List.nodup_append.mpr ⟨h.distinct, List.nodup_singleton _, ?_⟩
        intro a ha b hb hab
        obtain ⟨y, hy, rfl⟩ := List.mem_map.mp ha
        rw [List.map_singleton, List.mem_singleton] at hb
        exact hnew y hy (hab.trans hb)
      · intro y hy
        rcases List.mem_append.mp hy with hy | hy
        · exact (h.fresh y hy).trans next
        · rw [List.mem_singleton.mp hy]
          exact next
  | done next =>
    simp only [RequestResult.request, RequestResult.rounds, Option.toList_none, List.append_nil]
    refine ⟨hu, h.distinct, ?_, h.streams⟩
    rw [next]
    exact h.fresh

/-- In every run in which nothing else touches the requests, the samples of a request are sent
once each and in order, as they are stored, and the transmit queue never gets full. -/
theorem requests_streamed (hs : s.Serving T []) (htr : Trace (RequestOp.run T) s tr u)
    (hallowed : Throughout (RequestOp.run T) s (fun _ t op _ => op.Allowed T t) tr) :
    Always (RequestOp.run T) s (Streamed T) tr ∧
      Throughout (RequestOp.run T) s (fun _ => RequestOp.Fits T) tr := by
  have hstep : ∀ tr t op o u, (∃ rs, Streaming T (acceptedOf tr) (roundsOf tr) t rs) →
      op.Allowed T t → (op.run T).run t = .ok o u →
      (∃ rs, Streaming T (acceptedOf (tr ++ [(op, o)])) (roundsOf (tr ++ [(op, o)])) u rs) ∧
        op.Fits T t o := by
    rintro tr t op o u ⟨rs, ht⟩ hop hrun
    rw [acceptedOf_snoc, roundsOf_snoc]
    exact (ht.step hop hrun).symm
  refine ⟨?_, hallowed.mono htr ⟨[], Streaming.start hs⟩ hstep⟩
  intro pre post t he hpre
  obtain ⟨rs, ht⟩ := (Throughout.before (he ▸ hallowed)).invariant
    (I := fun tr t => ∃ rs, Streaming T (acceptedOf tr) (roundsOf tr) t rs) hpre
    ⟨[], Streaming.start hs⟩ (fun tr t op o u ht hop hrun => (hstep tr t op o u ht hop hrun).1)
  exact ht.streamed

/-! ### What happens between the calls -/

lemma Globals.Serving.undisturbed (hs : s.Serving T rs) (h : Undisturbed T s u) :
    u.Serving T rs :=
  ⟨h.cache, h.network, hs.requests.congr h.queue h.requests⟩

lemma Undisturbed.trans {v : Globals δ} (h : Undisturbed T s t) (h' : Undisturbed T t v) :
    Undisturbed T s v :=
  ⟨h'.queue.trans h.queue, h'.requests.trans h.requests, h'.cache, h'.network⟩

lemma Globals.Serving.setRequests (hs : s.Serving T rs) {q : LinkedList ℕ} {h : Heap DataRequest}
    (hr : ({ s with dataRequestsQueue := q, requests := h } : Globals δ).RequestsHold rs') :
    ({ s with dataRequestsQueue := q, requests := h } : Globals δ).Serving T rs' := by
  obtain ⟨xs, hc⟩ := hs.cache
  obtain ⟨tx, rx, es, hn⟩ := hs.network
  exact ⟨⟨xs, hc.congr rfl⟩, ⟨tx, rx, es, hn.setRequests q h⟩, hr⟩

lemma dataLog_undisturbed (hs : s.Serving T rs) (target : VariableInfo) (n k : UInt32)
    (value : Sample) (time : UInt32) (announce : Bool) :
    ∃ rv u, (dataLog T target n k value time announce).run s = .ok rv u ∧ Undisturbed T s u := by
  obtain ⟨xs, hc⟩ := hs.cache
  obtain ⟨tx, rx, es, hn⟩ := hs.network
  obtain ⟨o, q, p, zs, rv, u, ys, sent, -, -, hrun, hlogged⟩ :=
    dataLog_cached hc hn target n k value time announce
  obtain ⟨q', tq, ps, -, hu⟩ := hlogged.frame
  refine ⟨rv, u, hrun, ?_, ?_, ⟨ys, hlogged.cache⟩, ⟨_, rx, es, hlogged.network⟩⟩
  · rw [hu]
  · rw [hu]

lemma dataGetVal_undisturbed (hs : s.Serving T rs) (info : VariableInfo) (n k : UInt32)
    (load create : Bool) :
    ∃ r u, (dataGetVal T info n k load create).run s = .ok r u ∧ Undisturbed T s u := by
  obtain ⟨xs, hc⟩ := hs.cache
  obtain ⟨tx, rx, es, hn⟩ := hs.network
  obtain ⟨o, q, p, zs, r, -, hz, hrun⟩ := dataGetVal_cached hc info n k load create
  exact ⟨r, _, hrun, rfl, rfl, ⟨zs, hz⟩, ⟨tx, rx, es, hn.data q p⟩⟩

lemma dataSendLog_undisturbed (hs : s.Serving T rs) (toId : UInt16) (info : VariableInfo)
    (hourNumber sampleNum : UInt32) (val : Sample) (time : UInt32) :
    ∃ rv u, (dataSendLog T toId info hourNumber sampleNum val time).run s = .ok rv u ∧
      Undisturbed T s u := by
  obtain ⟨xs, hc⟩ := hs.cache
  obtain ⟨tx, rx, es, hn⟩ := hs.network
  obtain ⟨tq, ps, hsend, -, hq, -⟩ := dataSendLog_run (T := T) hn.queues hn.table toId info
    hourNumber sampleNum val time
  exact ⟨_, _, hsend, rfl, rfl, ⟨xs, hc.congr rfl⟩,
    ⟨_, rx, es, hq, hn.table.congr rfl rfl⟩⟩

lemma calculateDataCheck_undisturbed (hs : s.Serving T rs) (info : VariableInfo)
    (hourNum logNum : UInt32) :
    ∃ r u, (calculateDataCheck T info hourNum logNum).run s = .ok r u ∧ Undisturbed T s u := by
  obtain ⟨xs, hc⟩ := hs.cache
  obtain ⟨tx, rx, es, hn⟩ := hs.network
  obtain ⟨ys, q, p, hrun, hz⟩ := calculateDataCheck_local hc info hourNum logNum
  exact ⟨_, _, hrun, rfl, rfl, ⟨ys, hz⟩, ⟨tx, rx, es, hn.data q p⟩⟩

lemma dataSave_undisturbed (hs : s.Serving T rs) :
    ∃ u, (dataSave T).run s = .ok () u ∧ Undisturbed T s u := by
  obtain ⟨xs, hc⟩ := hs.cache
  obtain ⟨tx, rx, es, hn⟩ := hs.network
  obtain ⟨ys, q, p, hrun, hz⟩ := dataSave_cached hc
  exact ⟨_, hrun, rfl, rfl, ⟨ys, hz⟩, ⟨tx, rx, es, hn.data q p⟩⟩

/-- Lines that come in, packets that are sent, the transmit step and the check of the table. -/
lemma netOp_undisturbed (hT : T.Steady) (hs : s.Serving T rs) (horder : s.InOrder T)
    {op : NetOp} (hop : op.Allowed T s) :
    ∃ r u, (op.run T).run s = .ok r u ∧ Undisturbed T s u := by
  obtain ⟨xs, hc⟩ := hs.cache
  obtain ⟨r, u, hrun, -, honward⟩ := NetOp.step hT horder hop
  exact ⟨r, u, hrun, honward.frame.dataRequestsQueue, honward.frame.requests,
    ⟨xs, hc.congr honward.frame.dataQueue⟩, ⟨_, _, _, honward.inOrder.network⟩⟩

end Runs

/-- The server has logged two samples of a variable. -/
def twoLogged : Globals Unit :=
  leaves ((dataLog (Target.bare Settings.zejfMeteo) ⟨2, 7⟩ 10 1 6 0 false).run
    (leaves ((dataLog (Target.bare Settings.zejfMeteo) ⟨2, 7⟩ 10 0 5 0 false).run
      (zejfInit (Target.bare Settings.zejfMeteo) ()))))

/-- Both are asked for. -/
def twoRequested : List (RequestOp Unit) :=
  [.add broadcast ⟨2, 7⟩ 10 0 1, .process 0, .process 1]

lemma twoLogged_serving : twoLogged.Serving (Target.bare Settings.zejfMeteo) [] := by
  have hinit : (zejfInit (Target.bare Settings.zejfMeteo) ()).Serving
      (Target.bare Settings.zejfMeteo) [] :=
    ⟨⟨[], .empty rfl⟩, ⟨[], [], [], NetworkHolds.initial _ _⟩, zejfInit_requestsHold _ _⟩
  obtain ⟨rv, u, hrun, hu⟩ := dataLog_undisturbed hinit ⟨2, 7⟩ 10 0 5 0 false
  obtain ⟨rv', u', hrun', hu'⟩ :=
    dataLog_undisturbed (hinit.undisturbed hu) ⟨2, 7⟩ 10 1 6 0 false
  rw [twoLogged, hrun, leaves_ok, hrun', leaves_ok]
  exact (hinit.undisturbed hu).undisturbed hu'

theorem twoRequested_streamed : ∃ tr, tr.map Prod.fst = twoRequested ∧
    (roundsOf tr).map (fun x => (x.request.currentLog, x.val)) = [(0, some 5), (1, some 6)] ∧
    Always (RequestOp.run (Target.bare Settings.zejfMeteo)) twoLogged
        (Streamed (Target.bare Settings.zejfMeteo)) tr ∧
      Throughout (RequestOp.run (Target.bare Settings.zejfMeteo)) twoLogged
        (fun _ => RequestOp.Fits (Target.bare Settings.zejfMeteo)) tr := by
  have hrounds : (outcome ((serve (RequestOp.run (Target.bare Settings.zejfMeteo))
      twoRequested).run twoLogged)).map (fun os =>
        (roundsOf (twoRequested.zip os)).map (fun x => (x.request.currentLog, x.val))) =
      some [(0, some 5), (1, some 6)] := by
    decide +kernel
  obtain ⟨os, hserved, hos⟩ := Option.map_eq_some_iff.mp hrounds
  obtain ⟨htr, hops⟩ := Trace.of_serve (run_eq_of_outcome hserved)
  refine ⟨_, hops, hos, requests_streamed twoLogged_serving htr ?_⟩
  intro pre op o post t he hpre
  have hop : op ∈ twoRequested := by
    rw [← hops, he]
    simp
  simp only [twoRequested, List.mem_cons, List.not_mem_nil, or_false] at hop
  rcases hop with rfl | rfl | rfl
  · trivial
  · trivial
  · trivial

end ZejfMeteo
