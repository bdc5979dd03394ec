import ZejfMeteo.Streaming

/-!
# How long a request waits

Every turn of the loop in `data_requests_process` is for the oldest request. The turns of a run
are written down, and counted until the request is dropped.
-/

namespace ZejfMeteo
open Runs

variable {δ : Type} (T : Target δ)

/-- A turn of the loop: the oldest request is dropped, or there is a round on it. -/
inductive Turn (δ : Type)
  | dropped (addr : ℕ)
  | round (x : Round δ)

/-- `dataRequestsLoop` with its turns. -/
def turnsLoop (time : UInt32) : ℕ → ℕ → Run (Globals δ) (List (Turn δ))
  | 0, _ => return []
  | remainingSlots + 1, requestCount => do
    let s ← get
    if listIsEmpty s.dataRequestsQueue then
      return []
    match listPeek s.dataRequestsQueue with
    | none => throw .nullPointer
    | some node =>
      let c ← zoom Globals.requestsQueueLens (LinkedList.node node)
      let request ← readRequest c.item
      if requestFinished request ∨ 50 < request.errors then
        match ← zoom Globals.requestsQueueLens listPop with
        | none => pure ()
        | some popped => dataRequestDestroy popped
        if requestCount + 1 = 3 then
          return [.dropped c.item]
        return .dropped c.item :: (← turnsLoop time remainingSlots (requestCount + 1))
      else
        let round ← answerRound T time c.item request
        if round.success then
          updateRequest c.item (fun r => { r with currentLog := r.currentLog + 1 })
          return .round round :: (← turnsLoop time remainingSlots requestCount)
        else
          updateRequest c.item (fun r => { r with errors := r.errors + 1 })
          return [.round round]

/-- `data_requests_process` with its turns. -/
def requestTurns (time : UInt32) : Run (Globals δ) (List (Turn δ)) := do
  let remainingSlots ← allocatePacketQueue priorityHigh
  turnsLoop T time remainingSlots 1

lemma turnsLoop_does (time : UInt32) (remainingSlots requestCount : ℕ) :
    Does (turnsLoop T time remainingSlots requestCount)
      (dataRequestsLoop T time remainingSlots requestCount) := by
  induction remainingSlots generalizing requestCount with
  | zero => exact Does.pure []
  | succ n ih =>
    rw [turnsLoop, dataRequestsLoop]
    apply Does.bind
    intro s
    apply Does.ite
    · exact Does.pure []
    cases listPeek s.dataRequestsQueue with
    | none => exact Does.fault _
    | some node =>
      apply Does.bind
      intro c
      apply Does.bind
      intro request
      apply Does.ite
      · apply Does.bind
        intro popped
        have hrest : Does (if requestCount + 1 = 3 then return [.dropped c.item] else do
            return .dropped c.item :: (← turnsLoop T time n (requestCount + 1)))
            (if requestCount + 1 = 3 then return else
              dataRequestsLoop T time n (requestCount + 1)) :=
          Does.ite (Does.pure _) (Does.map _ (ih _))
        cases popped with
        | none => exact hrest
        | some a => exact Does.bind (fun _ => hrest)
      · refine answerRound_then T time c.item request (fun round => Does.ite ?_ ?_)
        · exact Does.bind (fun _ => Does.map _ (ih _))
        · exact Does.last _ _

/-- Writing the turns down changes nothing. -/
theorem requestTurns_does (time : UInt32) :
    Does (requestTurns T time) (dataRequestsProcess T time) :=
  Does.bind (fun remainingSlots => turnsLoop_does T time remainingSlots 1)

/-- A sample that can be sent is one of a variable, which has not too many of them. -/
def DataRequest.Stored (request : DataRequest) : Prop :=
  ∃ samplesPerHour : UInt32, request.currentLog < samplesPerHour ∧
    samplesPerHour.toNat ≤ T.sampleRateMax

/-- What turns make of the requests that wait. -/
inductive Turns : List Requested → List (Turn δ) → List Requested → Prop
  | nil (rs : List Requested) : Turns rs [] rs
  | dropped {r : Requested} {rs rs' : List Requested} {ts : List (Turn δ)}
    (rest : Turns rs ts rs') : Turns (r :: rs) (.dropped r.addr :: ts) rs'
  | sent {r : Requested} {rs rs' : List Requested} {x : Round δ} {ts : List (Turn δ)}
    (addr : x.addr = r.addr) (request : x.request = r.request) (stored : r.request.Stored T)
    (rest : Turns ({ r with request := { r.request with
      currentLog := r.request.currentLog + 1 } } :: rs) ts rs') :
    Turns (r :: rs) (.round x :: ts) rs'
  | failed {r : Requested} {rs rs' : List Requested} {x : Round δ} {ts : List (Turn δ)}
    (addr : x.addr = r.addr) (fails : x.success = false) (errors : ¬50 < r.request.errors)
    (rest : Turns ({ r with request := { r.request with
      errors := r.request.errors + 1 } } :: rs) ts rs') :
    Turns (r :: rs) (.round x :: ts) rs'

section Turns

variable {T} {s t u : Globals δ} {rs rs' : List Requested} {r : Requested} {ts ts' : List (Turn δ)}

lemma stored_of_sample {xs : List (ℕ × DataHour)} (hc : s.CacheHolds T xs) {platform : δ}
    {request : DataRequest} {val : Sample}
    (h : (localHour T xs platform request.hourNumber).bind
      (·.sample request.info.id request.currentLog) = some val) : request.Stored T := by
  obtain ⟨hour, hlocal, hsample⟩ := Option.bind_eq_some_iff.mp h
  obtain ⟨v, hv, hdata⟩ := Option.bind_eq_some_iff.mp hsample
  obtain ⟨hlt, -⟩ := List.getElem?_eq_some_iff.mp hdata
  rw [v.size_eq] at hlt
  exact ⟨v.info.samplesPerHour, UInt32.lt_iff_toNat_lt.mpr hlt,
    (localHour_wellFormed hc hlocal).rate_le v (List.mem_of_find?_eq_some hv)⟩

lemma answerRound_undisturbed (hs : s.Serving T rs) (time : UInt32) (addr : ℕ)
    (request : DataRequest) :
    ∃ x u, (answerRound T time addr request).run s = .ok x u ∧ Undisturbed T s u ∧
      x.addr = addr ∧ x.request = request ∧ (x.success = true → request.Stored T) := by
  obtain ⟨xs, hc⟩ := hs.cache
  obtain ⟨tx, rx, es, hn⟩ := hs.network
  obtain ⟨q, p, ys, hget, hc'⟩ := dataGetVal_local hc request.info request.hourNumber
    request.currentLog
  have hu : Undisturbed T s { s with dataQueue := q, platform := p } :=
    ⟨rfl, rfl, ⟨ys, hc'⟩, ⟨tx, rx, es, hn.data q p⟩⟩
  have hread : ∀ val, (localHour T xs s.platform request.hourNumber).elim (.null, none)
      (·.read request.info.id request.currentLog) = (.ok, val) → request.Stored T := by
    intro val hval
    obtain ⟨w, -, hsample⟩ := read_local_iff.mp hval
    exact stored_of_sample hc hsample
  rw [answerRound, run_bind_ok (EStateM.run_get s), run_bind_ok hget]
  generalize (localHour T xs s.platform request.hourNumber).elim (ZejfErr.null, none)
    (·.read request.info.id request.currentLog) = found at hread
  obtain ⟨rv, val⟩ := found
  dsimp only
  by_cases hrv : rv ≠ .ok
  · rw [if_pos hrv]
    exact ⟨_, _, rfl, hu, rfl, rfl, by simp⟩
  rw [if_neg hrv]
  obtain rfl := not_not.mp hrv
  cases val with
  | none => exact ⟨_, _, rfl, hu, rfl, rfl, by simp⟩
  | some val =>
    obtain ⟨rv, v, hsend, hv⟩ := dataSendLog_undisturbed (hs.undisturbed hu) request.targetDevice
      request.info request.hourNumber request.currentLog val time
    rw [run_bind_ok hsend]
    exact ⟨_, v, rfl, hu.trans hv, rfl, rfl, fun _ => hread _ rfl⟩

/-- Every slot is used for a turn, up to a failure or the second request that is dropped. -/
lemma turnsLoop_run (hs : s.Serving T rs) (time : UInt32) (n requestCount : ℕ) :
    ∃ ts u rs', (turnsLoop T time n requestCount).run s = .ok ts u ∧ u.Serving T rs' ∧
      Turns T rs ts rs' ∧ u.requests.next = s.requests.next ∧ (0 < n → rs ≠ [] → ts ≠ []) := by
  induction n generalizing s rs requestCount with
  | zero => exact ⟨[], s, rs, rfl, hs, .nil rs, rfl, fun h => absurd h (Nat.lt_irrefl 0)⟩
  | succ n ih =>
    rw [turnsLoop, run_bind_ok (EStateM.run_get s)]
    have hr := hs.requests
    cases rs with
    | nil =>
      rw [if_pos hr.empty]
      exact ⟨[], s, [], rfl, hs, .nil [], rfl, fun _ h => absurd rfl h⟩
    | cons r rs =>
      obtain ⟨hempty, hpeek, c, hnode, hitem, hread⟩ := hr.head_run
      rw [if_neg (by simp [hempty]), hpeek]
      dsimp only
      rw [run_bind_ok hnode, hitem, run_bind_ok hread]
      by_cases hdone : requestFinished r.request ∨ 50 < r.request.errors
      · rw [if_pos hdone]
        obtain ⟨q, hs', hpopped, hfree, hr', -, hheap⟩ := hr.pop_run
        have hnext : hs'.next = s.requests.next := (congrArg Heap.next hheap).trans rfl
        rw [run_bind_ok hpopped]
        dsimp only
        rw [run_bind_ok hfree]
        have hs'' := hs.setRequests hr'
        by_cases hthird : requestCount + 1 = 3
        · rw [if_pos hthird]
          exact ⟨_, _, rs, rfl, hs'', .dropped (.nil rs), hnext, by simp⟩
        · rw [if_neg hthird]
          obtain ⟨ts, u, rs', hrun, hu, hturns, hunext, -⟩ := ih hs'' (requestCount + 1)
          rw [run_bind_ok hrun]
          exact ⟨_, u, rs', rfl, hu, .dropped hturns, hunext.trans hnext, by simp⟩
      · rw [if_neg hdone]
        obtain ⟨x, v, hround, hv, haddr, hrequest, hstored⟩ :=
          answerRound_undisturbed hs time r.addr r.request
        have hs' := hs.undisturbed hv
        have hvnext : v.requests.next = s.requests.next := congrArg Heap.next hv.requests
        rw [run_bind_ok hround]
        cases hsuccess : x.success with
        | false =>
          obtain ⟨h, hupdate, hr', hheap⟩ :=
            hs'.requests.update_run (fun r => { r with errors := r.errors + 1 })
          have hnext : h.next = v.requests.next := (congrArg Heap.next hheap).trans rfl
          rw [if_neg (by simp), run_bind_ok hupdate]
          exact ⟨_, _, _, rfl, hs'.setRequests hr',
            .failed haddr hsuccess (fun h => hdone (.inr h)) (.nil _), hnext.trans hvnext, by simp⟩
        | true =>
          obtain ⟨h, hupdate, hr', hheap⟩ :=
            hs'.requests.update_run (fun r => { r with currentLog := r.currentLog + 1 })
          have hnext : h.next = v.requests.next := (congrArg Heap.next hheap).trans rfl
          obtain ⟨ts, u, rs', hrun, hu, hturns, hunext, -⟩ := ih (hs'.setRequests hr') requestCount
          rw [if_pos rfl, run_bind_ok hupdate, run_bind_ok hrun]
          exact ⟨_, u, rs', rfl, hu, .sent haddr hrequest (hstored hsuccess) hturns,
            hunext.trans (hnext.trans hvnext), by simp⟩

/-- So many turns at most until the request is dropped: the samples that it could still have
sent, the errors that it may still meet, and the last turn. -/
def Requested.turnsLeft (T : Target δ) (r : Requested) : ℕ :=
  (T.sampleRateMax - r.request.currentLog.toNat) + (51 - r.request.errors.toNat) + 1

lemma Requested.turnsLeft_le (r : Requested) : r.turnsLeft T ≤ T.sampleRateMax + 52 := by
  unfold Requested.turnsLeft
  omega

lemma DataRequest.Stored.currentLog_succ {request : DataRequest} (h : request.Stored T) :
    (request.currentLog + 1).toNat = request.currentLog.toNat + 1 := by
  obtain ⟨rate, hlt, -⟩ := h
  have hone : (1 : UInt32).toNat = 1 := rfl
  have hrate := rate.toNat_lt
  rw [UInt32.lt_iff_toNat_lt] at hlt
  rw [UInt32.toNat_add, hone]
  omega

lemma turnsLeft_sent (h : r.request.Stored T) : Requested.turnsLeft T { r with request :=
    { r.request with currentLog := r.request.currentLog + 1 } } + 1 = r.turnsLeft T := by
  have hsucc := h.currentLog_succ
  obtain ⟨rate, hlt, hle⟩ := h
  rw [UInt32.lt_iff_toNat_lt] at hlt
  simp only [Requested.turnsLeft, hsucc]
  omega

lemma turnsLeft_failed (h : ¬50 < r.request.errors) : Requested.turnsLeft T { r with request :=
    { r.request with errors := r.request.errors + 1 } } + 1 = r.turnsLeft T := by
  have hone : (1 : UInt16).toNat = 1 := rfl
  have hfifty : (50 : UInt16).toNat = 50 := rfl
  rw [UInt16.lt_iff_toNat_lt, hfifty] at h
  simp only [Requested.turnsLeft, UInt16.toNat_add, hone]
  omega

/-- The cursor of the request does not wrap. -/
def Round.NoWrap (x : Round δ) : Prop :=
  x.success = true → (x.request.currentLog + 1).toNat = x.request.currentLog.toNat + 1

/-- A round on the request at an address. -/
def Turn.IsRoundOn (a : ℕ) : Turn δ → Prop
  | .dropped _ => False
  | .round x => x.addr = a

/-- The oldest request after some turns: it still is, or it has been dropped. -/
inductive Standing (T : Target δ) (r : Requested) : List (Turn δ) → List Requested → Prop
  | oldest {ts : List (Turn δ)} {r' : Requested} {rs : List Requested} (addr : r'.addr = r.addr)
    (rounds : ∀ t ∈ ts, t.IsRoundOn r.addr)
    (count : ts.length + r'.turnsLeft T ≤ r.turnsLeft T) : Standing T r ts (r' :: rs)
  | gone {pre : List (Turn δ)} (post : List (Turn δ)) {rs : List Requested}
    (rounds : ∀ t ∈ pre, t.IsRoundOn r.addr) (count : pre.length + 1 ≤ r.turnsLeft T)
    (addr : r.addr ∉ rs.map Requested.addr) : Standing T r (pre ++ .dropped r.addr :: post) rs

lemma Turns.noWrap (h : Turns T rs ts rs') {x : Round δ} (hx : .round x ∈ ts) : x.NoWrap := by
  induction h with
  | nil rs => cases hx
  | dropped rest ih => exact ih ((List.mem_cons.mp hx).resolve_left (by simp))
  | sent addr request stored rest ih =>
    rcases List.mem_cons.mp hx with he | hx
    · obtain rfl := Turn.round.inj he
      exact fun _ => request ▸ stored.currentLog_succ
    · exact ih hx
  | failed addr fails errors rest ih =>
    rcases List.mem_cons.mp hx with he | hx
    · obtain rfl := Turn.round.inj he
      intro hsuccess
      rw [fails] at hsuccess
      cases hsuccess
    · exact ih hx

lemma Turns.standing (h : Turns T rs ts rs') (hdistinct : (rs.map Requested.addr).Nodup)
    {before : List (Turn δ)} (hr : Standing T r before rs) : Standing T r (before ++ ts) rs' := by
  induction h generalizing before with
  | nil rs =>
    rw [List.append_nil]
    exact hr
  | @dropped r' rs rs' ts rest ih =>
    have htail := (List.nodup_cons.mp hdistinct).2
    rw [List.append_cons]
    refine ih htail ?_
    cases hr with
    | oldest addr rounds count =>
      have hlast : before.length + 1 ≤ r.turnsLeft T := by
        unfold Requested.turnsLeft at count ⊢
        omega
      rw [addr]
      refine .gone [] rounds hlast ?_
      rw [← addr]
      exact (List.nodup_cons.mp hdistinct).1
    | gone post rounds count addr =>
      rw [List.append_assoc, List.cons_append]
      exact .gone _ rounds count (fun hmem => addr (List.mem_cons_of_mem _ hmem))
  | @sent r' rs rs' x ts addr' request stored rest ih =>
    rw [List.append_cons]
    refine ih hdistinct ?_
    cases hr with
    | oldest addr rounds count =>
      have hleft := turnsLeft_sent stored
      refine .oldest addr ?_ (by rw [List.length_append, List.length_singleton]; omega)
      intro t ht
      rcases List.mem_append.mp ht with ht | ht
      · exact rounds t ht
      · rw [List.mem_singleton.mp ht]
        exact addr'.trans addr
    | gone post rounds count addr =>
      rw [List.append_assoc, List.cons_append]
      exact .gone _ rounds count addr
  | @failed r' rs rs' x ts addr' fails errors rest ih =>
    rw [List.append_cons]
    refine ih hdistinct ?_
    cases hr with
    | oldest addr rounds count =>
      have hleft := turnsLeft_failed (T := T) errors
      refine .oldest addr ?_ (by rw [List.length_append, List.length_singleton]; omega)
      intro t ht
      rcases List.mem_append.mp ht with ht | ht
      · exact rounds t ht
      · rw [List.mem_singleton.mp ht]
        exact addr'.trans addr
    | gone post rounds count addr =>
      rw [List.append_assoc, List.cons_append]
      exact .gone _ rounds count addr

lemma Standing.accept {new : Requested} (h : Standing T r ts rs) (hne : r.addr ≠ new.addr) :
    Standing T r ts (rs ++ [new]) := by
  cases h with
  | oldest addr rounds count => exact .oldest addr rounds count
  | gone post rounds count addr =>
    refine .gone post rounds count ?_
    rw [List.map_append, List.mem_append]
    rintro (hmem | hmem)
    · exact addr hmem
    · exact hne (List.mem_singleton.mp hmem)

end Turns

/-- An operation with the turns that it takes. -/
def RequestOp.runTurns : RequestOp δ → Run (Globals δ) (List (Turn δ))
  | .process time => requestTurns T time
  | op => do
    let _ ← op.run T
    return []

/-- The turns of a run. -/
def turnsOf (tr : List (RequestOp δ × List (Turn δ))) : List (Turn δ) := tr.flatMap Prod.snd

/-- A call takes a turn if a request waits and the transmit queue has room for two packets, one
of which it may use. -/
def RequestOp.TakesTurn (t : Globals δ) (op : RequestOp δ) (ts : List (Turn δ)) : Prop :=
  ∀ time, op = .process time → t.waiting ≠ [] →
    2 ≤ t.txQueue.capacity - t.txQueue.itemCount → ts ≠ []

/-- The oldest request is dropped in one of the first `n` turns, and all turns before are rounds
on it. -/
def DroppedWithin (n : ℕ) (r : Requested) (ts : List (Turn δ)) (u : Globals δ) : Prop :=
  (ts.length < n ∧ (∀ t ∈ ts, t.IsRoundOn r.addr) ∧
    ∃ r' ∈ u.waiting.head?, r'.addr = r.addr) ∨
  ∃ pre post, ts = pre ++ .dropped r.addr :: post ∧ pre.length < n ∧
    (∀ t ∈ pre, t.IsRoundOn r.addr) ∧ ∀ r' ∈ u.waiting, r'.addr ≠ r.addr

section Runs

variable {T} {s t u : Globals δ} {rs : List Requested} {r : Requested} {ts : List (Turn δ)}
  {op : RequestOp δ}

lemma Standing.droppedWithin (h : Standing T r ts rs) (hu : u.RequestsHold rs) :
    DroppedWithin (T.sampleRateMax + 52) r ts u := by
  have hleft := r.turnsLeft_le (T := T)
  rw [DroppedWithin, hu.waiting_eq]
  cases h with
  | @oldest ts r' rs addr rounds count =>
    have hpos : 0 < r'.turnsLeft T := Nat.succ_pos _
    exact .inl ⟨by omega, rounds, r', rfl, addr⟩
  | gone post rounds count addr =>
    refine .inr ⟨_, post, rfl, by omega, rounds, ?_⟩
    intro r' hr' he
    exact addr (he ▸ List.mem_map_of_mem hr')

lemma requestTurns_run (hs : s.Serving T rs) (time : UInt32) :
    ∃ ts u rs', (requestTurns T time).run s = .ok ts u ∧ u.Serving T rs' ∧ Turns T rs ts rs' ∧
      u.requests.next = s.requests.next ∧
      (2 ≤ s.txQueue.capacity - s.txQueue.itemCount → rs ≠ [] → ts ≠ []) := by
  rw [requestTurns, allocatePacketQueue, bind_assoc, run_bind_ok (EStateM.run_get s), pure_bind]
  obtain ⟨ts, u, rs', hrun, hu, hturns, hnext, htakes⟩ := turnsLoop_run hs time
    ((s.txQueue.capacity - s.txQueue.itemCount) / priorityHigh) 1
  exact ⟨ts, u, rs', hrun, hu, hturns, hnext, fun hroom => htakes (Nat.div_pos hroom (by decide))⟩

/-- What one operation means for the requests that waited before. -/
structure TurnStep (T : Target δ) (s : Globals δ) (rs : List Requested) (op : RequestOp δ)
    (ts : List (Turn δ)) (u : Globals δ) (rs' : List Requested) : Prop where
  serving : u.Serving T rs'
  next : s.requests.next ≤ u.requests.next
  noWrap : ∀ x, .round x ∈ ts → x.NoWrap
  standing : ∀ r before, r.addr < s.requests.next → Standing T r before rs →
    Standing T r (before ++ ts) rs'
  takes : op.TakesTurn s ts

lemma Accepts.turnStep {asked : Option DataRequest} {accepted : Option (ℕ × DataRequest)}
    {rs' : List Requested} (h : Accepts s rs asked u accepted rs') (hu : u.Serving T rs')
    (hprocess : ∀ time, op ≠ .process time) : TurnStep T s rs op [] u rs' := by
  have htakes : op.TakesTurn s ([] : List (Turn δ)) := fun time he => absurd he (hprocess time)
  cases h with
  | kept requests next =>
    refine ⟨hu, next, by simp, fun r before _ hr => ?_, htakes⟩
    rw [List.append_nil]
    exact hr
  | added node request asks requests next =>
    refine ⟨hu, next.le, by simp, fun r before hlt hr => ?_, htakes⟩
    rw [List.append_nil]
    exact hr.accept (Nat.ne_of_lt hlt)

lemma RequestOp.turnStep (hs : s.Serving T rs) (hop : op.Allowed T s)
    (hrun : (op.runTurns T).run s = .ok ts u) : ∃ rs', TurnStep T s rs op ts u rs' := by
  cases op with
  | process time =>
    obtain ⟨ts', u', rs', hturns, hu, hdone, hnext, htakes⟩ := requestTurns_run hs time
    obtain ⟨rfl, rfl⟩ := EStateM.Result.ok.inj (hrun.symm.trans hturns)
    refine ⟨rs', hu, hnext.ge, fun x hx => hdone.noWrap hx,
      fun r before _ hr => hdone.standing hs.requests.distinct hr, ?_⟩
    rintro - - hwaiting hroom
    rw [hs.requests.waiting_eq] at hwaiting
    exact htakes hroom hwaiting
  | add toId info hourNumber startLog endLog =>
    obtain ⟨o, v, hcall, hreturn⟩ := run_bind_inv hrun
    obtain ⟨rfl, rfl⟩ := EStateM.Result.ok.inj hreturn
    obtain ⟨accepted, rs', -, haccepts, hu⟩ :=
      accepting_step hs (fun _ hadd => add_accepting hs hadd) hcall
    exact ⟨rs', haccepts.turnStep hu (by simp)⟩
  | receiveRequest packet =>
    obtain ⟨o, v, hcall, hreturn⟩ := run_bind_inv hrun
    obtain ⟨rfl, rfl⟩ := EStateM.Result.ok.inj hreturn
    obtain ⟨accepted, rs', -, haccepts, hu⟩ :=
      accepting_step hs (fun _ hreceive => receiveRequest_accepting hs hreceive) hcall
    exact ⟨rs', haccepts.turnStep hu (by simp)⟩
  | receiveCheck packet =>
    obtain ⟨o, v, hcall, hreturn⟩ := run_bind_inv hrun
    obtain ⟨rfl, rfl⟩ := EStateM.Result.ok.inj hreturn
    obtain ⟨accepted, rs', -, haccepts, hu⟩ :=
      accepting_step hs (fun _ hreceive => receiveCheck_accepting hs hreceive) hcall
    exact ⟨rs', haccepts.turnStep hu (by simp)⟩
  | other v =>
    obtain ⟨o, w, hcall, hreturn⟩ := run_bind_inv hrun
    obtain ⟨rfl, rfl⟩ := EStateM.Result.ok.inj hreturn
    obtain ⟨-, rfl⟩ := EStateM.Result.ok.inj hcall
    have hkept : Accepts s rs none v none rs :=
      .kept (hs.requests.congr hop.queue hop.requests) (congrArg Heap.next hop.requests).ge
    exact ⟨rs, hkept.turnStep (hs.undisturbed hop) (by simp)⟩

lemma turnsOf_snoc (tr : List (RequestOp δ × List (Turn δ))) (op : RequestOp δ)
    (ts : List (Turn δ)) : turnsOf (tr ++ [(op, ts)]) = turnsOf tr ++ ts := by
  simp [turnsOf]

/-- In every run a request is dropped soon after it has become the oldest one, whatever end it
asks for and whatever fails; its cursor does not wrap. -/
theorem oldest_droppedWithin {tr : List (RequestOp δ × List (Turn δ))} (hs : s.Serving T rs)
    (htr : Trace (RequestOp.runTurns T) s tr u)
    (hallowed : Throughout (RequestOp.runTurns T) s (fun _ t op _ => op.Allowed T t) tr) :
    (∀ x, .round x ∈ turnsOf tr → x.NoWrap) ∧
      (∀ r ∈ s.waiting.head?, DroppedWithin (T.sampleRateMax + 52) r (turnsOf tr) u) ∧
      Throughout (RequestOp.runTurns T) s (fun _ => RequestOp.TakesTurn) tr := by
  let I : List (RequestOp δ × List (Turn δ)) → Globals δ → Prop := fun tr t => ∃ rs',
    t.Serving T rs' ∧ s.requests.next ≤ t.requests.next ∧
    (∀ x, .round x ∈ turnsOf tr → x.NoWrap) ∧ ∀ r ∈ s.waiting.head?, Standing T r (turnsOf tr) rs'
  have hstart : I [] s := by
    refine ⟨rs, hs, Nat.le_refl _, by simp [turnsOf], ?_⟩
    intro r hr
    rw [hs.requests.waiting_eq] at hr
    obtain ⟨rest, rfl⟩ := List.head?_eq_some_iff.mp hr
    exact .oldest rfl (by simp [turnsOf]) (by simp [turnsOf])
  have hstep : ∀ tr t op ts v, I tr t → op.Allowed T t → (op.runTurns T).run t = .ok ts v →
      I (tr ++ [(op, ts)]) v ∧ op.TakesTurn t ts := by
    rintro tr t op ts v ⟨rs', ht, hnext, hwrap, hstanding⟩ hop hrun
    obtain ⟨rs'', hturn⟩ := op.turnStep ht hop hrun
    refine ⟨⟨rs'', hturn.serving, hnext.trans hturn.next, ?_, ?_⟩, hturn.takes⟩
    · intro x hx
      rw [turnsOf_snoc] at hx
      exact (List.mem_append.mp hx).elim (hwrap x) (hturn.noWrap x)
    · intro r hr
      have hmem : r ∈ rs := by
        rw [hs.requests.waiting_eq] at hr
        exact List.mem_of_mem_head? hr
      have hlt := s.requests.lt_next (Option.isSome_of_eq_some (hs.requests.live r hmem))
      rw [turnsOf_snoc]
      exact hturn.standing r _ (hlt.trans_le hnext) (hstanding r hr)
  obtain ⟨rs', hu, -, hwrap, hstanding⟩ := hallowed.invariant htr hstart
    (fun tr t op ts v ht hop hrun => (hstep tr t op ts v ht hop hrun).1)
  exact ⟨hwrap, fun r hr => (hstanding r hr).droppedWithin hu.requests,
    hallowed.mono htr hstart hstep⟩

end Runs

/-- Everything is asked for of a variable that has two samples. -/
def endlessRequested : Globals Unit :=
  leaves ((dataRequestAdd broadcast ⟨2, 7⟩ 10 0 4294967295).run twoLogged)

lemma endlessRequested_serving :
    ∃ rs, endlessRequested.Serving (Target.bare Settings.zejfMeteo) rs := by
  obtain ⟨rv, q, h, qs, hadd, -⟩ := dataRequestAdd_run twoLogged_serving.requests broadcast ⟨2, 7⟩
    10 0 4294967295
  obtain ⟨accepted, rs, -, hu⟩ := add_accepting twoLogged_serving hadd
  rw [endlessRequested, hadd, leaves_ok]
  exact ⟨rs, hu⟩

/-- Two samples, fifty-one errors and the last turn. -/
theorem endlessRequested_dropped :
    ∃ (tr : List (RequestOp Unit × List (Turn Unit))) (u : Globals Unit),
      tr.map Prod.fst = List.replicate 52 (.process 0) ∧ (turnsOf tr).length = 54 ∧
      (∀ x, .round x ∈ turnsOf tr → x.NoWrap) ∧
      ∀ r ∈ endlessRequested.waiting.head?, DroppedWithin 772 r (turnsOf tr) u := by
  have hlength : (outcome ((serve (RequestOp.runTurns (Target.bare Settings.zejfMeteo))
      (List.replicate 52 (.process 0))).run endlessRequested)).map (fun os =>
        (turnsOf ((List.replicate 52 (.process 0)).zip os)).length) = some 54 := by
    decide +kernel
  obtain ⟨os, hserved, hos⟩ := Option.map_eq_some_iff.mp hlength
  obtain ⟨htr, hops⟩ := Trace.of_serve (run_eq_of_outcome hserved)
  obtain ⟨rs, hs⟩ := endlessRequested_serving
  obtain ⟨hwrap, hdropped, -⟩ := oldest_droppedWithin hs htr (fun pre op o post t he _ => by
    have hop : op ∈ List.replicate 52 (RequestOp.process (δ := Unit) 0) := by
      rw [← hops, he]
      simp
    rw [(List.mem_replicate.mp hop).2]
    trivial)
  exact ⟨_, _, hops, hos, hwrap, hdropped⟩

end ZejfMeteo
