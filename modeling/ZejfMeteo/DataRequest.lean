import ZejfMeteo.Data
import ZejfMeteo.Lib.Triple

/-!
# Requests for data

`data_request.c`: a queue of requests that are answered sample by sample as the transmit
queue has room.
-/

namespace ZejfMeteo
open Runs Format

variable {δ : Type} (T : Target δ)

def readRequest (request : ℕ) : Run (Globals δ) DataRequest :=
  zoom Globals.requestsLens (Heap.read request)

def updateRequest (request : ℕ) (f : DataRequest → DataRequest) : Run (Globals δ) Unit :=
  zoom Globals.requestsLens (Heap.update request f)

def dataRequestDestroy (request : ℕ) : Run (Globals δ) Unit :=
  zoom Globals.requestsLens (Heap.free request)

/-- The request is one for this device, hour and variable. -/
def DataRequest.isFor (request : DataRequest) (toId : UInt16) (hourNumber : UInt32)
    (id : UInt16) : Prop :=
  request.targetDevice = toId ∧ request.hourNumber = hourNumber ∧ request.info.id = id

instance (request : DataRequest) (toId : UInt16) (hourNumber : UInt32) (id : UInt16) :
    Decidable (request.isFor toId hourNumber id) := inferInstanceAs (Decidable (_ ∧ _ ∧ _))

def requestExistsFrom (toId : UInt16) (info : VariableInfo) (hourNumber : UInt32) :
    ℕ → ℕ → Run (Globals δ) Bool
  | 0, _ => throw .outOfFuel
  | fuel + 1, node => do
    let c ← zoom Globals.requestsQueueLens (LinkedList.node node)
    let request ← readRequest c.item
    if request.isFor toId hourNumber info.id then
      return true
    if (← get).dataRequestsQueue.tail = some c.next then
      return false
    requestExistsFrom toId info hourNumber fuel c.next

def requestAlreadyExists (toId : UInt16) (info : VariableInfo) (hourNumber : UInt32) :
    Run (Globals δ) Bool := do
  let s ← get
  match s.dataRequestsQueue.tail with
  | none => return false
  | some tail => requestExistsFrom toId info hourNumber s.dataRequestsQueue.itemCount tail

/-- The request that `data_request_add` makes. -/
def newRequest (toId : UInt16) (info : VariableInfo) (hourNumber startLog endLog : UInt32) :
    DataRequest where
  info
  targetDevice := toId
  hourNumber
  startLog
  endLog
  currentLog := startLog
  errors := 0

/-- A request that finds the queue full is not destroyed. -/
def dataRequestAdd (toId : UInt16) (info : VariableInfo) (hourNumber startLog endLog : UInt32) :
    Run (Globals δ) ZejfErr := do
  if ← requestAlreadyExists toId info hourNumber then
    return .requestAlreadyExists
  let request ← zoom Globals.requestsLens
    (Heap.alloc (newRequest toId info hourNumber startLog endLog))
  if ← zoom Globals.requestsQueueLens (listPush request) then
    return .ok
  return .generic

def requestFinished (request : DataRequest) : Bool := request.endLog < request.currentLog

/-- The loop of `data_requests_process`. Every round but the last uses up a slot, whether
it sends a sample or drops a request; the second request to be dropped ends the loop. -/
def dataRequestsLoop (time : UInt32) : ℕ → ℕ → Run (Globals δ) Unit
  | 0, _ => return
  | remainingSlots + 1, requestCount => do
    let s ← get
    if listIsEmpty s.dataRequestsQueue then
      return
    match listPeek s.dataRequestsQueue with
    | none => throw .nullPointer
    | some node =>
      let c ← zoom Globals.requestsQueueLens (LinkedList.node node)
      let request ← readRequest c.item
      if requestFinished request ∨ 50 < request.errors then
        match ← zoom Globals.requestsQueueLens listPop with
        | none => pure ()
        | some popped => dataRequestDestroy popped
        if requestCount + 1 = 3 then
          return
        dataRequestsLoop time remainingSlots (requestCount + 1)
      else
        let (rv, val) ← dataGetVal T request.info request.hourNumber request.currentLog true false
        let success ← match rv, val with
          | .ok, some val => do
            let rv ← dataSendLog T request.targetDevice request.info request.hourNumber
              request.currentLog val time
            pure (rv == .ok)
          | _, _ => pure false
        if success then
          updateRequest c.item (fun r => { r with currentLog := r.currentLog + 1 })
          dataRequestsLoop time remainingSlots requestCount
        else
          updateRequest c.item (fun r => { r with errors := r.errors + 1 })

def dataRequestsProcess (time : UInt32) : Run (Globals δ) Unit := do
  let remainingSlots ← allocatePacketQueue priorityHigh
  dataRequestsLoop T time remainingSlots 1

/-- A request in the queue, with its address and that of its node. -/
structure Requested where
  node : ℕ
  addr : ℕ
  request : DataRequest

def Requested.ref (r : Requested) : ℕ × ℕ := (r.node, r.addr)

/-- The queue holds these live requests, no request twice. -/
structure Globals.RequestsHold (s : Globals δ) (rs : List Requested) : Prop where
  holds : s.dataRequestsQueue.Holds (rs.map Requested.ref)
  live : ∀ r ∈ rs, s.requests.cells r.addr = some r.request
  distinct : (rs.map Requested.addr).Nodup

lemma Globals.RequestsHold.congr {s t : Globals δ} {rs : List Requested} (h : s.RequestsHold rs)
    (hq : t.dataRequestsQueue = s.dataRequestsQueue) (hr : t.requests = s.requests) :
    t.RequestsHold rs :=
  ⟨hq ▸ h.holds, hr ▸ h.live, h.distinct⟩

def isPending (rs : List Requested) (toId : UInt16) (hourNumber : UInt32) (id : UInt16) : Bool :=
  rs.any (fun r => decide (r.request.isFor toId hourNumber id))

section Requests

variable {T} {s : Globals δ} {rs qs : List Requested} {r : Requested}

lemma zejfInit_requestsHold (T : Target δ) (platform : δ) :
    (zejfInit T platform).RequestsHold [] where
  holds := LinkedList.listCreate_holds ℕ _
  live r hr := by cases hr
  distinct := List.nodup_nil

lemma Globals.RequestsHold.length_unique (h : s.RequestsHold rs) (h' : s.RequestsHold qs) :
    rs.length = qs.length := by
  simpa using h.holds.count.symm.trans h'.holds.count

lemma Globals.RequestsHold.node_run (h : s.RequestsHold (rs ++ r :: qs)) :
    (zoom Globals.requestsQueueLens (LinkedList.node r.node)).run s =
      .ok ⟨Ring.firstAddr ((qs ++ rs).map Requested.ref) r.node,
        Ring.lastAddr r.node ((qs ++ rs).map Requested.ref), r.addr⟩ s := by
  have hq := h.holds
  rw [List.map_append, List.map_cons] at hq
  rw [List.map_append]
  exact run_zoom_ok (l := Globals.requestsQueueLens) hq.node_run

lemma readRequest_run (h : s.requests.cells r.addr = some r.request) :
    (readRequest r.addr).run s = .ok r.request s := by
  rw [readRequest, run_zoom_ok (l := Globals.requestsLens) (Heap.read_run h), Lens.set_get]

/-- The walk from the tail along the queue. -/
lemma requestExistsFrom_run {toId : UInt16} {info : VariableInfo} {hourNumber : UInt32} {fuel : ℕ}
    (h : s.RequestsHold (rs ++ r :: qs))
    (hrs : isPending rs toId hourNumber info.id = false) (hfuel : qs.length < fuel) :
    (requestExistsFrom toId info hourNumber fuel r.node).run s =
      .ok (isPending (rs ++ r :: qs) toId hourNumber info.id) s := by
  have htail : s.dataRequestsQueue.tail = some (Ring.firstAddr (rs.map Requested.ref) r.node) := by
    rw [h.holds.tail, List.map_append, List.map_cons]
    exact LinkedList.head?_map_fst_append_cons _ _ _
  induction qs generalizing rs r fuel with
  | nil =>
    obtain ⟨fuel, rfl⟩ := Nat.exists_eq_succ_of_ne_zero (Nat.ne_zero_of_lt hfuel)
    rw [requestExistsFrom, run_bind_ok h.node_run,
      run_bind_ok (readRequest_run (h.live r (by simp)))]
    by_cases hr : r.request.isFor toId hourNumber info.id
    · rw [if_pos hr]
      simp [isPending, hr]
    · rw [if_neg hr, run_bind_ok (EStateM.run_get s), if_pos (by simpa using htail)]
      simp only [isPending, List.any_append, List.any_cons, List.any_nil, hr] at hrs ⊢
      rw [hrs]
      rfl
  | cons q qs ih =>
    obtain ⟨fuel, rfl⟩ := Nat.exists_eq_succ_of_ne_zero (Nat.ne_zero_of_lt hfuel)
    rw [requestExistsFrom, run_bind_ok h.node_run,
      run_bind_ok (readRequest_run (h.live r (by simp)))]
    by_cases hr : r.request.isFor toId hourNumber info.id
    · rw [if_pos hr]
      simp [isPending, hr]
    · -- The tail is the first node, so it is not the one that comes next.
      have hnext : s.dataRequestsQueue.tail ≠ some q.node := by
        rw [htail]
        intro he
        have hd := h.holds.ring.nodup
        have hmem : Ring.firstAddr (rs.map Requested.ref) r.node ∈
            ((rs ++ [r]).map Requested.ref).map Prod.fst := by
          have hfirst := Ring.firstAddr_mem q.node
            (by simp : ((rs ++ [r]).map Requested.ref) ≠ [])
          simpa [Requested.ref] using hfirst
        have hsplit : rs ++ r :: q :: qs = (rs ++ [r]) ++ q :: qs := by simp
        rw [hsplit, List.map_append, List.map_append] at hd
        exact (List.nodup_append.mp hd).2.2 _ hmem _ (by simp [Requested.ref])
          (Option.some_inj.mp he)
      have hstep : rs ++ r :: q :: qs = (rs ++ [r]) ++ q :: qs := by simp
      rw [if_neg hr, run_bind_ok (EStateM.run_get s)]
      rw [if_neg (by simpa [Requested.ref] using hnext)]
      rw [hstep] at h ⊢
      refine ih h ?_ (by simpa using hfuel) (by simpa [Requested.ref] using htail)
      simp only [isPending, List.any_append, List.any_cons, List.any_nil, hr] at hrs ⊢
      rw [hrs]
      rfl

lemma requestAlreadyExists_run (h : s.RequestsHold rs) (toId : UInt16) (info : VariableInfo)
    (hourNumber : UInt32) : (requestAlreadyExists toId info hourNumber).run s =
      .ok (isPending rs toId hourNumber info.id) s := by
  unfold requestAlreadyExists
  rw [run_bind_ok (EStateM.run_get s)]
  cases rs with
  | nil =>
    have htail : s.dataRequestsQueue.tail = none := h.holds.tail
    simp only [htail]
    rfl
  | cons r rs =>
    have htail : s.dataRequestsQueue.tail = some r.node := h.holds.tail
    have h' : s.RequestsHold ([] ++ r :: rs) := h
    simp only [htail]
    apply requestExistsFrom_run h' rfl
    rw [h.holds.count]
    simp

/-- A request is added last unless there is one already or the queue is full. -/
lemma dataRequestAdd_run (h : s.RequestsHold rs) (toId : UInt16) (info : VariableInfo)
    (hourNumber startLog endLog : UInt32) :
    ∃ rv q hs qs, (dataRequestAdd toId info hourNumber startLog endLog).run s =
        .ok rv { s with dataRequestsQueue := q, requests := hs } ∧
      ({ s with dataRequestsQueue := q, requests := hs } : Globals δ).RequestsHold qs ∧
      q.capacity = s.dataRequestsQueue.capacity ∧
      hs = (if isPending rs toId hourNumber info.id then s.requests
        else s.requests.push (newRequest toId info hourNumber startLog endLog)) ∧
      if isPending rs toId hourNumber info.id ∨ listIsFull s.dataRequestsQueue then
        rv ≠ .ok ∧ qs = rs
      else rv = .ok ∧ s.requests.next < hs.next ∧ ∃ node, qs = rs ++
        [⟨node, s.requests.next, newRequest toId info hourNumber startLog endLog⟩] := by
  have hexists := requestAlreadyExists_run h toId info hourNumber
  unfold dataRequestAdd
  rw [run_bind_ok hexists]
  by_cases hpending : isPending rs toId hourNumber info.id = true
  · rw [if_pos hpending]
    refine ⟨.requestAlreadyExists, s.dataRequestsQueue, s.requests, rs, rfl, h, rfl,
      (if_pos hpending).symm, ?_⟩
    rw [if_pos (Or.inl hpending)]
    exact ⟨by decide, rfl⟩
  rw [if_neg hpending]
  have halloc : (zoom Globals.requestsLens (Heap.alloc
      (newRequest toId info hourNumber startLog endLog))).run s =
        .ok s.requests.next { s with
          requests := s.requests.push (newRequest toId info hourNumber startLog endLog) } :=
    run_zoom_ok (l := Globals.requestsLens) (Heap.alloc_run _ _)
  have hlive : ∀ r ∈ rs, (s.requests.push
      (newRequest toId info hourNumber startLog endLog)).cells r.addr = some r.request := by
    intro r hr
    have hcell := h.live r hr
    have hne := s.requests.ne_next (a := r.addr) (by rw [hcell]; rfl)
    rw [Heap.push_cells, if_neg hne, hcell]
  rw [run_bind_ok halloc]
  by_cases hfull : listIsFull s.dataRequestsQueue = true
  · -- The new request is lost, nothing points to it any more.
    have hlength : (rs.map Requested.ref).length = s.dataRequestsQueue.capacity := by
      rw [h.holds.isFull] at hfull
      exact of_decide_eq_true hfull
    have hpush := LinkedList.listPush_full h.holds hlength s.requests.next
    have hzoom : (zoom Globals.requestsQueueLens (listPush s.requests.next)).run { s with
        requests := s.requests.push (newRequest toId info hourNumber startLog endLog) } =
          .ok false { s with
            requests := s.requests.push (newRequest toId info hourNumber startLog endLog) } :=
      run_zoom_ok (l := Globals.requestsQueueLens) hpush
    refine ⟨.generic, s.dataRequestsQueue,
      s.requests.push (newRequest toId info hourNumber startLog endLog), rs, ?_,
      ⟨h.holds, hlive, h.distinct⟩, rfl, (if_neg hpending).symm, ?_⟩
    · rw [run_bind_ok hzoom]
      rfl
    · rw [if_pos (Or.inr hfull)]
      exact ⟨by decide, rfl⟩
  · have hroom : (rs.map Requested.ref).length < s.dataRequestsQueue.capacity := by
      have hbounded := h.holds.bounded
      rw [h.holds.isFull, decide_eq_true_eq] at hfull
      omega
    obtain ⟨q, hpush, hq, hcap, -, -⟩ :=
      LinkedList.listPush_holds h.holds hroom s.requests.next
    have hzoom : (zoom Globals.requestsQueueLens (listPush s.requests.next)).run { s with
        requests := s.requests.push (newRequest toId info hourNumber startLog endLog) } =
          .ok true { s with
            dataRequestsQueue := q
            requests := s.requests.push (newRequest toId info hourNumber startLog endLog) } :=
      run_zoom_ok (l := Globals.requestsQueueLens) hpush
    refine ⟨.ok, q, s.requests.push (newRequest toId info hourNumber startLog endLog),
      rs ++ [⟨s.dataRequestsQueue.nodes.next, s.requests.next,
        newRequest toId info hourNumber startLog endLog⟩], ?_, ⟨?_, ?_, ?_⟩, hcap,
      (if_neg hpending).symm, ?_⟩
    · rw [run_bind_ok hzoom]
      rfl
    · rw [List.map_append]
      exact hq
    · intro r hr
      rcases List.mem_append.mp hr with hr | hr
      · exact hlive r hr
      · rw [List.mem_singleton.mp hr, Heap.push_cells, if_pos rfl]
    · rw [List.map_append]
      refine List.nodup_append.mpr ⟨h.distinct, List.nodup_singleton _, ?_⟩
      intro a ha b hb hab
      obtain ⟨r, hr, rfl⟩ := List.mem_map.mp ha
      have hb' : b = s.requests.next := by simpa using hb
      exact s.requests.ne_next (a := r.addr) (by rw [h.live r hr]; rfl) (hab.trans hb')
    · rw [if_neg (by simp [hpending, hfull])]
      exact ⟨rfl, Nat.lt_succ_self _, _, rfl⟩

/-- A call of `data_request_add` touches nothing but the requests. -/
lemma dataRequestAdd_keeps (h : s.RequestsHold rs) {t : Globals δ} {rv : ZejfErr} {toId : UInt16}
    {info : VariableInfo} {hourNumber startLog endLog : UInt32}
    (hrun : (dataRequestAdd toId info hourNumber startLog endLog).run s = .ok rv t) :
    ∃ q hs qs, t = { s with dataRequestsQueue := q, requests := hs } ∧ t.RequestsHold qs := by
  obtain ⟨rv', q, hs, qs, hadd, hqs, -⟩ :=
    dataRequestAdd_run h toId info hourNumber startLog endLog
  obtain ⟨-, rfl⟩ := EStateM.Result.ok.inj (hrun.symm.trans hadd)
  exact ⟨q, hs, qs, rfl, hqs⟩

/-- The oldest request is the one at the tail. -/
lemma Globals.RequestsHold.head_run (h : s.RequestsHold (r :: rs)) :
    listIsEmpty s.dataRequestsQueue = false ∧ listPeek s.dataRequestsQueue = some r.node ∧
      ∃ c, (zoom Globals.requestsQueueLens (LinkedList.node r.node)).run s = .ok c s ∧
        c.item = r.addr ∧ (readRequest r.addr).run s = .ok r.request s := by
  have h' : s.RequestsHold ([] ++ r :: rs) := h
  refine ⟨?_, h.holds.tail, _, h'.node_run, rfl, readRequest_run (h.live r (by simp))⟩
  simp [listIsEmpty, h.holds.count]

lemma Globals.RequestsHold.empty (h : s.RequestsHold []) :
    listIsEmpty s.dataRequestsQueue = true := by
  simp [listIsEmpty, h.holds.count]

lemma Globals.RequestsHold.others (h : s.RequestsHold (r :: rs)) :
    ∀ x ∈ rs, x.addr ≠ r.addr ∧ s.requests.cells x.addr = some x.request := by
  intro x hx
  have hd := h.distinct
  rw [List.map_cons, List.nodup_cons] at hd
  refine ⟨?_, h.live x (List.mem_cons_of_mem r hx)⟩
  intro he
  exact hd.1 (he ▸ List.mem_map_of_mem hx)

/-- Dropping the oldest request. -/
lemma Globals.RequestsHold.pop_run (h : s.RequestsHold (r :: rs)) :
    ∃ q hs, (zoom Globals.requestsQueueLens listPop).run s =
        .ok (some r.addr) { s with dataRequestsQueue := q } ∧
      (dataRequestDestroy r.addr).run { s with dataRequestsQueue := q } =
        .ok () { s with dataRequestsQueue := q, requests := hs } ∧
      ({ s with dataRequestsQueue := q, requests := hs } : Globals δ).RequestsHold rs ∧
      q.capacity = s.dataRequestsQueue.capacity ∧ hs = s.requests.erase r.addr := by
  obtain ⟨q, hpop, hq, hcap, -⟩ := LinkedList.listPop_holds (a := r.node) (v := r.addr) h.holds
  have hzoom : (zoom Globals.requestsQueueLens listPop).run s =
      .ok (some r.addr) { s with dataRequestsQueue := q } :=
    run_zoom_ok (l := Globals.requestsQueueLens) hpop
  have hlive : (s.requests.cells r.addr).isSome := by
    rw [h.live r (by simp)]
    rfl
  have hfree : (dataRequestDestroy r.addr).run { s with dataRequestsQueue := q } =
      .ok () { s with dataRequestsQueue := q, requests := s.requests.erase r.addr } :=
    run_zoom_ok (l := Globals.requestsLens) (Heap.free_run hlive)
  refine ⟨q, s.requests.erase r.addr, hzoom, hfree, ⟨hq, ?_, ?_⟩, hcap, rfl⟩
  · intro x hx
    obtain ⟨hne, hcell⟩ := h.others x hx
    show (s.requests.erase r.addr).cells x.addr = _
    rw [Heap.erase_cells, if_neg hne]
    exact hcell
  · have hd := h.distinct
    rw [List.map_cons, List.nodup_cons] at hd
    exact hd.2

/-- Changing the oldest request. -/
lemma Globals.RequestsHold.update_run (h : s.RequestsHold (r :: rs))
    (f : DataRequest → DataRequest) : ∃ hs, (updateRequest r.addr f).run s =
        .ok () { s with requests := hs } ∧
      ({ s with requests := hs } : Globals δ).RequestsHold
        ({ r with request := f r.request } :: rs) ∧ hs = s.requests.modify r.addr f := by
  have hcell := h.live r (by simp)
  have hlive : (s.requests.cells r.addr).isSome := by
    rw [hcell]
    rfl
  refine ⟨s.requests.modify r.addr f, run_zoom_ok (l := Globals.requestsLens)
    (Heap.update_run f hlive), ⟨h.holds, ?_, h.distinct⟩, rfl⟩
  intro x hx
  show (s.requests.modify r.addr f).cells x.addr = _
  rcases List.mem_cons.mp hx with rfl | hx
  · simp [Heap.modify_cells, hcell]
  · obtain ⟨hne, hcell'⟩ := h.others x hx
    rw [Heap.modify_cells, if_neg hne]
    exact hcell'

/-- What dropping the oldest request, reading a sample for it, sending the sample and moving
its cursors keep holds after `data_requests_process`. -/
theorem dataRequestsLoop_triple {E : Fault → Prop} {I : List Requested → Globals δ → Prop}
    {time : UInt32} (hI : ∀ rs s, I rs s → s.RequestsHold rs)
    (hpop : ∀ r rs s q hs, I (r :: rs) s →
      ({ s with dataRequestsQueue := q, requests := hs } : Globals δ).RequestsHold rs →
      q.capacity = s.dataRequestsQueue.capacity → hs = s.requests.erase r.addr →
        I rs { s with dataRequestsQueue := q, requests := hs })
    (hmove : ∀ r rs s hs c n, I (r :: rs) s → ({ s with requests := hs } : Globals δ).RequestsHold
        ({ r with request := { r.request with currentLog := c, errors := n } } :: rs) →
      (∀ a, (hs.cells a).isSome = (s.requests.cells a).isSome) →
      I ({ r with request := { r.request with currentLog := c, errors := n } } :: rs)
        { s with requests := hs })
    (hget : ∀ r rs, Triple E (I (r :: rs)) (dataGetVal T r.request.info r.request.hourNumber
      r.request.currentLog true false) (fun _ => I (r :: rs)))
    (hsend : ∀ r rs val, Triple E (I (r :: rs)) (dataSendLog T r.request.targetDevice
      r.request.info r.request.hourNumber r.request.currentLog val time) (fun _ => I (r :: rs)))
    (remainingSlots requestCount : ℕ) : Triple E (I rs)
      (dataRequestsLoop T time remainingSlots requestCount) (fun _ s => ∃ rs', I rs' s) := by
  induction remainingSlots generalizing rs requestCount with
  | zero => exact Triple.pure (fun s hs => ⟨rs, hs⟩)
  | succ n ih =>
    intro s hs
    have hr := hI _ _ hs
    rw [dataRequestsLoop, run_bind_ok (EStateM.run_get s)]
    cases rs with
    | nil =>
      rw [if_pos hr.empty]
      exact Or.inl ⟨(), s, rfl, [], hs⟩
    | cons r rs =>
      obtain ⟨hempty, hpeek, c, hnode, hitem, hread⟩ := hr.head_run
      rw [if_neg (by simp [hempty]), hpeek]
      dsimp only
      rw [run_bind_ok hnode, hitem, run_bind_ok hread]
      by_cases hdone : requestFinished r.request ∨ 50 < r.request.errors
      · rw [if_pos hdone]
        obtain ⟨q, hs', hpopped, hfree, hr', hcap, hheap⟩ := hr.pop_run
        rw [run_bind_ok hpopped]
        dsimp only
        rw [run_bind_ok hfree]
        by_cases hthird : requestCount + 1 = 3
        · rw [if_pos hthird]
          exact Or.inl ⟨(), _, rfl, rs, hpop r rs s q hs' hs hr' hcap hheap⟩
        · rw [if_neg hthird]
          exact ih (requestCount + 1) _ (hpop r rs s q hs' hs hr' hcap hheap)
      · rw [if_neg hdone]
        have hround : ∀ success : Bool, Triple E (I (r :: rs))
            (if success then do
              updateRequest r.addr (fun r => { r with currentLog := r.currentLog + 1 })
              dataRequestsLoop T time n requestCount
            else
              updateRequest r.addr (fun r => { r with errors := r.errors + 1 }))
            (fun _ s => ∃ rs', I rs' s) := by
          intro success
          apply Triple.ite
          · intro _ s hs
            obtain ⟨hs', hrun, hr', hheap⟩ := (hI _ _ hs).update_run
              (fun r => { r with currentLog := r.currentLog + 1 })
            rw [run_bind_ok hrun]
            exact ih requestCount _ (hmove r rs s hs' _ _ hs hr' (fun a => by
              rw [hheap, Heap.modify_isSome]))
          · intro _ s hs
            obtain ⟨hs', hrun, hr', hheap⟩ := (hI _ _ hs).update_run
              (fun r => { r with errors := r.errors + 1 })
            exact Or.inl ⟨(), _, hrun, _, hmove r rs s hs' _ _ hs hr' (fun a => by
              rw [hheap, Heap.modify_isSome])⟩
        refine Triple.bind (hget r rs) ?_ s hs
        rintro ⟨rv, val⟩
        dsimp only
        split
        · exact Triple.bind (hsend r rs _) (fun rv => hround _)
        · exact hround false

end Requests

end ZejfMeteo
