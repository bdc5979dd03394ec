import ZejfMeteo.Streaming

/-!
# The requests that the queue owns

`data_request_add` makes a request and hands it to the queue, which destroys it when it has been
answered. A request that the queue has no room for belongs to nobody.
-/

namespace ZejfMeteo
open Runs Format

variable {δ : Type} (T : Target δ)

/-- What makes two requests the same. -/
def DataRequest.key (request : DataRequest) : UInt16 × UInt32 × UInt16 :=
  (request.targetDevice, request.hourNumber, request.info.id)

/-- The requests that exist are those in the queue, no two for the same device, hour and variable,
and not too many. -/
structure Globals.OwnsRequests (s : Globals δ) : Prop where
  owned : ∀ a, (s.requests.cells a).isSome ↔ a ∈ s.dataRequestsQueue.items.map Prod.snd
  distinct : (s.waiting.map (fun r => r.request.key)).Nodup
  bounded : s.dataRequestsQueue.itemCount ≤ T.dataRequestQueueSize

/-- The request that an operation has to add: a check asks for one if more is stored than the
other side has. -/
def RequestOp.adds (t : Globals δ) : RequestOp δ → Option DataRequest
  | .receiveCheck packet => (packet.message.bind numberFields).bind fun f =>
    let result := checkResult T f.info f.first (localVariable T t f.hourNum f.info.id)
    if result.1 = .ok ∧ f.second < result.2.getD 0 then
      some (newRequest packet.fromId f.info f.hourNum 0 f.first)
    else none
  | op => op.asks

/-- There is room for the request, or one for the same device, hour and variable waits. -/
def RequestOp.FindsRoom (t : Globals δ) (op : RequestOp δ) : Prop :=
  ∀ request, op.adds T t = some request →
    request.key ∈ t.waiting.map (fun r => r.request.key) ∨ listIsFull t.dataRequestsQueue = false

/-- What becomes of a request that is to be added, if there is one: it may be known already, and
if it is new, it is made whether there is room for it or not. -/
inductive Added (s : Globals δ) (rs : List Requested) (u : Globals δ) :
    Option DataRequest → List Requested → Prop
  | nothing (requests : u.requests = s.requests) : Added s rs u none rs
  | pending {request : DataRequest} (known : request.key ∈ rs.map (fun r => r.request.key))
    (requests : u.requests = s.requests) : Added s rs u (some request) rs
  | lost {request : DataRequest} (new : request.key ∉ rs.map (fun r => r.request.key))
    (full : listIsFull s.dataRequestsQueue = true)
    (requests : u.requests = s.requests.push request) : Added s rs u (some request) rs
  | queued {request : DataRequest} (node : ℕ)
    (new : request.key ∉ rs.map (fun r => r.request.key))
    (room : listIsFull s.dataRequestsQueue = false)
    (requests : u.requests = s.requests.push request) :
    Added s rs u (some request) (rs ++ [⟨node, s.requests.next, request⟩])

/-- The requests after a call that may add one. -/
structure Globals.Adding (s : Globals δ) (rs : List Requested) (request : Option DataRequest)
    (u : Globals δ) (qs : List Requested) : Prop where
  added : Added s rs u request qs
  holds : u.RequestsHold qs
  capacity : u.dataRequestsQueue.capacity = s.dataRequestsQueue.capacity

/-- All requests are in the queue, whose capacity is the one it was made with. -/
structure Globals.Owning (s : Globals δ) (rs : List Requested) : Prop where
  serving : s.Serving T rs
  owned : ∀ a, (s.requests.cells a).isSome → a ∈ rs.map Requested.addr
  distinct : (rs.map (fun r => r.request.key)).Nodup
  capacity : s.dataRequestsQueue.capacity = T.dataRequestQueueSize

section Owning

variable {T} {s t u : Globals δ} {rs qs : List Requested} {o : RequestResult δ}
  {op : RequestOp δ} {packet : Packet} {rv : ZejfErr}

lemma Globals.RequestsHold.items_addr (h : s.RequestsHold rs) :
    s.dataRequestsQueue.items.map Prod.snd = rs.map Requested.addr := by
  rw [h.holds.items_eq, List.map_map]
  rfl

lemma isPending_iff {toId : UInt16} {hourNumber : UInt32} {info : VariableInfo}
    (startLog endLog : UInt32) : isPending rs toId hourNumber info.id = true ↔
      (newRequest toId info hourNumber startLog endLog).key ∈ rs.map (fun r => r.request.key) := by
  simp only [isPending, List.any_eq_true, decide_eq_true_eq]
  simp [DataRequest.isFor, DataRequest.key, newRequest]

lemma Globals.Owning.ownsRequests (h : s.Owning T rs) : s.OwnsRequests T where
  owned a := by
    rw [h.serving.requests.items_addr]
    refine ⟨h.owned a, fun ha => ?_⟩
    obtain ⟨r, hr, rfl⟩ := List.mem_map.mp ha
    exact Option.isSome_of_eq_some (h.serving.requests.live r hr)
  distinct := by
    rw [h.serving.requests.waiting_eq]
    exact h.distinct
  bounded := by
    have hbounded := h.serving.requests.holds.bounded
    rw [h.serving.requests.holds.count, ← h.capacity]
    exact hbounded

lemma Globals.OwnsRequests.owning (h : s.OwnsRequests T) (hs : s.Serving T rs)
    (hcap : s.dataRequestsQueue.capacity = T.dataRequestQueueSize) : s.Owning T rs where
  serving := hs
  owned a ha := by
    rw [← hs.requests.items_addr]
    exact (h.owned a).mp ha
  distinct := by
    rw [← hs.requests.waiting_eq]
    exact h.distinct
  capacity := hcap

lemma Globals.Owning.undisturbed (h : s.Owning T rs) (hu : Undisturbed T s u) :
    u.Owning T rs where
  serving := h.serving.undisturbed hu
  owned := by
    rw [hu.requests]
    exact h.owned
  distinct := h.distinct
  capacity := by
    rw [hu.queue]
    exact h.capacity

lemma Globals.Owning.drop {r : Requested} (h : s.Owning T (r :: rs)) {q : LinkedList ℕ}
    {hs : Heap DataRequest}
    (hr : ({ s with dataRequestsQueue := q, requests := hs } : Globals δ).RequestsHold rs)
    (hcap : q.capacity = s.dataRequestsQueue.capacity) (hheap : hs = s.requests.erase r.addr) :
    ({ s with dataRequestsQueue := q, requests := hs } : Globals δ).Owning T rs where
  serving := h.serving.setRequests hr
  owned a ha := by
    have hcell : ((s.requests.erase r.addr).cells a).isSome := by
      rw [← hheap]
      exact ha
    rw [Heap.erase_cells] at hcell
    split at hcell
    · cases hcell
    · exact (List.mem_cons.mp (h.owned a hcell)).resolve_left ‹_›
  distinct := (List.nodup_cons.mp h.distinct).2
  capacity := hcap.trans h.capacity

lemma Globals.Owning.move {r : Requested} (h : s.Owning T (r :: rs)) {hs : Heap DataRequest}
    {c : UInt32} {n : UInt16}
    (hr : ({ s with requests := hs } : Globals δ).RequestsHold
      ({ r with request := { r.request with currentLog := c, errors := n } } :: rs))
    (hheap : ∀ a, (hs.cells a).isSome = (s.requests.cells a).isSome) :
    ({ s with requests := hs } : Globals δ).Owning T
      ({ r with request := { r.request with currentLog := c, errors := n } } :: rs) where
  serving := h.serving.setRequests hr
  owned a ha := h.owned a ((hheap a).symm.trans ha)
  distinct := h.distinct
  capacity := h.capacity

lemma dataRequestsProcess_owning (time : UInt32) : Triple (fun _ => False) (fun s => s.Owning T rs)
    (dataRequestsProcess T time) (fun _ s => ∃ rs', s.Owning T rs') := by
  have hget : ∀ r rs, Triple (fun _ => False) (fun s => s.Owning T (r :: rs)) (dataGetVal T
      r.request.info r.request.hourNumber r.request.currentLog true false)
      (fun _ s => s.Owning T (r :: rs)) := by
    intro r rs
    apply Triple.of_run
    intro s hs
    obtain ⟨v, u, hrun, hu⟩ := dataGetVal_undisturbed hs.serving r.request.info
      r.request.hourNumber r.request.currentLog true false
    exact ⟨v, u, hrun, hs.undisturbed hu⟩
  have hsend : ∀ r rs val, Triple (fun _ => False) (fun s => s.Owning T (r :: rs)) (dataSendLog T
      r.request.targetDevice r.request.info r.request.hourNumber r.request.currentLog val time)
      (fun _ s => s.Owning T (r :: rs)) := by
    intro r rs val
    apply Triple.of_run
    intro s hs
    obtain ⟨rv, u, hrun, hu⟩ := dataSendLog_undisturbed hs.serving r.request.targetDevice
      r.request.info r.request.hourNumber r.request.currentLog val time
    exact ⟨rv, u, hrun, hs.undisturbed hu⟩
  intro s hs
  rw [dataRequestsProcess, allocatePacketQueue, bind_assoc, run_bind_ok (EStateM.run_get s),
    pure_bind]
  exact dataRequestsLoop_triple (I := fun rs s => s.Owning T rs) (fun _ _ h => h.serving.requests)
    (fun _ _ _ _ _ h hr hcap hheap => h.drop hr hcap hheap)
    (fun _ _ _ _ _ _ h hr hheap => h.move hr hheap) hget hsend _ 1 s hs

lemma Globals.Adding.same (hs : s.RequestsHold rs) (hq : u.dataRequestsQueue = s.dataRequestsQueue)
    (hr : u.requests = s.requests) : s.Adding rs none u rs :=
  ⟨.nothing hr, hs.congr hq hr, congrArg LinkedList.capacity hq⟩

lemma Globals.Adding.congr {v w : Globals δ} {request : Option DataRequest}
    (h : s.Adding rs request u qs) (hsq : v.dataRequestsQueue = s.dataRequestsQueue)
    (hsr : v.requests = s.requests) (huq : w.dataRequestsQueue = u.dataRequestsQueue)
    (hur : w.requests = u.requests) : v.Adding rs request w qs := by
  obtain ⟨hadded, hholds, hcap⟩ := h
  refine ⟨?_, hholds.congr huq hur, by rw [huq, hsq, hcap]⟩
  cases hadded with
  | nothing requests => exact .nothing (by rw [hur, hsr, requests])
  | pending known requests => exact .pending known (by rw [hur, hsr, requests])
  | lost new full requests => exact .lost new (hsq ▸ full) (by rw [hur, hsr, requests])
  | queued node new room requests =>
    rw [← hsr]
    exact .queued node new (hsq ▸ room) (by rw [hur, hsr, requests])

lemma dataRequestAdd_adding (hs : s.RequestsHold rs) {toId : UInt16} {info : VariableInfo}
    {hourNumber startLog endLog : UInt32}
    (hrun : (dataRequestAdd toId info hourNumber startLog endLog).run s = .ok rv u) :
    ∃ qs, s.Adding rs (some (newRequest toId info hourNumber startLog endLog)) u qs := by
  obtain ⟨rv', q, hs', qs, hadd, hqs, hcap, hheap, hcase⟩ :=
    dataRequestAdd_run hs toId info hourNumber startLog endLog
  obtain ⟨-, rfl⟩ := EStateM.Result.ok.inj (hrun.symm.trans hadd)
  refine ⟨qs, ?_, hqs, hcap⟩
  by_cases hpending : isPending rs toId hourNumber info.id = true
  · rw [if_pos hpending] at hheap
    rw [if_pos (Or.inl hpending)] at hcase
    rw [hcase.2]
    exact .pending ((isPending_iff startLog endLog).mp hpending) hheap
  · have hnew := mt (isPending_iff startLog endLog).mpr hpending
    rw [if_neg hpending] at hheap
    by_cases hfull : listIsFull s.dataRequestsQueue = true
    · rw [if_pos (Or.inr hfull)] at hcase
      rw [hcase.2]
      exact .lost hnew hfull hheap
    · rw [if_neg (by tauto)] at hcase
      obtain ⟨-, -, node, rfl⟩ := hcase
      exact .queued node hnew (Bool.eq_false_iff.mpr hfull) hheap

lemma inHand_adding {request : Option DataRequest} {handle : ℕ → Run (Globals δ) ZejfErr}
    (hhandle : ∀ t, (handle s.packets.next).run { s with packets := s.packets.push packet } =
      .ok rv t → ∃ qs,
        ({ s with packets := s.packets.push packet } : Globals δ).Adding rs request t qs)
    (hrun : (inHand packet handle).run s = .ok rv u) : ∃ qs, s.Adding rs request u qs := by
  obtain ⟨t, hrun', rfl⟩ := inHand_cases hrun
  obtain ⟨qs, hadding⟩ := hhandle t hrun'
  exact ⟨qs, hadding.congr rfl rfl rfl rfl⟩

lemma receiveRequest_adding (hs : s.RequestsHold rs)
    (hrun : (inHand packet dataRequestReceive).run s = .ok rv u) :
    ∃ qs, s.Adding rs ((RequestOp.receiveRequest packet).adds T s) u qs := by
  refine inHand_adding ?_ hrun
  intro t hreceive
  have hasks : (RequestOp.receiveRequest packet).adds T s =
      RequestOp.asks (δ := δ) (.receiveRequest packet) := rfl
  have hcell : (s.packets.push packet).cells s.packets.next = some packet :=
    (Heap.push_cells _ _ _).trans (if_pos rfl)
  have hr : ({ s with packets := s.packets.push packet } : Globals δ).RequestsHold rs :=
    hs.congr rfl rfl
  obtain ⟨message, hm, ⟨hnone, rfl⟩ | ⟨f, hf, hadd⟩⟩ :=
    dataRequestReceive_cases (s := { s with packets := s.packets.push packet }) hcell hreceive
  · rw [hasks, RequestOp.asks, hm, Option.bind_some, hnone]
    exact ⟨rs, .same hr rfl rfl⟩
  · rw [hasks, RequestOp.asks, hm, Option.bind_some, hf]
    exact dataRequestAdd_adding hr hadd

lemma receiveCheck_adding (hs : s.Serving T rs)
    (hrun : (inHand packet (dataCheckReceive T)).run s = .ok rv u) :
    ∃ qs, s.Adding rs ((RequestOp.receiveCheck packet).adds T s) u qs := by
  refine inHand_adding ?_ hrun
  intro t hreceive
  obtain ⟨xs, hc⟩ := hs.cache
  have hcell : (s.packets.push packet).cells s.packets.next = some packet :=
    (Heap.push_cells _ _ _).trans (if_pos rfl)
  have hc' : ({ s with packets := s.packets.push packet } : Globals δ).CacheHolds T xs :=
    hc.congr rfl
  cases hm : packet.message with
  | none =>
    rw [dataCheckReceive, run_bind_ok (readPacket_run
      (s := { s with packets := s.packets.push packet }) hcell)] at hreceive
    simp only [hm] at hreceive
    cases hreceive
  | some message =>
    rw [dataCheckReceive_eq (s := { s with packets := s.packets.push packet }) hcell hm] at hreceive
    rw [RequestOp.adds, hm, Option.bind_some]
    cases hf : numberFields message with
    | none =>
      rw [hf] at hreceive
      obtain ⟨-, rfl⟩ := EStateM.Result.ok.inj hreceive
      exact ⟨rs, .same (hs.requests.congr rfl rfl) rfl rfl⟩
    | some f =>
      rw [hf] at hreceive
      obtain ⟨ys, q, p, hcalc, -⟩ := calculateDataCheck_local hc' f.info f.hourNum f.first
      have hlocal : localVariable T { s with packets := s.packets.push packet } f.hourNum f.info.id =
          localVariable T s f.hourNum f.info.id := by
        rw [localVariable_eq hc', localVariable_eq hc]
      rw [hlocal] at hcalc
      simp only [Option.bind_some]
      simp only at hreceive
      rw [run_bind_ok hcalc] at hreceive
      generalize checkResult T f.info f.first (localVariable T s f.hourNum f.info.id) = result at *
      have hr : ({ s with packets := s.packets.push packet, dataQueue := q, platform := p } :
          Globals δ).RequestsHold rs := hs.requests.congr rfl rfl
      by_cases hok : result.1 = .ok
      · by_cases hmore : f.second < result.2.getD 0
        · rw [if_pos ⟨hok, hmore⟩]
          rw [if_neg (not_not.mpr hok), if_pos hmore] at hreceive
          obtain ⟨qs, hadding⟩ := dataRequestAdd_adding hr hreceive
          exact ⟨qs, hadding.congr rfl rfl rfl rfl⟩
        · rw [if_neg (fun h => hmore h.2)]
          rw [if_neg (not_not.mpr hok), if_neg hmore] at hreceive
          obtain ⟨-, rfl⟩ := EStateM.Result.ok.inj hreceive
          exact ⟨rs, .same (hs.requests.congr rfl rfl) rfl rfl⟩
      · rw [if_neg (fun h => hok h.1)]
        rw [if_pos hok] at hreceive
        obtain ⟨-, rfl⟩ := EStateM.Result.ok.inj hreceive
        exact ⟨rs, .same (hs.requests.congr rfl rfl) rfl rfl⟩

/-- Every operation but answering requests may add one. -/
lemma RequestOp.adding (hs : s.Serving T rs) (hop : op.Allowed T s)
    (hprocess : ∀ time, op ≠ .process time) (hrun : (op.run T).run s = .ok o u) :
    ∃ qs, s.Adding rs (op.adds T s) u qs := by
  cases op with
  | process time => exact absurd rfl (hprocess time)
  | add toId info hourNumber startLog endLog =>
    obtain ⟨rv, hadd, -⟩ := accepting_run hs.requests hrun
    exact dataRequestAdd_adding hs.requests hadd
  | receiveRequest packet =>
    obtain ⟨rv, hreceive, -⟩ := accepting_run hs.requests hrun
    exact receiveRequest_adding hs.requests hreceive
  | receiveCheck packet =>
    obtain ⟨rv, hreceive, -⟩ := accepting_run hs.requests hrun
    exact receiveCheck_adding hs hreceive
  | other v =>
    obtain ⟨-, rfl⟩ := EStateM.Result.ok.inj hrun
    exact ⟨rs, .same hs.requests hop.queue hop.requests⟩

lemma Globals.RequestsHold.next_notMem (h : s.RequestsHold rs) :
    s.requests.next ∉ rs.map Requested.addr := by
  intro hmem
  obtain ⟨r, hr, he⟩ := List.mem_map.mp hmem
  exact s.requests.ne_next (Option.isSome_of_eq_some (h.live r hr)) he

/-- The queue owns the requests after a call unless one has been lost. -/
lemma Globals.Adding.owning (h : s.Owning T rs) (hadding : s.Adding rs (op.adds T s) u qs)
    (hu : u.Serving T qs) : (op.FindsRoom T s → u.Owning T qs) ∧
      (u.OwnsRequests T → op.FindsRoom T s) := by
  have hwaiting := h.serving.requests.waiting_eq
  have hcap := hadding.capacity.trans h.capacity
  have hadded := hadding.added
  unfold RequestOp.FindsRoom
  rw [hwaiting]
  generalize op.adds T s = request at hadded
  cases hadded with
  | nothing requests =>
    refine ⟨fun _ => ⟨hu, requests ▸ h.owned, h.distinct, hcap⟩, ?_⟩
    rintro - request hrequest
    cases hrequest
  | pending known requests =>
    refine ⟨fun _ => ⟨hu, requests ▸ h.owned, h.distinct, hcap⟩, ?_⟩
    rintro - request hrequest
    obtain rfl := Option.some.inj hrequest
    exact .inl known
  | lost new full requests =>
    constructor
    · intro hroom
      rcases hroom _ rfl with hknown | hroom
      · exact absurd hknown new
      · rw [full] at hroom
        cases hroom
    · -- It exists, but the queue does not have it.
      intro howns
      have hlive : (u.requests.cells s.requests.next).isSome := by
        rw [requests]
        exact Heap.push_isSome_next _ _
      have hmem := (howns.owned _).mp hlive
      rw [hadding.holds.items_addr] at hmem
      exact absurd hmem h.serving.requests.next_notMem
  | queued node new room requests =>
    refine ⟨fun _ => ⟨hu, ?_, ?_, hcap⟩, fun _ _ _ => .inr room⟩
    · intro a ha
      rw [requests, Heap.push_cells] at ha
      rw [List.map_append, List.map_singleton, List.mem_append, List.mem_singleton]
      split at ha
      · exact .inr ‹_›
      · exact .inl (h.owned a ha)
    · rw [List.map_append, List.map_singleton]
      exact List.nodup_append.mpr ⟨h.distinct, List.nodup_singleton _,
        fun x hx y hy he => new ((List.mem_singleton.mp hy) ▸ he ▸ hx)⟩

lemma RequestOp.owning (h : s.Owning T rs) (hop : op.Allowed T s)
    (hrun : (op.run T).run s = .ok o u) :
    (op.FindsRoom T s → ∃ qs, u.Owning T qs) ∧ (u.OwnsRequests T ↔ op.FindsRoom T s) := by
  by_cases hprocess : ∃ time, op = .process time
  · obtain ⟨time, rfl⟩ := hprocess
    obtain ⟨found, v, hrounds, hreturn⟩ := run_bind_inv hrun
    obtain ⟨-, rfl⟩ := EStateM.Result.ok.inj hreturn
    have hcall := (requestRounds_does T time).run_ok hrounds
    rcases dataRequestsProcess_owning time s h with
      ⟨r, w, hw, qs, hqs⟩ | ⟨-, -, -, hfalse⟩
    · obtain ⟨-, rfl⟩ := EStateM.Result.ok.inj (hcall.symm.trans hw)
      have hroom : (RequestOp.process time : RequestOp δ).FindsRoom T s := by
        rintro request hnone
        cases hnone
      exact ⟨fun _ => ⟨qs, hqs⟩, iff_of_true hqs.ownsRequests hroom⟩
    · exact hfalse.elim
  · obtain ⟨qs, hadding⟩ := op.adding h.serving hop (fun time he => hprocess ⟨time, he⟩) hrun
    obtain ⟨-, rs', hu, -⟩ := op.step h.serving hop hrun
    have hsame : rs' = qs := hu.requests.waiting_eq.symm.trans hadding.holds.waiting_eq
    subst hsame
    obtain ⟨howning, hroom⟩ := hadding.owning h hu
    exact ⟨fun hr => ⟨rs', howning hr⟩, hroom, fun hr => (howning hr).ownsRequests⟩

/-- The queue owns the requests all the time if every new request finds room. -/
theorem ownsRequests_iff {tr : List (RequestOp δ × RequestResult δ)} (hs : s.Serving T rs)
    (hcap : s.dataRequestsQueue.capacity = T.dataRequestQueueSize) (howns : s.OwnsRequests T)
    (htr : Trace (RequestOp.run T) s tr u)
    (hallowed : Throughout (RequestOp.run T) s (fun _ t op _ => op.Allowed T t) tr) :
    Always (RequestOp.run T) s (fun _ t => t.OwnsRequests T) tr ↔
      Throughout (RequestOp.run T) s (fun _ t op _ => op.FindsRoom T t) tr := by
  refine Always.iff_throughout_of_allowed (J := fun _ t => ∃ qs, t.Owning T qs) htr hallowed
    ⟨rs, howns.owning hs hcap⟩ howns ?_
  rintro tr t op o u hop ⟨qs, ht⟩ hrun
  exact op.owning ht hop hrun

lemma receiveRequest_returns (hs : s.RequestsHold rs) (packet : Packet) {message : List UInt8}
    (hm : packet.message = some message) :
    ∃ o u, ((RequestOp.receiveRequest packet).run T).run s = .ok o u := by
  let pushed : Globals δ := { s with packets := s.packets.push packet }
  have hcell : pushed.packets.cells s.packets.next = some packet :=
    (Heap.push_cells _ _ _).trans (if_pos rfl)
  have hr : pushed.RequestsHold rs := hs.congr rfl rfl
  have halloc : (zoom Globals.packetsLens (Heap.alloc packet)).run s = .ok s.packets.next pushed :=
    run_zoom_ok (l := Globals.packetsLens) (Heap.alloc_run _ _)
  have hreceive : ∃ rv q h, (dataRequestReceive s.packets.next).run pushed =
      .ok rv { pushed with dataRequestsQueue := q, requests := h } := by
    rw [dataRequestReceive_eq hcell hm]
    cases numberFields message with
    | none => exact ⟨.generic, s.dataRequestsQueue, s.requests, rfl⟩
    | some f =>
      obtain ⟨rv, q, h, qs, hadd, -⟩ :=
        dataRequestAdd_run hr packet.fromId f.info f.hourNum f.first f.second
      exact ⟨rv, q, h, hadd⟩
  obtain ⟨rv, q, h, hreceive⟩ := hreceive
  have hdestroy : (packetDestroy s.packets.next).run
      { pushed with dataRequestsQueue := q, requests := h } = .ok () { pushed with
        dataRequestsQueue := q, requests := h, packets := pushed.packets.erase s.packets.next } :=
    run_zoom_ok (l := Globals.packetsLens) (Heap.free_run (Option.isSome_of_eq_some hcell))
  have hhand : ∃ u, (inHand packet dataRequestReceive).run s = .ok rv u := by
    rw [inHand, run_bind_ok halloc, run_bind_ok hreceive, run_bind_ok hdestroy]
    exact ⟨_, rfl⟩
  obtain ⟨u, hhand⟩ := hhand
  show ∃ o v, (accepting (inHand packet dataRequestReceive)).run s = .ok o v
  rw [accepting, run_bind_ok (EStateM.run_get s), run_bind_ok hhand,
    run_bind_ok (EStateM.run_get u)]
  split
  · exact ⟨_, _, rfl⟩
  · exact ⟨_, _, rfl⟩

/-- Device 3 asks for a sample of an hour. -/
def hourRequest (hour : ℕ) : Packet :=
  { packetCreate with
    fromId := 3
    command := dataRequestCommand
    message := some (print (numbersMessage ⟨4, 7⟩ (UInt32.ofNat hour) 0 (.num 0))) }

lemma hourRequest_adds (t : Globals δ) (hour : ℕ) :
    (RequestOp.receiveRequest (hourRequest hour)).adds T t =
      some (newRequest 3 ⟨4, 7⟩ (UInt32.ofNat hour) 0 0) := by
  have hfields : numberFields (print (numbersMessage ⟨4, 7⟩ (UInt32.ofNat hour) 0 (.num 0))) =
      some ⟨⟨4, 7⟩, UInt32.ofNat hour, 0, 0⟩ := numberFields_print _ _ _ 0
  simp [RequestOp.adds, RequestOp.asks, hourRequest, hfields]

/-- The first requests fill the queue, one after the other. -/
lemma hourRequests_run (hs : s.Owning T []) (n : ℕ) (hn : n ≤ T.dataRequestQueueSize)
    (hsize : T.dataRequestQueueSize < 2 ^ 32) :
    ∃ tr t rs, Trace (RequestOp.run T) s tr t ∧
      tr.map Prod.fst = (List.range n).map (fun hour => .receiveRequest (hourRequest hour)) ∧
      t.Owning T rs ∧
      rs.map (fun r => r.request.key) = (List.range n).map (fun hour => (3, UInt32.ofNat hour, 7)) := by
  induction n with
  | zero => exact ⟨[], s, [], .nil, rfl, hs, rfl⟩
  | succ n ih =>
    obtain ⟨tr, t, rs, htrace, hmap, ht, hkeys⟩ := ih (Nat.le_of_succ_le hn)
    have hlength : rs.length = n := by
      simpa using congrArg List.length hkeys
    have hroom : listIsFull t.dataRequestsQueue = false := by
      rw [ht.serving.requests.holds.isFull, List.length_map, hlength, ht.capacity]
      exact decide_eq_false (Nat.ne_of_lt hn)
    have hnew : (newRequest 3 ⟨4, 7⟩ (UInt32.ofNat n) 0 0).key ∉
        rs.map (fun r => r.request.key) := by
      rw [hkeys]
      intro hmem
      obtain ⟨hour, hhour, he⟩ := List.mem_map.mp hmem
      have hlt := List.mem_range.mp hhour
      have hsame := congrArg (fun key : UInt16 × UInt32 × UInt16 => key.2.1.toNat) he
      simp only [newRequest, DataRequest.key, UInt32.toNat_ofNat'] at hsame
      omega
    obtain ⟨o, u, hrun⟩ := receiveRequest_returns (T := T) ht.serving.requests
      (hourRequest n) rfl
    have hop : (RequestOp.receiveRequest (hourRequest n)).Allowed T t := trivial
    obtain ⟨qs, hadding⟩ := RequestOp.adding ht.serving hop (by simp) hrun
    obtain ⟨-, rs', hu, -⟩ := RequestOp.step ht.serving hop hrun
    have hsame : rs' = qs := hu.requests.waiting_eq.symm.trans hadding.holds.waiting_eq
    subst hsame
    have hu' := (hadding.owning ht hu).1 (fun _ _ => .inr hroom)
    have hadded := hadding.added
    rw [hourRequest_adds] at hadded
    refine ⟨tr ++ [(_, o)], u, rs', htrace.snoc hrun, ?_, hu', ?_⟩
    · rw [List.map_append, hmap, List.range_succ, List.map_append]
      rfl
    · cases hadded with
      | pending known requests => exact absurd known hnew
      | lost new full requests =>
        rw [hroom] at full
        cases full
      | queued node new room requests =>
        rw [List.map_append, hkeys, List.range_succ, List.map_append]
        rfl

end Owning

section Pressure

/-- The pressure sensor when it has started. -/
def pressStart : Globals Unit := zejfInit (Target.bare Settings.zejfPress) ()

lemma pressStart_owning : pressStart.Owning (Target.bare Settings.zejfPress) [] where
  serving := ⟨⟨[], .empty rfl⟩, ⟨[], [], [], NetworkHolds.initial _ _⟩, zejfInit_requestsHold _ _⟩
  owned a ha := by cases ha
  distinct := List.nodup_nil
  capacity := rfl

theorem hourRequest_owned : ∃ tr u,
    Trace (RequestOp.run (Target.bare Settings.zejfPress)) pressStart tr u ∧
      tr.map Prod.fst = [.receiveRequest (hourRequest 0)] ∧
      Always (RequestOp.run (Target.bare Settings.zejfPress)) pressStart
        (fun _ t => t.OwnsRequests (Target.bare Settings.zejfPress)) tr := by
  have hs := pressStart_owning
  obtain ⟨o, u, hrun⟩ := receiveRequest_returns (T := Target.bare Settings.zejfPress)
    hs.serving.requests (hourRequest 0) rfl
  have htr := Trace.nil.snoc hrun
  refine ⟨_, u, htr, rfl,
    (ownsRequests_iff hs.serving hs.capacity hs.ownsRequests htr ?_).mpr ?_⟩
  · exact (Throughout.snoc_iff .nil _ _).mpr ⟨Throughout.nil _ _ _, trivial⟩
  · exact (Throughout.snoc_iff .nil _ _).mpr ⟨Throughout.nil _ _ _, fun _ _ => .inr rfl⟩

/-- The queue has room for 64 requests. -/
theorem hourRequests_not_owned : ∃ tr u,
    Trace (RequestOp.run (Target.bare Settings.zejfPress)) pressStart tr u ∧
      tr.map Prod.fst = (List.range 65).map (fun hour => .receiveRequest (hourRequest hour)) ∧
      ¬u.OwnsRequests (Target.bare Settings.zejfPress) := by
  obtain ⟨tr, t, rs, htrace, hmap, ht, hkeys⟩ := hourRequests_run pressStart_owning 64
    (by decide) (by decide)
  obtain ⟨o, u, hrun⟩ := receiveRequest_returns (T := Target.bare Settings.zejfPress)
    ht.serving.requests (hourRequest 64) rfl
  refine ⟨_, u, htrace.snoc hrun, ?_, ?_⟩
  · rw [List.map_append, hmap]
    rfl
  · intro howns
    have hop : (RequestOp.receiveRequest (hourRequest 64)).Allowed
      (Target.bare Settings.zejfPress) t := trivial
    have hroom := (RequestOp.owning ht hop hrun).2.mp howns _ (hourRequest_adds t 64)
    rw [ht.serving.requests.waiting_eq, hkeys, ht.serving.requests.holds.isFull, List.length_map,
      ht.capacity] at hroom
    have hlength : rs.length = 64 := by
      simpa using congrArg List.length hkeys
    rw [hlength] at hroom
    rcases hroom with hknown | hroom
    · revert hknown
      decide +kernel
    · exact absurd hroom (by decide)

end Pressure

end ZejfMeteo
