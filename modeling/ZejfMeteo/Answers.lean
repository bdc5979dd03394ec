import ZejfMeteo.Streaming

/-!
# Answers and what is stored

A request takes its rate and its bounds from the message that asks for it, while the samples
are read by the rate under which they are stored. The two agree as long as the messages ask for
what is stored; then every request comes to its end.
-/

namespace ZejfMeteo
open Runs Format

variable {δ : Type} (T : Target δ)

namespace Round

variable (x : Round δ)

/-- The variable that the request is about, as it is stored at that moment. -/
def subject : Option Variable :=
  (localHour T x.moment.cached x.moment.platform x.request.hourNumber).bind
    (fun h => h.vars.find? (fun v => v.info.id == x.request.info.id))

/-- The device that asks can be reached and the variable can be loaded. -/
def Available (rates : UInt32 → UInt16 → UInt32) : Prop :=
  x.Routable T ∧
    (x.subject T).map (·.info.samplesPerHour) =
      some (rates x.request.hourNumber x.request.info.id)

instance : Decidable (x.Routable T) := inferInstanceAs (Decidable (_ ∧ _))

instance (rates : UInt32 → UInt16 → UInt32) : Decidable (x.Available T rates) :=
  inferInstanceAs (Decidable (_ ∧ _))

/-- A log has been sent, for the rate under which the variable is stored and a sample below it. -/
def Describes : Prop :=
  x.success = true ∧ ∃ v, x.subject T = some v ∧
    x.request.info.samplesPerHour = v.info.samplesPerHour ∧
    x.request.currentLog < v.info.samplesPerHour

end Round

/-- The devices that ask can be reached, and every variable that is asked for can be loaded and
is stored under the same rate all the time. -/
def RequestOp.Available (rates : UInt32 → UInt16 → UInt32) (t : Globals δ) :
    RequestOp δ → RequestResult δ → Prop
  | .receiveCheck packet, .accepted (some _) => ∀ message f v, packet.message = some message →
    numberFields message = some f → localVariable T t f.hourNum f.info.id = some v →
      v.info.samplesPerHour = rates f.hourNum f.info.id
  | _, o => ∀ x ∈ o.rounds, x.Available T rates

/-- A request that has a sample to ask for asks for the rate under which it is stored and for
samples below it. A check, whose rate has been compared, asks for samples below its rate. -/
def RequestOp.AsksForStored (rates : UInt32 → UInt16 → UInt32) : RequestOp δ → Prop
  | .receiveRequest packet => ∀ message f, packet.message = some message →
    numberFields message = some f → f.first ≤ f.second →
      f.info.samplesPerHour = rates f.hourNum f.info.id ∧ f.second < f.info.samplesPerHour
  | .receiveCheck packet => ∀ message f, packet.message = some message →
    numberFields message = some f → f.first < f.info.samplesPerHour
  | _ => True

/-- Requests come from the network only. -/
def RequestOp.Received (t : Globals δ) : RequestOp δ → Prop
  | .add .. => False
  | op => op.Allowed T t

/-- A request that asks for what is stored and has met no error. -/
def Requested.Stored (rates : UInt32 → UInt16 → UInt32) (r : Requested) : Prop :=
  r.request.errors = 0 ∧ (r.request.currentLog ≤ r.request.endLog →
    r.request.info.samplesPerHour = rates r.request.hourNumber r.request.info.id ∧
      r.request.endLog < r.request.info.samplesPerHour)

/-- The slots that a request takes until it is dropped. -/
def Requested.work (r : Requested) : ℕ :=
  r.request.endLog.toNat + 1 - r.request.currentLog.toNat + 1

/-- The slots that it takes until a request is dropped; none if it does not wait. -/
def ahead (a : ℕ) : List Requested → ℕ
  | [] => 0
  | r :: rs => if r.addr = a then r.work else if ahead a rs = 0 then 0 else r.work + ahead a rs

/-- A call that has a slot. -/
def RequestResult.hasSlot : RequestResult δ → Bool
  | .answered remainingSlots _ => decide (0 < remainingSlots)
  | _ => false

/-- Once `data_requests_process` has been called with a slot often enough, a request that has
been accepted waits no more. -/
def Ended (s : Globals δ) (tr : List (RequestOp δ × RequestResult δ)) (t : Globals δ) : Prop :=
  ∀ pre op a request post v, tr = pre ++ (op, .accepted (some (a, request))) :: post →
    Trace (RequestOp.run T) s (pre ++ [(op, .accepted (some (a, request)))]) v →
      ahead a v.waiting ≤ post.countP (fun x => x.2.hasSlot) →
        a ∉ t.waiting.map Requested.addr

section Answers

variable {T} {rates : UInt32 → UInt16 → UInt32} {x : Round δ} {r : Requested}
  {rs rs' : List Requested} {rounds : List (Round δ)} {n : ℕ} {s t u : Globals δ}
  {op : RequestOp δ} {o : RequestResult δ} {tr post : List (RequestOp δ × RequestResult δ)}

lemma Round.stored_eq (x : Round δ) :
    x.stored T = (x.subject T).bind (fun v => v.data[x.request.currentLog.toNat]?) := by
  rw [Round.stored, Round.subject, Option.bind_assoc]
  rfl

/-- A round on a request for what is stored sends a log. -/
lemma Requested.Stored.describes (hr : r.Stored rates) (hundone : ¬requestFinished r.request)
    (hrequest : x.request = r.request) (hsound : x.Sound T) (havailable : x.Available T rates) :
    x.Describes T := by
  obtain ⟨hroutable, hrate⟩ := havailable
  obtain ⟨v, hv, hvrate⟩ := Option.map_eq_some_iff.mp hrate
  have hle : r.request.currentLog ≤ r.request.endLog := by
    simpa [requestFinished] using hundone
  obtain ⟨hinfo, hend⟩ := hr.2 hle
  have hlt : x.request.currentLog < v.info.samplesPerHour := by
    rw [hrequest, hvrate, hrequest, ← hinfo]
    exact UInt32.lt_of_le_of_lt hle hend
  have hdata : x.request.currentLog.toNat < v.data.length := by
    rw [v.size_eq]
    exact UInt32.lt_iff_toNat_lt.mp hlt
  refine ⟨hsound.success_iff.mpr ⟨?_, hroutable⟩, v, hv, ?_, hlt⟩
  · rw [x.stored_eq, hv, Option.bind_some, List.getElem?_eq_getElem hdata]
    rfl
  · rw [hvrate, hrequest, hinfo]

/-- A call that answers requests for what is stored never counts an error. -/
lemma Answered.describes (h : Answered T n rs rounds rs') (hrs : ∀ r ∈ rs, r.Stored rates)
    (havailable : ∀ x ∈ rounds, x.Available T rates) :
    (∀ x ∈ rounds, x.Describes T) ∧ ∀ r ∈ rs', r.Stored rates := by
  induction h with
  | full rs => exact ⟨by simp, hrs⟩
  | idle n => exact ⟨by simp, hrs⟩
  | dropped done rest ih => exact ih (List.forall_mem_cons.mp hrs).2 havailable
  | enough done => exact ⟨by simp, (List.forall_mem_cons.mp hrs).2⟩
  | sent undone addr request sound success rest ih =>
    rename_i r rs rs' x rounds
    obtain ⟨hr, hrest⟩ := List.forall_mem_cons.mp hrs
    obtain ⟨hx, hrounds⟩ := List.forall_mem_cons.mp havailable
    have hundone : ¬requestFinished r.request := fun hdone => undone (Or.inl hdone)
    have hdescribes := hr.describes hundone request sound hx
    have hle : r.request.currentLog ≤ r.request.endLog := by
      simpa [requestFinished] using hundone
    have hnext : Requested.Stored rates
        { r with request := { r.request with currentLog := r.request.currentLog + 1 } } :=
      ⟨hr.1, fun _ => hr.2 hle⟩
    obtain ⟨hall, hrs'⟩ := ih (List.forall_mem_cons.mpr ⟨hnext, hrest⟩) hrounds
    exact ⟨List.forall_mem_cons.mpr ⟨hdescribes, hall⟩, hrs'⟩
  | failed undone addr request sound success =>
    obtain ⟨hr, hrest⟩ := List.forall_mem_cons.mp hrs
    have hx := havailable _ (List.mem_singleton_self _)
    have hdescribes := hr.describes (fun hdone => undone (Or.inl hdone)) request sound hx
    rw [hdescribes.1] at success
    cases success

lemma Requested.work_pos (r : Requested) : 0 < r.work := Nat.succ_pos _

lemma ahead_eq_zero {a : ℕ} : ahead a rs = 0 ↔ a ∉ rs.map Requested.addr := by
  induction rs with
  | nil => simp [ahead]
  | cons r rs ih =>
    have hpos := r.work_pos
    rw [ahead, List.map_cons, List.mem_cons, not_or, ← ih]
    split
    · rename_i ha
      exact iff_of_false (by omega) (fun h => h.1 ha.symm)
    · rename_i ha
      split
      · rename_i hzero
        exact iff_of_true rfl ⟨Ne.symm ha, hzero⟩
      · rename_i hzero
        exact iff_of_false (by omega) (fun h => hzero h.2)

lemma ahead_append {a : ℕ} (h : ahead a rs ≠ 0) (qs : List Requested) :
    ahead a (rs ++ qs) = ahead a rs := by
  induction rs with
  | nil => exact absurd rfl h
  | cons r rs ih =>
    rw [ahead] at h
    rw [List.cons_append, ahead, ahead]
    split
    · rfl
    · rename_i ha
      rw [if_neg ha] at h
      split at h
      · exact absurd rfl h
      · rename_i hzero
        rw [ih hzero]

lemma ahead_tail {a : ℕ} (haddrs : ((r :: rs).map Requested.addr).Nodup) :
    ahead a rs = 0 ∨ ahead a rs + 1 ≤ ahead a (r :: rs) := by
  have hpos := r.work_pos
  by_cases hzero : ahead a rs = 0
  · exact Or.inl hzero
  · have hmem : a ∈ rs.map Requested.addr := not_not.mp (mt ahead_eq_zero.mpr hzero)
    have hne : r.addr ≠ a := by
      rintro rfl
      exact (List.nodup_cons.mp haddrs).1 hmem
    rw [ahead, if_neg hne, if_neg hzero]
    omega

lemma work_next (hundone : ¬requestFinished r.request) (hrequest : x.request = r.request)
    (hsound : x.Sound T) (hsuccess : x.success = true) :
    Requested.work { r with request := { r.request with
      currentLog := r.request.currentLog + 1 } } + 1 = r.work := by
  obtain ⟨val, hval⟩ := Option.isSome_iff_exists.mp (hsound.success_iff.mp hsuccess).1
  have hsucc := Round.currentLog_succ hval
  have hle : r.request.currentLog ≤ r.request.endLog := by
    simpa [requestFinished] using hundone
  rw [UInt32.le_iff_toNat_le] at hle
  rw [hrequest] at hsucc
  simp only [Requested.work]
  omega

lemma ahead_next (a : ℕ) (rs : List Requested) {request : DataRequest}
    (hwork : Requested.work { r with request := request } + 1 = r.work) :
    ahead a ({ r with request := request } :: rs) = 0 ∨
      ahead a ({ r with request := request } :: rs) + 1 = ahead a (r :: rs) := by
  rw [ahead, ahead]
  split_ifs
  · exact Or.inr hwork
  · exact Or.inl rfl
  · omega

/-- Every call with a slot brings the end of a request closer. -/
lemma Answered.ahead (h : Answered T n rs rounds rs') (haddrs : (rs.map Requested.addr).Nodup)
    (hsuccess : ∀ x ∈ rounds, x.success = true) (a : ℕ) :
    ZejfMeteo.ahead a rs' = 0 ∨ ZejfMeteo.ahead a rs' + min n 1 ≤ ZejfMeteo.ahead a rs := by
  induction h with
  | full rs => exact Or.inr (by omega)
  | idle n => exact Or.inl rfl
  | dropped done rest ih =>
    have hrest := ih (List.nodup_cons.mp haddrs).2 hsuccess
    have htail := ahead_tail (a := a) haddrs
    omega
  | enough done =>
    have htail := ahead_tail (a := a) haddrs
    omega
  | sent undone addr request sound success rest ih =>
    rename_i n r rs rs' x rounds
    have hrest := ih haddrs (List.forall_mem_cons.mp hsuccess).2
    have hnext := ahead_next a rs (work_next (fun hdone => undone (Or.inl hdone)) request sound
      success)
    omega
  | failed undone addr request sound success =>
    have hx := hsuccess _ (List.mem_singleton_self _)
    rw [hx] at success
    cases success

lemma checkResult_ok {info : VariableInfo} {logNum : UInt32} {v : Option Variable}
    (h : (checkResult T info logNum v).1 = .ok) :
    ∃ w, v = some w ∧ info.samplesPerHour = w.info.samplesPerHour := by
  cases v with
  | none => cases h
  | some w =>
    rw [checkResult] at h
    split at h
    · cases h
    · exact ⟨w, rfl, not_not.mp ‹_›⟩

/-- The rate of a check whose request is accepted is that of the local copy. -/
lemma receiveCheck_rate (hs : s.Serving T rs) {packet : Packet} {a : ℕ} {request : DataRequest}
    (hrun : (RequestOp.run T (.receiveCheck packet)).run s =
      .ok (.accepted (some (a, request))) u) :
    ∃ message f v, packet.message = some message ∧ numberFields message = some f ∧
      localVariable T s f.hourNum f.info.id = some v ∧
      f.info.samplesPerHour = v.info.samplesPerHour := by
  obtain ⟨rv, hcall, ho⟩ := accepting_run hs.requests hrun
  have hnothing : ¬Accepts s rs none u none rs := by
    intro haccepts
    cases ho none none rs haccepts
  obtain ⟨t, hreceive, rfl⟩ := inHand_cases hcall
  obtain ⟨xs, hc⟩ := hs.cache
  have hc' : ({ s with packets := s.packets.push packet } : Globals δ).CacheHolds T xs :=
    hc.congr rfl
  obtain ⟨message, hm, ⟨-, rfl⟩ | ⟨f, r, v, hf, hcalc, hadd⟩⟩ := dataCheckReceive_cases
    (s := { s with packets := s.packets.push packet }) ((Heap.push_cells _ _ _).trans (if_pos rfl))
    hreceive
  · exact absurd (.kept (hs.requests.congr rfl rfl) (Nat.le_refl _)) hnothing
  · obtain ⟨ys, q, p, hcalc', hz⟩ := calculateDataCheck_local hc' f.info f.hourNum f.first
    obtain ⟨rfl, rfl⟩ := EStateM.Result.ok.inj (hcalc.symm.trans hcalc')
    rcases hadd with rfl | ⟨hok, -, -⟩
    · exact absurd (.kept (hs.requests.congr rfl rfl) (Nat.le_refl _)) hnothing
    · obtain ⟨w, hw, hrate⟩ := checkResult_ok hok
      rw [localVariable_eq hc', ← localVariable_eq hc] at hw
      exact ⟨message, f, w, hm, hf, hw, hrate⟩

lemma RequestOp.Received.allowed (h : op.Received T s) : op.Allowed T s := by
  cases op with
  | other v => exact h
  | _ => trivial

lemma accepted_stored (node : ℕ) (hs : s.Serving T rs) {a : ℕ} {request : DataRequest}
    (hop : op.Received T s) (hasks : op.AsksForStored rates) (h : op.asks = some request)
    (havailable : op.Available T rates s (.accepted (some (a, request))))
    (hrun : (op.run T).run s = .ok (.accepted (some (a, request))) u) :
    Requested.Stored rates ⟨node, a, request⟩ := by
  cases op with
  | process time => cases h
  | add toId info hourNumber startLog endLog => exact hop.elim
  | receiveRequest packet =>
    obtain ⟨f, hfields, rfl⟩ := Option.map_eq_some_iff.mp h
    obtain ⟨message, hm, hf⟩ := Option.bind_eq_some_iff.mp hfields
    exact ⟨rfl, hasks message f hm hf⟩
  | receiveCheck packet =>
    obtain ⟨f, hfields, rfl⟩ := Option.map_eq_some_iff.mp h
    obtain ⟨message, f', v, hm, hf, hv, hrate⟩ := receiveCheck_rate hs hrun
    rw [hm, Option.bind_some, hf] at hfields
    obtain rfl := Option.some.inj hfields
    refine ⟨rfl, fun _ => ⟨hrate.trans (havailable message _ v hm hf hv), ?_⟩⟩
    exact hasks message _ hm hf
  | other v => cases h

/-- What one operation does to the requests that wait if they ask for what is stored. -/
lemma Requested.Stored.step (hs : s.Serving T rs) (hrs : ∀ r ∈ rs, r.Stored rates)
    (hop : op.Received T s) (havailable : op.Available T rates s o)
    (hasks : o.request ≠ none → op.AsksForStored rates) (hrun : (op.run T).run s = .ok o u) :
    (∀ x ∈ o.rounds, x.Describes T) ∧ ∃ rs', u.Serving T rs' ∧ (∀ r ∈ rs', r.Stored rates) ∧
      s.requests.next ≤ u.requests.next ∧
      (∀ a request, o.request = some (a, request) → a < u.requests.next) ∧
      ∀ a < s.requests.next, ahead a rs' = 0 ∨
        ahead a rs' + (if o.hasSlot then 1 else 0) ≤ ahead a rs := by
  obtain ⟨-, rs', hu, hstep⟩ := op.step hs hop.allowed hrun
  cases hstep with
  | answered answered next =>
    rename_i n rounds
    have hrounds : ∀ x ∈ rounds, x.Available T rates := by
      cases op <;> exact havailable
    obtain ⟨hdescribes, hrs'⟩ := answered.describes hrs hrounds
    refine ⟨hdescribes, rs', hu, hrs', next.ge, by simp [RequestResult.request], ?_⟩
    intro a ha
    have hahead := answered.ahead hs.requests.distinct (fun x hx => (hdescribes x hx).1) a
    have hslot : (if (RequestResult.answered n rounds).hasSlot then 1 else 0) = min n 1 := by
      simp only [RequestResult.hasSlot, decide_eq_true_eq]
      split <;> omega
    rw [hslot]
    exact hahead
  | accepted accepts =>
    rename_i accepted
    have hnone : ∀ x ∈ (RequestResult.accepted (δ := δ) accepted).rounds, x.Describes T := by
      simp [RequestResult.rounds]
    cases accepts with
    | kept requests next =>
      exact ⟨hnone, rs, hu, hrs, next, by simp [RequestResult.request],
        fun a _ => Or.inr (by simp [RequestResult.hasSlot])⟩
    | added node request asks requests next =>
      have hnew := accepted_stored node hs hop (hasks (by simp [RequestResult.request]))
        asks havailable hrun
      refine ⟨hnone, _, hu, ?_, next.le, ?_, ?_⟩
      · intro r hr
        rcases List.mem_append.mp hr with hr | hr
        · exact hrs r hr
        · rw [List.mem_singleton.mp hr]
          exact hnew
      · intro a request' ha
        obtain ⟨rfl, -⟩ := Prod.mk.inj (Option.some.inj ha)
        exact next
      · intro a ha
        by_cases hzero : ahead a rs = 0
        · refine Or.inl (ahead_eq_zero.mpr ?_)
          have hnot := ahead_eq_zero.mp hzero
          have hne : a ≠ s.requests.next := Nat.ne_of_lt ha
          simpa [hne] using hnot
        · rw [ahead_append hzero]
          exact Or.inr (by simp [RequestResult.hasSlot])
  | done next =>
    exact ⟨by simp [RequestResult.rounds], rs, hu, hrs, next.ge, by simp [RequestResult.request],
      fun a _ => Or.inr (by simp [RequestResult.hasSlot])⟩

/-- All requests that wait ask for what is stored. -/
def Answering (T : Target δ) (rates : UInt32 → UInt16 → UInt32) (s : Globals δ) : Prop :=
  ∃ rs, s.Serving T rs ∧ ∀ r ∈ rs, r.Stored rates

/-- What holds of an operation while requests ask for what is stored. -/
structure RequestOp.Answerable (T : Target δ) (rates : UInt32 → UInt16 → UInt32) (t : Globals δ)
    (op : RequestOp δ) (o : RequestResult δ) : Prop where
  received : op.Received T t
  available : op.Available T rates t o
  asks : o.request ≠ none → op.AsksForStored rates

lemma Answering.step (hs : Answering T rates s) (hop : op.Answerable T rates s o)
    (hrun : (op.run T).run s = .ok o u) :
    Answering T rates u ∧ ∀ x ∈ o.rounds, x.Describes T := by
  obtain ⟨rs, hserving, hrs⟩ := hs
  obtain ⟨hdescribes, rs', hu, hrs', -⟩ :=
    Requested.Stored.step hserving hrs hop.received hop.available hop.asks hrun
  exact ⟨⟨rs', hu, hrs'⟩, hdescribes⟩

/-- Over a run, a request that waits gets as much closer to its end as there are calls with a
slot. -/
lemma ahead_of_trace (hs : Answering T rates s) {a : ℕ} (ha : a < s.requests.next)
    (htr : Trace (RequestOp.run T) s post t)
    (hop : Throughout (RequestOp.run T) s (fun _ => RequestOp.Answerable T rates) post) :
    ahead a t.waiting = 0 ∨
      ahead a t.waiting + post.countP (fun x => x.2.hasSlot) ≤ ahead a s.waiting := by
  have hall := hop.invariant (I := fun post t => Answering T rates t ∧ a < t.requests.next ∧
    (ahead a t.waiting = 0 ∨
      ahead a t.waiting + post.countP (fun x => x.2.hasSlot) ≤ ahead a s.waiting)) htr
    ⟨hs, ha, Or.inr (by simp)⟩ ?_
  · exact hall.2.2
  · rintro post t op o u ⟨⟨rs, ht, hrs⟩, ha', hahead⟩ hop hrun
    obtain ⟨-, rs', hu, hrs', hnext, -, hslot⟩ :=
      Requested.Stored.step ht hrs hop.received hop.available hop.asks hrun
    refine ⟨⟨rs', hu, hrs'⟩, ha'.trans_le hnext, ?_⟩
    have hslot' := hslot a ha'
    rw [ht.requests.waiting_eq] at hahead
    rw [hu.requests.waiting_eq, List.countP_append, List.countP_singleton]
    dsimp only
    omega

/-- While the devices that ask can be reached and what they ask for can be loaded, messages that
ask for what is stored are answered with what is stored and never meet an error, and every
request ends. -/
theorem answers_describe (hs : s.Serving T []) (htr : Trace (RequestOp.run T) s tr u)
    (havailable : Throughout (RequestOp.run T) s
      (fun _ t op o => op.Received T t ∧ op.Available T rates t o) tr)
    (hasks : ∀ x ∈ tr, x.2.request ≠ none → x.1.AsksForStored rates) :
    Throughout (RequestOp.run T) s (fun _ _ _ o => ∀ x ∈ o.rounds, x.Describes T) tr ∧
      Always (RequestOp.run T) s (Ended T s) tr := by
  have hop : Throughout (RequestOp.run T) s (fun _ => RequestOp.Answerable T rates) tr := by
    intro pre op o post t he hpre
    obtain ⟨hreceived, hloadable⟩ := havailable pre op o post t he hpre
    exact ⟨hreceived, hloadable, hasks (op, o) (by simp [he])⟩
  have hstart : Answering T rates s := ⟨[], hs, by simp⟩
  refine ⟨hop.mono (I := fun _ => Answering T rates) htr hstart
    (fun _ _ _ _ _ ht hop hrun => ht.step hop hrun), ?_⟩
  intro before after t he hbefore pre op a request post v hsplit hv hslots
  rw [← ahead_eq_zero]
  rw [he, hsplit, List.append_cons] at hop
  rw [hsplit, List.append_cons] at hbefore
  obtain ⟨v', hv', hpost⟩ := hbefore.split
  obtain rfl := hv.unique hv'
  obtain ⟨w, hpre, hrun⟩ := hv.snoc_inv
  have hopv : Throughout (RequestOp.run T) s (fun _ => RequestOp.Answerable T rates)
      (pre ++ [(op, .accepted (some (a, request)))]) := Throughout.before (Throughout.before hop)
  obtain ⟨hopw, hlast⟩ := (Throughout.snoc_iff hpre _ _).mp hopv
  obtain ⟨rs, hw, hrs⟩ := hopw.invariant (I := fun _ => Answering T rates) hpre hstart
    (fun _ _ _ _ _ ht hop hrun => (ht.step hop hrun).1)
  obtain ⟨-, rs', hserving, hrs', -, haccepted, -⟩ :=
    Requested.Stored.step hw hrs hlast.received hlast.available hlast.asks hrun
  have hahead := ahead_of_trace ⟨rs', hserving, hrs'⟩ (haccepted a request rfl) hpost
    (hop.middle hv)
  omega

end Answers

/-- The server has a route to a device that knows none of the two samples. -/
def viewerRouted : Globals Unit :=
  { twoLogged with
    routingTable := some { routingEntryCreate with deviceId := 5 } :: List.replicate 15 none
    routingTableTop := 1 }

/-- The check that the device sends, up to some sample. -/
def checkUpTo (logNum : UInt32) : Packet :=
  { packetCreate with
    command := dataCheckCommand
    fromId := 5
    toId := 1
    message := some (print (numbersMessage ⟨2, 7⟩ 10 logNum (.num (0 : UInt32).toNat))) }

def checkedUpTo (logNum : UInt32) : List (RequestOp Unit) :=
  [.receiveCheck (checkUpTo logNum), .process 0]

lemma viewerRouted_serving : viewerRouted.Serving (Target.bare Settings.zejfMeteo) [] := by
  obtain ⟨xs, hc⟩ := twoLogged_serving.cache
  obtain ⟨tx, rx, es, hn⟩ := twoLogged_serving.network
  refine ⟨⟨xs, hc.congr rfl⟩, ⟨tx, rx, [{ routingEntryCreate with deviceId := 5 }],
    hn.queues.congr rfl rfl rfl (fun _ _ => rfl),
    rfl, rfl, by decide⟩, twoLogged_serving.requests.congr rfl rfl⟩

/-- The device can be reached and both samples can be loaded in such a run. -/
lemma checkedUpTo_available (logNum : UInt32) (sent : List Bool)
    (hrun : (outcome ((serve (RequestOp.run (Target.bare Settings.zejfMeteo))
      (checkedUpTo logNum)).run viewerRouted)).map (fun os => os.map (fun o => o.rounds.map
        (fun x => (decide (x.Available (Target.bare Settings.zejfMeteo) (fun _ _ => 2)),
          x.success)))) = some [[], sent.map (true, ·)]) :
    ∃ o o' u, Trace (RequestOp.run (Target.bare Settings.zejfMeteo)) viewerRouted
        [(.receiveCheck (checkUpTo logNum), o), (.process 0, o')] u ∧
      Throughout (RequestOp.run (Target.bare Settings.zejfMeteo)) viewerRouted
        (fun _ t op o => op.Received (Target.bare Settings.zejfMeteo) t ∧
          op.Available (Target.bare Settings.zejfMeteo) (fun _ _ => 2) t o)
        [(.receiveCheck (checkUpTo logNum), o), (.process 0, o')] ∧
      o'.rounds.map Round.success = sent := by
  obtain ⟨os, hserved, hos⟩ := Option.map_eq_some_iff.mp hrun
  obtain ⟨o, os', rfl, ho, hos'⟩ := List.map_eq_cons_iff.mp hos
  obtain ⟨o', os'', rfl, ho', hnil⟩ := List.map_eq_cons_iff.mp hos'
  obtain rfl := List.map_eq_nil_iff.mp hnil
  obtain ⟨htr, -⟩ := Trace.of_serve (run_eq_of_outcome hserved)
  refine ⟨o, o', _, htr, ?_, ?_⟩
  · have hrate : (localVariable (Target.bare Settings.zejfMeteo) viewerRouted 10 7).map
        (·.info.samplesPerHour) = some 2 := by
      decide +kernel
    have hlocal : ∀ message f v, (checkUpTo logNum).message = some message →
        numberFields message = some f →
        localVariable (Target.bare Settings.zejfMeteo) viewerRouted f.hourNum f.info.id = some v →
          v.info.samplesPerHour = 2 := by
      intro message f v hm hf hv
      obtain rfl := Option.some.inj hm
      rw [numberFields_print] at hf
      obtain rfl := Option.some.inj hf
      rw [hv] at hrate
      exact Option.some.inj hrate
    have hrounds : ∀ x ∈ o'.rounds,
        x.Available (Target.bare Settings.zejfMeteo) (fun _ _ => 2) := by
      intro x hx
      have hmem := List.mem_map_of_mem (f := fun x => (decide (x.Available
        (Target.bare Settings.zejfMeteo) (fun _ _ => 2)), x.success)) hx
      rw [ho'] at hmem
      obtain ⟨b, -, hb⟩ := List.mem_map.mp hmem
      exact of_decide_eq_true (Prod.mk.inj hb).1.symm
    intro pre op o₁ post t he hpre
    rcases pre with _ | ⟨y, _ | ⟨z, pre⟩⟩
    · obtain ⟨hfirst, -⟩ := List.cons.inj he
      obtain ⟨rfl, rfl⟩ := Prod.mk.inj hfirst
      obtain rfl := hpre.nil_inv
      refine ⟨trivial, ?_⟩
      rcases o with ⟨n, rounds⟩ | ⟨_ | request⟩ | _
      · exact fun x hx => by simp_all [RequestResult.rounds]
      · exact fun x hx => by cases hx
      · exact hlocal
      · exact fun x hx => by cases hx
    · obtain ⟨-, hrest⟩ := List.cons.inj he
      obtain ⟨hsecond, -⟩ := List.cons.inj hrest
      obtain ⟨rfl, rfl⟩ := Prod.mk.inj hsecond
      exact ⟨trivial, hrounds⟩
    · simp at he
  · have hsent := congrArg (List.map Prod.snd) ho'
    rw [List.map_map, List.map_map] at hsent
    simpa [Function.comp_def] using hsent

/-- A check up to the last sample, as the devices send it. -/
theorem checkedUpToLast_describes : ∃ tr, tr.map Prod.fst = checkedUpTo 1 ∧
    Throughout (RequestOp.run (Target.bare Settings.zejfMeteo)) viewerRouted
      (fun _ _ _ o => ∀ x ∈ o.rounds, x.Describes (Target.bare Settings.zejfMeteo)) tr ∧
    Always (RequestOp.run (Target.bare Settings.zejfMeteo)) viewerRouted
      (Ended (Target.bare Settings.zejfMeteo) viewerRouted) tr := by
  obtain ⟨o, o', u, htr, havailable, -⟩ := checkedUpTo_available 1 [true, true]
    (by decide +kernel)
  refine ⟨_, rfl, answers_describe viewerRouted_serving htr havailable ?_⟩
  intro x hx _
  simp only [List.mem_cons, List.not_mem_nil, or_false] at hx
  rcases hx with rfl | rfl
  · intro message f hm hf
    obtain rfl := Option.some.inj hm
    rw [numberFields_print] at hf
    obtain rfl := Option.some.inj hf
    decide
  · trivial

/-- A check up to the number of samples, as the viewer sends it. -/
theorem checkedUpToRate_errs : ¬∀ tr u, Trace (RequestOp.run (Target.bare Settings.zejfMeteo))
    viewerRouted tr u → Throughout (RequestOp.run (Target.bare Settings.zejfMeteo)) viewerRouted
      (fun _ t op o => op.Received (Target.bare Settings.zejfMeteo) t ∧
        op.Available (Target.bare Settings.zejfMeteo) (fun _ _ => 2) t o) tr →
    Throughout (RequestOp.run (Target.bare Settings.zejfMeteo)) viewerRouted
      (fun _ _ _ o => ∀ x ∈ o.rounds, x.Describes (Target.bare Settings.zejfMeteo)) tr ∧
    Always (RequestOp.run (Target.bare Settings.zejfMeteo)) viewerRouted
      (Ended (Target.bare Settings.zejfMeteo) viewerRouted) tr := by
  intro hall
  obtain ⟨o, o', u, htr, havailable, hsent⟩ := checkedUpTo_available 2
    [true, true, false] (by decide +kernel)
  obtain ⟨hdescribes, -⟩ := hall _ u htr havailable
  have hsplit : Trace (RequestOp.run (Target.bare Settings.zejfMeteo)) viewerRouted
      ([(.receiveCheck (checkUpTo 2), o)] ++ [(.process 0, o')]) u := htr
  obtain ⟨t, hpre, -⟩ := hsplit.split
  have hall' := hdescribes [_] (.process 0) o' [] t rfl hpre
  have hmem : false ∈ o'.rounds.map Round.success := by
    rw [hsent]
    decide
  obtain ⟨x, hx, hfalse⟩ := List.mem_map.mp hmem
  rw [(hall' x hx).1] at hfalse
  cases hfalse

end ZejfMeteo
