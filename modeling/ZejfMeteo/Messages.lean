import ZejfMeteo.DataInfo

/-!
# Messages about the data

A received packet is in hand while it is handled and is then destroyed. Logs, requests and
checks that come in are calls of the data functions with the fields of their messages.
-/

namespace ZejfMeteo
open Runs Format

variable {δ : Type} (T : Target δ)

/-- A packet has come in; it is handled and destroyed. -/
def inHand (packet : Packet) (handle : ℕ → Run (Globals δ) ZejfErr) : Run (Globals δ) ZejfErr := do
  let a ← zoom Globals.packetsLens (Heap.alloc packet)
  let rv ← handle a
  packetDestroy a
  return rv

/-- The fields of a check or of a request: a variable and three numbers. -/
structure NumberFields where
  info : VariableInfo
  hourNum : UInt32
  first : UInt32
  second : UInt32
deriving DecidableEq

def numberFields (message : List UInt8) : Option NumberFields :=
  match sscanf (fun _ => none) (numbersFormat (.num 32)) message with
  | [.num id, .num samplesPerHour, .num hourNum, .num first, .num second] =>
    some ⟨⟨UInt32.ofNat samplesPerHour, UInt16.ofNat id⟩, UInt32.ofNat hourNum,
      UInt32.ofNat first, UInt32.ofNat second⟩
  | _ => none

/-- The fields of a log. -/
structure LogFields where
  info : VariableInfo
  hourNumber : UInt32
  sampleNum : UInt32
  val : Sample

def logFields (message : List UInt8) : Option LogFields :=
  match sscanf T.scanValue (numbersFormat .float) message with
  | [.num id, .num samplesPerHour, .num hourNumber, .num sampleNum, .float val] =>
    some ⟨⟨UInt32.ofNat samplesPerHour, UInt16.ofNat id⟩, UInt32.ofNat hourNumber,
      UInt32.ofNat sampleNum, val⟩
  | _ => none

section Fields

variable {T} {s t u : Globals δ} {a : ℕ} {packet : Packet} {message : List UInt8} {rv : ZejfErr}
  {tx rx : List Queued} {es : List RoutingEntry} {rs : List Requested}

lemma numberFields_print (info : VariableInfo) (hourNum first second : UInt32) :
    numberFields (print (numbersMessage info hourNum first (.num second.toNat))) =
      some ⟨info, hourNum, first, second⟩ := by
  simp [numberFields, sscanf_numbersMessage_num]

lemma processDataLog_eq (hp : s.packets.cells a = some packet) (hm : packet.message = some message)
    (time : UInt32) : (processDataLog T a time).run s = (match logFields T message with
      | none => return .generic
      | some f => dataLog T f.info f.hourNumber f.sampleNum f.val time false :
        Run (Globals δ) ZejfErr).run s := by
  rw [processDataLog, run_bind_ok (readPacket_run hp)]
  simp only [hm, logFields]
  generalize sscanf T.scanValue (numbersFormat .float) message = fields
  split
  · rfl
  · split <;> simp_all

lemma dataRequestReceive_eq (hp : s.packets.cells a = some packet)
    (hm : packet.message = some message) :
    (dataRequestReceive a).run s = (match numberFields message with
      | none => return .generic
      | some f => dataRequestAdd packet.fromId f.info f.hourNum f.first f.second :
        Run (Globals δ) ZejfErr).run s := by
  rw [dataRequestReceive, run_bind_ok (readPacket_run hp)]
  simp only [hm, numberFields]
  generalize sscanf (fun _ => none) (numbersFormat (.num 32)) message = fields
  split
  · rfl
  · split <;> simp_all

lemma dataCheckReceive_eq (hp : s.packets.cells a = some packet)
    (hm : packet.message = some message) : (dataCheckReceive T a).run s = (match numberFields message with
      | none => return .generic
      | some f => do
        let (rv, result) ← calculateDataCheck T f.info f.hourNum f.first
        if rv ≠ .ok then
          return rv
        if f.second < result.getD 0 then
          dataRequestAdd packet.fromId f.info f.hourNum 0 f.first
        else
          return .ok : Run (Globals δ) ZejfErr).run s := by
  rw [dataCheckReceive, run_bind_ok (readPacket_run hp)]
  simp only [hm, numberFields]
  generalize sscanf (fun _ => none) (numbersFormat (.num 32)) message = fields
  split
  · rfl
  · split <;> simp_all

/-- A request that comes in may add a request. -/
lemma dataRequestReceive_cases (hp : s.packets.cells a = some packet)
    (hrun : (dataRequestReceive a).run s = .ok rv u) :
    ∃ message, packet.message = some message ∧ ((numberFields message = none ∧ u = s) ∨
      ∃ f, numberFields message = some f ∧
        (dataRequestAdd packet.fromId f.info f.hourNum f.first f.second).run s = .ok rv u) := by
  cases hm : packet.message with
  | none =>
    rw [dataRequestReceive, run_bind_ok (readPacket_run hp)] at hrun
    simp only [hm] at hrun
    cases hrun
  | some message =>
    refine ⟨message, rfl, ?_⟩
    rw [dataRequestReceive_eq hp hm] at hrun
    cases hf : numberFields message with
    | none =>
      rw [hf] at hrun
      exact Or.inl ⟨rfl, (EStateM.Result.ok.inj hrun).2.symm⟩
    | some f =>
      rw [hf] at hrun
      exact Or.inr ⟨f, rfl, hrun⟩

/-- A check counts samples, and then it may add a request. -/
lemma dataCheckReceive_cases (hp : s.packets.cells a = some packet)
    (hrun : (dataCheckReceive T a).run s = .ok rv u) :
    ∃ message, packet.message = some message ∧ ((numberFields message = none ∧ u = s) ∨
      ∃ f r t, numberFields message = some f ∧
        (calculateDataCheck T f.info f.hourNum f.first).run s = .ok r t ∧
        (u = t ∨ (r.1 = .ok ∧ f.second < r.2.getD 0 ∧
          (dataRequestAdd packet.fromId f.info f.hourNum 0 f.first).run t = .ok rv u))) := by
  cases hm : packet.message with
  | none =>
    rw [dataCheckReceive, run_bind_ok (readPacket_run hp)] at hrun
    simp only [hm] at hrun
    cases hrun
  | some message =>
    refine ⟨message, rfl, ?_⟩
    rw [dataCheckReceive_eq hp hm] at hrun
    cases hf : numberFields message with
    | none =>
      rw [hf] at hrun
      exact Or.inl ⟨rfl, (EStateM.Result.ok.inj hrun).2.symm⟩
    | some f =>
      rw [hf] at hrun
      simp only at hrun
      obtain ⟨r, t, hcalc, hrun⟩ := run_bind_inv hrun
      refine Or.inr ⟨f, r, t, rfl, hcalc, ?_⟩
      by_cases hrv : r.1 ≠ .ok
      · rw [if_pos hrv] at hrun
        exact Or.inl (EStateM.Result.ok.inj hrun).2.symm
      rw [if_neg hrv] at hrun
      by_cases hmore : f.second < r.2.getD 0
      · rw [if_pos hmore] at hrun
        exact Or.inr ⟨not_not.mp hrv, hmore, hrun⟩
      · rw [if_neg hmore] at hrun
        exact Or.inl (EStateM.Result.ok.inj hrun).2.symm

/-- The packet is on the heap while it is handled. -/
lemma inHand_cases {handle : ℕ → Run (Globals δ) ZejfErr}
    (hrun : (inHand packet handle).run s = .ok rv u) : ∃ t,
      (handle s.packets.next).run { s with packets := s.packets.push packet } = .ok rv t ∧
      u = { t with packets := t.packets.erase s.packets.next } := by
  have halloc : (zoom Globals.packetsLens (Heap.alloc packet)).run s =
      .ok s.packets.next { s with packets := s.packets.push packet } :=
    run_zoom_ok (l := Globals.packetsLens) (Heap.alloc_run _ _)
  rw [inHand, run_bind_ok halloc] at hrun
  obtain ⟨rv', t, hhandle, hrun⟩ := run_bind_inv hrun
  cases hcell : t.packets.cells s.packets.next with
  | none =>
    have hfree : (packetDestroy s.packets.next).run t = .error .useAfterFree t :=
      run_zoom_error (l := Globals.packetsLens) (Heap.free_dead hcell)
    rw [run_bind_error hfree] at hrun
    cases hrun
  | some p =>
    have hfree : (packetDestroy s.packets.next).run t =
        .ok () { t with packets := t.packets.erase s.packets.next } :=
      run_zoom_ok (l := Globals.packetsLens) (Heap.free_run (Option.isSome_of_eq_some hcell))
    rw [run_bind_ok hfree] at hrun
    obtain ⟨rfl, rfl⟩ := EStateM.Result.ok.inj hrun
    exact ⟨t, hhandle, rfl⟩

/-- A packet in hand is not in a queue. -/
lemma NetworkHolds.push (hn : NetworkHolds T s tx rx es) (packet : Packet) :
    NetworkHolds T { s with packets := s.packets.push packet } tx rx es ∧
      ({ s with packets := s.packets.push packet } : Globals δ).Loose tx rx s.packets.next := by
  have hne : ∀ q ∈ tx ++ rx, q.addr ≠ s.packets.next := by
    intro q hq
    exact s.packets.ne_next (by rw [hn.queues.live q hq]; rfl)
  refine ⟨⟨⟨hn.queues.txHolds, hn.queues.rxHolds, ?_, hn.queues.distinct, hn.queues.next⟩,
    hn.table.congr rfl rfl⟩, Heap.push_isSome_next _ _, ?_⟩
  · intro q hq
    exact (Heap.push_cells _ _ _).trans ((if_neg (hne q hq)).trans (hn.queues.live q hq))
  · intro hmem
    obtain ⟨q, hq, he⟩ := List.mem_map.mp hmem
    exact hne q hq he

/-- So it may be destroyed. -/
lemma NetworkHolds.erase (hn : NetworkHolds T s tx rx es) (hloose : s.Loose tx rx a) :
    NetworkHolds T { s with packets := s.packets.erase a } tx rx es where
  queues := by
    refine ⟨hn.queues.txHolds, hn.queues.rxHolds, ?_, hn.queues.distinct, hn.queues.next⟩
    intro q hq
    have hne : q.addr ≠ a := by
      rintro rfl
      exact hloose.2 (List.mem_map_of_mem hq)
    exact (Heap.erase_cells _ _ _).trans ((if_neg hne).trans (hn.queues.live q hq))
  table := hn.table.congr rfl rfl

end Fields

end ZejfMeteo
