import ZejfMeteo.DataOperations
import ZejfMeteo.Detection
import ZejfMeteo.Streaming
import Mathlib.Logic.Relation

/-!
# Back-fill

A device that misses samples of an hour tells another one how many it has. The other one, which
provides the variable, asks itself to send all of them and sends them as its transmit queue has
room, and the first one logs what comes in. Meanwhile both of them go on with what they do, and
the logs may come in in any order.
-/

namespace ZejfMeteo
open Runs Format

variable {α β δ : Type}

/-! ### Values -/

/-- How much a sample says: nothing, that nothing was measured, or what was measured. -/
def rank (val : Sample) : ℕ :=
  if val = valueEmpty then 0 else if val = valueNotMeasured then 1 else 2

/-- The text of a value fits into a log, and the device that receives it reads a value that says
as much. -/
structure Understands (A : Target α) (B : Target β) : Prop where
  short : ∀ val, (B.printValue val).length ≤ 45
  read : ∀ val, ∃ val' rest, A.scanValue (B.printValue val) = some (val', rest) ∧
    rank val' = rank val

/-- What a device reads of a value that another one has sent. -/
def received (A : Target α) (B : Target β) (val : Sample) : Sample :=
  ((A.scanValue (B.printValue val)).map Prod.fst).getD valueEmpty

section Values

variable {val : Sample}

lemma rank_pos : 0 < rank val ↔ val ≠ valueEmpty := by
  unfold rank
  split_ifs <;> simp_all

lemma measured_iff : Measured val ↔ rank val = 2 := by
  unfold rank Measured
  split_ifs <;> simp_all

lemma rank_le (val : Sample) : rank val ≤ 2 := by
  unfold rank
  split_ifs <;> omega

lemma markSample_ne_empty (val : Sample) : markSample true val ≠ valueEmpty := by
  have hne : decide (markSample true val ≠ valueEmpty) = (decide (val ≠ valueEmpty) || true) :=
    markSample_ne
  rw [Bool.or_true] at hne
  exact of_decide_eq_true hne

variable {A : Target α} {B : Target β}

lemma Understands.scan (h : Understands A B) (val : Sample) :
    ∃ rest, A.scanValue (B.printValue val) = some (received A B val, rest) ∧
      rank (received A B val) = rank val := by
  obtain ⟨val', rest, hscan, hrank⟩ := h.read val
  have hval : received A B val = val' := by
    rw [received, hscan]
    rfl
  rw [hval]
  exact ⟨rest, hscan, hrank⟩

/-- The fields of a log come through. -/
lemma Understands.logFields (h : Understands A B) (info : VariableInfo) (n k : UInt32)
    (val : Sample) :
    logFields A (snprintf B.packetMaxLength (numbersMessage info n k (.str (B.printValue val)))) =
      some ⟨info, n, k, received A B val⟩ := by
  obtain ⟨rest, hscan, -⟩ := h.scan val
  have hlast : (Piece.str (B.printValue val)).text.length ≤ 45 := h.short val
  rw [snprintf_numbersMessage _ hlast, ZejfMeteo.logFields, sscanf_numbersMessage]
  simp [sscanf, Piece.text, hscan]

end Values

/-! ### Slots -/

/-- A sample of a variable of this rate. -/
def RefStore.Slot (m : RefStore) (hour : UInt32) (info : VariableInfo) (k : UInt32)
    (val : Sample) : Prop :=
  ∃ v, (m hour).lookup info.id = some v ∧ v.info.samplesPerHour = info.samplesPerHour ∧
    v.data[k.toNat]? = some val

namespace RefStore

section Slots

variable {m : RefStore} {hour n k k' : UInt32} {info target : VariableInfo} {val new : Sample}
  {v w : Variable}

lemma Slot.unique (h : m.Slot hour info k val) (h' : m.Slot hour info k new) : val = new := by
  obtain ⟨v, hv, -, hval⟩ := h
  obtain ⟨w, hw, -, hnew⟩ := h'
  obtain rfl := Option.some.inj (hv.symm.trans hw)
  exact Option.some.inj (hval.symm.trans hnew)

lemma Slot.sample (h : m.Slot hour info k val) : m.sample hour info.id k = some val := by
  obtain ⟨v, hv, -, hval⟩ := h
  rw [RefStore.sample, hv]
  exact hval

lemma Slot.lt (h : m.Slot hour info k val) : k < info.samplesPerHour := by
  obtain ⟨v, -, hrate, hval⟩ := h
  rw [← hrate, UInt32.lt_iff_toNat_lt, ← v.size_eq]
  exact (List.getElem?_eq_some_iff.mp hval).1

/-- The variable may be replaced by one of its rate that has something else in the slot. -/
lemma Slot.put (h : m.Slot hour info k val) (n : UInt32) (id : UInt16) (w : Variable)
    (new : Sample)
    (hw : n = hour → id = info.id → w.info.samplesPerHour = info.samplesPerHour ∧
      w.data[k.toNat]? = some new) :
    (m.put n id w).Slot hour info k (if n = hour ∧ id = info.id then new else val) := by
  obtain ⟨v, hv, hrate, hval⟩ := h
  by_cases hn : n = hour
  · subst hn
    by_cases hid : id = info.id
    · subst hid
      obtain ⟨hrate', hnew⟩ := hw rfl rfl
      rw [if_pos ⟨rfl, rfl⟩]
      refine ⟨w, ?_, hrate', hnew⟩
      rw [RefStore.put, Function.update_self, Finmap.lookup_insert]
    · rw [if_neg (fun h => hid h.2)]
      refine ⟨v, ?_, hrate, hval⟩
      rw [RefStore.put, Function.update_self, Finmap.lookup_insert_of_ne _ (Ne.symm hid)]
      exact hv
  · rw [if_neg (fun h => hn h.1)]
    refine ⟨v, ?_, hrate, hval⟩
    rw [RefStore.put, Function.update_of_ne (Ne.symm hn)]
    exact hv

/-- A count marks the slots of its variable. -/
lemma Slot.check (h : m.Slot hour info k val) {isProv : Bool} {logNum : UInt32}
    (hmark : n = hour → target.id = info.id → markSample isProv val = val) :
    ((RefStore.check isProv target n logNum m).2).Slot hour info k val := by
  rw [RefStore.check]
  cases hl : (m n).lookup target.id with
  | none => exact h
  | some v =>
    simp only
    split
    · exact h
    have hput := h.put n target.id (v.counted isProv logNum) val ?_
    · rw [ite_self] at hput
      exact hput
    rintro rfl hid
    obtain ⟨w, hw, hrate, hval⟩ := h
    rw [hid] at hl
    obtain rfl := Option.some.inj (hl.symm.trans hw)
    refine ⟨hrate, ?_⟩
    rw [Variable.counted_getElem?, hval, Option.map_some]
    split
    · rw [hmark rfl hid]
    · rfl

/-- A provider that counts marks what is empty. -/
lemma Slot.marked (h : m.Slot hour info k val) {logNum : UInt32} (hk : k ≤ logNum) :
    ((RefStore.check true info hour logNum m).2).Slot hour info k (markSample true val) := by
  have hslot := h
  obtain ⟨v, hv, hrate, hval⟩ := h
  rw [RefStore.check, hv]
  simp only
  rw [if_neg (not_not.mpr hrate.symm)]
  have hput := hslot.put hour info.id (v.counted true logNum) (markSample true val) ?_
  · rwa [if_pos ⟨rfl, rfl⟩] at hput
  intro _ _
  refine ⟨hrate, ?_⟩
  rw [Variable.counted_getElem?, hval, Option.map_some, if_pos (UInt32.le_iff_toNat_le.mp hk)]

/-- What a log makes of the sample in its slot. -/
def overwritten (old new : Sample) : Sample := if Measured old ∧ ¬Measured new then old else new

lemma overwritten_eq (old new : Sample) :
    overwritten old new = old ∨ overwritten old new = new := by
  unfold overwritten
  split
  · exact Or.inl rfl
  · exact Or.inr rfl

lemma rank_overwritten {old new : Sample} (h : new ≠ valueEmpty) :
    rank (overwritten old new) = max (rank old) (rank new) := by
  have hpos := rank_pos.mpr h
  have hold := rank_le old
  have hnew := rank_le new
  unfold overwritten
  split
  · rename_i hkept
    rw [measured_iff, measured_iff] at hkept
    omega
  · rename_i hkept
    rw [measured_iff, measured_iff] at hkept
    omega

/-- A log leaves all slots of a variable but its own. -/
lemma Slot.log (h : m.Slot hour info k val) (cfg : Settings) (target : VariableInfo)
    (n k' : UInt32) (new : Sample) :
    ∃ val', ((RefStore.log cfg target n k' new m).2).Slot hour info k val' ∧
      (val' = val ∨ (n = hour ∧ target.id = info.id ∧ k' = k ∧ val' = overwritten val new)) := by
  have hwrite : ∀ {v : Variable} {m' : RefStore}, m'.Slot hour info k val →
      (n = hour → target.id = info.id → (m' hour).lookup info.id = some v) →
      ∃ val', ((RefStore.write target n k' new v m').2).Slot hour info k val' ∧
        (val' = val ∨ (n = hour ∧ target.id = info.id ∧ k' = k ∧ val' = overwritten val new)) := by
    intro v m' hslot hv
    rw [RefStore.write]
    split
    · exact ⟨val, hslot, Or.inl rfl⟩
    split
    · exact ⟨val, hslot, Or.inl rfl⟩
    split
    · exact ⟨val, hslot, Or.inl rfl⟩
    rename_i hrate hlt hkept
    by_cases hthis : n = hour ∧ target.id = info.id ∧ k' = k
    · obtain ⟨rfl, hid, rfl⟩ := hthis
      have hslot' := hslot
      obtain ⟨w, hw, hwrate, hval⟩ := hslot
      obtain rfl := Option.some.inj ((hv rfl hid).symm.trans hw)
      have hput := hslot'.put n target.id (v.setSample k'.toNat new) new ?_
      · rw [if_pos ⟨rfl, hid⟩] at hput
        refine ⟨new, hput, Or.inr ⟨rfl, hid, rfl, ?_⟩⟩
        rw [List.getD_eq_getElem?_getD, hval, Option.getD_some] at hkept
        rw [overwritten, if_neg hkept]
      · intro _ _
        refine ⟨hwrate, ?_⟩
        rw [Variable.setSample_data, List.getElem?_set_self (List.getElem?_eq_some_iff.mp hval).1]
    · have hput := hslot.put n target.id (v.setSample k'.toNat new) val ?_
      · rw [ite_self] at hput
        exact ⟨val, hput, Or.inl rfl⟩
      intro hn hid
      obtain ⟨w, hw, hwrate, hval⟩ := hslot
      obtain rfl := Option.some.inj ((hv hn hid).symm.trans hw)
      have hne : k'.toNat ≠ k.toNat := fun he => hthis ⟨hn, hid, UInt32.toNat_inj.mp he⟩
      refine ⟨hwrate, ?_⟩
      rw [Variable.setSample_data, List.getElem?_set_ne hne]
      exact hval
  rw [RefStore.log]
  cases hl : (m n).lookup target.id with
  | some v =>
    refine hwrite h ?_
    rintro rfl hid
    rw [← hid]
    exact hl
  | none =>
    -- The variable that is added is another one.
    have hother : ¬(n = hour ∧ target.id = info.id) := by
      rintro ⟨rfl, hid⟩
      obtain ⟨w, hw, -⟩ := h
      rw [hid, hw] at hl
      cases hl
    simp only
    split
    · exact ⟨val, h, Or.inl rfl⟩
    split
    · exact ⟨val, h, Or.inl rfl⟩
    refine hwrite ?_ (fun hn hid => absurd ⟨hn, hid⟩ hother)
    have hput := h.put n target.id (Variable.create target) val
      (fun hn hid => absurd ⟨hn, hid⟩ hother)
    rwa [ite_self] at hput

/-- What is known of a slot stays known if nothing empty is logged. -/
lemma Slot.improved (h : m.Slot hour info k val) (cfg : Settings)
    (hnew : n = hour → target.id = info.id → k' = k → new ≠ valueEmpty) :
    ∃ val', ((RefStore.log cfg target n k' new m).2).Slot hour info k val' ∧
      rank val ≤ rank val' ∧
      (val' = val ∨ (n = hour ∧ target.id = info.id ∧ k' = k ∧ val' = new)) := by
  obtain ⟨val', hslot, rfl | ⟨rfl, hid, rfl, rfl⟩⟩ := h.log cfg target n k' new
  · exact ⟨val', hslot, Nat.le_refl _, Or.inl rfl⟩
  · refine ⟨_, hslot, ?_, ?_⟩
    · rw [rank_overwritten (hnew rfl hid rfl)]
      exact Nat.le_max_left _ _
    · exact (overwritten_eq val new).imp_right (fun he => ⟨rfl, hid, rfl, he⟩)

/-- A log to the slot of its variable is written unless it would replace a measured value. -/
lemma Slot.logged (h : m.Slot hour info k val) (cfg : Settings) (new : Sample) :
    ((RefStore.log cfg info hour k new m).2).Slot hour info k (overwritten val new) := by
  have hslot := h
  obtain ⟨v, hv, hrate, hval⟩ := h
  have hlt : ¬v.info.samplesPerHour ≤ k := by
    rw [hrate, UInt32.not_le]
    exact hslot.lt
  have hget : v.data.getD k.toNat valueEmpty = val := by
    rw [List.getD_eq_getElem?_getD, hval, Option.getD_some]
  rw [RefStore.log, hv]
  simp only [RefStore.write]
  rw [if_neg (not_not.mpr hrate), if_neg hlt, hget, overwritten]
  by_cases hkept : Measured val ∧ ¬Measured new
  · rw [if_pos hkept, if_pos hkept]
    exact hslot
  · rw [if_neg hkept, if_neg hkept]
    have hput := hslot.put hour info.id (v.setSample k.toNat new) new ?_
    · rwa [if_pos ⟨rfl, rfl⟩] at hput
    intro _ _
    refine ⟨hrate, ?_⟩
    rw [Variable.setSample_data, List.getElem?_set_self (List.getElem?_eq_some_iff.mp hval).1]

end Slots

end RefStore

/-! ### What is wanted -/

/-- The samples of an hour that a device asks for: what it may get for them and how much the
provider knows of them at least. -/
structure Want where
  info : VariableInfo
  hour : UInt32
  logNum : UInt32
  level : UInt32 → ℕ
  level_pos : ∀ k, 0 < level k
  fine : UInt32 → Sample → Prop
  fine_ne : ∀ k val, fine k val → val ≠ valueEmpty

namespace Want

variable (w : Want)

/-- How many samples there are up to the last one that is wanted. -/
def count : ℕ := min (w.logNum.toNat + 1) w.info.samplesPerHour.toNat

/-- The slot is one of those that are wanted. -/
def Asks (k : UInt32) : Prop := k.toNat < w.count

/-- All wanted samples are there, and they are fine once they have been read. -/
def Offers (read : Sample → Sample) (m : RefStore) : Prop :=
  ∀ k, w.Asks k → ∃ val, m.Slot w.hour w.info k val ∧ w.level k ≤ rank val ∧
    w.fine k (read val)

/-- The wanted samples are those that were there first or fine ones, and say as much at least. -/
def Improves (old : UInt32 → Sample) (m : RefStore) : Prop :=
  ∀ k, w.Asks k → ∃ val, m.Slot w.hour w.info k val ∧ (val = old k ∨ w.fine k val) ∧
    rank (old k) ≤ rank val

/-- No wanted sample says less than before, and only fine ones are new. -/
def Grows (m m' : RefStore) : Prop :=
  ∀ k, w.Asks k → ∀ val, m.Slot w.hour w.info k val → ∃ val', m'.Slot w.hour w.info k val' ∧
    rank val ≤ rank val' ∧ (val' = val ∨ w.fine k val')

end Want

section Wants

variable {w : Want} {m : RefStore} {k : UInt32} {val : Sample} {read : Sample → Sample}
  {old : UInt32 → Sample}

lemma Want.asks_iff : w.Asks k ↔ k ≤ w.logNum ∧ k < w.info.samplesPerHour := by
  rw [Want.Asks, Want.count, UInt32.le_iff_toNat_le, UInt32.lt_iff_toNat_lt]
  omega

lemma Want.asks_of_slot (h : m.Slot w.hour w.info k val) (hk : k ≤ w.logNum) : w.Asks k :=
  Want.asks_iff.mpr ⟨hk, h.lt⟩

/-- What is offered is not empty. -/
lemma Want.Offers.ne_empty (h : w.Offers read m) (hread : ∀ val, rank (read val) = rank val)
    (hk : w.Asks k) (hval : m.Slot w.hour w.info k val) : val ≠ valueEmpty := by
  obtain ⟨val', hslot, -, hfine⟩ := h k hk
  obtain rfl := hval.unique hslot
  rw [← rank_pos, ← hread, rank_pos]
  exact w.fine_ne k _ hfine

lemma Want.Offers.check (h : w.Offers read m) (hread : ∀ val, rank (read val) = rank val)
    (isProv : Bool) (target : VariableInfo) (n logNum : UInt32) :
    w.Offers read (RefStore.check isProv target n logNum m).2 := by
  intro k hk
  obtain ⟨val, hslot, hlevel, hfine⟩ := h k hk
  have hne := h.ne_empty hread hk hslot
  exact ⟨val, hslot.check (fun _ _ => markSample_of_ne hne), hlevel, hfine⟩

lemma Want.Grows.refl (w : Want) (m : RefStore) : w.Grows m m :=
  fun _ _ val hslot => ⟨val, hslot, Nat.le_refl _, Or.inl rfl⟩

lemma Want.Grows.check {isProv : Bool} {target : VariableInfo}
    (hprov : target.id = w.info.id → isProv = false) (n logNum : UInt32) :
    w.Grows m (RefStore.check isProv target n logNum m).2 := by
  intro k hk val hslot
  refine ⟨val, hslot.check (fun _ hid => ?_), Nat.le_refl _, Or.inl rfl⟩
  rw [hprov hid]
  simp [markSample]

/-- The value may be logged in this slot. -/
def Want.Fits (w : Want) (n : UInt32) (id : UInt16) (k : UInt32) (val : Sample) : Prop :=
  n = w.hour → id = w.info.id → w.Asks k → w.fine k val

lemma Want.Fits.ne_empty {n k' : UInt32} {id : UInt16} {new : Sample}
    (h : w.Fits n id k' new) (hk : w.Asks k) (hn : n = w.hour) (hid : id = w.info.id)
    (hk' : k' = k) : new ≠ valueEmpty := by
  subst hk'
  exact w.fine_ne k' new (h hn hid hk)

lemma Want.Grows.log (cfg : Settings) {target : VariableInfo} {n k' : UInt32} {new : Sample}
    (hnew : w.Fits n target.id k' new) :
    w.Grows m (RefStore.log cfg target n k' new m).2 := by
  intro k hk val hslot
  obtain ⟨val', hslot', hrank, rfl | ⟨rfl, hid, rfl, rfl⟩⟩ := hslot.improved cfg (hnew.ne_empty hk)
  · exact ⟨val', hslot', hrank, Or.inl rfl⟩
  · exact ⟨val', hslot', hrank, Or.inr (hnew rfl hid hk)⟩

lemma Want.Improves.grow (h : w.Improves old m) {m' : RefStore} (hm : w.Grows m m') :
    w.Improves old m' := by
  intro k hk
  obtain ⟨val, hslot, hold, hrank⟩ := h k hk
  obtain ⟨val', hslot', hrank', rfl | hfine⟩ := hm k hk val hslot
  · exact ⟨val', hslot', hold, hrank⟩
  · exact ⟨val', hslot', Or.inr hfine, hrank.trans hrank'⟩

end Wants

/-! ### The provider -/

/-- What is handled leaves the packet that is in hand to be destroyed. -/
lemma inHand_run {s t : Globals δ} {packet : Packet} {handle : ℕ → Run (Globals δ) ZejfErr}
    {rv : ZejfErr}
    (hrun : (handle s.packets.next).run { s with packets := s.packets.push packet } = .ok rv t)
    (hlive : (t.packets.cells s.packets.next).isSome) :
    (inHand packet handle).run s =
      .ok rv { t with packets := t.packets.erase s.packets.next } := by
  have halloc : (zoom Globals.packetsLens (Heap.alloc packet)).run s =
      .ok s.packets.next { s with packets := s.packets.push packet } :=
    run_zoom_ok (l := Globals.packetsLens) (Heap.alloc_run _ _)
  have hfree : (packetDestroy s.packets.next).run t =
      .ok () { t with packets := t.packets.erase s.packets.next } :=
    run_zoom_ok (l := Globals.packetsLens) (Heap.free_run hlive)
  rw [inHand, run_bind_ok halloc, run_bind_ok hrun, run_bind_ok hfree]
  rfl

section Provider

variable {B : Target β} {D : FaithfulStorage B} {w : Want} {read : Sample → Sample} {toId : UInt16}
  {t u : Globals β} {rs rs' : List Requested} {x : Round β} {rounds : List (Round β)}

/-- A device offers what is wanted, its network is in order and it knows a way to the device that
asks. -/
structure Offering (D : FaithfulStorage B) (w : Want) (read : Sample → Sample) (toId : UInt16)
    (t : Globals β) : Prop where
  offers : ∃ ys m, Couples D t ys m ∧ w.Offers read m
  network : ∃ tx rx es, NetworkHolds B t tx rx es
  route : ∃ e ∈ t.routes, e.deviceId = toId

lemma Offering.congr (h : Offering D w read toId t) (hn : ∃ tx rx es, NetworkHolds B u tx rx es)
    (hq : u.dataQueue = t.dataQueue) (hp : u.platform = t.platform)
    (hr : u.routingTable = t.routingTable) : Offering D w read toId u where
  offers := by
    obtain ⟨ys, m, hc, hm⟩ := h.offers
    exact ⟨ys, m, hc.congr hq hp, hm⟩
  network := hn
  route := by
    rw [Globals.routes, hr]
    exact h.route

/-- Reading a sample changes nothing. -/
lemma Offering.getVal (h : Offering D w read toId t) (info : VariableInfo) (n k : UInt32) :
    ∃ r q p, (dataGetVal B info n k true false).run t =
        .ok r { t with dataQueue := q, platform := p } ∧
      Offering D w read toId { t with dataQueue := q, platform := p } := by
  obtain ⟨ys, m, hc, hm⟩ := h.offers
  obtain ⟨tx, rx, es, hn⟩ := h.network
  obtain ⟨zs, q, p, hrun, hc'⟩ := dataGetVal_run hc info n k
  exact ⟨_, q, p, hrun, ⟨zs, m, hc', hm⟩, ⟨tx, rx, es, hn.data q p⟩, h.route⟩

lemma Offering.sendLog (h : Offering D w read toId t) (toId' : UInt16) (info : VariableInfo)
    (n k : UInt32) (val : Sample) (time : UInt32) :
    ∃ rv u, (dataSendLog B toId' info n k val time).run t = .ok rv u ∧
      Offering D w read toId u := by
  obtain ⟨tx, rx, es, hn⟩ := h.network
  obtain ⟨tq, ps, hrun, -, hq, -⟩ :=
    dataSendLog_run (T := B) hn.queues hn.table toId' info n k val time
  exact ⟨_, _, hrun, h.congr ⟨_, rx, es, hq, hn.table.congr rfl rfl⟩ rfl rfl rfl⟩

lemma Offering.answerRound (h : Offering D w read toId t) (time : UInt32) (addr : ℕ)
    (request : DataRequest) : ∃ x u, (answerRound B time addr request).run t = .ok x u ∧
      Offering D w read toId x.moment ∧ Offering D w read toId u := by
  rw [ZejfMeteo.answerRound, run_bind_ok (EStateM.run_get t)]
  obtain ⟨⟨rv, val⟩, q, p, hget, h'⟩ :=
    h.getVal request.info request.hourNumber request.currentLog
  rw [run_bind_ok hget]
  dsimp only
  by_cases hrv : rv ≠ .ok
  · rw [if_pos hrv]
    exact ⟨_, _, rfl, h, h'⟩
  rw [if_neg hrv]
  cases val with
  | none => exact ⟨_, _, rfl, h, h'⟩
  | some val =>
    obtain ⟨rv', u, hsend, hu⟩ := h'.sendLog request.targetDevice request.info request.hourNumber
      request.currentLog val time
    dsimp only
    rw [run_bind_ok hsend]
    exact ⟨_, _, rfl, h, hu⟩

end Provider

/-- What is read of the cache and the files is what the reference holds. -/
lemma Couples.sample {T : Target δ} {D : FaithfulStorage T} {s : Globals δ}
    {xs : List (ℕ × DataHour)} {m : RefStore} (hc : Couples D s xs m) (n : UInt32) (id : UInt16)
    (k : UInt32) : (localHour T xs s.platform n).bind (·.sample id k) = m.sample n id k := by
  rw [RefStore.sample, (hc.agrees n).lookup, localVars]
  cases localHour T xs s.platform n with
  | none => rfl
  | some hour => rfl

section Moments

variable (T : Target δ) (time : UInt32) {I : Globals δ → Prop}

/-- Whatever happens to a part of the state that does not matter. -/
lemma triple_zoom {τ γ : Type} {l : Lens (Globals δ) τ} (h : ∀ y s, I s → I (l.set y s))
    (x : Run τ γ) : Triple (fun _ => True) I (zoom l x) (fun _ => I) := by
  intro s hs
  cases hx : x.run (l.get s) with
  | ok a y => exact Or.inl ⟨a, _, run_zoom_ok hx, h y s hs⟩
  | error e y => exact Or.inr ⟨e, _, run_zoom_error hx, trivial⟩

/-- What rounds keep and what does not depend on the requests holds at the moment of every
round. -/
lemma roundsLoop_moments (hqueue : ∀ q s, I s → I (Globals.requestsQueueLens.set q s))
    (hrequests : ∀ h s, I s → I (Globals.requestsLens.set h s))
    (hround : ∀ addr request s, I s → ∃ x u, (answerRound T time addr request).run s = .ok x u ∧
      I x.moment ∧ I u) (remainingSlots requestCount : ℕ) :
    Triple (fun _ => True) I (roundsLoop T time remainingSlots requestCount)
      (fun rounds s => (∀ x ∈ rounds, I x.moment) ∧ I s) := by
  have hnone : ∀ s, I s → (∀ x ∈ ([] : List (Round δ)), I x.moment) ∧ I s :=
    fun s hs => ⟨by simp, hs⟩
  induction remainingSlots generalizing requestCount with
  | zero => exact Triple.pure hnone
  | succ n ih =>
    intro s hs
    rw [roundsLoop, run_bind_ok (EStateM.run_get s)]
    refine Triple.guard (P := I) hnone (fun _ => ?_) s hs
    cases listPeek s.dataRequestsQueue with
    | none => exact Triple.throw (fun _ _ => trivial)
    | some node =>
      refine Triple.bind (triple_zoom hqueue _) (fun c => ?_)
      refine Triple.bind (triple_zoom hrequests _) (fun request => ?_)
      refine Triple.ite (fun _ => ?_) (fun _ => ?_)
      · refine Triple.bind (triple_zoom hqueue _) (fun popped => ?_)
        have hrest : Triple (fun _ => True) I (if requestCount + 1 = 3 then return [] else
            roundsLoop T time n (requestCount + 1))
            (fun rounds s => (∀ x ∈ rounds, I x.moment) ∧ I s) :=
          Triple.guard hnone (fun _ => ih _)
        cases popped with
        | none => exact hrest
        | some a => exact Triple.bind (triple_zoom hrequests _) (fun _ => hrest)
      · have hanswer : Triple (fun _ => True) I (answerRound T time c.item request)
            (fun x s => I x.moment ∧ I s) :=
          Triple.of_run (fun s hs => hround c.item request s hs)
        refine Triple.bind hanswer (fun x => Triple.and_left (fun hx => ?_))
        refine Triple.ite (fun _ => ?_) (fun _ => ?_)
        · refine Triple.bind (triple_zoom hrequests _) (fun _ => ?_)
          refine Triple.bind (ih _) (fun rounds => ?_)
          exact Triple.pure (fun s hs => ⟨List.forall_mem_cons.mpr ⟨hx, hs.1⟩, hs.2⟩)
        · refine Triple.bind (triple_zoom hrequests _) (fun _ => ?_)
          exact Triple.pure (fun s hs => ⟨List.forall_mem_singleton.mpr hx, hs⟩)

end Moments

section Request

variable {B : Target β} {D : FaithfulStorage B} {w : Want} {read : Sample → Sample} {toId : UInt16}
  {t u : Globals β} {rs rs' : List Requested} {x : Round β} {rounds : List (Round β)} {c n : ℕ}

/-- The request for what is wanted, once the samples before its cursor have been sent. It meets
no errors before it is done. -/
def Want.Asked (w : Want) (toId : UInt16) (c : ℕ) (request : DataRequest) : Prop :=
  request = { newRequest toId w.info w.hour 0 w.logNum with
    currentLog := request.currentLog, errors := request.errors } ∧
  request.currentLog.toNat = c ∧ c ≤ w.count ∧ (request.errors = 0 ∨ c = w.count)

/-- The request waits, or everything has been sent. -/
def Want.Waits (w : Want) (toId : UInt16) (rs : List Requested) (c : ℕ) : Prop :=
  (∃ r ∈ rs, w.Asked toId c r.request) ∨ c = w.count

/-- A round has sent a wanted sample. -/
def Want.SentBy (w : Want) (toId : UInt16) (k : UInt32) (x : Round β) : Prop :=
  x.success = true ∧ x.request.targetDevice = toId ∧ x.request.info = w.info ∧
    x.request.hourNumber = w.hour ∧ x.request.currentLog = k

lemma Want.Waits.mono (h : w.Waits toId rs c) (hrs : ∀ r ∈ rs, r ∈ rs') : w.Waits toId rs' c :=
  h.imp_left (fun ⟨r, hr, hasked⟩ => ⟨r, hrs r hr, hasked⟩)

/-- If it is dropped, everything has been sent. -/
lemma Want.Asked.dropped {request : DataRequest} (h : w.Asked toId c request)
    (hdone : requestFinished request ∨ 50 < request.errors) : c = w.count := by
  obtain ⟨hrequest, hcursor, hle, herrors⟩ := h
  rcases hdone with hfinished | hmany
  · rw [hrequest, requestFinished, decide_eq_true_eq] at hfinished
    have hlt : w.logNum.toNat < request.currentLog.toNat := UInt32.lt_iff_toNat_lt.mp hfinished
    have hcount : w.count ≤ w.logNum.toNat + 1 := Nat.min_le_left _ _
    omega
  · rcases herrors with hzero | hc
    · rw [hzero] at hmany
      exact absurd hmany (by decide)
    · exact hc

/-- What a round reads is what is offered then. -/
lemma Offering.stored (hm : Offering D w read toId x.moment) {k : UInt32} (hk : w.Asks k)
    (hid : x.request.info.id = w.info.id) (hhour : x.request.hourNumber = w.hour)
    (hcursor : x.request.currentLog = k) :
    ∃ val, x.stored B = some val ∧ w.level k ≤ rank val ∧ w.fine k (read val) := by
  obtain ⟨ys, m, hc, hm'⟩ := hm.offers
  obtain ⟨val, hslot, hval⟩ := hm' k hk
  refine ⟨val, ?_, hval⟩
  rw [Round.stored, hc.cache.cached_eq, hc.sample, hid, hhour, hcursor]
  exact hslot.sample

/-- A sample that is asked for is there and can be sent. -/
lemma Offering.success (hm : Offering D w read toId x.moment) (hx : x.Sound B)
    (hto : toId ≠ B.deviceId) (hasked : w.Asked toId c x.request) (hc : c < w.count) :
    x.success = true := by
  obtain ⟨hrequest, hcursor, -⟩ := hasked
  have htarget : x.request.targetDevice = toId := by
    rw [hrequest]
    rfl
  obtain ⟨val, hstored, -⟩ := hm.stored (k := x.request.currentLog)
    (by rw [Want.Asks, hcursor]; exact hc) (by rw [hrequest]; rfl) (by rw [hrequest]; rfl) rfl
  rw [hx.success_iff, hstored, Round.Routable, htarget]
  exact ⟨rfl, hto, Or.inr hm.route⟩

/-- A sample that could be read is not beyond what is wanted. -/
lemma Offering.cursor_lt (hm : Offering D w read toId x.moment) (hx : x.Sound B)
    (hsuccess : x.success = true) (hasked : w.Asked toId c x.request)
    (hundone : ¬(requestFinished x.request ∨ 50 < x.request.errors)) (hpos : 0 < w.count) :
    c < w.count := by
  obtain ⟨hrequest, rfl, hle, herrors⟩ := hasked
  obtain ⟨ys, m, hc, hm'⟩ := hm.offers
  obtain ⟨-, ⟨v, hv, hrate, -⟩, -⟩ := hm' 0 hpos
  obtain ⟨val, hstored⟩ := Option.isSome_iff_exists.mp (hx.success_iff.mp hsuccess).1
  have hid : x.request.info.id = w.info.id := by
    rw [hrequest]
    rfl
  have hhour : x.request.hourNumber = w.hour := by
    rw [hrequest]
    rfl
  rw [Round.stored, hc.cache.cached_eq, hc.sample, hid, hhour] at hstored
  have hslot : m.Slot w.hour w.info x.request.currentLog val := by
    rw [RefStore.sample, hv] at hstored
    exact ⟨v, hv, hrate, hstored⟩
  have hlast : ¬w.logNum < x.request.currentLog := by
    intro hlt
    refine hundone (Or.inl ?_)
    rw [hrequest, requestFinished, decide_eq_true_eq]
    exact hlt
  exact Want.asks_of_slot hslot (UInt32.not_lt.mp hlast)

/-- Every sample up to the cursor has been sent. -/
lemma Want.Waits.answered (h : Answered B n rs rounds rs')
    (hmoments : ∀ x ∈ rounds, Offering D w read toId x.moment) (hto : toId ≠ B.deviceId)
    (hpos : 0 < w.count) (hw : w.Waits toId rs c) :
    ∃ c', w.Waits toId rs' c' ∧
      ∀ k, c ≤ k.toNat → k.toNat < c' → ∃ x ∈ rounds, w.SentBy toId k x := by
  rcases hw with ⟨r, hr, hasked⟩ | rfl
  · induction h generalizing c r with
    | full rs => exact ⟨c, Or.inl ⟨r, hr, hasked⟩, fun k hk hlt => absurd hlt (by omega)⟩
    | idle n => cases hr
    | dropped done rest ih =>
      rcases List.mem_cons.mp hr with rfl | hr
      · exact ⟨c, Or.inr (hasked.dropped done), fun k hk hlt => absurd hlt (by omega)⟩
      · exact ih hmoments r hr hasked
    | enough done =>
      refine ⟨c, ?_, fun k hk hlt => absurd hlt (by omega)⟩
      rcases List.mem_cons.mp hr with rfl | hr
      · exact Or.inr (hasked.dropped done)
      · exact Or.inl ⟨r, hr, hasked⟩
    | sent undone addr request sound success rest ih =>
      rename_i r₀ rs rs' x rounds
      have hrest := fun y hy => hmoments y (List.mem_cons_of_mem x hy)
      rcases List.mem_cons.mp hr with rfl | hr
      · rw [← request] at hasked undone
        have hc := (hmoments x List.mem_cons_self).cursor_lt sound success hasked undone hpos
        obtain ⟨hrequest, hcursor, hle, herrors⟩ := hasked
        have hsucc : (x.request.currentLog + 1).toNat = c + 1 := by
          have hcount : w.count ≤ w.info.samplesPerHour.toNat := Nat.min_le_right _ _
          have hlt := w.info.samplesPerHour.toNat_lt
          have hone : (1 : UInt32).toNat = 1 := rfl
          rw [UInt32.toNat_add, hone, hcursor]
          omega
        have hnext : w.Asked toId (c + 1) { r.request with
            currentLog := r.request.currentLog + 1 } := by
          rw [← request]
          refine ⟨?_, hsucc, by omega, Or.inl (herrors.resolve_right (by omega))⟩
          rw [hrequest]
        obtain ⟨c', hw', hsent⟩ := ih hrest _ List.mem_cons_self hnext
        refine ⟨c', hw', ?_⟩
        intro k hk hlt
        by_cases hkc : k.toNat = c
        · refine ⟨x, List.mem_cons_self, success, ?_, ?_, ?_, ?_⟩
          · rw [hrequest]
            rfl
          · rw [hrequest]
            rfl
          · rw [hrequest]
            rfl
          · exact UInt32.toNat_inj.mp (hcursor.trans hkc.symm)
        · obtain ⟨y, hy, hk'⟩ := hsent k (by omega) hlt
          exact ⟨y, List.mem_cons_of_mem x hy, hk'⟩
      · obtain ⟨c', hw', hsent⟩ := ih hrest r (List.mem_cons_of_mem _ hr) hasked
        refine ⟨c', hw', ?_⟩
        intro k hk hlt
        obtain ⟨y, hy, hk'⟩ := hsent k hk hlt
        exact ⟨y, List.mem_cons_of_mem x hy, hk'⟩
    | failed undone addr request sound success =>
      rename_i r₀ rs x
      refine ⟨c, ?_, fun k hk hlt => absurd hlt (by omega)⟩
      rcases List.mem_cons.mp hr with rfl | hr
      · rw [← request] at hasked
        by_cases hc : c < w.count
        · have hok := (hmoments x List.mem_cons_self).success sound hto hasked hc
          rw [success] at hok
          cases hok
        · exact Or.inr (le_antisymm hasked.2.2.1 (Nat.not_lt.mp hc))
      · exact Or.inl ⟨r, List.mem_cons_of_mem _ hr, hasked⟩
  · exact ⟨w.count, Or.inr rfl, fun k hk hlt => absurd hlt (by omega)⟩

lemma accepting_accepted {x : Run (Globals δ) ZejfErr} {s v : Globals δ} {o : RequestResult δ}
    (hrun : (accepting x).run s = .ok o v) : ∃ accepted, o = .accepted accepted := by
  rw [accepting, run_bind_ok (EStateM.run_get s)] at hrun
  obtain ⟨rv, t, -, hrun⟩ := run_bind_inv hrun
  rw [run_bind_ok (EStateM.run_get t)] at hrun
  split at hrun
  · exact ⟨_, (EStateM.Result.ok.inj hrun).1.symm⟩
  · exact ⟨_, (EStateM.Result.ok.inj hrun).1.symm⟩

lemma Offering.add (h : Offering D w read toId t) (ht : t.Serving B rs) {toId' : UInt16}
    {info : VariableInfo} {n first last : UInt32} {rv : ZejfErr}
    (hrun : (dataRequestAdd toId' info n first last).run t = .ok rv u)
    (hn : ∃ tx rx es, NetworkHolds B u tx rx es) : Offering D w read toId u := by
  obtain ⟨q, hs, accepted, qs, rfl, -⟩ := dataRequestAdd_accepts ht.requests hrun
  exact h.congr hn rfl rfl rfl

/-- A packet in hand is not part of what is offered. -/
lemma Offering.inHand (h : Offering D w read toId t) {packet : Packet} {rv : ZejfErr}
    {handle : ℕ → Run (Globals β) ZejfErr} (hrun : (inHand packet handle).run t = .ok rv u)
    (hn : ∃ tx rx es, NetworkHolds B u tx rx es)
    (hhandle : ∀ v, Offering D w read toId { t with packets := t.packets.push packet } →
      (handle t.packets.next).run { t with packets := t.packets.push packet } = .ok rv v →
      (∃ ys m, Couples D v ys m ∧ w.Offers read m) ∧ v.routingTable = t.routingTable) :
    Offering D w read toId u := by
  obtain ⟨v, hcall, rfl⟩ := inHand_cases hrun
  obtain ⟨tx, rx, es, htx⟩ := h.network
  obtain ⟨⟨ys, m, hc, hm⟩, hroutes⟩ := hhandle v
    (h.congr ⟨tx, rx, es, (htx.push packet).1⟩ rfl rfl rfl) hcall
  refine ⟨⟨ys, m, hc.congr rfl rfl, hm⟩, hn, ?_⟩
  rw [Globals.routes, hroutes]
  exact h.route

/-- A check that comes in counts and then may add a request. -/
lemma receiveCheck_couples {ys : List (ℕ × DataHour)} {m : RefStore} (hc : Couples D t ys m)
    (hr : t.RequestsHold rs) {packet : Packet} {rv : ZejfErr}
    (hrun : (inHand packet (dataCheckReceive B)).run t = .ok rv u) :
    ∃ message, packet.message = some message ∧ u.routingTable = t.routingTable ∧
      ∃ zs, Couples D u zs (match numberFields message with
        | none => m
        | some f => (m.check (isProvided B f.info) f.info f.hourNum f.first).2) := by
  obtain ⟨v, hcall, rfl⟩ := inHand_cases hrun
  have hcell : (t.packets.push packet).cells t.packets.next = some packet :=
    (Heap.push_cells _ _ _).trans (if_pos rfl)
  have hc' : Couples D { t with packets := t.packets.push packet } ys m := hc.congr rfl rfl
  obtain ⟨message, hm, ⟨hf, rfl⟩ | ⟨f, r, v', hf, hcalc, hadd⟩⟩ :=
    dataCheckReceive_cases (s := { t with packets := t.packets.push packet }) hcell hcall
  · refine ⟨message, hm, rfl, ys, ?_⟩
    rw [hf]
    exact hc.congr rfl rfl
  · obtain ⟨zs, q, p, hcalc', hc''⟩ := calculateDataCheck_run hc' f.info f.hourNum f.first
    obtain ⟨-, rfl⟩ := EStateM.Result.ok.inj (hcalc.symm.trans hcalc')
    rcases hadd with rfl | ⟨-, -, hadd⟩
    · refine ⟨message, hm, rfl, zs, ?_⟩
      rw [hf]
      exact hc''.congr rfl rfl
    · have hr' : ({ t with packets := t.packets.push packet, dataQueue := q, platform := p } :
          Globals β).RequestsHold rs := hr.congr rfl rfl
      obtain ⟨rq, hs, accepted, qs, rfl, -⟩ := dataRequestAdd_accepts hr' hadd
      refine ⟨message, hm, rfl, zs, ?_⟩
      rw [hf]
      exact hc''.congr rfl rfl

lemma Offering.receiveCheck (h : Offering D w read toId t) (ht : t.Serving B rs)
    (hread : ∀ val, rank (read val) = rank val) {packet : Packet} {rv : ZejfErr}
    (hrun : (ZejfMeteo.inHand packet (dataCheckReceive B)).run t = .ok rv u)
    (hn : ∃ tx rx es, NetworkHolds B u tx rx es) : Offering D w read toId u := by
  obtain ⟨ys, m, hc, hm⟩ := h.offers
  obtain ⟨message, -, hroutes, zs, hc'⟩ := receiveCheck_couples hc ht.requests hrun
  refine ⟨⟨zs, _, hc', ?_⟩, hn, ?_⟩
  · cases numberFields message with
    | none => exact hm
    | some f => exact hm.check hread (isProvided B f.info) f.info f.hourNum f.first
  · rw [Globals.routes, hroutes]
    exact h.route

lemma Offering.requestRounds (h : Offering D w read toId t) {time : UInt32} {r : ℕ × List (Round β)}
    (hrun : (ZejfMeteo.requestRounds B time).run t = .ok r u) :
    Offering D w read toId u ∧ ∀ x ∈ r.2, Offering D w read toId x.moment := by
  have hloop := roundsLoop_moments B time (I := Offering D w read toId)
    (fun q s hs => by
      obtain ⟨tx, rx, es, hn⟩ := hs.network
      exact hs.congr ⟨tx, rx, es, hn.setRequests q s.requests⟩ rfl rfl rfl)
    (fun hs' s hs => by
      obtain ⟨tx, rx, es, hn⟩ := hs.network
      exact hs.congr ⟨tx, rx, es, hn.setRequests s.dataRequestsQueue hs'⟩ rfl rfl rfl)
    (fun addr request s hs => hs.answerRound time addr request)
  rw [ZejfMeteo.requestRounds, allocatePacketQueue, bind_assoc,
    run_bind_ok (EStateM.run_get t), pure_bind] at hrun
  obtain ⟨rounds, v, hrounds, hreturn⟩ := run_bind_inv hrun
  obtain ⟨rfl, rfl⟩ := EStateM.Result.ok.inj hreturn
  rcases hloop _ 1 t h with ⟨rounds', v', hrun', hmoments, hv⟩ | ⟨e, v', hrun', -⟩
  · obtain ⟨rfl, rfl⟩ := EStateM.Result.ok.inj (hrounds.symm.trans hrun')
    exact ⟨hv, hmoments⟩
  · cases hrounds.symm.trans hrun'

/-- Whatever the provider does, it goes on offering what is wanted. -/
lemma Offering.serve (h : Offering D w read toId t) (ht : t.Serving B rs)
    (hread : ∀ val, rank (read val) = rank val) {op : RequestOp β} {o : RequestResult β}
    (hother : ∀ v, op = .other v → Offering D w read toId v)
    (hrun : (op.run B).run t = .ok o u) (hn : ∃ tx rx es, NetworkHolds B u tx rx es) :
    Offering D w read toId u ∧ ∀ x ∈ o.rounds, Offering D w read toId x.moment := by
  have haccepting : ∀ {x : Run (Globals β) ZejfErr},
      (∀ rv, x.run t = .ok rv u → Offering D w read toId u) →
      (accepting x).run t = .ok o u →
      Offering D w read toId u ∧ ∀ x ∈ o.rounds, Offering D w read toId x.moment := by
    intro x hx hrun
    obtain ⟨rv, hcall, -⟩ := accepting_run ht.requests hrun
    obtain ⟨accepted, rfl⟩ := accepting_accepted hrun
    exact ⟨hx rv hcall, fun x hx => by cases hx⟩
  cases op with
  | process time =>
    obtain ⟨r, v, hrounds, hreturn⟩ := run_bind_inv hrun
    obtain ⟨rfl, rfl⟩ := EStateM.Result.ok.inj hreturn
    exact h.requestRounds hrounds
  | add toId' info n first last => exact haccepting (fun rv hcall => h.add ht hcall hn) hrun
  | receiveRequest packet =>
    refine haccepting (fun rv hcall => h.inHand hcall hn ?_) hrun
    intro v hv hreceive
    have hcell : (t.packets.push packet).cells t.packets.next = some packet :=
      (Heap.push_cells _ _ _).trans (if_pos rfl)
    obtain ⟨message, -, ⟨-, rfl⟩ | ⟨f, -, hadd⟩⟩ :=
      dataRequestReceive_cases (s := { t with packets := t.packets.push packet }) hcell hreceive
    · exact ⟨hv.offers, rfl⟩
    · have hr : ({ t with packets := t.packets.push packet } : Globals β).RequestsHold rs :=
        ht.requests.congr rfl rfl
      obtain ⟨q, hs, accepted, qs, rfl, -⟩ := dataRequestAdd_accepts hr hadd
      obtain ⟨ys, m, hc, hm⟩ := hv.offers
      exact ⟨⟨ys, m, hc.congr rfl rfl, hm⟩, rfl⟩
  | receiveCheck packet =>
    exact haccepting (fun rv hcall => h.receiveCheck ht hread hcall hn) hrun
  | other v =>
    obtain ⟨rfl, rfl⟩ := EStateM.Result.ok.inj hrun
    exact ⟨hother _ rfl, fun x hx => by cases hx⟩

end Request

section Counting

variable {T : Target δ} {D : FaithfulStorage T} {w : Want} {s u : Globals δ}
  {xs : List (ℕ × DataHour)} {m : RefStore} {v : Variable} {vals : UInt32 → Sample}
  {rs : List Requested} {packet : Packet}

lemma Couples.localVariable (hc : Couples D s xs m) (n : UInt32) (id : UInt16) :
    localVariable T s n id = (m n).lookup id := by
  rw [localVariable_eq hc.cache, (hc.agrees n).lookup, localVars]
  cases localHour T xs s.platform n with
  | none => rfl
  | some hour => rfl

/-- A device that has the variable counts its wanted samples. -/
lemma Want.counts (hpos : 0 < w.count) (hc : Couples D s xs m)
    (hslots : ∀ k, w.Asks k → m.Slot w.hour w.info k (vals k)) : ∃ v : Variable,
      checkResult T w.info w.logNum (ZejfMeteo.localVariable T s w.hour w.info.id) =
        (.ok, some (v.count (isProvided T w.info) w.logNum)) ∧
      v.info.samplesPerHour = w.info.samplesPerHour ∧
      ∀ k, w.Asks k → v.data[k.toNat]? = some (vals k) := by
  obtain ⟨v, hv, hrate, -⟩ := hslots 0 hpos
  refine ⟨v, ?_, hrate, ?_⟩
  · rw [hc.localVariable, hv, checkResult, if_neg (not_not.mpr hrate.symm)]
  · intro k hk
    obtain ⟨v', hv', -, hval⟩ := hslots k hk
    obtain rfl := Option.some.inj (hv.symm.trans hv')
    exact hval

/-- The samples that are counted. -/
lemma Want.length_counted (isProv : Bool) (hrate : v.info.samplesPerHour = w.info.samplesPerHour) :
    ((v.counted isProv w.logNum).data.take (w.logNum.toNat + 1)).length = w.count := by
  rw [List.length_take, (v.counted isProv w.logNum).size_eq]
  exact congrArg (fun rate : UInt32 => min (w.logNum.toNat + 1) rate.toNat) hrate

lemma Want.count_le (isProv : Bool) (hrate : v.info.samplesPerHour = w.info.samplesPerHour) :
    (v.count isProv w.logNum).toNat ≤ w.count := by
  rw [v.count_toNat, ← w.length_counted isProv hrate]
  exact List.countP_le_length

/-- All of them are counted if and only if none is empty. -/
lemma Want.count_eq_iff (isProv : Bool) (hrate : v.info.samplesPerHour = w.info.samplesPerHour)
    (hvals : ∀ k, w.Asks k → v.data[k.toNat]? = some (vals k)) :
    (v.count isProv w.logNum).toNat = w.count ↔
      ∀ k, w.Asks k → markSample isProv (vals k) ≠ valueEmpty := by
  have hget : ∀ k : UInt32, w.Asks k →
      ((v.counted isProv w.logNum).data.take (w.logNum.toNat + 1))[k.toNat]? =
        some (markSample isProv (vals k)) := by
    intro k hk
    have hle := (Want.asks_iff.mp hk).1
    rw [UInt32.le_iff_toNat_le] at hle
    rw [List.getElem?_take_of_lt (by omega), Variable.counted_getElem?, hvals k hk, if_pos hle]
    rfl
  rw [v.count_toNat, ← w.length_counted isProv hrate, List.countP_eq_length]
  constructor
  · intro hall k hk
    exact of_decide_eq_true (hall _ (List.mem_of_getElem? (hget k hk)))
  · intro hall val hval
    obtain ⟨i, hi, rfl⟩ := List.getElem_of_mem hval
    have hi' := hi
    rw [w.length_counted isProv hrate] at hi'
    have hbound : w.count ≤ w.info.samplesPerHour.toNat := Nat.min_le_right _ _
    have hlt := w.info.samplesPerHour.toNat_lt
    have hnat : (UInt32.ofNat i).toNat = i := by
      rw [UInt32.toNat_ofNat', Nat.mod_eq_of_lt (by omega)]
    have hasks : w.Asks (UInt32.ofNat i) := by
      rw [Want.Asks, hnat]
      exact hi'
    have hsome := hget _ hasks
    rw [hnat, List.getElem?_eq_getElem hi] at hsome
    rw [Option.some.inj hsome]
    exact decide_eq_true (hall _ hasks)

/-- A check that is sent has counted. -/
lemma dataCheckSend_couples (hc : Couples D s xs m) {tx rx : List Queued}
    {es : List RoutingEntry} (hn : NetworkHolds T s tx rx es) {toId : UInt16} {info : VariableInfo}
    {n logNum time : UInt32} {rv : ZejfErr}
    (hrun : (dataCheckSend T toId info n logNum time).run s = .ok rv u) :
    ServesData D u (m.check (isProvided T info) info n logNum).2 := by
  obtain ⟨ys, q, p, hcalc, hc'⟩ := calculateDataCheck_run hc info n logNum
  have hn' := hn.data q p
  have hsame : ServesData D { s with dataQueue := q, platform := p }
      (m.check (isProvided T info) info n logNum).2 := ⟨ys, tx, rx, es, hc', hn'⟩
  rw [dataCheckSend, run_bind_ok hcalc] at hrun
  dsimp only at hrun
  split at hrun
  · obtain ⟨-, rfl⟩ := EStateM.Result.ok.inj hrun
    exact hsame
  split at hrun
  · obtain ⟨-, rfl⟩ := EStateM.Result.ok.inj hrun
    exact hsame
  split at hrun
  · obtain ⟨-, rfl⟩ := EStateM.Result.ok.inj hrun
    exact hsame
  obtain ⟨tq, ps, hsend, -, hq, -, -⟩ := send_own (T := T) hn'.queues hn'.table toId
    (by decide : dataCheckCommand ≠ idRequest) (by decide) (some _) time
  obtain ⟨-, rfl⟩ := EStateM.Result.ok.inj (hrun.symm.trans hsend)
  exact ⟨ys, _, rx, es, hc'.congr rfl rfl, hq, hn'.table.congr rfl rfl⟩

/-- The device that is checked with queues a request if it counts more and there is room. -/
lemma receiveCheck_counted (hs : s.Serving T rs) {info : VariableInfo} {n logNum number : UInt32}
    (hm : packet.message = some (print (numbersMessage info n logNum (.num number.toNat))))
    {o : RequestResult δ} (hrun : ((RequestOp.receiveCheck packet).run T).run s = .ok o u) :
    if number < (checkResult T info logNum (ZejfMeteo.localVariable T s n info.id)).2.getD 0 ∧
        ¬(isPending rs packet.fromId n info.id ∨ listIsFull s.dataRequestsQueue) then
      ∃ node a, o = .accepted (some (a, newRequest packet.fromId info n 0 logNum)) ∧
        u.Serving T (rs ++ [⟨node, a, newRequest packet.fromId info n 0 logNum⟩])
    else o.request = none := by
  obtain ⟨accepted, qs, rfl, haccepts, hu⟩ :=
    accepting_step hs (fun _ hcall => receiveCheck_accepting hs hcall) hrun
  obtain ⟨rv, hcall, -⟩ := accepting_run hs.requests hrun
  obtain ⟨v, hreceive, rfl⟩ := inHand_cases hcall
  obtain ⟨xs, hc⟩ := hs.cache
  have hcell : (s.packets.push packet).cells s.packets.next = some packet :=
    (Heap.push_cells _ _ _).trans (if_pos rfl)
  have hc' : ({ s with packets := s.packets.push packet } : Globals δ).CacheHolds T xs :=
    hc.congr rfl
  have hr : ({ s with packets := s.packets.push packet } : Globals δ).RequestsHold rs :=
    hs.requests.congr rfl rfl
  obtain ⟨rv', ys, qs', q, p, rq, hs', hreceive', -, hqs', hcase⟩ :=
    dataCheckReceive_run (s := { s with packets := s.packets.push packet }) hc' hr hcell hm
  obtain ⟨-, rfl⟩ := EStateM.Result.ok.inj (hreceive.symm.trans hreceive')
  have hlocal : ZejfMeteo.localVariable T { s with packets := s.packets.push packet } n info.id =
      ZejfMeteo.localVariable T s n info.id := by
    rw [localVariable_eq hc', localVariable_eq hc]
  have hsame : qs = qs' := hu.requests.waiting_eq.symm.trans (hqs'.congr rfl rfl).waiting_eq
  rw [hlocal] at hcase
  subst hsame
  split at hcase
  · rename_i hmore
    obtain ⟨-, node, addr, hqs⟩ := hcase
    rw [if_pos hmore]
    cases haccepts with
    | kept requests next => simp at hqs
    | added node' request asks requests next =>
      obtain ⟨-, hlast⟩ := List.append_inj' hqs rfl
      obtain ⟨rfl, rfl, rfl⟩ := Requested.mk.inj (List.singleton_inj.mp hlast)
      exact ⟨node', _, rfl, hu⟩
  · rename_i hless
    rw [if_neg hless]
    cases haccepts with
    | kept requests next => rfl
    | added node' request asks requests next => simp at hcase

/-- A check that has been sent tells the number of samples. -/
lemma dataCheckSend_message (hc : s.CacheHolds T xs) {tx rx : List Queued}
    {es : List RoutingEntry} (hn : NetworkHolds T s tx rx es) {toId : UInt16} {info : VariableInfo}
    {n logNum time : UInt32} {rv : ZejfErr}
    (hrun : (dataCheckSend T toId info n logNum time).run s = .ok rv u) {q : Queued}
    (hq : u.txPackets = s.txPackets ++ [q]) :
    q.packet.message = some (print (numbersMessage info n logNum (.num
      ((checkResult T info logNum (ZejfMeteo.localVariable T s n info.id)).2.getD 0).toNat))) ∧
      q.packet.fromId = T.deviceId := by
  obtain ⟨rv', ys, dq, p, tq, ps, sent, hrun', -, hqueues, hsent⟩ :=
    dataCheckSend_run hc hn.queues hn.table toId info n logNum time
  obtain ⟨-, rfl⟩ := EStateM.Result.ok.inj (hrun.symm.trans hrun')
  have hqueued : ({ s with dataQueue := dq, platform := p, txQueue := tq, packets := ps } :
      Globals δ).txPackets = tx ++ sent :=
    Globals.queued_eq hqueues.txHolds (fun q hq => hqueues.live q (List.mem_append_left _ hq))
  rw [hqueued, hn.txPackets] at hq
  obtain rfl := List.append_cancel_left hq
  cases hsent with
  | sent notAll counted sendOk ok node =>
    refine ⟨congrArg some (snprintf_numbersMessage T.toSettings ?_), rfl⟩
    exact (length_decimal_uint32 _).trans (by decide)

end Counting

/-! ### The exchange -/

/-- Two devices and the logs that the provider has sent and the other one has not received yet. -/
structure Exchange (α β : Type) where
  asker : Globals α
  provider : Globals β
  underway : List Packet

/-- The logs that a call queues for a device. -/
def logsFor (B : Target β) (toId : UInt16) : RequestOp β → RequestResult β → List Packet
  | .process time, o =>
    (o.rounds.flatMap (·.logs B time)).filter (fun p => p.toId = toId ∨ p.toId = broadcast)
  | _, _ => []

/-- What the device logs besides fits what it wants. -/
def DataOp.FitsWant (w : Want) : DataOp → Prop
  | .log target n k val _ _ => w.Fits n target.id k val
  | _ => True

/-- One of the two devices does something, or a log comes in. -/
inductive Exchange.Step (A : Target α) {B : Target β} (D : FaithfulStorage B) (w : Want) :
    Exchange α β → Exchange α β → Prop
  | serve {s : Globals α} {t u : Globals β} {ps : List Packet} (op : RequestOp β)
    {o : RequestResult β} (allowed : op.Allowed B t)
    (offers : ∀ v, op = .other v → Offering D w (received A B) A.deviceId v)
    (run : (op.run B).run t = .ok o u) :
    Step A D w ⟨s, t, ps⟩ ⟨s, u, ps ++ logsFor B A.deviceId op o⟩
  | arrive {s u : Globals α} {t : Globals β} {before after : List Packet} {p packet : Packet}
    (message : packet.message = p.message) (time : UInt32) {rv : ZejfErr}
    (run : (inHand packet (fun a => processDataLog A a time)).run s = .ok rv u) :
    Step A D w ⟨s, t, before ++ p :: after⟩ ⟨u, t, before ++ after⟩
  | use {s u : Globals α} {t : Globals β} {ps : List Packet} (op : DataOp)
    (fits : op.FitsWant w) {out : DataOut} (run : (op.run A).run s = .ok out u) :
    Step A D w ⟨s, t, ps⟩ ⟨u, t, ps⟩

/-- A log with a sample of the slot that says enough. -/
def Want.Carries (w : Want) (A : Target α) (k : UInt32) (p : Packet) : Prop :=
  ∃ message val, p.message = some message ∧
    logFields A message = some ⟨w.info, w.hour, k, val⟩ ∧ w.level k ≤ rank val

/-- What holds all the time: every sample before the cursor has been logged or is under way, and
what is under way may be logged. -/
structure Exchange.Going {A : Target α} {B : Target β} (DA : FaithfulStorage A)
    (DB : FaithfulStorage B) (w : Want) (old : UInt32 → Sample) (y : Exchange α β) (m : RefStore)
    (rs : List Requested) (c : ℕ) : Prop where
  asker : ServesData DA y.asker m
  improves : w.Improves old m
  offering : Offering DB w (received A B) A.deviceId y.provider
  serving : y.provider.Serving B rs
  waits : w.Waits A.deviceId rs c
  covered : ∀ k : UInt32, k.toNat < c → (∃ val, m.Slot w.hour w.info k val ∧ w.level k ≤ rank val) ∨
    ∃ p ∈ y.underway, w.Carries A k p
  underway : ∀ p ∈ y.underway, ∃ message f, p.message = some message ∧
    logFields A message = some f ∧ w.Fits f.hourNumber f.info.id f.sampleNum f.val

section Exchange

variable {A : Target α} {B : Target β} {DA : FaithfulStorage A} {DB : FaithfulStorage B} {w : Want}
  {old : UInt32 → Sample} {s u : Globals α} {t v : Globals β} {y z : Exchange α β}
  {m m' : RefStore} {rs : List Requested} {c : ℕ} {ps : List Packet} {packet : Packet}
  {toId : UInt16}

/-- A log that comes in is logged. -/
lemma ServesData.receiveLog (hs : ServesData DA s m) {message : List UInt8} {f : LogFields}
    (hm : packet.message = some message) (hf : logFields A message = some f) (time : UInt32) :
    ∃ rv u, (inHand packet (fun a => processDataLog A a time)).run s = .ok rv u ∧
      ServesData DA u (RefStore.log A.toSettings f.info f.hourNumber f.sampleNum f.val m).2 := by
  obtain ⟨xs, tx, rx, es, hc, hn⟩ := hs
  obtain ⟨hn₁, hloose⟩ := hn.push packet
  have hc₁ : Couples DA { s with packets := s.packets.push packet } xs m := hc.congr rfl rfl
  have hcell : (s.packets.push packet).cells s.packets.next = some packet :=
    (Heap.push_cells _ _ _).trans (if_pos rfl)
  obtain ⟨ys, q, p, tq, ps, sent, hrun, hc₂, -⟩ :=
    dataLog_run hc₁ hn₁ f.info f.hourNumber f.sampleNum f.val time false
  obtain ⟨o, q', p', zs, r, v, ws, sent', -, -, hrun', hlogged⟩ :=
    dataLog_cached hc₁.cache hn₁ f.info f.hourNumber f.sampleNum f.val time false
  obtain ⟨rfl, rfl⟩ := EStateM.Result.ok.inj (hrun.symm.trans hrun')
  have hloose' := (hlogged.loose s.packets.next).mpr hloose
  have hhandle := processDataLog_eq (T := A) (s := { s with packets := s.packets.push packet })
    hcell hm time
  rw [hf] at hhandle
  refine ⟨_, _, inHand_run (hhandle.trans hrun) hloose'.1, ys, tx ++ sent', rx, es,
    hc₂.congr rfl rfl, hlogged.network.erase hloose'⟩

/-- What has been logged stays, and a log that has come in has been logged. -/
lemma Exchange.covered_grow {c : ℕ} (hm : w.Grows m m') (hc : c ≤ w.count) {ps ps' : List Packet}
    (hps : ∀ k, w.Asks k → ∀ p ∈ ps, w.Carries A k p →
      (∃ val, m'.Slot w.hour w.info k val ∧ w.level k ≤ rank val) ∨ p ∈ ps')
    (h : ∀ k : UInt32, k.toNat < c → (∃ val, m.Slot w.hour w.info k val ∧ w.level k ≤ rank val) ∨
      ∃ p ∈ ps, w.Carries A k p) (k : UInt32) (hk : k.toNat < c) :
    (∃ val, m'.Slot w.hour w.info k val ∧ w.level k ≤ rank val) ∨ ∃ p ∈ ps', w.Carries A k p := by
  have hasks : w.Asks k := hk.trans_le hc
  rcases h k hk with ⟨val, hslot, hlevel⟩ | ⟨p, hp, hcarries⟩
  · obtain ⟨val', hslot', hrank, -⟩ := hm k hasks val hslot
    exact Or.inl ⟨val', hslot', hlevel.trans hrank⟩
  · rcases hps k hasks p hp hcarries with hlogged | hp'
    · exact Or.inl hlogged
    · exact Or.inr ⟨p, hp', hcarries⟩

lemma Want.Waits.le (h : w.Waits toId rs c) : c ≤ w.count := by
  rcases h with ⟨r, -, hasked⟩ | rfl
  · exact hasked.2.2.1
  · exact Nat.le_refl _

/-- A log that is under way comes in. -/
lemma Exchange.Going.arrive {before after : List Packet} {p : Packet}
    (h : Exchange.Going DA DB w old ⟨s, t, before ++ p :: after⟩ m rs c)
    (hmessage : packet.message = p.message) (time : UInt32) : ∃ rv u m',
      (inHand packet (fun a => processDataLog A a time)).run s = .ok rv u ∧
      Exchange.Going DA DB w old ⟨u, t, before ++ after⟩ m' rs c := by
  obtain ⟨message, f, hm, hf, hfits⟩ := h.underway p (by simp)
  obtain ⟨rv, u, hrun, hu⟩ := h.asker.receiveLog (hmessage.trans hm) hf time
  have hgrows : w.Grows m (RefStore.log A.toSettings f.info f.hourNumber f.sampleNum f.val m).2 :=
    Want.Grows.log A.toSettings hfits
  refine ⟨rv, u, _, hrun, hu, h.improves.grow hgrows, h.offering, h.serving, h.waits, ?_, ?_⟩
  · refine Exchange.covered_grow hgrows h.waits.le ?_ h.covered
    intro k hk q hq hcarries
    by_cases hqp : q = p
    · subst hqp
      obtain ⟨message', val, hm', hval, hlevel⟩ := hcarries
      obtain rfl := Option.some.inj (hm.symm.trans hm')
      obtain rfl := Option.some.inj (hf.symm.trans hval)
      obtain ⟨val', hslot, -⟩ := h.improves k hk
      refine Or.inl ⟨_, hslot.logged A.toSettings val, ?_⟩
      rw [RefStore.rank_overwritten (w.fine_ne k val (hfits rfl rfl hk))]
      exact hlevel.trans (Nat.le_max_right _ _)
    · refine Or.inr ?_
      simp only [List.mem_append, List.mem_cons] at hq ⊢
      exact hq.imp_right (·.resolve_left hqp)
  · intro q hq
    refine h.underway q ?_
    simp only [List.mem_append, List.mem_cons] at hq ⊢
    exact hq.imp_right Or.inr

/-- The device does something else meanwhile. -/
lemma Exchange.Going.use (h : Exchange.Going DA DB w old ⟨s, t, ps⟩ m rs c)
    (hprov : isProvided A w.info = false) {op : DataOp} (hfits : op.FitsWant w) {out : DataOut}
    (hrun : (op.run A).run s = .ok out u) :
    ∃ m', Exchange.Going DA DB w old ⟨u, t, ps⟩ m' rs c := by
  obtain ⟨u', hrun', hu⟩ := DataOp.simulates DA op s m h.asker
  obtain ⟨-, rfl⟩ := EStateM.Result.ok.inj (hrun.symm.trans hrun')
  have hgrows : w.Grows m (op.spec A m).2 := by
    cases op with
    | log target n k val time announce => exact Want.Grows.log A.toSettings hfits
    | getVal info n k => exact Want.Grows.refl w m
    | check info n logNum =>
      refine Want.Grows.check (fun hid => ?_) n logNum
      rw [isProvided, hid]
      exact hprov
    | save => exact Want.Grows.refl w m
  exact ⟨_, hu, h.improves.grow hgrows, h.offering, h.serving, h.waits,
    Exchange.covered_grow hgrows h.waits.le (fun k hk p hp _ => Or.inr hp) h.covered, h.underway⟩

lemma logsFor_eq_nil {op : RequestOp β} {o : RequestResult β} (ho : o.rounds = []) :
    logsFor B toId op o = [] := by
  cases op with
  | process time =>
    rw [logsFor, ho]
    rfl
  | _ => rfl

/-- What a round sends of a wanted sample may be logged. -/
lemma Round.logs_fits {x : Round β} (hread : Understands A B) (hx : x.Sound B)
    (hm : Offering DB w (received A B) A.deviceId x.moment) {time : UInt32} {p : Packet}
    (hp : p ∈ x.logs B time) : ∃ message f, p.message = some message ∧
      logFields A message = some f ∧ w.Fits f.hourNumber f.info.id f.sampleNum f.val := by
  unfold Round.logs at hp
  split at hp
  · rename_i hsuccess
    obtain ⟨val, hval, rfl⟩ := Option.map_eq_some_iff.mp (Option.mem_toList.mp hp)
    refine ⟨_, _, rfl, hread.logFields _ _ _ val, ?_⟩
    intro hhour hid hk
    obtain ⟨val', hstored, -, hfine⟩ := hm.stored hk hid hhour rfl
    obtain rfl := Option.some.inj (hval.symm.trans ((hx.val_eq hsuccess).trans hstored))
    exact hfine
  · cases hp

/-- A round that has sent a wanted sample has sent a log that carries it. -/
lemma Want.SentBy.carries {x : Round β} {k : UInt32} (hread : Understands A B) (hx : x.Sound B)
    (hm : Offering DB w (received A B) A.deviceId x.moment) (hk : w.Asks k)
    (h : w.SentBy A.deviceId k x) (time : UInt32) :
    ∃ p ∈ x.logs B time, p.toId = A.deviceId ∧ w.Carries A k p := by
  obtain ⟨hsuccess, htarget, hinfo, hhour, hcursor⟩ := h
  obtain ⟨val, hstored, hlevel, -⟩ := hm.stored hk (by rw [hinfo]) hhour hcursor
  have hval := (hx.val_eq hsuccess).trans hstored
  obtain ⟨-, -, hrank⟩ := hread.scan val
  refine ⟨x.log B time val, ?_, htarget, _, received A B val, rfl, ?_, ?_⟩
  · rw [Round.logs, if_pos hsuccess, hval]
    exact List.mem_singleton_self _
  · rw [hread.logFields, hinfo, hhour, hcursor]
  · rw [hrank]
    exact hlevel

/-- The provider does something. -/
lemma Exchange.Going.serve (h : Exchange.Going DA DB w old ⟨s, t, ps⟩ m rs c)
    (hread : Understands A B) (hne : A.deviceId ≠ B.deviceId) (hpos : 0 < w.count)
    {op : RequestOp β} {o : RequestResult β} (hop : op.Allowed B t)
    (hother : ∀ v, op = .other v → Offering DB w (received A B) A.deviceId v)
    (hrun : (op.run B).run t = .ok o v) : ∃ rs' c',
      Exchange.Going DA DB w old ⟨s, v, ps ++ logsFor B A.deviceId op o⟩ m rs' c' := by
  obtain ⟨-, rs', hserving, hstep⟩ := RequestOp.step h.serving hop hrun
  have hrank : ∀ val, rank (received A B val) = rank val := by
    intro val
    obtain ⟨-, -, hrank⟩ := hread.scan val
    exact hrank
  obtain ⟨hoffering, hmoments⟩ := h.offering.serve h.serving hrank hother hrun hserving.network
  cases hstep with
  | accepted accepts =>
    refine ⟨rs', c, ?_⟩
    rw [logsFor_eq_nil rfl, List.append_nil]
    refine ⟨h.asker, h.improves, hoffering, hserving, h.waits.mono ?_, h.covered, h.underway⟩
    cases accepts with
    | kept requests next => exact fun r hr => hr
    | added node request asks requests next => exact fun r hr => List.mem_append_left _ hr
  | done next =>
    refine ⟨rs, c, ?_⟩
    rw [logsFor_eq_nil rfl, List.append_nil]
    exact ⟨h.asker, h.improves, hoffering, hserving, h.waits, h.covered, h.underway⟩
  | @answered slots rounds _ answered next =>
    cases op with
    | process time =>
      obtain ⟨c', hwaits, hsent⟩ := h.waits.answered answered hmoments hne hpos
      refine ⟨rs', c', h.asker, h.improves, hoffering, hserving, hwaits, ?_, ?_⟩
      · intro k hk
        by_cases hkc : k.toNat < c
        · rcases h.covered k hkc with hlogged | ⟨p, hp, hcarries⟩
          · exact Or.inl hlogged
          · exact Or.inr ⟨p, List.mem_append_left _ hp, hcarries⟩
        · obtain ⟨x, hx, hsentBy⟩ := hsent k (Nat.not_lt.mp hkc) hk
          obtain ⟨p, hp, hto, hcarries⟩ := hsentBy.carries hread (answered.sound x hx)
            (hmoments x hx) (hk.trans_le hwaits.le) time
          refine Or.inr ⟨p, List.mem_append_right _ ?_, hcarries⟩
          exact List.mem_filter.mpr ⟨List.mem_flatMap.mpr ⟨x, hx, hp⟩, by simp [hto]⟩
      · intro p hp
        rcases List.mem_append.mp hp with hp | hp
        · exact h.underway p hp
        · obtain ⟨x, hx, hlog⟩ := List.mem_flatMap.mp (List.mem_of_mem_filter hp)
          exact Round.logs_fits hread (answered.sound x hx) (hmoments x hx) hlog
    | add toId' info n first last =>
      obtain ⟨accepted, ho⟩ := accepting_accepted hrun
      cases ho
    | receiveRequest packet =>
      obtain ⟨accepted, ho⟩ := accepting_accepted hrun
      cases ho
    | receiveCheck packet =>
      obtain ⟨accepted, ho⟩ := accepting_accepted hrun
      cases ho
    | other v' => cases hrun

/-- Every step keeps the exchange going. -/
lemma Exchange.Going.step (h : Exchange.Going DA DB w old y m rs c) (hread : Understands A B)
    (hne : A.deviceId ≠ B.deviceId) (hpos : 0 < w.count) (hprov : isProvided A w.info = false)
    (hstep : Exchange.Step A DB w y z) :
    ∃ m' rs' c', Exchange.Going DA DB w old z m' rs' c' := by
  cases hstep with
  | serve op allowed offers run =>
    obtain ⟨rs', c', hz⟩ := h.serve hread hne hpos allowed offers run
    exact ⟨m, rs', c', hz⟩
  | arrive message time run =>
    obtain ⟨rv, u, m', hrun, hz⟩ := h.arrive message time
    obtain ⟨-, rfl⟩ := EStateM.Result.ok.inj (run.symm.trans hrun)
    exact ⟨m', rs, c, hz⟩
  | use op fits run =>
    obtain ⟨m', hz⟩ := h.use hprov fits run
    exact ⟨m', rs, c, hz⟩

/-- A request that waits for all wanted samples. -/
lemma Want.asked_new (w : Want) (toId : UInt16) :
    w.Asked toId 0 (newRequest toId w.info w.hour 0 w.logNum) :=
  ⟨rfl, rfl, Nat.zero_le _, Or.inl rfl⟩

/-- When no such request waits any more, all samples have been sent. -/
lemma Want.Waits.done (h : w.Waits toId rs c)
    (hfree : isPending rs toId w.hour w.info.id = false) : c = w.count := by
  refine h.resolve_left ?_
  rintro ⟨r, hr, hrequest, -⟩
  have hfor : r.request.isFor toId w.hour w.info.id := by
    rw [hrequest]
    exact ⟨rfl, rfl, rfl⟩
  rw [isPending, List.any_eq_false] at hfree
  exact hfree r hr (decide_eq_true hfor)

/-- Once everything has come in, the device has all samples. -/
lemma Exchange.Going.filled (h : Exchange.Going DA DB w old y m rs c)
    (hfree : isPending y.provider.waiting A.deviceId w.hour w.info.id = false)
    (hnone : y.underway = []) (k : UInt32) (hk : w.Asks k) : ∃ val,
      m.Slot w.hour w.info k val ∧ (val = old k ∨ w.fine k val) ∧ rank (old k) ≤ rank val ∧
        w.level k ≤ rank val := by
  rw [h.serving.requests.waiting_eq] at hfree
  have hall := h.covered k (by rw [h.waits.done hfree]; exact hk)
  rw [hnone] at hall
  obtain ⟨val, hslot, hval⟩ := h.improves k hk
  rcases hall with ⟨val', hslot', hlevel⟩ | ⟨p, hp, -⟩
  · obtain rfl := hslot.unique hslot'
    exact ⟨val, hslot, hval.1, hval.2, hlevel⟩
  · cases hp

variable {time : UInt32} {rv : ZejfErr} {q : Queued} {o : RequestResult β} {mb : RefStore}
  {ys : List (ℕ × DataHour)}

/-- A device that has all samples is not asked for any more of them. -/
lemma Exchange.Going.checked (h : Exchange.Going DA DB w old y m rs c) (hpos : 0 < w.count)
    (hall : ∀ k, w.Asks k → ∃ val, m.Slot w.hour w.info k val ∧ val ≠ valueEmpty)
    (hcheck : (dataCheckSend A toId w.info w.hour w.logNum time).run y.asker = .ok rv u)
    (hsent : u.txPackets = y.asker.txPackets ++ [q])
    (hmessage : packet.message = q.packet.message)
    (hreceive : ((RequestOp.receiveCheck packet).run B).run y.provider = .ok o v) :
    o.request = none := by
  obtain ⟨xs, tx, rx, es, hc, hn⟩ := h.asker
  obtain ⟨ys, mb, hb, hoffers⟩ := h.offering.offers
  choose! vals hvals hne using hall
  obtain ⟨va, hresultA, hrateA, hdataA⟩ := w.counts hpos hc hvals
  choose! sent hsent' hfine using hoffers
  obtain ⟨vb, hresultB, hrateB, -⟩ := w.counts hpos hb hsent'
  obtain ⟨hprint, -⟩ := dataCheckSend_message hc.cache hn hcheck hsent
  have hcounted := receiveCheck_counted h.serving (hmessage.trans hprint) hreceive
  rw [hresultA, hresultB] at hcounted
  have hle := w.count_le (isProvided B w.info) hrateB
  have heq := (w.count_eq_iff (isProvided A w.info) hrateA hdataA).mpr (fun k hk => by
    rw [markSample_of_ne (hne k hk)]
    exact hne k hk)
  rw [if_neg] at hcounted
  · exact hcounted
  · rintro ⟨hlt, -⟩
    have hlt' := UInt32.lt_iff_toNat_lt.mp hlt
    simp only [Option.getD_some] at hlt'
    omega

/-- The check is answered by a request, and the exchange is under way. -/
lemma Exchange.start (hprovA : isProvided A w.info = false)
    (hprovB : isProvided B w.info = true) (hs : ServesData DA s m)
    (hold : ∀ k, w.Asks k → m.Slot w.hour w.info k (old k))
    (hmisses : ∃ k, w.Asks k ∧ old k = valueEmpty) (ht : t.Serving B rs) (hb : Couples DB t ys mb)
    (hoffers : ∀ k, w.Asks k → ∃ val, mb.Slot w.hour w.info k val ∧
      w.level k ≤ rank (markSample true val) ∧ w.fine k (received A B (markSample true val)))
    (hroute : ∃ e ∈ t.routes, e.deviceId = A.deviceId)
    (hfree : isPending rs A.deviceId w.hour w.info.id = false)
    (hroom : listIsFull t.dataRequestsQueue = false)
    (hcheck : (dataCheckSend A B.deviceId w.info w.hour w.logNum time).run s = .ok rv u)
    (hsent : u.txPackets = s.txPackets ++ [q]) (hmessage : packet.message = q.packet.message)
    (hfrom : packet.fromId = q.packet.fromId)
    (hreceive : ((RequestOp.receiveCheck packet).run B).run t = .ok o v) :
    (∃ a, o = .accepted (some (a, newRequest A.deviceId w.info w.hour 0 w.logNum))) ∧
      ∃ m' rs', Exchange.Going DA DB w old ⟨u, v, []⟩ m' rs' 0 := by
  obtain ⟨xs, tx, rx, es, hc, hn⟩ := hs
  obtain ⟨k₀, hk₀, hempty⟩ := hmisses
  have hpos : 0 < w.count := Nat.zero_lt_of_lt hk₀
  choose! vals hvals hfine using hoffers
  obtain ⟨va, hresultA, hrateA, hdataA⟩ := w.counts hpos hc hold
  obtain ⟨vb, hresultB, hrateB, hdataB⟩ := w.counts hpos hb hvals
  obtain ⟨hprint, hsender⟩ := dataCheckSend_message hc.cache hn hcheck hsent
  have hprint' := hmessage.trans hprint
  have hcounted := receiveCheck_counted ht hprint' hreceive
  rw [hresultA, hresultB, hfrom.trans hsender, hprovA, hprovB] at hcounted
  -- The provider counts all of them, and this device does not.
  have hall := (w.count_eq_iff true hrateB hdataB).mpr
    (fun k _ => markSample_ne_empty (vals k))
  have hless : (va.count false w.logNum).toNat ≠ w.count := by
    intro he
    refine (w.count_eq_iff false hrateA hdataA).mp he k₀ hk₀ ?_
    rw [hempty]
    rfl
  have hle := w.count_le false hrateA
  have hmore : va.count false w.logNum < vb.count true w.logNum := by
    rw [UInt32.lt_iff_toNat_lt]
    omega
  rw [if_pos ⟨hmore, by simp [hfree, hroom]⟩] at hcounted
  obtain ⟨node, a, rfl, hv⟩ := hcounted
  refine ⟨⟨a, rfl⟩, _, _, dataCheckSend_couples hc hn hcheck, ?_, ?_, hv,
    Or.inl ⟨_, List.mem_append_right _ List.mem_cons_self, w.asked_new A.deviceId⟩,
    fun k hk => absurd hk (Nat.not_lt_zero _), by simp⟩
  · intro k hk
    rw [hprovA]
    refine ⟨old k, (hold k hk).check (fun _ _ => ?_), Or.inl rfl, Nat.le_refl _⟩
    simp [markSample]
  · obtain ⟨rv', hcall, -⟩ := accepting_run ht.requests hreceive
    obtain ⟨message, hm, hroutes, zs, hc'⟩ := receiveCheck_couples hb ht.requests hcall
    obtain rfl := Option.some.inj (hm.symm.trans hprint')
    rw [numberFields_print] at hc'
    refine ⟨⟨zs, _, hc', ?_⟩, hv.network, ?_⟩
    · intro k hk
      dsimp only
      rw [hprovB]
      exact ⟨_, (hvals k hk).marked (Want.asks_iff.mp hk).1, hfine k hk⟩
    · rw [Globals.routes, hroutes]
      exact hroute

/-- A device that misses samples gets all of them from the provider that it checks with: once the
request has been worked off and the logs have come in, in any order and whatever else both devices
have done meanwhile, no sample up to the last one is empty, what the provider had measured is
measured, and another check asks for nothing. -/
theorem backfill_converges (hread : Understands A B) (hne : A.deviceId ≠ B.deviceId)
    (hprovA : isProvided A w.info = false) (hprovB : isProvided B w.info = true)
    (hs : ServesData DA s m) (hold : ∀ k, w.Asks k → m.Slot w.hour w.info k (old k))
    (hmisses : ∃ k, w.Asks k ∧ old k = valueEmpty) (ht : t.Serving B rs) (hb : Couples DB t ys mb)
    (hoffers : ∀ k, w.Asks k → ∃ val, mb.Slot w.hour w.info k val ∧
      w.level k ≤ rank (markSample true val) ∧ w.fine k (received A B (markSample true val)))
    (hroute : ∃ e ∈ t.routes, e.deviceId = A.deviceId)
    (hfree : isPending rs A.deviceId w.hour w.info.id = false)
    (hroom : listIsFull t.dataRequestsQueue = false)
    (hcheck : (dataCheckSend A B.deviceId w.info w.hour w.logNum time).run s = .ok rv u)
    (hsent : u.txPackets = s.txPackets ++ [q]) (hmessage : packet.message = q.packet.message)
    (hfrom : packet.fromId = q.packet.fromId)
    (hreceive : ((RequestOp.receiveCheck packet).run B).run t = .ok o v) :
    (∃ a, o = .accepted (some (a, newRequest A.deviceId w.info w.hour 0 w.logNum))) ∧
      ∀ y, Relation.ReflTransGen (Exchange.Step A DB w) ⟨u, v, []⟩ y →
        (∀ p ∈ y.underway, ∀ packet time, packet.message = p.message →
          ∃ rv u, (inHand packet (fun a => processDataLog A a time)).run y.asker = .ok rv u) ∧
        (isPending y.provider.waiting A.deviceId w.hour w.info.id = false → y.underway = [] →
          (∀ k, w.Asks k → ∃ val u,
            (dataGetVal A w.info w.hour k true false).run y.asker = .ok (.ok, some val) u ∧
            val ≠ valueEmpty ∧ (val = old k ∨ w.fine k val) ∧
            max (rank (old k)) (w.level k) ≤ rank val) ∧
          ∀ time rv u q packet o v,
            (dataCheckSend A B.deviceId w.info w.hour w.logNum time).run y.asker = .ok rv u →
            u.txPackets = y.asker.txPackets ++ [q] → packet.message = q.packet.message →
            ((RequestOp.receiveCheck packet).run B).run y.provider = .ok o v →
            o.request = none) := by
  obtain ⟨hasked, m₀, rs₀, hgoing⟩ := Exchange.start hprovA hprovB hs hold hmisses ht hb
    hoffers hroute hfree hroom hcheck hsent hmessage hfrom hreceive
  refine ⟨hasked, ?_⟩
  intro y hy
  have hpos : 0 < w.count := Nat.zero_lt_of_lt hmisses.choose_spec.1
  obtain ⟨m', rs', c', hy'⟩ : ∃ m' rs' c', Exchange.Going DA DB w old y m' rs' c' := by
    induction hy with
    | refl => exact ⟨m₀, rs₀, 0, hgoing⟩
    | tail _ hstep ih =>
      obtain ⟨m', rs', c', hz⟩ := ih
      exact hz.step hread hne hpos hprovA hstep
  refine ⟨?_, ?_⟩
  · intro p hp packet time hpacket
    obtain ⟨message, f, hm, hf, -⟩ := hy'.underway p hp
    obtain ⟨rv, u, hrun, -⟩ := hy'.asker.receiveLog (hpacket.trans hm) hf time
    exact ⟨rv, u, hrun⟩
  · intro hdone hnone
    have hfilled := hy'.filled hdone hnone
    have hlevel : ∀ {k val}, w.level k ≤ rank val → val ≠ valueEmpty :=
      fun hlevel => rank_pos.mp ((w.level_pos _).trans_le hlevel)
    refine ⟨?_, ?_⟩
    · intro k hk
      obtain ⟨val, hslot, hval, hrank, hlevel'⟩ := hfilled k hk
      obtain ⟨xs, tx, rx, es, hc, -⟩ := hy'.asker
      obtain ⟨zs, dq, p, hrun, -⟩ := dataGetVal_run hc w.info w.hour k
      rw [RefStore.getVal_of_sample hslot.sample] at hrun
      exact ⟨val, _, hrun, hlevel hlevel', hval, max_le hrank hlevel'⟩
    · intro time rv u q packet o v hcheck hsent hmessage hreceive
      refine hy'.checked hpos (fun k hk => ?_) hcheck hsent hmessage hreceive
      obtain ⟨val, hslot, -, -, hlevel'⟩ := hfilled k hk
      exact ⟨val, hslot, hlevel hlevel'⟩

end Exchange

/-- How `%.4f` writes both sentinels, 6 and 5. -/
def fourDigits (val : Sample) : List UInt8 :=
  if val = valueEmpty then [0x2D, 0x39, 0x39, 0x39, 0x2E, 0x30, 0x30, 0x30, 0x30]
  else if val = valueNotMeasured then [0x2D, 0x39, 0x39, 0x38, 0x2E, 0x30, 0x30, 0x30, 0x30]
  else if val = 0x40C00000 then [0x36, 0x2E, 0x30, 0x30, 0x30, 0x30]
  else [0x35, 0x2E, 0x30, 0x30, 0x30, 0x30]

/-- A platform with a disk that writes and reads these. -/
def Target.plain (settings : Settings) (provided : List VariableInfo) :
    Target (UInt32 → Option (List UInt8)) :=
  { Target.disk settings with
    providedVariables := provided
    printValue := fourDigits
    scanValue := fun text =>
      if text = fourDigits valueEmpty then some (valueEmpty, [])
      else if text = fourDigits valueNotMeasured then some (valueNotMeasured, [])
      else if text = fourDigits 0x40C00000 then some (0x40C00000, [])
      else some (0x40A00000, []) }

def FaithfulStorage.plain (settings : Settings) (provided : List VariableInfo) :
    FaithfulStorage (Target.plain settings provided) where
  files p := p
  load_missing n p h := by simp [Target.plain, Target.disk, h]
  load_saved n p b h := by simp [Target.plain, Target.disk, h]
  load_files _ _ := rfl
  save_ok _ _ _ := rfl
  save_files _ _ _ := rfl

lemma plain_understands (settings settings' : Settings) (provided provided' : List VariableInfo) :
    Understands (Target.plain settings provided) (Target.plain settings' provided') where
  short val := by
    show (fourDigits val).length ≤ 45
    unfold fourDigits
    split_ifs <;> decide
  read val := by
    show ∃ val' rest, (Target.plain settings provided).scanValue (fourDigits val) =
      some (val', rest) ∧ rank val' = rank val
    unfold fourDigits
    split_ifs with h₁ h₂ h₃
    · exact ⟨_, _, rfl, by rw [h₁]⟩
    · exact ⟨_, _, rfl, by rw [h₂]⟩
    · exact ⟨_, _, rfl, by rw [h₃]⟩
    · refine ⟨_, _, rfl, ?_⟩
      rw [rank, rank, if_neg h₁, if_neg h₂]
      decide

/-- The server asks the pressure sensor. -/
abbrev askingServer : Target (UInt32 → Option (List UInt8)) := Target.plain Settings.zejfMeteo []

abbrev askedSensor : Target (UInt32 → Option (List UInt8)) :=
  Target.plain Settings.zejfPress [⟨2, 7⟩]

/-- A device that knows a way to another one. -/
def knowing (T : Target (UInt32 → Option (List UInt8))) (id : UInt16) :
    Globals (UInt32 → Option (List UInt8)) :=
  { zejfInit T (fun _ => none) with
    routingTable := some { routingEntryCreate with deviceId := id } ::
      List.replicate (T.routingTableSize - 1) none
    routingTableTop := 1 }

/-- The server has missed the first of two samples. -/
def missedOne : Globals (UInt32 → Option (List UInt8)) :=
  leaves ((dataLog askingServer ⟨2, 7⟩ 10 1 0x40A00000 0 false).run (knowing askingServer 2))

def measuredBoth : Globals (UInt32 → Option (List UInt8)) :=
  leaves ((dataLog askedSensor ⟨2, 7⟩ 10 1 0x40A00000 0 false).run
    (leaves ((dataLog askedSensor ⟨2, 7⟩ 10 0 0x40C00000 0 false).run (knowing askedSensor 1))))

def wantBoth : Want where
  info := ⟨2, 7⟩
  hour := 10
  logNum := 1
  level _ := 2
  level_pos _ := Nat.two_pos
  fine k val := val = if k = 0 then 0x40C00000 else 0x40A00000
  fine_ne k val h := by
    rw [h]
    split <;> decide

lemma knowing_couples {T : Target (UInt32 → Option (List UInt8))} (D : FaithfulStorage T)
    (hfiles : D.files (fun _ => none) = fun _ => none) (hsize : 0 < T.routingTableSize)
    (id : UInt16) : Couples D (knowing T id) [] RefStore.empty ∧
      NetworkHolds T (knowing T id) [] [] [{ routingEntryCreate with deviceId := id }] := by
  refine ⟨Couples.initial D rfl (congrFun hfiles), ?_, rfl, rfl, hsize⟩
  exact (zejfInit_queuesHold T (fun _ => none)).congr rfl rfl rfl (fun _ _ => rfl)

lemma ServesData.dataLog {T : Target δ} {D : FaithfulStorage T} {s : Globals δ} {m : RefStore}
    (hs : ServesData D s m) (target : VariableInfo) (n k : UInt32) (val : Sample) (time : UInt32)
    (announce : Bool) :
    ServesData D (leaves ((ZejfMeteo.dataLog T target n k val time announce).run s))
      (m.log T.toSettings target n k val).2 := by
  obtain ⟨xs, tx, rx, es, hc, hn⟩ := hs
  obtain ⟨ys, q, p, tq, ps, sent, hrun, hc', hn'⟩ := dataLog_run hc hn target n k val time announce
  rw [hrun, leaves_ok]
  exact ⟨ys, _, rx, es, hc', hn'⟩

lemma Globals.Serving.dataLog {T : Target δ} {s : Globals δ} {rs : List Requested}
    (hs : s.Serving T rs) (target : VariableInfo) (n k : UInt32) (val : Sample) (time : UInt32)
    (announce : Bool) :
    (leaves ((ZejfMeteo.dataLog T target n k val time announce).run s)).Serving T rs := by
  obtain ⟨rv, u, hrun, hu⟩ := dataLog_undisturbed hs target n k val time announce
  rw [hrun, leaves_ok]
  exact hs.undisturbed hu

/-- What the server has. -/
def serverStore : RefStore :=
  (RefStore.log Settings.zejfMeteo ⟨2, 7⟩ 10 1 0x40A00000 RefStore.empty).2

def sensorStore : RefStore :=
  (RefStore.log Settings.zejfPress ⟨2, 7⟩ 10 1 0x40A00000
    (RefStore.log Settings.zejfPress ⟨2, 7⟩ 10 0 0x40C00000 RefStore.empty).2).2

lemma wantBoth_asks {k : UInt32} (hk : wantBoth.Asks k) : k = 0 ∨ k = 1 := by
  have hlt : k.toNat < 2 := hk
  rw [← UInt32.toNat_inj, ← UInt32.toNat_inj]
  show k.toNat = 0 ∨ k.toNat = 1
  omega

lemma serverStore_slot : ∀ k, wantBoth.Asks k →
    serverStore.Slot 10 ⟨2, 7⟩ k (if k = 0 then valueEmpty else 0x40A00000) := by
  intro k hk
  rcases wantBoth_asks hk with rfl | rfl
  · exact ⟨_, rfl, rfl, rfl⟩
  · exact ⟨_, rfl, rfl, rfl⟩

lemma sensorStore_slot : ∀ k, wantBoth.Asks k →
    sensorStore.Slot 10 ⟨2, 7⟩ k (if k = 0 then 0x40C00000 else 0x40A00000) := by
  intro k hk
  rcases wantBoth_asks hk with rfl | rfl
  · exact ⟨_, rfl, rfl, rfl⟩
  · exact ⟨_, rfl, rfl, rfl⟩

def checkSent : Globals (UInt32 → Option (List UInt8)) :=
  leaves ((dataCheckSend askingServer askedSensor.deviceId ⟨2, 7⟩ 10 1 0).run missedOne)

/-- The check. -/
def theCheck : Packet :=
  { packetCreate with
    fromId := 1
    message := some (print (numbersMessage ⟨2, 7⟩ 10 1 (.num 1))) }

def checkReceived : Globals (UInt32 → Option (List UInt8)) :=
  leaves (((RequestOp.receiveCheck theCheck).run askedSensor).run measuredBoth)

def bothSent : Globals (UInt32 → Option (List UInt8)) :=
  leaves (((RequestOp.process 0).run askedSensor).run checkReceived)

lemma missedOne_serves :
    ServesData (.plain Settings.zejfMeteo []) missedOne serverStore := by
  obtain ⟨hc, hn⟩ := knowing_couples (.plain Settings.zejfMeteo []) rfl (by decide) 2
  exact ServesData.dataLog ⟨_, _, _, _, hc, hn⟩ _ _ _ _ _ _

lemma measuredBoth_serves : measuredBoth.Serving askedSensor [] ∧
    ∃ ys, Couples (.plain Settings.zejfPress [⟨2, 7⟩]) measuredBoth ys sensorStore := by
  obtain ⟨hc₀, hn₀⟩ := knowing_couples (.plain Settings.zejfPress [⟨2, 7⟩]) rfl (by decide) 1
  have hserving₀ : (knowing askedSensor 1).Serving askedSensor [] :=
    ⟨⟨_, hc₀.cache⟩, ⟨_, _, _, hn₀⟩,
      (zejfInit_requestsHold askedSensor (fun _ => none)).congr rfl rfl⟩
  obtain ⟨ys, tx, rx, es, hc, -⟩ : ServesData (.plain Settings.zejfPress [⟨2, 7⟩]) measuredBoth
      sensorStore :=
    ServesData.dataLog (ServesData.dataLog ⟨_, _, _, _, hc₀, hn₀⟩ _ _ _ _ _ _) _ _ _ _ _ _
  exact ⟨(hserving₀.dataLog _ _ _ _ _ _).dataLog _ _ _ _ _ _, ys, hc⟩

lemma theCheck_sent :
    (dataCheckSend askingServer askedSensor.deviceId ⟨2, 7⟩ 10 1 0).run missedOne =
      .ok .ok checkSent ∧ ∃ q, checkSent.txPackets = missedOne.txPackets ++ [q] ∧
        theCheck.message = q.packet.message ∧ theCheck.fromId = q.packet.fromId := by
  have hnone : missedOne.txPackets = [] := List.length_eq_zero_iff.mp (by decide +kernel)
  have hqueued : checkSent.txPackets.map (fun q => (q.packet.message, q.packet.fromId)) =
      [(theCheck.message, theCheck.fromId)] := by
    decide +kernel
  obtain ⟨q, hq, hfields⟩ := List.map_eq_singleton_iff.mp hqueued
  obtain ⟨hmessage, hfrom⟩ := Prod.mk.inj hfields
  refine ⟨run_eq_of_outcome (by decide +kernel), q, ?_, hmessage.symm, hfrom.symm⟩
  rw [hnone, hq]
  rfl

lemma theCheck_received : ∃ o,
    ((RequestOp.receiveCheck theCheck).run askedSensor).run measuredBoth = .ok o checkReceived := by
  obtain ⟨o, ho⟩ := Option.isSome_iff_exists.mp (by decide +kernel : (outcome
    (((RequestOp.receiveCheck theCheck).run askedSensor).run measuredBoth)).isSome)
  exact ⟨o, run_eq_of_outcome ho⟩

/-- One call sends both logs. -/
lemma both_sent : ∃ p p', Exchange.Step askingServer (.plain Settings.zejfPress [⟨2, 7⟩]) wantBoth
    ⟨checkSent, checkReceived, []⟩ ⟨checkSent, bothSent, [p, p']⟩ := by
  obtain ⟨o, ho, hlength⟩ := Option.map_eq_some_iff.mp (by decide +kernel : (outcome
    (((RequestOp.process 0).run askedSensor).run checkReceived)).map
      (fun o => (logsFor askedSensor 1 (.process 0) o).length) = some 2)
  obtain ⟨p, p', hlogs⟩ := List.length_eq_two.mp hlength
  refine ⟨p, p', ?_⟩
  rw [← hlogs]
  exact .serve (.process 0) trivial (fun v hv => by cases hv) (run_eq_of_outcome ho)

lemma wantBoth_offers (k : UInt32) (hk : wantBoth.Asks k) :
    ∃ val, sensorStore.Slot 10 ⟨2, 7⟩ k val ∧ wantBoth.level k ≤ rank (markSample true val) ∧
      wantBoth.fine k (received askingServer askedSensor (markSample true val)) := by
  refine ⟨_, sensorStore_slot k hk, ?_⟩
  have hfine : ∀ k : UInt32, k = 0 ∨ k = 1 → received askingServer askedSensor
      (markSample true (if k = 0 then 0x40C00000 else 0x40A00000)) =
        if k = 0 then 0x40C00000 else 0x40A00000 := by
    rintro k (rfl | rfl)
    · decide
    · decide
  refine ⟨?_, hfine k (wantBoth_asks hk)⟩
  show 2 ≤ _
  rcases wantBoth_asks hk with rfl | rfl
  · decide
  · decide

/-- The server has got the sample that it missed when both logs have come in. -/
theorem missedOne_filled :
    ∃ y : Exchange (UInt32 → Option (List UInt8)) (UInt32 → Option (List UInt8)),
      Relation.ReflTransGen
        (Exchange.Step askingServer (.plain Settings.zejfPress [⟨2, 7⟩]) wantBoth)
        ⟨checkSent, checkReceived, []⟩ y ∧ y.underway = [] ∧
      ∃ u, (dataGetVal askingServer ⟨2, 7⟩ 10 0 true false).run y.asker =
        .ok (.ok, some 0x40C00000) u := by
  obtain ⟨hserving, ys, hc⟩ := measuredBoth_serves
  obtain ⟨hcheck, q, hq, hmessage, hfrom⟩ := theCheck_sent
  obtain ⟨o, hreceive⟩ := theCheck_received
  obtain ⟨p, p', hserve⟩ := both_sent
  obtain ⟨-, hall⟩ := backfill_converges (w := wantBoth) (plain_understands _ _ _ _) (by decide)
    rfl rfl missedOne_serves serverStore_slot ⟨0, Nat.two_pos, rfl⟩ hserving hc wantBoth_offers
    ⟨_, List.mem_cons_self, rfl⟩ rfl (by decide +kernel) hcheck hq hmessage hfrom hreceive
  have hsent : Relation.ReflTransGen (Exchange.Step askingServer
      (.plain Settings.zejfPress [⟨2, 7⟩]) wantBoth) ⟨checkSent, checkReceived, []⟩
      ⟨checkSent, bothSent, [] ++ p :: [p']⟩ := .single hserve
  obtain ⟨rv, u, hrun⟩ := (hall _ hsent).1 p (by simp) p 0 rfl
  have hone : Relation.ReflTransGen (Exchange.Step askingServer
      (.plain Settings.zejfPress [⟨2, 7⟩]) wantBoth) ⟨checkSent, checkReceived, []⟩
      ⟨u, bothSent, [] ++ p' :: []⟩ := hsent.tail (.arrive rfl 0 hrun)
  obtain ⟨rv', u', hrun'⟩ := (hall _ hone).1 p' (by simp) p' 0 rfl
  have hboth : Relation.ReflTransGen (Exchange.Step askingServer
      (.plain Settings.zejfPress [⟨2, 7⟩]) wantBoth) ⟨checkSent, checkReceived, []⟩
      ⟨u', bothSent, [] ++ []⟩ := hone.tail (.arrive rfl 0 hrun')
  have hdone : isPending bothSent.waiting askingServer.deviceId wantBoth.hour wantBoth.info.id =
      false := by
    decide +kernel
  obtain ⟨-, hfilled⟩ := hall _ hboth
  dsimp only at hfilled
  obtain ⟨hsamples, -⟩ := hfilled hdone rfl
  obtain ⟨val, v, hval, hne, hfine, -⟩ := hsamples 0 Nat.two_pos
  refine ⟨_, hboth, rfl, v, ?_⟩
  rw [show val = 0x40C00000 from hfine.resolve_left hne] at hval
  exact hval

end ZejfMeteo
