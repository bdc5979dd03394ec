import ZejfMeteo.Messages
import ZejfMeteo.Lib.Trace

/-!
# What a node knows about an hour

Logs, checks and requests about one hour are followed. The logs overwrite samples and the checks
mark them, so the question is whether anything that was known is forgotten on the way.
-/

namespace ZejfMeteo
open Runs Format

variable {δ : Type}

/-! ### Samples that are kept -/

/-- Nothing that is known of a sample is forgotten. -/
def Kept (val val' : Sample) : Prop :=
  (val ≠ valueEmpty → val' ≠ valueEmpty) ∧ (Measured val → Measured val')

def DataHour.Kept (h h' : DataHour) : Prop :=
  ∀ id k val, h.sample id k = some val → ∃ val', h'.sample id k = some val' ∧ ZejfMeteo.Kept val val'

/-- A log of an empty sample where the sample is marked as not measured. -/
def DataHour.Forgets (h : DataHour) (target : VariableInfo) (sampleNumber : UInt32)
    (value : Sample) : Prop :=
  value = valueEmpty ∧ h.sample target.id sampleNumber = some valueNotMeasured ∧
    ∀ v, h.vars.find? (fun v => v.info.id == target.id) = some v →
      v.info.samplesPerHour = target.samplesPerHour

section Samples

variable {cfg : Settings} {h h' h'' : DataHour} {v v' v'' : Variable} {target : VariableInfo}
  {k : UInt32} {value : Sample} {isProv : Bool} {logNum : UInt32}

lemma Kept.refl (val : Sample) : Kept val val := ⟨id, id⟩

lemma Kept.trans {a b c : Sample} (hab : Kept a b) (hbc : Kept b c) : Kept a c :=
  ⟨hbc.1 ∘ hab.1, hbc.2 ∘ hab.2⟩

/-- The same variable with all that is known of its samples. -/
structure Variable.Grown (v v' : Variable) : Prop where
  info : v'.info = v.info
  kept : ∀ (i : ℕ) val, v.data[i]? = some val → ∃ val', v'.data[i]? = some val' ∧ Kept val val'

def DataHour.Grown (h h' : DataHour) : Prop :=
  ∀ id v, h.vars.find? (fun v => v.info.id == id) = some v →
    ∃ v', h'.vars.find? (fun v => v.info.id == id) = some v' ∧ v.Grown v'

lemma Variable.Grown.refl (v : Variable) : v.Grown v :=
  ⟨rfl, fun _ val hval => ⟨val, hval, Kept.refl val⟩⟩

lemma Variable.Grown.trans (hv : v.Grown v') (hv' : v'.Grown v'') : v.Grown v'' where
  info := hv'.info.trans hv.info
  kept i val hval := by
    obtain ⟨val', hval', hkept⟩ := hv.kept i val hval
    obtain ⟨val'', hval'', hkept'⟩ := hv'.kept i val' hval'
    exact ⟨val'', hval'', hkept.trans hkept'⟩

lemma DataHour.Grown.refl (h : DataHour) : h.Grown h :=
  fun _ v hv => ⟨v, hv, Variable.Grown.refl v⟩

lemma DataHour.Grown.trans (hh : h.Grown h') (hh' : h'.Grown h'') : h.Grown h'' := by
  intro id v hv
  obtain ⟨v', hv', hgrown⟩ := hh id v hv
  obtain ⟨v'', hv'', hgrown'⟩ := hh' id v' hv'
  exact ⟨v'', hv'', hgrown.trans hgrown'⟩

lemma DataHour.Grown.to_kept (hh : h.Grown h') : h.Kept h' := by
  intro id k val hval
  obtain ⟨v, hv, hdata⟩ := Option.bind_eq_some_iff.mp hval
  obtain ⟨v', hv', hgrown⟩ := hh id v hv
  obtain ⟨val', hval', hkept⟩ := hgrown.kept _ val hdata
  exact ⟨val', Option.bind_eq_some_iff.mpr ⟨v', hv', hval'⟩, hkept⟩

/-- Changing one variable changes what is found under its id. -/
lemma find?_modify (vars : List Variable) (i : ℕ) {f : Variable → Variable}
    (hf : ∀ v, (f v).info = v.info) (id : UInt16) :
    (vars.modify i f).find? (fun v => v.info.id == id) =
      (vars.find? (fun v => v.info.id == id)).map (fun v =>
        if vars.findIdx? (fun v => v.info.id == id) = some i then f v else v) := by
  induction vars generalizing i with
  | nil => simp
  | cons v vs ih =>
    cases i with
    | zero =>
      rw [List.modify_zero_cons, List.find?_cons, List.find?_cons, List.findIdx?_cons, hf]
      cases v.info.id == id <;> simp
    | succ i =>
      rw [List.modify_succ_cons, List.find?_cons, List.find?_cons, List.findIdx?_cons]
      cases v.info.id == id
      · simp [ih]
      · simp

lemma find?_modify_found {i : ℕ} {f : Variable → Variable} {id : UInt16}
    (hf : ∀ v, (f v).info = v.info) (hv : getVariable h id = some i)
    (hfind : h.vars.find? (fun v => v.info.id == id) = some v) :
    (h.vars.modify i f).find? (fun v => v.info.id == id) = some (f v) := by
  unfold getVariable at hv
  rw [find?_modify h.vars i hf, hfind, Option.map_some, if_pos hv]

lemma DataHour.Grown.modify {i : ℕ} {f : Variable → Variable} (hf : ∀ v, (f v).info = v.info)
    (hgrown : ∀ v, h.vars[i]? = some v → v.Grown (f v)) :
    h.Grown { h with vars := h.vars.modify i f } := by
  intro id v hv
  refine ⟨_, (find?_modify h.vars i hf id).trans (congrArg _ hv), ?_⟩
  split
  · rename_i hi
    obtain ⟨w, hw, hfind, -⟩ := getVariable_some hi
    obtain rfl := Option.some.inj (hv.symm.trans hfind)
    exact hgrown v hw
  · exact Variable.Grown.refl v

lemma DataHour.Grown.append {w : Variable} : h.Grown { h with vars := h.vars ++ [w] } := by
  intro id v hv
  refine ⟨v, ?_, Variable.Grown.refl v⟩
  rw [List.find?_append, hv]
  rfl

/-- A count only marks samples. -/
lemma Variable.counted_grown (v : Variable) (isProv : Bool) (logNum : UInt32) :
    v.Grown (v.counted isProv logNum) where
  info := rfl
  kept i val hval := by
    rw [Variable.counted_getElem?, hval]
    refine ⟨_, rfl, ?_⟩
    split
    · unfold markSample
      split
      · rename_i hmark
        exact ⟨fun hne => absurd hmark.1 hne, fun hm => absurd hmark.1 hm.1⟩
      · exact Kept.refl val
    · exact Kept.refl val

lemma check_grown (h : DataHour) (isProv : Bool) (info : VariableInfo) (logNum : UInt32) :
    h.Grown (h.check isProv info logNum).2 := by
  unfold DataHour.check
  split
  · exact DataHour.Grown.refl h
  split
  · exact DataHour.Grown.refl h
  split
  · exact DataHour.Grown.refl h
  · exact DataHour.Grown.modify (fun _ => rfl) (fun v _ => v.counted_grown isProv logNum)

lemma logAt_grown {i : ℕ} (hi : h.vars[i]? = some v)
    (hno : v.info.samplesPerHour = target.samplesPerHour → value = valueEmpty →
      v.data[k.toNat]? ≠ some valueNotMeasured) : h.Grown (h.logAt i target k value).2 := by
  simp only [DataHour.logAt, hi]
  split
  · exact DataHour.Grown.refl h
  split
  · exact DataHour.Grown.refl h
  split
  · exact DataHour.Grown.refl h
  rename_i hrate hk hguard
  refine DataHour.Grown.modify (fun _ => rfl) (fun w hw => ⟨rfl, ?_⟩)
  obtain rfl := Option.some.inj (hi.symm.trans hw)
  intro j old hold
  rw [Variable.setSample_data, List.getElem?_set]
  by_cases hj : k.toNat = j
  · subst hj
    obtain ⟨hlt, -⟩ := List.getElem?_eq_some_iff.mp hold
    rw [if_pos rfl, if_pos hlt]
    refine ⟨value, rfl, ?_⟩
    rw [List.getD_eq_getElem?_getD, hold, Option.getD_some] at hguard
    have hmeasured : Measured old → Measured value := by
      intro hold'
      by_contra hvalue
      exact hguard ⟨hold', hvalue⟩
    refine ⟨?_, hmeasured⟩
    intro hne hempty
    by_cases hold' : old = valueNotMeasured
    · exact hno (not_not.mp hrate) hempty (hold' ▸ hold)
    · exact (hmeasured ⟨hne, hold'⟩).1 hempty
  · rw [if_neg hj]
    exact ⟨old, hold, Kept.refl old⟩

/-- A log forgets nothing unless it empties a sample that was not measured. -/
lemma log_grown (hwf : h.WellFormed cfg) (hno : ¬h.Forgets target k value) :
    h.Grown (h.log cfg target k value).2 := by
  unfold DataHour.log
  cases hv : getVariable h target.id with
  | some i =>
    obtain ⟨v, hi, hfind, -⟩ := getVariable_some hv
    refine logAt_grown hi ?_
    intro hrate hempty hdata
    refine hno ⟨hempty, Option.bind_eq_some_iff.mpr ⟨v, hfind, hdata⟩, ?_⟩
    intro w hw
    obtain rfl := Option.some.inj (hfind.symm.trans hw)
    exact hrate
  | none =>
    cases hadd : hourAddVariable cfg h target with
    | mk rv added =>
      cases rv
      case ok =>
        have haddable := hourAddVariable_addable hwf hadd
        obtain rfl := (Prod.mk.inj (hadd.symm.trans (hourAddVariable_ok hwf haddable))).2
        refine DataHour.Grown.append.trans (logAt_grown (v := Variable.create target) (by simp) ?_)
        intro _ _ hdata
        rw [Variable.create, List.getElem?_replicate] at hdata
        split at hdata
        · exact absurd (Option.some.inj hdata) (by decide)
        · cases hdata
      all_goals exact DataHour.Grown.refl h

lemma log_not_kept (hforgets : h.Forgets target k value) : ¬h.Kept (h.log cfg target k value).2 := by
  intro hkept
  obtain ⟨rfl, hsample, hrate⟩ := hforgets
  obtain ⟨val', hval', hne, -⟩ := hkept _ _ _ hsample
  obtain ⟨v, hfind, hdata⟩ := Option.bind_eq_some_iff.mp hsample
  obtain ⟨hlt, hold⟩ := List.getElem?_eq_some_iff.mp hdata
  have hk : ¬v.info.samplesPerHour ≤ k := by
    rw [UInt32.le_iff_toNat_le, ← v.size_eq]
    exact Nat.not_le.mpr hlt
  cases hv : getVariable h target.id with
  | none =>
    rw [getVariable_none hv] at hfind
    cases hfind
  | some i =>
    obtain ⟨w, hi, hw, -⟩ := getVariable_some hv
    obtain rfl := Option.some.inj (hfind.symm.trans hw)
    have hnot : ¬Measured valueNotMeasured := by decide
    have hlog : (h.log cfg target k valueEmpty).2.vars =
        h.vars.modify i (·.setSample k.toNat valueEmpty) := by
      simp only [DataHour.log, hv, DataHour.logAt, hi, hrate v hfind, ne_eq, not_true, if_false,
        List.getD_eq_getElem?_getD, hdata, Option.getD_some, hnot, false_and]
      rw [← hrate v hfind, if_neg hk]
    have hfound := find?_modify_found (f := (·.setSample k.toNat valueEmpty)) (fun _ => rfl) hv hfind
    rw [DataHour.sample, hlog, hfound, Option.bind_some, Variable.setSample_data,
      List.getElem?_set_self hlt] at hval'
    exact hne (by decide) (Option.some.inj hval').symm

/-- Once they have been counted, the samples are counted again. -/
lemma Variable.count_le_of_grown (hgrown : (v.counted isProv logNum).Grown v') :
    v.count isProv logNum ≤ v'.count isProv logNum := by
  have hcounted := hgrown.trans (v'.counted_grown isProv logNum)
  rw [UInt32.le_iff_toNat_le, Variable.count_toNat, Variable.count_toNat]
  apply countP_le_of_getElem?
  intro i val hval
  rw [List.getElem?_take] at hval ⊢
  split at hval
  · rename_i hi
    obtain ⟨val', hval', hkept⟩ := hcounted.kept i val hval
    rw [if_pos hi]
    exact ⟨val', hval', by simpa using hkept.1⟩
  · cases hval

/-- A check of an hour that has grown since the last one counts no less. -/
lemma check_le_of_grown {info : VariableInfo} {c : UInt32}
    (hcheck : (h.check isProv info logNum).1 = (.ok, some c))
    (hgrown : (h.check isProv info logNum).2.Grown h') :
    ∃ c', (h'.check isProv info logNum).1 = (.ok, some c') ∧ c ≤ c' := by
  cases hv : getVariable h info.id with
  | none => simp [DataHour.check, hv] at hcheck
  | some i =>
    obtain ⟨v, hi, hfind, -⟩ := getVariable_some hv
    by_cases hrate : info.samplesPerHour ≠ v.info.samplesPerHour
    · simp [DataHour.check, hv, hi, hrate] at hcheck
    · simp only [DataHour.check, hv, hi, if_neg hrate] at hcheck hgrown
      obtain ⟨-, hc⟩ := Prod.mk.inj hcheck
      obtain rfl := Option.some.inj hc
      obtain ⟨v', hfind', hgrown'⟩ := hgrown info.id (v.counted isProv logNum)
        (find?_modify_found (f := (·.counted isProv logNum)) (fun _ => rfl) hv hfind)
      cases hv' : getVariable h' info.id with
      | none =>
        rw [getVariable_none hv'] at hfind'
        cases hfind'
      | some j =>
        obtain ⟨w, hj, hw, -⟩ := getVariable_some hv'
        obtain rfl := Option.some.inj (hfind'.symm.trans hw)
        have hrate' : ¬info.samplesPerHour ≠ v'.info.samplesPerHour := by
          rw [hgrown'.info]
          exact hrate
        simp only [DataHour.check, hv', hj, if_neg hrate']
        exact ⟨_, rfl, Variable.count_le_of_grown hgrown'⟩

end Samples

/-! ### Runs about one hour -/

/-- What can be said to the node about the hour `H`, or asked of it. -/
inductive KnowOp
  | log (target : VariableInfo) (sampleNumber : UInt32) (value : Sample) (time : UInt32)
      (announce : Bool)
  | receiveLog (packet : Packet) (time : UInt32)
  | receiveCheck (packet : Packet)
  | receiveRequest (packet : Packet)
  | process (time : UInt32)
  | check (info : VariableInfo) (logNum : UInt32)

namespace KnowOp

/-- Returns the count of a check as well. -/
def run (T : Target δ) (H : UInt32) : KnowOp → Run (Globals δ) (ZejfErr × Option UInt32)
  | log target k value time announce => do
    return (← dataLog T target H k value time announce, none)
  | receiveLog packet time => do
    return (← inHand packet (fun a => processDataLog T a time), none)
  | receiveCheck packet => do
    return (← inHand packet (dataCheckReceive T), none)
  | receiveRequest packet => do
    return (← inHand packet dataRequestReceive, none)
  | process time => do
    dataRequestsProcess T time
    return (.ok, none)
  | check info logNum => calculateDataCheck T info H logNum

/-- The packet, if it is one that is understood, is about the hour. -/
def IsAbout (T : Target δ) (H : UInt32) : KnowOp → Prop
  | log .. => True
  | receiveLog packet _ => ∀ message f, packet.message = some message →
      logFields T message = some f → f.hourNumber = H
  | receiveCheck packet => ∀ message f, packet.message = some message →
      numberFields message = some f → f.hourNum = H
  | receiveRequest packet => ∀ message f, packet.message = some message →
      numberFields message = some f → f.hourNum = H
  | process _ => True
  | check .. => True

end KnowOp

section Hour

variable (T : Target δ) (H : UInt32)

/-- What the node knows of the hour. -/
def known (s : Globals δ) : Option DataHour := localHour T s.cached s.platform H

/-- A log, local or received, forgets a sample of the hour. -/
def Forgets (t : Globals δ) : KnowOp → Prop
  | .log target k value _ _ => ∃ h ∈ known T H t, h.Forgets target k value
  | .receiveLog packet _ => ∃ message f, packet.message = some message ∧
      logFields T message = some f ∧ ∃ h ∈ known T H t, h.Forgets f.info f.sampleNum f.val
  | _ => False

/-- From any moment of the run to any later one no sample is forgotten, and a check counts no
less than an earlier check for the same variable and log number. -/
structure NeverShrinks (s : Globals δ) (tr : List (KnowOp × (ZejfErr × Option UInt32))) : Prop where
  samples : ∀ pre mid post t u, tr = pre ++ mid ++ post → Trace (KnowOp.run T H) s pre t →
    Trace (KnowOp.run T H) t mid u → ∀ h ∈ known T H t, ∃ h' ∈ known T H u, h.Kept h'
  counts : ∀ pre mid post info logNum c r,
    tr = pre ++ (.check info logNum, (.ok, some c)) :: mid ++ (.check info logNum, r) :: post →
      ∃ c', r = (.ok, some c') ∧ c ≤ c'

/-- What `hour_load` loads for the hour, if it is accepted, is that hour. -/
def LoadsHour : Prop := ∀ p h, fetched T H true false p = some h → h.hourId = H

/-- The hour is cached at most once, all requests are for it, and a packet that is in hand is in
no queue. -/
structure OnlyHour (s : Globals δ) (rs : List Requested) (hand : Option ℕ) : Prop where
  cache : ∃ xs, s.CacheHolds T xs ∧ (xs.map (fun x => x.2.hourId)).count H ≤ 1
  network : ∃ tx rx es, NetworkHolds T s tx rx es ∧ ∀ b ∈ hand, s.Loose tx rx b
  requests : s.RequestsHold rs
  own : ∀ r ∈ rs, r.request.hourNumber = H

end Hour

section Steps

variable {T : Target δ} {H : UInt32} {s t u : Globals δ} {rs : List Requested} {h : DataHour}
  {xs zs pre post : List (ℕ × DataHour)} {a : ℕ} {o : Option ℕ} {q : LinkedList DataHour} {p : δ}
  {create : Bool} {hand : Option ℕ}

lemma known_congr (hq : t.dataQueue = s.dataQueue) (hp : t.platform = s.platform) :
    known T H t = known T H s := by
  unfold known Globals.cached
  rw [hq, hp]

lemma count_split (hid : h.hourId = H) :
    ((pre ++ (a, h) :: post).map (fun x => x.2.hourId)).count H ≤ 1 ↔
      ∀ y ∈ pre ++ post, y.2.hourId ≠ H := by
  have hmiddle : (pre ++ (a, h) :: post).Perm ((a, h) :: (pre ++ post)) := List.perm_middle
  have hperm := hmiddle.map (fun x => x.2.hourId)
  rw [hperm.count_eq, List.map_cons, hid, List.count_cons_self]
  constructor
  · intro hle y hy he
    have hmem : H ∈ (pre ++ post).map (fun x => x.2.hourId) := List.mem_map.mpr ⟨y, hy, he⟩
    have hpos := List.count_pos_iff.mpr hmem
    omega
  · intro hne
    have hzero : ((pre ++ post).map (fun x => x.2.hourId)).count H = 0 := by
      rw [List.count_eq_zero]
      intro hm
      obtain ⟨y, hy, he⟩ := List.mem_map.mp hm
      exact hne y hy he
    omega

lemma known_cached (hc : s.CacheHolds T (pre ++ (a, h) :: post)) (hid : h.hourId = H)
    (hne : ∀ y ∈ pre ++ post, y.2.hourId ≠ H) : known T H s = some h := by
  unfold known
  rw [hc.cached_eq]
  exact localHour_cached rfl hid (fun y hy => hne y (List.mem_append_right _ hy))

/-- A new hour is only created if there is none to load. -/
lemma fetched_create (hnew : fetched T H true false p = some h) (create : Bool) :
    fetched T H true create p = some h := by
  unfold fetched at hnew ⊢
  simp only [if_true] at hnew ⊢
  split at hnew
  · exact hnew
  · cases hnew
  · cases hnew

lemma loadsHour_fetched (hloads : LoadsHour T H) (hnew : fetched T H true create p = some h) :
    h.hourId = H := by
  cases hf : fetched T H true false p with
  | some g =>
    obtain rfl := Option.some.inj ((fetched_create hf create).symm.trans hnew)
    exact hloads p g hf
  | none =>
    unfold fetched at hf hnew
    simp only [if_true] at hf hnew
    split at hnew
    · rename_i hload
      rw [hload] at hf
      cases hf.symm.trans hnew
    · cases create with
      | false => cases hnew
      | true =>
        obtain rfl := Option.some.inj hnew
        rfl
    · cases hnew

/-- A lookup of the hour leaves it in the cache once, as it was known before, if it was. -/
lemma lookup_known (hloads : LoadsHour T H) (hc : s.CacheHolds T xs)
    (honce : (xs.map (fun x => x.2.hourId)).count H ≤ 1)
    (hget : (datahourGet T H true create).run s = .ok o { s with dataQueue := q, platform := p })
    (hc' : ({ s with dataQueue := q, platform := p } : Globals δ).CacheHolds T zs) :
    (zs.map (fun x => x.2.hourId)).count H ≤ 1 ∧ (o = none → known T H s = none) ∧
      ∀ a h, o = some a → (a, h) ∈ zs → h.hourId = H ∧ ∀ g ∈ known T H s, g = h := by
  have hknown : known T H s = localHour T xs s.platform H := by
    unfold known
    rw [hc.cached_eq]
  have hnode : ∀ x ∈ zs, ∀ h, (x.1, h) ∈ zs → h = x.2 := by
    intro x hx h hm
    exact (Prod.ext_iff.mp (List.inj_on_of_nodup_map hc'.queue.ring.nodup hm hx rfl)).2
  have hleft : LookupLeft T s xs H true create o p zs := datahourGet_left hc hget hc'
  cases hleft with
  | hit pre x post split id newest perm =>
    refine ⟨(perm.map _).count_eq H ▸ honce, (fun hnone => by cases hnone), ?_⟩
    intro a h ha hm
    obtain rfl := Option.some.inj ha
    obtain rfl := hnode x List.mem_cons_self h hm
    refine ⟨id, ?_⟩
    intro g hg
    rw [hknown, localHour_cached split id newest] at hg
    exact (Option.some.inj hg).symm
  | absent miss nothing =>
    refine ⟨honce, fun _ => ?_, fun a h ha => by cases ha⟩
    rw [hknown, localHour_missed miss, Option.eq_none_iff_forall_ne_some]
    intro g hg
    rw [fetched_create hg create] at nothing
    cases nothing
  | added miss hour node p ys fresh new sub room =>
    have hid := loadsHour_fetched hloads new
    refine ⟨(count_split hid).mpr ?_, (fun hnone => by cases hnone), ?_⟩
    · rw [List.append_nil]
      exact fun y hy => miss y (sub.subset hy)
    · intro a h ha hm
      obtain rfl := Option.some.inj ha
      obtain rfl := hnode (node, hour) (by simp) h hm
      refine ⟨hid, ?_⟩
      intro g hg
      rw [hknown, localHour_missed miss] at hg
      exact Option.some.inj ((fetched_create hg create).symm.trans new)

/-- Changing the hour in the cache changes what is known of it. -/
lemma known_changed {h' : DataHour} {v : Globals δ} (hid : h.hourId = H) (hid' : h'.hourId = H)
    (honce : ((pre ++ (a, h) :: post).map (fun x => x.2.hourId)).count H ≤ 1)
    (hc : v.CacheHolds T (pre ++ (a, h') :: post)) :
    (((pre ++ (a, h') :: post).map (fun x => x.2.hourId)).count H ≤ 1) ∧ known T H v = some h' := by
  have hne := (count_split (a := a) hid).mp honce
  exact ⟨(count_split hid').mpr hne, known_cached hc hid' hne⟩

/-- A log changes the hour as it is known, if it is. -/
lemma dataLog_known (hloads : LoadsHour T H) (hs : OnlyHour T H s rs hand) {target : VariableInfo}
    {k : UInt32} {value : Sample} {time : UInt32} {announce : Bool} {rv : ZejfErr}
    (hrun : (dataLog T target H k value time announce).run s = .ok rv u) :
    OnlyHour T H u rs hand ∧ (known T H s = none ∨ ∃ h, h.WellFormed T.toSettings ∧
      (∀ g ∈ known T H s, g = h) ∧ known T H u = some (h.log T.toSettings target k value).2) := by
  obtain ⟨xs, hc, honce⟩ := hs.cache
  obtain ⟨tx, rx, es, hn, hloose⟩ := hs.network
  rcases dataLog_hour hc hn target H k value time announce with
    ⟨q, p, ys, hget, hc', hlog⟩ | ⟨a, pre, h, post, q, p, v, sent, hget, hc', hlog, hlogged⟩
  · obtain ⟨-, rfl⟩ := EStateM.Result.ok.inj (hrun.symm.trans hlog)
    obtain ⟨honce', hnone, -⟩ := lookup_known hloads hc honce hget hc'
    exact ⟨⟨⟨ys, hc', honce'⟩, ⟨tx, rx, es, hn.data q p, hloose⟩,
      ⟨hs.requests.holds, hs.requests.live, hs.requests.distinct⟩, hs.own⟩, Or.inl (hnone rfl)⟩
  · obtain ⟨-, rfl⟩ := EStateM.Result.ok.inj (hrun.symm.trans hlog)
    obtain ⟨honce', -, hanswer⟩ := lookup_known hloads hc honce hget hc'
    obtain ⟨hid, hknown⟩ := hanswer a h rfl (by simp)
    obtain ⟨honce'', hknown'⟩ :=
      known_changed hid (hlogged.hourId.trans hid) honce' hlogged.cache
    obtain ⟨q', tq, ps, -, hframe⟩ := hlogged.frame
    refine ⟨⟨⟨_, hlogged.cache, honce''⟩, ⟨_, rx, es, hlogged.network, ?_⟩, ?_, hs.own⟩,
      Or.inr ⟨h, hc'.wellFormed (a, h) (by simp), hknown, hknown'⟩⟩
    · exact fun b hb => (hlogged.loose b).mpr (hloose b hb)
    · rw [hframe]
      exact ⟨hs.requests.holds, hs.requests.live, hs.requests.distinct⟩

/-- A check changes the hour as it is known, if it is, and counts it. -/
lemma calculateDataCheck_known (hloads : LoadsHour T H) (hs : OnlyHour T H s rs hand)
    {info : VariableInfo} {logNum : UInt32} {r : ZejfErr × Option UInt32}
    (hrun : (calculateDataCheck T info H logNum).run s = .ok r u) :
    OnlyHour T H u rs hand ∧ ((known T H s = none ∧ r = (.null, none)) ∨ ∃ h,
      (∀ g ∈ known T H s, g = h) ∧ r = (h.check (isProvided T info) info logNum).1 ∧
        known T H u = some (h.check (isProvided T info) info logNum).2) := by
  obtain ⟨xs, hc, honce⟩ := hs.cache
  obtain ⟨tx, rx, es, hn, hloose⟩ := hs.network
  rcases calculateDataCheck_hour hc info H logNum with
    ⟨q, p, ys, hget, hc', hcheck⟩ | ⟨a, pre, h, post, q, p, q', hget, hc', hcheck, hc''⟩
  · obtain ⟨rfl, rfl⟩ := EStateM.Result.ok.inj (hrun.symm.trans hcheck)
    obtain ⟨honce', hnone, -⟩ := lookup_known hloads hc honce hget hc'
    exact ⟨⟨⟨ys, hc', honce'⟩, ⟨tx, rx, es, hn.data q p, hloose⟩,
      ⟨hs.requests.holds, hs.requests.live, hs.requests.distinct⟩, hs.own⟩,
      Or.inl ⟨hnone rfl, rfl⟩⟩
  · obtain ⟨rfl, rfl⟩ := EStateM.Result.ok.inj (hrun.symm.trans hcheck)
    obtain ⟨honce', -, hanswer⟩ := lookup_known hloads hc honce hget hc'
    obtain ⟨hid, hknown⟩ := hanswer a h rfl (by simp)
    obtain ⟨honce'', hknown'⟩ := known_changed hid
      ((check_kept h (isProvided T info) info logNum).1.trans hid) honce' hc''
    exact ⟨⟨⟨_, hc'', honce''⟩, ⟨tx, rx, es, hn.data q' p, hloose⟩,
      ⟨hs.requests.holds, hs.requests.live, hs.requests.distinct⟩, hs.own⟩,
      Or.inr ⟨h, hknown, rfl, hknown'⟩⟩

/-- Everything that is known of the hour is still known. -/
def Grows (T : Target δ) (H : UInt32) (s u : Globals δ) : Prop :=
  ∀ h ∈ known T H s, ∃ h' ∈ known T H u, h.Grown h'

lemma Grows.refl (s : Globals δ) : Grows T H s s := fun h hh => ⟨h, hh, DataHour.Grown.refl h⟩

lemma Grows.trans (hst : Grows T H s t) (htu : Grows T H t u) : Grows T H s u := by
  intro h hh
  obtain ⟨h', hh', hgrown⟩ := hst h hh
  obtain ⟨h'', hh'', hgrown'⟩ := htu h' hh'
  exact ⟨h'', hh'', hgrown.trans hgrown'⟩

lemma Grows.of_eq (h : known T H u = known T H s) : Grows T H s u := by
  unfold Grows
  rw [h]
  exact Grows.refl s

lemma Grows.of_changed {h' : DataHour} (hknown : ∀ g ∈ known T H s, g = h)
    (hu : known T H u = some h') (hgrown : h.Grown h') : Grows T H s u := by
  intro g hg
  rw [hknown g hg]
  exact ⟨h', hu, hgrown⟩

lemma dataLog_grows (hloads : LoadsHour T H) (hs : OnlyHour T H s rs hand) {target : VariableInfo}
    {k : UInt32} {value : Sample} {time : UInt32} {announce : Bool} {rv : ZejfErr}
    (hrun : (dataLog T target H k value time announce).run s = .ok rv u) :
    OnlyHour T H u rs hand ∧
      ((∀ h ∈ known T H s, ¬h.Forgets target k value) → Grows T H s u) ∧
      ((∃ h ∈ known T H s, h.Forgets target k value) →
        ¬∀ h ∈ known T H s, ∃ h' ∈ known T H u, h.Kept h') := by
  obtain ⟨hu, hcase⟩ := dataLog_known hloads hs hrun
  refine ⟨hu, ?_, ?_⟩
  · intro hno
    rcases hcase with hnone | ⟨h, hwf, hsame, hknown⟩
    · intro g hg
      rw [hnone] at hg
      cases hg
    · intro g hg
      obtain rfl := hsame g hg
      exact ⟨_, hknown, log_grown hwf (hno g hg)⟩
  · rintro ⟨g, hg, hforgets⟩ hkept
    rcases hcase with hnone | ⟨h, hwf, hsame, hknown⟩
    · rw [hnone] at hg
      cases hg
    · obtain rfl := hsame g hg
      obtain ⟨h', hh', hkept'⟩ := hkept g hg
      obtain rfl := Option.some.inj (hknown.symm.trans hh')
      exact log_not_kept hforgets hkept'

lemma calculateDataCheck_grows (hloads : LoadsHour T H) (hs : OnlyHour T H s rs hand)
    {info : VariableInfo} {logNum : UInt32} {r : ZejfErr × Option UInt32}
    (hrun : (calculateDataCheck T info H logNum).run s = .ok r u) :
    OnlyHour T H u rs hand ∧ Grows T H s u := by
  obtain ⟨hu, hcase⟩ := calculateDataCheck_known hloads hs hrun
  refine ⟨hu, ?_⟩
  rcases hcase with ⟨hnone, -⟩ | ⟨h, hsame, -, hknown⟩
  · intro g hg
    rw [hnone] at hg
    cases hg
  · exact Grows.of_changed hsame hknown (check_grown h _ info logNum)

/-! ### Received packets -/

lemma OnlyHour.push (hs : OnlyHour T H s rs none) (packet : Packet) :
    OnlyHour T H { s with packets := s.packets.push packet } rs (some s.packets.next) where
  cache := by
    obtain ⟨xs, hc, honce⟩ := hs.cache
    exact ⟨xs, hc.congr rfl, honce⟩
  network := by
    obtain ⟨tx, rx, es, hn, -⟩ := hs.network
    obtain ⟨hn', hloose⟩ := hn.push packet
    refine ⟨tx, rx, es, hn', ?_⟩
    intro b hb
    obtain rfl := Option.some.inj hb
    exact hloose
  requests := ⟨hs.requests.holds, hs.requests.live, hs.requests.distinct⟩
  own := hs.own

lemma OnlyHour.erase (hs : OnlyHour T H s rs (some a)) :
    OnlyHour T H { s with packets := s.packets.erase a } rs none where
  cache := by
    obtain ⟨xs, hc, honce⟩ := hs.cache
    exact ⟨xs, hc.congr rfl, honce⟩
  network := by
    obtain ⟨tx, rx, es, hn, hloose⟩ := hs.network
    exact ⟨tx, rx, es, hn.erase (hloose a rfl), fun b hb => by cases hb⟩
  requests := ⟨hs.requests.holds, hs.requests.live, hs.requests.distinct⟩
  own := hs.own

lemma OnlyHour.setRequests (hs : OnlyHour T H s rs hand) {rq : LinkedList ℕ}
    {rhs : Heap DataRequest} {qs : List Requested}
    (hr : ({ s with dataRequestsQueue := rq, requests := rhs } : Globals δ).RequestsHold qs)
    (hown : ∀ r ∈ qs, r.request.hourNumber = H) :
    OnlyHour T H { s with dataRequestsQueue := rq, requests := rhs } qs hand where
  cache := by
    obtain ⟨xs, hc, honce⟩ := hs.cache
    exact ⟨xs, hc.congr rfl, honce⟩
  network := by
    obtain ⟨tx, rx, es, hn, hloose⟩ := hs.network
    exact ⟨tx, rx, es, hn.setRequests rq rhs, hloose⟩
  requests := hr
  own := hown

lemma dataRequestAdd_grows (hs : OnlyHour T H s rs hand) {toId : UInt16} {info : VariableInfo}
    {startLog endLog : UInt32} {rv : ZejfErr}
    (hrun : (dataRequestAdd toId info H startLog endLog).run s = .ok rv u) :
    (∃ rs', OnlyHour T H u rs' hand) ∧ Grows T H s u := by
  obtain ⟨rv', rq, rhs, qs, hadd, hqs, -, -, hcase⟩ :=
    dataRequestAdd_run hs.requests toId info H startLog endLog
  obtain ⟨-, rfl⟩ := EStateM.Result.ok.inj (hrun.symm.trans hadd)
  refine ⟨⟨qs, hs.setRequests hqs ?_⟩, Grows.of_eq (known_congr rfl rfl)⟩
  split at hcase
  · rw [hcase.2]
    exact hs.own
  · obtain ⟨-, -, node, rfl⟩ := hcase
    intro r hr
    rcases List.mem_append.mp hr with hr | hr
    · exact hs.own r hr
    · rw [List.mem_singleton.mp hr]
      rfl

/-- While a packet is in hand, the hour is known as it was. -/
lemma inHand_known (hs : OnlyHour T H s rs none) {packet : Packet}
    {handle : ℕ → Run (Globals δ) ZejfErr} {rv : ZejfErr}
    (hrun : (inHand packet handle).run s = .ok rv u) : ∃ a v t, OnlyHour T H v rs (some a) ∧
      v.packets.cells a = some packet ∧ known T H v = known T H s ∧
      (handle a).run v = .ok rv t ∧ known T H u = known T H t ∧
      ∀ rs', OnlyHour T H t rs' (some a) → OnlyHour T H u rs' none := by
  obtain ⟨t, hhandle, rfl⟩ := inHand_cases hrun
  exact ⟨_, _, t, hs.push packet, (Heap.push_cells _ _ _).trans (if_pos rfl), known_congr rfl rfl,
    hhandle, known_congr rfl rfl, fun _ ht => ht.erase⟩

/-! ### Answers to requests -/

lemma datahourGet_grows (hloads : LoadsHour T H) (hs : OnlyHour T H s rs hand)
    (hrun : (datahourGet T H true create).run s = .ok o u) :
    OnlyHour T H u rs hand ∧ Grows T H s u := by
  obtain ⟨xs, hc, honce⟩ := hs.cache
  obtain ⟨tx, rx, es, hn, hloose⟩ := hs.network
  obtain ⟨o', q, p, zs, hget, hc', hsome⟩ := datahourGet_cached hc H true create
  obtain ⟨rfl, rfl⟩ := EStateM.Result.ok.inj (hrun.symm.trans hget)
  obtain ⟨honce', hnone, hanswer⟩ := lookup_known hloads hc honce hget hc'
  refine ⟨⟨⟨zs, hc', honce'⟩, ⟨tx, rx, es, hn.data q p, hloose⟩,
    ⟨hs.requests.holds, hs.requests.live, hs.requests.distinct⟩, hs.own⟩, ?_⟩
  cases o with
  | none =>
    intro g hg
    rw [hnone rfl] at hg
    cases hg
  | some a =>
    obtain ⟨pre, h, post, rfl⟩ := hsome a rfl
    obtain ⟨hid, hknown⟩ := hanswer a h rfl (by simp)
    have hu := known_cached hc' hid ((count_split hid).mp honce')
    exact Grows.of_changed hknown hu (DataHour.Grown.refl h)

lemma dataGetVal_grows (hloads : LoadsHour T H) (hs : OnlyHour T H s rs hand)
    {info : VariableInfo} {k : UInt32} {r : ZejfErr × Option Sample}
    (hrun : (dataGetVal T info H k true false).run s = .ok r u) :
    OnlyHour T H u rs hand ∧ Grows T H s u := by
  obtain ⟨xs, hc, -⟩ := hs.cache
  obtain ⟨o, q, p, zs, r', hget, -, hval⟩ := dataGetVal_cached hc info H k true false
  obtain ⟨-, rfl⟩ := EStateM.Result.ok.inj (hrun.symm.trans hval)
  exact datahourGet_grows hloads hs hget

/-- Answering requests for the hour only looks it up. -/
lemma dataRequestsLoop_grows (hloads : LoadsHour T H) (time : UInt32) (n requestCount : ℕ) :
    Triple (fun _ => False) (fun t => OnlyHour T H t rs none ∧ Grows T H s t)
      (dataRequestsLoop T time n requestCount)
      (fun _ t => ∃ rs', OnlyHour T H t rs' none ∧ Grows T H s t) := by
  refine dataRequestsLoop_triple (I := fun rs t => OnlyHour T H t rs none ∧ Grows T H s t)
    (fun _ _ h => h.1.requests) ?_ ?_ ?_ ?_ n requestCount
  · rintro r rs t q hs' ⟨ht, hgrows⟩ hr - -
    exact ⟨ht.setRequests hr (fun x hx => ht.own x (List.mem_cons_of_mem _ hx)),
      hgrows.trans (Grows.of_eq (known_congr rfl rfl))⟩
  · rintro r rs t hs' c n ⟨ht, hgrows⟩ hr -
    refine ⟨ht.setRequests hr ?_, hgrows.trans (Grows.of_eq (known_congr rfl rfl))⟩
    intro x hx
    rcases List.mem_cons.mp hx with rfl | hx
    · exact ht.own r List.mem_cons_self
    · exact ht.own x (List.mem_cons_of_mem _ hx)
  · intro r rs
    apply Triple.of_run
    rintro t ⟨ht, hgrows⟩
    obtain ⟨xs, hc, -⟩ := ht.cache
    obtain ⟨o, q, p, zs, v, -, -, hval⟩ := dataGetVal_cached hc r.request.info
      r.request.hourNumber r.request.currentLog true false
    have hval' := hval
    rw [ht.own r List.mem_cons_self] at hval'
    obtain ⟨ht', hgrows'⟩ := dataGetVal_grows hloads ht hval'
    exact ⟨v, _, hval, ht', hgrows.trans hgrows'⟩
  · intro r rs val
    apply Triple.of_run
    rintro t ⟨ht, hgrows⟩
    obtain ⟨tx, rx, es, hn, -⟩ := ht.network
    obtain ⟨tq, ps, hsend, -, hq, -⟩ := dataSendLog_run (T := T) hn.queues hn.table
      r.request.targetDevice r.request.info r.request.hourNumber r.request.currentLog val time
    obtain ⟨xs, hc, honce⟩ := ht.cache
    refine ⟨_, _, hsend, ⟨⟨xs, hc.congr rfl, honce⟩, ⟨_, rx, es, ⟨hq, hn.table.congr rfl rfl⟩,
      fun b hb => by cases hb⟩, ht.requests.congr rfl rfl, ht.own⟩, hgrows.trans (Grows.of_eq (known_congr rfl rfl))⟩

lemma dataRequestsProcess_grows (hloads : LoadsHour T H) (hs : OnlyHour T H s rs none)
    {time : UInt32} {r : Unit} (hrun : (dataRequestsProcess T time).run s = .ok r u) :
    (∃ rs', OnlyHour T H u rs' none) ∧ Grows T H s u := by
  rw [dataRequestsProcess, allocatePacketQueue, bind_assoc, run_bind_ok (EStateM.run_get s),
    pure_bind] at hrun
  rcases dataRequestsLoop_grows hloads time _ 1 s ⟨hs, Grows.refl s⟩ with
    ⟨r', t, hrun', rs', ht, hgrows⟩ | ⟨e, t, -, hfalse⟩
  · obtain ⟨-, rfl⟩ := EStateM.Result.ok.inj (hrun.symm.trans hrun')
    exact ⟨⟨rs', ht⟩, hgrows⟩
  · exact hfalse.elim

/-! ### Steps and runs -/

lemma receiveLog_grows (hloads : LoadsHour T H) (hs : OnlyHour T H s rs none) {packet : Packet}
    {time : UInt32} (habout : (KnowOp.receiveLog packet time).IsAbout T H) {rv : ZejfErr}
    (hrun : (inHand packet (fun a => processDataLog T a time)).run s = .ok rv u) :
    (∃ rs', OnlyHour T H u rs' none) ∧
      (¬Forgets T H s (.receiveLog packet time) → Grows T H s u) ∧
      (Forgets T H s (.receiveLog packet time) →
        ¬∀ h ∈ known T H s, ∃ h' ∈ known T H u, h.Kept h') := by
  obtain ⟨a, v, t, hv, hcell, hvs, hhandle, hut, herase⟩ := inHand_known hs hrun
  have hstay : t = v → ¬Forgets T H s (.receiveLog packet time) →
      (∃ rs', OnlyHour T H u rs' none) ∧
        (¬Forgets T H s (.receiveLog packet time) → Grows T H s u) ∧
        (Forgets T H s (.receiveLog packet time) →
          ¬∀ h ∈ known T H s, ∃ h' ∈ known T H u, h.Kept h') := by
    rintro rfl hno
    exact ⟨⟨rs, herase rs hv⟩, fun _ => Grows.of_eq (hut.trans hvs),
      fun hforgets => absurd hforgets hno⟩
  cases hm : packet.message with
  | none =>
    rw [processDataLog, run_bind_ok (readPacket_run hcell)] at hhandle
    simp only [hm] at hhandle
    refine hstay (EStateM.Result.ok.inj hhandle).2.symm ?_
    rintro ⟨message, f, hmessage, -⟩
    rw [hm] at hmessage
    cases hmessage
  | some message =>
    rw [processDataLog_eq hcell hm] at hhandle
    cases hf : logFields T message with
    | none =>
      rw [hf] at hhandle
      refine hstay (EStateM.Result.ok.inj hhandle).2.symm ?_
      rintro ⟨message', f, hmessage, hfields, -⟩
      obtain rfl := Option.some.inj (hm.symm.trans hmessage)
      rw [hf] at hfields
      cases hfields
    | some f =>
      rw [hf] at hhandle
      simp only [habout message f hm hf] at hhandle
      obtain ⟨ht, hgrows, hnot⟩ := dataLog_grows hloads hv hhandle
      rw [hvs, ← hut] at hnot
      refine ⟨⟨rs, herase rs ht⟩, ?_, ?_⟩
      · intro hno
        have hno' : ∀ h ∈ known T H v, ¬h.Forgets f.info f.sampleNum f.val := by
          rw [hvs]
          exact fun h hh hforgets => hno ⟨message, f, hm, hf, h, hh, hforgets⟩
        exact (Grows.of_eq hvs).trans ((hgrows hno').trans (Grows.of_eq hut))
      · rintro ⟨message', f', hmessage, hfields, hforgets⟩
        obtain rfl := Option.some.inj (hm.symm.trans hmessage)
        obtain rfl := Option.some.inj (hf.symm.trans hfields)
        exact hnot hforgets

lemma receiveCheck_grows (hloads : LoadsHour T H) (hs : OnlyHour T H s rs none) {packet : Packet}
    (habout : (KnowOp.receiveCheck packet).IsAbout T H) {rv : ZejfErr}
    (hrun : (inHand packet (dataCheckReceive T)).run s = .ok rv u) :
    (∃ rs', OnlyHour T H u rs' none) ∧ Grows T H s u := by
  obtain ⟨a, v, t, hv, hcell, hvs, hhandle, hut, herase⟩ := inHand_known hs hrun
  obtain ⟨message, hm, ⟨-, rfl⟩ | ⟨f, r, t', hf, hcheck, hadd⟩⟩ :=
    dataCheckReceive_cases hcell hhandle
  · exact ⟨⟨rs, herase rs hv⟩, Grows.of_eq (hut.trans hvs)⟩
  · rw [habout message f hm hf] at hcheck hadd
    obtain ⟨ht', hgrows⟩ := calculateDataCheck_grows hloads hv hcheck
    have hgrows' := (Grows.of_eq hvs).trans hgrows
    rcases hadd with rfl | ⟨-, -, hadd⟩
    · exact ⟨⟨rs, herase rs ht'⟩, hgrows'.trans (Grows.of_eq hut)⟩
    · obtain ⟨⟨rs', ht⟩, hgrows''⟩ := dataRequestAdd_grows ht' hadd
      exact ⟨⟨rs', herase rs' ht⟩, hgrows'.trans (hgrows''.trans (Grows.of_eq hut))⟩

lemma receiveRequest_grows (hs : OnlyHour T H s rs none) {packet : Packet}
    (habout : (KnowOp.receiveRequest packet).IsAbout T H) {rv : ZejfErr}
    (hrun : (inHand packet dataRequestReceive).run s = .ok rv u) :
    (∃ rs', OnlyHour T H u rs' none) ∧ Grows T H s u := by
  obtain ⟨a, v, t, hv, hcell, hvs, hhandle, hut, herase⟩ := inHand_known hs hrun
  obtain ⟨message, hm, ⟨-, rfl⟩ | ⟨f, hf, hadd⟩⟩ := dataRequestReceive_cases hcell hhandle
  · exact ⟨⟨rs, herase rs hv⟩, Grows.of_eq (hut.trans hvs)⟩
  · rw [habout message f hm hf] at hadd
    obtain ⟨⟨rs', ht⟩, hgrows⟩ := dataRequestAdd_grows hv hadd
    exact ⟨⟨rs', herase rs' ht⟩, (Grows.of_eq hvs).trans (hgrows.trans (Grows.of_eq hut))⟩

/-- What one operation does to what is known of the hour. -/
lemma KnowOp.run_grows (hloads : LoadsHour T H) (hs : OnlyHour T H s rs none) {op : KnowOp}
    (habout : op.IsAbout T H) {r : ZejfErr × Option UInt32}
    (hrun : (op.run T H).run s = .ok r u) :
    (∃ rs', OnlyHour T H u rs' none) ∧ (¬Forgets T H s op → Grows T H s u) ∧
      (Forgets T H s op → ¬∀ h ∈ known T H s, ∃ h' ∈ known T H u, h.Kept h') := by
  have hkeeps : ∀ {v}, (∃ rs', OnlyHour T H v rs' none) ∧ Grows T H s v → ¬Forgets T H s op →
      (∃ rs', OnlyHour T H v rs' none) ∧ (¬Forgets T H s op → Grows T H s v) ∧
        (Forgets T H s op → ¬∀ h ∈ known T H s, ∃ h' ∈ known T H v, h.Kept h') :=
    fun h hno => ⟨h.1, fun _ => h.2, fun hforgets => absurd hforgets hno⟩
  cases op with
  | log target k value time announce =>
    obtain ⟨rv, v, hlog, hreturn⟩ := run_bind_inv hrun
    obtain ⟨-, rfl⟩ := EStateM.Result.ok.inj hreturn
    obtain ⟨hu, hgrows, hnot⟩ := dataLog_grows hloads hs hlog
    refine ⟨⟨rs, hu⟩, fun hno => hgrows ?_, hnot⟩
    exact fun h hh hforgets => hno ⟨h, hh, hforgets⟩
  | check info logNum =>
    obtain ⟨hu, hgrows⟩ := calculateDataCheck_grows hloads hs hrun
    exact hkeeps ⟨⟨rs, hu⟩, hgrows⟩ id
  | process time =>
    obtain ⟨_, v, hprocess, hreturn⟩ := run_bind_inv hrun
    obtain ⟨-, rfl⟩ := EStateM.Result.ok.inj hreturn
    exact hkeeps (dataRequestsProcess_grows hloads hs hprocess) id
  | receiveLog packet time =>
    obtain ⟨rv, v, hreceive, hreturn⟩ := run_bind_inv hrun
    obtain ⟨-, rfl⟩ := EStateM.Result.ok.inj hreturn
    exact receiveLog_grows hloads hs habout hreceive
  | receiveCheck packet =>
    obtain ⟨rv, v, hreceive, hreturn⟩ := run_bind_inv hrun
    obtain ⟨-, rfl⟩ := EStateM.Result.ok.inj hreturn
    exact hkeeps (receiveCheck_grows hloads hs habout hreceive) id
  | receiveRequest packet =>
    obtain ⟨rv, v, hreceive, hreturn⟩ := run_bind_inv hrun
    obtain ⟨-, rfl⟩ := EStateM.Result.ok.inj hreturn
    exact hkeeps (receiveRequest_grows hs habout hreceive) id

/-- What a run without forgetting does to what is known of the hour. -/
lemma grows_of_trace {tr : List (KnowOp × (ZejfErr × Option UInt32))} (hloads : LoadsHour T H)
    (hs : ∃ rs, OnlyHour T H s rs none) (htrace : Trace (KnowOp.run T H) s tr t)
    (habout : ∀ x ∈ tr, x.1.IsAbout T H)
    (hno : Throughout (KnowOp.run T H) s (fun _ t op _ => ¬Forgets T H t op) tr) :
    (∃ rs, OnlyHour T H t rs none) ∧ Grows T H s t := by
  induction htrace with
  | nil => exact ⟨hs, Grows.refl s⟩
  | snoc htrace hrun ih =>
    obtain ⟨hno', hlast⟩ := (Throughout.snoc_iff htrace _ _).mp hno
    obtain ⟨⟨rs, ht⟩, hgrows⟩ := ih (fun x hx => habout x (List.mem_append_left _ hx)) hno'
    obtain ⟨hu, hgrows', -⟩ := KnowOp.run_grows hloads ht (habout _ List.mem_concat_self) hrun
    exact ⟨hu, hgrows.trans (hgrows' hlast)⟩

/-- Whatever is forgotten, the node stays in order. -/
lemma onlyHour_of_trace {tr : List (KnowOp × (ZejfErr × Option UInt32))} (hloads : LoadsHour T H)
    (hs : ∃ rs, OnlyHour T H s rs none) (htrace : Trace (KnowOp.run T H) s tr t)
    (habout : ∀ x ∈ tr, x.1.IsAbout T H) : ∃ rs, OnlyHour T H t rs none :=
  htrace.invariant (I := fun _ t => ∃ rs, OnlyHour T H t rs none) (A := KnowOp.IsAbout T H) habout hs
    (fun _ _ _ _ _ habout' ht hrun => (KnowOp.run_grows hloads ht.choose_spec habout' hrun).1)

variable {tr : List (KnowOp × (ZejfErr × Option UInt32))} {tx rx : List Queued}
  {es : List RoutingEntry}

/-- In a run about one hour nothing that is known is forgotten and no count goes down exactly if
no log empties a sample that is marked as not measured. -/
theorem neverShrinks_iff_not_forgets (hloads : LoadsHour T H) (hcache : s.CacheHolds T xs)
    (honce : (xs.map (fun x => x.2.hourId)).count H ≤ 1) (hnetwork : NetworkHolds T s tx rx es)
    (hrequests : s.RequestsHold rs) (hown : ∀ r ∈ rs, r.request.hourNumber = H)
    (htrace : Trace (KnowOp.run T H) s tr t) (habout : ∀ x ∈ tr, x.1.IsAbout T H) :
    NeverShrinks T H s tr ↔
      Throughout (KnowOp.run T H) s (fun _ t op _ => ¬Forgets T H t op) tr := by
  have hs : ∃ rs, OnlyHour T H s rs none :=
    ⟨rs, ⟨xs, hcache, honce⟩, ⟨tx, rx, es, hnetwork, fun b hb => by cases hb⟩, hrequests, hown⟩
  constructor
  · intro hnever pre op r post v he hpre hforgets
    have habout' : ∀ x ∈ pre, x.1.IsAbout T H := by
      intro x hx
      exact habout x (by simp [he, hx])
    obtain ⟨rs', hv⟩ := onlyHour_of_trace hloads hs hpre habout'
    obtain ⟨w, hrun⟩ := (he ▸ htrace).served hpre
    obtain ⟨-, -, hnot⟩ := KnowOp.run_grows hloads hv (habout (op, r) (by simp [he])) hrun
    refine hnot hforgets (hnever.samples pre [(op, r)] post v w ?_ hpre (Trace.nil.snoc hrun))
    rw [he, List.append_assoc, List.singleton_append]
  · intro hno
    refine ⟨?_, ?_⟩
    · intro pre mid post v w he hpre hmid g hg
      obtain ⟨rs', hv⟩ := onlyHour_of_trace hloads hs hpre
        (fun x hx => habout x (by simp [he, hx]))
      obtain ⟨-, hgrows⟩ := grows_of_trace hloads ⟨rs', hv⟩ hmid
        (fun x hx => habout x (by simp [he, hx])) ((he ▸ hno).middle hpre)
      obtain ⟨h', hh', hgrown⟩ := hgrows g hg
      exact ⟨h', hh', hgrown.to_kept⟩
    · intro pre mid post info logNum c r he
      obtain ⟨w, hw, -⟩ := (he ▸ htrace).split
      obtain ⟨w', hrun'⟩ := (he ▸ htrace).served hw
      rw [List.append_cons] at hw
      obtain ⟨v', hv', hmid⟩ := hw.split
      obtain ⟨v, hpre, hrun⟩ := hv'.snoc_inv
      obtain ⟨rs', hv⟩ := onlyHour_of_trace hloads hs hpre
        (fun x hx => habout x (by simp [he, hx]))
      obtain ⟨hv'', hcase⟩ := calculateDataCheck_known hloads hv hrun
      have hbetween : Throughout (KnowOp.run T H) s (fun _ t op _ => ¬Forgets T H t op)
          (pre ++ [(.check info logNum, (.ok, some c))] ++ mid ++
            (.check info logNum, r) :: post) := by
        simpa [he] using hno
      obtain ⟨⟨rs'', hw''⟩, hgrows⟩ := grows_of_trace hloads ⟨rs', hv''⟩ hmid
        (fun x hx => habout x (by simp [he, hx])) (hbetween.middle hv')
      obtain ⟨-, hcase'⟩ := calculateDataCheck_known hloads hw'' hrun'
      rcases hcase with ⟨-, hnull⟩ | ⟨h, -, hcheck, hknown⟩
      · cases hnull
      -- What the first check has counted is known when the second one counts.
      obtain ⟨h', hh', hgrown⟩ := hgrows _ hknown
      rcases hcase' with ⟨hnone, -⟩ | ⟨g, hsame, hcheck', -⟩
      · rw [hnone] at hh'
        cases hh'
      · obtain rfl := hsame h' hh'
        rw [hcheck']
        exact check_le_of_grown hcheck.symm hgrown

end Steps

/-- A sample is logged, and the hour is checked. -/
def loggedOnce : List KnowOp := [.log ⟨4, 7⟩ 0 5 0 false, .check ⟨4, 7⟩ 3]

theorem loggedOnce_neverShrinks_iff : ∃ tr, tr.map Prod.fst = loggedOnce ∧
    (NeverShrinks (Target.bare Settings.zejfMeteo) 1 (zejfInit (Target.bare Settings.zejfMeteo) ())
        tr ↔
      Throughout (KnowOp.run (Target.bare Settings.zejfMeteo) 1)
        (zejfInit (Target.bare Settings.zejfMeteo) ())
        (fun _ t op _ => ¬Forgets (Target.bare Settings.zejfMeteo) 1 t op) tr) := by
  have hserved : outcome ((serve (KnowOp.run (Target.bare Settings.zejfMeteo) 1) loggedOnce).run
      (zejfInit (Target.bare Settings.zejfMeteo) ())) = some [(.ok, none), (.ok, some 1)] := by
    decide +kernel
  obtain ⟨htr, hops⟩ := Trace.of_serve (run_eq_of_outcome hserved)
  refine ⟨_, hops, neverShrinks_iff_not_forgets (T := Target.bare Settings.zejfMeteo) ?_
    (.empty rfl) (Nat.zero_le 1) (NetworkHolds.initial _ _) (zejfInit_requestsHold _ _) (by simp)
    htr ?_⟩
  · intro p h hfetched
    cases hfetched
  · intro x hx
    have hop : x.1 ∈ loggedOnce := hops ▸ List.mem_map_of_mem hx
    simp only [loggedOnce, List.mem_cons, List.not_mem_nil, or_false] at hop
    rcases hop with hop | hop
    · rw [hop]
      trivial
    · rw [hop]
      trivial

/-- A sample is logged as not measured, and then as empty. -/
def emptied : List KnowOp := [.log ⟨4, 7⟩ 0 valueNotMeasured 0 false, .check ⟨4, 7⟩ 3,
  .log ⟨4, 7⟩ 0 valueEmpty 0 false, .check ⟨4, 7⟩ 3]

/-- The count goes down from one to none. -/
theorem emptied_shrinks : ¬∀ tr t, Trace (KnowOp.run (Target.bare Settings.zejfMeteo) 1)
    (zejfInit (Target.bare Settings.zejfMeteo) ()) tr t →
      NeverShrinks (Target.bare Settings.zejfMeteo) 1 (zejfInit (Target.bare Settings.zejfMeteo) ())
        tr := by
  intro hall
  have hserved : outcome ((serve (KnowOp.run (Target.bare Settings.zejfMeteo) 1) emptied).run
      (zejfInit (Target.bare Settings.zejfMeteo) ())) =
        some [(.ok, none), (.ok, some 1), (.ok, none), (.ok, some 0)] := by decide +kernel
  obtain ⟨htr, -⟩ := Trace.of_serve (run_eq_of_outcome hserved)
  obtain ⟨c, hc, hle⟩ := (hall _ _ htr).counts [(.log ⟨4, 7⟩ 0 valueNotMeasured 0 false, (.ok, none))]
    [(.log ⟨4, 7⟩ 0 valueEmpty 0 false, (.ok, none))] [] ⟨4, 7⟩ 3 1 (.ok, some 0) rfl
  obtain rfl := Option.some.inj (Prod.mk.inj hc).2
  exact absurd hle (by decide)

end ZejfMeteo
