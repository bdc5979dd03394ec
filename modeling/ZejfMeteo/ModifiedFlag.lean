import ZejfMeteo.Messages
import ZejfMeteo.Storage
import ZejfMeteo.Lib.Trace

/-!
# The flag of a modified hour

A cached hour whose flag is clear is not saved again, so it should be as its file is. Runs of
the operations that change hours are followed, over storage where any save may fail.
-/

namespace ZejfMeteo
open Runs Format

variable {δ : Type}

/-- The hour that a lookup answers with: a cached one, or what a miss brings in. -/
def lookedUp (T : Target δ) (xs : List (ℕ × DataHour)) (platform : δ) (n : UInt32)
    (load create : Bool) : Option DataHour :=
  match xs.find? (fun x => x.2.hourId == n) with
  | some x => some x.2
  | none => fetched T n load create platform

/-- Nothing has been changed since the hour was saved or loaded. -/
def DataHour.Clean (h : DataHour) : Prop := h.flags &&& flagModified = 0

instance (h : DataHour) : Decidable h.Clean := inferInstanceAs (Decidable (_ = _))

/-! ### Runs -/

/-- Evictions are part of the lookups. -/
inductive FlagOp
  | log (target : VariableInfo) (hourNumber sampleNumber : UInt32) (value : Sample)
      (time : UInt32) (announce : Bool)
  | get (hourNumber : UInt32) (load create : Bool)
  | save
  | receiveCheck (packet : Packet)

def FlagOp.run (T : Target δ) : FlagOp → Run (Globals δ) Unit
  | .log target n k value time announce => do
    let _ ← dataLog T target n k value time announce
  | .get n load create => do
    let _ ← datahourGet T n load create
  | .save => dataSave T
  | .receiveCheck packet => do
    let _ ← inHand packet (dataCheckReceive T)

section Honesty

variable {T : Target δ} (D : RecallingStorage T)

/-- A clean hour has the variables that its last saved file decodes to, or none if it was never
saved. -/
def Honest (s : Globals δ) : Prop :=
  ∀ x ∈ s.cached, x.2.Clean → D.Saved s.platform x.2.hourId x.2.vars

/-- A log does not add a variable to a clean hour and then fail, for its sample number is too
large; no hour is made anew that has a file; and no check marks a sample of a clean hour. -/
def KeepsHonest (t : Globals δ) : FlagOp → Prop
  | .log target n k _ _ _ => ∀ h, lookedUp T t.cached t.platform n true true = some h → h.Clean →
      getVariable h target.id = none → Addable T.toSettings h target → k < target.samplesPerHour
  | .get n load create => load = false → create = true → (∀ x ∈ t.cached, x.2.hourId ≠ n) →
      D.Saved t.platform n []
  | .save => True
  | .receiveCheck packet => ∀ message f h, packet.message = some message →
      numberFields message = some f → lookedUp T t.cached t.platform f.hourNum true false = some h →
      h.Clean → isProvided T f.info = true → ∀ v, h.vars.find? (fun v => v.info.id == f.info.id) =
        some v → f.info.samplesPerHour = v.info.samplesPerHour →
      ∀ i ≤ f.first.toNat, v.data[i]? ≠ some valueEmpty

end Honesty

section OneHour

variable {cfg : Settings} {h : DataHour} {target : VariableInfo} {k : UInt32} {value : Sample}

/-- A log that changes a variable sets the flag. -/
lemma logAt_cases (h : DataHour) (i : ℕ) (target : VariableInfo) (k : UInt32) (value : Sample) :
    (h.logAt i target k value).2 = h ∨ ((h.logAt i target k value).1 = .ok ∧
      (h.logAt i target k value).2.flags = flagModified) := by
  unfold DataHour.logAt
  split
  · exact Or.inl rfl
  · split_ifs
    · exact Or.inl rfl
    · exact Or.inl rfl
    · exact Or.inl rfl
    · exact Or.inr ⟨rfl, rfl⟩

lemma not_clean_of_flags {h : DataHour} (hflags : h.flags = flagModified) : ¬h.Clean := by
  unfold DataHour.Clean
  rw [hflags]
  decide

/-- A log leaves a clean hour clean and different only if it adds a variable and then fails. -/
lemma log_clean_iff (hwf : h.WellFormed cfg) (hclean : h.Clean) :
    ((h.log cfg target k value).2.Clean → (h.log cfg target k value).2.vars = h.vars) ↔
      (getVariable h target.id = none → Addable cfg h target → k < target.samplesPerHour) := by
  unfold DataHour.log
  cases hv : getVariable h target.id with
  | some i =>
    refine iff_of_true ?_ (fun hnone => by cases hnone)
    intro hclean'
    rcases logAt_cases h i target k value with hsame | ⟨-, hflags⟩
    · simp only [hsame]
    · exact absurd hclean' (not_clean_of_flags hflags)
  | none =>
    by_cases hadd : Addable cfg h target
    · simp only [hourAddVariable_ok hwf hadd, hadd, forall_const, DataHour.logAt,
        List.getElem?_concat_length, Variable.create]
      by_cases hk : target.samplesPerHour ≤ k
      · simp only [hk, ne_eq, not_true, if_true, if_false]
        refine iff_of_false ?_ (UInt32.not_lt.mpr hk)
        intro hsame
        have hlen := congrArg List.length (hsame hclean)
        simp at hlen
      · have hempty : (List.replicate target.samplesPerHour.toNat valueEmpty).getD k.toNat
            valueEmpty = valueEmpty := by
          rw [List.getD_eq_getElem?_getD, List.getElem?_replicate]
          split <;> rfl
        have hnot : ¬Measured valueEmpty := by decide
        simp only [hk, ne_eq, not_true, if_false, hempty, hnot, false_and]
        exact iff_of_true (fun hclean' => absurd hclean' (not_clean_of_flags rfl))
          (UInt32.not_le.mp hk)
    · refine iff_of_true ?_ (fun _ hadd' => absurd hadd' hadd)
      intro _
      cases he : hourAddVariable cfg h target with
      | mk rv h' =>
        cases rv <;> first | exact absurd (hourAddVariable_addable hwf he) hadd | rfl

lemma log_unclean (hwf : h.WellFormed cfg) (hclean : ¬h.Clean) :
    ¬(h.log cfg target k value).2.Clean := by
  have hlogAt : ∀ {g : DataHour} {i}, ¬g.Clean → ¬(g.logAt i target k value).2.Clean := by
    intro g i hg
    rcases logAt_cases g i target k value with hsame | ⟨-, hflags⟩
    · rwa [hsame]
    · exact not_clean_of_flags hflags
  unfold DataHour.log
  cases getVariable h target.id with
  | some i => exact hlogAt hclean
  | none =>
    simp only
    cases he : hourAddVariable cfg h target with
    | mk rv h' =>
      cases rv
      case ok =>
        have haddable := hourAddVariable_addable hwf he
        obtain rfl := (Prod.mk.inj (he.symm.trans (hourAddVariable_ok hwf haddable))).2
        exact hlogAt hclean
      all_goals exact hclean

lemma counted_data_eq_iff (v : Variable) (isProv : Bool) (logNum : UInt32) :
    (v.counted isProv logNum).data = v.data ↔
      (isProv = true → ∀ i ≤ logNum.toNat, v.data[i]? ≠ some valueEmpty) := by
  constructor
  · intro hsame hprov i hi hempty
    have hi' := v.counted_getElem? isProv logNum i
    rw [hsame, if_pos hi, hempty, hprov] at hi'
    revert hi'
    decide
  · intro hnone
    refine List.ext_getElem? (fun i => ?_)
    rw [Variable.counted_getElem?]
    split
    · rename_i hi
      cases hval : v.data[i]? with
      | none => rfl
      | some val =>
        have hmark : markSample isProv val = val := by
          unfold markSample
          refine if_neg ?_
          rintro ⟨rfl, hprov⟩
          exact hnone hprov i hi hval
        rw [Option.map_some, hmark]
    · rw [Option.map_id_fun, id]

lemma check_vars_iff (h : DataHour) (isProv : Bool) (info : VariableInfo)
    (logNum : UInt32) : (h.check isProv info logNum).2.vars = h.vars ↔
      (isProv = true → ∀ v, h.vars.find? (fun v => v.info.id == info.id) = some v →
        info.samplesPerHour = v.info.samplesPerHour →
        ∀ i ≤ logNum.toNat, v.data[i]? ≠ some valueEmpty) := by
  unfold DataHour.check
  cases hv : getVariable h info.id with
  | none =>
    rw [getVariable_none hv]
    exact iff_of_true rfl (fun _ v hnone => by cases hnone)
  | some i =>
    obtain ⟨v, hi, hfind, -⟩ := getVariable_some hv
    simp only [hi, hfind]
    by_cases hrate : info.samplesPerHour ≠ v.info.samplesPerHour
    · rw [if_pos hrate]
      refine iff_of_true rfl ?_
      rintro - w hw he
      obtain rfl := Option.some.inj hw
      exact absurd he hrate
    · rw [if_neg hrate]
      have hmodify : h.vars.modify i (·.counted isProv logNum) = h.vars ↔
          (v.counted isProv logNum).data = v.data := by
        constructor
        · intro hsame
          have hi' := congrArg (fun vs => vs[i]?) hsame
          simp only [List.getElem?_modify, hi, if_true] at hi'
          exact congrArg Variable.data (Option.some.inj hi')
        · intro hsame
          have hcounted : v.counted isProv logNum = v := by
            cases v
            simpa [Variable.counted] using hsame
          refine List.ext_getElem? (fun j => ?_)
          rw [List.getElem?_modify]
          by_cases hj : i = j
          · subst hj
            simp [hi, hcounted]
          · simp [hj]
      show h.vars.modify i _ = h.vars ↔ _
      rw [hmodify, counted_data_eq_iff]
      constructor
      · rintro hnone hprov w hw -
        obtain rfl := Option.some.inj hw
        exact hnone hprov
      · intro hnone hprov
        exact hnone hprov v rfl (not_not.mp hrate)

end OneHour

section Steps

variable {T : Target δ} {D : RecallingStorage T} {s t u : Globals δ}
  {xs zs pre post : List (ℕ × DataHour)}
  {a : ℕ} {h : DataHour} {n : UInt32} {load create : Bool} {o : Option ℕ} {p : δ}
  {q : LinkedList DataHour}

/-- No hour is cached twice, and the files are those of well-formed hours. -/
structure OnFile (D : RecallingStorage T) (s : Globals δ) (xs : List (ℕ × DataHour)) : Prop where
  cache : s.CacheHolds T xs
  ids : (xs.map (fun x => x.2.hourId)).Nodup
  files : D.WellFormed s.platform

/-- The clean hours of a list are as they were saved. -/
def HonestHours (D : RecallingStorage T) (p : δ) (xs : List (ℕ × DataHour)) : Prop :=
  ∀ x ∈ xs, x.2.Clean → D.Saved p x.2.hourId x.2.vars

lemma OnFile.honest_iff (hf : OnFile D s xs) : Honest D s ↔ HonestHours D s.platform xs := by
  unfold Honest HonestHours
  rw [hf.cache.cached_eq]

/-- The files are well-formed after a well-formed hour has been saved under its number, or not. -/
lemma RecallingStorage.WellFormed.saved (hfiles : D.WellFormed p) (hwf : h.WellFormed T.toSettings) :
    D.WellFormed (T.hourSave h.hourId (hourBytes h.sealed) p).2 := by
  intro k b hb
  rw [D.save_files] at hb
  split at hb
  · by_cases hk : k = h.hourId
    · subst hk
      rw [Function.update_self] at hb
      exact ⟨h, hwf, rfl, (Option.some.inj hb).symm⟩
    · rw [Function.update_of_ne hk] at hb
      exact hfiles k b hb
  · exact hfiles k b hb

lemma RecallingStorage.save_files_ne {k : UInt32} (hk : k ≠ h.hourId) :
    D.files (T.hourSave h.hourId (hourBytes h.sealed) p).2 k = D.files p k := by
  rw [D.save_files]
  split
  · exact Function.update_of_ne hk _ _
  · rfl

lemma RecallingStorage.WellFormed.loaded (hfiles : D.WellFormed p) (n : UInt32) (load : Bool) :
    D.WellFormed (afterLoad T n load p) := by
  intro k b hb
  rw [D.afterLoad_files] at hb
  exact hfiles k b hb

/-- A lookup keeps the files of the hours that are then cached; all of these but the one that it
answers with were cached before. -/
structure LookedUp (D : RecallingStorage T) (s : Globals δ) (xs : List (ℕ × DataHour)) (n : UInt32)
    (load create : Bool) (o : Option ℕ) (p : δ) (zs : List (ℕ × DataHour)) : Prop where
  files : ∀ z ∈ zs, D.files p z.2.hourId = D.files s.platform z.2.hourId
  nothing : o = none → lookedUp T xs s.platform n load create = none
  answer : ∀ a ∈ o, ∃ h, (a, h) ∈ zs ∧ lookedUp T xs s.platform n load create = some h
  others : ∀ z ∈ zs, some z.1 ≠ o → z ∈ xs

lemma lookedUp_missed (hmiss : ∀ x ∈ xs, x.2.hourId ≠ n) :
    lookedUp T xs p n load create = fetched T n load create p := by
  rw [lookedUp, find?_hourId_missed hmiss]

lemma lookedUp_cached (hd : (xs.map (fun x => x.2.hourId)).Nodup) {x : ℕ × DataHour} (hx : x ∈ xs)
    (hid : x.2.hourId = n) : lookedUp T xs p n load create = some x.2 := by
  rw [lookedUp, find?_hourId hd hx hid]

lemma OnFile.get (hf : OnFile D s xs)
    (hget : (datahourGet T n load create).run s = .ok o { s with dataQueue := q, platform := p })
    (hc : ({ s with dataQueue := q, platform := p } : Globals δ).CacheHolds T zs) :
    OnFile D { s with dataQueue := q, platform := p } zs ∧ LookedUp D s xs n load create o p zs := by
  have hleft : LookupLeft T s xs n load create o p zs := datahourGet_left hf.cache hget hc
  cases hleft with
  | hit pre x post split id newest perm =>
    refine ⟨⟨hc, (perm.map _).nodup_iff.mpr hf.ids, hf.files⟩, fun _ _ => rfl,
      (fun hnone => by cases hnone), ?_, fun z hz _ => perm.mem_iff.mp hz⟩
    intro a ha
    obtain rfl := Option.some.inj ha
    exact ⟨x.2, List.mem_cons_self, lookedUp_cached hf.ids (perm.mem_iff.mp List.mem_cons_self) id⟩
  | absent miss nothing =>
    refine ⟨⟨hc, hf.ids, hf.files.loaded n load⟩, ?_, fun _ => ?_,
      (fun a ha => by cases ha), fun z hz _ => hz⟩
    · intro z _
      rw [D.afterLoad_files]
    · rw [lookedUp_missed miss, nothing]
  | added miss hour node p ys fresh new sub room =>
    obtain ⟨hid, -⟩ := RecallingStorage.fetched_hour hf.files new
    have hids := @hourIds_added _ _ node _ _ hf.ids sub miss hid
    -- An hour that is saved to make room is not cached any more.
    have hfiles : D.WellFormed p ∧ ∀ z ∈ ys ++ [(node, hour)],
        D.files p z.2.hourId = D.files s.platform z.2.hourId := by
      rcases room with ⟨rfl, rfl⟩ | ⟨x, rfl, rfl⟩
      · exact ⟨hf.files.loaded n load, fun z _ => by rw [D.afterLoad_files]⟩
      · refine ⟨(hf.files.loaded n load).saved (hf.cache.wellFormed x List.mem_cons_self), ?_⟩
        intro z hz
        have hne : z.2.hourId ≠ x.2.hourId := by
          rcases List.mem_append.mp hz with hz | hz
          · intro he
            have hd := hf.ids
            rw [List.map_cons, List.nodup_cons] at hd
            exact hd.1 (List.mem_map.mpr ⟨z, hz, he⟩)
          · rw [List.mem_singleton.mp hz, hid]
            exact (miss x List.mem_cons_self).symm
        rw [D.save_files_ne hne, D.afterLoad_files]
    refine ⟨⟨hc, hids, hfiles.1⟩, hfiles.2, (fun hnone => by cases hnone), ?_, ?_⟩
    · intro a ha
      obtain rfl := Option.some.inj ha
      exact ⟨hour, by simp, by rw [lookedUp_missed miss, new]⟩
    · intro z hz hne
      rcases List.mem_append.mp hz with hz | hz
      · exact sub.subset hz
      · exact absurd (by rw [List.mem_singleton.mp hz]) hne

/-- The hour that a lookup answers with is known by its node. -/
lemma LookedUp.hour (hl : LookedUp D s xs n load create (some a) p zs)
    (hc : t.CacheHolds T zs) (hmem : (a, h) ∈ zs) :
    lookedUp T xs s.platform n load create = some h := by
  obtain ⟨h', hmem', hlooked⟩ := hl.answer a rfl
  have hsame := List.inj_on_of_nodup_map hc.queue.ring.nodup hmem hmem' rfl
  rw [hlooked, (Prod.mk.inj hsame).2]

/-- A lookup keeps all hours honest unless it makes one anew that has a file. -/
lemma LookedUp.honest_iff (hf : OnFile D s xs) (hh : HonestHours D s.platform xs)
    (hl : LookedUp D s xs n load create o p zs) (hc : t.CacheHolds T zs) :
    HonestHours D p zs ↔ (load = false → create = true → (∀ x ∈ xs, x.2.hourId ≠ n) →
      D.Saved s.platform n []) := by
  have hothers : ∀ z ∈ zs, some z.1 ≠ o → z.2.Clean → D.Saved p z.2.hourId z.2.vars :=
    fun z hz hne hclean => (hh z (hl.others z hz hne) hclean).congr (hl.files z hz)
  cases o with
  | none =>
    refine iff_of_true (fun z hz => hothers z hz (by simp)) ?_
    rintro rfl rfl hmiss
    have hnothing := hl.nothing rfl
    rw [lookedUp_missed hmiss] at hnothing
    cases hnothing
  | some a =>
    obtain ⟨h, hmem, hlooked⟩ := hl.answer a rfl
    have hself : HonestHours D p zs ↔ (h.Clean → D.Saved s.platform h.hourId h.vars) := by
      constructor
      · intro hall hclean
        exact (hall _ hmem hclean).congr (hl.files _ hmem).symm
      · intro hone z hz
        by_cases hne : z.1 = a
        · rw [List.inj_on_of_nodup_map hc.queue.ring.nodup hz hmem hne]
          exact fun hclean => (hone hclean).congr (hl.files _ hmem)
        · exact hothers z hz (fun he => hne (Option.some.inj he))
    rw [hself]
    by_cases hcached : ∃ x ∈ xs, x.2.hourId = n
    · obtain ⟨x, hx, hid⟩ := hcached
      rw [lookedUp_cached hf.ids hx hid] at hlooked
      obtain rfl := Option.some.inj hlooked
      exact iff_of_true (hh x hx) (fun _ _ hmiss => absurd hid (hmiss x hx))
    · have hmiss : ∀ x ∈ xs, x.2.hourId ≠ n := fun x hx hid => hcached ⟨x, hx, hid⟩
      rw [lookedUp_missed hmiss] at hlooked
      obtain ⟨hid, hsaved⟩ := RecallingStorage.fetched_hour hf.files hlooked
      cases load with
      | true =>
        rw [hid]
        exact iff_of_true (fun _ => hsaved rfl) (fun hload => by cases hload)
      | false =>
        cases create with
        | false => cases hlooked
        | true =>
          obtain rfl := Option.some.inj hlooked
          have hclean : (hourCreate n).Clean := (by decide : (0 : UInt8) &&& flagModified = 0)
          exact ⟨fun hone _ _ _ => hone hclean, fun hone _ => hone rfl rfl hmiss⟩

lemma OnFile.replace {h' : DataHour} (hf : OnFile D s (pre ++ (a, h) :: post))
    (hc : t.CacheHolds T (pre ++ (a, h') :: post)) (hp : t.platform = s.platform)
    (hid : h'.hourId = h.hourId) : OnFile D t (pre ++ (a, h') :: post) where
  cache := hc
  ids := hourIds_replace hf.ids hid
  files := hp ▸ hf.files

/-- The others stay honest, and this one is honest if it is not clean or has not been changed. -/
lemma HonestHours.replace_iff {h' : DataHour} (hh : HonestHours D p (pre ++ (a, h) :: post))
    (hid : h'.hourId = h.hourId) :
    HonestHours D p (pre ++ (a, h') :: post) ↔ (h'.Clean → D.Saved p h.hourId h'.vars) := by
  constructor
  · intro hall hclean
    rw [← hid]
    exact hall (a, h') (by simp) hclean
  · intro hone x hx
    simp only [List.mem_append, List.mem_cons] at hx
    rcases hx with hx | rfl | hx
    · exact hh x (by simp [hx])
    · rw [hid]
      exact hone
    · exact hh x (by simp [hx])

/-- A clean hour that is honest stays so exactly if it becomes unclean or keeps its variables. -/
lemma HonestHours.changed_iff {h' : DataHour} (hh : HonestHours D p (pre ++ (a, h) :: post))
    (hid : h'.hourId = h.hourId) (hclean : h.Clean) :
    HonestHours D p (pre ++ (a, h') :: post) ↔ (h'.Clean → h'.vars = h.vars) := by
  have hsaved := hh (a, h) (by simp) hclean
  rw [hh.replace_iff hid]
  refine imp_congr_right (fun _ => ?_)
  constructor
  · intro hsaved'
    exact hsaved'.unique hsaved
  · rintro he
    rw [he]
    exact hsaved

/-- A node whose hours are on file serves operations. -/
structure Serves (D : RecallingStorage T) (s : Globals δ) : Prop where
  hours : ∃ xs, OnFile D s xs
  network : ∃ tx rx es, NetworkHolds T s tx rx es
  requests : ∃ rs, s.RequestsHold rs

/-- A node keeps serving when only its hours and their files have changed. -/
lemma Serves.moved (hs : Serves D s) {q : LinkedList DataHour} {p : δ} {zs : List (ℕ × DataHour)}
    (hz : OnFile D { s with dataQueue := q, platform := p } zs) :
    Serves D { s with dataQueue := q, platform := p } := by
  obtain ⟨tx, rx, es, hn⟩ := hs.network
  obtain ⟨rs, hr⟩ := hs.requests
  exact ⟨⟨zs, hz⟩, ⟨tx, rx, es, hn.data q p⟩, ⟨rs, hr.congr rfl rfl⟩⟩

/-- A log leaves the hours honest exactly if it does not add a variable in vain. -/
lemma dataLog_honest (hs : Serves D s) (hh : Honest D s) {target : VariableInfo} {k : UInt32}
    {value : Sample} {time : UInt32} {announce : Bool} {rv : ZejfErr}
    (hrun : (dataLog T target n k value time announce).run s = .ok rv u) :
    Serves D u ∧ (Honest D u ↔ KeepsHonest D s (.log target n k value time announce)) := by
  obtain ⟨xs, hf⟩ := hs.hours
  obtain ⟨tx, rx, es, hn⟩ := hs.network
  obtain ⟨rs, hr⟩ := hs.requests
  have hcached := hf.cache.cached_eq
  rw [hf.honest_iff] at hh
  simp only [KeepsHonest, hcached]
  rcases dataLog_hour hf.cache hn target n k value time announce with
    ⟨q, p, zs, hget, hc, hlog⟩ | ⟨a, pre, h, post, q, p, v, sent, hget, hc, hlog, hlogged⟩
  · obtain ⟨-, rfl⟩ := EStateM.Result.ok.inj (hrun.symm.trans hlog)
    obtain ⟨hz, hl⟩ := hf.get hget hc
    refine ⟨hs.moved hz, ?_⟩
    rw [hz.honest_iff, hl.honest_iff hf hh hc, hl.nothing rfl]
    exact iff_of_true (fun hload => by cases hload) (fun h hnone => by cases hnone)
  · obtain ⟨-, rfl⟩ := EStateM.Result.ok.inj (hrun.symm.trans hlog)
    obtain ⟨hz, hl⟩ := hf.get hget hc
    obtain ⟨q', tq, ps, -, hframe⟩ := hlogged.frame
    have hid := hlogged.hourId
    have hplatform : u.platform = p := (congrArg Globals.platform hframe).trans rfl
    have hu := hz.replace hlogged.cache hplatform hid
    have hr' : u.RequestsHold rs := by
      rw [hframe]
      exact hr.congr rfl rfl
    refine ⟨⟨⟨_, hu⟩, ⟨_, rx, es, hlogged.network⟩, ⟨rs, hr'⟩⟩, ?_⟩
    have hhz := (hl.honest_iff hf hh hc).mpr (fun hload => by cases hload)
    rw [hu.honest_iff, hplatform, hl.hour (h := h) hc (by simp)]
    have hwf := hc.wellFormed (a, h) (by simp)
    by_cases hclean : h.Clean
    · rw [hhz.changed_iff hid hclean, log_clean_iff hwf hclean]
      constructor
      · rintro hlate g hg -
        obtain rfl := Option.some.inj hg
        exact hlate
      · intro hall
        exact hall h rfl hclean
    · refine iff_of_true ((hhz.replace_iff hid).mpr ?_) ?_
      · exact fun hclean' => absurd hclean' (log_unclean hwf hclean)
      · rintro g hg hclean'
        obtain rfl := Option.some.inj hg
        exact absurd hclean' hclean

lemma datahourGet_honest (hs : Serves D s) (hh : Honest D s)
    (hrun : (datahourGet T n load create).run s = .ok o u) :
    Serves D u ∧ (Honest D u ↔ KeepsHonest D s (.get n load create)) := by
  obtain ⟨xs, hf⟩ := hs.hours
  have hcached := hf.cache.cached_eq
  rw [hf.honest_iff] at hh
  simp only [KeepsHonest, hcached]
  obtain ⟨o', q, p, zs, hget, hc, -⟩ := datahourGet_cached hf.cache n load create
  obtain ⟨-, rfl⟩ := EStateM.Result.ok.inj (hrun.symm.trans hget)
  obtain ⟨hz, hl⟩ := hf.get hget hc
  refine ⟨hs.moved hz, ?_⟩
  rw [hz.honest_iff]
  exact hl.honest_iff hf hh hc

/-- One round of `data_save`: an hour is only clean afterwards if it could be saved. -/
lemma dataSaveHour_honest (hf : OnFile D s (pre ++ (a, h) :: post))
    (hh : HonestHours D s.platform (pre ++ (a, h) :: post)) : ∃ q p h', (dataSaveHour T a).run s =
        .ok () { s with dataQueue := q, platform := p } ∧
      OnFile D { s with dataQueue := q, platform := p } (pre ++ (a, h') :: post) ∧
      HonestHours D p (pre ++ (a, h') :: post) := by
  rcases dataSaveHour_cases hf.cache with ⟨-, hrun⟩ | ⟨hflags, rv, q, p, h', hsave, hh', hrun, hc⟩
  · exact ⟨s.dataQueue, s.platform, h, hrun, hf, hh⟩
  have hwf := hf.cache.wellFormed (a, h) (by simp)
  have hrv : (T.hourSave h.hourId (hourBytes h.sealed) s.platform).1 = rv :=
    congrArg Prod.fst hsave
  have hp : (T.hourSave h.hourId (hourBytes h.sealed) s.platform).2 = p :=
    congrArg Prod.snd hsave
  have hfields : h'.hourId = h.hourId ∧ h'.vars = h.vars := by
    rw [hh']
    split <;> exact ⟨rfl, rfl⟩
  have hfiles := hf.files.saved hwf
  have hloaded : OnFile D { s with platform := p } (pre ++ (a, h) :: post) :=
    ⟨hf.cache.congr rfl, hf.ids, hp ▸ hfiles⟩
  refine ⟨q, p, h', hrun, hloaded.replace hc rfl hfields.1, ?_⟩
  intro x hx hxclean
  have hothers : x ∈ pre ++ post → D.Saved p x.2.hourId x.2.vars := by
    intro hx
    have hne := hourId_others hf.ids x hx
    have hsaved := hh x (by simp only [List.mem_append, List.mem_cons] at hx ⊢; tauto) hxclean
    exact hsaved.congr (hp ▸ D.save_files_ne hne)
  simp only [List.mem_append, List.mem_cons] at hx hothers
  rcases hx with hx | rfl | hx
  · exact hothers (Or.inl hx)
  · by_cases hok : rv = .ok
    · rw [hfields.1, hfields.2]
      refine RecallingStorage.saved_of_file hwf ?_
      rw [← hp, D.save_files, if_pos (hrv.trans hok), Function.update_self]
    · rw [if_neg hok] at hh'
      rw [hh'] at hxclean
      exact absurd hxclean hflags
  · exact hothers (Or.inr hx)

lemma dataSave_honest (hs : Serves D s) (hh : Honest D s) {r : Unit}
    (hrun : (dataSave T).run s = .ok r u) : Serves D u ∧ Honest D u := by
  obtain ⟨xs, hf⟩ := hs.hours
  rw [hf.honest_iff] at hh
  obtain ⟨ys, q, p, hsave, hf', hh'⟩ := dataSave_keeps
    (I := fun s xs => OnFile D s xs ∧ HonestHours D s.platform xs) (fun _ _ h => h.1.cache)
    (fun _ _ _ _ _ h => dataSaveHour_honest h.1 h.2) ⟨hf, hh⟩
  obtain ⟨-, rfl⟩ := EStateM.Result.ok.inj (hrun.symm.trans hsave)
  refine ⟨hs.moved hf', ?_⟩
  rwa [hf'.honest_iff]

/-- A check leaves the hours honest exactly if it marks no sample of a clean hour. -/
lemma calculateDataCheck_honest (hf : OnFile D s xs) (hh : HonestHours D s.platform xs)
    {info : VariableInfo} {logNum : UInt32} {r : ZejfErr × Option UInt32}
    (hrun : (calculateDataCheck T info n logNum).run s = .ok r u) : ∃ q p zs,
    u = { s with dataQueue := q, platform := p } ∧ OnFile D u zs ∧ (HonestHours D u.platform zs ↔
      ∀ h, lookedUp T xs s.platform n true false = some h → h.Clean → isProvided T info = true →
        ∀ v, h.vars.find? (fun v => v.info.id == info.id) = some v →
          info.samplesPerHour = v.info.samplesPerHour →
          ∀ i ≤ logNum.toNat, v.data[i]? ≠ some valueEmpty) := by
  rcases calculateDataCheck_hour hf.cache info n logNum with
    ⟨q, p, zs, hget, hc, hcheck⟩ | ⟨a, pre, h, post, q, p, q', hget, hc, hcheck, hc'⟩
  · obtain ⟨-, rfl⟩ := EStateM.Result.ok.inj (hrun.symm.trans hcheck)
    obtain ⟨hz, hl⟩ := hf.get hget hc
    refine ⟨q, p, zs, rfl, hz, ?_⟩
    rw [hl.honest_iff hf hh hc, hl.nothing rfl]
    exact iff_of_true (fun hload => by cases hload) (fun h hnone => by cases hnone)
  · obtain ⟨-, rfl⟩ := EStateM.Result.ok.inj (hrun.symm.trans hcheck)
    obtain ⟨hz, hl⟩ := hf.get hget hc
    have hhz := (hl.honest_iff hf hh hc).mpr (fun hload => by cases hload)
    obtain ⟨hid, hflags⟩ := check_kept h (isProvided T info) info logNum
    refine ⟨q', p, _, rfl, hz.replace hc' rfl hid, ?_⟩
    rw [hl.hour (h := h) hc (by simp)]
    by_cases hclean : h.Clean
    · have hclean' : (h.check (isProvided T info) info logNum).2.Clean := by
        unfold DataHour.Clean
        rwa [hflags]
      show HonestHours D p _ ↔ _
      rw [hhz.changed_iff hid hclean, imp_iff_right hclean', check_vars_iff]
      constructor
      · rintro hnone g hg -
        obtain rfl := Option.some.inj hg
        exact hnone
      · intro hall
        exact hall h rfl hclean
    · refine iff_of_true ((hhz.replace_iff hid).mpr ?_) ?_
      · intro hclean'
        unfold DataHour.Clean at hclean'
        rw [hflags] at hclean'
        exact absurd hclean' hclean
      · rintro g hg hclean'
        obtain rfl := Option.some.inj hg
        exact absurd hclean' hclean

lemma honest_congr (hq : t.dataQueue = s.dataQueue) (hp : t.platform = s.platform) :
    Honest D t ↔ Honest D s := by
  unfold Honest Globals.cached
  rw [hq, hp]

lemma receiveCheck_honest (hs : Serves D s) (hh : Honest D s) {packet : Packet} {rv : ZejfErr}
    (hrun : (inHand packet (dataCheckReceive T)).run s = .ok rv u) :
    Serves D u ∧ (Honest D u ↔ KeepsHonest D s (.receiveCheck packet)) := by
  obtain ⟨xs, hf⟩ := hs.hours
  obtain ⟨tx, rx, es, hn⟩ := hs.network
  obtain ⟨rs, hr⟩ := hs.requests
  have hcached := hf.cache.cached_eq
  rw [hf.honest_iff] at hh
  simp only [KeepsHonest, hcached]
  obtain ⟨t, hreceive, rfl⟩ := inHand_cases hrun
  obtain ⟨hn₁, hloose⟩ := hn.push packet
  have hpacket : (s.packets.push packet).cells s.packets.next = some packet :=
    (Heap.push_cells _ _ _).trans (if_pos rfl)
  obtain ⟨message, hm, ⟨hfields, rfl⟩ | ⟨f, r, t', hfields, hcheck, hadd⟩⟩ :=
    dataCheckReceive_cases hpacket hreceive
  · refine ⟨⟨⟨xs, hf.cache.congr rfl, hf.ids, hf.files⟩, ⟨tx, rx, es, hn₁.erase hloose⟩,
      ⟨rs, hr.congr rfl rfl⟩⟩, iff_of_true ?_ ?_⟩
    · exact (honest_congr rfl rfl).mpr (hf.honest_iff.mpr hh)
    · intro message' f g hm' hfields'
      obtain rfl := Option.some.inj (hm.symm.trans hm')
      rw [hfields] at hfields'
      cases hfields'
  · obtain ⟨q, p, zs, rfl, hz, hiff⟩ := calculateDataCheck_honest
      (s := { s with packets := s.packets.push packet }) ⟨hf.cache.congr rfl, hf.ids, hf.files⟩ hh
      hcheck
    have hrequests : ∃ rq rhs qs, t = { s with
        packets := s.packets.push packet, dataQueue := q, platform := p
        dataRequestsQueue := rq, requests := rhs } ∧ t.RequestsHold qs := by
      rcases hadd with rfl | ⟨-, -, hadd⟩
      · exact ⟨_, _, rs, rfl, hr.congr rfl rfl⟩
      · obtain ⟨rq, rhs, qs, rfl, hqs⟩ := dataRequestAdd_keeps
          (s := { s with packets := s.packets.push packet, dataQueue := q, platform := p })
          (hr.congr rfl rfl) hadd
        exact ⟨rq, rhs, qs, rfl, hqs⟩
    obtain ⟨rq, rhs, qs, rfl, hqs⟩ := hrequests
    have hn₂ : NetworkHolds T { s with
        packets := s.packets.push packet, dataQueue := q, platform := p
        dataRequestsQueue := rq, requests := rhs } tx rx es := (hn₁.data q p).setRequests rq rhs
    refine ⟨⟨⟨zs, hz.cache.congr rfl, hz.ids, hz.files⟩, ⟨tx, rx, es, hn₂.erase hloose⟩,
      ⟨qs, hqs.congr rfl rfl⟩⟩, ?_⟩
    rw [← hz.honest_iff] at hiff
    refine (honest_congr rfl rfl).trans (hiff.trans ?_)
    constructor
    · intro hall message' f' g hm' hfields'
      obtain rfl := Option.some.inj (hm.symm.trans hm')
      obtain rfl := Option.some.inj (hfields.symm.trans hfields')
      exact hall g
    · intro hall g
      exact hall message f g hm hfields

lemma FlagOp.run_honest (hs : Serves D s) (hh : Honest D s) {op : FlagOp} {r : Unit}
    (hrun : (op.run T).run s = .ok r u) :
    Serves D u ∧ (Honest D u ↔ KeepsHonest D s op) := by
  cases op with
  | log target n k value time announce =>
    obtain ⟨rv, v, hlog, hreturn⟩ := run_bind_inv hrun
    obtain ⟨-, rfl⟩ := EStateM.Result.ok.inj hreturn
    exact dataLog_honest hs hh hlog
  | get n load create =>
    obtain ⟨o, v, hget, hreturn⟩ := run_bind_inv hrun
    obtain ⟨-, rfl⟩ := EStateM.Result.ok.inj hreturn
    exact datahourGet_honest hs hh hget
  | save =>
    obtain ⟨hs', hh'⟩ := dataSave_honest hs hh hrun
    exact ⟨hs', iff_of_true hh' trivial⟩
  | receiveCheck packet =>
    obtain ⟨rv, v, hreceive, hreturn⟩ := run_bind_inv hrun
    obtain ⟨-, rfl⟩ := EStateM.Result.ok.inj hreturn
    exact receiveCheck_honest hs hh hreceive

end Steps

section Restarts

variable {T : Target δ} {D : RecallingStorage T} {s t : Globals δ} {tr : List (FlagOp × Unit)}
  {tx rx : List Queued} {es : List RoutingEntry}

/-- The device goes down and comes up again: `zejf_destroy` saves, and `zejf_init` starts over
with the files. -/
def restart (T : Target δ) : Run (Globals δ) Unit := do
  dataSave T
  modify fun s => zejfInit T s.platform

/-- What was clean once `data_save` was through comes back after the restart. -/
def RestartKeeps (T : Target δ) (t : Globals δ) : Prop :=
  ∀ r u, (dataSave T).run t = .ok r u → ∃ v, (restart T).run t = .ok () v ∧
    ∀ x ∈ u.cached, x.2.Clean → ((fetched T x.2.hourId true false v.platform).elim []
      DataHour.vars) = x.2.vars

/-- Honest hours that data_save had the chance to write come back. -/
lemma restartKeeps_of_honest (hs : Serves D t) (hh : Honest D t) : RestartKeeps T t := by
  intro r u hrun
  obtain ⟨hu, hhu⟩ := dataSave_honest hs hh hrun
  obtain ⟨xs, hf⟩ := hu.hours
  refine ⟨zejfInit T u.platform, (run_bind_ok hrun).trans rfl, ?_⟩
  intro x hx hclean
  have hsaved := hhu x hx hclean
  show (fetched T x.2.hourId true false u.platform).elim [] DataHour.vars = x.2.vars
  unfold RecallingStorage.Saved at hsaved
  cases hfile : D.files u.platform x.2.hourId with
  | none =>
    rw [hfile] at hsaved
    rw [D.fetched_missing hfile, hsaved]
    rfl
  | some b =>
    obtain ⟨hour, hwf, -, rfl⟩ := hf.files _ b hfile
    rw [hfile] at hsaved
    obtain ⟨hour', hd, hvars⟩ := hsaved
    rw [D.fetched_saved hwf hfile, ← hvars]
    rw [hourDeserialize_hourBytes hwf] at hd
    rw [← Option.some.inj hd]
    rfl

lemma serves_start (hqueue : s.dataQueue = listCreate DataHour T.hourBufferSize)
    (hfiles : D.WellFormed s.platform) (hnetwork : NetworkHolds T s tx rx es)
    {rs : List Requested} (hrequests : s.RequestsHold rs) : Serves D s ∧ Honest D s := by
  have hf : OnFile D s [] := ⟨.empty hqueue, List.nodup_nil, hfiles⟩
  refine ⟨⟨⟨[], hf⟩, ⟨tx, rx, es, hnetwork⟩, ⟨rs, hrequests⟩⟩, ?_⟩
  rw [hf.honest_iff]
  intro x hx
  cases hx

/-- From an empty cache over files of well-formed hours, every clean hour is as it was saved in
every state of a run, and comes back after a restart, exactly if no log adds a variable to a
clean hour and then fails, no hour that has a file is made anew and no check marks a sample of
a clean hour. -/
theorem honest_iff_keepsHonest (D : RecallingStorage T)
    (hqueue : s.dataQueue = listCreate DataHour T.hourBufferSize)
    (hfiles : D.WellFormed s.platform) (hnetwork : NetworkHolds T s tx rx es)
    {rs : List Requested} (hrequests : s.RequestsHold rs)
    (htrace : Trace (FlagOp.run T) s tr t) :
    Always (FlagOp.run T) s (fun _ t => Honest D t ∧ RestartKeeps T t) tr ↔
      Throughout (FlagOp.run T) s (fun _ t op _ => KeepsHonest D t op) tr := by
  obtain ⟨hserves, hhonest⟩ := serves_start hqueue hfiles hnetwork hrequests
  refine Always.iff_throughout_of_good (J := fun _ t => Serves D t ∧ Honest D t)
    (A := fun _ => True) htrace (fun _ _ => trivial) ⟨hserves, hhonest⟩
    ⟨hhonest, restartKeeps_of_honest hserves hhonest⟩ ?_
  rintro tr t op r u - ⟨hs, hh⟩ hrun
  obtain ⟨hu, hiff⟩ := FlagOp.run_honest hs hh hrun
  refine ⟨fun hkeeps => ⟨hu, hiff.mpr hkeeps⟩, ?_⟩
  rw [← hiff]
  exact ⟨fun h => h.1, fun h => ⟨h, restartKeeps_of_honest hu h⟩⟩

end Restarts

/-- A device without files on a disk whose first save fails. -/
def failingStart : Globals ((UInt32 → Option (List UInt8)) × List Bool) :=
  zejfInit (Target.failing Settings.zejfPress) (fun _ => none, [false])

/-- A sample is logged, a save fails and the next one does not. -/
def savedLate : List FlagOp := [.log ⟨4, 7⟩ 1 0 5 0 false, .save, .save]

theorem savedLate_honest_iff : ∃ tr, tr.map Prod.fst = savedLate ∧
    (Always (FlagOp.run (Target.failing Settings.zejfPress)) failingStart (fun _ t =>
        Honest (RecallingStorage.failing Settings.zejfPress) t ∧
          RestartKeeps (Target.failing Settings.zejfPress) t) tr ↔
      Throughout (FlagOp.run (Target.failing Settings.zejfPress)) failingStart (fun _ t op _ =>
        KeepsHonest (RecallingStorage.failing Settings.zejfPress) t op) tr) := by
  have hserved : outcome ((serve (FlagOp.run (Target.failing Settings.zejfPress)) savedLate).run
      failingStart) = some [(), (), ()] := by decide +kernel
  obtain ⟨htr, hops⟩ := Trace.of_serve (run_eq_of_outcome hserved)
  refine ⟨_, hops, honest_iff_keepsHonest (RecallingStorage.failing Settings.zejfPress) rfl ?_
    (NetworkHolds.initial _ _) (zejfInit_requestsHold _ _) htr⟩
  intro n b hb
  cases hb

/-- The sample number is as large as the rate, so the log fails, but the hour has the variable
now. -/
def lateLog : FlagOp := .log ⟨4, 7⟩ 1 4 5 0 false

theorem lateLog_not_honest : ¬∀ tr t,
    Trace (FlagOp.run (Target.failing Settings.zejfPress)) failingStart tr t →
      Honest (RecallingStorage.failing Settings.zejfPress) t := by
  intro hall
  have hserved : outcome ((lateLog.run (Target.failing Settings.zejfPress)).run failingStart) =
      some () := by decide +kernel
  have hhonest := hall _ _ (Trace.nil.snoc (run_eq_of_outcome hserved))
  have hcached : (leaves ((lateLog.run (Target.failing Settings.zejfPress)).run
      failingStart)).cached.map (fun x => (x.2.hourId, x.2.flags, x.2.vars.length)) =
        [(1, 0, 1)] := by decide +kernel
  have hfile : (leaves ((lateLog.run (Target.failing Settings.zejfPress)).run
      failingStart)).platform.1 1 = none := by decide +kernel
  obtain ⟨x, hx, hfields⟩ := List.mem_map.mp (hcached ▸ List.mem_singleton_self _)
  obtain ⟨hid, hflags, hlength⟩ : x.2.hourId = 1 ∧ x.2.flags = 0 ∧ x.2.vars.length = 1 := by
    simpa using hfields
  have hsaved := hhonest x hx (by rw [DataHour.Clean, hflags]; rfl)
  unfold RecallingStorage.Saved at hsaved
  simp only [RecallingStorage.failing, hid, hfile] at hsaved
  rw [hsaved] at hlength
  cases hlength

end ZejfMeteo
