import ZejfMeteo.DataOperations
import ZejfMeteo.ModifiedFlag
import ZejfMeteo.Lib.Journal

/-!
# Restarts

A device that loses power starts again with an empty cache and the files that it has saved.
What it then holds of an hour is told by the journal of the hour.
-/

namespace ZejfMeteo
open Runs Journals

variable {δ : Type} {T : Target δ}

/-- A call of one of the data functions, or a restart. -/
inductive PowerOp
  | call (op : DataOp)
  | restart

namespace PowerOp

/-- A restart loses everything but the files. -/
def run (T : Target δ) : PowerOp → Run (Globals δ) DataOut
  | call op => op.run T
  | restart => do
    let s ← get
    set (zejfInit T s.platform)
    return (.ok, none)

/-- The write of an hour, by variable and sample number, that a call has acknowledged. -/
def event : PowerOp × DataOut → Event UInt32 (UInt16 × UInt32) Sample
  | (call (.log target hourNumber sampleNumber value _ _), rv, _) =>
    if rv = .ok ∧ Measured value then .wrote hourNumber (target.id, sampleNumber) value
    else .passed
  | (call .save, _) => .saved
  | (restart, _) => .restarted
  | _ => .passed

end PowerOp

/-! ### Readings -/

/-- A sample that has been measured. -/
def measured (val : Option Sample) : Option Sample := val.filter (fun v => Measured v)

section Readings

variable {m : RefStore} {n k : UInt32} {id : UInt16} {value : Sample} {cfg : Settings}

lemma measured_eq_none {v : Sample} (h : ¬Measured v) : measured (some v) = none := by
  simp [measured, h]

lemma measured_of {v : Sample} (h : Measured v) : measured (some v) = some v := by
  simp [measured, h]

def DataHour.reading (h : DataHour) (slot : UInt16 × UInt32) : Option Sample :=
  measured (h.sample slot.1 slot.2)

def RefStore.reading (m : RefStore) (n : UInt32) (slot : UInt16 × UInt32) : Option Sample :=
  measured (m.sample n slot.1 slot.2)

/-- What the file of an hour has. -/
def fileReading (T : Target δ) (platform : δ) (n : UInt32) (slot : UInt16 × UInt32) :
    Option Sample :=
  ((fetched T n true false platform).bind (·.reading slot))

lemma reading_new (info : VariableInfo) (k : UInt32) :
    measured ((Variable.create info).data[k.toNat]?) = none := by
  simp only [Variable.create, List.getElem?_replicate]
  split
  · exact measured_eq_none (by decide)
  · rfl

/-- An acknowledged write of a measured value is read from then on, and any other write leaves
everything measured as it was. -/
lemma reading_write {target : VariableInfo} {v : Variable} (hv : ∀ slot : UInt16 × UInt32,
      slot.1 = target.id → measured (v.data[slot.2.toNat]?) = m.reading n slot)
    (n' : UInt32) (slot : UInt16 × UInt32) :
    (RefStore.write target n k value v m).2.reading n' slot =
      if ((RefStore.write target n k value v m).1 = .ok ∧ Measured value) ∧ n = n' ∧
        (target.id, k) = slot then some value else m.reading n' slot := by
  obtain ⟨id, k'⟩ := slot
  rw [RefStore.write]
  split
  · simp
  split
  · simp
  split
  · simp
  rename_i hrate hk hvalue
  have hlt : k.toNat < v.data.length := by
    rw [v.size_eq]
    exact UInt32.lt_iff_toNat_lt.mp (UInt32.not_le.mp hk)
  simp only [RefStore.reading, RefStore.sample_put, Variable.setSample_data, true_and]
  by_cases hslot : n = n' ∧ target.id = id
  · obtain ⟨rfl, rfl⟩ := hslot
    simp only [true_and, and_true, if_true, Prod.mk.injEq]
    by_cases he : k = k'
    · subst he
      rw [List.getElem?_set_self hlt]
      by_cases hmeasured : Measured value
      · rw [measured_of hmeasured, if_pos ⟨hmeasured, rfl⟩]
      · have hold : ¬Measured v.data[k.toNat] := by
          rw [List.getD_eq_getElem?_getD, List.getElem?_eq_getElem hlt, Option.getD_some] at hvalue
          exact fun h => hvalue ⟨h, hmeasured⟩
        have hread := hv (target.id, k) rfl
        rw [List.getElem?_eq_getElem hlt, measured_eq_none hold] at hread
        rw [measured_eq_none hmeasured, if_neg (fun h => hmeasured h.1)]
        exact hread
    · have hne : k.toNat ≠ k'.toNat := fun h => he (UInt32.toNat_inj.mp h)
      rw [List.getElem?_set_ne hne, if_neg (fun h => he h.2)]
      exact hv (target.id, k') rfl
  · have hne : ¬(Measured value ∧ n = n' ∧ (target.id, k) = (id, k')) := by
      rintro ⟨-, hn, hid⟩
      exact hslot ⟨hn, (Prod.mk.inj hid).1⟩
    rw [if_neg hslot, if_neg hne]

lemma RefStore.reading_eq {vars : List Variable} (h : Agrees (m n) vars) (slot : UInt16 × UInt32) :
    m.reading n slot = measured ((vars.find? (fun v => v.info.id == slot.1)).bind
      (fun v => v.data[slot.2.toNat]?)) := by
  rw [RefStore.reading, RefStore.sample, h.lookup]

lemma reading_log {target : VariableInfo} (n' : UInt32) (slot : UInt16 × UInt32) :
    (RefStore.log cfg target n k value m).2.reading n' slot =
      if ((RefStore.log cfg target n k value m).1 = .ok ∧ Measured value) ∧ n = n' ∧
        (target.id, k) = slot then some value else m.reading n' slot := by
  rw [RefStore.log]
  cases hl : (m n).lookup target.id with
  | some v =>
    refine reading_write ?_ n' slot
    rintro ⟨id, k'⟩ rfl
    rw [RefStore.reading, RefStore.sample, hl]
    rfl
  | none =>
    have hnone : ∀ slot : UInt16 × UInt32, slot.1 = target.id → m.reading n slot = none := by
      rintro ⟨id, k'⟩ rfl
      rw [RefStore.reading, RefStore.sample, hl]
      rfl
    -- A variable that is added has nothing measured.
    have hput : ∀ n' slot, (m.put n target.id (Variable.create target)).reading n' slot =
        m.reading n' slot := by
      rintro n' ⟨id, k'⟩
      rw [RefStore.reading, RefStore.sample_put]
      by_cases hslot : n = n' ∧ target.id = id
      · obtain ⟨rfl, rfl⟩ := hslot
        rw [if_pos ⟨rfl, rfl⟩, reading_new, hnone _ rfl]
      · rw [if_neg hslot]
        rfl
    simp only
    split
    · simp
    split
    · simp
    rw [reading_write, hput]
    rintro ⟨id, k'⟩ rfl
    rw [hput, hnone _ rfl, reading_new]

lemma measured_mark {isProv : Bool} (val : Option Sample) :
    measured (val.map (markSample isProv)) = measured val := by
  cases val with
  | none => rfl
  | some v =>
    rw [Option.map_some, markSample]
    split
    · rename_i h
      rw [h.1, measured_eq_none (by decide), measured_eq_none (by decide)]
    · rfl

lemma reading_counted (v : Variable) (isProv : Bool) (logNum : UInt32) (i : ℕ) :
    measured ((v.counted isProv logNum).data[i]?) = measured (v.data[i]?) := by
  rw [Variable.counted_getElem?]
  split
  · exact measured_mark _
  · rw [Option.map_id_fun, id]

/-- A check leaves everything measured as it was. -/
lemma reading_check {isProv : Bool} {info : VariableInfo} (n' : UInt32)
    (slot : UInt16 × UInt32) :
    (RefStore.check isProv info n k m).2.reading n' slot = m.reading n' slot := by
  obtain ⟨id, k'⟩ := slot
  rw [RefStore.check]
  cases hl : (m n).lookup info.id with
  | none => rfl
  | some v =>
    simp only
    split
    · rfl
    · rw [RefStore.reading, RefStore.sample_put]
      by_cases hslot : n = n' ∧ info.id = id
      · obtain ⟨rfl, rfl⟩ := hslot
        rw [if_pos ⟨rfl, rfl⟩, reading_counted, RefStore.reading, RefStore.sample, hl]
        rfl
      · rw [if_neg hslot]
        rfl

/-- What is read of a slot, where it has been measured. -/
lemma measured_getVal (info : VariableInfo) :
    measured (m.getVal info n k).2 = m.reading n (info.id, k) := by
  rw [RefStore.reading, RefStore.sample, RefStore.getVal]
  cases (m n).lookup info.id with
  | none => rfl
  | some v =>
    simp only [Option.bind_some]
    split
    · rename_i hk
      rw [List.getElem?_eq_none]
      rw [v.size_eq]
      exact UInt32.le_iff_toNat_le.mp hk
    · rfl

end Readings

section Journaled

variable {D : FaithfulStorage T} {s t : Globals δ} {xs ys pre post : List (ℕ × DataHour)}
  {m : RefStore} {J : UInt32 → Journal (UInt16 × UInt32) Sample} {a : ℕ} {h : DataHour}
  {n k : UInt32}

/-- The reference holds what the journals tell, and so do the files, up to what a restart may
undo. A clean hour has nothing that its file has not. -/
structure Journaled (D : FaithfulStorage T) (s : Globals δ) (xs : List (ℕ × DataHour))
    (m : RefStore) (J : UInt32 → Journal (UInt16 × UInt32) Sample) : Prop where
  couples : Couples D s xs m
  reads : ∀ n, m.reading n = (J n).read
  backs : ∀ n, (J n).Backs (fileReading T s.platform n)
  clean : ∀ x ∈ xs, x.2.Clean → fileReading T s.platform x.2.hourId = (J x.2.hourId).read

lemma reading_sealed (h : DataHour) (slot : UInt16 × UInt32) :
    ({ h.sealed with flags := 0 } : DataHour).reading slot = h.reading slot := rfl

/-- A file that has not been changed still reads the same. -/
lemma Couples.fileReading_congr (hc : Couples D s xs m) {p : δ}
    (hfiles : D.files p n = D.files s.platform n) :
    fileReading T p n = fileReading T s.platform n := by
  funext slot
  unfold fileReading
  rw [fetched_congr (D := D) hfiles]
  intro b hb
  exact hc.files n b (hfiles ▸ hb)

/-- The file of an hour reads like the hour that has been saved. -/
lemma fileReading_saved {p : δ} (hwf : h.WellFormed T.toSettings)
    (hfile : D.files p n = some (hourBytes h.sealed)) : fileReading T p n = h.reading := by
  funext slot
  unfold fileReading
  rw [fetched_saved hwf hfile, Option.bind_some, reading_sealed]

lemma Couples.reading_cached (hc : Couples D s xs m) {x : ℕ × DataHour} (hx : x ∈ xs) :
    m.reading x.2.hourId = x.2.reading := by
  funext slot
  have hagrees := hc.agrees x.2.hourId
  rw [localVars_cached hc.ids hx rfl] at hagrees
  rw [RefStore.reading_eq hagrees]
  rfl

lemma Couples.reading_missed (hc : Couples D s xs m) (hmiss : ∀ x ∈ xs, x.2.hourId ≠ n) :
    m.reading n = fileReading T s.platform n := by
  funext slot
  have hagrees := hc.agrees n
  rw [localVars_missed hmiss] at hagrees
  rw [RefStore.reading_eq hagrees, fileReading]
  cases fetched T n true false s.platform with
  | none => rfl
  | some hour => rfl

/-- Hours may go to their files and come in from them at any time. -/
lemma Journaled.moved (hj : Journaled D s xs m J) (hc : Couples D t ys m)
    (hfiles : ∀ n, D.files t.platform n = D.files s.platform n ∨
      ∃ x ∈ xs, x.2.hourId = n ∧ D.files t.platform n = some (hourBytes x.2.sealed))
    (hclean : ∀ y ∈ ys, y ∈ xs ∨ ∀ x ∈ xs, x.2.hourId ≠ y.2.hourId) : Journaled D t ys m J := by
  have hfile : ∀ n, fileReading T t.platform n = fileReading T s.platform n ∨
      fileReading T t.platform n = (J n).read := by
    intro n
    rcases hfiles n with hsame | ⟨x, hx, rfl, hsaved⟩
    · exact Or.inl (hj.couples.fileReading_congr hsame)
    · right
      rw [fileReading_saved (hj.couples.cache.wellFormed x hx) hsaved,
        ← hj.couples.reading_cached hx, hj.reads]
  refine ⟨hc, hj.reads, fun n => ?_, fun y hy hyclean => ?_⟩
  · rcases hfile n with hsame | hread
    · rw [hsame]
      exact hj.backs n
    · rw [hread]
      exact Journal.backs_read _
  · rcases hfile y.2.hourId with hsame | hread
    · rw [hsame]
      rcases hclean y hy with hx | hmiss
      · exact hj.clean y hx hyclean
      · rw [← hj.couples.reading_missed hmiss, hj.reads]
    · exact hread

/-- A lookup keeps the journals. With `create` it always finds its hour. -/
lemma Journaled.get (hj : Journaled D s xs m J) {create : Bool} {o : Option ℕ}
    {q : LinkedList DataHour} {p : δ}
    (hget : (datahourGet T n true create).run s = .ok o { s with dataQueue := q, platform := p })
    (hc : ({ s with dataQueue := q, platform := p } : Globals δ).CacheHolds T ys) :
    Journaled D { s with dataQueue := q, platform := p } ys m J ∧
      (∀ a, o = some a → ∃ h, (a, h) ∈ ys ∧ h.hourId = n) ∧ (o = none → create = false) := by
  have hleft : LookupLeft T s xs n true create o p ys := datahourGet_left hj.couples.cache hget hc
  cases hleft with
  | hit pre x post split id newest perm =>
    subst split
    have hcouples := hj.couples.rotate (q := q) hc
    refine ⟨hj.moved hcouples (fun _ => Or.inl rfl) (fun y hy => Or.inl (perm.mem_iff.mp hy)),
      ?_, by simp⟩
    rintro a ha
    obtain rfl := Option.some.inj ha
    exact ⟨x.2, List.mem_cons_self, id⟩
  | absent miss nothing =>
    have hloaded := hj.couples.loaded n true
    have hcouples : Couples D { s with dataQueue := q, platform := afterLoad T n true s.platform }
        xs m := ⟨hc, hloaded.ids, hloaded.files, hloaded.agrees⟩
    refine ⟨hj.moved hcouples (fun k => Or.inl ?_) (fun y hy => Or.inl hy), by simp, fun _ => ?_⟩
    · exact congrFun (afterLoad_files D n true s.platform) k
    · cases create with
      | false => rfl
      | true =>
        exfalso
        cases hf : D.files s.platform n with
        | none =>
          rw [fetched_missing hf] at nothing
          cases nothing
        | some b =>
          obtain ⟨hour, hwf, -, rfl⟩ := hj.couples.files n b hf
          rw [fetched_saved hwf hf] at nothing
          cases nothing
  | added miss hour node p ys fresh new sub room =>
    obtain ⟨hcouples, hid⟩ := hj.couples.add miss new hc room
    have hafter := afterLoad_files D n true s.platform
    refine ⟨hj.moved hcouples (fun k => ?_) (fun y hy => ?_), ?_, by simp⟩
    · rcases room with ⟨rfl, rfl⟩ | ⟨x, rfl, rfl⟩
      · exact Or.inl (congrFun hafter k)
      · by_cases hk : x.2.hourId = k
        · refine Or.inr ⟨x, List.mem_cons_self, hk, ?_⟩
          rw [← hk]
          exact (congrFun (D.save_files _ _ _) _).trans (Function.update_self _ _ _)
        · left
          refine (congrFun (D.save_files _ _ _) k).trans ?_
          rw [Function.update_of_ne (Ne.symm hk), hafter]
    · rcases List.mem_append.mp hy with hy | hy
      · exact Or.inl (sub.subset hy)
      · right
        rw [List.mem_singleton.mp hy, hid]
        exact miss
    · rintro a ha
      obtain rfl := Option.some.inj ha
      exact ⟨hour, by simp, hid⟩

/-- What is written to a cached hour is added to its journal. -/
lemma Journaled.write (hj : Journaled D s (pre ++ (a, h) :: post) m J) {m' : RefStore}
    {h' : DataHour} {j : Journal (UInt16 × UInt32) Sample}
    (hc : Couples D t (pre ++ (a, h') :: post) m') (hp : t.platform = s.platform)
    (hid : h'.hourId = h.hourId) (hothers : ∀ k, k ≠ h.hourId → m'.reading k = m.reading k)
    (hread : m'.reading h.hourId = j.read)
    (hbacks : j.Backs (fileReading T s.platform h.hourId))
    (hclean : h'.Clean → fileReading T s.platform h.hourId = j.read) :
    Journaled D t (pre ++ (a, h') :: post) m' (Function.update J h.hourId j) where
  couples := hc
  reads k := by
    by_cases hk : k = h.hourId
    · rw [hk, Function.update_self, hread]
    · rw [Function.update_of_ne hk, hothers k hk, hj.reads]
  backs k := by
    rw [hp]
    by_cases hk : k = h.hourId
    · rw [hk, Function.update_self]
      exact hbacks
    · rw [Function.update_of_ne hk]
      exact hj.backs k
  clean y hy hyclean := by
    rw [hp]
    by_cases hk : y.2.hourId = h.hourId
    · have hy' : y = (a, h') := by
        by_contra hne
        have hmem : y ∈ pre ++ post := by
          rcases List.mem_append.mp hy with hy | hy
          · exact List.mem_append_left _ hy
          · exact List.mem_append_right _ ((List.mem_cons.mp hy).resolve_left hne)
        exact hourId_others hj.couples.ids y hmem hk
      subst hy'
      rw [hid, Function.update_self]
      exact hclean hyclean
    · rw [Function.update_of_ne hk]
      refine hj.clean y ?_ hyclean
      rcases List.mem_append.mp hy with hy | hy
      · exact List.mem_append_left _ hy
      · rcases List.mem_cons.mp hy with rfl | hy
        · exact absurd hid hk
        · exact List.mem_append_right _ (List.mem_cons_of_mem _ hy)

/-- Or nothing is written. -/
lemma Journaled.keep (hj : Journaled D s (pre ++ (a, h) :: post) m J) {m' : RefStore}
    {h' : DataHour} (hc : Couples D t (pre ++ (a, h') :: post) m')
    (hp : t.platform = s.platform) (hid : h'.hourId = h.hourId)
    (hread : ∀ k, m'.reading k = m.reading k) (hclean : h'.Clean → h.Clean) :
    Journaled D t (pre ++ (a, h') :: post) m' J := by
  have hwrite := hj.write (j := J h.hourId) hc hp hid (fun k _ => hread k)
    ((hread _).trans (hj.reads _)) (hj.backs _)
    (fun hclean' => hj.clean (a, h) (by simp) (hclean hclean'))
  rwa [Function.update_eq_self] at hwrite

/-! ### The calls -/

variable {tx rx : List Queued} {es : List RoutingEntry}

/-- A log that succeeds leaves its hour modified. -/
lemma log_ok_unclean {cfg : Settings} {target : VariableInfo} {value : Sample}
    (hok : (h.log cfg target k value).1 = .ok) : ¬(h.log cfg target k value).2.Clean := by
  have hlogAt : ∀ {g : DataHour} {i}, (g.logAt i target k value).1 = .ok →
      ¬(g.logAt i target k value).2.Clean := by
    intro g i hg
    apply not_clean_of_flags
    unfold DataHour.logAt at hg ⊢
    split
    · rename_i hnone
      simp only [hnone] at hg
      cases hg
    · rename_i v hv
      simp only [hv] at hg
      split_ifs at hg ⊢
      rfl
  unfold DataHour.log at hok ⊢
  cases hv : getVariable h target.id with
  | some i =>
    simp only [hv] at hok
    exact hlogAt hok
  | none =>
    simp only [hv] at hok ⊢
    cases hadd : hourAddVariable cfg h target with
    | mk rv h' =>
      rw [hadd] at hok
      cases rv
      case ok => exact hlogAt hok
      all_goals cases hok

lemma Journaled.hourId (hj : Journaled D s (pre ++ (a, h) :: post) m J)
    (hsome : ∃ h', (a, h') ∈ pre ++ (a, h) :: post ∧ h'.hourId = n) : h.hourId = n := by
  obtain ⟨h', hmem, hid⟩ := hsome
  have hsame := List.inj_on_of_nodup_map hj.couples.cache.queue.ring.nodup hmem
    (y := (a, h)) (by simp) rfl
  rw [← hid, (Prod.mk.inj hsame).2]

lemma Journaled.log (hj : Journaled D s xs m J) (hn : NetworkHolds T s tx rx es)
    (target : VariableInfo) (n k : UInt32) (value : Sample) (time : UInt32) (announce : Bool) :
    ∃ rv u ys m' J' tx', (dataLog T target n k value time announce).run s = .ok rv u ∧
      Journaled D u ys m' J' ∧ NetworkHolds T u tx' rx es ∧
      Step J (PowerOp.event (.call (.log target n k value time announce), rv, none)) J' := by
  obtain ⟨ys, q, p, tq, ps, sent, hrun, hc', hn'⟩ :=
    dataLog_run hj.couples hn target n k value time announce
  rcases dataLog_hour hj.couples.cache hn target n k value time announce with
    ⟨q₁, p₁, zs, hget, hzs, -⟩ | ⟨a, pre, h, post, q₁, p₁, u, sent₁, hget, hc, hrun₁, hlogged⟩
  · have hfalse := (hj.get hget hzs).2.2 rfl
    cases hfalse
  obtain ⟨hj₁, hsome, -⟩ := hj.get hget hc
  obtain rfl := hj₁.hourId (hsome a rfl)
  obtain ⟨hrv, rfl⟩ := EStateM.Result.ok.inj (hrun.symm.trans hrun₁)
  obtain rfl := hc'.cache.cached_eq.symm.trans hlogged.cache.cached_eq
  obtain ⟨q₂, tq₂, ps₂, -, hframe⟩ := hlogged.frame
  have hplatform := congrArg Globals.platform hframe
  by_cases hok : (RefStore.log T.toSettings target h.hourId k value m).1 = .ok ∧ Measured value
  · have hothers : ∀ k', k' ≠ h.hourId →
        (RefStore.log T.toSettings target h.hourId k value m).2.reading k' = m.reading k' := by
      intro k' hk'
      funext slot
      rw [reading_log, if_neg (fun h => hk' h.2.1.symm)]
    have hread : (RefStore.log T.toSettings target h.hourId k value m).2.reading h.hourId =
        ((J h.hourId).write (target.id, k) value).read := by
      funext slot
      rw [reading_log, Journal.read, Journal.write, latest_snoc, hj.reads]
      simp only [hok, true_and]
      rfl
    have hwrite := hj₁.write hc' hplatform hlogged.hourId hothers hread ((hj₁.backs _).write _ _)
      (fun hclean => absurd hclean (log_ok_unclean (hrv ▸ hok.1)))
    refine ⟨_, _, _, _, _, _, hrun, hwrite, hn', ?_⟩
    rw [PowerOp.event, if_pos hok]
    exact .wrote _ _ _
  · have hsame : ∀ k', (RefStore.log T.toSettings target h.hourId k value m).2.reading k' =
        m.reading k' := by
      intro k'
      funext slot
      rw [reading_log, if_neg (fun h => hok h.1)]
    have hkeep := hj₁.keep hc' hplatform hlogged.hourId hsame
      (not_imp_not.mp (log_unclean (hc.wellFormed (a, h) (by simp))))
    refine ⟨_, _, _, _, J, _, hrun, hkeep, hn', ?_⟩
    rw [PowerOp.event, if_neg hok]
    exact .passed

lemma Journaled.getVal (hj : Journaled D s xs m J) (info : VariableInfo) (n k : UInt32) :
    ∃ out q p ys, (dataGetVal T info n k true false).run s =
        .ok out { s with dataQueue := q, platform := p } ∧
      Journaled D { s with dataQueue := q, platform := p } ys m J ∧
      measured out.2 = (J n).read (info.id, k) := by
  obtain ⟨zs, q, p, hrun, hc⟩ := dataGetVal_run hj.couples info n k
  obtain ⟨o, q', p', ys, r, hget, hcache, hrun'⟩ :=
    dataGetVal_cached hj.couples.cache info n k true false
  obtain ⟨rfl, -⟩ := EStateM.Result.ok.inj (hrun.symm.trans hrun')
  refine ⟨_, q', p', ys, hrun', (hj.get hget hcache).1, ?_⟩
  rw [← hj.reads, measured_getVal]

lemma Journaled.check (hj : Journaled D s xs m J) (info : VariableInfo) (n k : UInt32) :
    ∃ out q p ys m', (calculateDataCheck T info n k).run s =
        .ok out { s with dataQueue := q, platform := p } ∧
      Journaled D { s with dataQueue := q, platform := p } ys m' J := by
  obtain ⟨ys, q, p, hrun, hc⟩ := calculateDataCheck_run hj.couples info n k
  rcases calculateDataCheck_hour hj.couples.cache info n k with
    ⟨q₁, p₁, zs, hget, hzs, hrun₁⟩ | ⟨a, pre, h, post, q₁, p₁, q₂, hget, hzs, hrun₁, hcache⟩
  · exact ⟨_, q₁, p₁, zs, m, hrun₁, (hj.get hget hzs).1⟩
  · obtain ⟨hj₁, -, -⟩ := hj.get hget hzs
    rw [hrun₁] at hrun
    obtain ⟨-, hstate⟩ := EStateM.Result.ok.inj hrun
    rw [← hstate] at hc
    obtain rfl := hc.cache.cached_eq.symm.trans hcache.cached_eq
    obtain ⟨hid, hflags⟩ := check_kept h (isProvided T info) info k
    refine ⟨_, q₂, p₁, _, _, hrun₁, hj₁.keep hc rfl hid (fun k' => ?_) ?_⟩
    · funext slot
      exact reading_check k' slot
    · unfold DataHour.Clean
      rw [hflags]
      exact id

lemma Journaled.saveHour (hj : Journaled D s (pre ++ (a, h) :: post) m J) :
    ∃ q p h', (dataSaveHour T a).run s = .ok () { s with dataQueue := q, platform := p } ∧
      h'.Clean ∧
      Journaled D { s with dataQueue := q, platform := p } (pre ++ (a, h') :: post) m J := by
  obtain ⟨q₁, p₁, h₁, hrun₁, hc₁⟩ := dataSaveHour_run hj.couples
  rcases dataSaveHour_cases hj.couples.cache with
    ⟨hclean, hrun⟩ | ⟨-, rv, q, p, h', hsave, rfl, hrun, hcache⟩
  · exact ⟨s.dataQueue, s.platform, h, hrun, hclean, hj⟩
  rw [hrun] at hrun₁
  obtain ⟨-, hstate⟩ := EStateM.Result.ok.inj hrun₁
  rw [← hstate] at hc₁
  have hlist := hc₁.cache.cached_eq.symm.trans hcache.cached_eq
  rw [hlist] at hc₁
  have hrv : rv = .ok := (congrArg Prod.fst hsave).symm.trans (D.save_ok _ _ _)
  have hp : p = (T.hourSave h.hourId (hourBytes h.sealed) s.platform).2 :=
    (congrArg Prod.snd hsave).symm
  have hwf := hj.couples.cache.wellFormed (a, h) (by simp)
  have hself : D.files p h.hourId = some (hourBytes h.sealed) := by
    rw [hp, D.save_files, Function.update_self]
  have hj₁ : Journaled D { s with platform := p } (pre ++ (a, h) :: post) m J := by
    refine hj.moved (hp ▸ hj.couples.saved) (fun k => ?_) (fun y hy => Or.inl hy)
    by_cases hk : h.hourId = k
    · exact Or.inr ⟨(a, h), by simp, hk, hk ▸ hself⟩
    · left
      rw [hp, D.save_files, Function.update_of_ne (Ne.symm hk)]
  have hread : fileReading T p h.hourId = (J h.hourId).read := by
    rw [fileReading_saved hwf hself, ← hj.couples.reading_cached (x := (a, h)) (by simp), hj.reads]
  have hwrite := hj₁.write (t := { s with dataQueue := q, platform := p }) (j := J h.hourId) hc₁ rfl
    (by rw [if_pos hrv]; rfl) (fun _ _ => rfl) (hj.reads _) (hj₁.backs _) (fun _ => hread)
  rw [Function.update_eq_self] at hwrite
  refine ⟨q, p, _, hrun, ?_, hwrite⟩
  rw [if_pos hrv]
  exact (by decide : (0 : UInt8) &&& flagModified = 0)

/-- After `data_save` every file has all of its hour. -/
lemma Journaled.save (hj : Journaled D s xs m J) :
    ∃ q p ys, (dataSave T).run s = .ok () { s with dataQueue := q, platform := p } ∧
      Journaled D { s with dataQueue := q, platform := p } ys m (fun n => (J n).save) := by
  obtain ⟨ys, q, p, hrun, hj', hclean⟩ := dataSave_each (I := fun s xs => Journaled D s xs m J)
    (fun _ _ hj => hj.couples.cache) (fun _ _ _ _ _ hj => hj.saveHour) hj
  have hread : ∀ n, fileReading T p n = (J n).read := by
    intro n
    by_cases hcached : ∃ y ∈ ys, y.2.hourId = n
    · obtain ⟨y, hy, rfl⟩ := hcached
      exact hj'.clean y hy (hclean y hy)
    · have hmiss : ∀ y ∈ ys, y.2.hourId ≠ n := fun y hy hid => hcached ⟨y, hy, hid⟩
      rw [← hj'.reads, hj'.couples.reading_missed hmiss]
  refine ⟨q, p, ys, hrun, hj'.couples, hj'.reads, fun n => ?_, fun y _ _ => hread _⟩
  rw [hread]
  exact Journal.backs_save

/-- The variables of a file as a finite map. -/
def RefHour.ofVars (vars : List Variable) : RefHour :=
  vars.foldl (fun mh v => mh.insert v.info.id v) ∅

lemma RefHour.ofVars_agrees {vars : List Variable}
    (hd : (vars.map (fun v => v.info.id)).Nodup) : Agrees (RefHour.ofVars vars) vars := by
  induction vars using List.reverseRecOn with
  | nil => exact agrees_empty
  | append_singleton vars v ih =>
    rw [List.map_append, List.map_singleton] at hd
    have hnew : v.info.id ∉ vars.map (fun v => v.info.id) := fun hmem =>
      (List.nodup_append.mp hd).2.2 _ hmem _ (List.mem_singleton_self _) rfl
    rw [RefHour.ofVars, List.foldl_append]
    exact (ih (List.nodup_append.mp hd).1).append hnew

/-- After a restart, every hour is as some cut of its journal says. -/
lemma Journaled.restart (hj : Journaled D s xs m J) :
    ∃ (m' : RefStore) (k : UInt32 → ℕ),
      Journaled D (zejfInit T s.platform) [] m' (fun n => (J n).cut (k n)) := by
  have hbacks := fun n => (hj.backs n).cut
  choose k hread hcut using hbacks
  have hcouples : Couples D (zejfInit T s.platform) []
      (fun n => RefHour.ofVars (localVars T [] s.platform n)) := by
    refine ⟨.empty rfl, List.nodup_nil, hj.couples.files, fun n => RefHour.ofVars_agrees ?_⟩
    rw [localVars_missed (by simp)]
    cases hf : D.files s.platform n with
    | none =>
      rw [fetched_missing hf]
      exact List.nodup_nil
    | some b =>
      obtain ⟨hour, hwf, -, rfl⟩ := hj.couples.files n b hf
      rw [fetched_saved hwf hf]
      exact hwf.ids_nodup
  refine ⟨_, k, hcouples, fun n => ?_, hcut, by simp⟩
  rw [hcouples.reading_missed (by simp)]
  exact hread n

end Journaled

section Powered

variable {D : FaithfulStorage T} {s : Globals δ} {J : UInt32 → Journal (UInt16 × UInt32) Sample}

/-- A device in order, with its hours told by the journals. -/
def Powered (D : FaithfulStorage T) (s : Globals δ)
    (J : UInt32 → Journal (UInt16 × UInt32) Sample) : Prop :=
  ∃ xs m tx rx es, Journaled D s xs m J ∧ NetworkHolds T s tx rx es

lemma PowerOp.run_journaled (hp : Powered D s J) (op : PowerOp) :
    ∃ out u J', (op.run T).run s = .ok out u ∧ Powered D u J' ∧
      Step J (PowerOp.event (op, out)) J' := by
  obtain ⟨xs, m, tx, rx, es, hj, hn⟩ := hp
  cases op with
  | restart =>
    obtain ⟨m', k, hj'⟩ := hj.restart
    exact ⟨_, _, _, rfl, ⟨[], m', [], [], [], hj', NetworkHolds.initial _ _⟩, .restarted k⟩
  | call op =>
    cases op with
    | log target n k value time announce =>
      obtain ⟨rv, u, ys, m', J', tx', hrun, hj', hn', hstep⟩ :=
        hj.log hn target n k value time announce
      refine ⟨_, u, J', ?_, ⟨ys, m', tx', rx, es, hj', hn'⟩, hstep⟩
      rw [PowerOp.run, DataOp.run, run_bind_ok hrun]
      rfl
    | getVal info n k =>
      obtain ⟨out, q, p, ys, hrun, hj', -⟩ := hj.getVal info n k
      exact ⟨out, _, J, hrun, ⟨ys, m, tx, rx, es, hj', hn.data q p⟩, .passed⟩
    | check info n k =>
      obtain ⟨out, q, p, ys, m', hrun, hj'⟩ := hj.check info n k
      exact ⟨out, _, J, hrun, ⟨ys, m', tx, rx, es, hj', hn.data q p⟩, .passed⟩
    | save =>
      obtain ⟨q, p, ys, hrun, hj'⟩ := hj.save
      refine ⟨(.ok, none), _, _, ?_, ⟨ys, m, tx, rx, es, hj', hn.data q p⟩, .saved⟩
      rw [PowerOp.run, DataOp.run, run_bind_ok hrun]
      rfl

/-- What has happened to the hours in a run. -/
def powerEvents (ops : List PowerOp) (outs : List DataOut) :
    List (Event UInt32 (UInt16 × UInt32) Sample) :=
  (ops.zip outs).map PowerOp.event

lemma PowerOp.runAll_journaled (ops : List PowerOp)
    {es : List (Event UInt32 (UInt16 × UInt32) Sample)}
    (hp : Powered D s J) (hreach : Reaches es J) :
    ∃ outs u J', (runAll (PowerOp.run T) ops).run s = .ok outs u ∧ outs.length = ops.length ∧
      Powered D u J' ∧ Reaches (es ++ powerEvents ops outs) J' := by
  induction ops generalizing s J es with
  | nil =>
    refine ⟨[], s, J, rfl, rfl, hp, ?_⟩
    rw [powerEvents, List.zip_nil_left, List.map_nil, List.append_nil]
    exact hreach
  | cons op ops ih =>
    obtain ⟨out, u, J₁, hrun, hp₁, hstep⟩ := op.run_journaled hp
    obtain ⟨outs, w, J₂, hrest, hlen, hp₂, hreach₂⟩ := ih hp₁ (hreach.snoc hstep)
    refine ⟨out :: outs, w, J₂, ?_, by rw [List.length_cons, hlen, List.length_cons], hp₂, ?_⟩
    · rw [runAll, run_bind_ok hrun, run_bind_ok hrest]
      rfl
    · rw [List.append_assoc] at hreach₂
      exact hreach₂

end Powered

/-- **Restarts.** A device logs, reads, counts and saves samples, and loses power at any times.
It never fails, and what it then reads in a slot is a value that has been acknowledged for it.
Later ones may only have been undone by a restart with no `data_save` between it and them. Of two
samples of an hour that were logged without a restart between them, the first one is not lost
unless the second one is. -/
theorem restarts_lose_unsaved (D : FaithfulStorage T) {s : Globals δ} {tx rx : List Queued}
    {es : List RoutingEntry} (hqueue : s.dataQueue = listCreate DataHour T.hourBufferSize)
    (hfiles : ∀ n, D.files s.platform n = none) (hnetwork : NetworkHolds T s tx rx es)
    (ops : List PowerOp) :
    ∃ outs u, ∃ slots : UInt32 → UInt16 × UInt32 → Option Sample,
      (runAll (PowerOp.run T) ops).run s = .ok outs u ∧ outs.length = ops.length ∧
      (∀ info n k, ∃ out v, (dataGetVal T info n k true false).run u = .ok out v ∧
        measured out.2 = slots n (info.id, k)) ∧
      ∀ n, (∀ slot, Explains (powerEvents ops outs) n slot (slots n slot)) ∧
        KeepsOrder (powerEvents ops outs) n (slots n) := by
  have hcouples := Couples.initial D hqueue hfiles
  have hempty : ∀ n, fileReading T s.platform n = fun _ => none := by
    intro n
    funext slot
    rw [fileReading, fetched_missing (hfiles n)]
    rfl
  have hj : Journaled D s [] RefStore.empty (fun _ => .start) := by
    refine ⟨hcouples, fun n => ?_, fun n => ?_, by simp⟩
    · rw [hcouples.reading_missed (by simp), hempty, Journal.start_read]
    · rw [hempty, ← Journal.start_read]
      exact Journal.backs_read _
  obtain ⟨outs, u, J, hrun, hlen, ⟨xs, m, tx', rx', es', hj', -⟩, hreach⟩ :=
    PowerOp.runAll_journaled ops ⟨[], _, tx, rx, es, hj, hnetwork⟩ .start
  rw [List.nil_append] at hreach
  refine ⟨outs, u, fun n => (J n).read, hrun, hlen, ?_,
    fun n => ⟨hreach.explains n, hreach.keepsOrder n⟩⟩
  intro info n k
  obtain ⟨out, q, p, ys, hget, -, hread⟩ := hj'.getVal info n k
  exact ⟨out, _, hget, hread⟩

/-- Two samples of an hour, the second of them after the last save. -/
def unsavedSample : List PowerOp :=
  [.call (.log ⟨4, 7⟩ 1 0 5 0 false), .call .save, .call (.log ⟨4, 7⟩ 1 1 6 0 false), .restart,
    .call (.getVal ⟨4, 7⟩ 1 0)]

theorem restart_loses_unsaved : ∃ outs u, ∃ slots : UInt32 → UInt16 × UInt32 → Option Sample,
    (runAll (PowerOp.run (Target.disk Settings.zejfPress)) unsavedSample).run
        (zejfInit (Target.disk Settings.zejfPress) (fun _ => none)) = .ok outs u ∧
      outs.length = unsavedSample.length ∧
      (∀ info n k, ∃ out v,
        (dataGetVal (Target.disk Settings.zejfPress) info n k true false).run u = .ok out v ∧
          measured out.2 = slots n (info.id, k)) ∧
      ∀ n, (∀ slot, Explains (powerEvents unsavedSample outs) n slot (slots n slot)) ∧
        KeepsOrder (powerEvents unsavedSample outs) n (slots n) :=
  restarts_lose_unsaved (FaithfulStorage.disk Settings.zejfPress) rfl (fun _ => rfl)
    (NetworkHolds.initial _ _) unsavedSample

end ZejfMeteo
