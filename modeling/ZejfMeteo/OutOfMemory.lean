import ZejfMeteo.Hour
import ZejfMeteo.Announcements
import ZejfMeteo.Lib.Arrays

/-!
# Running out of memory

`hour_add_variable` and the two functions that add a variable to a routing entry, over arrays in
memory that may run out. As long as it does not, they do what the other modules say.
-/

namespace ZejfMeteo.Memory
open Runs

/-- A variable in the array of an hour, with a pointer to its samples. -/
structure VariableCell where
  info : VariableInfo
  data : ℕ

/-- The memory of an hour. -/
structure Hour where
  vars : CountedArray VariableCell
  samples : Blocks Sample

namespace Hour

def varsLens : Lens Hour (CountedArray VariableCell) where
  get := vars
  set c h := { h with vars := c }
  get_set _ _ := rfl
  set_get _ := rfl
  set_set _ _ _ := rfl

def blocksLens : Lens Hour (Blocks VariableCell) where
  get h := h.vars.blocks
  set b h := { h with vars := { h.vars with blocks := b } }
  get_set _ _ := rfl
  set_get _ := rfl
  set_set _ _ _ := rfl

def samplesLens : Lens Hour (Blocks Sample) where
  get := samples
  set b h := { h with samples := b }
  get_set _ _ := rfl
  set_get _ := rfl
  set_set _ _ _ := rfl

end Hour

/-- What `hour_add_variable` does once the variable may be added. The array is made larger
first; if there is no memory for the samples, it is freed. -/
def hourAppend (info : VariableInfo) (count : UInt16) (answer : Realloc) (granted : Bool) :
    Run Hour ZejfErr := do
  match ← zoom Hour.varsLens (CountedArray.realloc (count.toNat + 1) answer) with
  | none => return .outOfMemory
  | some ptr =>
    match ← zoom Hour.samplesLens (Blocks.malloc info.samplesPerHour.toNat granted) with
    | none =>
      zoom Hour.blocksLens (Heap.free ptr)
      return .outOfMemory
    | some data =>
      zoom Hour.samplesLens (Blocks.fill data valueEmpty info.samplesPerHour.toNat)
      zoom Hour.blocksLens (Blocks.store ptr count.toNat ⟨info, data⟩)
      modify (fun h => { h with vars := { h.vars with
        array := some ptr
        count := count + 1 } })
      return .ok

/-- `answer` is what `realloc` gets, `granted` whether `malloc` gets something. -/
def hourAddVariable (cfg : Settings) (info : VariableInfo) (answer : Realloc) (granted : Bool) :
    Run Hour ZejfErr := do
  if info.samplesPerHour = 0 ∨ cfg.sampleRateMax < info.samplesPerHour.toNat then
    return .invalidSampleRate
  let h ← get
  if h.vars.count.toNat = cfg.variablesMax then
    return .variablesMax
  if ← zoom Hour.varsLens (CountedArray.any (fun v => v.info.id == info.id)) then
    return .variableAlreadyExists
  hourAppend info h.vars.count answer granted

structure Entry where
  provided : CountedArray VariableInfo
  demanded : CountedArray UInt16

namespace Entry

def providedLens : Lens Entry (CountedArray VariableInfo) where
  get := provided
  set c e := { e with provided := c }
  get_set _ _ := rfl
  set_get _ := rfl
  set_set _ _ _ := rfl

def demandedLens : Lens Entry (CountedArray UInt16) where
  get := demanded
  set c e := { e with demanded := c }
  get_set _ _ := rfl
  set_get _ := rfl
  set_set _ _ _ := rfl

end Entry

/-- The count goes up before the memory is asked for; the new element goes to the last place
that it counts. -/
def entryAdd {α : Type} (known : α → Bool) (new : α) (answer : Realloc) :
    Run (CountedArray α) ZejfErr := do
  if ← CountedArray.any known then
    return .generic
  modify (fun c => { c with count := c.count + 1 })
  match ← CountedArray.realloc (← get).count.toNat answer with
  | none => return .outOfMemory
  | some ptr =>
    modify (fun c => { c with array := some ptr })
    let count := (← get).count
    if count = 0 then
      throw .outOfBounds
    zoom CountedArray.blocksLens (Blocks.store ptr (count.toNat - 1) new)
    return .ok

def routingEntryAddProvidedVariable (providedVariable : VariableInfo) (answer : Realloc) :
    Run Entry ZejfErr :=
  zoom Entry.providedLens
    (entryAdd (fun v => v.id == providedVariable.id) providedVariable answer)

def routingEntryAddDemandedVariable (demandedVariable : UInt16) (answer : Realloc) :
    Run Entry ZejfErr :=
  zoom Entry.demandedLens (entryAdd (fun v => v == demandedVariable) demandedVariable answer)

/-- The cell of a variable, and its samples where the cell points to. -/
structure VariableCell.Holds (c : VariableCell) (samples : Blocks Sample) (v : Variable) : Prop where
  info : c.info = v.info
  data : samples.cells c.data = some (v.data.map some)

/-- The arrays hold the variables of an hour. -/
structure Hour.Holds (h : Hour) (vars : List Variable) : Prop where
  cells : ∃ cs, h.vars.Holds cs ∧ List.Forall₂ (fun c v => c.Holds h.samples v) cs vars

structure Hour.Intact (h h' : Hour) : Prop where
  count : h'.vars.count = h.vars.count
  array : h'.vars.array = h.vars.array
  holds : ∀ vars, h.Holds vars → h'.Holds vars

structure Entry.Holds (e : Entry) (provided : List VariableInfo) (demanded : List UInt16) : Prop where
  provided : e.provided.Holds provided
  demanded : e.demanded.Holds demanded

structure Entry.Intact (e e' : Entry) : Prop where
  provided : e.provided.Intact e'.provided
  demanded : e.demanded.Intact e'.demanded

section Entries

variable {α : Type} {c c' : CountedArray α} {xs : List α} {known : α → Bool} {new : α}
  {answer : Realloc} {rv : ZejfErr}

lemma entryAdd_known (h : c.Holds xs) (hknown : xs.any known = true) :
    (entryAdd known new answer).run c = .ok .generic c := by
  rw [entryAdd, run_bind_ok (CountedArray.any_run h), if_pos hknown]
  rfl

/-- An error is about an element that is known already, or leaves another count behind. -/
lemma entryAdd_intact_iff (h : c.Holds xs) (hrun : (entryAdd known new answer).run c = .ok rv c')
    (hrv : rv ≠ .ok) : c.Intact c' ↔ xs.any known = true := by
  by_cases hknown : xs.any known = true
  · obtain ⟨-, rfl⟩ := EStateM.Result.ok.inj (hrun.symm.trans (entryAdd_known h hknown))
    exact iff_of_true (.refl _) hknown
  refine iff_of_false (fun hintact => ?_) hknown
  have hcount : c'.count = c.count + 1 := by
    rw [entryAdd, run_bind_ok (CountedArray.any_run h), if_neg hknown,
      run_bind_ok (EStateM.run_modify _ _), run_bind_ok (EStateM.run_get _)] at hrun
    obtain ⟨ptr, d, hrealloc, hrun⟩ := run_bind_inv hrun
    obtain ⟨hcount, -⟩ := CountedArray.realloc_frame hrealloc
    cases ptr with
    | none =>
      obtain ⟨-, rfl⟩ := EStateM.Result.ok.inj hrun
      exact hcount
    | some ptr =>
      dsimp only at hrun
      rw [run_bind_ok (EStateM.run_modify _ _), run_bind_ok (EStateM.run_get _)] at hrun
      split at hrun
      · cases hrun
      · obtain ⟨u, w, -, hrun⟩ := run_bind_inv hrun
        exact absurd (EStateM.Result.ok.inj hrun).1.symm hrv
  have hone : (1 : UInt16).toNat = 1 := rfl
  have hlt := c.count.toNat_lt
  have hsame := congrArg UInt16.toNat (hcount.symm.trans hintact.count)
  rw [UInt16.toNat_add, hone] at hsame
  omega

/-- With enough memory the element is added, as long as the count can count it. -/
lemma entryAdd_new (h : c.Holds xs) (new : α) (hknown : xs.any known = false) (hanswer : answer ≠ .fails)
    (hcount : c.count + 1 ≠ 0) : ∃ c', (entryAdd known new answer).run c = .ok .ok c' ∧
      c'.count = c.count + 1 ∧ c'.Holds (xs ++ [new]) := by
  have hone : (1 : UInt16).toNat = 1 := rfl
  have hnext : (c.count + 1).toNat = xs.length + 1 := by
    have hlt := c.count.toNat_lt
    have hne : (c.count + 1).toNat ≠ 0 := fun he => hcount (UInt16.toNat_inj.mp he)
    rw [UInt16.toNat_add, hone, h.count] at hne ⊢
    rw [h.count] at hlt
    omega
  have hstores : CountedArray.Stores { c with count := c.count + 1 } xs := h.stores
  obtain ⟨a, blocks, hrealloc, hcell, -⟩ := CountedArray.realloc_succ hstores hanswer
  obtain ⟨blocks', hstore, hcell'⟩ := CountedArray.store_last hcell new
  have hzoom : (zoom CountedArray.blocksLens (Blocks.store a xs.length new)).run
      { c with count := c.count + 1, array := some a, blocks } =
      .ok () { c with count := c.count + 1, array := some a, blocks := blocks' } :=
    run_zoom_ok (l := CountedArray.blocksLens) hstore
  refine ⟨{ c with count := c.count + 1, array := some a, blocks := blocks' }, ?_, rfl, ?_, hcell'⟩
  · rw [entryAdd, run_bind_ok (CountedArray.any_run h), if_neg (by simp [hknown]),
      run_bind_ok (EStateM.run_modify _ _), run_bind_ok (EStateM.run_get _)]
    dsimp only
    rw [hnext, run_bind_ok hrealloc]
    dsimp only
    rw [run_bind_ok (EStateM.run_modify _ _), run_bind_ok (EStateM.run_get _)]
    dsimp only
    rw [if_neg hcount, hnext, Nat.add_sub_cancel, run_bind_ok hzoom]
    rfl
  · rw [List.length_append, List.length_singleton]
    exact hnext

end Entries

section Hours

variable {cfg : Settings} {h h' : Hour} {hour : DataHour} {info : VariableInfo} {answer : Realloc}
  {granted : Bool} {rv : ZejfErr}

lemma Hour.Holds.count (hh : h.Holds hour.vars) :
    h.vars.count.toNat = hour.variableCount.toNat := by
  obtain ⟨cs, hcs, hall⟩ := hh.cells
  have hlt := h.vars.count.toNat_lt
  have hlength := hall.length_eq
  rw [hcs.count, hlength] at hlt ⊢
  rw [DataHour.variableCount, UInt16.toNat_ofNat_of_lt' hlt]

lemma any_id {cs : List VariableCell} {samples : Blocks Sample} {vars : List Variable}
    (hall : List.Forall₂ (fun c v => c.Holds samples v) cs vars) (id : UInt16) :
    cs.any (fun v => v.info.id == id) = vars.any (fun v => v.info.id == id) := by
  induction hall with
  | nil => rfl
  | cons hc hall ih => rw [List.any_cons, List.any_cons, ih, hc.info]

/-- What the hour is asked first comes out as in an hour whose memory is not looked at. -/
lemma hourAddVariable_run (hh : h.Holds hour.vars) :
    (hourAddVariable cfg info answer granted).run h =
      (if (ZejfMeteo.hourAddVariable cfg hour info).1 = .ok then
        hourAppend info h.vars.count answer granted
      else return (ZejfMeteo.hourAddVariable cfg hour info).1 : Run Hour ZejfErr).run h := by
  obtain ⟨cs, hcs, hall⟩ := hh.cells
  have hany : (zoom Hour.varsLens (CountedArray.any (fun v => v.info.id == info.id))).run h =
      .ok (hour.vars.any (fun v => v.info.id == info.id)) h := by
    rw [← any_id hall]
    exact run_zoom_ok (l := Hour.varsLens) (CountedArray.any_run hcs)
  have hne : ∀ rv ≠ ZejfErr.ok, (if rv = .ok then hourAppend info h.vars.count answer granted
      else return rv : Run Hour ZejfErr) = return rv := fun rv hrv => if_neg hrv
  rw [hourAddVariable, ZejfMeteo.hourAddVariable]
  by_cases hrate : info.samplesPerHour = 0 ∨ cfg.sampleRateMax < info.samplesPerHour.toNat
  · rw [if_pos hrate, if_pos hrate, hne _ (by simp)]
  rw [if_neg hrate, if_neg hrate, run_bind_ok (EStateM.run_get h), hh.count]
  by_cases hcount : hour.variableCount.toNat = cfg.variablesMax
  · rw [if_pos hcount, if_pos hcount, hne _ (by simp)]
  rw [if_neg hcount, if_neg hcount, run_bind_ok hany]
  by_cases hid : hour.vars.any (fun v => v.info.id == info.id) = true
  · rw [if_pos hid, if_pos hid, hne _ (by simp)]
  · rw [if_neg hid, if_neg hid, if_pos rfl]

lemma hourAppend_fails (h : Hour) :
    (hourAppend info h.vars.count .fails granted).run h = .ok .outOfMemory h := by
  have hrealloc : (zoom Hour.varsLens (CountedArray.realloc (h.vars.count.toNat + 1) .fails)).run h =
      .ok none h :=
    run_zoom_ok (l := Hour.varsLens) (CountedArray.realloc_fails h.vars (Nat.succ_ne_zero _))
  rw [hourAppend, run_bind_ok hrealloc]
  rfl

/-- The new array is freed, but the hour goes on pointing to the old one, which is the same or has
been freed when the array moved. -/
lemma hourAppend_denied (hh : h.Holds hour.vars) (info : VariableInfo) (hanswer : answer ≠ .fails) :
    ∃ blocks,
    (hourAppend info h.vars.count answer false).run h =
      .ok .outOfMemory { h with vars := { h.vars with blocks } } ∧
      ∀ a, h.vars.array = some a → blocks.cells a = none := by
  obtain ⟨cs, hcs, hall⟩ := hh.cells
  obtain ⟨a, blocks, hrealloc, hcell, hold⟩ := CountedArray.realloc_succ hcs.stores hanswer
  have hzoom : (zoom Hour.varsLens (CountedArray.realloc (h.vars.count.toNat + 1) answer)).run h =
      .ok (some a) { h with vars := { h.vars with blocks } } := by
    rw [hcs.count]
    exact run_zoom_ok (l := Hour.varsLens) hrealloc
  have hfree : (zoom Hour.blocksLens (Heap.free a)).run { h with vars := { h.vars with blocks } } =
      .ok () { h with vars := { h.vars with blocks := blocks.erase a } } :=
    run_zoom_ok (l := Hour.blocksLens) (Heap.free_run (Option.isSome_of_eq_some hcell))
  have hmalloc : (zoom Hour.samplesLens (Blocks.malloc info.samplesPerHour.toNat false)).run
      { h with vars := { h.vars with blocks } } =
        .ok none { h with vars := { h.vars with blocks } } :=
    run_zoom_ok (l := Hour.samplesLens) rfl
  refine ⟨blocks.erase a, ?_, ?_⟩
  · rw [hourAppend, run_bind_ok hzoom]
    dsimp only
    rw [run_bind_ok hmalloc]
    dsimp only
    rw [run_bind_ok hfree]
    rfl
  · intro old ha
    rw [Heap.erase_cells]
    split
    · rfl
    · exact (hold old ha).resolve_left ‹_›

/-- With enough memory the hour has one more variable, whose samples are empty. -/
lemma hourAppend_granted (hh : h.Holds hour.vars) (info : VariableInfo) (hanswer : answer ≠ .fails) :
    ∃ h', (hourAppend info h.vars.count answer true).run h = .ok .ok h' ∧
      (hour.vars.length + 1 < 2 ^ 16 → h'.Holds (hour.vars ++ [Variable.create info])) := by
  obtain ⟨cs, hcs, hall⟩ := hh.cells
  obtain ⟨a, blocks, hrealloc, hcell, -⟩ := CountedArray.realloc_succ hcs.stores hanswer
  have hzoom : (zoom Hour.varsLens (CountedArray.realloc (h.vars.count.toNat + 1) answer)).run h =
      .ok (some a) { h with vars := { h.vars with blocks } } := by
    rw [hcs.count]
    exact run_zoom_ok (l := Hour.varsLens) hrealloc
  let n := info.samplesPerHour.toNat
  let data := h.samples.next
  have hmalloc : (zoom Hour.samplesLens (Blocks.malloc n true)).run
      { h with vars := { h.vars with blocks } } = .ok (some data)
        { vars := { h.vars with blocks }, samples := h.samples.push (List.replicate n none) } :=
    run_zoom_ok (l := Hour.samplesLens) rfl
  have hnew : (h.samples.push (List.replicate n none)).cells data = some (List.replicate n none) :=
    (Heap.push_cells _ _ _).trans (if_pos rfl)
  obtain ⟨samples, hfill, hdata, hothers, -⟩ :=
    Blocks.fill_run (v := valueEmpty) hnew (n := n) (List.length_replicate).ge
  have hfilled : (zoom Hour.samplesLens (Blocks.fill data valueEmpty n)).run
      { vars := { h.vars with blocks }, samples := h.samples.push (List.replicate n none) } =
        .ok () { vars := { h.vars with blocks }, samples } :=
    run_zoom_ok (l := Hour.samplesLens) hfill
  obtain ⟨blocks', hstore, hcell'⟩ := CountedArray.store_last hcell ⟨info, data⟩
  have hstored : (zoom Hour.blocksLens (Blocks.store a h.vars.count.toNat ⟨info, data⟩)).run
      { vars := { h.vars with blocks }, samples } =
        .ok () { vars := { h.vars with blocks := blocks' }, samples } := by
    rw [hcs.count]
    exact run_zoom_ok (l := Hour.blocksLens) hstore
  refine ⟨{ vars := ⟨h.vars.count + 1, some a, blocks'⟩, samples }, ?_, fun hlt => ?_⟩
  · rw [hourAppend, run_bind_ok hzoom]
    dsimp only
    rw [run_bind_ok hmalloc]
    dsimp only
    rw [run_bind_ok hfilled, run_bind_ok hstored]
    rfl
  · have hone : (1 : UInt16).toNat = 1 := rfl
    have hlength := hall.length_eq
    refine ⟨cs ++ [(⟨info, data⟩ : VariableCell)], ⟨?_, hcell'⟩, List.rel_append ?_ ?_⟩
    · rw [UInt16.toNat_add, hone, hcs.count, List.length_append, List.length_singleton]
      omega
    · refine hall.imp (fun c v hc => ⟨hc.info, ?_⟩)
      have hne := h.samples.ne_next (Option.isSome_of_eq_some hc.data)
      rw [hothers _ hne, Heap.push_cells, if_neg hne]
      exact hc.data
    · refine .cons ⟨rfl, hdata.trans ?_⟩ .nil
      simp [Variable.create, n]

lemma hourAddVariable_intact_iff (hh : h.Holds hour.vars)
    (hrun : (hourAddVariable cfg info answer granted).run h = .ok rv h') (hrv : rv ≠ .ok) :
    h.Intact h' ↔ ¬((ZejfMeteo.hourAddVariable cfg hour info).1 = .ok ∧ h.vars.array.isSome ∧
      answer ≠ .fails ∧ granted = false) := by
  rw [hourAddVariable_run hh] at hrun
  have hrefl : h.Intact h := ⟨rfl, rfl, fun _ h => h⟩
  split at hrun
  · rename_i htaken
    by_cases hanswer : answer = .fails
    · rw [hanswer, hourAppend_fails] at hrun
      obtain ⟨-, rfl⟩ := EStateM.Result.ok.inj hrun
      exact iff_of_true hrefl (fun hlost => hlost.2.2.1 hanswer)
    cases granted with
    | true =>
      obtain ⟨h'', hok, -⟩ := hourAppend_granted hh info hanswer
      obtain ⟨rfl, -⟩ := EStateM.Result.ok.inj (hrun.symm.trans hok)
      exact absurd rfl hrv
    | false =>
      obtain ⟨blocks, hdenied, hold⟩ := hourAppend_denied hh info hanswer
      obtain ⟨-, rfl⟩ := EStateM.Result.ok.inj (hrun.symm.trans hdenied)
      cases ha : h.vars.array with
      | none =>
        refine iff_of_true ⟨rfl, rfl, ?_⟩ (by simp)
        rintro vars ⟨cs, hcs, hall⟩
        refine ⟨cs, ⟨hcs.count, ?_⟩, hall⟩
        rw [CountedArray.Stores, ha]
        exact hcs.stores.none ha
      | some a =>
        refine iff_of_false (fun hintact => ?_) (not_not.mpr ⟨htaken, rfl, hanswer, rfl⟩)
        obtain ⟨cs, hcs, -⟩ := (hintact.holds _ hh).cells
        have hlive := hcs.stores.some ha
        rw [hold a ha] at hlive
        cases hlive
  · rename_i hrefused
    obtain ⟨-, rfl⟩ := EStateM.Result.ok.inj hrun
    exact iff_of_true hrefl (fun hlost => hrefused hlost.1)

end Hours

section Refinement

variable {cfg : Settings} {info : VariableInfo} {answer : Realloc}

/-- An hour in memory does what an hour does. -/
theorem hourAddVariable_refines {h : Hour} {hour : DataHour} (hwf : hour.WellFormed cfg)
    (hh : h.Holds hour.vars) (hanswer : answer ≠ .fails) :
    ∃ h', (hourAddVariable cfg info answer true).run h =
        .ok (ZejfMeteo.hourAddVariable cfg hour info).1 h' ∧
      h'.Holds (ZejfMeteo.hourAddVariable cfg hour info).2.vars := by
  rw [hourAddVariable_run hh]
  by_cases htaken : (ZejfMeteo.hourAddVariable cfg hour info).1 = .ok
  · have htaken' : ZejfMeteo.hourAddVariable cfg hour info =
        (.ok, (ZejfMeteo.hourAddVariable cfg hour info).2) := Prod.ext htaken rfl
    have hadd := hourAddVariable_addable hwf htaken'
    obtain ⟨h', hrun, hholds⟩ := hourAppend_granted hh info hanswer
    have hroom := hadd.room
    have hmax := cfg.variablesMax_lt
    rw [if_pos htaken, hrun, htaken, hourAddVariable_ok hwf hadd]
    exact ⟨h', rfl, hholds (by omega)⟩
  · have hsame : (ZejfMeteo.hourAddVariable cfg hour info).2 = hour :=
      hourAddVariable_refused htaken (Prod.ext rfl rfl)
    rw [if_neg htaken, hsame]
    exact ⟨h, rfl, hh⟩

variable {e : RoutingEntry} {m : Entry}

/-- An entry in memory does what an entry does. -/
theorem routingEntryAddProvidedVariable_refines (hm : m.Holds e.provided e.demanded)
    (hanswer : answer ≠ .fails) (hroom : e.provided.length + 1 < 2 ^ 16) :
    if e.provided.any (fun v => v.id == info.id) then
      (routingEntryAddProvidedVariable info answer).run m = .ok .generic m
    else ∃ m', (routingEntryAddProvidedVariable info answer).run m = .ok .ok m' ∧
      m'.Holds (e.provide info).provided (e.provide info).demanded := by
  split
  · exact run_zoom_ok (l := Entry.providedLens) (entryAdd_known hm.provided ‹_›)
  · obtain ⟨c, hrun, -, hc⟩ := entryAdd_new hm.provided info (Bool.eq_false_iff.mpr ‹_›)
      hanswer (hm.provided.next_ne_zero hroom)
    have hnext : (e.provide info).provided = e.provided ++ [info] :=
      take_counted e.provided_le hroom info
    exact ⟨_, run_zoom_ok (l := Entry.providedLens) hrun, hnext ▸ hc, hm.demanded⟩

theorem routingEntryAddDemandedVariable_refines {var : UInt16} (hm : m.Holds e.provided e.demanded)
    (hanswer : answer ≠ .fails) (hroom : e.demanded.length + 1 < 2 ^ 16) :
    if e.demanded.any (fun v => v == var) then
      (routingEntryAddDemandedVariable var answer).run m = .ok .generic m
    else ∃ m', (routingEntryAddDemandedVariable var answer).run m = .ok .ok m' ∧
      m'.Holds (e.demand var).provided (e.demand var).demanded := by
  split
  · exact run_zoom_ok (l := Entry.demandedLens) (entryAdd_known hm.demanded ‹_›)
  · obtain ⟨c, hrun, -, hc⟩ := entryAdd_new hm.demanded var (Bool.eq_false_iff.mpr ‹_›)
      hanswer (hm.demanded.next_ne_zero hroom)
    have hnext : (e.demand var).demanded = e.demanded ++ [var] :=
      take_counted e.demand_le hroom var
    exact ⟨_, run_zoom_ok (l := Entry.demandedLens) hrun, hm.provided, hnext ▸ hc⟩

end Refinement

/-- **An error leaves the memory intact exactly if it comes before anything is changed.** The
hour is lost when its array has been made larger and there is no memory for the samples; an entry
counts one more variable than it has unless the variable is known. -/
theorem errors_intact_iff (cfg : Settings) (answer : Realloc) (granted : Bool) {rv : ZejfErr}
    (hrv : rv ≠ .ok) :
    (∀ (hour : DataHour) h h' info, h.Holds hour.vars →
      (hourAddVariable cfg info answer granted).run h = .ok rv h' →
      (h.Intact h' ↔ ¬((ZejfMeteo.hourAddVariable cfg hour info).1 = .ok ∧
        h.vars.array.isSome ∧ answer ≠ .fails ∧ granted = false))) ∧
    (∀ (provided : List VariableInfo) demanded e e' info, e.Holds provided demanded →
      (routingEntryAddProvidedVariable info answer).run e = .ok rv e' →
      (e.Intact e' ↔ info.id ∈ provided.map VariableInfo.id)) ∧
    ∀ (provided : List VariableInfo) demanded e e' var, e.Holds provided demanded →
      (routingEntryAddDemandedVariable var answer).run e = .ok rv e' →
      (e.Intact e' ↔ var ∈ demanded) := by
  refine ⟨?_, ?_, ?_⟩
  · intro hour h h' info hh hrun
    exact hourAddVariable_intact_iff hh hrun hrv
  · intro provided demanded e e' info he hrun
    obtain ⟨c, hc, rfl⟩ := run_zoom_inv hrun
    have hmem : info.id ∈ provided.map VariableInfo.id ↔
        provided.any (fun v => v.id == info.id) = true := by simp
    rw [hmem, ← entryAdd_intact_iff he.provided hc hrv]
    exact ⟨fun h => h.provided, fun h => ⟨h, .refl _⟩⟩
  · intro provided demanded e e' var he hrun
    obtain ⟨c, hc, rfl⟩ := run_zoom_inv hrun
    have hmem : var ∈ demanded ↔ demanded.any (fun v => v == var) = true := by simp
    rw [hmem, ← entryAdd_intact_iff he.demanded hc hrv]
    exact ⟨fun h => h.demanded, fun h => ⟨.refl _, h⟩⟩

/-- The memory of an hour with one variable. -/
def oneVariable : Hour where
  vars := ⟨1, some 0, .ofList [[some ⟨⟨1, 7⟩, 0⟩]]⟩
  samples := .ofList [[some valueEmpty]]

lemma oneVariable_holds : oneVariable.Holds [Variable.create ⟨1, 7⟩] :=
  ⟨[⟨⟨1, 7⟩, 0⟩], ⟨rfl, rfl⟩, .cons ⟨rfl, rfl⟩ .nil⟩

/-- An entry that provides and demands what it is told of once more. -/
def knownVariable : Entry where
  provided := ⟨1, some 0, .ofList [[some ⟨1, 7⟩]]⟩
  demanded := ⟨1, some 0, .ofList [[some 7]]⟩

lemma knownVariable_holds : knownVariable.Holds [⟨1, 7⟩] [7] := ⟨⟨rfl, rfl⟩, ⟨rfl, rfl⟩⟩

/-- There is no memory for a second variable, and an entry needs none for what it knows. -/
theorem oneVariable_intact :
    (∃ h', (hourAddVariable Settings.zejfPress ⟨1, 8⟩ .fails true).run oneVariable =
        .ok .outOfMemory h' ∧ oneVariable.Intact h') ∧
    (∃ e', (routingEntryAddProvidedVariable ⟨1, 7⟩ .fails).run knownVariable =
        .ok .generic e' ∧ knownVariable.Intact e') ∧
    ∃ e', (routingEntryAddDemandedVariable 7 .fails).run knownVariable =
        .ok .generic e' ∧ knownVariable.Intact e' := by
  have hgeneric : ZejfErr.generic ≠ .ok := by decide
  obtain ⟨-, hprovided, hdemanded⟩ := errors_intact_iff Settings.zejfPress .fails true hgeneric
  refine ⟨?_, ?_, ?_⟩
  · let hour : DataHour := { hourCreate 0 with vars := [Variable.create ⟨1, 7⟩] }
    have hrun : (hourAddVariable Settings.zejfPress ⟨1, 8⟩ .fails true).run oneVariable =
        .ok .outOfMemory oneVariable := by
      have hheld : oneVariable.Holds hour.vars := oneVariable_holds
      rw [hourAddVariable_run hheld, if_pos (by decide)]
      exact hourAppend_fails oneVariable
    exact ⟨_, hrun, ((errors_intact_iff _ _ _ (by decide)).1 hour _ _ _ oneVariable_holds
      hrun).mpr (fun hlost => hlost.2.2.1 rfl)⟩
  · have hrun : (routingEntryAddProvidedVariable ⟨1, 7⟩ .fails).run knownVariable =
        .ok .generic knownVariable := rfl
    exact ⟨_, hrun, (hprovided _ _ _ _ _ knownVariable_holds hrun).mpr (by decide)⟩
  · have hrun : (routingEntryAddDemandedVariable 7 .fails).run knownVariable =
        .ok .generic knownVariable := rfl
    exact ⟨_, hrun, (hdemanded _ _ _ _ _ knownVariable_holds hrun).mpr (by decide)⟩

/-- There is no memory for the samples of a second variable, or none for one more demand. -/
theorem outOfMemory_not_intact :
    (∃ h', (hourAddVariable Settings.zejfPress ⟨1, 8⟩ .stays false).run oneVariable =
        .ok .outOfMemory h' ∧ ¬oneVariable.Intact h') ∧
      ∃ e', (routingEntryAddDemandedVariable 8 .fails).run ⟨⟨0, none, .empty⟩, ⟨0, none, .empty⟩⟩ =
        .ok .outOfMemory e' ∧ ¬Entry.Intact ⟨⟨0, none, .empty⟩, ⟨0, none, .empty⟩⟩ e' := by
  constructor
  · let hour : DataHour := { hourCreate 0 with vars := [Variable.create ⟨1, 7⟩] }
    have hheld : oneVariable.Holds hour.vars := oneVariable_holds
    obtain ⟨blocks, hrun, hlost⟩ := hourAppend_denied hheld ⟨1, 8⟩
      (by decide : Realloc.stays ≠ .fails)
    refine ⟨{ oneVariable with vars := { oneVariable.vars with blocks } }, ?_, fun hintact => ?_⟩
    · rw [hourAddVariable_run hheld, if_pos (by decide)]
      exact hrun
    · obtain ⟨cs, hcs, -⟩ := (hintact.holds _ oneVariable_holds).cells
      have hlive := hcs.stores.some rfl
      rw [hlost 0 rfl] at hlive
      cases hlive
  · refine ⟨⟨⟨0, none, .empty⟩, ⟨1, none, .empty⟩⟩, rfl, fun hintact => ?_⟩
    exact absurd hintact.demanded.count (by decide)

end ZejfMeteo.Memory
