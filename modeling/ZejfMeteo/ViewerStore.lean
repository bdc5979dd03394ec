import ZejfMeteo.ViewerHours
import ZejfMeteo.Lib.Heap
import ZejfMeteo.Lib.Trace

/-!
# The store of the viewer

`DataManager.java`: the hours that are loaded, a shortcut to the one used last, and the file of
each hour. Reading and writing files succeeds. An hour that has not been used for some time is
saved and dropped from the queue, but the shortcut may go on pointing to it.
-/

namespace ZejfMeteo.Viewer
open Runs

/-- `DATA_LOAD_TIME`. -/
def dataLoadTime : ℤ := 15 * 1000 * 60

/-- What is written of an hour: the fields that are not transient. -/
structure SavedHour where
  hourNumber : ℤ
  variablesRaw : List ((n : ℕ) × DataVariable n)
  variablesComputed : ℕ → (n : ℕ) → ComputedVariable n

/-- The files of the hours; the name of each ends with the number of its hour. -/
structure Files where
  content : ℤ → Option SavedHour
  named : ∀ hourNumber saved, content hourNumber = some saved → saved.hourNumber = hourNumber

def Files.write (files : Files) (saved : SavedHour) : Files where
  content := Function.update files.content saved.hourNumber (some saved)
  named hourNumber saved' h := by
    by_cases he : hourNumber = saved.hourNumber
    · subst he
      rw [Function.update_self] at h
      rw [← Option.some_inj.mp h]
    · rw [Function.update_of_ne he] at h
      exact files.named hourNumber saved' h

def DataHour.saved (hour : DataHour) : SavedHour :=
  ⟨hour.hourNumber, hour.variablesRaw, hour.variablesComputed⟩

/-- Transient fields come back as zero, `lastUse` among them. -/
def SavedHour.restore (saved : SavedHour) : DataHour where
  hourNumber := saved.hourNumber
  modified := false
  lastUse := 0
  computationNeeded := false
  variablesRaw := saved.variablesRaw
  variablesComputed := saved.variablesComputed

/-- `now` is what the clock shows. -/
structure DataManager where
  objects : Heap DataHour
  dataHours : List ℕ
  lastDatahour : Option ℕ
  files : Files
  variableCalculations : List VariableComputation
  now : ℤ

namespace DataManager

def objectsLens : Lens DataManager (Heap DataHour) where
  get := objects
  set h s := { s with objects := h }
  get_set _ _ := rfl
  set_get _ := rfl
  set_set _ _ _ := rfl

end DataManager

def readHour (a : ℕ) : Run DataManager DataHour := zoom DataManager.objectsLens (Heap.read a)

def allocHour (hour : DataHour) : Run DataManager ℕ := zoom DataManager.objectsLens (Heap.alloc hour)

def updateHour (a : ℕ) (f : DataHour → DataHour) : Run DataManager Unit :=
  zoom DataManager.objectsLens (Heap.update a f)

/-! ### The code of `DataManager.java` -/

def dataHourFind (hourNumber : ℤ) : List ℕ → Run DataManager (Option ℕ)
  | [] => return none
  | a :: as => do
    if (← readHour a).hourNumber = hourNumber then
      return some a
    dataHourFind hourNumber as

def loadHour (hourNumber : ℤ) : Run DataManager (Option ℕ) := do
  let s ← get
  match s.files.content hourNumber with
  | none => return none
  | some saved =>
    return some (← allocHour (saved.restore.runComputations s.now s.variableCalculations))

def lastMatches (hourNumber : ℤ) : Run DataManager (Option ℕ) := do
  match (← get).lastDatahour with
  | none => return none
  | some a =>
    if (← readHour a).hourNumber = hourNumber then
      return some a
    return none

def setLastDatahour (a : ℕ) : Run DataManager Unit :=
  modify fun s => { s with lastDatahour := some a }

def dataHourGet (hourNumber : ℤ) (load : Bool) : Run DataManager ℕ := do
  match ← lastMatches hourNumber with
  | some a => return a
  | none =>
    match ← dataHourFind hourNumber (← get).dataHours with
    | some a =>
      setLastDatahour a
      return a
    | none =>
      let loaded ← if load then loadHour hourNumber else pure none
      let a ← match loaded with
        | some a => pure a
        | none => do allocHour (DataHour.new hourNumber (← get).now)
      modify fun s => { s with dataHours := s.dataHours ++ [a] }
      setLastDatahour a
      return a

def saveHour (a : ℕ) : Run DataManager Unit := do
  let hour ← readHour a
  if hour.modified then
    modify fun s => { s with files := s.files.write hour.saved }
    updateHour a (fun hour => { hour with modified := false })

/-- The loop of `removeOld`. -/
def removeOldFrom : List ℕ → Run DataManager Unit
  | [] => return
  | a :: as => do
    if dataLoadTime < (← get).now - (← readHour a).lastUse then
      saveHour a
      modify fun s => { s with dataHours := s.dataHours.erase a }
    removeOldFrom as

def removeOld : Run DataManager Unit := do
  removeOldFrom (← get).dataHours

def saveHours : List ℕ → Run DataManager Unit
  | [] => return
  | a :: as => do
    saveHour a
    saveHours as

/-- `saveAll`, as far as the hours go. -/
def saveAll : Run DataManager Unit := do
  saveHours (← get).dataHours

/-- A sample of a variable in an hour. -/
structure Slot where
  variableId : ℤ
  samplesPerHour : ℕ
  hourNumber : ℤ
  sampleNumber : ℤ
deriving DecidableEq

/-- The result is that of `DataHour.log`, which the source drops. -/
def log (slot : Slot) (value : Value) : Run DataManager Bool := do
  let a ← dataHourGet slot.hourNumber true
  let hour ← readHour a
  let (result, hour) := hour.log (← get).now slot.variableId slot.samplesPerHour
    slot.sampleNumber value
  updateHour a (fun _ => hour)
  return result

/-! ### Runs -/

/-- The last operation sets the clock. -/
inductive StoreOp
  | log (slot : Slot) (value : Value)
  | dataHourGet (hourNumber : ℤ) (load : Bool)
  | removeOld
  | saveAll
  | setClock (now : ℤ)
deriving DecidableEq

inductive StoreResult
  | logged (accepted : Bool)
  | dataHour (a : ℕ)
  | done
deriving DecidableEq

def StoreOp.run : StoreOp → Run DataManager StoreResult
  | .log slot value => do return .logged (← Viewer.log slot value)
  | .dataHourGet hourNumber load => do return .dataHour (← Viewer.dataHourGet hourNumber load)
  | .removeOld => do
    Viewer.removeOld
    return .done
  | .saveAll => do
    Viewer.saveAll
    return .done
  | .setClock now => do
    modify fun s => { s with now }
    return .done

/-- No hour is loaded. -/
def DataManager.start (files : Files) (variableCalculations : List VariableComputation)
    (now : ℤ) : DataManager where
  objects := Heap.empty
  dataHours := []
  lastDatahour := none
  files
  variableCalculations
  now

/-- The sample in a slot, in the hour of the slot. -/
def DataHour.sampleAt (hour : DataHour) (slot : Slot) : Option Value :=
  if h : 0 ≤ slot.sampleNumber ∧ slot.sampleNumber < slot.samplesPerHour then
    some (hour.raw slot.variableId slot.samplesPerHour ⟨slot.sampleNumber.toNat, by omega⟩)
  else none

abbrev StoreTrace := List (StoreOp × StoreResult)

/-- Every value that was accepted for a slot of the hour is there, or a later one is. -/
def KeepsAccepted (tr : StoreTrace) (hour : DataHour) : Prop :=
  ∀ pre slot value mid, tr = pre ++ (.log slot value, .logged true) :: mid →
    slot.hourNumber = hour.hourNumber → ∃ value', hour.sampleAt slot = some value' ∧
      (value' = value ∨ (.log slot value', .logged true) ∈ mid)

/-- Some value was accepted for the hour. -/
def AcceptedFor (tr : StoreTrace) (hourNumber : ℤ) : Prop :=
  ∃ slot value, slot.hourNumber = hourNumber ∧ (.log slot value, .logged true) ∈ tr

/-- An hour that is asked for comes with all that was accepted for it, and is in the queue. -/
def ReturnsAccepted (tr : StoreTrace) (s : DataManager) (op : StoreOp) (r : StoreResult) : Prop :=
  ∀ hourNumber load a u, op = .dataHourGet hourNumber load → r = .dataHour a →
    op.run.run s = .ok r u → AcceptedFor tr hourNumber →
    a ∈ u.dataHours ∧ ∃ hour, u.objects.cells a = some hour ∧ hour.hourNumber = hourNumber ∧
      KeepsAccepted tr hour

/-- If the shortcut points to this hour, the hour is still in the queue. -/
def DataManager.ShortcutHeld (s : DataManager) (hourNumber : ℤ) : Prop :=
  ∀ a hour, s.lastDatahour = some a → s.objects.cells a = some hour →
    hour.hourNumber = hourNumber → a ∈ s.dataHours

/-- The queue has this hour. -/
def DataManager.Holds (s : DataManager) (hourNumber : ℤ) : Prop :=
  ∃ a ∈ s.dataHours, ∃ hour, s.objects.cells a = some hour ∧ hour.hourNumber = hourNumber

/-- The shortcut to the hour is not stale, and the hour is not made anew although something was
accepted for it. -/
def Reached (tr : StoreTrace) (s : DataManager) : StoreOp → Prop
  | .log slot _ => s.ShortcutHeld slot.hourNumber
  | .dataHourGet hourNumber load => s.ShortcutHeld hourNumber ∧
      (load = true ∨ s.Holds hourNumber ∨ ¬AcceptedFor tr hourNumber)
  | _ => True

/-! ### What was accepted -/

/-- The store as it ought to be: the last accepted value of every slot. -/
def recorded (tr : StoreTrace) : Slot → Option Value :=
  tr.foldl (fun found x => match x with
    | (.log slot value, .logged true) => Function.update found slot (some value)
    | _ => found) (fun _ => none)

lemma recorded_concat (tr : StoreTrace) (op : StoreOp) (r : StoreResult) :
    recorded (tr ++ [(op, r)]) = match (op, r) with
      | (.log slot value, .logged true) => Function.update (recorded tr) slot (some value)
      | _ => recorded tr := List.foldl_concat ..

/-- The value recorded for a slot was accepted last. -/
lemma recorded_after (pre : StoreTrace) (slot : Slot) (value : Value) (mid : StoreTrace) :
    ∃ value', recorded (pre ++ (.log slot value, .logged true) :: mid) slot = some value' ∧
      (value' = value ∨ (.log slot value', .logged true) ∈ mid) := by
  induction mid using List.reverseRecOn with
  | nil =>
    refine ⟨value, ?_, Or.inl rfl⟩
    rw [recorded_concat]
    exact Function.update_self _ _ _
  | append_singleton mid x ih =>
    obtain ⟨op, r⟩ := x
    obtain ⟨value', hrec, hfrom⟩ := ih
    rw [← List.cons_append, ← List.append_assoc, recorded_concat]
    have hkeep : ∃ value'', recorded (pre ++ (.log slot value, .logged true) :: mid) slot =
        some value'' ∧ (value'' = value ∨ (.log slot value'', .logged true) ∈ mid ++ [(op, r)]) :=
      ⟨value', hrec, hfrom.imp id (List.mem_append_left _)⟩
    split
    · rename_i slot' value'' he
      obtain ⟨rfl, rfl⟩ := Prod.mk.inj he
      by_cases hslot : slot = slot'
      · subst hslot
        exact ⟨value'', Function.update_self _ _ _, Or.inr (by simp)⟩
      · rw [Function.update_of_ne hslot]
        exact hkeep
    · exact hkeep

lemma acceptedFor_of_recorded {tr : StoreTrace} {slot : Slot} {value : Value}
    (h : recorded tr slot = some value) : AcceptedFor tr slot.hourNumber := by
  induction tr using List.reverseRecOn with
  | nil => cases h
  | append_singleton tr x ih =>
    obtain ⟨op, r⟩ := x
    have hold : ∀ {hourNumber}, AcceptedFor tr hourNumber →
        AcceptedFor (tr ++ [(op, r)]) hourNumber := by
      rintro hourNumber ⟨slot', value', hhour, hmem⟩
      exact ⟨slot', value', hhour, List.mem_append_left _ hmem⟩
    rw [recorded_concat] at h
    split at h
    · rename_i slot' value' he
      obtain ⟨rfl, rfl⟩ := Prod.mk.inj he
      by_cases hslot : slot = slot'
      · exact ⟨slot', value', by rw [hslot], by simp⟩
      · rw [Function.update_of_ne hslot] at h
        exact hold (ih h)
    · exact hold (ih h)

/-- The hour holds what is recorded for it. -/
def DataHour.Matches (stored : Slot → Option Value) (hour : DataHour) : Prop :=
  ∀ slot value, slot.hourNumber = hour.hourNumber → stored slot = some value →
    hour.sampleAt slot = some value

/-- So does the file of the hour. -/
def Files.Match (stored : Slot → Option Value) (files : Files) (hourNumber : ℤ) : Prop :=
  ∀ slot value, slot.hourNumber = hourNumber → stored slot = some value →
    ∃ saved, files.content hourNumber = some saved ∧ saved.restore.sampleAt slot = some value

lemma keepsAccepted_of_matches {tr : StoreTrace} {hour : DataHour}
    (h : hour.Matches (recorded tr)) : KeepsAccepted tr hour := by
  rintro pre slot value mid rfl hhour
  obtain ⟨value', hrec, hfrom⟩ := recorded_after pre slot value mid
  exact ⟨value', h slot value' hhour hrec, hfrom⟩

/-! ### What every step keeps -/

/-- The hours in the queue are loaded once each and hold what is recorded for them, and so does
the file of an hour that is not modified or not in the queue. -/
structure DataManager.Consistent (s : DataManager) (stored : Slot → Option Value) : Prop where
  nodup : s.dataHours.Nodup
  live : ∀ a ∈ s.dataHours, (s.objects.cells a).isSome
  single : ∀ a ∈ s.dataHours, ∀ b ∈ s.dataHours, ∀ hour hour', s.objects.cells a = some hour →
    s.objects.cells b = some hour' → hour.hourNumber = hour'.hourNumber → a = b
  shortcut : ∀ a ∈ s.lastDatahour, (s.objects.cells a).isSome
  held : ∀ a ∈ s.dataHours, ∀ hour, s.objects.cells a = some hour → hour.Matches stored
  saved : ∀ a ∈ s.dataHours, ∀ hour, s.objects.cells a = some hour → hour.modified = false →
    s.files.Match stored hour.hourNumber
  away : ∀ hourNumber, ¬s.Holds hourNumber → s.files.Match stored hourNumber

section Steps

variable {s : DataManager} {stored : Slot → Option Value} {a b : ℕ} {hour hour' : DataHour}
  {hourNumber : ℤ} {slot : Slot} {value : Value}

lemma readHour_run (h : s.objects.cells a = some hour) : (readHour a).run s = .ok hour s :=
  run_zoom_ok (l := DataManager.objectsLens) (Heap.read_run h)

lemma updateHour_run (h : s.objects.cells a = some hour) (f : DataHour → DataHour) :
    (updateHour a f).run s = .ok () { s with objects := s.objects.modify a f } := by
  refine run_zoom_ok (l := DataManager.objectsLens) (Heap.update_run f ?_)
  show (s.objects.cells a).isSome
  rw [h]
  rfl

lemma dataHourFind_run (hourNumber : ℤ) {as : List ℕ}
    (h : ∀ a ∈ as, (s.objects.cells a).isSome) :
    ∃ found, (dataHourFind hourNumber as).run s = .ok found s ∧ match found with
      | some a => a ∈ as ∧ ∃ hour, s.objects.cells a = some hour ∧ hour.hourNumber = hourNumber
      | none => ∀ a ∈ as, ∀ hour, s.objects.cells a = some hour → hour.hourNumber ≠ hourNumber := by
  induction as with
  | nil => exact ⟨none, rfl, fun a ha => by cases ha⟩
  | cons a as ih =>
    obtain ⟨hour, ha⟩ := Option.isSome_iff_exists.mp (h a List.mem_cons_self)
    obtain ⟨found, hrun, hfound⟩ := ih (fun b hb => h b (List.mem_cons_of_mem a hb))
    rw [dataHourFind, run_bind_ok (readHour_run ha)]
    by_cases he : hour.hourNumber = hourNumber
    · rw [if_pos he]
      exact ⟨some a, rfl, List.mem_cons_self, hour, ha, he⟩
    · rw [if_neg he]
      refine ⟨found, hrun, ?_⟩
      cases found with
      | some b =>
        obtain ⟨hb, hhour⟩ := hfound
        exact ⟨List.mem_cons_of_mem a hb, hhour⟩
      | none =>
        intro b hb hour' hb'
        rcases List.mem_cons.mp hb with rfl | hb
        · rw [← Option.some_inj.mp (ha.symm.trans hb')]
          exact he
        · exact hfound b hb hour' hb'

lemma DataManager.Consistent.added (h : s.Consistent stored) (hnew : ¬s.Holds hour.hourNumber)
    (hmatches : hour.Matches stored)
    (hsaved : hour.modified = false → s.files.Match stored hour.hourNumber) :
    ({ s with
      objects := s.objects.push hour
      dataHours := s.dataHours ++ [s.objects.next]
      lastDatahour := some s.objects.next } : DataManager).Consistent stored := by
  have hold : ∀ a ∈ s.dataHours, (s.objects.push hour).cells a = s.objects.cells a := by
    intro a ha
    exact (Heap.push_cells _ _ _).trans (if_neg (s.objects.ne_next (h.live a ha)))
  have hnext : (s.objects.push hour).cells s.objects.next = some hour :=
    (Heap.push_cells _ _ _).trans (if_pos rfl)
  -- Every hour in the queue is an old one or the one that is added.
  have hcases : ∀ a ∈ s.dataHours ++ [s.objects.next], ∀ hour',
      (s.objects.push hour).cells a = some hour' →
        (a ∈ s.dataHours ∧ s.objects.cells a = some hour') ∨
          (a = s.objects.next ∧ hour' = hour) := by
    intro a ha hour' hcell
    rcases List.mem_append.mp ha with ha | ha
    · exact Or.inl ⟨ha, (hold a ha).symm.trans hcell⟩
    · obtain rfl := List.mem_singleton.mp ha
      exact Or.inr ⟨rfl, Option.some_inj.mp (hcell.symm.trans hnext)⟩
  refine ⟨?_, ?_, ?_, ?_, ?_, ?_, ?_⟩
  · refine List.nodup_append.mpr ⟨h.nodup, List.nodup_singleton _, ?_⟩
    rintro a ha b hb rfl
    obtain rfl := List.mem_singleton.mp hb
    exact s.objects.ne_next (h.live _ ha) rfl
  · intro a ha
    rcases List.mem_append.mp ha with ha | ha
    · rw [hold a ha]
      exact h.live a ha
    · rw [List.mem_singleton.mp ha, hnext]
      rfl
  · intro a ha b hb hour₁ hour₂ h₁ h₂ he
    rcases hcases a ha hour₁ h₁ with ⟨ha', h₁'⟩ | ⟨hae, hhour₁⟩ <;>
      rcases hcases b hb hour₂ h₂ with ⟨hb', h₂'⟩ | ⟨hbe, hhour₂⟩
    · exact h.single a ha' b hb' hour₁ hour₂ h₁' h₂' he
    · exact absurd ⟨a, ha', hour₁, h₁', by rw [he, hhour₂]⟩ hnew
    · exact absurd ⟨b, hb', hour₂, h₂', by rw [← he, hhour₁]⟩ hnew
    · rw [hae, hbe]
  · intro a ha
    rw [← Option.some_inj.mp ha, hnext]
    rfl
  · intro a ha hour₁ h₁
    rcases hcases a ha hour₁ h₁ with ⟨ha, h₁⟩ | ⟨rfl, rfl⟩
    · exact h.held a ha hour₁ h₁
    · exact hmatches
  · intro a ha hour₁ h₁ hmod
    rcases hcases a ha hour₁ h₁ with ⟨ha, h₁⟩ | ⟨rfl, rfl⟩
    · exact h.saved a ha hour₁ h₁ hmod
    · exact hsaved hmod
  · intro hourNumber hnot
    refine h.away hourNumber ?_
    rintro ⟨a, ha, hour₁, h₁, he⟩
    exact hnot ⟨a, List.mem_append_left _ ha, hour₁, (hold a ha).trans h₁, he⟩

lemma runComputations_hourNumber (now : ℤ) (calculations : List VariableComputation)
    (hour : DataHour) : (hour.runComputations now calculations).hourNumber = hour.hourNumber := by
  induction calculations generalizing hour with
  | nil => rfl
  | cons calculation calculations ih => exact (ih _).trans (hour.runComputation_hourNumber _ _)

lemma runComputations_raw (now : ℤ) (calculations : List VariableComputation) (hour : DataHour)
    (id : ℤ) (n : ℕ) : (hour.runComputations now calculations).raw id n = hour.raw id n := by
  induction calculations generalizing hour with
  | nil => rfl
  | cons calculation calculations ih => exact (ih _).trans (hour.runComputation_raw _ _ _ _)

lemma runComputations_matches (now : ℤ) (calculations : List VariableComputation)
    (h : hour.Matches stored) : (hour.runComputations now calculations).Matches stored := by
  intro slot value hhour hstored
  rw [runComputations_hourNumber] at hhour
  have hsample := h slot value hhour hstored
  unfold DataHour.sampleAt at hsample ⊢
  rwa [runComputations_raw]

lemma lastMatches_run (h : ∀ a ∈ s.lastDatahour, (s.objects.cells a).isSome) (hourNumber : ℤ) :
    ∃ found, (lastMatches hourNumber).run s = .ok found s ∧
      ∀ a ∈ found, s.lastDatahour = some a ∧
        ∃ hour, s.objects.cells a = some hour ∧ hour.hourNumber = hourNumber := by
  rw [lastMatches, run_bind_ok (EStateM.run_get s)]
  cases hlast : s.lastDatahour with
  | none => exact ⟨none, rfl, fun a ha => by cases ha⟩
  | some a =>
    obtain ⟨hour, ha⟩ := Option.isSome_iff_exists.mp (h a hlast)
    simp only
    rw [run_bind_ok (readHour_run ha)]
    by_cases he : hour.hourNumber = hourNumber
    · rw [if_pos he]
      refine ⟨some a, rfl, ?_⟩
      intro b hb
      rw [← Option.some_inj.mp hb]
      exact ⟨rfl, hour, ha, he⟩
    · rw [if_neg he]
      exact ⟨none, rfl, fun b hb => by cases hb⟩

/-- An hour that is not in the queue comes from its file, or is made. -/
lemma dataHourGet_new {load : Bool} (hfile : s.files.Match stored hourNumber)
    (hload : load = true ∨ ∀ slot, slot.hourNumber = hourNumber → stored slot = none) :
    ∃ hour : DataHour, hour.hourNumber = hourNumber ∧ hour.Matches stored ∧ (do
      let loaded ← if load then loadHour hourNumber else pure none
      let a ← match loaded with
        | some a => pure a
        | none => do allocHour (DataHour.new hourNumber (← get).now)
      modify fun s => { s with dataHours := s.dataHours ++ [a] }
      setLastDatahour a
      return a : Run DataManager ℕ).run s = .ok s.objects.next { s with
        objects := s.objects.push hour
        dataHours := s.dataHours ++ [s.objects.next]
        lastDatahour := some s.objects.next } := by
  have hnew : (∀ slot, slot.hourNumber = hourNumber → stored slot = none) →
      (DataHour.new hourNumber s.now).Matches stored := by
    intro hnone slot value hhour hstored
    rw [hnone slot hhour] at hstored
    cases hstored
  cases load with
  | false =>
    exact ⟨DataHour.new hourNumber s.now, rfl, hnew (hload.resolve_left (by simp)), rfl⟩
  | true =>
    simp only [if_true]
    cases hcontent : s.files.content hourNumber with
    | none =>
      have hloaded : (loadHour hourNumber).run s = .ok none s := by
        rw [loadHour, run_bind_ok (EStateM.run_get s), hcontent]
        rfl
      refine ⟨DataHour.new hourNumber s.now, rfl, hnew ?_, ?_⟩
      · intro slot hhour
        by_contra hsome
        obtain ⟨value, hvalue⟩ := Option.ne_none_iff_exists'.mp hsome
        obtain ⟨saved, hsaved, -⟩ := hfile slot value hhour hvalue
        rw [hcontent] at hsaved
        cases hsaved
      · rw [run_bind_ok hloaded]
        rfl
    | some saved =>
      obtain rfl := s.files.named hourNumber saved hcontent
      have hloaded : (loadHour saved.hourNumber).run s = .ok (some s.objects.next) { s with
          objects := s.objects.push
            (saved.restore.runComputations s.now s.variableCalculations) } := by
        rw [loadHour, run_bind_ok (EStateM.run_get s), hcontent]
        rfl
      refine ⟨saved.restore.runComputations s.now s.variableCalculations,
        runComputations_hourNumber _ _ _, runComputations_matches _ _ ?_, ?_⟩
      · intro slot value hhour hstored
        obtain ⟨saved', hsaved, hsample⟩ := hfile slot value hhour hstored
        rwa [Option.some_inj.mp (hcontent.symm.trans hsaved)]
      · rw [run_bind_ok hloaded]
        rfl

/-- An hour that is asked for is in the queue afterwards. -/
lemma dataHourGet_run (h : s.Consistent stored) {load : Bool}
    (hshortcut : s.ShortcutHeld hourNumber)
    (hload : load = true ∨ s.Holds hourNumber ∨
      ∀ slot, slot.hourNumber = hourNumber → stored slot = none) :
    ∃ a u, (dataHourGet hourNumber load).run s = .ok a u ∧ u.Consistent stored ∧
      a ∈ u.dataHours ∧ ∃ hour, u.objects.cells a = some hour ∧ hour.hourNumber = hourNumber := by
  obtain ⟨found, hlast, hfound⟩ := lastMatches_run h.shortcut hourNumber
  rw [dataHourGet, run_bind_ok hlast]
  cases found with
  | some a =>
    obtain ⟨hlast, hour, ha, he⟩ := hfound a rfl
    exact ⟨a, s, rfl, h, hshortcut a hour hlast ha he, hour, ha, he⟩
  | none =>
    obtain ⟨queued, hfind, hqueued⟩ := dataHourFind_run hourNumber h.live
    simp only
    rw [run_bind_ok (EStateM.run_get s), run_bind_ok hfind]
    cases queued with
    | some a =>
      obtain ⟨ha, hour, hcell, he⟩ := hqueued
      refine ⟨a, { s with lastDatahour := some a }, rfl, ⟨h.nodup, h.live, h.single, ?_, h.held,
        h.saved, h.away⟩, ha, hour, hcell, he⟩
      intro b hb
      rw [← Option.some_inj.mp hb]
      exact h.live a ha
    | none =>
      -- Not in the queue: whatever is recorded for the hour is in its file.
      have haway : ¬s.Holds hourNumber := by
        rintro ⟨a, ha, hour, hcell, he⟩
        exact hqueued a ha hour hcell he
      have hfile := h.away hourNumber haway
      obtain ⟨hour, rfl, hmatches, hrun⟩ := dataHourGet_new hfile
        (hload.imp id (fun hrest => hrest.resolve_left haway))
      refine ⟨s.objects.next, _, hrun, h.added haway hmatches (fun _ => hfile),
        List.mem_append_right _ (List.mem_singleton_self _), hour, ?_, rfl⟩
      exact (Heap.push_cells _ _ _).trans (if_pos rfl)

/-- One hour in the queue changes, and with it what is recorded for it and its file. -/
lemma DataManager.Consistent.changed (h : s.Consistent stored) (ha : a ∈ s.dataHours)
    (hcell : s.objects.cells a = some hour) {f : DataHour → DataHour}
    (hf : (f hour).hourNumber = hour.hourNumber) {stored' : Slot → Option Value} {files' : Files}
    (hothers : ∀ slot, slot.hourNumber ≠ hour.hourNumber → stored' slot = stored slot)
    (hfiles : ∀ hourNumber, hourNumber ≠ hour.hourNumber →
      files'.content hourNumber = s.files.content hourNumber)
    (hmatches : (f hour).Matches stored')
    (hsaved : (f hour).modified = false → files'.Match stored' hour.hourNumber) :
    ({ s with objects := s.objects.modify a f, files := files' } : DataManager).Consistent
      stored' := by
  have hcells : ∀ b hour', (s.objects.modify a f).cells b = some hour' →
      (b = a ∧ hour' = f hour) ∨ (b ≠ a ∧ s.objects.cells b = some hour') := by
    intro b hour' hb
    rw [Heap.modify_cells] at hb
    by_cases he : b = a
    · subst he
      rw [if_pos rfl, hcell] at hb
      exact Or.inl ⟨rfl, (Option.some_inj.mp hb).symm⟩
    · rw [if_neg he] at hb
      exact Or.inr ⟨he, hb⟩
  -- The numbers of the hours stay.
  have hnumber : ∀ b hour', (s.objects.modify a f).cells b = some hour' →
      ∃ old, s.objects.cells b = some old ∧ old.hourNumber = hour'.hourNumber := by
    intro b hour' hb
    rcases hcells b hour' hb with ⟨rfl, rfl⟩ | ⟨-, hb⟩
    · exact ⟨hour, hcell, hf.symm⟩
    · exact ⟨hour', hb, rfl⟩
  have hother : ∀ b ∈ s.dataHours, b ≠ a → ∀ hour', s.objects.cells b = some hour' →
      hour'.hourNumber ≠ hour.hourNumber :=
    fun b hb hne hour' hcell' he => hne (h.single b hb a ha hour' hour hcell' hcell he)
  have hfile : ∀ hourNumber, hourNumber ≠ hour.hourNumber → s.files.Match stored hourNumber →
      files'.Match stored' hourNumber := by
    intro hourNumber hne hold slot value hhour hstored
    rw [hothers slot (hhour ▸ hne)] at hstored
    rw [hfiles hourNumber hne]
    exact hold slot value hhour hstored
  refine ⟨h.nodup, ?_, ?_, ?_, ?_, ?_, ?_⟩
  · intro b hb
    rw [Heap.modify_isSome]
    exact h.live b hb
  · intro b hb b' hb' hour₁ hour₂ h₁ h₂ he
    obtain ⟨old₁, hold₁, he₁⟩ := hnumber b hour₁ h₁
    obtain ⟨old₂, hold₂, he₂⟩ := hnumber b' hour₂ h₂
    exact h.single b hb b' hb' old₁ old₂ hold₁ hold₂ (by rw [he₁, he₂, he])
  · intro b hb
    rw [Heap.modify_isSome]
    exact h.shortcut b hb
  · intro b hb hour' hb'
    rcases hcells b hour' hb' with ⟨-, rfl⟩ | ⟨hne, hold⟩
    · exact hmatches
    · intro slot value hhour hstored
      rw [hothers slot (hhour ▸ hother b hb hne hour' hold)] at hstored
      exact h.held b hb hour' hold slot value hhour hstored
  · intro b hb hour' hb' hmod
    rcases hcells b hour' hb' with ⟨-, rfl⟩ | ⟨hne, hold⟩
    · rw [hf]
      exact hsaved hmod
    · exact hfile _ (hother b hb hne hour' hold) (h.saved b hb hour' hold hmod)
  · intro hourNumber hnot
    have hold : ¬s.Holds hourNumber := by
      rintro ⟨b, hb, hour', hb', he⟩
      refine hnot ⟨b, hb, if b = a then f hour' else hour', ?_, ?_⟩
      · show (s.objects.modify a f).cells b = _
        rw [Heap.modify_cells, hb']
        split <;> rfl
      · split
        · rename_i hba
          subst hba
          rw [← Option.some_inj.mp (hcell.symm.trans hb')] at he ⊢
          rw [hf, he]
        · exact he
    have hne : hourNumber ≠ hour.hourNumber := by
      rintro rfl
      exact hold ⟨a, ha, hour, hcell, rfl⟩
    exact hfile hourNumber hne (h.away hourNumber hold)

/-- An hour that has been saved is as it was, and not modified. -/
lemma saveHour_run (h : s.Consistent stored) (ha : a ∈ s.dataHours) :
    ∃ u, (saveHour a).run s = .ok () u ∧ u.Consistent stored ∧ u.dataHours = s.dataHours ∧
      ∃ hour, u.objects.cells a = some hour ∧ hour.modified = false := by
  obtain ⟨hour, hcell⟩ := Option.isSome_iff_exists.mp (h.live a ha)
  rw [saveHour, run_bind_ok (readHour_run hcell)]
  cases hmod : hour.modified with
  | false => exact ⟨s, rfl, h, rfl, hour, hcell, hmod⟩
  | true =>
    simp only [if_true]
    have hwritten : (s.files.write hour.saved).content hour.hourNumber = some hour.saved :=
      Function.update_self _ _ _
    have hupdate := updateHour_run (s := { s with files := s.files.write hour.saved }) hcell
      (fun hour => { hour with modified := false })
    rw [run_bind_ok (EStateM.run_modify _ _), hupdate]
    refine ⟨_, rfl, h.changed ha hcell rfl (fun _ _ => rfl) ?_ ?_ ?_, rfl,
      { hour with modified := false }, ?_, rfl⟩
    · intro hourNumber hne
      exact Function.update_of_ne hne _ _
    · exact h.held a ha hour hcell
    · intro _ slot value hhour hstored
      exact ⟨hour.saved, hwritten, h.held a ha hour hcell slot value hhour hstored⟩
    · show (s.objects.modify a _).cells a = _
      rw [Heap.modify_cells, if_pos rfl, hcell]
      rfl

/-- An hour that is not modified may leave the queue. -/
lemma DataManager.Consistent.erased (h : s.Consistent stored) (ha : a ∈ s.dataHours)
    (hcell : s.objects.cells a = some hour) (hmod : hour.modified = false) :
    ({ s with dataHours := s.dataHours.erase a } : DataManager).Consistent stored := by
  have hsub : ∀ b ∈ s.dataHours.erase a, b ∈ s.dataHours := fun b hb => List.mem_of_mem_erase hb
  refine ⟨h.nodup.erase a, fun b hb => h.live b (hsub b hb), ?_, h.shortcut,
    fun b hb => h.held b (hsub b hb), fun b hb => h.saved b (hsub b hb), ?_⟩
  · intro b hb b' hb'
    exact h.single b (hsub b hb) b' (hsub b' hb')
  · intro hourNumber hnot
    by_cases he : hour.hourNumber = hourNumber
    · rw [← he]
      exact h.saved a ha hour hcell hmod
    · refine h.away hourNumber ?_
      rintro ⟨b, hb, hour', hb', he'⟩
      refine hnot ⟨b, (List.mem_erase_of_ne ?_).mpr hb, hour', hb', he'⟩
      rintro rfl
      exact he ((Option.some_inj.mp (hcell.symm.trans hb')) ▸ he')

lemma saveHours_run (h : s.Consistent stored) {as : List ℕ} (has : ∀ a ∈ as, a ∈ s.dataHours) :
    ∃ u, (saveHours as).run s = .ok () u ∧ u.Consistent stored := by
  induction as generalizing s with
  | nil => exact ⟨s, rfl, h⟩
  | cons a as ih =>
    obtain ⟨u, hrun, hu, hqueue, -⟩ := saveHour_run h (has a List.mem_cons_self)
    rw [saveHours, run_bind_ok hrun]
    exact ih hu (fun b hb => hqueue ▸ has b (List.mem_cons_of_mem a hb))

lemma removeOldFrom_run (h : s.Consistent stored) {as : List ℕ} (hnodup : as.Nodup)
    (has : ∀ a ∈ as, a ∈ s.dataHours) :
    ∃ u, (removeOldFrom as).run s = .ok () u ∧ u.Consistent stored := by
  induction as generalizing s with
  | nil => exact ⟨s, rfl, h⟩
  | cons a as ih =>
    obtain ⟨hnot, hnodup⟩ := List.nodup_cons.mp hnodup
    have ha := has a List.mem_cons_self
    obtain ⟨hour, hcell⟩ := Option.isSome_iff_exists.mp (h.live a ha)
    rw [removeOldFrom, run_bind_ok (EStateM.run_get s), run_bind_ok (readHour_run hcell)]
    by_cases hold : dataLoadTime < s.now - hour.lastUse
    · obtain ⟨u, hrun, hu, hqueue, saved, hsaved, hmod⟩ := saveHour_run h ha
      rw [if_pos hold, run_bind_ok hrun, run_bind_ok (EStateM.run_modify _ _)]
      rw [← hqueue] at ha
      refine ih (hu.erased ha hsaved hmod) hnodup ?_
      intro b hb
      have hba : b ≠ a := by
        rintro rfl
        exact hnot hb
      exact (List.mem_erase_of_ne hba).mpr (hqueue ▸ has b (List.mem_cons_of_mem a hb))
    · rw [if_neg hold]
      exact ih h hnodup (fun b hb => has b (List.mem_cons_of_mem a hb))

/-- Logging changes at most the sample in its slot. -/
lemma log_sampleAt_ne (hour : DataHour) (now : ℤ) {slot slot' : Slot} (value : Value)
    (hne : slot' ≠ slot) (hhour : slot'.hourNumber = slot.hourNumber) :
    (hour.log now slot.variableId slot.samplesPerHour slot.sampleNumber value).2.sampleAt slot' =
      hour.sampleAt slot' := by
  obtain ⟨id, n, hourNumber, sampleNumber⟩ := slot
  obtain ⟨id', n', hourNumber', sampleNumber'⟩ := slot'
  unfold DataHour.sampleAt
  dsimp only at hhour ⊢
  split
  · rename_i hrange'
    congr 1
    by_cases hsame : n = n' ∧ id = id'
    · obtain ⟨rfl, rfl⟩ := hsame
      have hlog := congrArg Prod.snd (DataHour.log_raw_self hour now id n sampleNumber value)
      dsimp only at hlog
      rw [hlog, DataHour.logSample_eq]
      split_ifs with hrange
      · rfl
      · refine Function.update_of_ne ?_ _ _
        intro he
        have hsample : sampleNumber' = sampleNumber := by
          have hnat := congrArg Fin.val he
          dsimp only at hnat
          omega
        exact hne (by rw [hhour, hsample])
      · rfl
    · rw [DataHour.log_raw_ne hsame]
  · rfl

lemma log_sampleAt_accepted (hour : DataHour) (now : ℤ) (slot : Slot) (value : Value)
    (haccepted : (hour.log now slot.variableId slot.samplesPerHour slot.sampleNumber value).1 =
      true) :
    (hour.log now slot.variableId slot.samplesPerHour slot.sampleNumber value).2.sampleAt slot =
      some value := by
  have hlog := DataHour.log_raw_self hour now slot.variableId slot.samplesPerHour
    slot.sampleNumber value
  have hresult := congrArg Prod.fst hlog
  have hraw := congrArg Prod.snd hlog
  dsimp only at hresult hraw
  rw [haccepted] at hresult
  unfold DataHour.sampleAt
  rw [hraw]
  rw [DataHour.logSample_eq] at hresult ⊢
  split_ifs at hresult ⊢ with hrange hguard
  simp

lemma log_sampleAt_rejected (hour : DataHour) (now : ℤ) (slot : Slot) (value : Value)
    (hrejected : (hour.log now slot.variableId slot.samplesPerHour slot.sampleNumber value).1 =
      false) :
    (hour.log now slot.variableId slot.samplesPerHour slot.sampleNumber value).2.sampleAt slot =
      hour.sampleAt slot := by
  have hlog := DataHour.log_raw_self hour now slot.variableId slot.samplesPerHour
    slot.sampleNumber value
  have hresult := congrArg Prod.fst hlog
  have hraw := congrArg Prod.snd hlog
  dsimp only at hresult hraw
  rw [hrejected] at hresult
  unfold DataHour.sampleAt
  rw [hraw]
  rw [DataHour.logSample_eq] at hresult ⊢
  split_ifs at hresult ⊢ with hrange hguard
  all_goals rfl

/-- The hour then holds what is recorded for it, with the value if it was accepted. -/
lemma log_matches (hmatches : hour.Matches stored) (now : ℤ) (value : Value)
    (hhour : hour.hourNumber = slot.hourNumber) :
    (hour.log now slot.variableId slot.samplesPerHour slot.sampleNumber value).2.Matches
      (if (hour.log now slot.variableId slot.samplesPerHour slot.sampleNumber value).1 then
        Function.update stored slot (some value) else stored) := by
  intro slot' value' hhour' hstored
  rw [DataHour.log_hourNumber] at hhour'
  by_cases hslot : slot' = slot
  · subst hslot
    cases haccepted : (hour.log now slot'.variableId slot'.samplesPerHour slot'.sampleNumber
        value).1 with
    | true =>
      rw [haccepted, if_pos rfl, Function.update_self] at hstored
      rw [log_sampleAt_accepted hour now slot' value haccepted, hstored]
    | false =>
      rw [haccepted, if_neg Bool.false_ne_true] at hstored
      rw [log_sampleAt_rejected hour now slot' value haccepted]
      exact hmatches slot' value' hhour' hstored
  · rw [log_sampleAt_ne hour now value hslot (hhour'.trans hhour)]
    refine hmatches slot' value' hhour' ?_
    split at hstored
    · rwa [Function.update_of_ne hslot] at hstored
    · exact hstored

/-- An accepted value is recorded in the hour that the slot is in. -/
lemma log_run (h : s.Consistent stored) (hshortcut : s.ShortcutHeld slot.hourNumber)
    (value : Value) : ∃ accepted u, (log slot value).run s = .ok accepted u ∧
      u.Consistent (if accepted then Function.update stored slot (some value) else stored) := by
  obtain ⟨a, t, hget, ht, ha, hour, hcell, hhour⟩ := dataHourGet_run h hshortcut (Or.inl rfl)
  have hmatches := log_matches (ht.held a ha hour hcell) t.now value hhour
  have hnumber := DataHour.log_hourNumber hour t.now slot.variableId slot.samplesPerHour
    slot.sampleNumber value
  have hmodified := DataHour.log_modified hour t.now slot.variableId slot.samplesPerHour
    slot.sampleNumber value
  rw [log, run_bind_ok hget, run_bind_ok (readHour_run hcell), run_bind_ok (EStateM.run_get t)]
  generalize hour.log t.now slot.variableId slot.samplesPerHour slot.sampleNumber value =
    logged at hmatches hnumber hmodified ⊢
  obtain ⟨accepted, hour'⟩ := logged
  dsimp only at hmatches hnumber hmodified ⊢
  rw [run_bind_ok (updateHour_run hcell _)]
  refine ⟨accepted, _, rfl, ht.changed ha hcell hnumber ?_ (fun _ _ => rfl) hmatches ?_⟩
  · intro slot' hne
    split
    · refine Function.update_of_ne ?_ _ _
      rintro rfl
      exact hne hhour.symm
    · rfl
  · -- An hour that is still not modified has not taken the value.
    intro hmod
    rw [hmodified] at hmod
    obtain ⟨hclear, rfl⟩ := Bool.or_eq_false_iff.mp hmod
    exact ht.saved a ha hour hcell hclear

/-- The store as it is after an operation that has been reached. -/
lemma StoreOp.run_consistent {tr : StoreTrace} {op : StoreOp} {r : StoreResult} {u : DataManager}
    (h : s.Consistent (recorded tr)) (hreached : Reached tr s op) (hrun : op.run.run s = .ok r u) :
    u.Consistent (recorded (tr ++ [(op, r)])) ∧ ReturnsAccepted tr s op r := by
  cases op with
  | log slot value =>
    obtain ⟨accepted, u', hlog, hu⟩ := log_run h hreached value
    rw [StoreOp.run, run_bind_ok hlog] at hrun
    obtain ⟨rfl, rfl⟩ := EStateM.Result.ok.inj hrun
    refine ⟨?_, fun _ _ _ _ he => by cases he⟩
    rw [recorded_concat]
    cases accepted <;> exact hu
  | dataHourGet hourNumber load =>
    obtain ⟨hshortcut, hload⟩ := hreached
    have hnone : ¬AcceptedFor tr hourNumber →
        ∀ slot, slot.hourNumber = hourNumber → recorded tr slot = none := by
      intro hnot slot hhour
      by_contra hsome
      obtain ⟨value, hvalue⟩ := Option.ne_none_iff_exists'.mp hsome
      exact hnot (hhour ▸ acceptedFor_of_recorded hvalue)
    obtain ⟨a, u', hget, hu, ha, hour, hcell, hhour⟩ :=
      dataHourGet_run h hshortcut (hload.imp id (fun hrest => hrest.imp id hnone))
    have hrun' := hrun
    rw [StoreOp.run, run_bind_ok hget] at hrun'
    obtain ⟨rfl, rfl⟩ := EStateM.Result.ok.inj hrun'
    refine ⟨?_, ?_⟩
    · rw [recorded_concat]
      exact hu
    · intro hourNumber' load' a' u'' hop hr hrun'' _
      cases hop
      cases hr
      obtain ⟨-, rfl⟩ := EStateM.Result.ok.inj (hrun.symm.trans hrun'')
      exact ⟨ha, hour, hcell, hhour, keepsAccepted_of_matches (hu.held a ha hour hcell)⟩
  | removeOld =>
    obtain ⟨u', hremove, hu⟩ := removeOldFrom_run h h.nodup (fun _ ha => ha)
    rw [StoreOp.run, Viewer.removeOld, run_bind_ok (run_bind_ok (EStateM.run_get s) |>.trans hremove)]
      at hrun
    obtain ⟨rfl, rfl⟩ := EStateM.Result.ok.inj hrun
    refine ⟨?_, fun _ _ _ _ he => by cases he⟩
    rw [recorded_concat]
    exact hu
  | saveAll =>
    obtain ⟨u', hsave, hu⟩ := saveHours_run h (fun _ ha => ha)
    rw [StoreOp.run, Viewer.saveAll, run_bind_ok (run_bind_ok (EStateM.run_get s) |>.trans hsave)]
      at hrun
    obtain ⟨rfl, rfl⟩ := EStateM.Result.ok.inj hrun
    refine ⟨?_, fun _ _ _ _ he => by cases he⟩
    rw [recorded_concat]
    exact hu
  | setClock now =>
    obtain ⟨rfl, rfl⟩ := EStateM.Result.ok.inj hrun
    refine ⟨?_, fun _ _ _ _ he => by cases he⟩
    rw [recorded_concat]
    exact ⟨h.nodup, h.live, h.single, h.shortcut, h.held, h.saved, h.away⟩

end Steps

lemma DataManager.start_consistent (files : Files) (variableCalculations : List VariableComputation)
    (now : ℤ) : (start files variableCalculations now).Consistent (recorded []) where
  nodup := List.nodup_nil
  live a ha := by cases ha
  single a ha := by cases ha
  shortcut a ha := by cases ha
  held a ha := by cases ha
  saved a ha := by cases ha
  away _ _ _ _ _ h := by cases h

/-- In a run that finds no stale shortcut, every hour comes with all that was accepted for it
and is in the queue. -/
theorem returnsAccepted_of_reached {files : Files} {variableCalculations : List VariableComputation}
    {now : ℤ} {tr : StoreTrace} {t : DataManager}
    (htr : Trace StoreOp.run (DataManager.start files variableCalculations now) tr t)
    (hreached : Throughout StoreOp.run (DataManager.start files variableCalculations now)
      (fun tr s op _ => Reached tr s op) tr) :
    Throughout StoreOp.run (DataManager.start files variableCalculations now) ReturnsAccepted tr :=
  Throughout.mono (I := fun tr s => s.Consistent (recorded tr)) htr hreached
    (DataManager.start_consistent files variableCalculations now)
    (fun _ _ _ _ _ h hr hrun => StoreOp.run_consistent h hr hrun)

/-- No hour has been written yet. -/
def noFiles : Files := ⟨fun _ => none, fun _ _ h => by cases h⟩

/-- An hour is dropped while the shortcut points to another one, comes back from its file, is logged
to again and saved. -/
def droppedOps : List StoreOp :=
  [.log ⟨7, 2, 5, 0⟩ 0x3FF0000000000000, .dataHourGet 8 true, .setClock 900001, .removeOld,
    .dataHourGet 5 true, .log ⟨7, 2, 5, 0⟩ 0x4000000000000000, .saveAll, .dataHourGet 9 true,
    .dataHourGet 5 true]

/-- Whether the shortcut points to an hour in the queue, if it is this one. -/
def DataManager.queued (s : DataManager) (hourNumber : ℤ) : Bool :=
  s.lastDatahour.all fun a =>
    (s.objects.cells a).all fun hour => hour.hourNumber != hourNumber || decide (a ∈ s.dataHours)

lemma DataManager.shortcutHeld_of_queued {s : DataManager} {hourNumber : ℤ}
    (h : s.queued hourNumber = true) : s.ShortcutHeld hourNumber := by
  intro a hour hlast hcell hhour
  simpa only [queued, hlast, hcell, Option.all_some, hhour, bne_self_eq_false, Bool.false_or,
    decide_eq_true_eq] using h

def findsQueued (s : DataManager) : StoreOp → Bool
  | .log slot _ => s.queued slot.hourNumber
  | .dataHourGet hourNumber load => s.queued hourNumber && load
  | _ => true

theorem dropped_returnsAccepted :
    (replay StoreOp.run droppedOps (DataManager.start noFiles [] 0)).map Prod.fst = droppedOps ∧
      Throughout StoreOp.run (DataManager.start noFiles [] 0) ReturnsAccepted
        (replay StoreOp.run droppedOps (DataManager.start noFiles [] 0)) := by
  refine ⟨by decide +kernel, returnsAccepted_of_reached (.of_replay (by decide +kernel)) ?_⟩
  refine (Throughout.of_meetsAll (p := findsQueued) (by decide +kernel)).imp ?_
  intro _ s op _ hmet
  cases op with
  | log slot value => exact DataManager.shortcutHeld_of_queued hmet
  | dataHourGet hourNumber load =>
    obtain ⟨hshortcut, hload⟩ := (Bool.and_eq_true _ _).mp hmet
    exact ⟨DataManager.shortcutHeld_of_queued hshortcut, Or.inl hload⟩
  | removeOld => trivial
  | saveAll => trivial
  | setClock now => trivial

/-- The hour is dropped after a quarter of an hour, but the shortcut goes on pointing to it, so
the second value is logged to an hour that is not in the queue. -/
def staleOps : List StoreOp :=
  [.log ⟨7, 2, 5, 0⟩ 0x3FF0000000000000, .setClock 900001, .removeOld,
    .log ⟨7, 2, 5, 0⟩ 0x4000000000000000, .dataHourGet 8 true]

def staleResults : List StoreResult := [.logged true, .done, .done, .logged true, .dataHour 1]

def staleStore : DataManager :=
  leaves ((serve StoreOp.run staleOps).run (DataManager.start noFiles [] 0))

/-- The hour comes back from its file with the first value. -/
theorem stale_not_returnsAccepted : ¬∀ files variableCalculations now tr t,
    Trace StoreOp.run (DataManager.start files variableCalculations now) tr t →
      Throughout StoreOp.run (DataManager.start files variableCalculations now) ReturnsAccepted
        tr := by
  intro hall
  have hserved : outcome ((serve StoreOp.run staleOps).run (DataManager.start noFiles [] 0)) =
      some staleResults := by decide +kernel
  obtain ⟨htr, -⟩ := Trace.of_serve (run_eq_of_outcome hserved)
  have hget : outcome ((StoreOp.dataHourGet 5 true).run.run staleStore) = some (.dataHour 2) := by
    decide +kernel
  have hrun := run_eq_of_outcome hget
  have hreturns := hall noFiles [] 0 _ _ (htr.snoc hrun) _ _ _ [] _ rfl htr
  obtain ⟨-, hour, hcell, hhour, hkeeps⟩ := hreturns 5 true 2 _ rfl rfl hrun
    ⟨⟨7, 2, 5, 0⟩, 0x3FF0000000000000, rfl, by decide⟩
  obtain ⟨value, hsample, hfrom⟩ := hkeeps ((staleOps.zip staleResults).take 3) ⟨7, 2, 5, 0⟩
    0x4000000000000000 [(.dataHourGet 8 true, .dataHour 1)] rfl hhour.symm
  have hfirst : ((leaves ((StoreOp.dataHourGet 5 true).run.run staleStore)).objects.cells 2).bind
      (fun hour => hour.sampleAt ⟨7, 2, 5, 0⟩) = some 0x3FF0000000000000 := by decide +kernel
  rw [hcell, Option.bind_some, hsample] at hfirst
  obtain rfl := Option.some_inj.mp hfirst
  revert hfrom
  decide

end ZejfMeteo.Viewer
