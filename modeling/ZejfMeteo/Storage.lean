import ZejfMeteo.DataRuns

/-!
# Storage that recalls what was saved

`hour_load` returns the bytes that `hour_save` has saved last. Saving may fail at any time, and
then the files stay as they were.
-/

namespace ZejfMeteo
open Runs

variable {δ : Type}

structure RecallingStorage (T : Target δ) where
  files : δ → UInt32 → Option (List UInt8)
  load_missing : ∀ n p, files p n = none → (T.hourLoad n p).1.1 = .fileDoesntExist
  load_saved : ∀ n p b, files p n = some b → (T.hourLoad n p).1 = (.ok, b)
  load_files : ∀ n p, files (T.hourLoad n p).2 = files p
  save_files : ∀ n b p, files (T.hourSave n b p).2 =
    if (T.hourSave n b p).1 = .ok then Function.update (files p) n (some b) else files p

namespace RecallingStorage

variable {T : Target δ} (D : RecallingStorage T)

/-- Every file is that of a well-formed hour of its number. -/
def WellFormed (p : δ) : Prop :=
  ∀ n b, D.files p n = some b →
    ∃ hour : DataHour, hour.WellFormed T.toSettings ∧ hour.hourId = n ∧ b = hourBytes hour.sealed

/-- What the last saved file of an hour decodes to, if it was ever saved. -/
def Saved (p : δ) (n : UInt32) (vars : List Variable) : Prop :=
  match D.files p n with
  | none => vars = []
  | some b => ∃ hour, hourDeserialize T.toSettings b b.length = some hour ∧ hour.vars = vars

variable {p p' : δ} {n : UInt32} {hour : DataHour} {vars : List Variable}

lemma fetched_saved (hwf : hour.WellFormed T.toSettings)
    (hfile : D.files p n = some (hourBytes hour.sealed)) (create : Bool) :
    fetched T n true create p = some { hour.sealed with flags := 0 } := by
  simp [fetched, D.load_saved n p _ hfile, hourDeserialize_hourBytes hwf]

lemma fetched_missing (hfile : D.files p n = none) (create : Bool) :
    fetched T n true create p = if create then some (hourCreate n) else none := by
  have hload := D.load_missing n p hfile
  rcases hl : T.hourLoad n p with ⟨⟨rv, buffer⟩, p'⟩
  rw [hl] at hload
  simp only at hload
  subst hload
  simp [fetched, hl]

lemma afterLoad_files (n : UInt32) (load : Bool) (p : δ) :
    D.files (afterLoad T n load p) = D.files p := by
  cases load with
  | false => rfl
  | true => exact D.load_files n p

variable {D}

/-- What a miss brings in is the hour that was asked for. With `load` it has what is saved of
it. -/
lemma fetched_hour (hfiles : D.WellFormed p) {load create : Bool}
    (hnew : fetched T n load create p = some hour) :
    hour.hourId = n ∧ (load = true → D.Saved p n hour.vars) := by
  cases load with
  | false =>
    cases create with
    | false => cases hnew
    | true =>
      obtain rfl := Option.some.inj hnew
      exact ⟨rfl, fun h => by cases h⟩
  | true =>
    unfold Saved
    cases hf : D.files p n with
    | none =>
      rw [D.fetched_missing hf] at hnew
      cases create with
      | false => cases hnew
      | true =>
        obtain rfl := Option.some.inj hnew
        exact ⟨rfl, fun _ => rfl⟩
    | some b =>
      obtain ⟨saved, hwf, hid, rfl⟩ := hfiles n b hf
      rw [D.fetched_saved hwf hf] at hnew
      obtain rfl := Option.some.inj hnew
      exact ⟨hid, fun _ => ⟨_, hourDeserialize_hourBytes hwf, rfl⟩⟩

lemma Saved.congr (h : D.Saved p n vars) (hfiles : D.files p' n = D.files p n) :
    D.Saved p' n vars := by
  unfold Saved at h ⊢
  rwa [hfiles]

/-- Only one list of variables is saved of an hour. -/
lemma Saved.unique {vars' : List Variable} (h : D.Saved p n vars) (h' : D.Saved p n vars') :
    vars = vars' := by
  unfold Saved at h h'
  cases hf : D.files p n with
  | none =>
    rw [hf] at h h'
    exact h.trans h'.symm
  | some b =>
    rw [hf] at h h'
    obtain ⟨hour, hd, rfl⟩ := h
    obtain ⟨hour', hd', rfl⟩ := h'
    rw [Option.some.inj (hd.symm.trans hd')]

/-- The file of an hour that has been saved has its variables. -/
lemma saved_of_file (hwf : hour.WellFormed T.toSettings)
    (hfile : D.files p n = some (hourBytes hour.sealed)) : D.Saved p n hour.vars := by
  unfold Saved
  rw [hfile]
  exact ⟨_, hourDeserialize_hourBytes hwf, rfl⟩

end RecallingStorage

/-- A platform that keeps its files in a map, with a list of which of its next saves succeed. -/
def Target.failing (settings : Settings) :
    Target ((UInt32 → Option (List UInt8)) × List Bool) where
  toSettings := settings
  hourLoad n p := ((p.1 n).elim (.fileDoesntExist, []) (fun b => (.ok, b)), p)
  hourSave n b p :=
    if p.2.head? = some false then (.io, p.1, p.2.tail)
    else (.ok, Function.update p.1 n (some b), p.2.tail)
  networkSendVia _ _ _ p := (.ok, p)
  getAllInterfaces _ := []
  providedVariables := []
  demandedVariables := []
  printValue _ := []
  scanValue _ := none
  doubleToUInt32 := Double.toUInt32
  doubleToUInt32_eq := toUInt32_conforms

def RecallingStorage.failing (settings : Settings) : RecallingStorage (Target.failing settings) where
  files p := p.1
  load_missing n p h := by simp [Target.failing, h]
  load_saved n p b h := by simp [Target.failing, h]
  load_files _ _ := rfl
  save_files n b p := by
    by_cases hfails : p.2.head? = some false
    · simp [Target.failing, hfails]
    · simp [Target.failing, hfails]

end ZejfMeteo
