import ZejfMeteo.ViewerHours
import Mathlib.Data.List.Induction
import Mathlib.Data.Set.Finite.Lemmas

/-!
# Computing as samples come in

`DirectComputation` leaves alone what it has finished, so a computed variable depends on all
the arrays that its runs have seen. It is compared with one that is computed afresh.
-/

namespace ZejfMeteo.Viewer

section Runs

variable {n : ℕ}

/-- A run of the computation over these raw samples. -/
def recalculate (data : Fin n → Value) (computed : ComputedVariable n) : ComputedVariable n :=
  ((List.finRange n).foldl (calculateSample data) (false, computed)).2

/-- What becomes of one computed sample. -/
def ComputedLog.next (log : ComputedLog) (val : Value) : ComputedLog :=
  if log.status = .finished then log
  else if val = valueEmpty then log
  else if val = valueNotMeasured then { log with status := .notMeasured }
  else ⟨val, .finished⟩

/-- The run finishes the sample. -/
def Finishes (computed : ComputedVariable n) (data : Fin n → Value) (i : Fin n) : Prop :=
  (computed.computedLogs i).status ≠ .finished ∧ Measured (data i)

variable {data : Fin n → Value} {computed : ComputedVariable n} {state : Bool × ComputedVariable n}
  {i : Fin n}

/-- One round changes one sample, and moves `lastLog` there if it finishes it. -/
lemma calculateSample_spec (data : Fin n → Value) (state : Bool × ComputedVariable n) (i : Fin n) :
    (calculateSample data state i).2.computedLogs =
        Function.update state.2.computedLogs i ((state.2.computedLogs i).next (data i)) ∧
      (Finishes state.2 data i → (calculateSample data state i).2.lastLog = i) ∧
      (¬Finishes state.2 data i → (calculateSample data state i).2.lastLog = state.2.lastLog) := by
  unfold calculateSample ComputedLog.next Finishes Measured
  dsimp only
  split_ifs with hfinished hempty hnot
  · simp [hfinished]
  · simp [hempty]
  · simp [hnot]
  · simp [hfinished, hempty, hnot]

lemma foldl_computedLogs {l : List (Fin n)} (hl : l.Nodup) (i : Fin n) :
    (l.foldl (calculateSample data) state).2.computedLogs i =
      if i ∈ l then (state.2.computedLogs i).next (data i) else state.2.computedLogs i := by
  induction l generalizing state with
  | nil => simp
  | cons j l ih =>
    rw [List.nodup_cons] at hl
    obtain ⟨hlogs, -, -⟩ := calculateSample_spec data state j
    rw [List.foldl_cons, ih hl.2, hlogs]
    by_cases hij : i = j
    · subst hij
      simp [hl.1]
    · simp [hij]

lemma recalculate_computedLogs (data : Fin n → Value) (computed : ComputedVariable n) (i : Fin n) :
    (recalculate data computed).computedLogs i = (computed.computedLogs i).next (data i) := by
  rw [recalculate, foldl_computedLogs (List.nodup_finRange n), if_pos (List.mem_finRange i)]

/-- The loop goes up, so `lastLog` ends at the greatest sample that it finishes. -/
lemma foldl_lastLog (data : Fin n → Value) (state : Bool × ComputedVariable n) {l : List (Fin n)}
    (hl : l.Pairwise (· < ·)) :
    ((∀ i ∈ l, ¬Finishes state.2 data i) →
        (l.foldl (calculateSample data) state).2.lastLog = state.2.lastLog) ∧
      ∀ m, IsGreatest {i | i ∈ l ∧ Finishes state.2 data i} m →
        (l.foldl (calculateSample data) state).2.lastLog = m := by
  induction l using List.reverseRecOn with
  | nil => simp [IsGreatest]
  | append_singleton l j ih =>
    obtain ⟨hl, -, hlast⟩ := List.pairwise_append.mp hl
    obtain ⟨hnone, hsome⟩ := ih hl
    have hj : j ∉ l := fun h => lt_irrefl j (hlast j h j (List.mem_singleton_self j))
    obtain ⟨-, hyes, hno⟩ := calculateSample_spec data (l.foldl (calculateSample data) state) j
    have hfinishes : Finishes (l.foldl (calculateSample data) state).2 data j ↔
        Finishes state.2 data j := by
      rw [Finishes, Finishes, foldl_computedLogs (hl.imp ne_of_lt), if_neg hj]
    rw [hfinishes] at hyes hno
    rw [List.foldl_concat]
    constructor
    · intro hall
      rw [hno (hall j (by simp)), hnone (fun i hi => hall i (List.mem_append_left _ hi))]
    · rintro m ⟨⟨hm, hmf⟩, hmax⟩
      by_cases hjf : Finishes state.2 data j
      · rw [hyes hjf]
        rcases List.mem_append.mp hm with hml | hmj
        · have hle : j ≤ m := hmax ⟨by simp, hjf⟩
          exact absurd (hlast m hml j (List.mem_singleton_self j)) (not_lt_of_ge hle)
        · rw [List.mem_singleton.mp hmj]
      · have hml : m ∈ l := by
          rcases List.mem_append.mp hm with hml | hmj
          · exact hml
          · exact absurd (List.mem_singleton.mp hmj ▸ hmf) hjf
        rw [hno hjf]
        exact hsome m ⟨⟨hml, hmf⟩, fun i hi => hmax ⟨List.mem_append_left _ hi.1, hi.2⟩⟩

lemma recalculate_lastLog_none (h : ∀ i, ¬Finishes computed data i) :
    (recalculate data computed).lastLog = computed.lastLog :=
  (foldl_lastLog data (false, computed) (List.pairwise_lt_finRange n)).1 (fun i _ => h i)

lemma recalculate_lastLog {m : Fin n} (h : IsGreatest {i | Finishes computed data i} m) :
    (recalculate data computed).lastLog = m :=
  (foldl_lastLog data (false, computed) (List.pairwise_lt_finRange n)).2 m
    ⟨⟨List.mem_finRange m, h.1⟩, fun _ hi => h.2 hi.2⟩

lemma recalculate_nothing (computed : ComputedVariable n) :
    recalculate (fun _ => valueEmpty) computed = computed := by
  have hnone : ∀ i, ¬Finishes computed (fun _ => valueEmpty) i := by
    rintro i ⟨-, hval⟩
    exact hval.1 rfl
  have hlast := recalculate_lastLog_none hnone
  have hlogs : (recalculate (fun _ => valueEmpty) computed).computedLogs = computed.computedLogs := by
    funext i
    rw [recalculate_computedLogs, ComputedLog.next]
    simp
  cases hc : recalculate (fun _ => valueEmpty) computed
  cases computed
  rw [hc] at hlast hlogs
  dsimp only at hlast hlogs
  rw [hlast, hlogs]

lemma calculateValue_computed (now : ℤ) (c : VariableComputation) (dataHour : DataHour)
    (computed : ComputedVariable c.samplesPerHour) :
    (calculateValue now c dataHour computed).2.2 =
      recalculate (dataHour.raw c.variableId c.samplesPerHour) computed := by
  rw [calculateValue, DataHour.getVariable_eq, DataHour.raw]
  cases DataHour.findVariable c.variableId c.samplesPerHour dataHour.variablesRaw with
  | some var => rfl
  | none => exact (recalculate_nothing computed).symm

/-- What runs over these arrays compute, one after the other. -/
def computedAfter (rs : List (Fin n → Value)) : ComputedVariable n :=
  rs.foldl (fun computed data => recalculate data computed) (ComputedVariable.new n)

/-- A computed sample shows the first measured value that a run has seen. -/
def summary (vals : List Value) : ComputedLog :=
  match vals.find? (fun val => decide (Measured val)) with
  | some val => ⟨val, .finished⟩
  | none => ⟨0, if valueNotMeasured ∈ vals then .notMeasured else .empty⟩

lemma computedAfter_concat (rs : List (Fin n → Value)) (data : Fin n → Value) :
    computedAfter (rs ++ [data]) = recalculate data (computedAfter rs) := List.foldl_concat ..

lemma summary_concat (vals : List Value) (val : Value) :
    summary (vals ++ [val]) = (summary vals).next val := by
  unfold summary ComputedLog.next
  rw [List.find?_append]
  cases hfind : vals.find? (fun val => decide (Measured val)) with
  | some v => simp
  | none =>
    by_cases hempty : val = valueEmpty
    · have hne : valueNotMeasured ≠ valueEmpty := by decide
      subst hempty
      simp [Measured, hne]
    · by_cases hnot : val = valueNotMeasured
      · subst hnot
        simp [Measured, hempty]
        split <;> simp_all
      · simp [Measured, hempty, hnot]
        split <;> simp_all

lemma computedAfter_computedLogs (rs : List (Fin n → Value)) (i : Fin n) :
    (computedAfter rs).computedLogs i = summary (rs.map (· i)) := by
  induction rs using List.reverseRecOn with
  | nil => rfl
  | append_singleton rs data ih =>
    rw [computedAfter_concat, recalculate_computedLogs, ih, List.map_append, List.map_singleton,
      summary_concat]

/-- Some run has seen a measured value of the sample. -/
def Found (rs : List (Fin n → Value)) (i : Fin n) : Prop := ∃ r ∈ rs, Measured (r i)

/-- The first run that has. -/
def round (rs : List (Fin n → Value)) (i : Fin n) : ℕ :=
  rs.findIdx (fun r => decide (Measured (r i)))

/-- The sample was found in the last run that found any, and is the greatest of those. -/
def Latest (rs : List (Fin n → Value)) (m : Fin n) : Prop :=
  Found rs m ∧ ∀ j, Found rs j →
    round rs j < round rs m ∨ round rs j = round rs m ∧ j ≤ m

variable {rs : List (Fin n → Value)} {m j : Fin n}

lemma found_concat : Found (rs ++ [data]) i ↔ Found rs i ∨ Measured (data i) := by
  simp [Found, or_and_right, exists_or]

lemma round_lt (h : Found rs i) : round rs i < rs.length := by
  obtain ⟨r, hr, hval⟩ := h
  exact List.findIdx_lt_length_of_exists ⟨r, hr, by simpa using hval⟩

lemma round_concat_found (h : Found rs i) : round (rs ++ [data]) i = round rs i := by
  rw [round, List.findIdx_append]
  exact if_pos (round_lt h)

lemma round_concat_new (h : ¬Found rs i) (hval : Measured (data i)) :
    round (rs ++ [data]) i = rs.length := by
  have hlength : rs.findIdx (fun r => decide (Measured (r i))) = rs.length := by
    rw [List.findIdx_eq_length]
    intro r hr
    simpa using fun hv => h ⟨r, hr, hv⟩
  rw [round, List.findIdx_append, hlength, if_neg (lt_irrefl _)]
  simp [hval]

lemma summary_status (vals : List Value) :
    (summary vals).status = .finished ↔ ∃ val ∈ vals, Measured val := by
  unfold summary
  cases hfind : vals.find? (fun val => decide (Measured val)) with
  | some val =>
    have hval := List.find?_some hfind
    have hmem := List.mem_of_find?_eq_some hfind
    exact iff_of_true rfl ⟨val, hmem, by simpa using hval⟩
  | none =>
    rw [List.find?_eq_none] at hfind
    refine iff_of_false ?_ ?_
    · dsimp only
      split <;> simp
    · rintro ⟨val, hmem, hval⟩
      exact hfind val hmem (by simpa using hval)

lemma finishes_iff : Finishes (computedAfter rs) data i ↔ ¬Found rs i ∧ Measured (data i) := by
  have hstatus := summary_status (rs.map (· i))
  rw [← computedAfter_computedLogs] at hstatus
  rw [Finishes, Ne, hstatus, Found]
  simp

/-- `lastLog` is the latest sample, if any has been found. -/
lemma computedAfter_lastLog (rs : List (Fin n → Value)) :
    ((∀ i, ¬Found rs i) ∧ (computedAfter rs).lastLog = 0) ∨
      ∃ m, Latest rs m ∧ (computedAfter rs).lastLog = m := by
  induction rs using List.reverseRecOn with
  | nil => exact Or.inl ⟨fun i => by simp [Found], rfl⟩
  | append_singleton rs data ih =>
    rw [computedAfter_concat]
    by_cases hnew : ∃ i, Finishes (computedAfter rs) data i
    · obtain ⟨m, hm, hmax⟩ := Set.exists_max_image {i | Finishes (computedAfter rs) data i} id
        (Set.toFinite _) hnew
      refine Or.inr ⟨m, ⟨?_, ?_⟩, recalculate_lastLog ⟨hm, hmax⟩⟩
      · exact found_concat.mpr (Or.inr hm.2)
      · obtain ⟨hmold, hmval⟩ := finishes_iff.mp hm
        intro j hj
        rw [round_concat_new hmold hmval]
        by_cases hjold : Found rs j
        · rw [round_concat_found hjold]
          exact Or.inl (round_lt hjold)
        · have hjval := (found_concat.mp hj).resolve_left hjold
          rw [round_concat_new hjold hjval]
          exact Or.inr ⟨rfl, hmax j (finishes_iff.mpr ⟨hjold, hjval⟩)⟩
    · -- A run that finishes nothing finds nothing new.
      rw [recalculate_lastLog_none (not_exists.mp hnew)]
      have hfound : ∀ i, Found (rs ++ [data]) i ↔ Found rs i := by
        intro i
        rw [found_concat]
        refine ⟨?_, Or.inl⟩
        rintro (hold | hval)
        · exact hold
        · by_contra hold
          exact hnew ⟨i, finishes_iff.mpr ⟨hold, hval⟩⟩
      rcases ih with ⟨hnone, hzero⟩ | ⟨m, ⟨hm, hmax⟩, hlast⟩
      · exact Or.inl ⟨fun i hi => hnone i ((hfound i).mp hi), hzero⟩
      · refine Or.inr ⟨m, ⟨(hfound m).mpr hm, ?_⟩, hlast⟩
        intro j hj
        have hj' := (hfound j).mp hj
        rw [round_concat_found hm, round_concat_found hj']
        exact hmax j hj'

/-- The two agree on the status of every sample, on the values of the finished ones and on the
last log. -/
structure ComputedVariable.Agrees (computed fresh : ComputedVariable n) : Prop where
  status : ∀ i, (computed.computedLogs i).status = (fresh.computedLogs i).status
  value : ∀ i, (fresh.computedLogs i).status = .finished →
    (computed.computedLogs i).value = (fresh.computedLogs i).value
  lastLog : computed.lastLog = fresh.lastLog

/-- What the runs have seen is settled by the final samples: the first measured value of a
sample that a run has seen is its final one, no sample that is finally empty was seen as not
measured, and no sample was first seen measured in a later run than the greatest of all. -/
structure Settled (rs : List (Fin n → Value)) (final : Fin n → Value) : Prop where
  value : ∀ i, ∀ val ∈ (rs.map (· i)).find? (fun val => decide (Measured val)), val = final i
  marked : ∀ i, final i = valueEmpty → ∀ r ∈ rs, r i ≠ valueNotMeasured
  order : ∀ m, IsGreatest {i | Measured (final i)} m → ∀ j, Measured (final j) →
    round rs j ≤ round rs m

lemma summary_value {vals : List Value} {val : Value}
    (h : vals.find? (fun val => decide (Measured val)) = some val) :
    summary vals = ⟨val, .finished⟩ := by
  rw [summary, h]

lemma summary_none {vals : List Value}
    (h : vals.find? (fun val => decide (Measured val)) = none) :
    summary vals = ⟨0, if valueNotMeasured ∈ vals then .notMeasured else .empty⟩ := by
  rw [summary, h]

variable {final : Fin n → Value}

/-- One sample agrees exactly if its part of `Settled` holds. -/
lemma summary_agrees_iff {vals : List Value} {val : Value} (hlast : val ∈ vals)
    (hkept : ∀ v ∈ vals, Measured v → Measured val) :
    ((summary vals).status = (summary [val]).status ∧
        ((summary [val]).status = .finished → (summary vals).value = (summary [val]).value)) ↔
      (∀ v ∈ vals.find? (fun val => decide (Measured val)), v = val) ∧
        (val = valueEmpty → valueNotMeasured ∉ vals) := by
  by_cases hval : Measured val
  · have hone : summary [val] = ⟨val, .finished⟩ := summary_value (by simp [hval])
    cases hfind : vals.find? (fun val => decide (Measured val)) with
    | none => exact absurd hval (by simpa using List.find?_eq_none.mp hfind val hlast)
    | some v =>
      rw [hone, summary_value hfind]
      simp [hval.1]
  · have hnone : vals.find? (fun val => decide (Measured val)) = none := by
      rw [List.find?_eq_none]
      intro v hv
      simpa using fun hm => hval (hkept v hv hm)
    have hone : summary [val] = ⟨0, if valueNotMeasured ∈ [val] then .notMeasured else .empty⟩ :=
      summary_none (by simp [hval])
    rw [hone, summary_none hnone, hnone]
    by_cases hempty : val = valueEmpty
    · have hne : valueNotMeasured ≠ valueEmpty := by decide
      subst hempty
      by_cases hmem : valueNotMeasured ∈ vals <;> simp [hmem, hne]
    · have hnot : val = valueNotMeasured := by
        by_contra hnot
        exact hval ⟨hempty, hnot⟩
      subst hnot
      simp [hlast, hempty]

/-- Where the samples agree that have been found, `lastLog` agrees if the greatest of them was
found last. -/
lemma lastLog_agrees_iff (hlast : final ∈ rs)
    (hkept : ∀ r ∈ rs, ∀ i, Measured (r i) → Measured (final i)) :
    (computedAfter rs).lastLog = (computedAfter [final]).lastLog ↔
      ∀ m, IsGreatest {i | Measured (final i)} m → ∀ j, Measured (final j) →
        round rs j ≤ round rs m := by
  have hfound : ∀ i, Found rs i ↔ Measured (final i) := by
    intro i
    refine ⟨?_, fun h => ⟨final, hlast, h⟩⟩
    rintro ⟨r, hr, hval⟩
    exact hkept r hr i hval
  have hone : ∀ i, Found [final] i ↔ Measured (final i) := by
    intro i
    simp [Found]
  have hround : ∀ i, Measured (final i) → round [final] i = 0 := by
    intro i hi
    simp [round, hi]
  rcases computedAfter_lastLog rs with ⟨hnone, hzero⟩ | ⟨m, ⟨hm, hmax⟩, hm'⟩
  · have hnot : ∀ i, ¬Measured (final i) := fun i hi => hnone i ((hfound i).mpr hi)
    have hzero' : (computedAfter [final]).lastLog = 0 := by
      rcases computedAfter_lastLog [final] with ⟨-, h⟩ | ⟨m, ⟨hm, -⟩, -⟩
      · exact h
      · exact absurd ((hone m).mp hm) (hnot m)
    rw [hzero, hzero']
    exact iff_of_true rfl (fun m _ j hj => absurd hj (hnot j))
  · obtain ⟨g, ⟨hg, hgmax⟩, hg'⟩ : ∃ g, IsGreatest {i | Measured (final i)} g ∧
        (computedAfter [final]).lastLog = g := by
      rcases computedAfter_lastLog [final] with ⟨hnone, -⟩ | ⟨g, ⟨hg, hgmax⟩, hg'⟩
      · exact absurd ((hone m).mpr ((hfound m).mp hm)) (hnone m)
      · refine ⟨g, ⟨(hone g).mp hg, ?_⟩, hg'⟩
        intro j hj
        rcases hgmax j ((hone j).mpr hj) with hlt | ⟨-, hle⟩
        · rw [hround j hj] at hlt
          rw [hround g ((hone g).mp hg)] at hlt
          omega
        · exact hle
    rw [hm', hg']
    constructor
    · intro he m' hm'' j hj
      obtain rfl : m = g := Fin.ext he
      obtain rfl : m' = m := le_antisymm (hgmax hm''.1) (hm''.2 hg)
      rcases hmax j ((hfound j).mpr hj) with hlt | ⟨heq, -⟩
      · exact hlt.le
      · exact heq.le
    · intro horder
      have hle := horder g ⟨hg, hgmax⟩ m ((hfound m).mp hm)
      rcases hmax g ((hfound g).mpr hg) with hlt | ⟨-, hgm⟩
      · omega
      · exact congrArg Fin.val (le_antisymm (hgmax ((hfound m).mp hm)) hgm)

/-- Runs that have seen measured samples stay measured agree with one run over the final
samples exactly if they settle on them. -/
theorem agrees_iff_settled (hlast : final ∈ rs)
    (hkept : ∀ r ∈ rs, ∀ i, Measured (r i) → Measured (final i)) :
    (computedAfter rs).Agrees (recalculate final (ComputedVariable.new n)) ↔ Settled rs final := by
  have hfresh : recalculate final (ComputedVariable.new n) = computedAfter [final] := rfl
  have hlog := lastLog_agrees_iff hlast hkept
  have hsample : ∀ i, _ ↔ _ := fun i => @summary_agrees_iff (rs.map (· i)) (final i)
    (List.mem_map_of_mem hlast) (by
      intro v hv hm
      obtain ⟨r, hr, rfl⟩ := List.mem_map.mp hv
      exact hkept r hr i hm)
  have hmarked : ∀ i, valueNotMeasured ∉ rs.map (· i) ↔ ∀ r ∈ rs, r i ≠ valueNotMeasured := by
    intro i
    simp
  rw [hfresh]
  constructor
  · rintro ⟨hstatus, hvalue, hlastLog⟩
    have hboth : ∀ i, _ := fun i => (hsample i).mp ⟨by
      have h := hstatus i
      rwa [computedAfter_computedLogs, computedAfter_computedLogs] at h, by
      have h := hvalue i
      rwa [computedAfter_computedLogs, computedAfter_computedLogs] at h⟩
    exact ⟨fun i => (hboth i).1, fun i he => (hmarked i).mp ((hboth i).2 he), hlog.mp hlastLog⟩
  · rintro ⟨hvalue, hmark, horder⟩
    have hboth : ∀ i, _ := fun i =>
      (hsample i).mpr ⟨hvalue i, fun he => (hmarked i).mpr (hmark i he)⟩
    refine ⟨?_, ?_, hlog.mpr horder⟩
    · intro i
      rw [computedAfter_computedLogs, computedAfter_computedLogs]
      exact (hboth i).1
    · intro i
      rw [computedAfter_computedLogs, computedAfter_computedLogs]
      exact (hboth i).2

end Runs

/-- A value logged to some variable of the hour, or a run of the computation. -/
inductive HourOp
  | log (now id : ℤ) (n : ℕ) (sampleNumber : ℤ) (value : Value)
  | calculate (now : ℤ)

/-- An hour with one of its computed variables. -/
structure Computing (c : VariableComputation) where
  dataHour : DataHour
  computed : ComputedVariable c.samplesPerHour

namespace Computing

variable {c : VariableComputation}

def step (s : Computing c) : HourOp → Computing c
  | .log now id n sampleNumber value =>
    { s with dataHour := (s.dataHour.log now id n sampleNumber value).2 }
  | .calculate now =>
    let (_, dataHour, computed) := calculateValue now c s.dataHour s.computed
    ⟨dataHour, computed⟩

def run (s : Computing c) (ops : List HourOp) : Computing c := ops.foldl step s

/-- Nothing has been computed of this hour. -/
def start (c : VariableComputation) (dataHour : DataHour) : Computing c :=
  ⟨dataHour, ComputedVariable.new c.samplesPerHour⟩

/-- The raw samples that the computation reads. -/
def raw (s : Computing c) : Fin c.samplesPerHour → Value :=
  s.dataHour.raw c.variableId c.samplesPerHour

/-- The raw samples, each time they are computed from. -/
def seen (s : Computing c) : List HourOp → List (Fin c.samplesPerHour → Value)
  | [] => []
  | .log now id n sampleNumber value :: ops => (s.step (.log now id n sampleNumber value)).seen ops
  | .calculate now :: ops => s.raw :: (s.step (.calculate now)).seen ops

lemma run_concat (s : Computing c) (ops : List HourOp) (op : HourOp) :
    s.run (ops ++ [op]) = (s.run ops).step op := List.foldl_concat ..

lemma step_calculate_raw (s : Computing c) (now : ℤ) : (s.step (.calculate now)).raw = s.raw := by
  show (calculateValue now c s.dataHour s.computed).2.1.raw _ _ = _
  rw [DataHour.calculateValue_hour, DataHour.getVariable_raw]
  rfl

lemma step_calculate_computed (s : Computing c) (now : ℤ) :
    (s.step (.calculate now)).computed = recalculate s.raw s.computed :=
  calculateValue_computed now c s.dataHour s.computed

/-- No operation takes a measured sample away. -/
lemma step_kept (s : Computing c) (op : HourOp) {i : Fin c.samplesPerHour} (h : Measured (s.raw i)) :
    Measured ((s.step op).raw i) := by
  cases op with
  | calculate now =>
    rw [step_calculate_raw]
    exact h
  | log now id n sampleNumber value =>
    by_cases hsame : n = c.samplesPerHour ∧ id = c.variableId
    · obtain ⟨rfl, rfl⟩ := hsame
      have hlog := (Prod.mk.inj (DataHour.log_raw_self s.dataHour now c.variableId
        c.samplesPerHour sampleNumber value)).2
      show Measured ((s.dataHour.log now c.variableId c.samplesPerHour sampleNumber value).2.raw
        c.variableId c.samplesPerHour i)
      rw [hlog]
      exact DataHour.logSample_kept h
    · show Measured ((s.dataHour.log now id n sampleNumber value).2.raw
        c.variableId c.samplesPerHour i)
      rw [DataHour.log_raw_ne hsame]
      exact h

lemma run_kept (s : Computing c) (ops : List HourOp) {i : Fin c.samplesPerHour}
    (h : Measured (s.raw i)) : Measured ((s.run ops).raw i) := by
  induction ops generalizing s with
  | nil => exact h
  | cons op ops ih => exact ih (s.step op) (s.step_kept op h)

lemma seen_kept (s : Computing c) (ops : List HourOp) :
    ∀ r ∈ s.seen ops, ∀ i, Measured (r i) → Measured ((s.run ops).raw i) := by
  induction ops generalizing s with
  | nil =>
    intro r hr
    cases hr
  | cons op ops ih =>
    intro r hr i hi
    cases op with
    | log now id n sampleNumber value => exact ih (s.step _) r hr i hi
    | calculate now =>
      rcases List.mem_cons.mp hr with rfl | hr
      · exact run_kept s (.calculate now :: ops) hi
      · exact ih (s.step _) r hr i hi

/-- What has been computed depends on the samples seen alone. -/
lemma run_computed (s : Computing c) (ops : List HourOp) :
    (s.run ops).computed =
      (s.seen ops).foldl (fun computed data => recalculate data computed) s.computed := by
  induction ops generalizing s with
  | nil => rfl
  | cons op ops ih =>
    have hstep := ih (s.step op)
    cases op with
    | log now id n sampleNumber value => exact hstep
    | calculate now =>
      rw [step_calculate_computed] at hstep
      exact hstep

lemma seen_concat_calculate (s : Computing c) (ops : List HourOp) (now : ℤ) :
    (s.run ops).raw ∈ s.seen (ops ++ [.calculate now]) := by
  induction ops generalizing s with
  | nil => exact List.mem_cons_self
  | cons op ops ih =>
    cases op with
    | log now id n sampleNumber value => exact ih (s.step _)
    | calculate now => exact List.mem_cons_of_mem _ (ih (s.step _))

/-- **When computing as samples come in equals computing afresh**: whatever has been logged,
after a run of the computation. -/
theorem incremental_agrees_iff (dataHour : DataHour) (ops : List HourOp) (now : ℤ) :
    ((start c dataHour).run (ops ++ [.calculate now])).computed.Agrees
        (calculateValue now c ((start c dataHour).run (ops ++ [.calculate now])).dataHour
          (ComputedVariable.new c.samplesPerHour)).2.2 ↔
      Settled ((start c dataHour).seen (ops ++ [.calculate now]))
        ((start c dataHour).run ops).raw := by
  have hraw : ((start c dataHour).run (ops ++ [.calculate now])).raw =
      ((start c dataHour).run ops).raw := by
    rw [run_concat, step_calculate_raw]
  have hkept := seen_kept (start c dataHour) (ops ++ [.calculate now])
  rw [hraw] at hkept
  rw [← agrees_iff_settled (seen_concat_calculate _ ops now) hkept, calculateValue_computed]
  show _ ↔ ComputedVariable.Agrees (computedAfter _) (recalculate _ _)
  rw [← hraw, run_computed]
  rfl

def hourly : VariableComputation := ⟨7, 2, 0⟩

/-- Sample 1 comes before sample 0, which is then logged again; the patterns are those of the
values 1 and 2. -/
def lateOps : List HourOp :=
  [.log 0 7 2 1 0x3FF0000000000000, .calculate 1, .log 2 7 2 0 0x3FF0000000000000, .calculate 3,
    .log 4 7 2 0 0x4000000000000000]

/-- `lastLog` points to sample 0, which still shows its first value. -/
theorem lateOps_not_agrees :
    ¬((start hourly (DataHour.new 0 0)).run (lateOps ++ [.calculate 5])).computed.Agrees
      (calculateValue 5 hourly
        ((start hourly (DataHour.new 0 0)).run (lateOps ++ [.calculate 5])).dataHour
        (ComputedVariable.new 2)).2.2 := by
  intro h
  have hvalue := h.value (⟨0, by decide⟩ : Fin 2) (by decide +kernel)
  revert hvalue
  decide +kernel

end Computing

end ZejfMeteo.Viewer
