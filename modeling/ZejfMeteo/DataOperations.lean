import ZejfMeteo.CacheTransparency

/-!
# Sequences of data operations

Any sequence of calls to the data functions returns what it returns on the reference store:
neither the capacity of the cache nor what it evicts and reloads can be observed.
-/

namespace ZejfMeteo
open Runs

variable {δ : Type} {T : Target δ}

/-- A call of one of the data functions. -/
inductive DataOp
  | log (target : VariableInfo) (hourNumber sampleNumber : UInt32) (value : Sample)
      (time : UInt32) (announce : Bool)
  | getVal (info : VariableInfo) (hourNumber logNumber : UInt32)
  | check (info : VariableInfo) (hourNum logNum : UInt32)
  | save

/-- A result code, with the value or the count where there is one. -/
abbrev DataOut := ZejfErr × Option UInt32

namespace DataOp

def run (T : Target δ) : DataOp → Run (Globals δ) DataOut
  | log target hourNumber sampleNumber value time announce => do
    return (← dataLog T target hourNumber sampleNumber value time announce, none)
  | getVal info hourNumber logNumber => dataGetVal T info hourNumber logNumber true false
  | check info hourNum logNum => calculateDataCheck T info hourNum logNum
  | save => do
    dataSave T
    return (.ok, none)

/-- Saving means nothing to the reference store. -/
def spec (T : Target δ) : DataOp → RefStore → DataOut × RefStore
  | log target hourNumber sampleNumber value _ _, m =>
    let (rv, m) := m.log T.toSettings target hourNumber sampleNumber value
    ((rv, none), m)
  | getVal info hourNumber logNumber, m => (m.getVal info hourNumber logNumber, m)
  | check info hourNum logNum, m => m.check (isProvided T info) info hourNum logNum
  | save, m => ((.ok, none), m)

end DataOp

/-- The call is a log to this slot that returned `ZEJF_OK`. -/
def AcknowledgedLog (id : UInt16) (hourNumber sampleNumber : UInt32) (op : DataOp)
    (out : DataOut) : Prop :=
  ∃ target value time announce, op = .log target hourNumber sampleNumber value time announce ∧
    target.id = id ∧ out.1 = .ok

/-- In a trace of calls and their results, a measured sample that was acknowledged is read
back unless another log to its slot has been acknowledged in between. -/
def ReadsBack (trace : List (DataOp × DataOut)) : Prop :=
  ∀ pre mid post target hourNumber sampleNumber value time announce info out,
    trace = pre ++ (.log target hourNumber sampleNumber value time announce, (.ok, none)) ::
      (mid ++ (.getVal info hourNumber sampleNumber, out) :: post) →
    Measured value → info.id = target.id →
    (∀ p ∈ mid, ¬AcknowledgedLog target.id hourNumber sampleNumber p.1 p.2) →
    out = (.ok, some value)

/-- A device that serves data operations: its cache and files stand for the reference store,
and its network is in order. -/
def ServesData (D : FaithfulStorage T) (s : Globals δ) (m : RefStore) : Prop :=
  ∃ xs tx rx es, Couples D s xs m ∧ NetworkHolds T s tx rx es

lemma DataOp.simulates (D : FaithfulStorage T) :
    Simulates (DataOp.run T) (DataOp.spec T) (ServesData D) := by
  rintro op s m ⟨xs, tx, rx, es, hc, hn⟩
  cases op with
  | log target n k value time announce =>
    obtain ⟨ys, q, p, tq, ps, sent, hrun, hc', hn'⟩ :=
      dataLog_run hc hn target n k value time announce
    refine ⟨_, ?_, ys, _, rx, es, hc', hn'⟩
    rw [DataOp.run, run_bind_ok hrun]
    rfl
  | getVal info n k =>
    obtain ⟨ys, q, p, hrun, hc'⟩ := dataGetVal_run hc info n k
    exact ⟨_, hrun, ys, tx, rx, es, hc', hn.data q p⟩
  | check info n k =>
    obtain ⟨ys, q, p, hrun, hc'⟩ := calculateDataCheck_run hc info n k
    exact ⟨_, hrun, ys, tx, rx, es, hc', hn.data q p⟩
  | save =>
    obtain ⟨ys, q, p, hrun, hc'⟩ := dataSave_run hc
    refine ⟨_, ?_, ys, tx, rx, es, hc', hn.data q p⟩
    rw [DataOp.run, run_bind_ok hrun]
    rfl

/-- An empty cache over empty storage stands for the empty reference store. -/
lemma Couples.initial (D : FaithfulStorage T) {s : Globals δ}
    (hqueue : s.dataQueue = listCreate DataHour T.hourBufferSize)
    (hfiles : ∀ n, D.files s.platform n = none) : Couples D s [] RefStore.empty where
  cache := .empty hqueue
  ids := List.nodup_nil
  files n b hb := by
    rw [hfiles] at hb
    cases hb
  agrees n := by
    rw [localVars_missed (by simp), fetched_missing (D := D) (hfiles n)]
    exact agrees_empty

/-- No call changes a measured sample but an acknowledged log to its slot. -/
lemma DataOp.spec_sample {n : UInt32} {id : UInt16} {k : UInt32} {value : Sample}
    (hvalue : Measured value) (op : DataOp) (m : RefStore) (hs : m.sample n id k = some value)
    (hop : ¬AcknowledgedLog id n k op (op.spec T m).1) :
    (op.spec T m).2.sample n id k = some value := by
  cases op with
  | log target n' k' value' time announce =>
    refine RefStore.sample_log hs ?_
    rintro ⟨rfl, hid, rfl, hok⟩
    exact hop ⟨target, value', time, announce, rfl, hid, hok⟩
  | getVal info n' k' => exact hs
  | check info n' k' => exact RefStore.sample_check hs hvalue.1
  | save => exact hs

/-- The reference store reads back what it has acknowledged. -/
lemma specAll_readsBack (ops : List DataOp) (m : RefStore) :
    ReadsBack (ops.zip (specAll (DataOp.spec T) ops m).1) := by
  intro pre mid post target n k value time announce info out htrace hvalue hid hmid
  obtain ⟨m₁, ops₁, -, hlog, hrest⟩ := specAll_reaches (P := fun _ => True)
    (A := fun _ _ => True) (fun _ _ _ _ => trivial) trivial htrace (fun _ _ => trivial)
  have hok : (m₁.log T.toSettings target n k value).1 = .ok := (congrArg Prod.fst hlog).symm
  obtain ⟨m₂, -, hs, rfl, -⟩ := specAll_reaches (P := fun m => m.sample n target.id k = some value)
    (A := fun op out => ¬AcknowledgedLog target.id n k op out)
    (DataOp.spec_sample hvalue) (RefStore.sample_of_log hok) hrest.symm hmid
  exact RefStore.getVal_of_sample (hid ▸ hs)

/-- The bounded cache cannot be told from a store that keeps everything in memory, however
small it is, and acknowledged samples are read back across evictions and reloads. -/
theorem dataOperations_transparent (D : FaithfulStorage T) {s : Globals δ} {tx rx : List Queued}
    {es : List RoutingEntry} (hqueue : s.dataQueue = listCreate DataHour T.hourBufferSize)
    (hfiles : ∀ n, D.files s.platform n = none) (hnetwork : NetworkHolds T s tx rx es)
    (ops : List DataOp) :
    ∃ s', (runAll (DataOp.run T) ops).run s =
        .ok (specAll (DataOp.spec T) ops RefStore.empty).1 s' ∧
      ReadsBack (ops.zip (specAll (DataOp.spec T) ops RefStore.empty).1) := by
  obtain ⟨s', hrun, -⟩ := (DataOp.simulates D).runAll ops
    ⟨[], tx, rx, es, Couples.initial D hqueue hfiles, hnetwork⟩
  exact ⟨s', hrun, specAll_readsBack ops RefStore.empty⟩

/-- A platform that keeps its files in a map. -/
def Target.disk (settings : Settings) : Target (UInt32 → Option (List UInt8)) where
  toSettings := settings
  hourLoad n p := ((p n).elim (.fileDoesntExist, []) (fun b => (.ok, b)), p)
  hourSave n b p := (.ok, Function.update p n (some b))
  networkSendVia _ _ _ p := (.ok, p)
  getAllInterfaces _ := []
  providedVariables := []
  demandedVariables := []
  printValue _ := []
  scanValue _ := none
  doubleToUInt32 := Double.toUInt32
  doubleToUInt32_eq := toUInt32_conforms

def FaithfulStorage.disk (settings : Settings) : FaithfulStorage (Target.disk settings) where
  files p := p
  load_missing n p h := by simp [Target.disk, h]
  load_saved n p b h := by simp [Target.disk, h]
  load_files _ _ := rfl
  save_ok _ _ _ := rfl
  save_files _ _ _ := rfl

/-- Logs to two hours, a count of one and a sample of the other. -/
def twoHours : List DataOp :=
  [.log ⟨4, 7⟩ 1 0 5 0 false, .log ⟨4, 7⟩ 2 0 6 0 false, .check ⟨4, 7⟩ 1 3, .getVal ⟨4, 7⟩ 2 0]

theorem twoHours_transparent : ∃ s', (runAll (DataOp.run (Target.disk Settings.zejfPress))
      twoHours).run (zejfInit (Target.disk Settings.zejfPress) (fun _ => none)) =
        .ok (specAll (DataOp.spec (Target.disk Settings.zejfPress)) twoHours
          RefStore.empty).1 s' ∧
      ReadsBack (twoHours.zip (specAll (DataOp.spec (Target.disk Settings.zejfPress)) twoHours
        RefStore.empty).1) :=
  dataOperations_transparent (FaithfulStorage.disk Settings.zejfPress) rfl (fun _ => rfl)
    (NetworkHolds.initial _ _) twoHours

end ZejfMeteo
