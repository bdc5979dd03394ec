import ZejfMeteo.DataCheck

/-!
# The viewer's check for missing data

The viewer counts the measured samples of an hour (`DataVariable.java`) and tells the server
(`ZejfCommunicator.java`), which counts the samples that are not empty. A sample that the
provider could not measure makes the two counts differ forever.
-/

namespace ZejfMeteo
open Runs Format

variable {δ : Type}

/-- A variable in the viewer. Its `double` samples are the server's floats. -/
structure DataVariable where
  id : ℕ
  samplesPerHour : ℕ
  data : List Sample
  size_eq : data.length = samplesPerHour

namespace DataVariable

def calculateDataCheck (var : DataVariable) : ℕ :=
  var.data.foldl (fun result val => if Measured val then result + 1 else result) 0

/-- The message of the `DATA_CHECK` packet, unless nothing is missing. -/
def sendDataCheck (var : DataVariable) (hourNum : ℕ) : Option (List UInt8) :=
  let checkNumber := var.calculateDataCheck
  if checkNumber = var.samplesPerHour then none
  else some (print [.num var.id, .lit comma, .num var.samplesPerHour, .lit comma,
    .num hourNum, .lit comma, .num var.samplesPerHour, .lit comma, .num checkNumber])

/-- The viewer holds what the server holds. -/
structure Mirrors (var : DataVariable) (v : Variable) : Prop where
  id : var.id = v.info.id.toNat
  samplesPerHour : var.samplesPerHour = v.info.samplesPerHour.toNat
  data : var.data = v.data

end DataVariable

/-- What the viewer sends, if anything, leaves the server's requests as they are. -/
def QueuesNoRequest (T : Target δ) (s : Globals δ) (packet : ℕ) (rs : List Requested)
    (var : DataVariable) (hourNum : UInt32) : Prop :=
  var.sendDataCheck hourNum.toNat = none ∨
    ∃ rv s', (dataCheckReceive T packet).run s = .ok rv s' ∧ s'.RequestsHold rs

section Counting

lemma calculateDataCheck_eq (var : DataVariable) : var.calculateDataCheck =
    var.data.countP (fun val => decide (Measured val)) := by
  unfold DataVariable.calculateDataCheck
  have hfold : ∀ (data : List Sample) (n : ℕ),
      data.foldl (fun result val => if Measured val then result + 1 else result) n =
        n + data.countP (fun val => decide (Measured val)) := by
    intro data
    induction data with
    | nil => intro n; rfl
    | cons val data ih =>
      intro n
      rw [List.foldl_cons, ih, List.countP_cons]
      by_cases hval : Measured val
      · simp [hval]
        omega
      · simp [hval]
  rw [hfold, Nat.zero_add]

/-- The samples that are not empty are measured or marked as not measured. -/
lemma countP_filled (data : List Sample) : data.countP (fun val => decide (val ≠ valueEmpty)) =
    data.countP (fun val => decide (Measured val)) + data.count valueNotMeasured := by
  have hne : valueNotMeasured ≠ valueEmpty := by decide
  induction data with
  | nil => rfl
  | cons val data ih =>
    rw [List.countP_cons, List.countP_cons, List.count_cons, ih]
    by_cases hempty : val = valueEmpty
    · subst hempty
      simp [Measured, Ne.symm hne]
    · by_cases hnot : val = valueNotMeasured
      · subst hnot
        simp [Measured, hne]
        omega
      · simp [Measured, hempty, hnot]
        omega

/-- A server that does not provide the variable changes nothing and counts all samples. -/
lemma count_not_provided (v : Variable) :
    (v.count false v.info.samplesPerHour).toNat = v.filled := by
  have hmark : markSample false = id := by
    funext val
    simp [markSample]
  have hcounted : (v.counted false v.info.samplesPerHour).data = v.data := by
    rw [Variable.counted_data, hmark, List.map_id, List.take_append_drop]
  have htake : v.data.take (v.info.samplesPerHour.toNat + 1) = v.data := by
    apply List.take_of_length_le
    rw [v.size_eq]
    omega
  rw [Variable.count_toNat, hcounted, htake]
  rfl

end Counting

/-- **When the viewer's check makes the server queue no request.** -/
theorem viewerCheck_queuesNoRequest_iff {T : Target δ} {s : Globals δ}
    {xs : List (ℕ × DataHour)} {rs : List Requested} {a : ℕ} {packet : Packet} {v : Variable}
    {var : DataVariable} {hourNum : UInt32} (hcache : s.CacheHolds T xs)
    (hrequests : s.RequestsHold rs) (hpacket : s.packets.cells a = some packet)
    (hmessage : ∀ text, var.sendDataCheck hourNum.toNat = some text →
      packet.message = some text)
    (hlocal : localVariable T s hourNum v.info.id = some v) (hsame : var.Mirrors v)
    (hprovided : isProvided T v.info = false) :
    QueuesNoRequest T s a rs var hourNum ↔
      valueNotMeasured ∉ v.data ∨ isPending rs packet.fromId hourNum v.info.id = true ∨
        listIsFull s.dataRequestsQueue = true := by
  have hviewer : var.calculateDataCheck = v.data.countP (fun val => decide (Measured val)) := by
    rw [calculateDataCheck_eq, hsame.data]
  have hserver := count_not_provided v
  have hfilled : v.filled = v.data.countP (fun val => decide (Measured val)) +
      v.data.count valueNotMeasured := countP_filled v.data
  have hle := v.filled_le
  by_cases hall : var.calculateDataCheck = var.samplesPerHour
  · -- Every sample is measured, so there is nothing to send.
    have hnone : var.sendDataCheck hourNum.toNat = none := if_pos hall
    rw [hviewer, hsame.samplesPerHour] at hall
    refine iff_of_true (Or.inl hnone) (Or.inl ?_)
    apply List.count_eq_zero.mp
    omega
  have hn : v.data.countP (fun val => decide (Measured val)) < 2 ^ 32 := by
    have hlt := v.info.samplesPerHour.toNat_lt
    omega
  generalize hcheck : UInt32.ofNat (v.data.countP (fun val => decide (Measured val))) = n
  have hntoNat : n.toNat = v.data.countP (fun val => decide (Measured val)) := by
    rw [← hcheck, UInt32.toNat_ofNat', Nat.mod_eq_of_lt hn]
  have htext : var.sendDataCheck hourNum.toNat = some (print (numbersMessage v.info hourNum
      v.info.samplesPerHour (.num n.toNat))) := by
    unfold DataVariable.sendDataCheck
    simp only [hall, if_false]
    rw [hviewer, hsame.id, hsame.samplesPerHour, hntoNat]
    rfl
  obtain ⟨rv, ys, qs, q, p, rq, hs, hrun, -, hqs, hcase⟩ :=
    dataCheckReceive_run hcache hrequests hpacket (hmessage _ htext)
  have hcount : (checkResult T v.info v.info.samplesPerHour
      (localVariable T s hourNum v.info.id)).2.getD 0 =
        v.count false v.info.samplesPerHour := by
    simp [checkResult, hlocal, hprovided]
  have hmore : n < v.count false v.info.samplesPerHour ↔ valueNotMeasured ∈ v.data := by
    rw [UInt32.lt_iff_toNat_lt, hserver, hntoNat, hfilled, ← List.count_pos_iff]
    omega
  rw [hcount] at hcase
  by_cases hqueued : n < v.count false v.info.samplesPerHour ∧
      ¬(isPending rs packet.fromId hourNum v.info.id ∨ listIsFull s.dataRequestsQueue)
  · rw [if_pos hqueued] at hcase
    obtain ⟨-, node, addr, rfl⟩ := hcase
    rw [hmore] at hqueued
    refine iff_of_false ?_ (by tauto)
    rintro (hnone | ⟨rv', s', hrun', hrs⟩)
    · rw [htext] at hnone
      cases hnone
    · rw [hrun] at hrun'
      cases hrun'
      have hlength := hqs.length_unique hrs
      simp at hlength
  · rw [if_neg hqueued] at hcase
    rw [hmore] at hqueued
    subst hcase
    exact iff_of_true (Or.inr ⟨rv, _, hrun, hqs⟩) (by tauto)

/-- One sample is measured and the other one could not be. -/
def gapVariable : Variable where
  info := ⟨2, 7⟩
  data := [0, valueNotMeasured]
  size_eq := rfl

def gapHour : DataHour := { hourCreate 10 with vars := [gapVariable] }

def gapViewer : DataVariable where
  id := 7
  samplesPerHour := 2
  data := [0, valueNotMeasured]
  size_eq := rfl

/-- The check that the viewer sends about the hour. -/
def gapPacket : Packet :=
  { packetCreate with
    fromId := 1000
    toId := 1
    command := dataCheckCommand
    message := gapViewer.sendDataCheck 10 }

/-- The server has the hour in its cache and the packet at address 0. -/
def gapServer : Globals Unit :=
  { zejfInit (Target.bare Settings.zejfMeteo) () with
    dataQueue := LinkedList.ofItems 128 [gapHour]
    packets := Heap.ofList [gapPacket] }

lemma gapServer_cacheHolds :
    gapServer.CacheHolds (Target.bare Settings.zejfMeteo) [(0, gapHour)] where
  queue := (LinkedList.ofItems_holds (by decide : [gapHour].length ≤ 128)).1
  capacity := (LinkedList.ofItems_holds (by decide : [gapHour].length ≤ 128)).2.1
  wellFormed x hx := by
    rw [List.mem_singleton.mp hx]
    constructor <;> decide

/-- The server is asked for the whole hour again. -/
theorem gapServer_queues_request :
    ¬QueuesNoRequest (Target.bare Settings.zejfMeteo) gapServer 0 [] gapViewer 10 := by
  rintro (hnone | ⟨rv, s', hrun, hrs⟩)
  · exact absurd hnone (by decide +kernel)
  · have hone : (leaves ((dataCheckReceive (Target.bare Settings.zejfMeteo) 0).run
        gapServer)).dataRequestsQueue.itemCount = 1 := by decide +kernel
    rw [hrun, leaves_ok, hrs.holds.count] at hone
    exact absurd hone (by decide)

theorem gapServer_queuesNoRequest_iff :
    QueuesNoRequest (Target.bare Settings.zejfMeteo) gapServer 0 [] gapViewer 10 ↔
      valueNotMeasured ∉ gapVariable.data ∨ isPending [] gapPacket.fromId 10 7 = true ∨
        listIsFull gapServer.dataRequestsQueue = true :=
  viewerCheck_queuesNoRequest_iff (v := gapVariable) gapServer_cacheHolds
    ⟨LinkedList.listCreate_holds ℕ _, by simp, List.nodup_nil⟩ rfl (fun _ h => h) (by decide +kernel)
    ⟨rfl, rfl, rfl⟩ rfl

end ZejfMeteo
