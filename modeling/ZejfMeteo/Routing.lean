import ZejfMeteo.State

/-!
# The routing table

`zejf_routing.c`. The table is an array of slots of which the first `routing_table_top`
are in use; `TableHolds` says which entries they hold.
-/

namespace ZejfMeteo
open Runs

variable {δ : Type} (T : Target δ)

/-- The slot of the first entry for a device among the `n` slots from `i` on. -/
def findEntryFrom (deviceId : UInt16) : ℕ → ℕ → Run (Globals δ) (Option ℕ)
  | _, 0 => return none
  | i, n + 1 => do
    let entry ← tableEntry i
    if entry.deviceId = deviceId then
      return some i
    findEntryFrom deviceId (i + 1) n

/-- A pointer to an entry is the number of its slot. -/
def routingEntryFind (deviceId : UInt16) : Run (Globals δ) (Option ℕ) := do
  findEntryFrom deviceId 0 (← get).routingTableTop

def routingEntryCreate : RoutingEntry where
  lastSeen := 0
  deviceId := 0
  demandCount := 0
  demandedVariables := []
  interface := none
  paused := 0
  distance := 0
  providedCount := 0
  providedVariables := []
  subscribed := false
  demand_le := Nat.zero_le _
  provided_le := Nat.zero_le _

/-- Dereferences `interface` to reset its counters, so it must not be NULL. -/
def routingTableInsert (deviceId : UInt16) (interface : Option ℕ) (distance : UInt8)
    (time : UInt32) : Run (Globals δ) ZejfErr := do
  let s ← get
  if T.routingTableSize ≤ s.routingTableTop then
    return .generic
  match interface with
  | none => throw .nullPointer
  | some a =>
    zoom Globals.interfacesLens (Heap.update a (fun i => { i with txCount := 0, rxCount := 0 }))
    setTableEntry s.routingTableTop (some { routingEntryCreate with
      deviceId
      distance
      interface
      lastSeen := time })
    modify fun s => { s with routingTableTop := s.routingTableTop + 1 }
    return .ok

def routingTableUpdate (deviceId : UInt16) (interface : Option ℕ) (distance : UInt8)
    (time : UInt32) : Run (Globals δ) ZejfErr := do
  if deviceId = T.deviceId then
    return .generic
  match ← routingEntryFind deviceId with
  | none => routingTableInsert T deviceId interface distance time
  | some index =>
    let entry ← tableEntry index
    let shorter := entry.distance > distance
    let entry := if shorter then { entry with distance, interface } else entry
    let same := entry.distance = distance
    let entry := if same then { entry with lastSeen := time } else entry
    setTableEntry index (some entry)
    return if shorter ∨ same then .ok else .noChange

/-- Moves the `n` slots after `i` down by one. -/
def shiftEntries : ℕ → ℕ → Run (Globals δ) Unit
  | _, 0 => return
  | i, n + 1 => do
    match (← get).routingTable[i + 1]? with
    | none => throw .outOfBounds
    | some entry => setTableEntry i entry
    shiftEntries (i + 1) n

/-- The entry that is removed is freed, the following ones move down. -/
def routingEntryRemove (index : ℕ) : Run (Globals δ) Unit := do
  let _ ← tableEntry index
  shiftEntries index ((← get).routingTableTop - 1 - index)
  modify fun s => { s with routingTableTop := s.routingTableTop - 1 }
  setTableEntry (← get).routingTableTop none

/-- Counts up from `id` to the first id that no entry has; `none` after a full round. -/
def findFreeIdFrom : ℕ → UInt16 → Run (Globals δ) (Option UInt16)
  | 0, _ => throw .outOfFuel
  | fuel + 1, id => do
    match ← routingEntryFind id with
    | none => return some id
    | some _ =>
      let id := if id + 1 = 0 then reservedDeviceIds else id + 1
      if id = (← get).nextFreeId then
        return none
      findFreeIdFrom fuel id

def routingFindFreeId : Run (Globals δ) UInt16 := do
  match ← findFreeIdFrom (2 ^ 16) (← get).nextFreeId with
  | none => return 0
  | some id =>
    modify fun s => { s with nextFreeId := id + 1 }
    return if id + 1 = 0 then reservedDeviceIds else id

/-- The entries of the table. -/
def Globals.routes (s : Globals δ) : List RoutingEntry := s.routingTable.filterMap id

/-- The used slots of a table of `size` slots hold the entries `es`, all others are NULL. -/
structure Globals.TableHolds (s : Globals δ) (size : ℕ) (es : List RoutingEntry) : Prop where
  slots : s.routingTable = es.map some ++ List.replicate (size - es.length) none
  top : s.routingTableTop = es.length
  bounded : es.length ≤ size

lemma Globals.TableHolds.congr {s t : Globals δ} {size : ℕ} {es : List RoutingEntry}
    (h : s.TableHolds size es) (hslots : t.routingTable = s.routingTable)
    (htop : t.routingTableTop = s.routingTableTop) : t.TableHolds size es :=
  ⟨hslots.trans h.slots, htop.trans h.top, h.bounded⟩

lemma zejfInit_tableHolds (T : Target δ) (platform : δ) :
    (zejfInit T platform).TableHolds T.routingTableSize [] :=
  ⟨rfl, rfl, Nat.zero_le _⟩

section Table

variable {s : Globals δ} {size : ℕ} {es fs : List RoutingEntry} {e : RoutingEntry}

lemma Globals.TableHolds.routes {size : ℕ} (h : s.TableHolds size es) : s.routes = es := by
  have hnone : (List.replicate (size - es.length) (none : Option RoutingEntry)).filterMap id =
      [] := by
    rw [List.filterMap_eq_nil_iff]
    intro x hx
    exact List.eq_of_mem_replicate hx
  unfold Globals.routes
  rw [h.slots, List.filterMap_append, hnone, List.filterMap_map, List.append_nil]
  exact List.filterMap_some

lemma Globals.TableHolds.slot (h : s.TableHolds size (es ++ e :: fs)) :
    s.routingTable[es.length]? = some (some e) := by
  rw [h.slots]
  simp

lemma Globals.TableHolds.tableEntry_run (h : s.TableHolds size (es ++ e :: fs)) :
    (tableEntry es.length).run s = .ok e s := by
  simp [tableEntry, h.slot]

/-- A table holds one sequence of entries only. -/
lemma Globals.TableHolds.unique (h : s.TableHolds size es) (h' : s.TableHolds size fs) :
    es = fs := by
  have hlen : es.length = fs.length := h.top.symm.trans h'.top
  have hslots := h.slots.symm.trans h'.slots
  have hmap := (List.append_inj hslots (by simpa using hlen)).1
  exact List.map_injective_iff.mpr (Option.some_injective _) hmap

lemma findIdx?_deviceId_none {id : UInt16} :
    es.findIdx? (fun e => e.deviceId == id) = none ↔ id ∉ es.map RoutingEntry.deviceId := by
  rw [List.findIdx?_eq_none_iff, List.mem_map]
  constructor
  · rintro hall ⟨e, he, rfl⟩
    simpa using hall e he
  · intro hnot e he
    rw [beq_eq_false_iff_ne]
    intro heq
    exact hnot ⟨e, he, heq⟩

lemma findEntryFrom_run (deviceId : UInt16) (h : s.TableHolds size (es ++ fs)) :
    (findEntryFrom deviceId es.length fs.length).run s =
      .ok ((fs.findIdx? (fun e => e.deviceId == deviceId)).map (es.length + ·)) s := by
  induction fs generalizing es with
  | nil => rfl
  | cons f fs ih =>
    have h' : s.TableHolds size (es ++ [f] ++ fs) := by simpa using h
    have hnext := ih h'
    rw [List.length_cons, findEntryFrom, run_bind_ok h.tableEntry_run, List.findIdx?_cons]
    by_cases hf : f.deviceId = deviceId
    · simp [hf]
    · simp only [List.length_append, List.length_singleton] at hnext
      simp only [hf, if_false, hnext, beq_eq_false_iff_ne.mpr hf, Bool.false_eq_true]
      cases fs.findIdx? (fun e => e.deviceId == deviceId) with
      | none => rfl
      | some i => simp [Nat.add_comm, Nat.add_left_comm]

/-- Looking a device up finds its first entry and changes nothing. -/
lemma routingEntryFind_run (h : s.TableHolds size es) (deviceId : UInt16) :
    (routingEntryFind deviceId).run s =
      .ok (es.findIdx? (fun e => e.deviceId == deviceId)) s := by
  have h' : s.TableHolds size ([] ++ es) := h
  have hfind := findEntryFrom_run deviceId h'
  rw [routingEntryFind, run_bind_ok (EStateM.run_get s), h.top]
  simpa using hfind

lemma setTableEntry_run {i : ℕ} (hi : i < s.routingTable.length) (entry : Option RoutingEntry) :
    (setTableEntry i entry).run s =
      .ok () { s with routingTable := s.routingTable.set i entry } := by
  simp [setTableEntry, hi]

/-- The slots move down over the one before them; what stays in the last one is of no
interest. -/
lemma shiftEntries_run {pre slots rest : List (Option RoutingEntry)} {x : Option RoutingEntry}
    (h : s.routingTable = pre ++ x :: slots ++ rest) :
    ∃ z, (shiftEntries pre.length slots.length).run s =
      .ok () { s with routingTable := pre ++ slots ++ z :: rest } := by
  induction slots generalizing s pre x with
  | nil =>
    have hs : pre ++ [] ++ x :: rest = s.routingTable := by simp [h]
    refine ⟨x, ?_⟩
    rw [hs]
    rfl
  | cons y slots ih =>
    have hnext : s.routingTable[pre.length + 1]? = some y := by
      rw [h]
      simp
    have hlt : pre.length < s.routingTable.length := by
      rw [h]
      simp
    have hset : s.routingTable.set pre.length y = (pre ++ [y]) ++ y :: slots ++ rest := by
      rw [h]
      simp
    obtain ⟨z, hrest⟩ := ih (s := { s with routingTable := s.routingTable.set pre.length y }) hset
    refine ⟨z, ?_⟩
    rw [List.length_cons, shiftEntries, run_bind_ok (EStateM.run_get s)]
    simp only [hnext]
    rw [run_bind_ok (setTableEntry_run hlt y)]
    rw [List.length_append, List.length_singleton] at hrest
    rw [hrest]
    simp

/-- Removing an entry takes just this entry out of the table. -/
lemma routingEntryRemove_run (h : s.TableHolds size (es ++ e :: fs)) :
    ∃ table top, (routingEntryRemove es.length).run s =
        .ok () { s with routingTable := table, routingTableTop := top } ∧
      ({ s with routingTable := table, routingTableTop := top } : Globals δ).TableHolds size
        (es ++ fs) := by
  have hsize := h.bounded
  have hlen : (es ++ e :: fs).length = es.length + fs.length + 1 := by
    simp only [List.length_append, List.length_cons]
    omega
  have hslots : s.routingTable = es.map some ++ some e :: fs.map some ++
      List.replicate (size - (es ++ e :: fs).length) none := by
    rw [h.slots]
    simp
  obtain ⟨z, hshift⟩ := shiftEntries_run hslots
  have hn : s.routingTableTop - 1 - es.length = fs.length := by
    rw [h.top, hlen]
    omega
  have htop : s.routingTableTop - 1 = (es.map some ++ fs.map some).length := by
    rw [h.top, hlen]
    simp
  have hset : (es.map some ++ fs.map some ++ z ::
      List.replicate (size - (es ++ e :: fs).length) none).set (s.routingTableTop - 1) none =
      (es ++ fs).map some ++ List.replicate (size - (es ++ fs).length) none := by
    have hrep : size - (es ++ fs).length = size - (es ++ e :: fs).length + 1 := by
      rw [List.length_append]
      omega
    rw [htop, List.set_append_right _ _ (Nat.le_refl _), Nat.sub_self, List.set_cons_zero,
      hrep, List.replicate_succ, List.map_append]
  refine ⟨(es ++ fs).map some ++ List.replicate (size - (es ++ fs).length) none,
    s.routingTableTop - 1, ?_, rfl, ?_, ?_⟩
  · rw [List.length_map, List.length_map] at hshift
    rw [routingEntryRemove, run_bind_ok h.tableEntry_run, run_bind_ok (EStateM.run_get s), hn,
      run_bind_ok hshift, run_bind_ok (EStateM.run_modify _ _), run_bind_ok (EStateM.run_get _),
      setTableEntry_run (by simp [htop]), ← hset]
  · rw [htop]
    simp
  · rw [List.length_append]
    omega

end Table

end ZejfMeteo
