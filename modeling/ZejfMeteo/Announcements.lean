import ZejfMeteo.Messages
import ZejfMeteo.Reception
import ZejfMeteo.NetworkRuns

/-!
# Announced variables

What a device provides and demands is kept in its entry of the routing table, each variable
once, as long as the 16-bit counters of the entry go.
-/

namespace ZejfMeteo
open Runs Format

variable {δ : Type} (T : Target δ)

/-- A packet has come in at some time and is caught. -/
def receiveAnnouncement (arrival : Packet × UInt32) : Run (Globals δ) ZejfErr :=
  inHand arrival.1 (fun a => do
    let _ ← networkCatchPacket T a arrival.2
    return .ok)

/-- The variable that a packet says its sender provides. -/
def Packet.providedVariable (packet : Packet) : Option VariableInfo :=
  if packet.command = dataProvide then
    packet.message.bind fun message =>
      match sscanf (fun _ => none) [.num 16, .lit atSign, .num 32] message with
      | [.num id, .num samplesPerHour] =>
        some { samplesPerHour := UInt32.ofNat samplesPerHour, id := UInt16.ofNat id }
      | _ => none
  else none

/-- The variable that a packet says its sender demands. -/
def Packet.demandedVariable (packet : Packet) : Option UInt16 :=
  if packet.command = dataDemand then
    packet.message.bind fun message =>
      match sscanf (fun _ => none) [.num 16] message with
      | [.num var] => some (UInt16.ofNat var)
      | _ => none
  else none

/-- The ids of provided variables, in the order of the packets. -/
def providedIds (packets : List Packet) : List UInt16 :=
  packets.filterMap (fun p => p.providedVariable.map VariableInfo.id)

def demandedIds (packets : List Packet) : List UInt16 :=
  packets.filterMap Packet.demandedVariable

section FirstOccurrences

variable {α : Type} [DecidableEq α]

lemma eraseDups_concat (l : List α) (a : α) :
    (l ++ [a]).eraseDups = if a ∈ l then l.eraseDups else l.eraseDups ++ [a] := by
  rw [List.eraseDups_append]
  by_cases ha : a ∈ l
  · simp [List.removeAll, ha]
  · simp [List.removeAll, ha, List.eraseDups_cons]

lemma eraseDups_eq_self {l : List α} (h : l.Nodup) : l.eraseDups = l := by
  induction l using List.reverseRecOn with
  | nil => rfl
  | append_singleton l a ih =>
    have hbefore := List.Nodup.of_append_left h
    have hnew : a ∉ l := fun ha => List.disjoint_of_nodup_append h ha (List.mem_singleton_self a)
    rw [eraseDups_concat, ih hbefore, if_neg hnew]

lemma length_eraseDups_le (l : List α) : l.eraseDups.length ≤ l.length := by
  induction l using List.reverseRecOn with
  | nil => exact Nat.le_refl _
  | append_singleton l a ih =>
    rw [eraseDups_concat, List.length_append]
    split
    · omega
    · simpa using ih

lemma length_eraseDups_append (l m : List α) : l.eraseDups.length ≤ (l ++ m).eraseDups.length := by
  rw [List.eraseDups_append, List.length_append]
  exact Nat.le_add_right _ _

end FirstOccurrences

section Entries

variable {T} {s : Globals δ} {xs ys : List RoutingEntry} {e : RoutingEntry} {a size : ℕ}
  {p : Packet}

lemma length_counted {α : Type} {count : UInt16} {l : List α} (h : count.toNat ≤ l.length) :
    (l.take count.toNat).length = count.toNat := by
  rw [List.length_take, Nat.min_eq_left h]

lemma toNat_next {count : UInt16} (h : count.toNat + 1 < 2 ^ 16) :
    (count + 1).toNat = count.toNat + 1 := by
  have hone : (1 : UInt16).toNat = 1 := rfl
  rw [UInt16.toNat_add, hone]
  omega

/-- The counter of an array does not wrap when one more is counted. -/
lemma next_ne_zero {α : Type} {count : UInt16} {l : List α} (h : count.toNat ≤ l.length)
    (hroom : (l.take count.toNat).length + 1 < 2 ^ 16) : count + 1 ≠ 0 := by
  intro hzero
  rw [length_counted h] at hroom
  have hnext := toNat_next hroom
  rw [hzero] at hnext
  cases hnext

/-- The first `count` elements and one more, which are all that the counter counts then. -/
lemma take_counted {α : Type} {count : UInt16} {l : List α} (h : count.toNat ≤ l.length)
    (hroom : (l.take count.toNat).length + 1 < 2 ^ 16) (a : α) :
    (l.take count.toNat ++ [a]).take (count + 1).toNat = l.take count.toNat ++ [a] := by
  apply List.take_of_length_le
  rw [List.length_append, List.length_singleton, toNat_next (length_counted h ▸ hroom),
    length_counted h]

/-- A variable is added unless it is known, as long as the counter can count it. -/
lemma routingEntryAdd_run (h : s.TableHolds size (xs ++ e :: ys)) (known : RoutingEntry → Bool)
    (count : RoutingEntry → UInt16) (add : RoutingEntry → RoutingEntry)
    (hroom : known e = false → count e + 1 ≠ 0) :
    ∃ rv table, (routingEntryAdd xs.length known count add).run s =
        .ok rv { s with routingTable := table } ∧
      ({ s with routingTable := table } : Globals δ).TableHolds size
        (xs ++ (if known e then e else add e) :: ys) := by
  rw [routingEntryAdd, run_bind_ok h.tableEntry_run]
  cases hknown : known e with
  | true =>
    rw [if_pos rfl]
    exact ⟨.generic, s.routingTable, rfl, h⟩
  | false =>
    obtain ⟨table, hset, htable⟩ := h.set_run (add e)
    rw [if_neg (by simp), if_neg (hroom hknown), run_bind_ok hset]
    exact ⟨.ok, table, rfl, htable⟩

/-- What an entry has after a packet. -/
structure Packet.NotedBy (p : Packet) (e e' : RoutingEntry) : Prop where
  deviceId : e'.deviceId = e.deviceId
  provided : e'.provided = match p.providedVariable with
    | some info => if info.id ∈ e.provided.map VariableInfo.id then e.provided
      else e.provided ++ [info]
    | none => e.provided
  demanded : e'.demanded = match p.demandedVariable with
    | some var => if var ∈ e.demanded then e.demanded else e.demanded ++ [var]
    | none => e.demanded

/-- There is room for a variable that is new. -/
def Packet.FitsInto (p : Packet) (e : RoutingEntry) : Prop :=
  (∀ info, p.providedVariable = some info → info.id ∉ e.provided.map VariableInfo.id →
    e.provided.length + 1 < 2 ^ 16) ∧
  ∀ var, p.demandedVariable = some var → var ∉ e.demanded → e.demanded.length + 1 < 2 ^ 16

lemma Packet.NotedBy.unchanged (e : RoutingEntry) (hprovided : p.providedVariable = none)
    (hdemanded : p.demandedVariable = none) : p.NotedBy e e :=
  ⟨rfl, by rw [hprovided], by rw [hdemanded]⟩

lemma noted_provide {info : VariableInfo} (hprovided : p.providedVariable = some info)
    (hdemanded : p.demandedVariable = none) (hfits : p.FitsInto e) :
    p.NotedBy e (if e.provided.any (fun v => v.id == info.id) then e else e.provide info) := by
  have hany : e.provided.any (fun v => v.id == info.id) = true ↔
      info.id ∈ e.provided.map VariableInfo.id := by
    simp
  by_cases hknown : info.id ∈ e.provided.map VariableInfo.id
  · rw [if_pos (hany.mpr hknown)]
    exact ⟨rfl, by rw [hprovided]; exact (if_pos hknown).symm, by rw [hdemanded]⟩
  · have hroom := hfits.1 info hprovided hknown
    rw [if_neg (fun hyes => hknown (hany.mp hyes))]
    refine ⟨rfl, ?_, by rw [hdemanded]; rfl⟩
    rw [hprovided]
    exact (take_counted e.provided_le hroom info).trans (if_neg hknown).symm

lemma noted_demand {var : UInt16} (hprovided : p.providedVariable = none)
    (hdemanded : p.demandedVariable = some var) (hfits : p.FitsInto e) :
    p.NotedBy e (if e.demanded.any (fun v => v == var) then e else e.demand var) := by
  have hany : e.demanded.any (fun v => v == var) = true ↔ var ∈ e.demanded := by
    simp
  by_cases hknown : var ∈ e.demanded
  · rw [if_pos (hany.mpr hknown)]
    exact ⟨rfl, by rw [hprovided], by rw [hdemanded]; exact (if_pos hknown).symm⟩
  · have hroom := hfits.2 var hdemanded hknown
    rw [if_neg (fun hyes => hknown (hany.mp hyes))]
    refine ⟨rfl, by rw [hprovided]; rfl, ?_⟩
    rw [hdemanded]
    exact (take_counted e.demand_le hroom var).trans (if_neg hknown).symm

/-- What an announcement does to the entry of its sender. -/
def Notes (handle : Run (Globals δ) ZejfErr) (p : Packet) (s : Globals δ) (size : ℕ)
    (xs : List RoutingEntry) (e : RoutingEntry) (ys : List RoutingEntry) : Prop :=
  ∃ rv table e', handle.run s = .ok rv { s with routingTable := table } ∧
    ({ s with routingTable := table } : Globals δ).TableHolds size (xs ++ e' :: ys) ∧
    p.NotedBy e e'

lemma processDataProvide_notes (h : s.TableHolds size (xs ++ e :: ys))
    (hfind : (xs ++ e :: ys).findIdx? (fun e => e.deviceId == p.fromId) = some xs.length)
    (hp : s.packets.cells a = some p) (hcommand : p.command = dataProvide)
    (hfits : p.FitsInto e) : Notes (processDataProvide a) p s size xs e ys := by
  have hdemanded : p.demandedVariable = none := by
    rw [Packet.demandedVariable, if_neg (by rw [hcommand]; decide)]
  have hprovided := if_pos hcommand ▸ Packet.providedVariable.eq_1 p
  have hfound := routingEntryFind_run h p.fromId
  rw [hfind] at hfound
  rw [Notes, processDataProvide, run_bind_ok (readPacket_run hp)]
  cases hm : p.message with
  | none =>
    rw [hm] at hprovided
    exact ⟨.null, s.routingTable, e, rfl, h, .unchanged e hprovided hdemanded⟩
  | some message =>
    rw [hm] at hprovided
    simp only
    rw [run_bind_ok hfound]
    simp only [Option.bind_some] at hprovided ⊢
    split
    · rename_i id samplesPerHour hscan
      simp only [hscan] at hprovided
      have hroom : e.provided.any (fun v => v.id == UInt16.ofNat id) = false →
          e.providedCount + 1 ≠ 0 := by
        intro hnew
        refine next_ne_zero e.provided_le (hfits.1 _ hprovided ?_)
        simpa using hnew
      obtain ⟨rv, table, hrun, htable⟩ := routingEntryAdd_run h
        (fun e => e.provided.any (fun v => v.id == UInt16.ofNat id)) RoutingEntry.providedCount
        (·.provide { samplesPerHour := UInt32.ofNat samplesPerHour, id := UInt16.ofNat id }) hroom
      exact ⟨rv, table, _, hrun, htable, noted_provide hprovided hdemanded hfits⟩
    · rename_i hscan
      refine ⟨.generic, s.routingTable, e, rfl, h, .unchanged e ?_ hdemanded⟩
      rw [hprovided]
      split
      · exact absurd ‹_› (hscan _ _)
      · rfl

lemma processDataDemand_notes (h : s.TableHolds size (xs ++ e :: ys))
    (hfind : (xs ++ e :: ys).findIdx? (fun e => e.deviceId == p.fromId) = some xs.length)
    (hp : s.packets.cells a = some p) (hcommand : p.command = dataDemand)
    (hfits : p.FitsInto e) : Notes (processDataDemand a) p s size xs e ys := by
  have hprovided : p.providedVariable = none := by
    rw [Packet.providedVariable, if_neg (by rw [hcommand]; decide)]
  have hdemanded := if_pos hcommand ▸ Packet.demandedVariable.eq_1 p
  have hfound := routingEntryFind_run h p.fromId
  rw [hfind] at hfound
  rw [Notes, processDataDemand, run_bind_ok (readPacket_run hp)]
  cases hm : p.message with
  | none =>
    rw [hm] at hdemanded
    exact ⟨.null, s.routingTable, e, rfl, h, .unchanged e hprovided hdemanded⟩
  | some message =>
    rw [hm] at hdemanded
    simp only
    rw [run_bind_ok hfound]
    simp only [Option.bind_some] at hdemanded ⊢
    split
    · rename_i var hscan
      simp only [hscan] at hdemanded
      have hroom : e.demanded.any (fun v => v == UInt16.ofNat var) = false →
          e.demandCount + 1 ≠ 0 := by
        intro hnew
        refine next_ne_zero e.demand_le (hfits.2 _ hdemanded ?_)
        intro hmem
        exact List.any_eq_false.mp hnew _ hmem (beq_self_eq_true _)
      obtain ⟨rv, table, hrun, htable⟩ := routingEntryAdd_run h
        (fun e => e.demanded.any (fun v => v == UInt16.ofNat var)) RoutingEntry.demandCount
        (·.demand (UInt16.ofNat var)) hroom
      exact ⟨rv, table, _, hrun, htable, noted_demand hprovided hdemanded hfits⟩
    · rename_i hscan
      refine ⟨.generic, s.routingTable, e, rfl, h, .unchanged e hprovided ?_⟩
      rw [hdemanded]
      split
      · exact absurd ‹_› (hscan _)
      · rfl

lemma receiveAnnouncement_notes (h : s.TableHolds size (xs ++ e :: ys))
    (hfind : (xs ++ e :: ys).findIdx? (fun e => e.deviceId == p.fromId) = some xs.length)
    (hcommand : p.command = dataProvide ∨ p.command = dataDemand) (hfits : p.FitsInto e)
    (time : UInt32) :
    ∃ rv u e', (receiveAnnouncement T (p, time)).run s = .ok rv u ∧
      u.TableHolds size (xs ++ e' :: ys) ∧ p.NotedBy e e' := by
  let pushed : Globals δ := { s with packets := s.packets.push p }
  have halloc : (zoom Globals.packetsLens (Heap.alloc p)).run s = .ok s.packets.next pushed :=
    run_zoom_ok (l := Globals.packetsLens) (Heap.alloc_run _ _)
  have hcell : pushed.packets.cells s.packets.next = some p := by
    simp [pushed, Heap.push_cells]
  have htable : pushed.TableHolds size (xs ++ e :: ys) := ⟨h.slots, h.top, h.bounded⟩
  have hnotes : ∃ table e', (networkCatchPacket T s.packets.next time).run pushed =
        .ok true { pushed with routingTable := table } ∧
      ({ pushed with routingTable := table } : Globals δ).TableHolds size (xs ++ e' :: ys) ∧
      p.NotedBy e e' := by
    rw [networkCatchPacket, run_bind_ok (readPacket_run hcell)]
    rcases hcommand with hcommand | hcommand
    · obtain ⟨rv, table, e', hrun, hafter⟩ :=
        processDataProvide_notes htable hfind hcell hcommand hfits
      rw [if_neg (by rw [hcommand]; decide), if_pos hcommand, run_bind_ok hrun]
      exact ⟨table, e', rfl, hafter⟩
    · obtain ⟨rv, table, e', hrun, hafter⟩ :=
        processDataDemand_notes htable hfind hcell hcommand hfits
      rw [if_pos hcommand, run_bind_ok hrun]
      exact ⟨table, e', rfl, hafter⟩
  obtain ⟨table, e', hrun, hafter, hnoted⟩ := hnotes
  have hdestroy : (packetDestroy s.packets.next).run { pushed with routingTable := table } =
      .ok () { s with packets := (s.packets.push p).erase s.packets.next, routingTable := table } :=
    run_zoom_ok (l := Globals.packetsLens) (Heap.free_run (Option.isSome_of_eq_some hcell))
  refine ⟨.ok, { s with packets := (s.packets.push p).erase s.packets.next, routingTable := table },
    e', ?_, ⟨hafter.slots, hafter.top, hafter.bounded⟩, hnoted⟩
  have hcaught := run_bind_ok (f := fun _ => (return ZejfErr.ok : Run (Globals δ) ZejfErr)) hrun
  rw [receiveAnnouncement, inHand, run_bind_ok halloc, run_bind_ok hcaught, run_bind_ok hdestroy]
  rfl

end Entries

section Sequences

variable {T} {s : Globals δ} {es : List RoutingEntry} {e : RoutingEntry} {size : ℕ} {p : Packet}
  {deviceId : UInt16} {old packets : List Packet}

lemma providedIds_concat (packets : List Packet) (p : Packet) : providedIds (packets ++ [p]) =
    providedIds packets ++ (p.providedVariable.map VariableInfo.id).toList := by
  rw [providedIds, List.filterMap_append]
  cases h : p.providedVariable <;> simp [providedIds, h]

lemma demandedIds_concat (packets : List Packet) (p : Packet) :
    demandedIds (packets ++ [p]) = demandedIds packets ++ p.demandedVariable.toList := by
  rw [demandedIds, List.filterMap_append]
  cases h : p.demandedVariable <;> simp [demandedIds, h]

/-- All ids can be counted. -/
def Countable (packets : List Packet) : Prop :=
  (providedIds packets).eraseDups.length < 2 ^ 16 ∧
    (demandedIds packets).eraseDups.length < 2 ^ 16

lemma Countable.prefix {pre : List Packet} (h : Countable packets) (hpre : pre <+: packets) :
    Countable pre := by
  obtain ⟨post, rfl⟩ := hpre
  have hprovided : providedIds (pre ++ post) = providedIds pre ++ providedIds post :=
    List.filterMap_append
  have hdemanded : demandedIds (pre ++ post) = demandedIds pre ++ demandedIds post :=
    List.filterMap_append
  unfold Countable at h
  rw [hprovided, hdemanded] at h
  exact ⟨(length_eraseDups_append _ _).trans_lt h.1, (length_eraseDups_append _ _).trans_lt h.2⟩

/-- The entry has each id once. -/
structure RoutingEntry.Knows (e : RoutingEntry) (packets : List Packet) : Prop where
  provided : e.provided.map VariableInfo.id = (providedIds packets).eraseDups
  demanded : e.demanded = (demandedIds packets).eraseDups

lemma RoutingEntry.Knows.countable (h : e.Knows packets) : Countable packets := by
  refine ⟨?_, ?_⟩
  · rw [← h.provided, List.length_map, RoutingEntry.provided, length_counted e.provided_le]
    exact e.providedCount.toNat_lt
  · rw [← h.demanded, RoutingEntry.demanded, length_counted e.demand_le]
    exact e.demandCount.toNat_lt

lemma RoutingEntry.Knows.fits (h : e.Knows packets) (hcount : Countable (packets ++ [p])) :
    p.FitsInto e := by
  obtain ⟨hprovided, hdemanded⟩ := hcount
  rw [providedIds_concat] at hprovided
  rw [demandedIds_concat] at hdemanded
  refine ⟨fun info hinfo hnew => ?_, fun var hvar hnew => ?_⟩
  · rw [h.provided, List.mem_eraseDups] at hnew
    rw [hinfo, Option.map_some, Option.toList_some, eraseDups_concat, if_neg hnew,
      ← h.provided, List.length_append, List.length_map] at hprovided
    exact hprovided
  · rw [h.demanded, List.mem_eraseDups] at hnew
    rw [hvar, Option.toList_some, eraseDups_concat, if_neg hnew, ← h.demanded,
      List.length_append] at hdemanded
    exact hdemanded

lemma RoutingEntry.Knows.concat {e' : RoutingEntry} (h : e.Knows packets) (hp : p.NotedBy e e') :
    e'.Knows (packets ++ [p]) := by
  refine ⟨?_, ?_⟩
  · rw [providedIds_concat, hp.provided]
    cases p.providedVariable with
    | none => simpa using h.provided
    | some info =>
      have hmem : info.id ∈ e.provided.map VariableInfo.id ↔ info.id ∈ providedIds packets := by
        rw [h.provided, List.mem_eraseDups]
      simp only [Option.map_some, Option.toList_some, eraseDups_concat]
      by_cases hknown : info.id ∈ providedIds packets
      · rw [if_pos (hmem.mpr hknown), if_pos hknown, h.provided]
      · rw [if_neg (mt hmem.mp hknown), if_neg hknown, List.map_append, h.provided]
        rfl
  · rw [demandedIds_concat, hp.demanded]
    cases p.demandedVariable with
    | none => simpa using h.demanded
    | some var =>
      have hmem : var ∈ e.demanded ↔ var ∈ demandedIds packets := by
        rw [h.demanded, List.mem_eraseDups]
      simp only [Option.toList_some, eraseDups_concat]
      by_cases hknown : var ∈ demandedIds packets
      · rw [if_pos (hmem.mpr hknown), if_pos hknown, h.demanded]
      · rw [if_neg (mt hmem.mp hknown), if_neg hknown, h.demanded]

lemma exists_entry {e : RoutingEntry}
    (hfind : es.find? (fun e => e.deviceId == deviceId) = some e) :
    ∃ xs ys, es = xs ++ e :: ys ∧ ∀ e', e'.deviceId = e.deviceId →
      (xs ++ e' :: ys).find? (fun e => e.deviceId == deviceId) = some e' ∧
      (xs ++ e' :: ys).findIdx? (fun e => e.deviceId == deviceId) = some xs.length := by
  obtain ⟨hid, xs, ys, rfl, hbefore⟩ := List.find?_eq_some_iff_append.mp hfind
  refine ⟨xs, ys, rfl, fun e' he' => ⟨?_, ?_⟩⟩
  · exact List.find?_eq_some_iff_append.mpr ⟨by simpa [he'] using hid, xs, ys, rfl, hbefore⟩
  · have hnone : xs.findIdx? (fun e => e.deviceId == deviceId) = none := by
      rw [List.findIdx?_eq_none_iff]
      intro x hx
      simpa using hbefore x hx
    rw [List.findIdx?_append, hnone, List.findIdx?_cons, he', if_pos hid]
    simp

/-- The table has an entry for the device, which knows what the packets announce. -/
def Remembers (T : Target δ) (deviceId : UInt16) (packets : List Packet) (s : Globals δ) : Prop :=
  ∃ es e, s.TableHolds T.routingTableSize es ∧
    es.find? (fun e => e.deviceId == deviceId) = some e ∧ e.Knows packets

/-- Packets of the device that say what it provides or demands. -/
def Announces (deviceId : UInt16) (packets : List Packet) : Prop :=
  ∀ p ∈ packets, p.fromId = deviceId ∧ (p.command = dataProvide ∨ p.command = dataDemand)

lemma receiveAnnouncement_remembers (hs : Remembers T deviceId packets s)
    (hp : p.fromId = deviceId ∧ (p.command = dataProvide ∨ p.command = dataDemand))
    (hcount : Countable (packets ++ [p])) (time : UInt32) :
    ∃ rv u, (receiveAnnouncement T (p, time)).run s = .ok rv u ∧
      Remembers T deviceId (packets ++ [p]) u := by
  obtain ⟨es, e, htable, hfind, hknows⟩ := hs
  obtain ⟨rfl, hcommand⟩ := hp
  obtain ⟨xs, ys, rfl, hentry⟩ := exists_entry hfind
  obtain ⟨rv, u, e', hrun, hafter, hnoted⟩ := receiveAnnouncement_notes (T := T) htable
    (hentry e rfl).2 hcommand (hknows.fits hcount) time
  exact ⟨rv, u, hrun, _, e', hafter, (hentry e' hnoted.deviceId).1, hknows.concat hnoted⟩

/-- After any number of the arrivals the entry has each id that has been announced up to there
once, in the order in which they came first. -/
def RemembersThroughout (T : Target δ) (deviceId : UInt16) (old : List Packet) (s : Globals δ)
    (arrivals : List (Packet × UInt32)) : Prop :=
  ∀ pre, pre <+: arrivals → ∃ tr u, Trace (receiveAnnouncement T) s tr u ∧
    tr.map Prod.fst = pre ∧ Remembers T deviceId (old ++ pre.map Prod.fst) u

/-- What an entry knows can be counted, and as long as what is announced can be counted, the
entry knows it. -/
theorem remembersThroughout_iff {arrivals : List (Packet × UInt32)}
    (hs : Remembers T deviceId old s) (harrivals : Announces deviceId (arrivals.map Prod.fst)) :
    RemembersThroughout T deviceId old s arrivals ↔ Countable (old ++ arrivals.map Prod.fst) := by
  constructor
  · intro hall
    obtain ⟨-, u, -, -, -, e, -, -, hknows⟩ := hall arrivals (List.prefix_refl _)
    exact hknows.countable
  · rintro hcount pre ⟨post, rfl⟩
    induction pre using List.reverseRecOn generalizing post with
    | nil => exact ⟨[], s, .nil, rfl, by simpa using hs⟩
    | append_singleton pre x ih =>
      obtain ⟨tr, t, htrace, hmap, ht⟩ := ih (x :: post) (by simpa using harrivals)
        (by simpa using hcount)
      have hp := harrivals x.1 (by simp)
      have hprefix : Countable (old ++ pre.map Prod.fst ++ [x.1]) :=
        hcount.prefix ⟨post.map Prod.fst, by simp⟩
      obtain ⟨rv, u, hrun, hu⟩ := receiveAnnouncement_remembers ht hp hprefix x.2
      exact ⟨tr ++ [(x, rv)], u, htrace.snoc hrun, by simp [hmap], by simpa using hu⟩

/-- There are not enough announcements to exhaust a counter. -/
lemma Countable.of_length (h : packets.length < 2 ^ 16) : Countable packets :=
  ⟨(length_eraseDups_le _).trans_lt ((List.length_filterMap_le _ _).trans_lt h),
    (length_eraseDups_le _).trans_lt ((List.length_filterMap_le _ _).trans_lt h)⟩

end Sequences

/-- Device 3 demands a variable. -/
def demandPacket (id : ℕ) : Packet :=
  { packetCreate with fromId := 3, command := dataDemand, message := some (decimal id) }

/-- Device 3 has been heard of. -/
def heardNode : Globals Unit :=
  { zejfInit (Target.bare Settings.zejfMeteo) () with
    routingTable := some { routingEntryCreate with deviceId := 3 } ::
      List.replicate (Settings.zejfMeteo.routingTableSize - 1) none
    routingTableTop := 1 }

lemma heardNode_remembers : Remembers (Target.bare Settings.zejfMeteo) 3 [] heardNode :=
  ⟨[{ routingEntryCreate with deviceId := 3 }], _, ⟨rfl, rfl, by decide⟩, rfl, rfl, rfl⟩

lemma demandPackets_announces (ids : List ℕ) :
    Announces 3 ((ids.map (fun id => (demandPacket id, (0 : UInt32)))).map Prod.fst) := by
  intro p hp
  obtain ⟨x, hx, rfl⟩ := List.mem_map.mp hp
  obtain ⟨id, -, rfl⟩ := List.mem_map.mp hx
  exact ⟨rfl, .inr rfl⟩

theorem demandPackets_remembered : RemembersThroughout (Target.bare Settings.zejfMeteo) 3 []
    heardNode ([7, 9, 7].map (fun id => (demandPacket id, 0))) :=
  (remembersThroughout_iff heardNode_remembers (demandPackets_announces _)).mpr
    (.of_length (by decide))

lemma demandedVariable_demandPacket {id : ℕ} (h : id < 2 ^ 16) :
    (demandPacket id).demandedVariable = some (UInt16.ofNat id) := by
  have hscan : sscanf (fun _ => none) [.num 16] (decimal id) = [.num id] := by
    have hnum := @sscanf_num_of_lt (fun _ => none) [] [] id 16 h (by decide) (by simp)
    simpa [sscanf] using hnum
  have hcommand : (demandPacket id).command = dataDemand := rfl
  rw [Packet.demandedVariable, if_pos hcommand]
  simp [demandPacket, hscan]

/-- All ids together are too many. -/
theorem allDemandPackets_not_remembered :
    Announces 3 (((List.range (2 ^ 16)).map (fun id => (demandPacket id, (0 : UInt32)))).map
      Prod.fst) ∧
    ¬RemembersThroughout (Target.bare Settings.zejfMeteo) 3 [] heardNode
      ((List.range (2 ^ 16)).map (fun id => (demandPacket id, 0))) := by
  refine ⟨demandPackets_announces _, fun hall => ?_⟩
  obtain ⟨-, u, -, -, -, e, -, -, hknows⟩ := hall _ (List.prefix_refl _)
  have hids : demandedIds
      (((List.range (2 ^ 16)).map (fun id => (demandPacket id, (0 : UInt32)))).map Prod.fst) =
      (List.range (2 ^ 16)).map UInt16.ofNat := by
    rw [demandedIds, List.map_map, List.filterMap_map, ← List.filterMap_eq_map]
    refine List.filterMap_congr (fun id hid => ?_)
    exact demandedVariable_demandPacket (List.mem_range.mp hid)
  have hnodup : ((List.range (2 ^ 16)).map UInt16.ofNat).Nodup := by
    refine List.Nodup.map_on (fun i hi j hj he => ?_) List.nodup_range
    have hsame := congrArg UInt16.toNat he
    rw [UInt16.toNat_ofNat_of_lt' (List.mem_range.mp hi),
      UInt16.toNat_ofNat_of_lt' (List.mem_range.mp hj)] at hsame
    exact hsame
  have hlt := hknows.countable.2
  rw [List.nil_append, hids, eraseDups_eq_self hnodup, List.length_map, List.length_range] at hlt
  exact Nat.lt_irrefl _ hlt

end ZejfMeteo
