import ZejfMeteo.InterfaceRemoval

/-!
# Routes that are learned and routes that time out

What an announcement of a device does to the routing table, and what `routing_table_check`
removes from it.
-/

namespace ZejfMeteo
open Runs

variable {δ : Type} (T : Target δ)

/-- The route has not been heard of for too long. -/
def RoutingEntry.expired (time : UInt32) (entry : RoutingEntry) : Bool :=
  T.routingEntryTimeout < (time - entry.lastSeen).toNat

def checkRoutes (time : UInt32) : ℕ → ℕ → Run (Globals δ) Unit
  | 0, _ => throw .outOfFuel
  | fuel + 1, i => do
    if i < (← get).routingTableTop then
      let entry ← tableEntry i
      if entry.expired T time then
        routingEntryRemove i
      checkRoutes time fuel (i + 1)

def routingTableCheck (time : UInt32) : Run (Globals δ) Unit := do
  checkRoutes T time ((← get).routingTableTop + 1) 0

/-- A route to a device that was not known. -/
def newRoute (deviceId : UInt16) (interface : Option ℕ) (distance : UInt8) (time : UInt32) :
    RoutingEntry :=
  { routingEntryCreate with deviceId, distance, interface, lastSeen := time }

/-- A known route after an announcement: a shorter one replaces it, and one of its own length
confirms it, over whatever interface it came. -/
def RoutingEntry.heard (entry : RoutingEntry) (interface : Option ℕ) (distance : UInt8)
    (time : UInt32) : ZejfErr × RoutingEntry :=
  if distance < entry.distance then (.ok, { entry with distance, interface, lastSeen := time })
  else if entry.distance = distance then (.ok, { entry with lastSeen := time })
  else (.noChange, entry)

/-- The table after an announcement. -/
def updateRoutes (es : List RoutingEntry) (deviceId : UInt16) (interface : Option ℕ)
    (distance : UInt8) (time : UInt32) : ZejfErr × List RoutingEntry :=
  if deviceId = T.deviceId then (.generic, es)
  else match es.findIdx? (fun e => e.deviceId == deviceId) with
    | none =>
      if T.routingTableSize ≤ es.length then (.generic, es)
      else (.ok, es ++ [newRoute deviceId interface distance time])
    | some i =>
      match es[i]? with
      | none => (.generic, es)
      | some e => ((e.heard interface distance time).1,
          es.set i (e.heard interface distance time).2)

section Updates

variable {T} {s : Globals δ} {size : ℕ} {es fs : List RoutingEntry} {e : RoutingEntry}

/-- Storing an entry in a used slot. -/
lemma Globals.TableHolds.set_run (h : s.TableHolds size (es ++ e :: fs)) (e' : RoutingEntry) :
    ∃ table, (setTableEntry es.length (some e')).run s = .ok () { s with routingTable := table } ∧
      ({ s with routingTable := table } : Globals δ).TableHolds size (es ++ e' :: fs) := by
  have hlen : (es ++ e :: fs).length = (es ++ e' :: fs).length := by
    simp only [List.length_append, List.length_cons]
  have hlt : es.length < s.routingTable.length := by
    rw [h.slots]
    simp only [List.length_append, List.length_map, List.length_cons]
    omega
  refine ⟨_, setTableEntry_run hlt _, ?_, h.top.trans hlen, hlen ▸ h.bounded⟩
  show s.routingTable.set es.length (some e') = _
  rw [h.slots, hlen]
  simp

/-- The first free slot exists, and storing an entry there appends it. -/
lemma Globals.TableHolds.append (h : s.TableHolds size es) (hroom : es.length < size)
    (e : RoutingEntry) : s.routingTableTop < s.routingTable.length ∧
      ({ s with
        routingTable := s.routingTable.set s.routingTableTop (some e)
        routingTableTop := s.routingTableTop + 1 } : Globals δ).TableHolds size (es ++ [e]) := by
  have hrep : size - es.length = size - (es ++ [e]).length + 1 := by
    rw [List.length_append, List.length_singleton]
    omega
  refine ⟨?_, ?_, ?_, ?_⟩
  · rw [h.top, h.slots, hrep]
    simp
  · show s.routingTable.set s.routingTableTop (some e) = _
    rw [h.top, h.slots, hrep, List.replicate_succ]
    simp
  · simp [h.top]
  · rw [List.length_append, List.length_singleton]
    omega

lemma routingTableInsert_run (h : s.TableHolds T.routingTableSize es)
    (hroom : es.length < T.routingTableSize) (deviceId : UInt16) {a : ℕ}
    (hlive : (s.interfaces.cells a).isSome) (distance : UInt8) (time : UInt32) :
    ∃ table top, (routingTableInsert T deviceId (some a) distance time).run s =
        .ok .ok { s with
          routingTable := table
          routingTableTop := top
          interfaces := s.interfaces.modify a (fun i => { i with txCount := 0, rxCount := 0 }) } ∧
      ({ s with
        routingTable := table
        routingTableTop := top
        interfaces := s.interfaces.modify a (fun i => { i with txCount := 0, rxCount := 0 }) } :
        Globals δ).TableHolds T.routingTableSize
          (es ++ [newRoute deviceId (some a) distance time]) := by
  have hreset := run_zoom_ok (l := Globals.interfacesLens) (s := s)
    (Heap.update_run (fun i : Interface => { i with txCount := 0, rxCount := 0 }) hlive)
  obtain ⟨hlt, htable⟩ := h.append hroom (newRoute deviceId (some a) distance time)
  have hnot : ¬T.routingTableSize ≤ s.routingTableTop := by
    rw [h.top]
    omega
  refine ⟨_, _, ?_, htable.slots, htable.top, htable.bounded⟩
  unfold routingTableInsert
  rw [run_bind_ok (EStateM.run_get s), if_neg hnot]
  refine (run_bind_ok hreset).trans ?_
  exact run_bind_ok (setTableEntry_run (s := { s with
    interfaces := s.interfaces.modify a (fun i => { i with txCount := 0, rxCount := 0 }) }) hlt _)

/-- The table, and at most the counters of the interface that a new route goes through. -/
lemma routingTableUpdate_run (h : s.TableHolds T.routingTableSize es) (deviceId : UInt16)
    {interface : Option ℕ} (hlive : (s.interfaceAt interface).isSome) (distance : UInt8)
    (time : UInt32) :
    ∃ table top is, (routingTableUpdate T deviceId interface distance time).run s =
        .ok (updateRoutes T es deviceId interface distance time).1
          { s with routingTable := table, routingTableTop := top, interfaces := is } ∧
      ({ s with routingTable := table, routingTableTop := top, interfaces := is } :
        Globals δ).TableHolds T.routingTableSize
          (updateRoutes T es deviceId interface distance time).2 ∧
      (is = s.interfaces ∨ ∃ a ∈ interface,
        is = s.interfaces.modify a (fun i => { i with txCount := 0, rxCount := 0 })) := by
  unfold routingTableUpdate updateRoutes
  by_cases hself : deviceId = T.deviceId
  · rw [if_pos hself, if_pos hself]
    exact ⟨_, _, _, rfl, h, Or.inl rfl⟩
  rw [if_neg hself, if_neg hself, run_bind_ok (routingEntryFind_run h deviceId)]
  cases hfind : es.findIdx? (fun e => e.deviceId == deviceId) with
  | none =>
    dsimp only
    by_cases hfull : T.routingTableSize ≤ es.length
    · rw [if_pos hfull]
      unfold routingTableInsert
      rw [run_bind_ok (EStateM.run_get s), h.top, if_pos hfull]
      exact ⟨_, _, _, rfl, h, Or.inl rfl⟩
    · rw [if_neg hfull]
      cases interface with
      | none => cases hlive
      | some a =>
        obtain ⟨table, top, hrun, htable⟩ := routingTableInsert_run h (by omega) deviceId hlive
          distance time
        exact ⟨table, top, _, hrun, htable, Or.inr ⟨a, rfl, rfl⟩⟩
  | some i =>
    obtain ⟨hlt, -, -⟩ := List.findIdx?_eq_some_iff_getElem.mp hfind
    obtain ⟨pre, e, post, rfl, rfl⟩ : ∃ pre e post, es = pre ++ e :: post ∧ i = pre.length :=
      ⟨es.take i, es[i], es.drop (i + 1), by simp, by simp; omega⟩
    have hset : ∀ e', (pre ++ e :: post).set pre.length e' = pre ++ e' :: post := by
      intro e'
      simp
    simp only [List.getElem?_append_right (Nat.le_refl _), Nat.sub_self, List.getElem?_cons_zero,
      hset]
    obtain ⟨table, hstore, htable⟩ := h.set_run (e.heard interface distance time).2
    refine ⟨table, s.routingTableTop, s.interfaces, ?_, htable, Or.inl rfl⟩
    rw [run_bind_ok h.tableEntry_run]
    unfold RoutingEntry.heard at hstore ⊢
    by_cases hshort : distance < e.distance
    · rw [if_pos hshort] at hstore
      simp [hshort, hstore]
    · by_cases hsame : e.distance = distance
      · obtain rfl := hsame
        simp at hstore
        simp [hstore]
      · rw [if_neg hshort, if_neg hsame] at hstore
        simp [hshort, hsame, hstore]

lemma RoutingEntry.heard_deviceId (e : RoutingEntry) (interface : Option ℕ) (distance : UInt8)
    (time : UInt32) : (e.heard interface distance time).2.deviceId = e.deviceId := by
  unfold RoutingEntry.heard
  split
  · rfl
  · split <;> rfl

/-- An announcement changes one entry, appends one or changes nothing. -/
lemma updateRoutes_cases (es : List RoutingEntry) (deviceId : UInt16) (interface : Option ℕ)
    (distance : UInt8) (time : UInt32) :
    (updateRoutes T es deviceId interface distance time = (.generic, es) ∧
      (deviceId = T.deviceId ∨ T.routingTableSize ≤ es.length ∧
        deviceId ∉ es.map RoutingEntry.deviceId)) ∨
    (updateRoutes T es deviceId interface distance time =
        (.ok, es ++ [newRoute deviceId interface distance time]) ∧
      deviceId ≠ T.deviceId ∧ es.length < T.routingTableSize ∧
      deviceId ∉ es.map RoutingEntry.deviceId) ∨
    ∃ pre e post, es = pre ++ e :: post ∧ e.deviceId = deviceId ∧ deviceId ≠ T.deviceId ∧
      deviceId ∉ pre.map RoutingEntry.deviceId ∧
      updateRoutes T es deviceId interface distance time =
        ((e.heard interface distance time).1,
          pre ++ (e.heard interface distance time).2 :: post) := by
  unfold updateRoutes
  by_cases hself : deviceId = T.deviceId
  · rw [if_pos hself]
    exact Or.inl ⟨rfl, Or.inl hself⟩
  rw [if_neg hself]
  cases hfind : es.findIdx? (fun e => e.deviceId == deviceId) with
  | none =>
    have hnot := findIdx?_deviceId_none.mp hfind
    dsimp only
    by_cases hfull : T.routingTableSize ≤ es.length
    · rw [if_pos hfull]
      exact Or.inl ⟨rfl, Or.inr ⟨hfull, hnot⟩⟩
    · rw [if_neg hfull]
      exact Or.inr (Or.inl ⟨rfl, hself, by omega, hnot⟩)
  | some i =>
    obtain ⟨hlt, hi, hbefore⟩ := List.findIdx?_eq_some_iff_getElem.mp hfind
    have hpre : deviceId ∉ (es.take i).map RoutingEntry.deviceId := by
      intro hm
      obtain ⟨f, hf, hid⟩ := List.mem_map.mp hm
      obtain ⟨j, hj, rfl⟩ := List.mem_iff_getElem.mp hf
      rw [List.length_take] at hj
      rw [List.getElem_take] at hid
      have hne := hbefore j (by omega)
      simp [hid] at hne
    refine Or.inr (Or.inr ⟨es.take i, es[i], es.drop (i + 1), by simp, by simpa using hi, hself,
      hpre, ?_⟩)
    simp only [List.getElem?_eq_getElem hlt]
    rw [List.set_eq_take_append_cons_drop, if_pos hlt]

/-- A route goes through the interface of the announcement or through the same one as
before. -/
lemma updateRoutes_interface {deviceId : UInt16} {interface : Option ℕ} {distance : UInt8}
    {time : UInt32} (he : e ∈ (updateRoutes T es deviceId interface distance time).2) :
    (deviceId ≠ T.deviceId ∧ e.interface = interface) ∨ ∃ f ∈ es, f.interface = e.interface := by
  rcases updateRoutes_cases (T := T) es deviceId interface distance time with
    ⟨heq, -⟩ | ⟨heq, hself, -⟩ | ⟨pre, f, post, rfl, -, hself, -, heq⟩
  · rw [heq] at he
    exact Or.inr ⟨e, he, rfl⟩
  · rw [heq, List.mem_append, List.mem_singleton] at he
    rcases he with hold | rfl
    · exact Or.inr ⟨e, hold, rfl⟩
    · exact Or.inl ⟨hself, rfl⟩
  · rw [heq, List.mem_append, List.mem_cons] at he
    rcases he with hpre | rfl | hpost
    · exact Or.inr ⟨e, List.mem_append_left _ hpre, rfl⟩
    · unfold RoutingEntry.heard
      split
      · exact Or.inl ⟨hself, rfl⟩
      · refine Or.inr ⟨f, by simp, ?_⟩
        split <;> rfl
    · exact Or.inr ⟨e, by simp [hpost], rfl⟩

lemma checkRoutes_step (ht : s.TableHolds size (es ++ e :: fs)) (time : UInt32) (fuel : ℕ) :
    ∃ table top, (checkRoutes T time (fuel + 1) es.length).run s =
        (checkRoutes T time fuel (es.length + 1)).run
          { s with routingTable := table, routingTableTop := top } ∧
      ({ s with routingTable := table, routingTableTop := top } : Globals δ).TableHolds size
        (es ++ (if e.expired T time then fs else e :: fs)) := by
  have hlt : es.length < s.routingTableTop := by
    rw [ht.top]
    simp
  rw [checkRoutes, run_bind_ok (EStateM.run_get s), if_pos hlt, run_bind_ok ht.tableEntry_run]
  by_cases hexp : e.expired T time = true
  · obtain ⟨table, top, hremove, ht'⟩ := routingEntryRemove_run ht
    refine ⟨table, top, ?_, ?_⟩
    · rw [if_pos hexp, run_bind_ok hremove]
    · rw [if_pos hexp]
      exact ht'
  · refine ⟨s.routingTable, s.routingTableTop, ?_, ?_⟩
    · rw [if_neg hexp]
    · rw [if_neg hexp]
      exact ht

lemma checkRoutes_end (ht : s.TableHolds size es) (time : UInt32) (fuel : ℕ) {n : ℕ}
    (hn : es.length ≤ n) : (checkRoutes T time (fuel + 1) n).run s = .ok () s := by
  have hlt : ¬n < s.routingTableTop := by
    rw [ht.top]
    omega
  rw [checkRoutes, run_bind_ok (EStateM.run_get s), if_neg hlt]
  rfl

/-- Routes that have not been heard of for too long are removed, but not two in a row. -/
lemma routingTableCheck_run (ht : s.TableHolds size es) (time : UInt32) :
    ∃ table top, (routingTableCheck T time).run s =
        .ok () { s with routingTable := table, routingTableTop := top } ∧
      ({ s with routingTable := table, routingTableTop := top } : Globals δ).TableHolds size
        (routesLeft (RoutingEntry.expired T time) es) := by
  have ht₀ : s.TableHolds size ([] ++ es) := ht
  have hsweep : ∃ table top, (checkRoutes T time (es.length + 1) 0).run s =
        .ok () { s with routingTable := table, routingTableTop := top } ∧
      ({ s with routingTable := table, routingTableTop := top } : Globals δ).TableHolds size
        ([] ++ routesLeft (RoutingEntry.expired T time) es) :=
    sweep_run (fun table top es n fuel ht hn => checkRoutes_end ht time fuel hn)
      (fun table top es e fs' fuel he ht => checkRoutes_step ht time fuel) ht₀
      (Nat.lt_succ_self _)
  unfold routingTableCheck
  rw [run_bind_ok (EStateM.run_get s), ht.top]
  exact hsweep

end Updates

end ZejfMeteo
