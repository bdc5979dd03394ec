import Mathlib.Algebra.Order.BigOperators.Group.Finset
import Mathlib.Combinatorics.SimpleGraph.Metric

/-!
# Distance vectors by flooding

Nodes with ports that are linked in pairs. A node announces itself with a note over all of
its ports; a node that hears of another one over a way that is not longer than the one it
knows passes the note on, except back, until the note has gone `limit` steps. Notes may be
delivered in any order.
-/

namespace Flood

variable {ι : Type}

/-- Links between the ports of nodes. -/
structure Links (ι : Type) where
  ports : ι → ℕ
  peer : ι → ℕ → ι × ℕ
  peer_lt : ∀ {u a}, a < ports u → (peer u a).2 < ports (peer u a).1
  peer_peer : ∀ {u a}, a < ports u → peer (peer u a).1 (peer u a).2 = (u, a)

/-- A note that has left a node through a port, after some hops from its origin. -/
structure Note (ι : Type) where
  port : ℕ
  origin : ι
  hops : ℕ

/-- What the nodes know of the others (distance and port), the notes that are under way from
them, and how many they have sent. -/
structure State (ι : Type) where
  table : ι → ι → Option (ℕ × ℕ)
  flying : ι → List (Note ι)
  sent : ι → ℕ

def State.start : State ι where
  table _ _ := none
  flying _ := []
  sent _ := 0

namespace Links

variable (L : Links ι)

/-- A copy for every port but the one that the note came over. -/
def copies (u : ι) (back : Option ℕ) (origin : ι) (hops : ℕ) : List (Note ι) :=
  ((List.range (L.ports u)).filter (fun a => some a ≠ back)).map (fun a => ⟨a, origin, hops⟩)

/-- Nodes with a link between them. -/
def graph : SimpleGraph ι where
  Adj u v := u ≠ v ∧ ∃ a < L.ports u, (L.peer u a).1 = v
  symm := ⟨by
    rintro u v ⟨hne, a, ha, rfl⟩
    refine ⟨hne.symm, (L.peer u a).2, L.peer_lt ha, ?_⟩
    rw [L.peer_peer ha]⟩
  loopless := ⟨fun u h => h.1 rfl⟩

end Links

/-- An entry for a node after it has been heard of over `hops` hops. -/
def heard (old : Option (ℕ × ℕ)) (hops port : ℕ) : Option (ℕ × ℕ) :=
  match old with
  | none => some (hops, port)
  | some (j, r) => if hops < j then some (hops, port) else some (j, r)

section Steps

variable [DecidableEq ι] (L : Links ι) (limit : ℕ)

def State.send (s : State ι) (u : ι) (notes : List (Note ι)) : State ι :=
  { s with
    flying := Function.update s.flying u (s.flying u ++ notes)
    sent := Function.update s.sent u (s.sent u + notes.length) }

def State.setFlying (s : State ι) (u : ι) (notes : List (Note ι)) : State ι :=
  { s with flying := Function.update s.flying u notes }

def State.setEntry (s : State ι) (v d : ι) (entry : Option (ℕ × ℕ)) : State ι :=
  { s with table := Function.update s.table v (Function.update (s.table v) d entry) }

/-- The note is of another node, has not gone too far and came no longer way than known. -/
def State.Takes (s : State ι) (v origin : ι) (hops : ℕ) : Prop :=
  hops < limit ∧ origin ≠ v ∧ ∀ e ∈ s.table v origin, hops ≤ e.1

open Classical in
/-- Node `v` gets a note over a port. -/
noncomputable def State.receive (s : State ι) (v : ι) (port : ℕ) (origin : ι) (hops : ℕ) :
    State ι :=
  if s.Takes limit v origin hops then
    (s.setEntry v origin (heard (s.table v origin) hops port)).send v
      (L.copies v (some port) origin hops)
  else s

inductive Event (ι : Type)
  | announced (u : ι)
  | delivered

inductive Step (s : State ι) : Event ι → State ι → Prop
  | announce (u : ι) : Step s (.announced u) (s.send u (L.copies u none u 0))
  | deliver (u : ι) (pre : List (Note ι)) (m : Note ι) (post : List (Note ι))
    (hflying : s.flying u = pre ++ m :: post) : Step s .delivered
      ((s.setFlying u (pre ++ post)).receive L limit (L.peer u m.port).1 (L.peer u m.port).2
        m.origin (m.hops + 1))

/-- The states after some events. -/
inductive Reaches : List (Event ι) → State ι → Prop
  | start : Reaches [] .start
  | snoc {es e s t} : Reaches es s → Step L limit s e t → Reaches (es ++ [e]) t

end Steps

/-! ### What nodes know -/

/-- `u` is `d` itself or knows a way to it of at most `k` hops. -/
def State.Knows (s : State ι) (u d : ι) (k : ℕ) : Prop :=
  u = d ∨ ∃ j a, s.table u d = some (j, a) ∧ j ≤ k

/-- `u` has told its neighbours of `d` as `k` hops away. -/
def State.Tells (s : State ι) (announced : ι → Prop) (u d : ι) (k : ℕ) : Prop :=
  (u = d ∧ k = 0 ∧ announced u) ∨ ∃ a, s.table u d = some (k, a)

/-- Notes and entries are about ways that exist, and whatever has been told is known or still
under way. -/
structure Sound (L : Links ι) (limit : ℕ) (announced : ι → Prop) (s : State ι) : Prop where
  notes : ∀ u, ∀ m ∈ s.flying u, m.port < L.ports u ∧ s.Knows u m.origin m.hops
  entries : ∀ u d j a, s.table u d = some (j, a) →
    u ≠ d ∧ 0 < j ∧ j < limit ∧ a < L.ports u ∧ s.Knows (L.peer u a).1 d (j - 1)
  spread : ∀ u d k, s.Tells announced u d k → k + 1 < limit → ∀ a < L.ports u,
    s.Knows (L.peer u a).1 d (k + 1) ∨ ⟨a, d, k⟩ ∈ s.flying u

section Knowledge

variable {L : Links ι} {limit : ℕ} {announced : ι → Prop} {s t : State ι} {u v d : ι} {k j : ℕ}

lemma State.Knows.mono (h : s.Knows u d j) (hjk : j ≤ k) : s.Knows u d k := by
  rcases h with rfl | ⟨i, a, hentry, hi⟩
  · exact Or.inl rfl
  · exact Or.inr ⟨i, a, hentry, hi.trans hjk⟩

lemma mem_copies {back : Option ℕ} {m : Note ι} : m ∈ L.copies u back d k ↔
    m.port < L.ports u ∧ some m.port ≠ back ∧ m.origin = d ∧ m.hops = k := by
  unfold Links.copies
  simp only [List.mem_map, List.mem_filter, List.mem_range, decide_eq_true_eq]
  constructor
  · rintro ⟨a, ⟨ha, hback⟩, rfl⟩
    exact ⟨ha, hback, rfl, rfl⟩
  · rintro ⟨ha, hback, rfl, rfl⟩
    exact ⟨m.port, ⟨ha, hback⟩, rfl⟩

lemma length_copies_le (back : Option ℕ) : (L.copies u back d k).length ≤ L.ports u := by
  unfold Links.copies
  rw [List.length_map]
  exact (List.length_filter_le _ _).trans_eq List.length_range

/-- What is known is the length of a way. -/
lemma Sound.walk (hs : Sound L limit announced s) (h : s.Knows u d k) :
    ∃ w : L.graph.Walk u d, w.length ≤ k := by
  induction k using Nat.strong_induction_on generalizing u with
  | _ k ih =>
    rcases h with rfl | ⟨j, a, hentry, hj⟩
    · exact ⟨.nil, Nat.zero_le k⟩
    · obtain ⟨hne, hpos, -, ha, hknows⟩ := hs.entries u d j a hentry
      by_cases hloop : u = (L.peer u a).1
      · rw [← hloop] at hknows
        obtain ⟨w, hw⟩ := ih (j - 1) (by omega) hknows
        exact ⟨w, by omega⟩
      · obtain ⟨w, hw⟩ := ih (j - 1) (by omega) hknows
        have hadj : L.graph.Adj u (L.peer u a).1 := ⟨hloop, a, ha, rfl⟩
        refine ⟨.cons hadj w, ?_⟩
        rw [SimpleGraph.Walk.length_cons]
        omega

/-- What the delivery of a note may change as long as everything stays sound. -/
lemma Sound.delivered (hs : Sound L limit announced s) {m : Note ι} (hm : m ∈ s.flying u)
    (hgrow : ∀ w e i, s.Knows w e i → t.Knows w e i)
    (hknows : m.hops + 1 < limit → t.Knows (L.peer u m.port).1 m.origin (m.hops + 1))
    (hkept : ∀ w, ∀ x ∈ s.flying w, x ∈ t.flying w ∨ w = u ∧ x = m)
    (hnotes : ∀ w, ∀ x ∈ t.flying w, x ∈ s.flying w ∨ w = (L.peer u m.port).1 ∧
      x ∈ L.copies w (some (L.peer u m.port).2) m.origin (m.hops + 1) ∧ m.hops + 1 < limit)
    (hentries : ∀ w e j a, t.table w e = some (j, a) → s.table w e = some (j, a) ∨
      (w = (L.peer u m.port).1 ∧ e = m.origin ∧ j = m.hops + 1 ∧ a = (L.peer u m.port).2) ∧
      m.hops + 1 < limit ∧ w ≠ e ∧ ∀ x ∈ L.copies w (some a) e j, x ∈ t.flying w) :
    Sound L limit announced t := by
  obtain ⟨hport, hsender⟩ := hs.notes u m hm
  have hback := L.peer_peer hport
  refine ⟨?_, ?_, ?_⟩
  · intro w x hx
    rcases hnotes w x hx with hold | ⟨rfl, hcopy, hlimit⟩
    · obtain ⟨hp, hk⟩ := hs.notes w x hold
      exact ⟨hp, hgrow _ _ _ hk⟩
    · obtain ⟨hp, -, horigin, hhops⟩ := mem_copies.mp hcopy
      rw [horigin, hhops]
      exact ⟨hp, hknows hlimit⟩
  · intro w e j a hentry
    rcases hentries w e j a hentry with hold | ⟨⟨rfl, rfl, rfl, rfl⟩, hlimit, hne, -⟩
    · obtain ⟨hne, hpos, hlimit, ha, hk⟩ := hs.entries w e j a hold
      exact ⟨hne, hpos, hlimit, ha, hgrow _ _ _ hk⟩
    · rw [hback]
      exact ⟨hne, Nat.succ_pos _, hlimit, L.peer_lt hport, hgrow _ _ _ hsender⟩
  · intro w e k htells hk a ha
    -- What has been told before is known or under way, unless it is delivered now.
    have hbefore : s.Tells announced w e k →
        t.Knows (L.peer w a).1 e (k + 1) ∨ ⟨a, e, k⟩ ∈ t.flying w := by
      intro htold
      rcases hs.spread w e k htold hk a ha with hknown | hflying
      · exact Or.inl (hgrow _ _ _ hknown)
      · rcases hkept w _ hflying with hthere | ⟨rfl, rfl⟩
        · exact Or.inr hthere
        · exact Or.inl (hknows hk)
    rcases htells with hown | ⟨b, hentry⟩
    · exact hbefore (Or.inl hown)
    · rcases hentries w e k b hentry with hold | ⟨⟨rfl, rfl, rfl, rfl⟩, -, -, hcopies⟩
      · exact hbefore (Or.inr ⟨b, hold⟩)
      · by_cases hab : a = (L.peer u m.port).2
        · subst hab
          rw [hback]
          exact Or.inl (hgrow _ _ _ (hsender.mono (by omega)))
        · refine Or.inr (hcopies _ (mem_copies.mpr ⟨ha, ?_, rfl, rfl⟩))
          simpa using hab

lemma Sound.start (L : Links ι) (limit : ℕ) : Sound L limit (fun _ => False) State.start where
  notes u m hm := by cases hm
  entries u d j a hentry := by cases hentry
  spread u d k htells := by
    rcases htells with ⟨-, -, hfalse⟩ | ⟨a, hentry⟩
    · exact hfalse.elim
    · cases hentry

end Knowledge

section Soundness

variable [DecidableEq ι] {L : Links ι} {limit : ℕ} {announced : ι → Prop} {s t : State ι}
  {u v d : ι}

lemma heard_some {old : Option (ℕ × ℕ)} {hops port j a : ℕ}
    (h : heard old hops port = some (j, a)) : old = some (j, a) ∨ j = hops ∧ a = port := by
  unfold heard at h
  cases old with
  | none =>
    obtain ⟨rfl, rfl⟩ := Prod.mk.inj (Option.some.inj h)
    exact Or.inr ⟨rfl, rfl⟩
  | some e =>
    dsimp only at h
    split at h
    · obtain ⟨rfl, rfl⟩ := Prod.mk.inj (Option.some.inj h)
      exact Or.inr ⟨rfl, rfl⟩
    · exact Or.inl h

lemma heard_le (old : Option (ℕ × ℕ)) (hops port : ℕ) : ∃ j a,
    heard old hops port = some (j, a) ∧ j ≤ hops ∧ ∀ e ∈ old, j ≤ e.1 := by
  unfold heard
  cases old with
  | none => exact ⟨hops, port, rfl, Nat.le_refl _, by simp⟩
  | some e =>
    obtain ⟨j, a⟩ := e
    dsimp only
    by_cases hlt : hops < j
    · rw [if_pos hlt]
      refine ⟨hops, port, rfl, Nat.le_refl _, ?_⟩
      rintro _ ⟨rfl⟩
      exact Nat.le_of_lt hlt
    · rw [if_neg hlt]
      refine ⟨j, a, rfl, Nat.le_of_not_lt hlt, ?_⟩
      rintro _ ⟨rfl⟩
      exact Nat.le_refl _

/-- A longer way changes nothing. -/
lemma heard_longer {old : Option (ℕ × ℕ)} {hops port : ℕ} (h : ¬∀ e ∈ old, hops ≤ e.1) :
    heard old hops port = old := by
  unfold heard
  cases old with
  | none => simp at h
  | some e =>
    simp only [Option.mem_some_iff, forall_eq', not_le] at h
    dsimp only
    rw [if_neg (by omega)]

lemma State.setEntry_table (entry : Option (ℕ × ℕ)) (w e : ι) :
    (s.setEntry v d entry).table w e = if w = v ∧ e = d then entry else s.table w e := by
  unfold State.setEntry
  by_cases hw : w = v
  · subst hw
    by_cases he : e = d
    · simp [he]
    · simp [he]
  · simp [hw]

lemma State.mem_send {notes : List (Note ι)} {w : ι} {x : Note ι} :
    x ∈ (s.send u notes).flying w ↔ x ∈ s.flying w ∨ w = u ∧ x ∈ notes := by
  unfold State.send
  by_cases hw : w = u
  · subst hw
    simp
  · simp [hw]

/-- A note concerns the node that gets it only. -/
lemma State.receive_other (limit : ℕ) {v w : ι} (hw : w ≠ v) (port : ℕ) (origin : ι) (hops : ℕ) :
    (s.receive L limit v port origin hops).table w = s.table w ∧
      (s.receive L limit v port origin hops).flying w = s.flying w ∧
      (s.receive L limit v port origin hops).sent w = s.sent w := by
  unfold State.receive
  split
  · simp [State.send, State.setEntry, hw]
  · exact ⟨rfl, rfl, rfl⟩

/-- Taking one note away leaves the others. -/
lemma State.flying_removed {pre post : List (Note ι)} {m : Note ι}
    (hflying : s.flying u = pre ++ m :: post) (w : ι) :
    (∀ x ∈ s.flying w, x ∈ (s.setFlying u (pre ++ post)).flying w ∨ w = u ∧ x = m) ∧
      ∀ x ∈ (s.setFlying u (pre ++ post)).flying w, x ∈ s.flying w := by
  unfold State.setFlying
  by_cases hw : w = u
  · subst hw
    simp only [Function.update_self, hflying, List.mem_append, List.mem_cons]
    exact ⟨fun x hx => by tauto, fun x hx => by tauto⟩
  · simp only [Function.update_of_ne hw]
    exact ⟨fun x hx => Or.inl hx, fun x hx => hx⟩

/-- Announcing adds notes only. -/
lemma Sound.announce (hs : Sound L limit announced s) (u : ι) :
    Sound L limit (fun w => announced w ∨ w = u) (s.send u (L.copies u none u 0)) := by
  refine ⟨?_, hs.entries, ?_⟩
  · intro w x hx
    rcases State.mem_send.mp hx with hold | ⟨rfl, hnew⟩
    · exact hs.notes w x hold
    · obtain ⟨hport, -, horigin, -⟩ := mem_copies.mp hnew
      exact ⟨hport, Or.inl horigin.symm⟩
  · intro w d k htells hk a ha
    have hbefore : s.Tells announced w d k → (s.send u (L.copies u none u 0)).Knows
        (L.peer w a).1 d (k + 1) ∨ ⟨a, d, k⟩ ∈ (s.send u (L.copies u none u 0)).flying w := by
      intro htold
      rcases hs.spread w d k htold hk a ha with hknown | hflying
      · exact Or.inl hknown
      · exact Or.inr (State.mem_send.mpr (Or.inl hflying))
    rcases htells with ⟨rfl, rfl, hann | rfl⟩ | hentry
    · exact hbefore (Or.inl ⟨rfl, rfl, hann⟩)
    · exact Or.inr (State.mem_send.mpr (Or.inr ⟨rfl, mem_copies.mpr ⟨ha, by simp, rfl, rfl⟩⟩))
    · exact hbefore (Or.inr hentry)

/-- A note that is not taken is dropped. -/
lemma Sound.drop (hs : Sound L limit announced s) {pre post : List (Note ι)} {m : Note ι}
    (hflying : s.flying u = pre ++ m :: post)
    (hknows : m.hops + 1 < limit → s.Knows (L.peer u m.port).1 m.origin (m.hops + 1)) :
    Sound L limit announced (s.setFlying u (pre ++ post)) := by
  have hm : m ∈ s.flying u := by simp [hflying]
  refine hs.delivered (t := s.setFlying u (pre ++ post)) hm (fun _ _ _ h => h) hknows
    (fun w => (State.flying_removed hflying w).1) ?_ ?_
  · intro w x hx
    exact Or.inl ((State.flying_removed hflying w).2 x hx)
  · intro w e j a hentry
    exact Or.inl hentry

/-- A note that is taken is noted down and passed on. -/
lemma Sound.pass (hs : Sound L limit announced s) {pre post : List (Note ι)} {m : Note ι}
    (hflying : s.flying u = pre ++ m :: post) (hlimit : m.hops + 1 < limit)
    (hne : m.origin ≠ (L.peer u m.port).1) :
    Sound L limit announced (((s.setFlying u (pre ++ post)).setEntry (L.peer u m.port).1 m.origin
      (heard (s.table (L.peer u m.port).1 m.origin) (m.hops + 1) (L.peer u m.port).2)).send
        (L.peer u m.port).1
        (L.copies (L.peer u m.port).1 (some (L.peer u m.port).2) m.origin (m.hops + 1))) := by
  have hm : m ∈ s.flying u := by simp [hflying]
  obtain ⟨i, b, hheard, hi, hle⟩ := heard_le (s.table (L.peer u m.port).1 m.origin) (m.hops + 1)
    (L.peer u m.port).2
  generalize hv : (L.peer u m.port).1 = v at *
  generalize hq : (L.peer u m.port).2 = q at *
  generalize ht : ((s.setFlying u (pre ++ post)).setEntry v m.origin
    (heard (s.table v m.origin) (m.hops + 1) q)).send v
      (L.copies v (some q) m.origin (m.hops + 1)) = t
  have htable : ∀ w e, t.table w e = if w = v ∧ e = m.origin then some (i, b) else s.table w e := by
    intro w e
    rw [← ht, ← hheard]
    exact State.setEntry_table _ w e
  have hmem : ∀ w x, x ∈ t.flying w ↔ x ∈ (s.setFlying u (pre ++ post)).flying w ∨
      w = v ∧ x ∈ L.copies v (some q) m.origin (m.hops + 1) := by
    intro w x
    rw [← ht]
    exact State.mem_send
  apply hs.delivered hm
  · rintro w e k (rfl | ⟨j, a, hentry, hj⟩)
    · exact Or.inl rfl
    · by_cases hwe : w = v ∧ e = m.origin
      · have hij : i ≤ j := hle (j, a) (hwe.1 ▸ hwe.2 ▸ hentry)
        exact Or.inr ⟨i, b, by rw [htable, if_pos hwe], hij.trans hj⟩
      · exact Or.inr ⟨j, a, by rw [htable, if_neg hwe, hentry], hj⟩
  · intro _
    rw [hv]
    exact Or.inr ⟨i, b, by rw [htable, if_pos ⟨rfl, rfl⟩], hi⟩
  · intro w x hx
    rcases (State.flying_removed hflying w).1 x hx with hkept | hgone
    · exact Or.inl ((hmem w x).mpr (Or.inl hkept))
    · exact Or.inr hgone
  · intro w x hx
    rw [hv, hq]
    rcases (hmem w x).mp hx with hold | ⟨rfl, hnew⟩
    · exact Or.inl ((State.flying_removed hflying w).2 x hold)
    · exact Or.inr ⟨rfl, hnew, hlimit⟩
  · intro w e j a hentry
    rw [hv, hq]
    rw [htable] at hentry
    by_cases hwe : w = v ∧ e = m.origin
    · rw [if_pos hwe, ← hheard] at hentry
      obtain ⟨rfl, rfl⟩ := hwe
      rcases heard_some hentry with hold | ⟨rfl, rfl⟩
      · exact Or.inl hold
      · exact Or.inr ⟨⟨rfl, rfl, rfl, rfl⟩, hlimit, hne.symm,
          fun x hx => (hmem w x).mpr (Or.inr ⟨rfl, hx⟩)⟩
    · rw [if_neg hwe] at hentry
      exact Or.inl hentry

lemma Sound.step {e : Event ι} (hs : Sound L limit announced s) (hstep : Step L limit s e t) :
    Sound L limit (fun w => announced w ∨ e = .announced w) t := by
  cases hstep with
  | announce u =>
    have hann := hs.announce u
    simpa only [Event.announced.injEq, eq_comm] using hann
  | deliver u pre m post hflying =>
    have hann : (fun w => announced w ∨ Event.delivered = .announced w) = announced := by
      funext w
      simp
    rw [hann]
    unfold State.receive
    by_cases htakes : (s.setFlying u (pre ++ post)).Takes limit (L.peer u m.port).1 m.origin
        (m.hops + 1)
    · rw [if_pos htakes]
      exact hs.pass hflying htakes.1 htakes.2.1
    · rw [if_neg htakes]
      apply hs.drop hflying
      intro hlimit
      by_contra hknows
      apply htakes
      refine ⟨hlimit, ?_, ?_⟩
      · intro he
        exact hknows (Or.inl he.symm)
      · intro e he
        by_contra hlt
        exact hknows (Or.inr ⟨e.1, e.2, he, by omega⟩)

/-- Every state that is reached is sound. -/
theorem Reaches.sound {es : List (Event ι)} (h : Reaches L limit es s) :
    Sound L limit (fun u => Event.announced u ∈ es) s := by
  induction h with
  | start => simpa using Sound.start L limit
  | @snoc es e s t hreach hstep ih =>
    have hann : (fun u => Event.announced u ∈ es ++ [e]) =
        fun u => Event.announced u ∈ es ∨ e = .announced u := by
      funext u
      simp [eq_comm]
    rw [hann]
    exact ih.step hstep

end Soundness

section Distances

variable {L : Links ι} {limit : ℕ} {announced : ι → Prop} {s : State ι} {u d : ι} {k a : ℕ}

/-- When no note is under way, whatever lies within the limit is known. -/
lemma Sound.knows_of_walk (hs : Sound L limit announced s) (hall : ∀ u, announced u)
    (hquiet : ∀ u, s.flying u = []) (w : L.graph.Walk u d) (hw : w.length < limit) :
    s.Knows u d w.length := by
  induction w with
  | nil => exact Or.inl rfl
  | @cons u v d hadj w ih =>
    rw [SimpleGraph.Walk.length_cons] at hw ⊢
    obtain ⟨-, a, ha, hpeer⟩ := hadj.symm
    have hspread : ∀ k, s.Tells announced v d k → k + 1 < limit → s.Knows u d (k + 1) := by
      intro k htells hk
      rcases hs.spread v d k htells hk a ha with hknows | hflying
      · exact hpeer ▸ hknows
      · rw [hquiet v] at hflying
        cases hflying
    rcases ih (by omega) with rfl | ⟨j, b, hentry, hj⟩
    · exact (hspread 0 (Or.inl ⟨rfl, rfl, hall v⟩) (by omega)).mono (by omega)
    · exact (hspread j (Or.inr ⟨b, hentry⟩) (by omega)).mono (by omega)

lemma Sound.edist_le (hs : Sound L limit announced s) (h : s.Knows u d k) :
    L.graph.edist u d ≤ k := by
  obtain ⟨w, hw⟩ := hs.walk h
  exact (SimpleGraph.edist_le w).trans (by exact_mod_cast hw)

/-- **Flooding computes shortest ways.** Once no note is under way, the nodes have entries for
exactly those that are nearer than the limit, with their distances. -/
theorem Sound.entry_iff (hs : Sound L limit announced s) (hall : ∀ u, announced u)
    (hquiet : ∀ u, s.flying u = []) :
    (∃ a, s.table u d = some (k, a)) ↔ L.graph.edist u d = k ∧ 0 < k ∧ k < limit := by
  constructor
  · rintro ⟨a, hentry⟩
    obtain ⟨-, hpos, hlimit, -, -⟩ := hs.entries u d k a hentry
    refine ⟨?_, hpos, hlimit⟩
    apply le_antisymm (hs.edist_le (Or.inr ⟨k, a, hentry, Nat.le_refl k⟩))
    -- A shorter way would be known as well.
    by_contra hlt
    rw [not_le] at hlt
    obtain ⟨w, hw⟩ := SimpleGraph.exists_walk_of_edist_ne_top (ne_top_of_lt hlt)
    rw [← hw] at hlt
    have hshort : w.length < k := by exact_mod_cast hlt
    rcases hs.knows_of_walk hall hquiet w (by omega) with rfl | ⟨j, b, hentry', hj⟩
    · exact (hs.entries u u k a hentry).1 rfl
    · rw [hentry] at hentry'
      obtain ⟨rfl, -⟩ := Prod.mk.inj (Option.some.inj hentry')
      omega
  · rintro ⟨hdist, hpos, hlimit⟩
    obtain ⟨w, hw⟩ := SimpleGraph.exists_walk_of_edist_eq_coe hdist
    rcases hs.knows_of_walk hall hquiet w (by omega) with rfl | ⟨j, a, hentry, hj⟩
    · rw [SimpleGraph.edist_self] at hdist
      exact absurd (by exact_mod_cast hdist : 0 = k) (by omega)
    · have hle := hs.edist_le (Or.inr ⟨j, a, hentry, Nat.le_refl j⟩)
      rw [hdist] at hle
      have hkj : k ≤ j := by exact_mod_cast hle
      obtain rfl : j = k := by omega
      exact ⟨a, hentry⟩

/-- The port of an entry leads nearer. -/
theorem Sound.entry_port (hs : Sound L limit announced s) (hall : ∀ u, announced u)
    (hquiet : ∀ u, s.flying u = []) (hentry : s.table u d = some (k, a)) :
    a < L.ports u ∧ L.graph.edist (L.peer u a).1 d < L.graph.edist u d := by
  obtain ⟨-, hpos, -, ha, hknows⟩ := hs.entries u d k a hentry
  refine ⟨ha, (hs.edist_le hknows).trans_lt ?_⟩
  rw [((hs.entry_iff hall hquiet).mp ⟨a, hentry⟩).1]
  exact_mod_cast Nat.sub_one_lt (by omega)

end Distances

/-! ### The number of notes -/

/-- The notes that can follow from one that has `n` steps left, if no node has more than
`degree` ports. -/
def budget (degree : ℕ) : ℕ → ℕ
  | 0 => 0
  | n + 1 => degree * (1 + budget degree n)

def announcements (es : List (Event ι)) : ℕ := es.countP (fun e => e matches .announced _)

section Budget

variable {L : Links ι} {limit degree : ℕ} {s t : State ι} {u : ι}

lemma sum_budget_copies (limit : ℕ) (hdegree : ∀ u, L.ports u ≤ degree) (back : Option ℕ) (d : ι)
    (k : ℕ) :
    (L.copies u back d k).length +
        ((L.copies u back d k).map (fun m => budget degree (limit - m.hops))).sum ≤
      budget degree (limit - k + 1) := by
  have hhops : (L.copies u back d k).map (fun m => budget degree (limit - m.hops)) =
      (L.copies u back d k).map (fun _ => budget degree (limit - k)) := by
    apply List.map_congr_left
    intro m hm
    rw [(mem_copies.mp hm).2.2.2]
  have hlen : (L.copies u back d k).length ≤ degree := (length_copies_le back).trans (hdegree u)
  rw [hhops, List.map_const', List.sum_replicate, smul_eq_mul]
  calc (L.copies u back d k).length + (L.copies u back d k).length * budget degree (limit - k)
      = (L.copies u back d k).length * (1 + budget degree (limit - k)) := by
        rw [Nat.mul_add, Nat.mul_one]
    _ ≤ degree * (1 + budget degree (limit - k)) := Nat.mul_le_mul_right _ hlen

variable [DecidableEq ι] [Fintype ι]

/-- What a node has sent and what may follow from the notes that are under way from it. -/
def State.load (s : State ι) (degree limit : ℕ) (u : ι) : ℕ :=
  s.sent u + ((s.flying u).map (fun m => budget degree (limit - m.hops))).sum

/-- A sum after a change at one node. -/
lemma sum_change {f g : ι → ℕ} (hother : ∀ w, w ≠ u → g w = f w) :
    ∑ w, g w + f u = ∑ w, f w + g u := by
  have hf := Finset.add_sum_erase Finset.univ f (Finset.mem_univ u)
  have hg := Finset.add_sum_erase Finset.univ g (Finset.mem_univ u)
  have hrest : ∑ w ∈ Finset.univ.erase u, g w = ∑ w ∈ Finset.univ.erase u, f w :=
    Finset.sum_congr rfl (fun w hw => hother w (Finset.ne_of_mem_erase hw))
  omega

/-- Copies cost at most the budget of the note that they come from. -/
lemma sum_load_send (limit : ℕ) (hdegree : ∀ u, L.ports u ≤ degree) (back : Option ℕ) (d : ι) (k : ℕ) :
    ∑ w, (s.send u (L.copies u back d k)).load degree limit w ≤
      ∑ w, s.load degree limit w + budget degree (limit - k + 1) := by
  have hchange := sum_change (u := u) (f := s.load degree limit)
    (g := (s.send u (L.copies u back d k)).load degree limit) (by
      intro w hw
      simp [State.load, State.send, hw])
  have hcopies := sum_budget_copies (L := L) (u := u) limit hdegree back d k
  have hload : (s.send u (L.copies u back d k)).load degree limit u = s.load degree limit u +
      ((L.copies u back d k).length +
        ((L.copies u back d k).map (fun m => budget degree (limit - m.hops))).sum) := by
    simp only [State.load, State.send, Function.update_self, List.map_append, List.sum_append]
    omega
  omega

/-- A note that is taken away takes its budget with it. -/
lemma sum_load_removed (degree limit : ℕ) {pre post : List (Note ι)} {m : Note ι}
    (hflying : s.flying u = pre ++ m :: post) :
    ∑ w, (s.setFlying u (pre ++ post)).load degree limit w + budget degree (limit - m.hops) =
      ∑ w, s.load degree limit w := by
  have hchange := sum_change (u := u) (f := s.load degree limit)
    (g := (s.setFlying u (pre ++ post)).load degree limit) (by
      intro w hw
      simp [State.load, State.setFlying, hw])
  have hload : (s.setFlying u (pre ++ post)).load degree limit u +
      budget degree (limit - m.hops) = s.load degree limit u := by
    simp only [State.load, State.setFlying, Function.update_self, hflying, List.map_append,
      List.map_cons, List.sum_append, List.sum_cons]
    omega
  omega

/-- Only an announcement makes room for more notes. -/
lemma Step.load_le {e : Event ι} (hdegree : ∀ u, L.ports u ≤ degree) (hstep : Step L limit s e t) :
    ∑ w, t.load degree limit w ≤
      ∑ w, s.load degree limit w + announcements [e] * budget degree (limit + 1) := by
  cases hstep with
  | announce u =>
    have hsend := sum_load_send (s := s) (u := u) limit hdegree none u 0
    simpa [announcements] using hsend
  | deliver u pre m post hflying =>
    have hremoved := sum_load_removed degree limit hflying
    suffices h : ∑ w, ((s.setFlying u (pre ++ post)).receive L limit (L.peer u m.port).1
        (L.peer u m.port).2 m.origin (m.hops + 1)).load degree limit w ≤
        ∑ w, (s.setFlying u (pre ++ post)).load degree limit w + budget degree (limit - m.hops) by
      omega
    unfold State.receive
    by_cases htakes : (s.setFlying u (pre ++ post)).Takes limit (L.peer u m.port).1 m.origin
        (m.hops + 1)
    · rw [if_pos htakes]
      have hhops : limit - (m.hops + 1) + 1 = limit - m.hops := by
        have := htakes.1
        omega
      have hsend := sum_load_send (s := (s.setFlying u (pre ++ post)).setEntry (L.peer u m.port).1
        m.origin (heard ((s.setFlying u (pre ++ post)).table (L.peer u m.port).1 m.origin)
          (m.hops + 1) (L.peer u m.port).2)) (u := (L.peer u m.port).1) limit
        hdegree (some (L.peer u m.port).2) m.origin (m.hops + 1)
      rw [hhops] at hsend
      exact hsend
    · rw [if_neg htakes]
      exact Nat.le_add_right _ _

/-- What is sent is delivered once or still under way. -/
lemma Step.conserves {e : Event ι} (hstep : Step L limit s e t) :
    1 + ∑ u, (t.flying u).length + ∑ u, s.sent u =
      announcements [e] + ∑ u, (s.flying u).length + ∑ u, t.sent u := by
  have hsend : ∀ (r : State ι) (u : ι) (notes : List (Note ι)),
      ∑ w, ((r.send u notes).flying w).length + ∑ w, r.sent w =
        ∑ w, (r.flying w).length + ∑ w, (r.send u notes).sent w := by
    intro r u notes
    have hflying := sum_change (u := u) (f := fun w => (r.flying w).length)
      (g := fun w => ((r.send u notes).flying w).length) (by
        intro w hw
        simp [State.send, hw])
    have hsent := sum_change (u := u) (f := r.sent) (g := (r.send u notes).sent) (by
        intro w hw
        simp [State.send, hw])
    simp only [State.send, Function.update_self, List.length_append] at hflying hsent ⊢
    omega
  cases hstep with
  | announce u =>
    have hcopies := hsend s u (L.copies u none u 0)
    have hone : announcements [Event.announced u] = 1 := rfl
    omega
  | deliver u pre m post hflying =>
    have hnone : announcements [(Event.delivered : Event ι)] = 0 := rfl
    have htaken := sum_change (u := u) (f := fun w => (s.flying w).length)
      (g := fun w => ((s.setFlying u (pre ++ post)).flying w).length) (by
        intro w hw
        simp [State.setFlying, hw])
    simp only [State.setFlying, Function.update_self, hflying, List.length_append,
      List.length_cons] at htaken
    unfold State.receive
    split
    · have hcopies := hsend ((s.setFlying u (pre ++ post)).setEntry (L.peer u m.port).1 m.origin
        (heard ((s.setFlying u (pre ++ post)).table (L.peer u m.port).1 m.origin) (m.hops + 1)
          (L.peer u m.port).2)) (L.peer u m.port).1
        (L.copies (L.peer u m.port).1 (some (L.peer u m.port).2) m.origin (m.hops + 1))
      simp only [State.setEntry, State.setFlying] at hcopies ⊢
      omega
    · simp only [State.setFlying]
      omega

/-- **Flooding ends.** However the notes are delivered, an announcement is followed by a
bounded number of them. -/
theorem Reaches.bounded {es : List (Event ι)} (hdegree : ∀ u, L.ports u ≤ degree)
    (h : Reaches L limit es s) :
    ∑ u, s.sent u ≤ announcements es * budget degree (limit + 1) := by
  have hload : ∑ u, s.load degree limit u ≤ announcements es * budget degree (limit + 1) := by
    induction h with
    | start => simp [State.load, State.start]
    | @snoc es e s t hreach hstep ih =>
      have hle := hstep.load_le hdegree
      have hsplit : announcements (es ++ [e]) = announcements es + announcements [e] :=
        List.countP_append
      rw [hsplit, Nat.add_mul]
      omega
  exact (Finset.sum_le_sum (fun u _ => Nat.le_add_right _ _)).trans hload

/-- A run is as long as it has announcements and has notes delivered. -/
theorem Reaches.conserved {es : List (Event ι)} (h : Reaches L limit es s) :
    es.length + ∑ u, (s.flying u).length = announcements es + ∑ u, s.sent u := by
  induction h with
  | start => simp [State.start, announcements]
  | @snoc es e s t hreach hstep ih =>
    have hconserves := hstep.conserves
    have hsplit : announcements (es ++ [e]) = announcements es + announcements [e] :=
      List.countP_append
    rw [hsplit, List.length_append, List.length_singleton]
    omega

end Budget

end Flood
