import Mathlib.Algebra.BigOperators.Group.Finset.Basic
import Mathlib.Algebra.BigOperators.Group.Finset.Piecewise
import Mathlib.Algebra.Order.BigOperators.Group.Finset
import Mathlib.Algebra.Order.Group.Multiset
import Mathlib.Data.Fintype.Prod
import Mathlib.Data.Multiset.Filter
import Mathlib.Tactic.Ring

/-!
# Parcels on their way

Nodes pass parcels on to the next node of the way to their targets. A parcel waits in the queue
of a node, is on one of the links of a node or lies in an inbox. Every hop takes a parcel
closer; parcels may move in any order, and some may get lost.
-/

namespace Parcels

/-- The next nodes on the ways, and how long the ways are. -/
structure Ways (ι : Type) where
  next : ι → ι → Option ι
  dist : ι → ι → ℕ
  dist_self : ∀ u, dist u u = 0
  closer : ∀ {u d v}, next u d = some v → dist v d + 1 = dist u d
  onward : ∀ {u d v}, next u d = some v → v = d ∨ (next v d).isSome

structure Parcel (ι β : Type) where
  origin : ι
  target : ι
  load : β
deriving DecidableEq

/-- A parcel after some hops. -/
structure Trip (ι β : Type) extends Parcel ι β where
  hops : ℕ

inductive Spot
  | queue
  | links
  | inbox
deriving DecidableEq

instance : Fintype Spot where
  elems := {.queue, .links, .inbox}
  complete p := by cases p <;> decide

abbrev Place (ι : Type) := Spot × ι

structure State (ι β : Type) where
  sent : List (Parcel ι β)
  items : Place ι → List (Trip ι β)
  lost : List (Place ι × Trip ι β)

inductive Event
  | sent
  | moved
  | lost
deriving DecidableEq

variable {ι β M : Type}

def Trip.hop (x : Trip ι β) : Trip ι β := { x with hops := x.hops + 1 }

def State.start : State ι β where
  sent := []
  items _ := []
  lost := []

/-- One move of a parcel. -/
inductive Ways.Moves (W : Ways ι) : Place ι → Trip ι β → Place ι → Trip ι β → Prop
  | leave {u : ι} {x : Trip ι β} (h : (W.next u x.target).isSome) :
    Moves W (.queue, u) x (.links, u) x
  | arrive {u : ι} {x : Trip ι β} (h : W.next u x.target = some x.target) :
    Moves W (.links, u) x (.inbox, x.target) x.hop
  | pass {u v : ι} {x : Trip ι β} (h : W.next u x.target = some v) (hv : v ≠ x.target) :
    Moves W (.links, u) x (.queue, v) x.hop

/-- A parcel is where it can be, after as many hops as the way has become shorter. -/
def Ways.OnWay (W : Ways ι) (p : Place ι) (x : Trip ι β) : Prop :=
  x.hops + W.dist p.2 x.target = W.dist x.origin x.target ∧
    if p.1 = .inbox then x.target = p.2 else (W.next p.2 x.target).isSome

/-- The moves that are left for a parcel. -/
def Ways.remaining (W : Ways ι) (p : Place ι) (x : Trip ι β) : ℕ :=
  match p.1 with
  | .queue => 2 * W.dist p.2 x.target
  | .links => 2 * W.dist p.2 x.target - 1
  | .inbox => 0

/-- The moves that take a parcel to its target. -/
def Ways.length (W : Ways ι) (x : Parcel ι β) : ℕ := 2 * W.dist x.origin x.target

section Moves

variable {W : Ways ι} {p q : Place ι} {x y : Trip ι β}

lemma Ways.pos {u d : ι} (h : (W.next u d).isSome) : 0 < W.dist u d := by
  obtain ⟨v, hv⟩ := Option.isSome_iff_exists.mp h
  have hcloser := W.closer hv
  omega

lemma Ways.Moves.onWay (h : W.Moves p x q y) (hx : W.OnWay p x) :
    W.OnWay q y ∧ W.remaining q y + 1 = W.remaining p x ∧ y.toParcel = x.toParcel := by
  obtain ⟨hhops, hspot⟩ := hx
  cases h with
  | leave hnext =>
    have hpos := W.pos hnext
    refine ⟨⟨hhops, hspot⟩, ?_, rfl⟩
    simp only [Ways.remaining]
    omega
  | arrive hnext =>
    have hcloser := W.closer hnext
    have hself := W.dist_self x.target
    refine ⟨⟨?_, rfl⟩, ?_, rfl⟩
    · simp only [Trip.hop] at hhops ⊢
      omega
    · simp only [Ways.remaining]
      omega
  | pass hnext hv =>
    have hcloser := W.closer hnext
    refine ⟨⟨?_, (W.onward hnext).resolve_left hv⟩, ?_, rfl⟩
    · simp only [Trip.hop] at hhops ⊢
      omega
    · simp only [Ways.remaining, Trip.hop]
      omega

end Moves

section Steps

variable [DecidableEq ι]

def State.take (s : State ι β) (p : Place ι) (rest : List (Trip ι β)) : State ι β :=
  { s with items := Function.update s.items p rest }

def State.put (s : State ι β) (p : Place ι) (x : Trip ι β) : State ι β :=
  { s with items := Function.update s.items p (s.items p ++ [x]) }

def State.send (s : State ι β) (x : Parcel ι β) : State ι β :=
  { s.put (.queue, x.origin) ⟨x, 0⟩ with sent := s.sent ++ [x] }

def State.lose (s : State ι β) (p : Place ι) (x : Trip ι β) (rest : List (Trip ι β)) :
    State ι β :=
  { s.take p rest with lost := s.lost ++ [(p, x)] }

inductive Step (W : Ways ι) (s : State ι β) : Event → State ι β → Prop
  | send (x : Parcel ι β) (h : (W.next x.origin x.target).isSome) : Step W s .sent (s.send x)
  | move {p q : Place ι} {x y : Trip ι β} {pre post : List (Trip ι β)}
    (hp : s.items p = pre ++ x :: post) (h : W.Moves p x q y) :
    Step W s .moved ((s.take p (pre ++ post)).put q y)
  | lose {p : Place ι} {x : Trip ι β} {pre post : List (Trip ι β)}
    (hp : s.items p = pre ++ x :: post) (hplace : p.1 ≠ .inbox) :
    Step W s .lost (s.lose p x (pre ++ post))

/-- The states after some events. -/
inductive Reaches (W : Ways ι) : List Event → State ι β → Prop
  | start : Reaches W [] .start
  | snoc {es e s t} : Reaches W es s → Step W s e t → Reaches W (es ++ [e]) t

variable {s : State ι β} {p q : Place ι} {x y : Trip ι β} {pre post : List (Trip ι β)}

lemma State.mem_put :
    y ∈ (s.put p x).items q ↔ y ∈ s.items q ∨ q = p ∧ y = x := by
  unfold State.put
  by_cases hq : q = p
  · subst hq
    simp
  · simp [hq]

lemma State.put_self : (s.put p x).items p = s.items p ++ [x] := Function.update_self _ _ _

lemma State.put_other (hq : q ≠ p) : (s.put p x).items q = s.items q :=
  Function.update_of_ne hq _ _

lemma State.take_self (rest : List (Trip ι β)) : (s.take p rest).items p = rest :=
  Function.update_self _ _ _

lemma State.take_other (hq : q ≠ p) (rest : List (Trip ι β)) :
    (s.take p rest).items q = s.items q := Function.update_of_ne hq _ _

lemma State.mem_of_take (hp : s.items p = pre ++ x :: post)
    (hy : y ∈ (s.take p (pre ++ post)).items q) : y ∈ s.items q := by
  by_cases hq : q = p
  · subst hq
    simp only [State.take, Function.update_self, List.mem_append] at hy
    rw [hp, List.mem_append, List.mem_cons]
    tauto
  · simpa only [State.take, Function.update_of_ne hq] using hy

end Steps

section Sums

variable [Fintype ι] [AddCancelCommMonoid M]

/-- Adds up something over all parcels that are somewhere. -/
def State.total (s : State ι β) (f : Place ι → Trip ι β → M) : M :=
  ∑ p, ((s.items p).map (f p)).sum

variable [DecidableEq ι] {s : State ι β} {p : Place ι} {x : Trip ι β}
  {pre post : List (Trip ι β)}

lemma State.total_take (s : State ι β) (p : Place ι) (rest : List (Trip ι β))
    (f : Place ι → Trip ι β → M) :
    (s.take p rest).total f + ((s.items p).map (f p)).sum =
      s.total f + (rest.map (f p)).sum := by
  have hothers : ∀ q ∈ Finset.univ.erase p, (((s.take p rest).items q).map (f q)).sum =
      ((s.items q).map (f q)).sum := by
    intro q hq
    simp only [State.take, Function.update_of_ne (Finset.ne_of_mem_erase hq)]
  have hself : (s.take p rest).items p = rest := Function.update_self _ _ _
  unfold State.total
  rw [← Finset.add_sum_erase _ _ (Finset.mem_univ p), Finset.sum_congr rfl hothers, hself,
    ← Finset.add_sum_erase Finset.univ (fun q => ((s.items q).map (f q)).sum) (Finset.mem_univ p)]
  ac_rfl

lemma State.total_take_one (hp : s.items p = pre ++ x :: post) (f : Place ι → Trip ι β → M) :
    (s.take p (pre ++ post)).total f + f p x = s.total f := by
  have htake := s.total_take p (pre ++ post) f
  rw [hp] at htake
  simp only [List.map_append, List.map_cons, List.sum_append, List.sum_cons] at htake
  apply add_right_cancel (b := (pre.map (f p)).sum + (post.map (f p)).sum)
  rw [← htake]
  ac_rfl

lemma State.total_put (s : State ι β) (p : Place ι) (x : Trip ι β)
    (f : Place ι → Trip ι β → M) : (s.put p x).total f = s.total f + f p x := by
  have htake := s.total_take p (s.items p ++ [x]) f
  rw [List.map_append, List.sum_append, List.map_singleton, List.sum_singleton,
    ← add_assoc, add_right_comm] at htake
  exact add_right_cancel htake

lemma State.total_send (s : State ι β) (x : Parcel ι β) (f : Place ι → Trip ι β → M) :
    (s.send x).total f = s.total f + f (.queue, x.origin) ⟨x, 0⟩ :=
  s.total_put _ _ f

lemma State.total_lose (hp : s.items p = pre ++ x :: post) (f : Place ι → Trip ι β → M) :
    (s.lose p x (pre ++ post)).total f + f p x = s.total f :=
  State.total_take_one hp f

end Sums

lemma sum_singletons {α γ : Type} (f : α → γ) (xs : List α) :
    (xs.map (fun x => ({f x} : Multiset γ))).sum = (xs.map f : List γ) := by
  induction xs with
  | nil => rfl
  | cons x xs ih =>
    rw [List.map_cons, List.sum_cons, ih, List.map_cons, ← Multiset.cons_coe,
      Multiset.singleton_add]

lemma filter_sum {α γ : Type} [Fintype α] (r : γ → Prop) [DecidablePred r] (f : α → Multiset γ) :
    (∑ a, f a).filter r = ∑ a, (f a).filter r :=
  map_sum (⟨⟨Multiset.filter r, rfl⟩, Multiset.filter_add r⟩ : Multiset γ →+ Multiset γ) f
    Finset.univ

section Accounts

variable [Fintype ι] [DecidableEq ι] {W : Ways ι} {s t : State ι β} {es : List Event} {e : Event}

/-- Nothing is forgotten and nothing counted twice, and every move brings a parcel closer. -/
structure Accounted (W : Ways ι) (es : List Event) (s : State ι β) : Prop where
  onWay : ∀ p, ∀ x ∈ s.items p, W.OnWay p x
  lost : ∀ y ∈ s.lost, y.1.1 ≠ .inbox ∧ W.OnWay y.1 y.2
  sent : ∀ x ∈ s.sent, (W.next x.origin x.target).isSome
  parcels : s.total (fun _ x => {x.toParcel}) + (s.lost.map (fun y => y.2.toParcel) : List _) =
    (s.sent : Multiset (Parcel ι β))
  moves : es.count .moved + s.total W.remaining +
    (s.lost.map (fun y => W.remaining y.1 y.2)).sum = (s.sent.map W.length).sum
  losses : es.count .lost = s.lost.length

omit [DecidableEq ι] in
lemma Accounted.start (W : Ways ι) : Accounted W [] (.start : State ι β) := by
  refine ⟨?_, ?_, ?_, ?_, ?_, rfl⟩
  · intro p x hx
    cases hx
  · intro y hy
    cases hy
  · intro x hx
    cases hx
  · simp [State.total, State.start]
  · simp [State.total, State.start]

lemma Accounted.step (h : Accounted W es s) (hstep : Step W s e t) :
    Accounted W (es ++ [e]) t := by
  have hcount : ∀ e', (es ++ [e]).count e' = es.count e' + if e = e' then 1 else 0 := by
    intro e'
    rw [List.count_append, List.count_singleton]
    by_cases he : e = e'
    · simp [he]
    · simp [he]
  cases hstep with
  | send x hway =>
    refine ⟨?_, h.lost, ?_, ?_, ?_, ?_⟩
    · intro p y hy
      rcases State.mem_put.mp hy with hold | ⟨rfl, rfl⟩
      · exact h.onWay p y hold
      · exact ⟨Nat.zero_add _, hway⟩
    · intro y hy
      rcases List.mem_append.mp hy with hold | hnew
      · exact h.sent y hold
      · rw [List.mem_singleton.mp hnew]
        exact hway
    · have hsent : ((s.sent ++ [x] : List (Parcel ι β)) : Multiset (Parcel ι β)) =
          ↑s.sent + {x} := by
        simp [← Multiset.coe_add]
      rw [State.total_send, add_right_comm]
      exact (congrArg (· + {x}) h.parcels).trans hsent.symm
    · have hsent : ((s.send x).sent.map W.length).sum = (s.sent.map W.length).sum + W.length x := by
        simp [State.send]
      rw [hcount, State.total_send, hsent, ← h.moves]
      change _ + _ + (s.lost.map _).sum = _
      simp only [Ways.remaining, Ways.length, reduceCtorEq, if_false]
      ring
    · rw [hcount, h.losses]
      rfl
  | @move p q x y pre post hp hmove =>
    have hx := h.onWay p x (by simp [hp])
    obtain ⟨honWay, hless, hsame⟩ := hmove.onWay hx
    refine ⟨?_, h.lost, h.sent, ?_, ?_, ?_⟩
    · intro r z hz
      rcases State.mem_put.mp hz with hold | ⟨rfl, rfl⟩
      · exact h.onWay r z (State.mem_of_take hp hold)
      · exact honWay
    · have htake := State.total_take_one hp (fun _ x => ({x.toParcel} : Multiset _))
      rw [State.total_put, hsame, htake]
      exact h.parcels
    · have htake := State.total_take_one hp W.remaining
      have hmoves := h.moves
      rw [hcount, State.total_put]
      change _ + _ + (s.lost.map _).sum = (s.sent.map _).sum
      rw [← hmoves, ← htake, ← hless]
      simp
      ring
    · rw [hcount]
      exact h.losses
  | @lose p x pre post hp hplace =>
    have hx := h.onWay p x (by simp [hp])
    refine ⟨?_, ?_, h.sent, ?_, ?_, ?_⟩
    · intro r z hz
      exact h.onWay r z (State.mem_of_take hp hz)
    · intro y hy
      rcases List.mem_append.mp hy with hold | hnew
      · exact h.lost y hold
      · rw [List.mem_singleton.mp hnew]
        exact ⟨hplace, hx⟩
    · have hlose := State.total_lose hp (fun _ x => ({x.toParcel} : Multiset _))
      have hlost : ((s.lose p x (pre ++ post)).lost.map (fun y => y.2.toParcel) :
          Multiset (Parcel ι β)) =
            (s.lost.map (fun y => y.2.toParcel) : List _) + {x.toParcel} := by
        simp [State.lose, ← Multiset.coe_add]
      rw [hlost, ← add_assoc, add_right_comm, hlose]
      exact h.parcels
    · have hlose := State.total_lose hp W.remaining
      have hlost : ((s.lose p x (pre ++ post)).lost.map (fun y => W.remaining y.1 y.2)).sum =
          (s.lost.map (fun y => W.remaining y.1 y.2)).sum + W.remaining p x := by
        simp [State.lose]
      have hmoves := h.moves
      rw [hcount, hlost]
      change _ = (s.sent.map _).sum
      rw [← hmoves, ← hlose]
      simp only [reduceCtorEq, if_false]
      ring
    · rw [hcount, h.losses]
      simp [State.lose]

lemma Reaches.accounted (h : Reaches W es s) : Accounted W es s := by
  induction h with
  | start => exact Accounted.start W
  | snoc hreach hstep ih => exact ih.step hstep

omit [DecidableEq ι] in
/-- Moves and losses together are bounded by the lengths of the ways. -/
lemma Accounted.bounded (h : Accounted W es s) :
    es.count .moved + es.count .lost ≤ (s.sent.map W.length).sum := by
  have hpos : ∀ y ∈ s.lost, 1 ≤ W.remaining y.1 y.2 := by
    intro y hy
    obtain ⟨hspot, -, hway⟩ := h.lost y hy
    rw [if_neg hspot] at hway
    have hdist := W.pos hway
    unfold Ways.remaining
    cases hy' : y.1.1 with
    | queue =>
      dsimp only
      omega
    | links =>
      dsimp only
      omega
    | inbox => exact absurd hy' hspot
  have hlost : (s.lost.map (fun _ => 1)).sum ≤ (s.lost.map (fun y => W.remaining y.1 y.2)).sum :=
    List.sum_le_sum hpos
  rw [List.map_const', List.sum_replicate, nsmul_one, Nat.cast_id] at hlost
  have hmoves := h.moves
  have hlosses := h.losses
  omega

omit [DecidableEq ι] in
lemma Accounted.mem_sent (h : Accounted W es s) {p : Place ι} {x : Trip ι β}
    (hx : x ∈ s.items p) : x.toParcel ∈ s.sent := by
  have hitem : x.toParcel ∈
      ((s.items p).map (fun x => ({x.toParcel} : Multiset (Parcel ι β)))).sum := by
    rw [sum_singletons, Multiset.mem_coe]
    exact List.mem_map_of_mem hx
  have htotal : x.toParcel ∈ s.total (fun _ x => ({x.toParcel} : Multiset (Parcel ι β))) :=
    Multiset.mem_sum.mpr ⟨p, Finset.mem_univ p, hitem⟩
  rw [← Multiset.mem_coe, ← h.parcels, Multiset.mem_add]
  exact Or.inl htotal

/-- Two places hold no more than has been sent. -/
lemma Accounted.room (h : Accounted W es s) {p q : Place ι} (hpq : p ≠ q) :
    (s.items p).length + (s.items q).length ≤ s.sent.length := by
  have hsum : (s.items p).length + (s.items q).length ≤ ∑ r, (s.items r).length := by
    rw [← Finset.sum_pair hpq (f := fun r => (s.items r).length)]
    exact Finset.sum_le_sum_of_subset (Finset.subset_univ _)
  have hcard := congrArg Multiset.card h.parcels
  unfold State.total at hcard
  simp only [sum_singletons, Multiset.card_add, Multiset.card_sum, Multiset.coe_card,
    List.length_map] at hcard
  omega

/-- What has arrived somewhere has been sent there, every parcel once. -/
lemma Accounted.arrived_le (h : Accounted W es s) (v : ι) :
    (((s.items (.inbox, v)).map Trip.toParcel : List _) : Multiset (Parcel ι β)) ≤
      ((s.sent.filter (fun x => x.target = v) : List _) : Multiset (Parcel ι β)) := by
  have hinbox : (((s.items (.inbox, v)).map Trip.toParcel : List _) : Multiset (Parcel ι β)) ≤
      s.total (fun _ x => {x.toParcel}) := by
    unfold State.total
    rw [← sum_singletons Trip.toParcel]
    exact Finset.single_le_sum (f := fun p => ((s.items p).map
      (fun x => ({x.toParcel} : Multiset (Parcel ι β)))).sum) (fun _ _ => Multiset.zero_le _)
      (Finset.mem_univ _)
  have hle := hinbox.trans ((Multiset.le_add_right _ _).trans h.parcels.le)
  rw [← Multiset.filter_coe, Multiset.le_filter]
  refine ⟨hle, ?_⟩
  intro x hx
  obtain ⟨y, hy, rfl⟩ := List.mem_map.mp (Multiset.mem_coe.mp hx)
  exact (h.onWay _ y hy).2

/-- When nothing is lost and nothing is left on the way, all parcels are where they belong. -/
lemma Accounted.arrived (h : Accounted W es s) (hlost : s.lost = [])
    (hqueues : ∀ u, s.items (.queue, u) = []) (hlinks : ∀ u, s.items (.links, u) = []) (v : ι) :
    ((s.items (.inbox, v)).map Trip.toParcel).Perm
      (s.sent.filter (fun x => x.target = v)) := by
  have hparcels := h.parcels
  unfold State.total at hparcels
  simp only [hlost, List.map_nil, Multiset.coe_nil, add_zero, sum_singletons] at hparcels
  have hplace : ∀ p : Place ι, ((((s.items p).map Trip.toParcel : List _) :
      Multiset (Parcel ι β)).filter (fun x => x.target = v)) =
      if p = (.inbox, v) then (((s.items (.inbox, v)).map Trip.toParcel : List _) :
        Multiset (Parcel ι β)) else 0 := by
    rintro ⟨spot, u⟩
    have hspot : spot ≠ .inbox → s.items (spot, u) = [] := by
      intro hne
      cases spot with
      | queue => exact hqueues u
      | links => exact hlinks u
      | inbox => exact absurd rfl hne
    by_cases hne : spot = .inbox
    · subst hne
      have htarget : ∀ x ∈ (((s.items (.inbox, u)).map Trip.toParcel : List _) :
          Multiset (Parcel ι β)), x.target = u := by
        intro x hx
        obtain ⟨y, hy, rfl⟩ := List.mem_map.mp (Multiset.mem_coe.mp hx)
        exact (h.onWay _ y hy).2
      by_cases hu : u = v
      · subst hu
        rw [if_pos rfl, Multiset.filter_eq_self.mpr htarget]
      · rw [if_neg (fun he => hu (congrArg Prod.snd he)), Multiset.filter_eq_nil.mpr]
        intro x hx hv
        exact hu ((htarget x hx).symm.trans hv)
    · rw [hspot hne, if_neg (fun he => hne (congrArg Prod.fst he))]
      rfl
  have hfilter := congrArg (Multiset.filter (fun x => x.target = v)) hparcels
  rw [filter_sum] at hfilter
  simp only [hplace, Finset.sum_ite_eq', Finset.mem_univ, if_true, Multiset.filter_coe] at hfilter
  exact Multiset.coe_eq_coe.mp hfilter

end Accounts

end Parcels
