import ZejfMeteo.LinkedList
import ZejfMeteo.Lib.Simulation
import Mathlib.Data.List.Cycle

/-!
# The linked list as a bounded sequence

What the operations of `linked_list.c` mean without pointers: a sequence of elements that are
told apart by the nodes they are in, with room for so many of them. Whatever operations come one
after the other, the list does what they do to the sequence, and its pointers form one cycle.
-/

namespace ZejfMeteo.LinkedList
open Runs

variable {α : Type}

/-- The elements with their nodes. Nodes have the numbers in which they have been allocated. -/
structure Sequence (α : Type) where
  allocated : ℕ
  elements : List (ℕ × α)

namespace Sequence

def empty : Sequence α where
  allocated := 0
  elements := []

def nodes (t : Sequence α) : List ℕ := t.elements.map Prod.fst

def item (t : Sequence α) (node : ℕ) : Option α := t.elements.lookup node

/-- Appends unless there is no room. -/
def push (capacity : ℕ) (item : α) (t : Sequence α) : Bool × Sequence α :=
  if t.elements.length < capacity then
    (true, ⟨t.allocated + 1, t.elements ++ [(t.allocated, item)]⟩)
  else (false, t)

def pop (t : Sequence α) : Option α × Sequence α :=
  (t.elements.head?.map Prod.snd, { t with elements := t.elements.tail })

def remove (node : ℕ) (t : Sequence α) : Option α × Sequence α :=
  (t.item node, { t with elements := t.elements.eraseP (fun x => x.1 == node) })

/-- Rotates until the element comes first. -/
def prioritise (node : ℕ) (t : Sequence α) : Sequence α :=
  { t with elements := t.elements.rotate (t.elements.findIdx (fun x => x.1 == node)) }

end Sequence

inductive Op (α : Type)
  | push (item : α)
  | pop
  | remove (node : ℕ)
  | prioritise (node : ℕ)

/-- What an operation returns. -/
inductive Answer (α : Type)
  | pushed (done : Bool)
  | item (item : Option α)
  | nothing
deriving DecidableEq

namespace Op

def run : Op α → Run (LinkedList α) (Answer α)
  | .push item => return .pushed (← listPush item)
  | .pop => return .item (← listPop)
  | .remove node => return .item (← listRemove (some node))
  | .prioritise node => do
    listPrioritise node
    return .nothing

def spec (capacity : ℕ) : Op α → Sequence α → Answer α × Sequence α
  | .push item, t => (.pushed (t.push capacity item).1, (t.push capacity item).2)
  | .pop, t => (.item t.pop.1, t.pop.2)
  | .remove node, t => (.item (t.remove node).1, (t.remove node).2)
  | .prioritise node, t => (.nothing, t.prioritise node)

/-- The node is in the list. -/
def Allowed : Op α → Sequence α → Prop
  | .remove node, t => node ∈ t.nodes
  | .prioritise node, t => node ∈ t.nodes
  | _, _ => True

end Op

section Simulation

variable {l : LinkedList α} {xs ys : List (ℕ × α)} {a : ℕ} {v : α} {t : Sequence α}

/-- The list holds the sequence, and its allocator has come as far. -/
structure Represents (capacity : ℕ) (l : LinkedList α) (t : Sequence α) : Prop where
  holds : l.Holds t.elements
  capacity : l.capacity = capacity
  allocated : l.nodes.next = t.allocated

lemma listCreate_represents (capacity : ℕ) :
    Represents capacity (listCreate α capacity) .empty where
  holds := listCreate_holds α capacity
  capacity := rfl
  allocated := rfl

/-- A node of the sequence is in it once. -/
lemma Holds.split (h : l.Holds xs) (ha : a ∈ xs.map Prod.fst) : ∃ pre v post,
    xs = pre ++ (a, v) :: post ∧ ∀ x ∈ pre, x.1 ≠ a := by
  obtain ⟨x, hx, rfl⟩ := List.mem_map.mp ha
  obtain ⟨pre, post, rfl⟩ := List.append_of_mem hx
  refine ⟨pre, x.2, post, rfl, ?_⟩
  intro y hy
  exact ne_of_nodup_map h.ring.nodup (List.mem_append_left _ hy)

lemma lookup_middle (h : ∀ x ∈ xs, x.1 ≠ a) : (xs ++ (a, v) :: ys).lookup a = some v := by
  rw [List.lookup_eq_some_iff]
  exact ⟨xs, ys, rfl, fun x hx => by simpa using (h x hx).symm⟩

lemma eraseP_middle (h : ∀ x ∈ xs, x.1 ≠ a) :
    (xs ++ (a, v) :: ys).eraseP (fun x => x.1 == a) = xs ++ ys := by
  rw [List.eraseP_append_right _ (fun x hx => by simpa using h x hx)]
  simp

lemma rotate_middle (h : ∀ x ∈ xs, x.1 ≠ a) :
    (xs ++ (a, v) :: ys).rotate ((xs ++ (a, v) :: ys).findIdx (fun x => x.1 == a)) =
      (a, v) :: (ys ++ xs) := by
  have hindex : (xs ++ (a, v) :: ys).findIdx (fun x => x.1 == a) = xs.length := by
    rw [List.findIdx_append, List.findIdx_eq_length_of_false (fun x hx => by simpa using h x hx)]
    simp [List.findIdx_cons]
  rw [hindex, List.rotate_append_length_eq, List.cons_append]

lemma push_represents {capacity : ℕ} (h : Represents capacity l t) (item : α) : ∃ l',
    (listPush item).run l = .ok (t.push capacity item).1 l' ∧
      Represents capacity l' (t.push capacity item).2 := by
  by_cases hroom : t.elements.length < capacity
  · have hlt : t.elements.length < l.capacity := by rwa [h.capacity]
    obtain ⟨l', hrun, hl', hcap, -, hnext⟩ := listPush_holds h.holds hlt item
    rw [Sequence.push, if_pos hroom]
    rw [h.allocated] at hl' hnext
    exact ⟨l', hrun, hl', hcap.trans h.capacity, hnext⟩
  · have hfull : t.elements.length = l.capacity := by
      have hle := h.holds.bounded
      rw [h.capacity] at hle ⊢
      exact Nat.le_antisymm hle (Nat.le_of_not_lt hroom)
    rw [Sequence.push, if_neg hroom]
    exact ⟨l, listPush_full h.holds hfull item, h⟩

lemma pop_represents {capacity : ℕ} (h : Represents capacity l t) : ∃ l',
    listPop.run l = .ok t.pop.1 l' ∧ Represents capacity l' t.pop.2 := by
  obtain ⟨allocated, elements⟩ := t
  cases elements with
  | nil => exact ⟨l, listPop_nil h.holds, h⟩
  | cons x elements =>
    obtain ⟨l', hrun, hl', hcap, hnext⟩ := listPop_holds h.holds
    exact ⟨l', hrun, hl', hcap.trans h.capacity, hnext.trans h.allocated⟩

lemma remove_represents {capacity : ℕ} (h : Represents capacity l t) (ha : a ∈ t.nodes) : ∃ l',
    (listRemove (some a)).run l = .ok (t.remove a).1 l' ∧
      Represents capacity l' (t.remove a).2 := by
  obtain ⟨allocated, elements⟩ := t
  obtain ⟨pre, v, post, rfl, hpre⟩ := h.holds.split ha
  obtain ⟨l', hrun, hl', hcap, hnext⟩ := listRemove_holds h.holds
  refine ⟨l', ?_, ?_, hcap.trans h.capacity, hnext.trans h.allocated⟩
  · rw [Sequence.remove, Sequence.item, lookup_middle hpre]
    exact hrun
  · show l'.Holds ((pre ++ (a, v) :: post).eraseP (fun x => x.1 == a))
    rw [eraseP_middle hpre]
    exact hl'

lemma prioritise_represents {capacity : ℕ} (h : Represents capacity l t) (ha : a ∈ t.nodes) :
    ∃ l', (listPrioritise a).run l = .ok () l' ∧ Represents capacity l' (t.prioritise a) := by
  obtain ⟨allocated, elements⟩ := t
  obtain ⟨pre, v, post, rfl, hpre⟩ := h.holds.split ha
  obtain ⟨l', hrun, hl', hcap, hnodes⟩ := listPrioritise_holds h.holds
  refine ⟨l', hrun, ?_, hcap.trans h.capacity, ?_⟩
  · show l'.Holds ((pre ++ (a, v) :: post).rotate _)
    rw [rotate_middle hpre]
    exact hl'
  · rw [hnodes]
    exact h.allocated

/-- The list does what the operations do to the sequence. -/
theorem simulates (capacity : ℕ) :
    SimulatesOn Op.Allowed (Op.run (α := α)) (Op.spec capacity) (Represents capacity) := by
  intro op l t h hop
  cases op with
  | push item =>
    obtain ⟨l', hrun, hl'⟩ := push_represents h item
    exact ⟨l', run_bind_ok hrun, hl'⟩
  | pop =>
    obtain ⟨l', hrun, hl'⟩ := pop_represents h
    exact ⟨l', run_bind_ok hrun, hl'⟩
  | remove node =>
    obtain ⟨l', hrun, hl'⟩ := remove_represents h hop
    exact ⟨l', run_bind_ok hrun, hl'⟩
  | prioritise node =>
    obtain ⟨l', hrun, hl'⟩ := prioritise_represents h hop
    exact ⟨l', run_bind_ok hrun, hl'⟩

end Simulation

/-- The pointers form one cycle through these nodes, `tail` is the one after `head`, and there
is no other node. -/
structure IsCycle (l : LinkedList α) (nodes : List ℕ) : Prop where
  nodup : nodes.Nodup
  live : ∀ a, (l.nodes.cells a).isSome ↔ a ∈ nodes
  links : ∀ a (h : a ∈ nodes), ∃ c, l.nodes.cells a = some c ∧ c.next = nodes.next a h ∧
    c.previous = nodes.prev a h
  count : l.itemCount = nodes.length
  bounded : l.itemCount ≤ l.capacity
  empty : (l.tail = none ↔ nodes = []) ∧ (l.head = none ↔ nodes = [])
  closed : ∀ a ∈ l.tail, ∀ b ∈ l.head, (l.nodes.cells a).map Cell.previous = some b ∧
    (l.nodes.cells b).map Cell.next = some a

section Pointers

variable {l : LinkedList α} {xs : List (ℕ × α)} {a : ℕ}

lemma next_cons (xs : List (ℕ × α)) (h : a ∈ a :: xs.map Prod.fst) :
    (a :: xs.map Prod.fst).next a h = Ring.firstAddr xs a := by
  cases xs with
  | nil => exact List.next_singleton a a h
  | cons x xs => exact List.next_cons_cons_eq _ a x.1 h

lemma prev_cons (xs : List (ℕ × α)) (h : a ∈ a :: xs.map Prod.fst) :
    (a :: xs.map Prod.fst).prev a h = Ring.lastAddr a xs := by
  cases xs with
  | nil => exact List.prev_singleton a a h
  | cons x xs =>
    have hlast := getLast?_map_fst a (List.cons_ne_nil x xs)
    rw [← List.getLast?_map, List.map_cons, List.getLast?_eq_some_getLast (List.cons_ne_nil _ _)]
      at hlast
    exact (List.prev_cons_cons_eq _ a x.1 h).trans (Option.some_inj.mp hlast)

/-- What a list holds is linked to one cycle. -/
lemma Holds.isCycle (h : l.Holds xs) : l.IsCycle (xs.map Prod.fst) := by
  have hlinks : ∀ a (ha : a ∈ xs.map Prod.fst), ∃ c, l.nodes.cells a = some c ∧
      c.next = (xs.map Prod.fst).next a ha ∧ c.previous = (xs.map Prod.fst).prev a ha := by
    intro a ha
    obtain ⟨pre, v, post, rfl, -⟩ := h.split ha
    have hrotated : (pre ++ (a, v) :: post).map Prod.fst ~r
        a :: (post ++ pre).map Prod.fst := by
      refine ⟨pre.length, ?_⟩
      rw [← List.map_rotate, List.rotate_append_length_eq]
      rfl
    refine ⟨_, h.cell, ?_, ?_⟩
    · rw [List.isRotated_next_eq hrotated h.ring.nodup ha, next_cons]
    · rw [List.isRotated_prev_eq hrotated h.ring.nodup ha, prev_cons]
  refine ⟨h.ring.nodup, ?_, hlinks, ?_, ?_, ?_, ?_⟩
  · intro a
    constructor
    · intro hlive
      obtain ⟨c, hc⟩ := Option.isSome_iff_exists.mp hlive
      exact h.live a c hc
    · exact h.ring.live
  · rw [h.count, List.length_map]
  · rw [h.count]
    exact h.bounded
  · rw [h.tail, h.head]
    simp
  · intro a ha b hb
    rw [h.tail, ← List.head?_map] at ha
    rw [h.head, ← List.getLast?_map] at hb
    have hne : xs.map Prod.fst ≠ [] := List.ne_nil_of_mem (List.mem_of_mem_head? ha)
    obtain rfl : (xs.map Prod.fst).head hne = a := by
      rw [List.head?_eq_some_head hne] at ha
      exact Option.some_inj.mp ha
    obtain rfl : (xs.map Prod.fst).getLast hne = b := by
      rw [List.getLast?_eq_some_getLast hne] at hb
      exact Option.some_inj.mp hb
    obtain ⟨c, hc, -, hprevious⟩ := hlinks _ (List.head_mem hne)
    obtain ⟨d, hd, hnext, -⟩ := hlinks _ (List.getLast_mem hne)
    rw [List.prev_head_eq_getLast _ hne] at hprevious
    rw [List.next_getLast_eq_head _ hne h.ring.nodup] at hnext
    rw [hc, hd, ← hprevious, ← hnext]
    exact ⟨rfl, rfl⟩

end Pointers

/-- **The list is a bounded ring.** Whatever operations come one after the other, on nodes that
are in the list at the time, they return what they do of the sequence; the pointers form one
cycle through its nodes, and from `tail` on they spell out its elements. -/
theorem refinesSequence (capacity : ℕ) {ops : List (Op α)}
    (hops : AllowedAll (Op.spec capacity) Op.Allowed ops .empty) :
    ∃ l, (runAll Op.run ops).run (listCreate α capacity) =
        .ok (specAll (Op.spec capacity) ops .empty).1 l ∧
      l.capacity = capacity ∧
      l.IsCycle (specAll (Op.spec capacity) ops .empty).2.nodes ∧
      l.items = (specAll (Op.spec capacity) ops .empty).2.elements := by
  obtain ⟨l, hrun, hl⟩ := (simulates capacity).runAll ops (listCreate_represents capacity) hops
  exact ⟨l, hrun, hl.capacity, hl.holds.isCycle, hl.holds.items_eq⟩

/-- Three items for two places; the second one is asked for first. -/
def crowdedOps : List (Op ℕ) :=
  [.push 7, .push 8, .push 9, .prioritise 1, .pop, .remove 0, .pop]

theorem crowdedOps_refinesSequence : ∃ l, (runAll Op.run crowdedOps).run (listCreate ℕ 2) =
      .ok [.pushed true, .pushed true, .pushed false, .nothing, .item (some 8), .item (some 7),
        .item none] l ∧
    l.capacity = 2 ∧ l.IsCycle [] ∧ l.items = [] := by
  have hops : AllowedAll (Op.spec 2) Op.Allowed crowdedOps .empty := by
    simp only [crowdedOps, AllowedAll, Op.Allowed]
    decide
  exact refinesSequence 2 hops

end ZejfMeteo.LinkedList
