import ZejfMeteo.Lib.Heap
import Mathlib.Data.List.Nodup

/-!
# Doubly linked rings

A ring is a closed chain of cells, each pointing to the next and the previous one. It is
described by the sequence of its addresses and items from some starting cell. A `Segment`
is an open piece of a chain; a ring is a segment whose two ends meet. Unlinking and linking
a cell are then statements about the two ends of a segment.
-/

namespace Runs

/-- What tells the members of a list apart tells one from all others. -/
lemma ne_of_nodup_map {α β : Type} {f : α → β} {xs ys : List α} {x y : α}
    (h : ((xs ++ x :: ys).map f).Nodup) (hy : y ∈ xs ++ ys) : f y ≠ f x := by
  rw [(List.perm_middle.map f).nodup_iff, List.map_cons, List.nodup_cons] at h
  intro he
  exact h.1 (he ▸ List.mem_map_of_mem hy)

/-- A cell of a doubly linked chain. -/
structure Cell (α : Type) where
  next : ℕ
  previous : ℕ
  item : α

namespace Ring

variable {α : Type}

/-- Where a chain holding `xs` and continuing at `n` begins. -/
def firstAddr : List (ℕ × α) → ℕ → ℕ
  | [], n => n
  | x :: _, _ => x.1

/-- Where a chain coming from `p` and holding `xs` ends. -/
def lastAddr : ℕ → List (ℕ × α) → ℕ
  | p, [] => p
  | _, x :: xs => lastAddr x.1 xs

@[simp] lemma firstAddr_nil (n : ℕ) : firstAddr ([] : List (ℕ × α)) n = n := rfl

@[simp] lemma firstAddr_cons (x : ℕ × α) (xs : List (ℕ × α)) (n : ℕ) :
    firstAddr (x :: xs) n = x.1 := rfl

@[simp] lemma lastAddr_nil (p : ℕ) : lastAddr p ([] : List (ℕ × α)) = p := rfl

@[simp] lemma lastAddr_cons (p : ℕ) (x : ℕ × α) (xs : List (ℕ × α)) :
    lastAddr p (x :: xs) = lastAddr x.1 xs := rfl

@[simp] lemma firstAddr_append (xs ys : List (ℕ × α)) (n : ℕ) :
    firstAddr (xs ++ ys) n = firstAddr xs (firstAddr ys n) := by
  cases xs <;> rfl

@[simp] lemma lastAddr_append (p : ℕ) (xs ys : List (ℕ × α)) :
    lastAddr p (xs ++ ys) = lastAddr (lastAddr p xs) ys := by
  induction xs generalizing p with
  | nil => rfl
  | cons x xs ih => exact ih x.1

lemma lastAddr_mem (p : ℕ) {xs : List (ℕ × α)} (h : xs ≠ []) :
    lastAddr p xs ∈ xs.map Prod.fst := by
  induction xs generalizing p with
  | nil => exact absurd rfl h
  | cons x xs ih =>
    cases xs with
    | nil => simp
    | cons y ys =>
      have hy := ih x.1 (by simp)
      exact List.mem_cons_of_mem _ hy

lemma firstAddr_mem (n : ℕ) {xs : List (ℕ × α)} (h : xs ≠ []) :
    firstAddr xs n ∈ xs.map Prod.fst := by
  cases xs with
  | nil => exact absurd rfl h
  | cons x xs => simp

lemma lastAddr_eq (p q : ℕ) {xs : List (ℕ × α)} (h : xs ≠ []) : lastAddr p xs = lastAddr q xs := by
  cases xs with
  | nil => exact absurd rfl h
  | cons x xs => rfl

lemma firstAddr_eq (m n : ℕ) {xs : List (ℕ × α)} (h : xs ≠ []) :
    firstAddr xs m = firstAddr xs n := by
  cases xs with
  | nil => exact absurd rfl h
  | cons x xs => rfl

/-- The cells of `xs` are linked in order, coming from `p` and continuing at `n`. -/
def Segment (h : Heap (Cell α)) : ℕ → List (ℕ × α) → ℕ → Prop
  | _, [], _ => True
  | p, x :: xs, n => h.cells x.1 = some ⟨firstAddr xs n, p, x.2⟩ ∧ Segment h x.1 xs n

lemma segment_append (h : Heap (Cell α)) (p n : ℕ) (xs ys : List (ℕ × α)) :
    Segment h p (xs ++ ys) n ↔
      Segment h p xs (firstAddr ys n) ∧ Segment h (lastAddr p xs) ys n := by
  induction xs generalizing p with
  | nil => simp [Segment]
  | cons x xs ih =>
    simp only [List.cons_append, Segment, firstAddr_append, lastAddr_cons, ih]
    tauto

/-- A segment only depends on its own cells. -/
lemma Segment.congr {h h' : Heap (Cell α)} {p n : ℕ} {xs : List (ℕ × α)} (hs : Segment h p xs n)
    (he : ∀ a ∈ xs.map Prod.fst, h'.cells a = h.cells a) : Segment h' p xs n := by
  induction xs generalizing p with
  | nil => trivial
  | cons x xs ih =>
    obtain ⟨hx, hrest⟩ := hs
    refine ⟨?_, ih hrest (fun a ha => he a (List.mem_cons_of_mem _ ha))⟩
    rw [he x.1 (by simp), hx]

lemma Segment.live {h : Heap (Cell α)} {p n : ℕ} {xs : List (ℕ × α)} (hs : Segment h p xs n)
    {a : ℕ} (ha : a ∈ xs.map Prod.fst) : (h.cells a).isSome := by
  induction xs generalizing p with
  | nil => simp at ha
  | cons x xs ih =>
    rcases List.mem_cons.mp ha with rfl | ha
    · rw [hs.1]
      rfl
    · exact ih hs.2 ha

/-- Redirecting the first cell's `previous` moves the entry end of a segment. -/
lemma Segment.enter {h : Heap (Cell α)} {p n : ℕ} {x : ℕ × α} {xs : List (ℕ × α)}
    (hs : Segment h p (x :: xs) n) (hd : ((x :: xs).map Prod.fst).Nodup) (q : ℕ) :
    Segment (h.modify x.1 (fun c => { c with previous := q })) q (x :: xs) n := by
  have hx : x.1 ∉ xs.map Prod.fst := (List.nodup_cons.mp hd).1
  refine ⟨?_, hs.2.congr (fun a ha => ?_)⟩
  · rw [Heap.modify_cells, if_pos rfl, hs.1]
    rfl
  · have hne : a ≠ x.1 := fun e => hx (e ▸ ha)
    rw [Heap.modify_cells, if_neg hne]

/-- Redirecting the last cell's `next` moves the exit end of a segment. -/
lemma Segment.leave {h : Heap (Cell α)} {p n : ℕ} {xs : List (ℕ × α)} (hs : Segment h p xs n)
    (hne : xs ≠ []) (hd : (xs.map Prod.fst).Nodup) (m : ℕ) :
    Segment (h.modify (lastAddr p xs) (fun c => { c with next := m })) p xs m := by
  induction xs generalizing p with
  | nil => exact absurd rfl hne
  | cons x xs ih =>
    have hx : x.1 ∉ xs.map Prod.fst := (List.nodup_cons.mp hd).1
    cases xs with
    | nil =>
      refine ⟨?_, trivial⟩
      simp only [lastAddr_cons, lastAddr_nil]
      rw [Heap.modify_cells, if_pos rfl, hs.1]
      rfl
    | cons y ys =>
      refine ⟨?_, ih hs.2 (by simp) (List.nodup_cons.mp hd).2⟩
      have hl : lastAddr p (x :: y :: ys) ≠ x.1 := by
        intro e
        exact hx (e ▸ lastAddr_mem x.1 (List.cons_ne_nil y ys))
      rw [Heap.modify_cells, if_neg hl.symm, hs.1]
      rfl

/-- Follows `next` over `n` cells. -/
def walk (h : Heap (Cell α)) : ℕ → ℕ → List (ℕ × α)
  | 0, _ => []
  | n + 1, a =>
    match h.cells a with
    | none => []
    | some c => (a, c.item) :: walk h n c.next

lemma Segment.walk {h : Heap (Cell α)} {p n : ℕ} {xs : List (ℕ × α)} (hs : Segment h p xs n) :
    walk h xs.length (firstAddr xs n) = xs := by
  induction xs generalizing p with
  | nil => rfl
  | cons x xs ih =>
    obtain ⟨hx, hrest⟩ := hs
    rw [List.length_cons, firstAddr_cons, Ring.walk, hx]
    dsimp only
    rw [ih hrest]

/-- `xs` lists the cells of a ring from one of its cells on. -/
structure IsRing (h : Heap (Cell α)) (xs : List (ℕ × α)) : Prop where
  nodup : (xs.map Prod.fst).Nodup
  closed : Segment h (lastAddr 0 xs) xs (firstAddr xs 0)

lemma isRing_nil (h : Heap (Cell α)) : IsRing h [] := ⟨List.nodup_nil, trivial⟩

/-- A ring may be read from any of its cells. -/
lemma IsRing.rotate {h : Heap (Cell α)} {xs ys : List (ℕ × α)} (hr : IsRing h (xs ++ ys)) :
    IsRing h (ys ++ xs) := by
  refine ⟨?_, ?_⟩
  · rw [List.map_append]
    have hd := hr.nodup
    rw [List.map_append] at hd
    exact List.nodup_append_comm.mp hd
  · have hc := hr.closed
    by_cases hx : xs = []
    · simpa [hx] using hc
    by_cases hy : ys = []
    · simpa [hy] using hc
    rw [segment_append] at hc ⊢
    simp only [lastAddr_append, firstAddr_append] at hc ⊢
    obtain ⟨hcx, hcy⟩ := hc
    rw [lastAddr_eq _ 0 hy, firstAddr_eq _ 0 hy] at hcx
    rw [lastAddr_eq _ 0 hx, firstAddr_eq _ 0 hx] at hcy
    refine ⟨?_, ?_⟩
    · rw [lastAddr_eq _ 0 hx, firstAddr_eq _ 0 hx]
      exact hcy
    · rw [lastAddr_eq _ 0 hy, firstAddr_eq _ 0 hy]
      exact hcx

/-- What the first cell of a ring holds. -/
lemma IsRing.head_cell {h : Heap (Cell α)} {a : ℕ} {v : α} {xs : List (ℕ × α)}
    (hr : IsRing h ((a, v) :: xs)) : h.cells a = some ⟨firstAddr xs a, lastAddr a xs, v⟩ :=
  hr.closed.1

/-- What a cell in the middle of a ring's listing holds. -/
lemma IsRing.cell {h : Heap (Cell α)} {a : ℕ} {v : α} {xs ys : List (ℕ × α)}
    (hr : IsRing h (xs ++ (a, v) :: ys)) :
    h.cells a = some ⟨firstAddr (ys ++ xs) a, lastAddr a (ys ++ xs), v⟩ := by
  have hrot : IsRing h ((a, v) :: (ys ++ xs)) := by
    simpa using hr.rotate
  exact hrot.head_cell

lemma IsRing.live {h : Heap (Cell α)} {xs : List (ℕ × α)} (hr : IsRing h xs) {a : ℕ}
    (ha : a ∈ xs.map Prod.fst) : (h.cells a).isSome :=
  hr.closed.live ha

/-- Both neighbours of a cell belong to its ring. -/
lemma IsRing.neighbours {h : Heap (Cell α)} {a : ℕ} {v : α} {xs : List (ℕ × α)}
    (hr : IsRing h ((a, v) :: xs)) :
    (h.cells (firstAddr xs a)).isSome ∧ (h.cells (lastAddr a xs)).isSome := by
  cases xs with
  | nil => exact ⟨hr.live (by simp), hr.live (by simp)⟩
  | cons x xs =>
    refine ⟨hr.live (by simp), hr.live ?_⟩
    exact List.mem_cons_of_mem _ (lastAddr_mem a (List.cons_ne_nil x xs))

/-- Changing an item in place changes it in the listing and nothing else. -/
lemma IsRing.setItem {h : Heap (Cell α)} {a : ℕ} {v : α} {xs ys : List (ℕ × α)}
    (hr : IsRing h (xs ++ (a, v) :: ys)) (f : α → α) :
    IsRing (h.modify a (fun c => { c with item := f c.item })) (xs ++ (a, f v) :: ys) := by
  have hrot : IsRing h ((a, v) :: (ys ++ xs)) := by
    simpa using hr.rotate
  have hnew : IsRing (h.modify a (fun c => { c with item := f c.item }))
      ((a, f v) :: (ys ++ xs)) := by
    obtain ⟨hna, -⟩ := List.nodup_cons.mp hrot.nodup
    refine ⟨hrot.nodup, ?_, hrot.closed.2.congr (fun b hb => ?_)⟩
    · rw [Heap.modify_cells, if_pos rfl, hrot.head_cell]
      rfl
    · have hne : b ≠ a := fun e => hna (e ▸ hb)
      rw [Heap.modify_cells, if_neg hne]
  have hnew' : IsRing (h.modify a (fun c => { c with item := f c.item }))
      (((a, f v) :: ys) ++ xs) := by simpa using hnew
  exact hnew'.rotate

/-- The heap after the cell at `a` has been taken out of its ring and freed. -/
def unlink (h : Heap (Cell α)) (a next previous : ℕ) : Heap (Cell α) :=
  ((h.modify previous (fun c => { c with next := next })).modify next
    (fun c => { c with previous := previous })).erase a

/-- Unlinking the first cell leaves the ring of the others. -/
lemma IsRing.unlink {h : Heap (Cell α)} {a : ℕ} {v : α} {xs : List (ℕ × α)}
    (hr : IsRing h ((a, v) :: xs)) : IsRing (unlink h a (firstAddr xs a) (lastAddr a xs)) xs := by
  obtain ⟨hna, hnd⟩ := List.nodup_cons.mp hr.nodup
  cases xs with
  | nil => exact isRing_nil _
  | cons x xs =>
    refine ⟨hnd, ?_⟩
    have hs : Segment h a (x :: xs) a := hr.closed.2
    have hleave := (hs.leave (by simp) hnd x.1).enter hnd (lastAddr a (x :: xs))
    refine hleave.congr (fun b hb => ?_)
    have hba : b ≠ a := fun e => hna (e ▸ hb)
    rw [Ring.unlink, Heap.erase_cells, if_neg hba]
    rfl

/-- The heap after a new cell for `v` has been linked in between `last` and `first`. -/
def link (h : Heap (Cell α)) (first last : ℕ) (v : α) : Heap (Cell α) :=
  ((h.push ⟨first, last, v⟩).modify last (fun c => { c with next := h.next })).modify first
    (fun c => { c with previous := h.next })

/-- Linking a new cell in between the last and the first one extends the ring at its end. -/
lemma IsRing.link {h : Heap (Cell α)} {x : ℕ × α} {xs : List (ℕ × α)} (hr : IsRing h (x :: xs))
    (v : α) : IsRing (link h x.1 (lastAddr x.1 xs) v) (x :: xs ++ [(h.next, v)]) := by
  have hnew : h.next ∉ (x :: xs).map Prod.fst := by
    intro hm
    exact h.ne_next (hr.closed.live hm) rfl
  have hd : ((x :: xs).map Prod.fst).Nodup := hr.nodup
  refine ⟨?_, ?_⟩
  · rw [List.map_append]
    refine List.nodup_append.mpr ⟨hd, List.nodup_singleton _, ?_⟩
    intro a ha b hb e
    have hb' : b = h.next := by simpa using hb
    exact hnew (by rw [← hb', ← e]; exact ha)
  · rw [segment_append]
    have hpush : Segment (h.push ⟨x.1, lastAddr x.1 xs, v⟩) (lastAddr 0 (x :: xs)) (x :: xs) x.1 := by
      refine hr.closed.congr (fun a ha => ?_)
      have hne : a ≠ h.next := fun e => hnew (e ▸ ha)
      rw [Heap.push_cells, if_neg hne]
    have hseg := (hpush.leave (by simp) hd h.next).enter hd h.next
    have hl : lastAddr (lastAddr 0 (x :: xs)) (x :: xs) = lastAddr x.1 xs := rfl
    refine ⟨?_, ?_, trivial⟩
    · simpa [Ring.link, hl] using hseg
    · have h1 : h.next ≠ lastAddr x.1 xs := by
        intro e
        exact hnew (e ▸ lastAddr_mem 0 (List.cons_ne_nil x xs))
      have h2 : h.next ≠ x.1 := fun e => hnew (by simp [e])
      simp [Ring.link, Heap.modify_cells, Heap.push_cells, h1, h2]

/-- A lone new cell that points to itself is a ring. -/
lemma isRing_singleton (h : Heap (Cell α)) (v : α) :
    IsRing (h.push ⟨h.next, h.next, v⟩) [(h.next, v)] :=
  ⟨by simp, by simp [Segment, Heap.push_cells]⟩

end Ring

end Runs
