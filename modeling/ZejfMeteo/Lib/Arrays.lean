import ZejfMeteo.Lib.Heap
import Mathlib.Algebra.Group.Nat.Defs
import Mathlib.Data.List.Basic

/-!
# Arrays in memory that may run out

Blocks of cells on a heap, which are asked for, made larger and freed, and an array that is
counted: a number of elements and the block that they are in.
-/

namespace Runs

/-- A cell of a block has no value before it has been written. -/
abbrev Blocks (α : Type) := Heap (List (Option α))

/-- What a request for another size gets: nothing, the same block or one elsewhere. -/
inductive Realloc
  | fails
  | stays
  | moves
deriving DecidableEq

namespace Blocks

variable {α : Type}

/-- A block cut or filled up with cells that have no value. -/
def resized (size : ℕ) (block : List (Option α)) : List (Option α) :=
  (block ++ List.replicate (size - block.length) none).take size

def malloc (size : ℕ) (granted : Bool) : Run (Blocks α) (Option ℕ) := do
  if granted then
    return some (← Heap.alloc (List.replicate size none))
  return none

/-- The old block is freed when it moves, and when nothing is asked for. -/
def realloc (size : ℕ) : Option ℕ → Realloc → Run (Blocks α) (Option ℕ)
  | none, .fails => return none
  | none, _ => return some (← Heap.alloc (List.replicate size none))
  | some a, .fails => do
    if size = 0 then
      Heap.free a
    return none
  | some a, .stays => do
    Heap.update a (resized size)
    return some a
  | some a, .moves => do
    let block ← Heap.read a
    Heap.free a
    return some (← Heap.alloc (resized size block))

def load (a i : ℕ) : Run (Blocks α) α := do
  match (← Heap.read a)[i]? with
  | some (some v) => return v
  | some none => throw .uninitialised
  | none => throw .outOfBounds

def store (a i : ℕ) (v : α) : Run (Blocks α) Unit := do
  if i < (← Heap.read a).length then
    Heap.update a (fun block => block.set i (some v))
  else throw .outOfBounds

/-- The first `n` cells, one after the other. -/
def fill (a : ℕ) (v : α) : ℕ → Run (Blocks α) Unit
  | 0 => return
  | n + 1 => do
    fill a v n
    store a n v

section Rules

variable {h : Blocks α} {a i size : ℕ} {block : List (Option α)} {v : α} {xs : List α}

lemma load_run (ha : h.cells a = some block) (hi : block[i]? = some (some v)) :
    (load a i).run h = .ok v h := by
  rw [load, run_bind_ok (Heap.read_run ha), hi]
  rfl

lemma store_run (ha : h.cells a = some block) (hi : i < block.length) (v : α) :
    (store a i v).run h = .ok () (h.modify a (fun block => block.set i (some v))) := by
  rw [store, run_bind_ok (Heap.read_run ha), if_pos hi,
    Heap.update_run _ (Option.isSome_of_eq_some ha)]

lemma resized_succ (xs : List α) :
    resized (xs.length + 1) (xs.map some) = xs.map some ++ [none] := by
  rw [resized, List.length_map, Nat.add_sub_cancel_left]
  exact List.take_of_length_le (by simp)

lemma set_last (xs : List α) (v : α) :
    (xs.map some ++ [none]).set xs.length (some v) = (xs ++ [v]).map some := by
  rw [List.set_append_right _ _ (by simp)]
  simp

/-- The cells that are filled have the value, whatever they had before. -/
lemma fill_run (ha : h.cells a = some block) {n : ℕ} (hn : n ≤ block.length) :
    ∃ h', (fill a v n).run h = .ok () h' ∧
      h'.cells a = some (List.replicate n (some v) ++ block.drop n) ∧
      (∀ b, b ≠ a → h'.cells b = h.cells b) ∧ h'.next = h.next := by
  induction n with
  | zero => exact ⟨h, rfl, by simpa using ha, fun _ _ => rfl, rfl⟩
  | succ n ih =>
    obtain ⟨h', hrun, ha', hothers, hnext⟩ := ih (Nat.le_of_succ_le hn)
    have hi : n < (List.replicate n (some v) ++ block.drop n).length := by
      simp only [List.length_append, List.length_replicate, List.length_drop]
      omega
    refine ⟨h'.modify a (fun block => block.set n (some v)), ?_, ?_, ?_, hnext⟩
    · rw [fill, run_bind_ok hrun, store_run ha' hi]
    · rw [Heap.modify_cells, if_pos rfl, ha', Option.map_some,
        List.set_append_right _ _ (by simp), List.length_replicate, Nat.sub_self,
        List.drop_eq_getElem_cons hn, List.set_cons_zero, List.replicate_succ']
      simp
    · intro b hb
      rw [Heap.modify_cells, if_neg hb, hothers b hb]

end Rules

end Blocks

/-- A number of elements and a pointer to the block that they are in. -/
structure CountedArray (α : Type) where
  count : UInt16
  array : Option ℕ
  blocks : Blocks α

namespace CountedArray

variable {α : Type}

def blocksLens : Lens (CountedArray α) (Blocks α) where
  get := blocks
  set b c := { c with blocks := b }
  get_set _ _ := rfl
  set_get _ := rfl
  set_set _ _ _ := rfl

/-- One of the `n` elements from `i` on is as asked for. -/
def anyFrom (p : α → Bool) : ℕ → ℕ → Run (CountedArray α) Bool
  | _, 0 => return false
  | i, n + 1 => do
    match (← get).array with
    | none => throw .nullPointer
    | some a =>
      if p (← zoom blocksLens (Blocks.load a i)) then
        return true
      anyFrom p (i + 1) n

def any (p : α → Bool) : Run (CountedArray α) Bool := do
  anyFrom p 0 (← get).count.toNat

def realloc (size : ℕ) (answer : Realloc) : Run (CountedArray α) (Option ℕ) := do
  zoom blocksLens (Blocks.realloc size (← get).array answer)

/-- The elements are those of a live block, which has no others. -/
def Stores (c : CountedArray α) (xs : List α) : Prop :=
  match c.array with
  | none => xs = []
  | some a => c.blocks.cells a = some (xs.map some)

structure Holds (c : CountedArray α) (xs : List α) : Prop where
  count : c.count.toNat = xs.length
  stores : c.Stores xs

/-- The count and the pointer are as before, and so is what they say. -/
structure Intact (c c' : CountedArray α) : Prop where
  count : c'.count = c.count
  array : c'.array = c.array
  holds : ∀ xs, c.Holds xs → c'.Holds xs

section Rules

variable {c : CountedArray α} {xs ys : List α} {p : α → Bool}

lemma Intact.refl (c : CountedArray α) : c.Intact c := ⟨rfl, rfl, fun _ h => h⟩

lemma Stores.some {a : ℕ} (h : c.Stores xs) (ha : c.array = some a) :
    c.blocks.cells a = some (xs.map Option.some) := by
  rw [Stores, ha] at h
  exact h

lemma Stores.none (h : c.Stores xs) (ha : c.array = none) : xs = [] := by
  rw [Stores, ha] at h
  exact h

lemma Holds.next_ne_zero (h : c.Holds xs) (hroom : xs.length + 1 < 2 ^ 16) : c.count + 1 ≠ 0 := by
  intro hzero
  have hone : (1 : UInt16).toNat = 1 := rfl
  have hnext := congrArg UInt16.toNat hzero
  rw [UInt16.toNat_add, hone, h.count, Nat.mod_eq_of_lt hroom] at hnext
  cases hnext

lemma anyFrom_run (h : c.Stores (xs ++ ys)) :
    (anyFrom p xs.length ys.length).run c = .ok (ys.any p) c := by
  induction ys generalizing xs with
  | nil => rfl
  | cons y ys ih =>
    have hnext := @ih (xs ++ [y]) (by simpa using h)
    rw [List.length_append, List.length_singleton] at hnext
    rw [List.length_cons, anyFrom, run_bind_ok (EStateM.run_get c)]
    cases ha : c.array with
    | none => exact absurd (h.none ha) (by simp)
    | some a =>
      have hload : (zoom blocksLens (Blocks.load a xs.length)).run c = .ok y c :=
        run_zoom_ok (l := blocksLens) (Blocks.load_run (h.some ha) (by simp))
      dsimp only
      rw [run_bind_ok hload, List.any_cons]
      by_cases hy : p y = true
      · rw [if_pos hy, hy]
        rfl
      · rw [if_neg hy, hnext, Bool.eq_false_iff.mpr hy, Bool.false_or]

lemma any_run (h : c.Holds xs) : (any p).run c = .ok (xs.any p) c := by
  have h' : c.Stores ([] ++ xs) := h.stores
  rw [any, run_bind_ok (EStateM.run_get c), h.count]
  exact anyFrom_run h'

lemma realloc_frame {c' : CountedArray α} {size : ℕ} {answer : Realloc} {ptr : Option ℕ}
    (hrun : (realloc size answer).run c = .ok ptr c') :
    c'.count = c.count ∧ c'.array = c.array := by
  rw [realloc, run_bind_ok (EStateM.run_get c)] at hrun
  obtain ⟨blocks, -, rfl⟩ := run_zoom_inv hrun
  exact ⟨rfl, rfl⟩

/-- A request that fails leaves everything as it is unless nothing was asked for. -/
lemma realloc_fails (c : CountedArray α) {size : ℕ} (hsize : size ≠ 0) :
    (realloc size .fails).run c = .ok none c := by
  rw [realloc, run_bind_ok (EStateM.run_get c)]
  have hrun : (Blocks.realloc size c.array .fails).run c.blocks = .ok none c.blocks := by
    cases c.array with
    | none => rfl
    | some a =>
      rw [Blocks.realloc, if_neg hsize]
      rfl
  exact run_zoom_ok (l := blocksLens) hrun

/-- Otherwise there is room for one more element, and the old block has been freed unless it is
the new one. -/
lemma realloc_succ (h : c.Stores xs) {answer : Realloc} (hanswer : answer ≠ .fails) :
    ∃ a blocks, (realloc (xs.length + 1) answer).run c = .ok (some a) { c with blocks } ∧
      blocks.cells a = some (xs.map some ++ [none]) ∧
      ∀ old, c.array = some old → old = a ∨ blocks.cells old = none := by
  have hrun : ∃ a blocks, (Blocks.realloc (xs.length + 1) c.array answer).run c.blocks =
      .ok (some a) blocks ∧ blocks.cells a = some (xs.map some ++ [none]) ∧
      ∀ old, c.array = some old → old = a ∨ blocks.cells old = none := by
    cases ha : c.array with
    | none =>
      obtain rfl := h.none ha
      have hnew : (c.blocks.push [none]).cells c.blocks.next =
          some (([] : List α).map some ++ [none]) := by
        rw [Heap.push_cells, if_pos rfl]
        rfl
      cases answer with
      | fails => exact absurd rfl hanswer
      | stays => exact ⟨_, _, rfl, hnew, by simp⟩
      | moves => exact ⟨_, _, rfl, hnew, by simp⟩
    | some a =>
      have hcell := h.some ha
      cases answer with
      | fails => exact absurd rfl hanswer
      | stays =>
        refine ⟨a, c.blocks.modify a (Blocks.resized (xs.length + 1)), ?_, ?_, ?_⟩
        · rw [Blocks.realloc, run_bind_ok (Heap.update_run _ (Option.isSome_of_eq_some hcell))]
          rfl
        · rw [Heap.modify_cells, if_pos rfl, hcell, Option.map_some, Blocks.resized_succ]
        · intro old hold
          exact Or.inl (Option.some.inj hold).symm
      | moves =>
        refine ⟨c.blocks.next, (c.blocks.erase a).push (Blocks.resized (xs.length + 1)
          (xs.map some)), ?_, ?_, ?_⟩
        · rw [Blocks.realloc, run_bind_ok (Heap.read_run hcell),
            run_bind_ok (Heap.free_run (Option.isSome_of_eq_some hcell))]
          rfl
        · rw [Heap.push_cells, Heap.erase_next, if_pos rfl, Blocks.resized_succ]
        · intro old hold
          obtain rfl := Option.some.inj hold
          have hne := c.blocks.ne_next (Option.isSome_of_eq_some hcell)
          refine Or.inr ?_
          rw [Heap.push_cells, Heap.erase_next, if_neg hne, Heap.erase_cells, if_pos rfl]
  obtain ⟨a, blocks, hrealloc, hcell, hold⟩ := hrun
  refine ⟨a, blocks, ?_, hcell, hold⟩
  rw [realloc, run_bind_ok (EStateM.run_get c)]
  exact run_zoom_ok (l := blocksLens) hrealloc

lemma store_last {a : ℕ} {blocks : Blocks α} (hcell : blocks.cells a = some (xs.map some ++ [none]))
    (v : α) : ∃ blocks', (Blocks.store a xs.length v).run blocks = .ok () blocks' ∧
      blocks'.cells a = some ((xs ++ [v]).map some) := by
  refine ⟨_, Blocks.store_run hcell (by simp) v, ?_⟩
  rw [Heap.modify_cells, if_pos rfl, hcell, Option.map_some, Blocks.set_last]

end Rules

end CountedArray

end Runs
