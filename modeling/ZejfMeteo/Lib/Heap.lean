import ZejfMeteo.Lib.Run
import Mathlib.Data.Nat.Notation

/-!
# Heaps of objects of one type

A heap maps addresses to live objects. Addresses are handed out in increasing order and
are never reused, so an access to a freed object is always visible as a fault.
-/

namespace Runs

/-- Live objects by address; nothing lives at or above the next free address. -/
structure Heap (α : Type) where
  cells : ℕ → Option α
  next : ℕ
  fresh : ∀ a, next ≤ a → cells a = none

namespace Heap

variable {α : Type}

def empty : Heap α := ⟨fun _ => none, 0, fun _ _ => rfl⟩

/-- A heap that holds the objects of a list, from address 0 on. -/
def ofList (xs : List α) : Heap α where
  cells a := xs[a]?
  next := xs.length
  fresh _ ha := List.getElem?_eq_none ha

/-- The heap after a new object has been placed at `next`. -/
def push (h : Heap α) (v : α) : Heap α where
  cells a := if a = h.next then some v else h.cells a
  next := h.next + 1
  fresh a ha := by
    have hne : a ≠ h.next := by omega
    simp only [hne, if_false]
    exact h.fresh a (by omega)

/-- The heap after the object at `a`, if there is one, has been changed by `f`. -/
def modify (h : Heap α) (a : ℕ) (f : α → α) : Heap α where
  cells b := if b = a then (h.cells b).map f else h.cells b
  next := h.next
  fresh b hb := by
    rw [h.fresh b hb]
    simp

/-- The heap after the object at `a` has been freed. -/
def erase (h : Heap α) (a : ℕ) : Heap α where
  cells b := if b = a then none else h.cells b
  next := h.next
  fresh b hb := by
    rw [h.fresh b hb]
    simp

@[ext] lemma ext {h h' : Heap α} (hc : ∀ a, h.cells a = h'.cells a) (hn : h.next = h'.next) :
    h = h' := by
  cases h
  cases h'
  congr
  exact funext hc

@[simp] lemma empty_cells (a : ℕ) : (empty : Heap α).cells a = none := rfl

lemma push_cells (h : Heap α) (v : α) (a : ℕ) :
    (h.push v).cells a = if a = h.next then some v else h.cells a := rfl

lemma modify_cells (h : Heap α) (a : ℕ) (f : α → α) (b : ℕ) :
    (h.modify a f).cells b = if b = a then (h.cells b).map f else h.cells b := rfl

lemma erase_cells (h : Heap α) (a b : ℕ) :
    (h.erase a).cells b = if b = a then none else h.cells b := rfl

@[simp] lemma modify_isSome (h : Heap α) (a b : ℕ) (f : α → α) :
    ((h.modify a f).cells b).isSome = (h.cells b).isSome := by
  rw [modify_cells]
  split <;> simp

@[simp] lemma push_isSome_next (h : Heap α) (v : α) : ((h.push v).cells h.next).isSome := by
  simp [push_cells]

lemma push_isSome (h : Heap α) (v : α) {b : ℕ} (hb : (h.cells b).isSome) :
    ((h.push v).cells b).isSome := by
  rw [push_cells]
  split <;> simp [hb]

@[simp] lemma push_next (h : Heap α) (v : α) : (h.push v).next = h.next + 1 := rfl

@[simp] lemma modify_next (h : Heap α) (a : ℕ) (f : α → α) : (h.modify a f).next = h.next := rfl

@[simp] lemma erase_next (h : Heap α) (a : ℕ) : (h.erase a).next = h.next := rfl

lemma lt_next (h : Heap α) {a : ℕ} (ha : (h.cells a).isSome) : a < h.next := by
  by_contra hn
  rw [h.fresh a (by omega)] at ha
  simp at ha

/-- A live address is not the next one to be handed out. -/
lemma ne_next (h : Heap α) {a : ℕ} (ha : (h.cells a).isSome) : a ≠ h.next :=
  Nat.ne_of_lt (h.lt_next ha)

lemma next_free (h : Heap α) : h.cells h.next = none := by
  by_contra hne
  exact h.ne_next (Option.ne_none_iff_isSome.mp hne) rfl

def alloc (v : α) : Run (Heap α) ℕ := do
  let h ← get
  set (h.push v)
  return h.next

def read (a : ℕ) : Run (Heap α) α := do
  match (← get).cells a with
  | some v => return v
  | none => throw .useAfterFree

def update (a : ℕ) (f : α → α) : Run (Heap α) Unit := do
  match (← get).cells a with
  | some _ => modifyThe (Heap α) (·.modify a f)
  | none => throw .useAfterFree

def free (a : ℕ) : Run (Heap α) Unit := do
  match (← get).cells a with
  | some _ => modifyThe (Heap α) (·.erase a)
  | none => throw .useAfterFree

variable {h : Heap α} {a : ℕ} {v : α}

@[simp] lemma alloc_run (h : Heap α) (v : α) : (alloc v).run h = .ok h.next (h.push v) := rfl

lemma read_run (hv : h.cells a = some v) : (read a).run h = .ok v h := by
  simp [read, hv]

lemma update_run (f : α → α) (hv : (h.cells a).isSome) :
    (update a f).run h = .ok () (h.modify a f) := by
  obtain ⟨v, hv⟩ := Option.isSome_iff_exists.mp hv
  simp [update, hv, modifyThe]

lemma free_run (hv : (h.cells a).isSome) : (free a).run h = .ok () (h.erase a) := by
  obtain ⟨v, hv⟩ := Option.isSome_iff_exists.mp hv
  simp [free, hv, modifyThe]

/-- Touching an object that is not live is a fault. -/
lemma read_dead (hv : h.cells a = none) : (read a).run h = .error .useAfterFree h := by
  simp [read, hv]

lemma update_dead (f : α → α) (hv : h.cells a = none) :
    (update a f).run h = .error .useAfterFree h := by
  simp [update, hv]

lemma free_dead (hv : h.cells a = none) : (free a).run h = .error .useAfterFree h := by
  simp [free, hv]

/-- Neither looking at an object nor freeing it hands out an address. -/
lemma keeps_next_read (a : ℕ) : Keeps (fun h : Heap α => h.next) (read a) := by
  intro h
  cases hv : h.cells a with
  | none => exact congrArg (fun r => (leaves r).next) (read_dead hv)
  | some v => exact congrArg (fun r => (leaves r).next) (read_run hv)

lemma keeps_next_free (a : ℕ) : Keeps (fun h : Heap α => h.next) (free a) := by
  intro h
  cases hv : h.cells a with
  | none => exact congrArg (fun r => (leaves r).next) (free_dead hv)
  | some v => exact congrArg (fun r => (leaves r).next) (free_run (by rw [hv]; rfl))

end Heap

end Runs
