import ZejfMeteo.Lib.Ring
import Mathlib.Data.List.Induction

/-!
# The linked list of the firmware

`linked_list.c` keeps every queue of the firmware and the hour cache: a bounded, doubly
linked ring with a `tail` where items leave and a `head` where they enter. `Holds` says
that the pointers of a list spell out a sequence, read from `tail` along `next`.
-/

namespace ZejfMeteo
open Runs

structure LinkedList (α : Type) where
  capacity : ℕ
  itemCount : ℕ
  head : Option ℕ
  tail : Option ℕ
  nodes : Heap (Cell α)

namespace LinkedList

variable {α : Type}

def nodesLens : Lens (LinkedList α) (Heap (Cell α)) where
  get := nodes
  set h l := { l with nodes := h }
  get_set _ _ := rfl
  set_get _ := rfl
  set_set _ _ _ := rfl

def node (a : ℕ) : Run (LinkedList α) (Cell α) := zoom nodesLens (Heap.read a)

def setNext (a n : ℕ) : Run (LinkedList α) Unit :=
  zoom nodesLens (Heap.update a (fun c => { c with next := n }))

def setPrevious (a p : ℕ) : Run (LinkedList α) Unit :=
  zoom nodesLens (Heap.update a (fun c => { c with previous := p }))

/-- Changes the object that the item pointer of the node at `a` refers to. -/
def setItem (a : ℕ) (f : α → α) : Run (LinkedList α) Unit :=
  zoom nodesLens (Heap.update a (fun c => { c with item := f c.item }))

end LinkedList

variable {α : Type}

def listCreate (α : Type) (capacity : ℕ) : LinkedList α :=
  { capacity, itemCount := 0, head := none, tail := none, nodes := Heap.empty }

def listIsFull (list : LinkedList α) : Bool := list.itemCount == list.capacity

def listIsEmpty (list : LinkedList α) : Bool := list.itemCount == 0

/-- Appends at the head. Allocation succeeds; the links of the new node are set below. -/
def listPush (item : α) : Run (LinkedList α) Bool := do
  let list ← get
  if listIsFull list then
    return false
  let newNode ← zoom LinkedList.nodesLens (Heap.alloc { next := 0, previous := 0, item })
  match list.head, list.tail with
  | some head, some tail =>
    LinkedList.setNext head newNode
    LinkedList.setPrevious newNode head
    modify fun l => { l with head := some newNode }
    LinkedList.setNext newNode tail
    LinkedList.setPrevious tail newNode
  | none, _ =>
    LinkedList.setNext newNode newNode
    LinkedList.setPrevious newNode newNode
    modify fun l => { l with head := some newNode, tail := some newNode }
  | some _, none => throw .nullPointer
  modify fun l => { l with itemCount := l.itemCount + 1 }
  return true

def listPeek (list : LinkedList α) : Option ℕ := list.tail

/-- The second half of `listRemove`: takes a node out of the ring and frees it. -/
def LinkedList.unlinkNode (node : ℕ) : Run (LinkedList α) α := do
  let c ← LinkedList.node node
  LinkedList.setNext c.previous c.next
  let c ← LinkedList.node node
  LinkedList.setPrevious c.next c.previous
  modify fun l => { l with itemCount := l.itemCount - 1 }
  let c ← LinkedList.node node
  zoom LinkedList.nodesLens (Heap.free node)
  return c.item

/-- Unlinks and frees a node and returns its item; nothing happens to a NULL node. -/
def listRemove (node : Option ℕ) : Run (LinkedList α) (Option α) := do
  match node with
  | none => return none
  | some node =>
    let list ← get
    if list.tail = some node ∧ list.head = some node then
      set { list with tail := none, head := none }
    else if list.tail = some node then
      let c ← LinkedList.node node
      set { list with tail := some c.next }
    else if list.head = some node then
      let c ← LinkedList.node node
      set { list with head := some c.previous }
    return some (← LinkedList.unlinkNode node)

def listPop : Run (LinkedList α) (Option α) := do
  listRemove (← get).tail

/-- Makes `node` the next one to be popped. -/
def listPrioritise (node : ℕ) : Run (LinkedList α) Unit := do
  let c ← LinkedList.node node
  modify fun l => { l with tail := some node, head := some c.previous }

namespace LinkedList

/-- The list holds the sequence `xs` of nodes and items, from `tail` to `head`, in a ring
of exactly these nodes. -/
structure Holds (l : LinkedList α) (xs : List (ℕ × α)) : Prop where
  ring : Ring.IsRing l.nodes xs
  live : ∀ a c, l.nodes.cells a = some c → a ∈ xs.map Prod.fst
  count : l.itemCount = xs.length
  tail : l.tail = xs.head?.map Prod.fst
  head : l.head = xs.getLast?.map Prod.fst
  bounded : xs.length ≤ l.capacity

variable {l : LinkedList α} {a : ℕ} {v : α} {xs ys : List (ℕ × α)}

lemma getLast?_map_fst (p : ℕ) {xs : List (ℕ × α)} (h : xs ≠ []) :
    xs.getLast?.map Prod.fst = some (Ring.lastAddr p xs) := by
  induction xs generalizing p with
  | nil => exact absurd rfl h
  | cons x xs ih =>
    cases xs with
    | nil => rfl
    | cons y ys => simpa using ih x.1 (by simp)

@[simp] lemma head?_map_fst_append_cons (xs ys : List (ℕ × α)) (x : ℕ × α) :
    (xs ++ x :: ys).head?.map Prod.fst = some (Ring.firstAddr xs x.1) := by
  cases xs <;> rfl

lemma Holds.cell (h : l.Holds (xs ++ (a, v) :: ys)) : l.nodes.cells a =
    some ⟨Ring.firstAddr (ys ++ xs) a, Ring.lastAddr a (ys ++ xs), v⟩ :=
  h.ring.cell

lemma Holds.node_run (h : l.Holds (xs ++ (a, v) :: ys)) : (node a).run l =
    .ok ⟨Ring.firstAddr (ys ++ xs) a, Ring.lastAddr a (ys ++ xs), v⟩ l := by
  have hc : (nodesLens.get l).cells a = _ := h.cell
  rw [node, run_zoom_ok (Heap.read_run hc), Lens.set_get]

/-- The nodes and items of a list from `tail` on. -/
def items (l : LinkedList α) : List (ℕ × α) :=
  match l.tail with
  | none => []
  | some a => Ring.walk l.nodes l.itemCount a

/-- A list holds one sequence of nodes and items only. -/
lemma Holds.items_eq (h : l.Holds xs) : l.items = xs := by
  unfold items
  rw [h.tail, h.count]
  cases xs with
  | nil => rfl
  | cons x xs => exact h.ring.closed.walk

lemma Holds.tail_cons (h : l.Holds ((a, v) :: xs)) : l.tail = some a := h.tail

lemma Holds.isFull (h : l.Holds xs) : listIsFull l = decide (xs.length = l.capacity) := by
  simp [listIsFull, h.count]
  rfl

lemma listCreate_holds (α : Type) (capacity : ℕ) : (listCreate α capacity).Holds [] where
  ring := Ring.isRing_nil _
  live a c hc := by simp [listCreate] at hc
  count := rfl
  tail := rfl
  head := rfl
  bounded := Nat.zero_le _

/-- A full list takes nothing in and stays as it is. -/
lemma listPush_full (h : l.Holds xs) (hf : xs.length = l.capacity) (item : α) :
    (listPush item).run l = .ok false l := by
  simp [listPush, h.isFull, hf]

lemma node_run {c : Cell α} (hc : l.nodes.cells a = some c) : (node a).run l = .ok c l := by
  rw [node, run_zoom_ok (l := nodesLens) (Heap.read_run hc), Lens.set_get]

lemma setNext_run (n : ℕ) (hc : (l.nodes.cells a).isSome) : (setNext a n).run l =
    .ok () { l with nodes := l.nodes.modify a (fun c => { c with next := n }) } :=
  run_zoom_ok (l := nodesLens) (Heap.update_run _ hc)

lemma setPrevious_run (p : ℕ) (hc : (l.nodes.cells a).isSome) :
    (setPrevious a p).run l =
      .ok () { l with nodes := l.nodes.modify a (fun c => { c with previous := p }) } :=
  run_zoom_ok (l := nodesLens) (Heap.update_run _ hc)

lemma free_run (hc : (l.nodes.cells a).isSome) :
    (zoom nodesLens (Heap.free a)).run l = .ok () { l with nodes := l.nodes.erase a } :=
  run_zoom_ok (l := nodesLens) (Heap.free_run hc)

lemma setItem_run (f : α → α) (hc : (l.nodes.cells a).isSome) : (setItem a f).run l =
    .ok () { l with nodes := l.nodes.modify a (fun c => { c with item := f c.item }) } :=
  run_zoom_ok (l := nodesLens) (Heap.update_run _ hc)

/-- Changing an item through its node changes nothing else of the sequence. -/
lemma setItem_holds (h : l.Holds (xs ++ (a, v) :: ys)) (f : α → α) :
    ∃ l', (setItem a f).run l = .ok () l' ∧ l'.Holds (xs ++ (a, f v) :: ys) ∧
      l'.capacity = l.capacity ∧ l'.head = l.head ∧ l'.nodes.next = l.nodes.next := by
  refine ⟨_, setItem_run f (by rw [h.cell]; rfl), ?_, rfl, rfl, rfl⟩
  have hm : (xs ++ (a, f v) :: ys).map Prod.fst = (xs ++ (a, v) :: ys).map Prod.fst := by simp
  have hlen : (xs ++ (a, f v) :: ys).length = (xs ++ (a, v) :: ys).length := by simp
  refine ⟨h.ring.setItem f, ?_, ?_, ?_, ?_, ?_⟩
  · intro b c hb
    rw [hm]
    cases hcb : l.nodes.cells b with
    | none => simp [Heap.modify_cells, hcb] at hb
    | some d => exact h.live b d hcb
  · exact h.count.trans hlen.symm
  · exact h.tail.trans (by rw [head?_map_fst_append_cons, head?_map_fst_append_cons])
  · refine h.head.trans ?_
    rw [getLast?_map_fst 0 (by simp), getLast?_map_fst 0 (by simp)]
    simp
  · exact hlen ▸ h.bounded

lemma alloc_run (c : Cell α) (l : LinkedList α) :
    (zoom nodesLens (Heap.alloc c)).run l =
      .ok l.nodes.next { l with nodes := l.nodes.push c } :=
  run_zoom_ok (l := nodesLens) (Heap.alloc_run l.nodes c)

/-- The links that `listPush` sets in a non-empty ring are those of a linked-in cell. -/
lemma push_links (h : Heap (Cell α)) (first last : ℕ) (item : α)
    (hf : first ≠ h.next) (hl : last ≠ h.next) :
    (((((h.push ⟨0, 0, item⟩).modify last (fun c => { c with next := h.next })).modify h.next
      (fun c => { c with previous := last })).modify h.next
      (fun c => { c with next := first })).modify first
      (fun c => { c with previous := h.next })) = Ring.link h first last item := by
  ext a : 1
  · by_cases ha : a = h.next
    · subst ha
      simp [Ring.link, Heap.modify_cells, Heap.push_cells, hf.symm, hl.symm]
    · simp [Ring.link, Heap.modify_cells, Heap.push_cells, ha]
  · rfl

lemma listPush_run_cons {x : ℕ × α} (h : l.Holds (x :: xs)) (hf : (x :: xs).length < l.capacity)
    (item : α) : (listPush item).run l = .ok true
      { l with
        nodes := Ring.link l.nodes x.1 (Ring.lastAddr x.1 xs) item
        head := some l.nodes.next
        itemCount := l.itemCount + 1 } := by
  have hhead : l.head = some (Ring.lastAddr x.1 xs) := by
    rw [h.head, getLast?_map_fst x.1 (by simp)]
    rfl
  have htail : l.tail = some x.1 := h.tail
  have hfull : listIsFull l = false := by
    rw [h.isFull]
    exact decide_eq_false (by omega)
  have hcx : (l.nodes.cells x.1).isSome := h.ring.closed.live (by simp)
  have hcl : (l.nodes.cells (Ring.lastAddr x.1 xs)).isSome :=
    h.ring.closed.live (Ring.lastAddr_mem 0 (List.cons_ne_nil x xs))
  rw [← push_links l.nodes x.1 (Ring.lastAddr x.1 xs) item (l.nodes.ne_next hcx)
    (l.nodes.ne_next hcl)]
  simp [listPush, hfull, alloc_run, hhead, htail, setNext_run, setPrevious_run,
    Heap.push_isSome _ _ hcx, Heap.push_isSome _ _ hcl]

lemma listPush_run_nil (h : l.Holds []) (hf : 0 < l.capacity) (item : α) :
    (listPush item).run l = .ok true
      { l with
        nodes := l.nodes.push ⟨l.nodes.next, l.nodes.next, item⟩
        head := some l.nodes.next
        tail := some l.nodes.next
        itemCount := l.itemCount + 1 } := by
  have hhead : l.head = none := h.head
  have hfull : listIsFull l = false := by
    rw [h.isFull]
    exact decide_eq_false (Nat.ne_of_lt hf)
  have hself : ((l.nodes.push ⟨0, 0, item⟩).modify l.nodes.next
      (fun c => { c with next := l.nodes.next })).modify l.nodes.next
      (fun c => { c with previous := l.nodes.next }) =
      l.nodes.push ⟨l.nodes.next, l.nodes.next, item⟩ := by
    ext a : 1
    · by_cases ha : a = l.nodes.next <;> simp [Heap.modify_cells, Heap.push_cells, ha]
    · rfl
  rw [← hself]
  simp [listPush, hfull, alloc_run, hhead, setNext_run, setPrevious_run]

lemma link_cells_isSome (h : Heap (Cell α)) (first last : ℕ) (item : α) (b : ℕ) :
    ((Ring.link h first last item).cells b).isSome = (decide (b = h.next) || (h.cells b).isSome) := by
  by_cases hb : b = h.next <;> simp [Ring.link, Heap.push_cells, hb]

/-- Pushing appends a fresh node at the end. -/
lemma listPush_holds (h : l.Holds xs) (hf : xs.length < l.capacity) (item : α) :
    ∃ l', (listPush item).run l = .ok true l' ∧ l'.Holds (xs ++ [(l.nodes.next, item)]) ∧
      l'.capacity = l.capacity ∧ l'.head = some l.nodes.next ∧
      l'.nodes.next = l.nodes.next + 1 := by
  cases xs with
  | nil =>
    refine ⟨_, listPush_run_nil h hf item, ?_, rfl, rfl, rfl⟩
    refine ⟨Ring.isRing_singleton l.nodes item, ?_, ?_, rfl, rfl, hf⟩
    · intro a c hc
      by_cases ha : a = l.nodes.next
      · simp [ha]
      · rw [Heap.push_cells, if_neg ha] at hc
        have hm := h.live a c hc
        simp at hm
    · simp [h.count]
  | cons x xs =>
    refine ⟨_, listPush_run_cons h hf item, ?_, rfl, rfl, rfl⟩
    refine ⟨h.ring.link item, ?_, ?_, h.tail, ?_, by simpa using Nat.succ_le_of_lt hf⟩
    · intro a c hc
      have hlive : ((Ring.link l.nodes x.1 (Ring.lastAddr x.1 xs) item).cells a).isSome := by
        rw [hc]
        rfl
      rw [link_cells_isSome, Bool.or_eq_true, decide_eq_true_iff] at hlive
      rcases hlive with ha | ha
      · simp [ha]
      · obtain ⟨d, hd⟩ := Option.isSome_iff_exists.mp ha
        have hm := h.live a d hd
        rw [List.map_append]
        exact List.mem_append_left _ hm
    · simp [h.count]
    · rw [getLast?_map_fst 0 (by simp)]
      simp

/-- The addresses of a ring with one cell unlinked and freed. -/
lemma unlink_live {h : Heap (Cell α)} {n p b : ℕ} {c : Cell α}
    (hb : (Ring.unlink h a n p).cells b = some c) : b ≠ a ∧ (h.cells b).isSome := by
  have hlive : ((Ring.unlink h a n p).cells b).isSome := by
    rw [hb]
    rfl
  rw [Ring.unlink, Heap.erase_cells] at hlive
  split at hlive
  · simp at hlive
  · exact ⟨by assumption, by simpa using hlive⟩

lemma unlinkNode_run {n p : ℕ} (h0 : l.nodes.cells a = some ⟨n, p, v⟩)
    (hn : (l.nodes.cells n).isSome) (hp : (l.nodes.cells p).isSome) : (unlinkNode a).run l =
      .ok v { l with itemCount := l.itemCount - 1, nodes := Ring.unlink l.nodes a n p } := by
  have h1 : (l.nodes.modify p (fun c => { c with next := n })).cells a = some ⟨n, p, v⟩ := by
    rw [Heap.modify_cells, h0]
    split <;> rfl
  have h2 : ((l.nodes.modify p (fun c => { c with next := n })).modify n
      (fun c => { c with previous := p })).cells a = some ⟨n, p, v⟩ := by
    rw [Heap.modify_cells, h1]
    split <;> rfl
  refine (run_bind_ok (node_run h0)).trans ?_
  refine (run_bind_ok (setNext_run n hp)).trans ?_
  refine (run_bind_ok (node_run h1)).trans ?_
  refine (run_bind_ok (setPrevious_run p (by simpa using hn))).trans ?_
  refine (run_bind_ok (EStateM.run_modify _ _)).trans ?_
  refine (run_bind_ok (node_run h2)).trans ?_
  exact run_bind_ok (free_run (by simp [h2]))

/-- What holds of the pointers after a node has been unlinked. -/
lemma unlink_holds (h : l.Holds (xs ++ (a, v) :: ys)) {t hd : Option ℕ}
    (ht : t = (xs ++ ys).head?.map Prod.fst) (hh : hd = (xs ++ ys).getLast?.map Prod.fst) :
    Holds
      { capacity := l.capacity
        itemCount := l.itemCount - 1
        head := hd
        tail := t
        nodes := Ring.unlink l.nodes a (Ring.firstAddr (ys ++ xs) a)
          (Ring.lastAddr a (ys ++ xs)) } (xs ++ ys) := by
  have hrot : Ring.IsRing l.nodes ((a, v) :: (ys ++ xs)) := by
    simpa using h.ring.rotate
  have hlen : (xs ++ (a, v) :: ys).length = (xs ++ ys).length + 1 := by
    simp only [List.length_append, List.length_cons]
    omega
  have hb : (xs ++ ys).length ≤ l.capacity := by
    have hl := h.bounded
    omega
  refine ⟨hrot.unlink.rotate, ?_, ?_, ht, hh, hb⟩
  · intro b c hc
    obtain ⟨hba, hlive⟩ := unlink_live hc
    obtain ⟨d, hd⟩ := Option.isSome_iff_exists.mp hlive
    have hm := h.live b d hd
    simp only [List.map_append, List.map_cons, List.mem_append, List.mem_cons] at hm ⊢
    tauto
  · rw [h.count, hlen]
    rfl

/-- Removing a node takes just this node out of the sequence. -/
lemma listRemove_holds (h : l.Holds (xs ++ (a, v) :: ys)) :
    ∃ l', (listRemove (some a)).run l = .ok (some v) l' ∧ l'.Holds (xs ++ ys) ∧
      l'.capacity = l.capacity ∧ l'.nodes.next = l.nodes.next := by
  have htail : l.tail = some (Ring.firstAddr xs a) := h.tail.trans (head?_map_fst_append_cons _ _ _)
  have hhead : l.head = some (Ring.lastAddr a ys) := by
    rw [h.head, getLast?_map_fst 0 (by simp)]
    simp
  have hd := h.ring.nodup
  simp only [List.map_append, List.map_cons] at hd
  have hax : a ∉ xs.map Prod.fst := by
    intro hm
    exact (List.nodup_append.mp hd).2.2 a hm a (by simp) rfl
  have hay : a ∉ ys.map Prod.fst := (List.nodup_cons.mp (List.nodup_append.mp hd).2.1).1
  -- The tail is the node itself exactly when nothing comes before it.
  have htl : xs ≠ [] → Ring.firstAddr xs a ≠ a := fun hne e => hax (e ▸ Ring.firstAddr_mem a hne)
  have hhd : ys ≠ [] → Ring.lastAddr a ys ≠ a := fun hne e => hay (e ▸ Ring.lastAddr_mem a hne)
  have hrot : Ring.IsRing l.nodes ((a, v) :: (ys ++ xs)) := by
    simpa using h.ring.rotate
  obtain ⟨hn, hp⟩ := hrot.neighbours
  by_cases hx : xs = [] <;> by_cases hy : ys = []
  · subst hx hy
    refine ⟨_, ?_, unlink_holds h rfl rfl, rfl, rfl⟩
    have hu := unlinkNode_run (l := { l with tail := none, head := none }) h.cell hn hp
    simp only [Ring.firstAddr_nil, Ring.lastAddr_nil] at htail hhead
    simp [listRemove, htail, hhead, hu]
  · subst hx
    have ht : some (Ring.firstAddr ys a) = ([] ++ ys).head?.map Prod.fst := by
      cases ys with
      | nil => exact absurd rfl hy
      | cons y ys => rfl
    have hh : some (Ring.lastAddr a ys) = ([] ++ ys).getLast?.map Prod.fst :=
      (getLast?_map_fst a hy).symm
    refine ⟨_, ?_, unlink_holds h ht hh, rfl, rfl⟩
    have hu := unlinkNode_run (l := { l with
      tail := some (Ring.firstAddr ys a), head := some (Ring.lastAddr a ys) }) h.cell hn hp
    have hcell := h.node_run
    simp only [Ring.firstAddr_nil] at htail
    simp only [List.append_nil] at hcell hu ⊢
    simp [listRemove, htail, hhead, hhd hy, hcell, hu]
  · subst hy
    have ht : some (Ring.firstAddr xs a) = (xs ++ []).head?.map Prod.fst := by
      cases xs with
      | nil => exact absurd rfl hx
      | cons x xs => rfl
    have hh : some (Ring.lastAddr a xs) = (xs ++ []).getLast?.map Prod.fst := by
      rw [List.append_nil]
      exact (getLast?_map_fst a hx).symm
    refine ⟨_, ?_, unlink_holds h ht hh, rfl, rfl⟩
    have hu := unlinkNode_run (l := { l with
      tail := some (Ring.firstAddr xs a), head := some (Ring.lastAddr a xs) }) h.cell hn hp
    have hcell := h.node_run
    simp only [Ring.lastAddr_nil] at hhead
    simp only [List.nil_append] at hcell hu ⊢
    simp [listRemove, htail, hhead, htl hx, hcell, hu]
  · have ht : some (Ring.firstAddr xs a) = (xs ++ ys).head?.map Prod.fst := by
      cases xs with
      | nil => exact absurd rfl hx
      | cons x xs => rfl
    have hh : some (Ring.lastAddr a ys) = (xs ++ ys).getLast?.map Prod.fst := by
      rw [getLast?_map_fst a (by simp [hx]), Ring.lastAddr_append,
        Ring.lastAddr_eq (Ring.lastAddr a xs) a hy]
    refine ⟨_, ?_, unlink_holds h ht hh, rfl, rfl⟩
    have hu := unlinkNode_run h.cell hn hp
    simp [listRemove, htail, hhead, htl hx, hhd hy, hu]

/-- Popping takes the first item. -/
lemma listPop_holds (h : l.Holds ((a, v) :: xs)) :
    ∃ l', listPop.run l = .ok (some v) l' ∧ l'.Holds xs ∧ l'.capacity = l.capacity ∧
      l'.nodes.next = l.nodes.next := by
  have h' : l.Holds ([] ++ (a, v) :: xs) := h
  obtain ⟨l', hrun, hl'⟩ := listRemove_holds h'
  refine ⟨l', ?_, hl'⟩
  rw [listPop, run_bind_ok (EStateM.run_get l), h.tail_cons, hrun]

lemma listPop_nil (h : l.Holds []) : listPop.run l = .ok none l := by
  have ht : l.tail = none := h.tail
  simp [listPop, listRemove, ht]

/-- Prioritising a node rotates the sequence so that it comes first. -/
lemma listPrioritise_holds (h : l.Holds (xs ++ (a, v) :: ys)) :
    ∃ l', (listPrioritise a).run l = .ok () l' ∧ l'.Holds ((a, v) :: (ys ++ xs)) ∧
      l'.capacity = l.capacity ∧ l'.nodes = l.nodes := by
  have hrot : Ring.IsRing l.nodes ((a, v) :: (ys ++ xs)) := by
    simpa using h.ring.rotate
  have hlen : ((a, v) :: (ys ++ xs)).length = (xs ++ (a, v) :: ys).length := by
    simp only [List.length_cons, List.length_append]
    omega
  refine ⟨{ l with tail := some a, head := some (Ring.lastAddr a (ys ++ xs)) }, ?_, ?_, rfl, rfl⟩
  · simp [listPrioritise, node_run h.cell]
  · refine ⟨hrot, ?_, h.count.trans hlen.symm, rfl, ?_, hlen ▸ h.bounded⟩
    · intro b c hc
      have hm := h.live b c hc
      simp only [List.map_append, List.map_cons, List.mem_append, List.mem_cons] at hm ⊢
      tauto
    · rw [getLast?_map_fst 0 (by simp)]
      rfl

/-- The list that pushing some items one after the other onto an empty list makes. -/
def ofItems (capacity : ℕ) (items : List α) : LinkedList α :=
  items.foldl (fun l item => leaves ((listPush item).run l)) (listCreate α capacity)

/-- Nodes are allocated in order, so the address of a node is its position. -/
lemma ofItems_holds {capacity : ℕ} {items : List α} (h : items.length ≤ capacity) :
    (ofItems capacity items).Holds (items.zipIdx.map Prod.swap) ∧
      (ofItems capacity items).capacity = capacity ∧
      (ofItems capacity items).nodes.next = items.length := by
  induction items using List.reverseRecOn with
  | nil => exact ⟨listCreate_holds α capacity, rfl, rfl⟩
  | append_singleton items item ih =>
    rw [List.length_append, List.length_singleton] at h
    obtain ⟨hholds, hcap, hnext⟩ := ih (Nat.le_of_succ_le h)
    have hroom : (items.zipIdx.map Prod.swap).length < (ofItems capacity items).capacity := by
      rw [List.length_map, List.length_zipIdx, hcap]
      exact h
    obtain ⟨l', hrun, hl', hcap', -, hnext'⟩ := listPush_holds hholds hroom item
    have hstep : ofItems capacity (items ++ [item]) = l' := by
      rw [ofItems, List.foldl_append]
      simp only [List.foldl_cons, List.foldl_nil]
      rw [show List.foldl _ _ items = ofItems capacity items from rfl, hrun, leaves_ok]
    rw [hstep]
    refine ⟨?_, hcap'.trans hcap, ?_⟩
    · rw [List.zipIdx_append, List.map_append]
      rw [hnext] at hl'
      simpa using hl'
    · rw [hnext', hnext, List.length_append, List.length_singleton]

end LinkedList

end ZejfMeteo
