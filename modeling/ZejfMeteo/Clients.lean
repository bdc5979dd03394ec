import ZejfMeteo.InterfaceRemoval
import ZejfMeteo.Lib.Trace

/-!
# The clients of the server

`client_connect` and `client_remove` of `server.c` over the table of `interface_manager.c`.
A client is in a list of its own, and the interface that is a field of it in the table, which
has fewer places than the list. The two are freed together.

Between two events the network may do whatever leaves the interfaces where they are.
-/

namespace ZejfMeteo.Clients
open Runs

/-- `INTERFACES_MAX`. -/
def interfacesMax : ℕ := 32

/-- What `server_init` passes to `list_create`. -/
def clientsMax : ℕ := 64

/-- A client, with the address of its field `interface`. -/
structure Client where
  uid : Int32
  fd : ℤ
  interface : ℕ

/-- The global variables of `server.c` and `interface_manager.c`, and the network's. The two
counters of uids wrap around. -/
structure Server (δ : Type) where
  network : Globals δ
  clients : LinkedList ℕ
  clientObjects : Heap Client
  nextClientUid : Int32
  usbInterface1 : ℕ
  allInterfaces : List (Option ℕ)
  interfaceCount : ℕ
  nextUid : Int32

namespace Server

variable {δ : Type}

def networkLens : Lens (Server δ) (Globals δ) where
  get := network
  set n s := { s with network := n }
  get_set _ _ := rfl
  set_get _ := rfl
  set_set _ _ _ := rfl

def clientsLens : Lens (Server δ) (LinkedList ℕ) where
  get := clients
  set l s := { s with clients := l }
  get_set _ _ := rfl
  set_get _ := rfl
  set_set _ _ _ := rfl

def clientObjectsLens : Lens (Server δ) (Heap Client) where
  get := clientObjects
  set h s := { s with clientObjects := h }
  get_set _ _ := rfl
  set_get _ := rfl
  set_set _ _ _ := rfl

def interfacesLens : Lens (Server δ) (Heap Interface) where
  get s := s.network.interfaces
  set h s := { s with network := { s.network with interfaces := h } }
  get_set _ _ := rfl
  set_get _ := rfl
  set_set _ _ _ := rfl

end Server

variable {δ : Type}

/-! ### The code of `interface_manager.c` -/

def interfaceSlot (i : ℕ) : Run (Server δ) (Option ℕ) := do
  match (← get).allInterfaces[i]? with
  | some slot => return slot
  | none => throw .outOfBounds

def setInterfaceSlot (i : ℕ) (slot : Option ℕ) : Run (Server δ) Unit := do
  let s ← get
  if i < s.allInterfaces.length then
    set { s with allInterfaces := s.allInterfaces.set i slot }
  else
    throw .outOfBounds

def interfaceAdd (interface : ℕ) : Run (Server δ) Bool := do
  let s ← get
  if interfacesMax ≤ s.interfaceCount then
    return false
  let uid := s.nextUid.toInt
  zoom Server.interfacesLens (Heap.update interface (fun i => { i with uid }))
  modify fun s => { s with nextUid := s.nextUid + 1 }
  setInterfaceSlot s.interfaceCount (some interface)
  modify fun s => { s with interfaceCount := s.interfaceCount + 1 }
  return true

/-- Tells the network that an interface with this uid has been removed. -/
def interfaceRemovedIf (uid : ℤ) (slot : Option ℕ) : Run (Server δ) Bool := do
  match slot with
  | none => throw .nullPointer
  | some a =>
    let interface ← zoom Server.interfacesLens (Heap.read a)
    if interface.uid = uid then
      zoom Server.networkLens (interfaceRemoved a)
      return true
    return false

/-- The loop of `interface_remove`, over the slots that are left. -/
def interfaceRemoveLoop (uid : ℤ) : ℕ → ℕ → Bool → Run (Server δ) Bool
  | 0, _, found => return found
  | left + 1, i, found => do
    let removed ← interfaceRemovedIf uid (← interfaceSlot i)
    let found := found || removed
    if found ∧ left ≠ 0 then
      setInterfaceSlot i (← interfaceSlot (i + 1))
    interfaceRemoveLoop uid left (i + 1) found

def interfaceRemove (uid : ℤ) : Run (Server δ) Unit := do
  let interfaceCount := (← get).interfaceCount
  if ← interfaceRemoveLoop uid interfaceCount 0 false then
    modify fun s => { s with interfaceCount := interfaceCount - 1 }
    setInterfaceSlot (interfaceCount - 1) none

/-! ### The code of `server.c` -/

/-- A zeroed client with the socket as its handle; its interface has no uid yet. -/
def clientCreate (fd : ℤ) : Run (Server δ) ℕ := do
  let uid := (← get).nextClientUid
  modify fun s => { s with nextClientUid := s.nextClientUid + 1 }
  let interface ← zoom Server.interfacesLens
    (Heap.alloc { uid := 0, type := .tcp, handle := fd, rxCount := 0, txCount := 0 })
  zoom Server.clientObjectsLens (Heap.alloc { uid, fd, interface })

def readClient (client : ℕ) : Run (Server δ) Client :=
  zoom Server.clientObjectsLens (Heap.read client)

/-- Frees a client, its interface with it. -/
def clientDestroy (client : ℕ) : Run (Server δ) Unit := do
  let c ← readClient client
  zoom Server.interfacesLens (Heap.free c.interface)
  zoom Server.clientObjectsLens (Heap.free client)

/-- A client that finds the table of interfaces full stays in the list when it is freed. -/
def clientConnect (fd : ℤ) : Run (Server δ) Unit := do
  let client ← clientCreate fd
  if !(← zoom Server.clientsLens (listPush client)) then
    clientDestroy client
    return
  if !(← interfaceAdd (← readClient client).interface) then
    clientDestroy client

def clientRemove (node : Option ℕ) : Run (Server δ) Unit := do
  match node with
  | none => return
  | some node =>
    let c ← zoom Server.clientsLens (LinkedList.node node)
    let client ← readClient c.item
    let _ ← zoom Server.clientsLens (listRemove (some node))
    let interface ← zoom Server.interfacesLens (Heap.read client.interface)
    interfaceRemove interface.uid
    clientDestroy c.item

/-- The state before `interfaces_init`: the table is empty and `usb_interface_1` a static
object. -/
def boot (network : Globals δ) : Server δ where
  network := { network with
    interfaces := network.interfaces.push ⟨0, .usb, 0, 0, 0⟩ }
  clients := listCreate ℕ clientsMax
  clientObjects := Heap.empty
  nextClientUid := 0
  usbInterface1 := network.interfaces.next
  allInterfaces := List.replicate interfacesMax none
  interfaceCount := 0
  nextUid := 0

def interfacesInit : Run (Server δ) Unit := do
  modify fun s => { s with interfaceCount := 0, nextUid := 0 }
  let _ ← interfaceAdd (← get).usbInterface1

/-- The server when it opens: after `interfaces_init`, `zejf_init` and `server_init`. -/
def meteoStart (T : Target δ) (platform : δ) : Server δ :=
  leaves (interfacesInit.run (boot (zejfInit T platform)))

/-! ### The events -/

/-- A connection, a disconnection, or anything that the network does. -/
inductive Event (δ : Type)
  | connect (fd : ℤ)
  | remove (node : Option ℕ)
  | network (x : Run (Globals δ) Unit)

def step : Event δ → Run (Server δ) Unit
  | .connect fd => clientConnect fd
  | .remove node => clientRemove node
  | .network x => zoom Server.networkLens x

/-- Where the interfaces are and their uids. -/
def uids (n : Globals δ) : ℕ × (ℕ → Option ℤ) :=
  (n.interfaces.next, fun a => (n.interfaces.cells a).map Interface.uid)

def Event.Allowed : Event δ → Prop
  | .connect _ => True
  | .remove _ => True
  | .network x => Keeps uids x

/-- The interface that a slot of the table points to. -/
def Server.interfaceAt (s : Server δ) (i : ℕ) : Option Interface :=
  s.allInterfaces[i]?.join.bind s.network.interfaces.cells

/-- The interfaces in the table are the USB one and those of the clients in the list, with
different uids; the rest of the table is NULL; and no client in the list has been freed. -/
structure Server.Correspond (s : Server δ) : Prop where
  live : ∀ x ∈ s.clients.items, (s.clientObjects.cells x.2).isSome
  exact : ∀ a, a ≠ s.usbInterface1 →
    ((∃ i < s.interfaceCount, s.allInterfaces[i]? = some (some a)) ↔
      ∃ x ∈ s.clients.items, ∃ c, s.clientObjects.cells x.2 = some c ∧ c.interface = a)
  usb : ∃ i < s.interfaceCount, s.allInterfaces[i]? = some (some s.usbInterface1)
  one : s.interfaceCount = s.clients.items.length + 1
  known : ∀ i < s.interfaceCount, (s.interfaceAt i).isSome
  distinct : ∀ i j, i < j → j < s.interfaceCount →
    (s.interfaceAt i).map Interface.uid ≠ (s.interfaceAt j).map Interface.uid
  null : ∀ i, s.interfaceCount ≤ i → i < interfacesMax → s.allInterfaces[i]? = some none

/-- A place in the table is free, and no interface in it has the uid that comes next. -/
def Server.HasPlace (s : Server δ) : Prop :=
  s.interfaceCount < interfacesMax ∧
    ∀ i < s.interfaceCount, (s.interfaceAt i).map Interface.uid ≠ some s.nextUid.toInt

/-- Clients connect only while there is a place for them. -/
def Placed (s : Server δ) : Event δ → Prop
  | .connect _ => s.HasPlace
  | _ => True

section Table

variable {s : Server δ} {as pre post : List ℕ} {a : ℕ} {uid : ℤ} {n : Globals δ}

/-- The table holds these interfaces. -/
structure Server.TableOf (s : Server δ) (as : List ℕ) : Prop where
  slots : s.allInterfaces = as.map some ++ List.replicate (interfacesMax - as.length) none
  count : s.interfaceCount = as.length
  room : as.length ≤ interfacesMax

/-- The uid of the interface at an address. -/
def Server.uidOf (s : Server δ) (a : ℕ) : Option ℤ := (s.network.interfaces.cells a).map Interface.uid

lemma Server.TableOf.slot (h : s.TableOf as) {i : ℕ} (hi : i < as.length) :
    s.allInterfaces[i]? = some (some as[i]) := by
  rw [h.slots, List.getElem?_append_left (by simpa using hi)]
  simp [hi]

lemma interfaceSlot_run {slot : Option ℕ} {i : ℕ} (h : s.allInterfaces[i]? = some slot) :
    (interfaceSlot i).run s = .ok slot s := by
  rw [interfaceSlot, run_bind_ok (EStateM.run_get s), h]
  rfl

lemma setInterfaceSlot_run {i : ℕ} (h : i < s.allInterfaces.length) (slot : Option ℕ) :
    (setInterfaceSlot i slot).run s =
      .ok () { s with allInterfaces := s.allInterfaces.set i slot } := by
  rw [setInterfaceSlot, run_bind_ok (EStateM.run_get s), if_pos h]
  rfl

lemma keeps_setInterfaceSlot {γ : Type} {f : Server δ → γ}
    (hf : ∀ (s : Server δ) slots, f { s with allInterfaces := slots } = f s) (i : ℕ)
    (slot : Option ℕ) : Keeps f (setInterfaceSlot i slot) := by
  intro s
  rw [setInterfaceSlot, run_bind_ok (EStateM.run_get s), run_ite]
  split
  · exact hf s _
  · rfl

lemma readInterfaceAt_run {i : Interface} (h : s.network.interfaces.cells a = some i) :
    (zoom Server.interfacesLens (Heap.read a)).run s = .ok i s :=
  run_zoom_ok (l := Server.interfacesLens) (Heap.read_run h)

lemma interfaceRemovedIf_other (hlive : (s.uidOf a).isSome) (hne : s.uidOf a ≠ some uid) :
    (interfaceRemovedIf uid (some a)).run s = .ok false s := by
  rw [Server.uidOf, Option.isSome_map] at hlive
  obtain ⟨i, hi⟩ := Option.isSome_iff_exists.mp hlive
  have huid : i.uid ≠ uid := by
    intro he
    exact hne (by simp [Server.uidOf, hi, he])
  simp only [interfaceRemovedIf]
  rw [run_bind_ok (readInterfaceAt_run hi), if_neg huid]
  rfl

lemma interfaceRemovedIf_this (huid : s.uidOf a = some uid)
    (hrun : (interfaceRemoved a).run s.network = .ok () n) :
    (interfaceRemovedIf uid (some a)).run s = .ok true { s with network := n } := by
  obtain ⟨i, hi, rfl⟩ := Option.map_eq_some_iff.mp huid
  simp only [interfaceRemovedIf]
  rw [run_bind_ok (readInterfaceAt_run hi), if_pos rfl,
    run_bind_ok (run_zoom_ok (l := Server.networkLens) hrun)]
  rfl

/-- The slots before the interface that is removed stay as they are. -/
lemma interfaceRemoveLoop_before {xs : List ℕ} {i : ℕ} (left : ℕ)
    (hslots : ∀ j, (hj : j < xs.length) → s.allInterfaces[i + j]? = some (some xs[j]))
    (hothers : ∀ x ∈ xs, (s.uidOf x).isSome ∧ s.uidOf x ≠ some uid) :
    (interfaceRemoveLoop uid (xs.length + left) i false).run s =
      (interfaceRemoveLoop uid left (i + xs.length) false).run s := by
  induction xs generalizing i with
  | nil => simp
  | cons x xs ih =>
    have hslot : s.allInterfaces[i]? = some (some x) := hslots 0 (by simp)
    obtain ⟨hlive, hne⟩ := hothers x (by simp)
    have hlen : (x :: xs).length + left = xs.length + left + 1 := by
      rw [List.length_cons]
      omega
    rw [hlen, interfaceRemoveLoop, run_bind_ok (interfaceSlot_run hslot)]
    rw [run_bind_ok (interfaceRemovedIf_other hlive hne)]
    have hrest := ih (i := i + 1) (fun j hj => by
      have hnext := hslots (j + 1) (by simpa using hj)
      rw [Nat.add_assoc, Nat.add_comm 1 j]
      simpa using hnext) (fun y hy => hothers y (List.mem_cons_of_mem x hy))
    simp only [Bool.or_self, Bool.false_eq_true, false_and, if_false]
    rw [hrest, List.length_cons]
    congr 2
    omega

/-- The slots after it move up by one. -/
lemma interfaceRemoveLoop_after (uid : ℤ) {xs rest : List (Option ℕ)} {y : ℕ} {ys : List ℕ}
    (hslots : s.allInterfaces = xs ++ (y :: ys).map some ++ rest)
    (hothers : ∀ x ∈ y :: ys, (s.uidOf x).isSome ∧ s.uidOf x ≠ some uid) :
    (interfaceRemoveLoop uid (ys.length + 1) xs.length true).run s =
      .ok true { s with
        allInterfaces := xs ++ ys.map some ++ [some ((y :: ys).getLast (List.cons_ne_nil y ys))] ++
          rest } := by
  induction ys generalizing s xs y with
  | nil =>
    obtain ⟨hlive, hne⟩ := hothers y (by simp)
    have hslot : s.allInterfaces[xs.length]? = some (some y) := by simp [hslots]
    rw [interfaceRemoveLoop, run_bind_ok (interfaceSlot_run hslot),
      run_bind_ok (interfaceRemovedIf_other hlive hne)]
    have hsame : xs ++ List.map some [] ++ [some y] ++ rest = s.allInterfaces := by simp [hslots]
    simp only [List.length_nil, ne_eq, not_true_eq_false, and_false, if_false,
      interfaceRemoveLoop, Bool.or_false, List.getLast_singleton]
    rw [hsame]
    rfl
  | cons z ys ih =>
    obtain ⟨hlive, hne⟩ := hothers y (by simp)
    have hslot : s.allInterfaces[xs.length]? = some (some y) := by simp [hslots]
    have hnext : s.allInterfaces[xs.length + 1]? = some (some z) := by simp [hslots]
    have hlt : xs.length < s.allInterfaces.length := by simp [hslots]
    rw [interfaceRemoveLoop, run_bind_ok (interfaceSlot_run hslot),
      run_bind_ok (interfaceRemovedIf_other hlive hne)]
    simp only [Bool.true_or, List.length_cons, ne_eq, Nat.succ_ne_zero, not_false_eq_true, and_self,
      if_true]
    rw [run_bind_ok (interfaceSlot_run hnext), run_bind_ok (setInterfaceSlot_run hlt (some z))]
    have hset : s.allInterfaces.set xs.length (some z) =
        (xs ++ [some z]) ++ (z :: ys).map some ++ rest := by simp [hslots]
    have hrest := ih (s := { s with allInterfaces := s.allInterfaces.set xs.length (some z) })
      hset (fun x hx => hothers x (List.mem_cons_of_mem y hx))
    rw [List.length_append, List.length_singleton] at hrest
    rw [hrest]
    simp

lemma uidOf_eq_of_uids (h : uids n = uids s.network) (a : ℕ) :
    ({ s with network := n } : Server δ).uidOf a = s.uidOf a :=
  congrFun (Prod.mk.inj h).2 a

lemma interfaceRemoveLoop_reach (h : s.TableOf (pre ++ a :: post))
    (hothers : ∀ x ∈ pre, (s.uidOf x).isSome ∧ s.uidOf x ≠ some uid) :
    (interfaceRemoveLoop uid s.interfaceCount 0 false).run s =
        (interfaceRemoveLoop uid (post.length + 1) pre.length false).run s ∧
      s.allInterfaces[pre.length]? = some (some a) := by
  have hloop := interfaceRemoveLoop_before (i := 0) (post.length + 1) ?_ hothers
  · refine ⟨?_, ?_⟩
    · rw [h.count, List.length_append, List.length_cons, hloop, Nat.zero_add]
    · rw [h.slot (by simp), List.getElem_append_right (Nat.le_refl _)]
      simp
  · intro j hj
    rw [Nat.zero_add, h.slot (by simp; omega), List.getElem_append_left hj]

/-- An interface that is not in the table is not removed from it. -/
lemma interfaceRemove_absent (h : s.TableOf as)
    (hothers : ∀ x ∈ as, (s.uidOf x).isSome ∧ s.uidOf x ≠ some uid) :
    (interfaceRemove uid).run s = .ok () s := by
  have hloop := interfaceRemoveLoop_before (i := 0) 0
    (fun j hj => by rw [Nat.zero_add]; exact h.slot hj) hothers
  rw [Nat.add_zero, ← h.count] at hloop
  rw [interfaceRemove, run_bind_ok (EStateM.run_get s), run_bind_ok hloop]
  rfl

/-- If the network cannot take the removal, it ends there. -/
lemma interfaceRemove_error {e : Fault} (h : s.TableOf (pre ++ a :: post))
    (huid : s.uidOf a = some uid)
    (hothers : ∀ x ∈ pre, (s.uidOf x).isSome ∧ s.uidOf x ≠ some uid)
    (hrun : (interfaceRemoved a).run s.network = .error e n) :
    (interfaceRemove uid).run s = .error e { s with network := n } := by
  obtain ⟨hreach, hslot⟩ := interfaceRemoveLoop_reach h hothers
  obtain ⟨i, hi, rfl⟩ := Option.map_eq_some_iff.mp huid
  have hif : (interfaceRemovedIf i.uid (some a)).run s = .error e { s with network := n } := by
    simp only [interfaceRemovedIf]
    rw [run_bind_ok (readInterfaceAt_run hi), if_pos rfl]
    exact run_bind_error (run_zoom_error (l := Server.networkLens) hrun)
  have hloop : (interfaceRemoveLoop i.uid (post.length + 1) pre.length false).run s =
      .error e { s with network := n } := by
    rw [interfaceRemoveLoop, run_bind_ok (interfaceSlot_run hslot)]
    exact run_bind_error hif
  rw [interfaceRemove, run_bind_ok (EStateM.run_get s)]
  exact run_bind_error (hreach.trans hloop)

lemma interfaceRemoved_uids (hrun : (interfaceRemoved a).run s.network = .ok () n) :
    uids n = uids s.network := by
  have hkeep := interfaceRemoved_keeps (f := uids) (fun _ _ _ => rfl) (fun _ _ _ _ => rfl) a
    s.network
  rwa [hrun] at hkeep

/-- Removing an interface takes just this one out of the table. -/
lemma interfaceRemove_run (h : s.TableOf (pre ++ a :: post)) (huid : s.uidOf a = some uid)
    (hothers : ∀ x ∈ pre ++ post, (s.uidOf x).isSome ∧ s.uidOf x ≠ some uid)
    (hrun : (interfaceRemoved a).run s.network = .ok () n) :
    ∃ slots count, (interfaceRemove uid).run s =
        .ok () { s with network := n, allInterfaces := slots, interfaceCount := count } ∧
      ({ s with network := n, allInterfaces := slots, interfaceCount := count } :
        Server δ).TableOf (pre ++ post) := by
  have hn := interfaceRemoved_uids hrun
  have hcount : s.interfaceCount - 1 = pre.length + post.length := by
    rw [h.count]
    simp
  have hroom : pre.length + post.length + 1 ≤ interfacesMax := by
    have hle := h.room
    simp only [List.length_append, List.length_cons] at hle
    omega
  -- The NULL slots after the table.
  obtain ⟨rest, hrest⟩ : ∃ rest, rest = List.replicate
    (interfacesMax - (pre ++ a :: post).length) (none : Option ℕ) := ⟨_, rfl⟩
  have hslots : s.allInterfaces = pre.map some ++ some a :: post.map some ++ rest := by
    rw [h.slots, hrest]
    simp
  obtain ⟨hreach, hslot⟩ := interfaceRemoveLoop_reach h
    (fun x hx => hothers x (List.mem_append_left _ hx))
  -- One slot is left over at the end of the table.
  have hloop : ∃ last, (interfaceRemoveLoop uid (post.length + 1) pre.length false).run s =
      .ok true { s with
        network := n
        allInterfaces := pre.map some ++ post.map some ++ last :: rest } := by
    rw [interfaceRemoveLoop, run_bind_ok (interfaceSlot_run hslot),
      run_bind_ok (interfaceRemovedIf_this huid hrun)]
    cases post with
    | nil =>
      refine ⟨some a, ?_⟩
      simp only [List.length_nil, ne_eq, not_true_eq_false, and_false, if_false,
        interfaceRemoveLoop, Bool.or_true]
      have hsame : pre.map some ++ [].map some ++ some a :: rest = s.allInterfaces := by
        simp [hslots]
      rw [hsame]
      rfl
    | cons y ys =>
      refine ⟨some ((y :: ys).getLast (List.cons_ne_nil y ys)), ?_⟩
      have hnext : s.allInterfaces[pre.length + 1]? = some (some y) := by simp [hslots]
      have hlt : pre.length < s.allInterfaces.length := by simp [hslots]
      simp only [Bool.or_true, List.length_cons, ne_eq, Nat.succ_ne_zero, not_false_eq_true,
        and_self, if_true]
      rw [run_bind_ok (interfaceSlot_run (s := { s with network := n }) hnext),
        run_bind_ok (setInterfaceSlot_run (s := { s with network := n }) hlt (some y))]
      have hset : s.allInterfaces.set pre.length (some y) =
          (pre.map some ++ [some y]) ++ (y :: ys).map some ++ rest := by simp [hslots]
      have hafter := interfaceRemoveLoop_after uid
        (s := { s with network := n, allInterfaces := s.allInterfaces.set pre.length (some y) })
        hset ?_
      · rw [List.length_append, List.length_singleton, List.length_map] at hafter
        rw [hafter]
        simp
      · intro x hx
        have hx' := hothers x (List.mem_append_right _ hx)
        rwa [← uidOf_eq_of_uids hn x] at hx'
  obtain ⟨last, hloop⟩ := hloop
  have hlast : pre.length + post.length <
      (pre.map some ++ post.map some ++ last :: rest).length := by
    simp only [List.length_append, List.length_map, List.length_cons]
    omega
  refine ⟨(pre.map some ++ post.map some ++ last :: rest).set (pre.length + post.length) none,
    pre.length + post.length, ?_, ⟨?_, ?_, ?_⟩⟩
  · rw [interfaceRemove, run_bind_ok (EStateM.run_get s), run_bind_ok (hreach.trans hloop)]
    simp only [if_true]
    rw [run_bind_ok (EStateM.run_modify _ _), hcount]
    exact setInterfaceSlot_run (s := { s with
      network := n
      allInterfaces := pre.map some ++ post.map some ++ last :: rest
      interfaceCount := pre.length + post.length }) hlast none
  · have hset : (pre.map some ++ post.map some ++ last :: rest).set (pre.length + post.length) none =
        pre.map some ++ post.map some ++ none :: rest := by
      rw [List.set_append_right _ _ (by simp)]
      simp
    show (pre.map some ++ post.map some ++ last :: rest).set (pre.length + post.length) none = _
    rw [hset, List.map_append, hrest, ← List.replicate_succ]
    congr 2
    simp only [List.length_append, List.length_cons]
    omega
  · simp
  · simp only [List.length_append]
    omega

/-- The server after an interface was added. -/
def Server.added (s : Server δ) (a : ℕ) : Server δ :=
  { s with
    network := { s.network with
      interfaces := s.network.interfaces.modify a (fun i => { i with uid := s.nextUid.toInt }) }
    nextUid := s.nextUid + 1
    allInterfaces := s.allInterfaces.set s.interfaceCount (some a)
    interfaceCount := s.interfaceCount + 1 }

/-- Adding an interface appends it to the table and gives it the next uid. -/
lemma interfaceAdd_run (h : s.TableOf as) (ha : (s.network.interfaces.cells a).isSome)
    (hroom : as.length < interfacesMax) :
    (interfaceAdd a).run s = .ok true (s.added a) ∧ (s.added a).TableOf (as ++ [a]) := by
  have hfree : ¬interfacesMax ≤ s.interfaceCount := by
    rw [h.count]
    omega
  have hlt : s.interfaceCount < s.allInterfaces.length := by
    rw [h.count, h.slots]
    simp
    omega
  refine ⟨?_, ?_, ?_, ?_⟩
  · rw [interfaceAdd, run_bind_ok (EStateM.run_get s), if_neg hfree,
      run_bind_ok (run_zoom_ok (l := Server.interfacesLens) (Heap.update_run _ ha)),
      run_bind_ok (EStateM.run_modify _ _)]
    refine (run_bind_ok (setInterfaceSlot_run ?_ (some a))).trans ?_
    · exact hlt
    · rfl
  · obtain ⟨k, hk⟩ : ∃ k, interfacesMax - as.length = k + 1 :=
      ⟨interfacesMax - as.length - 1, by omega⟩
    have hk' : interfacesMax - (as ++ [a]).length = k := by
      simp only [List.length_append, List.length_singleton]
      omega
    show s.allInterfaces.set s.interfaceCount (some a) = _
    rw [h.slots, h.count, hk, hk', List.replicate_succ, List.set_append_right _ _ (by simp)]
    simp
  · show s.interfaceCount + 1 = _
    rw [h.count]
    simp
  · simp only [List.length_append, List.length_singleton]
    omega

lemma interfaceAdd_full (h : s.TableOf as) (hfull : as.length = interfacesMax) :
    (interfaceAdd a).run s = .ok false s := by
  have hle : interfacesMax ≤ s.interfaceCount := by
    rw [h.count, hfull]
  rw [interfaceAdd, run_bind_ok (EStateM.run_get s), if_pos hle]
  rfl

end Table

/-! ### Clients and interfaces -/

/-- A client in the list, with its address and that of its node. -/
structure Joined where
  node : ℕ
  addr : ℕ
  client : Client

def Joined.ref (c : Joined) : ℕ × ℕ := (c.node, c.addr)

/-- The interfaces of these clients after the USB one. -/
def Server.registered (s : Server δ) (cs : List Joined) : List ℕ :=
  s.usbInterface1 :: cs.map (·.client.interface)

/-- The server has these clients, in the list and, after the USB interface, in the table. -/
structure Server.Serves (s : Server δ) (cs : List Joined) : Prop where
  holds : s.clients.Holds (cs.map Joined.ref)
  capacity : s.clients.capacity = clientsMax
  live : ∀ c ∈ cs, s.clientObjects.cells c.addr = some c.client
  addrs : (cs.map Joined.addr).Nodup
  table : s.TableOf (s.registered cs)
  known : ∀ a ∈ s.registered cs, (s.uidOf a).isSome

def Server.Distinct (s : Server δ) (cs : List Joined) : Prop :=
  ((s.registered cs).map s.uidOf).Nodup

section Serves

variable {s t : Server δ} {cs pre post : List Joined} {c : Joined}

lemma Server.Serves.length_le (h : s.Serves cs) : cs.length < interfacesMax := by
  have hle := h.table.room
  simp only [Server.registered, List.length_cons, List.length_map] at hle
  omega

lemma Server.Serves.interfaceAt (h : s.Serves cs) {i : ℕ} (hi : i < (s.registered cs).length) :
    (s.interfaceAt i).map Interface.uid = s.uidOf ((s.registered cs)[i]) := by
  rw [Server.interfaceAt, h.table.slot hi]
  rfl

/-- All that is left to hold of the clients and the interfaces is that the uids differ. -/
lemma Server.Serves.correspond_iff (h : s.Serves cs) : s.Correspond ↔ s.Distinct cs := by
  have hitems : s.clients.items = cs.map Joined.ref := h.holds.items_eq
  have hmem : ∀ a, (∃ i < s.interfaceCount, s.allInterfaces[i]? = some (some a)) ↔
      a ∈ s.registered cs := by
    intro a
    rw [h.table.count, List.mem_iff_getElem]
    constructor
    · rintro ⟨i, hi, he⟩
      rw [h.table.slot hi] at he
      exact ⟨i, hi, by simpa using he⟩
    · rintro ⟨i, hi, he⟩
      exact ⟨i, hi, by rw [h.table.slot hi, he]⟩
  constructor
  · intro hc
    rw [Server.Distinct, List.Nodup, List.pairwise_iff_getElem]
    intro i j hi hj hij
    have hj' : j < (s.registered cs).length := by simpa using hj
    have hne := hc.distinct i j hij (by rw [h.table.count]; exact hj')
    rw [h.interfaceAt (hij.trans hj'), h.interfaceAt hj'] at hne
    simpa using hne
  · intro hd
    refine ⟨?_, ?_, (hmem _).mpr List.mem_cons_self, ?_, ?_, ?_, ?_⟩
    · intro x hx
      rw [hitems] at hx
      obtain ⟨c, hcs, rfl⟩ := List.mem_map.mp hx
      simp [Joined.ref, h.live c hcs]
    · intro a ha
      rw [hmem, hitems]
      constructor
      · intro hin
        rcases List.mem_cons.mp hin with rfl | hin
        · exact absurd rfl ha
        · obtain ⟨c, hcs, rfl⟩ := List.mem_map.mp hin
          exact ⟨c.ref, List.mem_map_of_mem hcs, c.client, h.live c hcs, rfl⟩
      · rintro ⟨x, hx, client, hlive, rfl⟩
        obtain ⟨c, hcs, rfl⟩ := List.mem_map.mp hx
        obtain rfl : c.client = client := Option.some_inj.mp ((h.live c hcs).symm.trans hlive)
        exact List.mem_cons_of_mem _ (List.mem_map.mpr ⟨c, hcs, rfl⟩)
    · rw [h.table.count, hitems]
      simp [Server.registered]
    · intro i hi
      rw [h.table.count] at hi
      rw [← Option.isSome_map (f := Interface.uid), h.interfaceAt hi]
      exact h.known _ (List.getElem_mem hi)
    · intro i j hij hj
      have hj' := hj
      rw [h.table.count] at hj'
      rw [h.interfaceAt (hij.trans hj'), h.interfaceAt hj']
      rw [Server.Distinct, List.Nodup, List.pairwise_iff_getElem] at hd
      have hne := hd i j (by simpa using hij.trans hj') (by simpa using hj') hij
      rw [List.getElem_map, List.getElem_map] at hne
      exact hne
    · intro i hi hmax
      have hle : (s.registered cs).length ≤ i := by
        rw [← h.table.count]
        exact hi
      rw [h.table.slots, List.getElem?_append_right (by simpa using hle)]
      rw [List.getElem?_replicate, if_pos (by simp; omega)]

lemma Server.Serves.hasPlace_iff (h : s.Serves cs) : s.HasPlace ↔
    (s.registered cs).length < interfacesMax ∧
      some s.nextUid.toInt ∉ (s.registered cs).map s.uidOf := by
  rw [Server.HasPlace, h.table.count]
  refine and_congr_right (fun _ => ?_)
  rw [List.mem_map]
  constructor
  · rintro hall ⟨a, ha, he⟩
    obtain ⟨i, hi, rfl⟩ := List.mem_iff_getElem.mp ha
    exact hall i hi ((h.interfaceAt hi).trans he)
  · intro hno i hi he
    rw [h.interfaceAt hi] at he
    exact hno ⟨_, List.getElem_mem hi, he⟩

/-- What clients and their table say of a server depends on these parts of it alone. -/
lemma Server.Serves.congr (h : s.Serves cs) (hclients : t.clients = s.clients)
    (hobjects : ∀ c ∈ cs, t.clientObjects.cells c.addr = s.clientObjects.cells c.addr)
    (htable : t.TableOf (t.registered cs)) (husb : t.usbInterface1 = s.usbInterface1)
    (hknown : ∀ a ∈ s.registered cs, t.uidOf a = s.uidOf a) :
    t.Serves cs ∧ (t.Distinct cs ↔ s.Distinct cs) := by
  have hregistered : t.registered cs = s.registered cs := by
    rw [Server.registered, husb]
    rfl
  refine ⟨⟨hclients ▸ h.holds, hclients ▸ h.capacity, ?_, h.addrs, htable, ?_⟩, ?_⟩
  · intro c hc
    rw [hobjects c hc]
    exact h.live c hc
  · intro a ha
    rw [hregistered] at ha
    rw [hknown a ha]
    exact h.known a ha
  · rw [Server.Distinct, Server.Distinct, hregistered, List.map_congr_left hknown]

/-- The server after `client_create`. -/
def Server.created (s : Server δ) (fd : ℤ) : Server δ :=
  { s with
    network := { s.network with interfaces := s.network.interfaces.push ⟨0, .tcp, fd, 0, 0⟩ }
    clientObjects := s.clientObjects.push
      { uid := s.nextClientUid, fd, interface := s.network.interfaces.next }
    nextClientUid := s.nextClientUid + 1 }

lemma clientCreate_run (fd : ℤ) (s : Server δ) :
    (clientCreate fd).run s = .ok s.clientObjects.next (s.created fd) := rfl

lemma Server.uidOf_ne_next {a : ℕ} (ha : (s.uidOf a).isSome) : a ≠ s.network.interfaces.next := by
  rw [Server.uidOf, Option.isSome_map] at ha
  exact s.network.interfaces.ne_next ha

lemma Server.Serves.created (h : s.Serves cs) (fd : ℤ) :
    (s.created fd).Serves cs ∧ ((s.created fd).Distinct cs ↔ s.Distinct cs) := by
  refine h.congr rfl ?_ ⟨h.table.slots, h.table.count, h.table.room⟩ rfl ?_
  · intro c hc
    have hlive := h.live c hc
    have hne := s.clientObjects.ne_next (a := c.addr) (by rw [hlive]; rfl)
    exact (Heap.push_cells _ _ _).trans (if_neg hne)
  · intro a ha
    have hne := Server.uidOf_ne_next (h.known a ha)
    show ((s.network.interfaces.push _).cells a).map _ = _
    rw [Heap.push_cells, if_neg hne]
    rfl

lemma clientConnect_pushed (h : s.Serves cs) (fd : ℤ) : ∃ l,
    (clientConnect fd).run s = (do
      if !(← interfaceAdd s.network.interfaces.next) then
        clientDestroy s.clientObjects.next : Run (Server δ) Unit).run
        { s.created fd with clients := l } ∧
      l.Holds (cs.map Joined.ref ++ [(s.clients.nodes.next, s.clientObjects.next)]) ∧
      l.capacity = clientsMax := by
  have hroom : (cs.map Joined.ref).length < s.clients.capacity := by
    have hlt := h.length_le
    rw [h.capacity, List.length_map]
    exact hlt.trans (by decide)
  obtain ⟨l, hpush, hl, hcap, -, -⟩ :=
    LinkedList.listPush_holds h.holds hroom s.clientObjects.next
  have hzoom : (zoom Server.clientsLens (listPush s.clientObjects.next)).run (s.created fd) =
      .ok true { s.created fd with clients := l } :=
    run_zoom_ok (l := Server.clientsLens) hpush
  have hread : (readClient s.clientObjects.next).run { s.created fd with clients := l } =
      .ok { uid := s.nextClientUid, fd, interface := s.network.interfaces.next }
        { s.created fd with clients := l } := by
    refine run_zoom_ok (l := Server.clientObjectsLens) (Heap.read_run ?_)
    exact (Heap.push_cells _ _ _).trans (if_pos rfl)
  refine ⟨l, ?_, hl, hcap.trans h.capacity⟩
  rw [clientConnect, run_bind_ok (clientCreate_run fd s), run_bind_ok hzoom]
  simp only [Bool.not_true, Bool.false_eq_true, if_false]
  rw [run_bind_ok hread]

/-- The server after a client was freed. -/
def Server.freed (s : Server δ) (client interface : ℕ) : Server δ :=
  { s with
    network := { s.network with interfaces := s.network.interfaces.erase interface }
    clientObjects := s.clientObjects.erase client }

lemma readClient_run {a : ℕ} {client : Client} (hc : s.clientObjects.cells a = some client) :
    (readClient a).run s = .ok client s :=
  run_zoom_ok (l := Server.clientObjectsLens) (Heap.read_run hc)

lemma clientDestroy_run {a : ℕ} {client : Client} (hc : s.clientObjects.cells a = some client)
    (hi : (s.network.interfaces.cells client.interface).isSome) :
    (clientDestroy a).run s = .ok () (s.freed a client.interface) := by
  have hlive : (s.clientObjects.cells a).isSome := by
    rw [hc]
    rfl
  rw [clientDestroy, run_bind_ok (readClient_run hc),
    run_bind_ok (run_zoom_ok (l := Server.interfacesLens) (Heap.free_run hi))]
  exact run_zoom_ok (l := Server.clientObjectsLens) (Heap.free_run hlive)

/-- The server after it took in a new client, with `l` for the list. -/
def Server.joined (s : Server δ) (fd : ℤ) (l : LinkedList ℕ) : Server δ :=
  ({ s.created fd with clients := l } : Server δ).added s.network.interfaces.next

/-- While there is room in the table a new client, at a new address, is added at the end. -/
lemma clientConnect_joins (h : s.Serves cs) (hroom : (s.registered cs).length < interfacesMax)
    (fd : ℤ) : ∃ t c, (clientConnect fd).run s = .ok () t ∧
      (c.addr = s.clientObjects.next ∧ c.client.fd = fd ∧
        t.clientObjects.next = s.clientObjects.next + 1) ∧ t.Serves (cs ++ [c]) ∧
      (t.Distinct (cs ++ [c]) ↔
        s.Distinct cs ∧ some s.nextUid.toInt ∉ (s.registered cs).map s.uidOf) := by
  obtain ⟨l, hrun, hl, hcap⟩ := clientConnect_pushed h fd
  obtain ⟨hcreated, hdistinct⟩ := h.created fd
  have hnew : ((s.created fd).network.interfaces.cells s.network.interfaces.next).isSome :=
    Heap.push_isSome_next _ _
  obtain ⟨hadd, htable⟩ := interfaceAdd_run (s := { s.created fd with clients := l })
    ⟨h.table.slots, h.table.count, h.table.room⟩ hnew hroom
  -- Only the new interface gets a uid.
  have hold : ∀ a ∈ s.registered cs, (s.joined fd l).uidOf a = s.uidOf a := by
    intro a ha
    have hne := Server.uidOf_ne_next (h.known a ha)
    show (((s.network.interfaces.push _).modify _ _).cells a).map _ = _
    rw [Heap.modify_cells, if_neg hne, Heap.push_cells, if_neg hne]
    rfl
  have hnext : (s.joined fd l).uidOf s.network.interfaces.next = some s.nextUid.toInt := by
    show (((s.network.interfaces.push _).modify _ _).cells _).map _ = _
    rw [Heap.modify_cells, if_pos rfl, Heap.push_cells, if_pos rfl]
    rfl
  obtain ⟨c, hc⟩ : ∃ c : Joined, c = ⟨s.clients.nodes.next, s.clientObjects.next,
    { uid := s.nextClientUid, fd, interface := s.network.interfaces.next }⟩ := ⟨_, rfl⟩
  have hlist : (s.joined fd l).registered (cs ++ [c]) =
      s.registered cs ++ [s.network.interfaces.next] := by
    simp [Server.registered, Server.joined, Server.added, Server.created, hc]
  refine ⟨s.joined fd l, c, ?_, hc ▸ ⟨rfl, rfl, rfl⟩, ⟨?_, hcap, ?_, ?_, ?_, ?_⟩, ?_⟩
  · rw [hrun, run_bind_ok hadd]
    rfl
  · rw [List.map_append, hc]
    exact hl
  · intro d hd
    rcases List.mem_append.mp hd with hd | hd
    · exact hcreated.live d hd
    · rw [List.mem_singleton.mp hd, hc]
      exact (Heap.push_cells _ _ _).trans (if_pos rfl)
  · rw [List.map_append]
    refine List.nodup_append.mpr ⟨h.addrs, List.nodup_singleton _, ?_⟩
    intro a ha b hb hab
    obtain ⟨d, hd, rfl⟩ := List.mem_map.mp ha
    have hb' : b = s.clientObjects.next := by simpa [hc] using hb
    exact s.clientObjects.ne_next (a := d.addr) (by rw [h.live d hd]; rfl) (hab.trans hb')
  · rw [hlist]
    exact htable
  · intro a ha
    rw [hlist] at ha
    rcases List.mem_append.mp ha with ha | ha
    · rw [hold a ha]
      exact h.known a ha
    · rw [List.mem_singleton.mp ha, hnext]
      rfl
  · rw [Server.Distinct, Server.Distinct, hlist, List.map_append, List.map_congr_left hold,
      List.map_singleton, hnext, ← List.concat_eq_append, List.nodup_concat, and_comm]

/-- While there is room in the table a new client is added at the end. -/
lemma clientConnect_room (h : s.Serves cs) (hroom : (s.registered cs).length < interfacesMax)
    (fd : ℤ) : ∃ t c, (clientConnect fd).run s = .ok () t ∧ t.Serves (cs ++ [c]) ∧
      (t.Distinct (cs ++ [c]) ↔
        s.Distinct cs ∧ some s.nextUid.toInt ∉ (s.registered cs).map s.uidOf) := by
  obtain ⟨t, c, hrun, -, hrest⟩ := clientConnect_joins h hroom fd
  exact ⟨t, c, hrun, hrest⟩

/-- When the table is full the new client is freed, and the list still has it. -/
lemma clientConnect_full (h : s.Serves cs) (hfull : (s.registered cs).length = interfacesMax)
    (fd : ℤ) : ∃ t, (clientConnect fd).run s = .ok () t ∧ ¬t.Correspond := by
  obtain ⟨l, hrun, hl, -⟩ := clientConnect_pushed h fd
  have hadd := interfaceAdd_full (s := { s.created fd with clients := l })
    (a := s.network.interfaces.next)
    ⟨h.table.slots, h.table.count, h.table.room⟩ hfull
  have hdestroy := clientDestroy_run (s := { s.created fd with clients := l })
    (a := s.clientObjects.next)
    ((Heap.push_cells _ _ _).trans (if_pos rfl)) (Heap.push_isSome_next _ _)
  refine ⟨({ s.created fd with clients := l } : Server δ).freed s.clientObjects.next
    s.network.interfaces.next, ?_, ?_⟩
  · rw [hrun, run_bind_ok hadd]
    exact hdestroy
  · intro hc
    have hitem : (s.clients.nodes.next, s.clientObjects.next) ∈ l.items := by
      rw [hl.items_eq]
      exact List.mem_append_right _ (List.mem_singleton_self _)
    have hlive := hc.live _ hitem
    simp [Server.freed, Heap.erase_cells] at hlive

lemma Server.Serves.split (h : s.Serves cs) {node : ℕ} {x : Cell ℕ} {u : Server δ}
    (hrun : (zoom Server.clientsLens (LinkedList.node node)).run s = .ok x u) :
    ∃ pre c post, cs = pre ++ c :: post ∧ c.node = node := by
  cases hc : s.clients.nodes.cells node with
  | none =>
    have hdead : (zoom Server.clientsLens (LinkedList.node node)).run s = .error .useAfterFree s :=
      run_zoom_error (l := Server.clientsLens)
        (run_zoom_error (l := LinkedList.nodesLens) (Heap.read_dead hc))
    rw [hdead] at hrun
    cases hrun
  | some cell =>
    have hmem := h.holds.live node cell hc
    rw [List.map_map] at hmem
    obtain ⟨c, hcs, rfl⟩ := List.mem_map.mp hmem
    obtain ⟨pre, post, he⟩ := List.append_of_mem hcs
    exact ⟨pre, c, post, he, rfl⟩

/-- A client that has been removed was in the list. -/
lemma Server.Serves.split_of_remove (h : s.Serves cs) {node : ℕ} {o : Unit} {u : Server δ}
    (hrun : (clientRemove (some node)).run s = .ok o u) :
    ∃ pre c post, cs = pre ++ c :: post ∧ c.node = node := by
  cases hnode : (zoom Server.clientsLens (LinkedList.node node)).run s with
  | error e t =>
    rw [clientRemove, run_bind_error hnode] at hrun
    cases hrun
  | ok x t => exact h.split hnode

lemma Server.Distinct.others (hd : s.Distinct (pre ++ c :: post))
    {a : ℕ} (ha : a ∈ s.registered (pre ++ post)) : a ∈ s.registered (pre ++ c :: post) ∧
      s.uidOf a ≠ s.uidOf c.client.interface ∧ a ≠ c.client.interface := by
  have hperm : (s.registered (pre ++ c :: post)).Perm
      (c.client.interface :: s.registered (pre ++ post)) := by
    simp only [Server.registered, List.map_append, List.map_cons]
    refine List.Perm.trans (List.Perm.cons _ List.perm_middle) (List.Perm.swap _ _ _)
  rw [Server.Distinct, (hperm.map s.uidOf).nodup_iff, List.map_cons, List.nodup_cons] at hd
  have hne : s.uidOf a ≠ s.uidOf c.client.interface := by
    intro he
    exact hd.1 (he ▸ List.mem_map_of_mem ha)
  refine ⟨hperm.mem_iff.mpr (List.mem_cons_of_mem _ ha), hne, ?_⟩
  rintro rfl
  exact hne rfl

/-- What the server knows of the interface of a client. -/
lemma Server.Serves.leaving (h : s.Serves (pre ++ c :: post)) (hd : s.Distinct (pre ++ c :: post)) :
    ∃ i, s.network.interfaces.cells c.client.interface = some i ∧
      ∀ a ∈ s.registered (pre ++ post), (s.uidOf a).isSome ∧ s.uidOf a ≠ some i.uid := by
  have hknown := h.known c.client.interface (by simp [Server.registered])
  rw [Server.uidOf, Option.isSome_map] at hknown
  obtain ⟨i, hi⟩ := Option.isSome_iff_exists.mp hknown
  refine ⟨i, hi, ?_⟩
  intro a ha
  obtain ⟨hin, hne, -⟩ := hd.others ha
  rw [Server.uidOf, Server.uidOf, hi] at hne
  exact ⟨h.known a hin, hne⟩

/-- What is read of a client in the list. -/
lemma clientNode_run (hl : s.clients.Holds ((pre ++ c :: post).map Joined.ref)) :
    (zoom Server.clientsLens (LinkedList.node c.node)).run s =
      .ok ⟨Ring.firstAddr ((post ++ pre).map Joined.ref) c.node,
        Ring.lastAddr c.node ((post ++ pre).map Joined.ref), c.addr⟩ s := by
  rw [List.map_append, List.map_cons] at hl
  rw [List.map_append]
  exact run_zoom_ok (l := Server.clientsLens) hl.node_run

/-- Up to the table, removing a client takes it out of the list. -/
lemma clientRemove_listed (hl : s.clients.Holds ((pre ++ c :: post).map Joined.ref))
    (hc : s.clientObjects.cells c.addr = some c.client) {i : Interface}
    (hi : s.network.interfaces.cells c.client.interface = some i) : ∃ l,
    (clientRemove (some c.node)).run s = (do
      interfaceRemove i.uid
      clientDestroy c.addr : Run (Server δ) Unit).run { s with clients := l } ∧
      l.Holds ((pre ++ post).map Joined.ref) ∧ l.capacity = s.clients.capacity := by
  have hnode := clientNode_run hl
  rw [List.map_append, List.map_cons] at hl
  obtain ⟨l, hremove, hl', hcap, -⟩ := LinkedList.listRemove_holds hl
  have hlist : (zoom Server.clientsLens (listRemove (some c.node))).run s =
      .ok (some c.addr) { s with clients := l } :=
    run_zoom_ok (l := Server.clientsLens) hremove
  refine ⟨l, ?_, ?_, hcap⟩
  · rw [clientRemove, run_bind_ok hnode, run_bind_ok (readClient_run hc), run_bind_ok hlist,
      run_bind_ok (readInterfaceAt_run (s := { s with clients := l }) hi)]
  · rw [List.map_append]
    exact hl'

/-- With its interface out of the table a client can be freed. -/
lemma clientDestroy_removed {n : Globals δ} (hn : uids n = uids s.network)
    (hc : s.clientObjects.cells c.addr = some c.client)
    (hi : (s.uidOf c.client.interface).isSome) (l : LinkedList ℕ) (slots : List (Option ℕ))
    (count : ℕ) :
    (clientDestroy c.addr).run { s with
        network := n, clients := l, allInterfaces := slots, interfaceCount := count } =
      .ok () (Server.freed { s with
        network := n, clients := l, allInterfaces := slots, interfaceCount := count }
        c.addr c.client.interface) := by
  refine clientDestroy_run (s := { s with
    network := n, clients := l, allInterfaces := slots, interfaceCount := count }) hc ?_
  rwa [← Option.isSome_map (f := Interface.uid), ← congrFun (Prod.mk.inj hn).2.symm _]

/-- The interface of a client in the table. -/
lemma Server.Serves.table_split (h : s.Serves (pre ++ c :: post)) (l : LinkedList ℕ) :
    ({ s with clients := l } : Server δ).TableOf
      ((s.usbInterface1 :: pre.map (·.client.interface)) ++
        c.client.interface :: post.map (·.client.interface)) ∧
      (s.usbInterface1 :: pre.map (·.client.interface)) ++ post.map (·.client.interface) =
        s.registered (pre ++ post) := by
  have ht := h.table
  simp only [Server.registered, List.map_append, List.map_cons] at ht
  exact ⟨⟨ht.slots, ht.count, ht.room⟩, by simp [Server.registered]⟩

/-- What removing a client in the list comes to, once the network has dropped its interface. -/
lemma clientRemove_gone (h : s.Serves (pre ++ c :: post)) (hd : s.Distinct (pre ++ c :: post))
    {n : Globals δ} (hgone : (interfaceRemoved c.client.interface).run s.network = .ok () n) :
    ∃ u, (clientRemove (some c.node)).run s = .ok () u ∧
      u.network = { n with interfaces := n.interfaces.erase c.client.interface } ∧
      u.Serves (pre ++ post) ∧ u.Distinct (pre ++ post) := by
  obtain ⟨i, hi, hothers⟩ := h.leaving hd
  obtain ⟨l, hlisted, hl, hcap⟩ := clientRemove_listed h.holds (h.live c (by simp)) hi
  have huid : s.uidOf c.client.interface = some i.uid := by
    rw [Server.uidOf, hi]
    rfl
  obtain ⟨htable, hsplit⟩ := h.table_split l
  rw [← hsplit] at hothers
  have hn := interfaceRemoved_uids hgone
  obtain ⟨slots, count, hrun, htable'⟩ := interfaceRemove_run (s := { s with clients := l })
    htable huid hothers hgone
  have hdestroy := clientDestroy_removed hn (h.live c (by simp)) (huid ▸ rfl) l slots count
  refine ⟨_, (hlisted.trans (run_bind_ok hrun)).trans hdestroy, rfl, ?_⟩
  -- Nothing of the others has been freed.
  have hdrop : (pre ++ post).Sublist (pre ++ c :: post) :=
    (List.Sublist.refl pre).append (List.sublist_cons_self c post)
  have haddr : ∀ d ∈ pre ++ post, d.addr ≠ c.addr := fun _ hd => ne_of_nodup_map h.addrs hd
  have huids : ∀ a ∈ s.registered (pre ++ post), (Server.freed { s with
      network := n
      clients := l
      allInterfaces := slots
      interfaceCount := count } c.addr c.client.interface).uidOf a = s.uidOf a := by
    intro a ha
    obtain ⟨-, -, hne⟩ := hd.others ha
    show ((n.interfaces.erase _).cells a).map _ = _
    rw [Heap.erase_cells, if_neg hne]
    exact uidOf_eq_of_uids hn a
  refine ⟨⟨hl, hcap.trans h.capacity, ?_, (hdrop.map Joined.addr).nodup h.addrs, ?_, ?_⟩, ?_⟩
  · intro d hd
    show (s.clientObjects.erase c.addr).cells d.addr = _
    rw [Heap.erase_cells, if_neg (haddr d hd)]
    exact h.live d (hdrop.subset hd)
  · rw [hsplit] at htable'
    exact ⟨htable'.slots, htable'.count, htable'.room⟩
  · intro a ha
    rw [huids a ha]
    exact h.known a (hd.others ha).1
  · have hsub : (s.registered (pre ++ post)).Sublist (s.registered (pre ++ c :: post)) :=
      (hdrop.map _).cons_cons _
    show ((s.registered (pre ++ post)).map _).Nodup
    rw [List.map_congr_left huids]
    exact (hsub.map s.uidOf).nodup hd

/-- A client in the list that is removed leaves both the list and the table. -/
lemma clientRemove_split (h : s.Serves (pre ++ c :: post)) (hd : s.Distinct (pre ++ c :: post))
    {o : Unit} {u : Server δ} (hrun : (clientRemove (some c.node)).run s = .ok o u) :
    u.Serves (pre ++ post) ∧ u.Distinct (pre ++ post) := by
  cases hgone : (interfaceRemoved c.client.interface).run s.network with
  | error e n =>
    obtain ⟨i, hi, hothers⟩ := h.leaving hd
    obtain ⟨l, hlisted, -, -⟩ := clientRemove_listed h.holds (h.live c (by simp)) hi
    obtain ⟨htable, hsplit⟩ := h.table_split l
    rw [← hsplit] at hothers
    have herror := interfaceRemove_error (s := { s with clients := l }) htable
      (by rw [Server.uidOf, hi]; rfl) (fun a ha => hothers a (List.mem_append_left _ ha)) hgone
    rw [hlisted, run_bind_error herror] at hrun
    cases hrun
  | ok o' n =>
    obtain ⟨u', hrun', -, hserves⟩ := clientRemove_gone h hd hgone
    obtain ⟨-, rfl⟩ := EStateM.Result.ok.inj (hrun.symm.trans hrun')
    exact hserves

/-- A client that is removed leaves both the list and the table. -/
lemma clientRemove_serves (h : s.Serves cs) (hd : s.Distinct cs) {node : Option ℕ} {o : Unit}
    {u : Server δ} (hrun : (clientRemove node).run s = .ok o u) :
    ∃ cs', u.Serves cs' ∧ u.Distinct cs' := by
  cases node with
  | none =>
    obtain ⟨-, rfl⟩ := EStateM.Result.ok.inj hrun
    exact ⟨cs, h, hd⟩
  | some node =>
    obtain ⟨pre, c, post, rfl, rfl⟩ := h.split_of_remove hrun
    exact ⟨pre ++ post, clientRemove_split h hd hrun⟩

end Serves

section Runs

variable {T : Target δ} {platform : δ} {s t u : Server δ} {cs : List Joined} {e : Event δ} {o : Unit}

lemma meteoStart_serves (T : Target δ) (platform : δ) :
    (meteoStart T platform).Serves [] ∧ (meteoStart T platform).Distinct [] := by
  have hboot : (boot (zejfInit T platform)).TableOf [] := ⟨rfl, rfl, Nat.zero_le _⟩
  obtain ⟨hadd, htable⟩ := interfaceAdd_run hboot
    (a := (boot (zejfInit T platform)).usbInterface1) (Heap.push_isSome_next _ _) (by decide)
  have hstart : meteoStart T platform =
      (boot (zejfInit T platform)).added (boot (zejfInit T platform)).usbInterface1 := by
    rw [meteoStart, interfacesInit, run_bind_ok (EStateM.run_modify _ _),
      run_bind_ok (EStateM.run_get _)]
    have hrun : (interfaceAdd (boot (zejfInit T platform)).usbInterface1).run
        { boot (zejfInit T platform) with interfaceCount := 0, nextUid := 0 } = _ := hadd
    rw [run_bind_ok hrun]
    rfl
  rw [hstart]
  refine ⟨⟨LinkedList.listCreate_holds ℕ _, rfl, ?_, List.nodup_nil, htable, ?_⟩,
    List.nodup_singleton _⟩
  · intro c hc
    cases hc
  · intro a ha
    rw [List.mem_singleton.mp ha]
    rfl

lemma clientConnect_step (h : s.Serves cs) (hd : s.Distinct cs) {fd : ℤ}
    (hrun : (clientConnect fd).run s = .ok o u) :
    (s.HasPlace → ∃ cs', u.Serves cs' ∧ u.Distinct cs') ∧ (u.Correspond ↔ s.HasPlace) := by
  rw [h.hasPlace_iff]
  rcases Nat.lt_or_eq_of_le h.table.room with hroom | hfull
  · obtain ⟨t, c, ht, hserves, hdistinct⟩ := clientConnect_room h hroom fd
    obtain ⟨-, rfl⟩ := EStateM.Result.ok.inj (hrun.symm.trans ht)
    rw [hserves.correspond_iff, hdistinct]
    refine ⟨?_, ?_⟩
    · rintro ⟨-, hnew⟩
      exact ⟨_, hserves, hdistinct.mpr ⟨hd, hnew⟩⟩
    · simp [hd, hroom]
  · obtain ⟨t, ht, hno⟩ := clientConnect_full h hfull fd
    obtain ⟨-, rfl⟩ := EStateM.Result.ok.inj (hrun.symm.trans ht)
    have hplace : ¬((s.registered cs).length < interfacesMax ∧
        some s.nextUid.toInt ∉ (s.registered cs).map s.uidOf) := by
      rintro ⟨hlt, -⟩
      omega
    exact ⟨fun hp => absurd hp hplace, iff_of_false hno hplace⟩

/-- What an event under the condition preserves, and that nothing less will do. -/
lemma step_serves (he : e.Allowed) (h : ∃ cs, s.Serves cs ∧ s.Distinct cs)
    (hrun : (step e).run s = .ok o u) :
    (Placed s e → ∃ cs, u.Serves cs ∧ u.Distinct cs) ∧ (u.Correspond ↔ Placed s e) := by
  obtain ⟨cs, hs, hd⟩ := h
  cases e with
  | connect fd => exact clientConnect_step hs hd hrun
  | remove node =>
    obtain ⟨cs', hs', hd'⟩ := clientRemove_serves hs hd hrun
    exact ⟨fun _ => ⟨cs', hs', hd'⟩, iff_of_true (hs'.correspond_iff.mpr hd') trivial⟩
  | network x =>
    obtain ⟨n, hx, rfl⟩ : ∃ n, x.run s.network = .ok o n ∧ u = { s with network := n } := by
      cases hx : x.run s.network with
      | ok o' n =>
        have hzoom : (step (.network x)).run s = .ok o' { s with network := n } :=
          run_zoom_ok (l := Server.networkLens) hx
        obtain ⟨-, hu⟩ := EStateM.Result.ok.inj (hrun.symm.trans hzoom)
        exact ⟨n, rfl, hu⟩
      | error e n =>
        have hzoom : (step (.network x)).run s = .error e { s with network := n } :=
          run_zoom_error (l := Server.networkLens) hx
        rw [hzoom] at hrun
        cases hrun
    have hn : uids n = uids s.network := by
      have hkeep := he s.network
      rwa [hx] at hkeep
    obtain ⟨hs', hd'⟩ := hs.congr (t := { s with network := n }) rfl (fun _ _ => rfl)
      ⟨hs.table.slots, hs.table.count, hs.table.room⟩ rfl (fun a _ => uidOf_eq_of_uids hn a)
    exact ⟨fun _ => ⟨cs, hs', hd'.mpr hd⟩,
      iff_of_true (hs'.correspond_iff.mpr (hd'.mpr hd)) trivial⟩

/-- **Clients and interfaces correspond exactly in the runs where every client that connects
finds a place.** -/
theorem correspond_iff_placed {tr : List (Event δ × Unit)}
    (htr : Trace step (meteoStart T platform) tr t) (hall : ∀ x ∈ tr, x.1.Allowed) :
    Always step (meteoStart T platform) (fun _ => Server.Correspond) tr ↔
      Throughout step (meteoStart T platform) (fun _ s e _ => Placed s e) tr := by
  obtain ⟨hs, hd⟩ := meteoStart_serves T platform
  refine Always.iff_throughout_of_good (J := fun _ s => ∃ cs, s.Serves cs ∧ s.Distinct cs)
    htr hall ⟨[], hs, hd⟩ (hs.correspond_iff.mpr hd) ?_
  intro tr t e o u he ht hrun
  exact step_serves he ht hrun

/-- Nothing waits to be sent, and no route is known. -/
def Server.Quiet (s : Server δ) : Prop :=
  s.network.txQueue.tail = none ∧ s.network.routingTableTop = 0

/-- A connection or a disconnection. -/
def Event.Own : Event δ → Prop
  | .network _ => False
  | _ => True

/-- No other client than one in the list is removed. -/
def Server.Lists (s : Server δ) : Event δ → Prop
  | .remove (some node) => node ∈ s.clients.items.map Prod.fst
  | _ => True

def Server.traffic (s : Server δ) : LinkedList ℕ × ℕ :=
  (s.network.txQueue, s.network.routingTableTop)

lemma clientConnect_keeps (fd : ℤ) : Keeps Server.traffic (clientConnect (δ := δ) fd) := by
  have hslot : ∀ i slot, Keeps Server.traffic (setInterfaceSlot (δ := δ) i slot) :=
    keeps_setInterfaceSlot (fun _ _ => rfl)
  have hdestroy : ∀ client, Keeps Server.traffic (clientDestroy (δ := δ) client) := by
    intro client
    refine keeps_bind (keeps_zoom (fun _ _ => rfl) _) (fun c => ?_)
    exact keeps_bind (keeps_zoom (fun _ _ => rfl) _) (fun _ => keeps_zoom (fun _ _ => rfl) _)
  have hadd : ∀ a, Keeps Server.traffic (interfaceAdd (δ := δ) a) := by
    intro a
    unfold interfaceAdd
    refine keeps_bind keeps_get (fun s => keeps_ite (keeps_pure _) ?_)
    refine keeps_bind (keeps_zoom (fun _ _ => rfl) _) (fun _ => ?_)
    refine keeps_bind (keeps_set (fun _ => rfl)) (fun _ => keeps_bind (hslot _ _) (fun _ => ?_))
    exact keeps_bind (keeps_set (fun _ => rfl)) (fun _ => keeps_pure _)
  unfold clientConnect
  refine keeps_bind (fun s => rfl) (fun client => ?_)
  refine keeps_bind (keeps_zoom (fun _ _ => rfl) _) (fun pushed => ?_)
  refine keeps_ite (keeps_bind (hdestroy _) (fun _ => keeps_pure _)) ?_
  refine keeps_bind (keeps_zoom (fun _ _ => rfl) _) (fun c => keeps_bind (hadd _) (fun added => ?_))
  exact keeps_ite (hdestroy _) (keeps_pure _)

lemma Server.Quiet.interfaceRemoved_run (h : s.Quiet) (a : ℕ) :
    (interfaceRemoved a).run s.network = .ok () s.network := by
  have hloop : (dropRoutes a 1 0).run s.network = .ok () s.network := by
    rw [dropRoutes, run_bind_ok (EStateM.run_get _), h.2]
    rfl
  rw [interfaceRemoved, run_bind_ok (EStateM.run_get _), h.2, run_bind_ok hloop,
    networkInterfaceRemoved, run_bind_ok (EStateM.run_get _), h.1]
  rfl

/-- A connection, or the removal of a client in the list, comes to an end. -/
lemma step_quiet (hs : s.Serves cs) (hd : s.Distinct cs) (hq : s.Quiet) (hown : e.Own)
    (hlists : s.Lists e) : ∃ u, (step e).run s = .ok () u ∧ u.Quiet := by
  cases e with
  | network x => exact hown.elim
  | connect fd =>
    obtain ⟨u, hrun⟩ : ∃ u, (clientConnect fd).run s = .ok () u := by
      rcases Nat.lt_or_eq_of_le hs.table.room with hroom | hfull
      · obtain ⟨u, -, hrun, -⟩ := clientConnect_room hs hroom fd
        exact ⟨u, hrun⟩
      · obtain ⟨u, hrun, -⟩ := clientConnect_full hs hfull fd
        exact ⟨u, hrun⟩
    have hkeep := clientConnect_keeps fd s
    rw [hrun, leaves_ok] at hkeep
    obtain ⟨htx, htop⟩ := Prod.mk.inj hkeep
    exact ⟨u, hrun, by rw [htx, hq.1], htop.trans hq.2⟩
  | remove node =>
    cases node with
    | none => exact ⟨s, rfl, hq⟩
    | some node =>
      have hin : node ∈ (cs.map Joined.ref).map Prod.fst := hs.holds.items_eq ▸ hlists
      rw [List.map_map] at hin
      obtain ⟨c, hc, rfl⟩ := List.mem_map.mp hin
      obtain ⟨pre, post, rfl⟩ := List.append_of_mem hc
      obtain ⟨u, hrun, hnetwork, -⟩ := clientRemove_gone hs hd (hq.interfaceRemoved_run _)
      refine ⟨u, hrun, ?_⟩
      rw [Server.Quiet, hnetwork]
      exact hq

lemma lists_of_run (h : s.Serves cs) (hrun : (step e).run s = .ok o u) : s.Lists e := by
  cases e with
  | connect fd => trivial
  | network x => trivial
  | remove node =>
    cases node with
    | none => trivial
    | some node =>
      obtain ⟨pre, c, post, rfl, rfl⟩ := h.split_of_remove hrun
      show c.node ∈ s.clients.items.map Prod.fst
      rw [h.holds.items_eq]
      exact List.mem_map_of_mem (List.mem_map_of_mem (by simp : c ∈ pre ++ c :: post))

/-- As long as every client that connects finds a place, and there is nothing else on the
network, every connection and every removal of a client in the list comes to an end. -/
theorem connections_served {tr : List (Event δ × Unit)}
    (htr : Trace step (meteoStart T platform) tr t)
    (hplaced : Throughout step (meteoStart T platform) (fun _ s e _ => Placed s e ∧ e.Own) tr)
    (hown : e.Own) (hlists : t.Lists e) : ∃ u, (step e).run t = .ok () u := by
  obtain ⟨hstart, hdistinct⟩ := meteoStart_serves T platform
  have hend : (∃ cs, t.Serves cs ∧ t.Distinct cs) ∧ t.Quiet := by
    refine hplaced.invariant (I := fun _ t => (∃ cs, t.Serves cs ∧ t.Distinct cs) ∧ t.Quiet) htr
      ⟨⟨[], hstart, hdistinct⟩, rfl, rfl⟩ ?_
    rintro tr t e o u ⟨⟨cs, hs, hd⟩, hq⟩ ⟨hplace, hown⟩ hrun
    have hallowed : e.Allowed := by
      cases e with
      | network x => exact hown.elim
      | _ => trivial
    obtain ⟨u', hrun', hq'⟩ := step_quiet hs hd hq hown (lists_of_run hs hrun)
    obtain ⟨-, rfl⟩ := EStateM.Result.ok.inj (hrun.symm.trans hrun')
    exact ⟨(step_serves hallowed ⟨cs, hs, hd⟩ hrun).1 hplace, hq'⟩
  obtain ⟨⟨cs, hs, hd⟩, hq⟩ := hend
  obtain ⟨u, hrun, -⟩ := step_quiet hs hd hq hown hlists
  exact ⟨u, hrun⟩

end Runs

/-- The server without a network to speak of. -/
def bareStart : Server Unit := meteoStart (Target.bare Settings.zejfMeteo) ()

/-- A client that comes and goes. -/
def oneClient : List (Event Unit) := [.connect 5, .remove (some 0)]

theorem oneClient_correspond_iff : ∃ tr t, Trace step bareStart tr t ∧ tr.map Prod.fst = oneClient ∧
    (Always step bareStart (fun _ => Server.Correspond) tr ↔
      Throughout step bareStart (fun _ s e _ => Placed s e) tr) := by
  have hserved : outcome ((serve step oneClient).run bareStart) = some [(), ()] := by
    decide +kernel
  obtain ⟨htr, hmap⟩ := Trace.of_serve (run_eq_of_outcome hserved)
  refine ⟨_, _, htr, hmap, correspond_iff_placed htr ?_⟩
  intro x hx
  have hin : x.1 ∈ oneClient := hmap ▸ List.mem_map_of_mem hx
  simp only [oneClient, List.mem_cons, List.not_mem_nil, or_false] at hin
  rcases hin with he | he <;> rw [he] <;> trivial

/-- One client more than there are places for. -/
def manyClients : List (Event Unit) := (List.range 32).map (fun fd => .connect fd)

lemma manyClients_served : outcome ((serve step manyClients).run bareStart) =
    some (List.replicate 32 ()) := by
  decide +kernel

/-- Not every sequence of connections keeps clients and interfaces together. -/
theorem correspond_counterexample : ¬∀ tr t, Trace step bareStart tr t →
    (∀ x ∈ tr, x.1.Allowed) → t.Correspond := by
  intro hall
  obtain ⟨htr, hmap⟩ := Trace.of_serve (run_eq_of_outcome manyClients_served)
  have hcorrespond := hall _ _ htr ?_
  · have hfreed : ∃ x ∈ (leaves ((serve step manyClients).run bareStart)).clients.items,
        ((leaves ((serve step manyClients).run bareStart)).clientObjects.cells x.2).isNone := by
      decide +kernel
    obtain ⟨x, hx, hnone⟩ := hfreed
    have hlive := hcorrespond.live x hx
    rw [Option.isNone_iff_eq_none.mp hnone] at hlive
    cases hlive
  · intro x hx
    have hin : x.1 ∈ manyClients := hmap ▸ List.mem_map_of_mem hx
    obtain ⟨fd, -, he⟩ := List.mem_map.mp hin
    rw [← he]
    trivial

end ZejfMeteo.Clients
