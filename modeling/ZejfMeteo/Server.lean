import ZejfMeteo.Lib.Lines
import ZejfMeteo.Protocol

/-!
# The server's reader

`read_client` of `server.c`: bytes from a client gather in a buffer, and every newline in
it hands a packet to the network.

After a packet the buffer is shifted and the parse position set back to 0 inside the body of
the loop, whose increment then moves it to 1. So the first byte after a newline is never
looked at, and a newline there does not end its line.
-/

namespace ZejfMeteo
open Runs Lines

/-- The server's `CLIENT_BUFFER_SIZE`. -/
def clientBufferSize : ℕ := 512

structure Client where
  buffer : List UInt8
  bufferPtr : ℕ
  bufferParsePtr : ℕ
  size_eq : buffer.length = clientBufferSize

/-- A client, the results that `read` is going to give for it, and the texts that have been
passed to `network_accept`. -/
structure Connection where
  client : Client
  connected : Bool
  incoming : List (List UInt8)
  accepted : List (List UInt8)

/-! ### The buffer -/

/-- The client after bytes were copied into the buffer. -/
def Client.write (c : Client) (i : ℕ) (bytes : List UInt8)
    (h : i + bytes.length ≤ clientBufferSize) : Client where
  buffer := c.buffer.take i ++ bytes ++ c.buffer.drop (i + bytes.length)
  bufferPtr := c.bufferPtr
  bufferParsePtr := c.bufferParsePtr
  size_eq := by
    have hsize := c.size_eq
    simp only [List.length_append, List.length_take, List.length_drop]
    omega

def bufferAt (i : ℕ) : Run Connection UInt8 := do
  let s ← get
  match s.client.buffer[i]? with
  | some c => return c
  | none => throw .outOfBounds

def bufferWrite (i : ℕ) (bytes : List UInt8) : Run Connection Unit := do
  let s ← get
  if h : i + bytes.length ≤ clientBufferSize then
    set { s with client := s.client.write i bytes h }
  else
    throw .outOfBounds

/-- `memcpy` to the start of the buffer from position `i`, right also where the two overlap. -/
def bufferShift (i n : ℕ) : Run Connection Unit := do
  let s ← get
  if i + n ≤ clientBufferSize then
    bufferWrite 0 ((s.client.buffer.drop i).take n)
  else
    throw .outOfBounds

def setPtrs (bufferPtr bufferParsePtr : ℕ) : Run Connection Unit :=
  modify (fun s => { s with client := { s.client with bufferPtr, bufferParsePtr } })

/-! ### The code of `server.c` -/

/-- `client_create` zeroes the client. -/
def clientCreate : Client where
  buffer := List.replicate clientBufferSize 0
  bufferPtr := 0
  bufferParsePtr := 0
  size_eq := List.length_replicate

/-- What `read_client` does with a newline. -/
def acceptLine : Run Connection Unit := do
  let client := (← get).client
  bufferWrite client.bufferParsePtr [0]
  modify (fun s => { s with accepted := s.accepted ++ [s.client.buffer.take client.bufferParsePtr] })
  if client.bufferParsePtr < clientBufferSize then
    bufferShift (client.bufferParsePtr + 1) (client.bufferPtr - client.bufferParsePtr - 1)
  setPtrs (client.bufferPtr - (client.bufferParsePtr + 1)) 0

/-- The for loop of `read_client`. -/
def parseBuffer : ℕ → Run Connection Unit
  | 0 => throw .outOfFuel
  | fuel + 1 => do
    let client := (← get).client
    if client.bufferParsePtr < client.bufferPtr then
      if (← bufferAt client.bufferParsePtr) = newline then
        acceptLine
      let client := (← get).client
      setPtrs client.bufferPtr (client.bufferParsePtr + 1)
      parseBuffer fuel

/-- `read`: as much of what has arrived as fits. -/
def read (i nBytes : ℕ) : Run Connection ℕ := do
  let s ← get
  match s.incoming with
  | [] => return 0
  | chunk :: incoming =>
    let rest := chunk.drop nBytes
    set { s with incoming := if rest = [] then incoming else rest :: incoming }
    bufferWrite i (chunk.take nBytes)
    return (chunk.take nBytes).length

/-- The body of the loop of `read_client`, which returns whether to go on. -/
def readStep : Run Connection Bool := do
  let s ← get
  let nBytes := clientBufferSize - s.client.bufferPtr
  let rv ← read s.client.bufferPtr nBytes
  if rv = 0 then
    modify (fun s => { s with connected := false })
    return false
  setPtrs (s.client.bufferPtr + rv) s.client.bufferParsePtr
  parseBuffer (clientBufferSize + 1)
  if clientBufferSize ≤ (← get).client.bufferPtr then
    setPtrs 0 0
  return rv == nBytes

/-- With nothing to read the code waits in `read`. -/
def readClient : ℕ → Run Connection Unit
  | 0 => throw .outOfFuel
  | fuel + 1 => do
    if (← get).incoming = [] then
      return
    if ← readStep then
      readClient fuel

/-- `poll_run` for one client, until all that it sent is read. -/
def pollRun : ℕ → Run Connection Unit
  | 0 => throw .outOfFuel
  | fuel + 1 => do
    let s ← get
    if s.connected ∧ s.incoming ≠ [] then
      readClient (fuel + 1)
      pollRun fuel

/-- `readClient`, returning the position at which each read has put its bytes. -/
def readClientAt : ℕ → Run Connection (List ℕ)
  | 0 => throw .outOfFuel
  | fuel + 1 => do
    let s ← get
    if s.incoming = [] then
      return []
    if ← readStep then
      return s.client.bufferPtr :: (← readClientAt fuel)
    else
      return [s.client.bufferPtr]

/-- `pollRun`, returning the positions of all reads. -/
def pollRunAt : ℕ → Run Connection (List ℕ)
  | 0 => throw .outOfFuel
  | fuel + 1 => do
    let s ← get
    if s.connected ∧ s.incoming ≠ [] then
      let ptrs ← readClientAt (fuel + 1)
      return ptrs ++ (← pollRunAt fuel)
    else
      return []

/-- A client that sends these bytes, cut this way. -/
def clientConnect (incoming : List (List UInt8)) : Connection where
  client := clientCreate
  connected := true
  incoming
  accepted := []

/-- The texts passed to `network_accept` are the lines that were sent, and both positions
stay in the buffer. -/
def AcceptsLines (incoming : List (List UInt8)) : Prop :=
  ∃ s, (pollRun (incoming.flatten.length + 1)).run (clientConnect incoming) = .ok () s ∧
    s.accepted = lines newline incoming.flatten ∧
    s.client.bufferPtr ≤ clientBufferSize ∧ s.client.bufferParsePtr ≤ clientBufferSize

/-! ### The reader, one byte at a time -/

/-- What the reader keeps of the line it is in, and whether the next byte goes unseen. -/
structure Framer where
  pending : List UInt8
  skipping : Bool

namespace Framer

def fresh : Framer := ⟨[], false⟩

def skip : Framer := ⟨[], true⟩

def keep (m : Framer) (c : UInt8) : Framer := ⟨m.pending ++ [c], false⟩

/-- A buffer that is full without a newline is dropped. -/
def settle (m : Framer) : Framer := if m.pending.length < clientBufferSize then m else fresh

/-- The texts that come out of a stream. -/
def frames : Framer → List UInt8 → List (List UInt8)
  | _, [] => []
  | m, c :: cs =>
    if c = newline ∧ m.skipping = false then
      m.pending :: frames skip cs
    else
      frames (m.keep c).settle cs

end Framer

section Framing

variable {m : Framer} {c : UInt8} {l s : List UInt8}

lemma Framer.settle_of_lt (h : m.pending.length < clientBufferSize) : m.settle = m := if_pos h

lemma Framer.settle_pending_lt (m : Framer) : m.settle.pending.length < clientBufferSize := by
  unfold settle
  split
  · assumption
  · decide

lemma Framer.frames_newline (h : m.skipping = false) (s : List UInt8) :
    m.frames (newline :: s) = m.pending :: skip.frames s := by
  rw [frames, if_pos ⟨rfl, h⟩]

lemma Framer.frames_keep (h : c ≠ newline ∨ m.skipping = true) (s : List UInt8) :
    m.frames (c :: s) = (m.keep c).settle.frames s := by
  rw [frames, if_neg]
  rintro ⟨hc, hm⟩
  rcases h with h | h
  · exact h hc
  · rw [hm] at h
    exact Bool.false_ne_true h

lemma Framer.frames_of_notMem (h : newline ∉ s) (m : Framer) : m.frames s = [] := by
  induction s generalizing m with
  | nil => rfl
  | cons c s ih =>
    rw [frames_keep (Or.inl (List.ne_of_not_mem_cons h).symm)]
    exact ih (List.not_mem_of_not_mem_cons h) _

/-- A line that is seen from its second byte on comes out whole. -/
lemma Framer.frames_rest (h : newline ∉ l) (hm : m.skipping = false)
    (hlen : m.pending.length + l.length < clientBufferSize) (s : List UInt8) :
    m.frames (l ++ newline :: s) = (m.pending ++ l) :: skip.frames s := by
  induction l generalizing m with
  | nil => rw [List.nil_append, frames_newline hm, List.append_nil]
  | cons c l ih =>
    rw [List.length_cons] at hlen
    have hkeep : (m.keep c).pending.length = m.pending.length + 1 := by
      rw [keep, List.length_append, List.length_singleton]
    rw [List.cons_append, frames_keep (Or.inl (List.ne_of_not_mem_cons h).symm),
      settle_of_lt (by omega), ih (List.not_mem_of_not_mem_cons h) rfl (by omega), keep,
      List.append_assoc, List.singleton_append]

/-- So does a line whose first byte goes unseen, if it has one. -/
lemma Framer.frames_skip_line (h : newline ∉ l) (hl : l ≠ []) (hlen : l.length < clientBufferSize)
    (s : List UInt8) : skip.frames (l ++ newline :: s) = l :: skip.frames s := by
  obtain ⟨c, l, rfl⟩ := List.exists_cons_of_ne_nil hl
  have hkeep : (skip.keep c).pending.length = 1 := rfl
  rw [List.length_cons] at hlen
  rw [List.cons_append, frames_keep (Or.inr rfl), settle_of_lt (by rw [hkeep]; decide),
    frames_rest (List.not_mem_of_not_mem_cons h) rfl (by omega)]
  rfl

/-- At most one text comes out for every newline. -/
lemma Framer.length_frames_le (m : Framer) (s : List UInt8) :
    (m.frames s).length ≤ s.count newline := by
  induction s generalizing m with
  | nil => exact Nat.le_refl 0
  | cons c s ih =>
    rw [frames]
    split
    next h =>
      have hs := ih skip
      rw [h.1, List.count_cons_self, List.length_cons]
      omega
    next =>
      have hs := ih (m.keep c).settle
      have hcount := List.count_le_count_cons (a := newline) (b := c) (l := s)
      omega

/-- A newline that goes unseen is missing for good. -/
lemma Framer.length_frames_skip_lt (hshort : ∀ l ∈ lines newline s, l.length < clientBufferSize)
    (h : [] ∈ lines newline s) : (skip.frames s).length < s.count newline := by
  induction s using lines_induction newline with
  | rest s hs =>
    rw [lines_of_notMem hs] at h
    cases h
  | line l s hl ih =>
    rw [lines_line hl] at h hshort
    rw [List.count_append, List.count_eq_zero.mpr hl, List.count_cons_self]
    by_cases hnil : l = []
    · subst hnil
      have hs := length_frames_le (skip.keep newline).settle s
      rw [List.nil_append, frames_keep (Or.inr rfl)]
      omega
    · have hs := ih (fun k hk => hshort k (List.mem_cons_of_mem l hk))
        ((List.mem_cons.mp h).resolve_left (Ne.symm hnil))
      rw [frames_skip_line hl hnil (hshort l List.mem_cons_self), List.length_cons]
      omega

/-- After a packet the lines come out right until the first empty one. -/
lemma Framer.frames_skip_iff (hshort : ∀ l ∈ lines newline s, l.length < clientBufferSize) :
    skip.frames s = lines newline s ↔ ∀ l ∈ lines newline s, l ≠ [] := by
  constructor
  · intro h l hl hnil
    subst hnil
    have hlt := length_frames_skip_lt hshort hl
    rw [h, length_lines] at hlt
    exact Nat.lt_irrefl _ hlt
  · intro h
    induction s using lines_induction newline with
    | rest s hs => rw [lines_of_notMem hs, frames_of_notMem hs]
    | line l s hl ih =>
      rw [lines_line hl] at h hshort ⊢
      rw [frames_skip_line hl (h l List.mem_cons_self) (hshort l List.mem_cons_self),
        ih (fun k hk => hshort k (List.mem_cons_of_mem l hk))
          (fun k hk => h k (List.mem_cons_of_mem l hk))]

lemma Framer.frames_fresh_iff (hshort : ∀ l ∈ lines newline s, l.length < clientBufferSize) :
    fresh.frames s = lines newline s ↔ ∀ l ∈ (lines newline s).tail, l ≠ [] := by
  cases s using lines_induction newline with
  | rest s hs => simp [lines_of_notMem hs, frames_of_notMem hs]
  | line l s hl =>
    rw [lines_line hl] at hshort ⊢
    have hl' : fresh.pending.length + l.length < clientBufferSize := by
      have := hshort l List.mem_cons_self
      rw [fresh, List.length_nil]
      omega
    rw [frames_rest hl rfl hl', fresh, List.nil_append, List.cons.injEq, eq_self, true_and,
      List.tail_cons]
    exact frames_skip_iff (fun k hk => hshort k (List.mem_cons_of_mem l hk))

end Framing

/-! ### The code computes the frames -/

/-- The buffer holds what the reader keeps and the bytes still to look at. Right after a
packet the first of these bytes is already behind the parse position. -/
structure Client.Scanning (c : Client) (m : Framer) (todo : List UInt8) : Prop where
  bounded : c.bufferPtr ≤ clientBufferSize
  bytes : c.buffer.take c.bufferPtr = m.pending ++ todo
  position : if m.skipping then m.pending = [] ∧ c.bufferParsePtr = 1 else
    c.bufferParsePtr = m.pending.length

section Reading

variable {s : Connection} {c : Client} {m : Framer} {todo : List UInt8} {fuel i n : ℕ}

lemma clientCreate_scanning : clientCreate.Scanning Framer.fresh [] where
  bounded := Nat.zero_le _
  bytes := rfl
  position := rfl

lemma Client.Scanning.length (h : c.Scanning m todo) :
    m.pending.length + todo.length = c.bufferPtr := by
  have hbytes := congrArg List.length h.bytes
  rw [List.length_take, List.length_append, c.size_eq] at hbytes
  have hbounded := h.bounded
  omega

/-- The byte behind the parse position is one that the reader keeps. -/
lemma Client.Scanning.unskip {x : UInt8} (h : c.Scanning m (x :: todo))
    (hm : m.skipping = true) : c.Scanning (m.keep x) todo where
  bounded := h.bounded
  bytes := by rw [h.bytes, Framer.keep, List.append_assoc, List.singleton_append]
  position := by
    have hposition := h.position
    rw [if_pos hm] at hposition
    rw [Framer.keep, hposition.1]
    exact hposition.2

lemma Client.Scanning.at_position {x : UInt8} (h : c.Scanning m (x :: todo))
    (hm : m.skipping = false) : c.buffer[c.bufferParsePtr]? = some x := by
  have hposition := h.position
  have hlength := h.length
  rw [if_neg (Bool.eq_false_iff.mp hm)] at hposition
  rw [List.length_cons] at hlength
  have hlt : c.bufferParsePtr < c.bufferPtr := by omega
  rw [← List.getElem?_take_of_lt hlt, h.bytes, hposition,
    List.getElem?_append_right (Nat.le_refl _), Nat.sub_self]
  rfl

lemma Client.Scanning.advance {x : UInt8} (h : c.Scanning m (x :: todo))
    (hm : m.skipping = false) :
    Client.Scanning { c with bufferParsePtr := c.bufferParsePtr + 1 } (m.keep x) todo where
  bounded := h.bounded
  bytes := by
    show c.buffer.take c.bufferPtr = _
    rw [h.bytes, Framer.keep, List.append_assoc, List.singleton_append]
  position := by
    have hposition := h.position
    rw [if_neg (Bool.eq_false_iff.mp hm)] at hposition
    simp [Framer.keep, hposition]

lemma bufferAt_run {x : UInt8} (h : s.client.buffer[i]? = some x) :
    (bufferAt i).run s = .ok x s := by
  unfold bufferAt
  rw [run_bind_ok (EStateM.run_get s), h]
  rfl

lemma bufferWrite_run {bytes : List UInt8} (h : i + bytes.length ≤ clientBufferSize) :
    (bufferWrite i bytes).run s = .ok () { s with client := s.client.write i bytes h } := by
  unfold bufferWrite
  rw [run_bind_ok (EStateM.run_get s), dif_pos h]
  rfl

lemma Client.write_take {bytes : List UInt8} (h : i + bytes.length ≤ clientBufferSize) :
    (c.write i bytes h).buffer.take i = c.buffer.take i := by
  have hsize := c.size_eq
  show (c.buffer.take i ++ bytes ++ _).take i = _
  rw [List.append_assoc]
  apply List.take_left'
  rw [List.length_take]
  omega

lemma Client.write_take_add {bytes : List UInt8} (h : i + bytes.length ≤ clientBufferSize) :
    (c.write i bytes h).buffer.take (i + bytes.length) = c.buffer.take i ++ bytes := by
  have hsize := c.size_eq
  apply List.take_left'
  rw [List.length_append, List.length_take]
  omega

lemma Client.write_drop {bytes : List UInt8} (h : i + bytes.length ≤ clientBufferSize) :
    (c.write i bytes h).buffer.drop (i + bytes.length) = c.buffer.drop (i + bytes.length) := by
  have hsize := c.size_eq
  apply List.drop_left'
  rw [List.length_append, List.length_take]
  omega

/-- The text before the byte at the parse position, and the bytes after it. -/
lemma Client.Scanning.around {x : UInt8} (h : c.Scanning m (x :: todo))
    (hm : m.skipping = false) : c.buffer.take c.bufferParsePtr = m.pending ∧
      (c.buffer.drop (c.bufferParsePtr + 1)).take (c.bufferPtr - c.bufferParsePtr - 1) = todo := by
  have hposition := h.position
  have hlength := h.length
  rw [if_neg (Bool.eq_false_iff.mp hm)] at hposition
  rw [List.length_cons] at hlength
  constructor
  · have htake : c.buffer.take c.bufferParsePtr =
        (c.buffer.take c.bufferPtr).take c.bufferParsePtr := by
      rw [List.take_take, Nat.min_eq_left (by omega)]
    rw [htake, h.bytes]
    exact List.take_left' hposition.symm
  · rw [Nat.sub_sub, ← List.drop_take, h.bytes, List.append_cons]
    apply List.drop_left'
    rw [List.length_append, List.length_singleton, hposition]

lemma bufferShift_run (h : i + n ≤ clientBufferSize) :
    ∃ c, (bufferShift i n).run s = .ok () { s with client := c } ∧
      c.bufferPtr = s.client.bufferPtr ∧ c.bufferParsePtr = s.client.bufferParsePtr ∧
      c.buffer.take n = (s.client.buffer.drop i).take n := by
  have hsize := s.client.size_eq
  have hlength : ((s.client.buffer.drop i).take n).length = n := by
    rw [List.length_take, List.length_drop]
    omega
  have hroom : 0 + ((s.client.buffer.drop i).take n).length ≤ clientBufferSize := by omega
  refine ⟨s.client.write 0 _ hroom, ?_, rfl, rfl, ?_⟩
  · unfold bufferShift
    rw [run_bind_ok (EStateM.run_get s), if_pos h, bufferWrite_run hroom]
  · have htake := s.client.write_take_add hroom
    rw [hlength, Nat.zero_add] at htake
    rw [htake, List.take_zero, List.nil_append]

/-- A newline that is looked at hands over what the reader keeps and shifts the rest to the
start of the buffer. -/
lemma acceptLine_run (h : s.client.Scanning m (newline :: todo)) (hm : m.skipping = false) :
    ∃ c, acceptLine.run s = .ok () { s with client := c, accepted := s.accepted ++ [m.pending] } ∧
      c.bufferPtr = todo.length ∧ c.bufferParsePtr = 0 ∧ c.buffer.take todo.length = todo := by
  have hposition := h.position
  have hlength := h.length
  have hbounded := h.bounded
  rw [if_neg (Bool.eq_false_iff.mp hm)] at hposition
  rw [List.length_cons] at hlength
  have hroom : s.client.bufferParsePtr + [(0 : UInt8)].length ≤ clientBufferSize := by
    rw [List.length_singleton]
    omega
  have htext : (s.client.write _ [0] hroom).buffer.take s.client.bufferParsePtr = m.pending := by
    rw [Client.write_take, (h.around hm).1]
  have hrest := s.client.write_drop hroom
  rw [List.length_singleton] at hrest
  obtain ⟨c, hshift, -, -, hbytes⟩ := bufferShift_run
    (s := { s with
      client := s.client.write _ [0] hroom
      accepted := s.accepted ++ [m.pending] })
    (by omega : s.client.bufferParsePtr + 1 + (s.client.bufferPtr - s.client.bufferParsePtr - 1) ≤
      clientBufferSize)
  have htodo : s.client.bufferPtr - s.client.bufferParsePtr - 1 = todo.length := by omega
  refine ⟨{ c with bufferPtr := todo.length, bufferParsePtr := 0 }, ?_, rfl, rfl, ?_⟩
  · unfold acceptLine
    rw [run_bind_ok (EStateM.run_get s), run_bind_ok (bufferWrite_run hroom)]
    simp only [EStateM.run_bind, EStateM.run_modify, htext]
    rw [if_pos (by omega : s.client.bufferParsePtr < clientBufferSize)]
    simp only [EStateM.run_bind, hshift, setPtrs, EStateM.run_modify]
    rw [Nat.sub_add_eq, htodo]
  · show c.buffer.take todo.length = todo
    rw [← htodo, hbytes]
    exact (congrArg (List.take _) hrest).trans (h.around hm).2

lemma Client.Scanning.settle_frames {x : UInt8} (h : c.Scanning m (x :: todo))
    (hx : x ≠ newline ∨ m.skipping = true) (rest : List UInt8) :
    m.settle.frames (x :: todo ++ rest) = (m.keep x).settle.frames (todo ++ rest) := by
  have hlength := h.length
  have hbounded := h.bounded
  rw [List.length_cons] at hlength
  rw [Framer.settle_of_lt (by omega), List.cons_append, Framer.frames_keep hx]

lemma Client.Scanning.done (h : c.Scanning m []) : c.bufferPtr ≤ c.bufferParsePtr := by
  have hlength := h.length
  have hposition := h.position
  rw [List.length_nil] at hlength
  split at hposition
  · rw [hposition.1, List.length_nil] at hlength
    omega
  · omega

/-- When there is something to look at, the byte at the parse position is the next one. -/
lemma Client.Scanning.look (h : c.Scanning m todo) : ∃ m' todo', c.Scanning m' todo' ∧
    (todo' = [] ∨ m'.skipping = false) ∧ todo'.length ≤ todo.length ∧
    ∀ rest, m.settle.frames (todo ++ rest) = m'.settle.frames (todo' ++ rest) := by
  cases hm : m.skipping with
  | false => exact ⟨m, todo, h, Or.inr hm, Nat.le_refl _, fun _ => rfl⟩
  | true =>
    cases todo with
    | nil => exact ⟨m, [], h, Or.inl rfl, Nat.le_refl _, fun _ => rfl⟩
    | cons x todo =>
      exact ⟨m.keep x, todo, h.unskip hm, Or.inr rfl, Nat.le_succ _,
        h.settle_frames (Or.inr hm)⟩

lemma setPtrs_run (bufferPtr bufferParsePtr : ℕ) : (setPtrs bufferPtr bufferParsePtr).run s =
    .ok () { s with client := { s.client with bufferPtr, bufferParsePtr } } := rfl

/-- What the loop has handed over and what is still to come out make up the same texts before
and after it. -/
lemma parseBuffer_run (h : s.client.Scanning m todo) (hfuel : todo.length < fuel) :
    ∃ c accepted m', (parseBuffer fuel).run s = .ok () { s with client := c, accepted } ∧
      c.Scanning m' [] ∧ ∀ rest,
        accepted ++ m'.settle.frames rest = s.accepted ++ m.settle.frames (todo ++ rest) := by
  induction fuel generalizing s m todo with
  | zero => exact absurd hfuel (Nat.not_lt_zero _)
  | succ fuel ih =>
    obtain ⟨m, todo, h, hlook, hle, hframes⟩ := h.look
    simp only [hframes]
    cases todo with
    | nil =>
      refine ⟨s.client, s.accepted, m, ?_, h, fun rest => rfl⟩
      rw [parseBuffer, run_bind_ok (EStateM.run_get s), if_neg (Nat.not_lt.mpr h.done)]
      rfl
    | cons x todo =>
      have hm := hlook.resolve_left (List.cons_ne_nil x todo)
      have hlength := h.length
      have hposition := h.position
      have hbounded := h.bounded
      rw [if_neg (Bool.eq_false_iff.mp hm)] at hposition
      rw [List.length_cons] at hle hlength
      rw [parseBuffer, run_bind_ok (EStateM.run_get s),
        if_pos (by omega : s.client.bufferParsePtr < s.client.bufferPtr),
        run_bind_ok (bufferAt_run (h.at_position hm))]
      by_cases hx : x = newline
      · subst hx
        obtain ⟨c, haccept, hptr, hparse, hbytes⟩ := acceptLine_run h hm
        have hnext : Client.Scanning { c with bufferParsePtr := 1 } Framer.skip todo :=
          ⟨by rw [hptr]; omega, by rw [hptr]; exact hbytes, ⟨rfl, rfl⟩⟩
        obtain ⟨c', accepted, m', hrun, hc', hrest⟩ := ih
          (s := { s with
            client := { c with bufferParsePtr := 1 }
            accepted := s.accepted ++ [m.pending] }) hnext (by omega)
        refine ⟨c', accepted, m', ?_, hc', fun rest => ?_⟩
        · rw [if_pos rfl, run_bind_ok haccept]
          simp only [EStateM.run_bind, EStateM.run_get, setPtrs_run, hparse]
          exact hrun
        · rw [hrest rest, Framer.settle_of_lt (by omega : m.pending.length < clientBufferSize),
            List.cons_append, Framer.frames_newline hm, List.append_assoc]
          rfl
      · obtain ⟨c', accepted, m', hrun, hc', hrest⟩ := ih
          (s := { s with client := { s.client with bufferParsePtr := _ } }) (h.advance hm)
          (by omega)
        refine ⟨c', accepted, m', ?_, hc', fun rest => ?_⟩
        · rw [if_neg hx]
          simp only [EStateM.run_bind, EStateM.run_get, setPtrs_run]
          exact hrun
        · rw [hrest rest, h.settle_frames (Or.inl hx)]

/-- Between two reads: the reader is past all that has come in, and there is room. -/
structure Connection.Waiting (s : Connection) (m : Framer) : Prop where
  connected : s.connected = true
  nonempty : ∀ chunk ∈ s.incoming, chunk ≠ []
  scanning : s.client.Scanning m []
  room : m.pending.length < clientBufferSize

/-- The texts handed over so far and those still to come out. -/
def Connection.texts (s : Connection) (m : Framer) : List (List UInt8) :=
  s.accepted ++ m.frames s.incoming.flatten

lemma clientConnect_waiting {incoming : List (List UInt8)} (h : ∀ chunk ∈ incoming, chunk ≠ []) :
    (clientConnect incoming).Waiting Framer.fresh :=
  ⟨rfl, h, clientCreate_scanning, by decide⟩

lemma Client.Scanning.read {bytes : List UInt8} (h : c.Scanning m [])
    (hroom : c.bufferPtr + bytes.length ≤ clientBufferSize) :
    Client.Scanning { c.write c.bufferPtr bytes hroom with
      bufferPtr := c.bufferPtr + bytes.length } m bytes where
  bounded := hroom
  bytes := by
    have hbytes := h.bytes
    rw [List.append_nil] at hbytes
    exact (c.write_take_add hroom).trans (congrArg (· ++ bytes) hbytes)
  position := h.position

lemma read_run {chunk : List UInt8} {incoming : List (List UInt8)}
    (h : s.incoming = chunk :: incoming) (hroom : i + (chunk.take n).length ≤ clientBufferSize) :
    (read i n).run s = .ok (chunk.take n).length { s with
      client := s.client.write i (chunk.take n) hroom
      incoming := if chunk.drop n = [] then incoming else chunk.drop n :: incoming } := by
  unfold ZejfMeteo.read
  rw [run_bind_ok (EStateM.run_get s)]
  simp only [h]
  rw [EStateM.run_bind, EStateM.run_set]
  simp only
  rw [run_bind_ok (bufferWrite_run hroom)]
  rfl

/-- The positions start over when the buffer is full, and so does the reader. -/
lemma Client.Scanning.settle (h : c.Scanning m []) :
    Client.Scanning (if clientBufferSize ≤ c.bufferPtr then
      { c with bufferPtr := 0, bufferParsePtr := 0 } else c) m.settle [] := by
  have hlength := h.length
  rw [List.length_nil, Nat.add_zero] at hlength
  unfold Framer.settle
  rw [hlength]
  by_cases hfull : clientBufferSize ≤ c.bufferPtr
  · rw [if_pos hfull, if_neg (Nat.not_lt.mpr hfull)]
    exact ⟨Nat.zero_le _, rfl, rfl⟩
  · rw [if_neg hfull, if_pos (Nat.lt_of_not_le hfull)]
    exact h

lemma flatten_read {chunk : List UInt8} (incoming : List (List UInt8)) (n : ℕ) :
    chunk.take n ++ (if chunk.drop n = [] then incoming else chunk.drop n :: incoming).flatten =
      (chunk :: incoming).flatten := by
  rw [List.flatten_cons]
  split
  next h => rw [List.take_of_length_le (List.drop_eq_nil_iff.mp h)]
  next => rw [List.flatten_cons, ← List.append_assoc, List.take_append_drop]

/-- A read leaves less to read and nothing to look at, and no text is lost or made up, whatever
comes after. It goes on if it has filled the buffer. -/
lemma readStep_reads (h : s.Waiting m) (hincoming : s.incoming ≠ []) :
    ∃ go t m', readStep.run s = .ok go t ∧ t.Waiting m' ∧
      (∀ more, t.accepted ++ m'.frames (t.incoming.flatten ++ more) =
        s.accepted ++ m.frames (s.incoming.flatten ++ more)) ∧
      t.incoming.flatten.length < s.incoming.flatten.length ∧
      ∀ chunk, s.incoming = [chunk] → m.pending.length + chunk.length = clientBufferSize →
        go = true ∧ t.incoming = [] := by
  obtain ⟨chunk, incoming, hchunks⟩ := List.exists_cons_of_ne_nil hincoming
  have hlength := h.scanning.length
  have hroom := h.room
  rw [List.length_nil, Nat.add_zero] at hlength
  have hchunk : 0 < chunk.length :=
    List.length_pos_iff.mpr (h.nonempty chunk (hchunks ▸ List.mem_cons_self))
  set nBytes := clientBufferSize - s.client.bufferPtr with hn
  have htake : (chunk.take nBytes).length = min nBytes chunk.length := List.length_take
  have hpos : (chunk.take nBytes).length ≠ 0 := by omega
  have hfits : s.client.bufferPtr + (chunk.take nBytes).length ≤ clientBufferSize := by omega
  have hread := read_run hchunks hfits
  set rest := if chunk.drop nBytes = [] then incoming else chunk.drop nBytes :: incoming with hrest
  have hflatten : chunk.take nBytes ++ rest.flatten = s.incoming.flatten := by
    rw [hchunks, hrest, flatten_read]
  obtain ⟨c, accepted, m', hparse, hc, htexts⟩ := parseBuffer_run
    (s := { s with
      client := { s.client.write _ _ hfits with bufferPtr := _ }
      incoming := rest }) (h.scanning.read hfits)
    (by omega : (chunk.take nBytes).length < clientBufferSize + 1)
  refine ⟨(chunk.take nBytes).length == nBytes, { s with
    client := if clientBufferSize ≤ c.bufferPtr then
      { c with bufferPtr := 0, bufferParsePtr := 0 } else c
    incoming := rest
    accepted := accepted }, m'.settle, ?_, ⟨h.connected, ?_, hc.settle, m'.settle_pending_lt⟩,
    ?_, ?_, ?_⟩
  · unfold readStep
    rw [run_bind_ok (EStateM.run_get s)]
    simp only
    rw [run_bind_ok hread, if_neg hpos]
    refine (run_bind_ok (setPtrs_run _ _)).trans ((run_bind_ok hparse).trans ?_)
    rw [run_bind_ok (EStateM.run_get _)]
    by_cases hfull : clientBufferSize ≤ c.bufferPtr
    · rw [if_pos hfull, if_pos hfull]
      rfl
    · rw [if_neg hfull, if_neg hfull]
      rfl
  · intro k hk
    change k ∈ rest at hk
    rw [hrest] at hk
    split at hk
    · exact h.nonempty k (hchunks ▸ List.mem_cons_of_mem chunk hk)
    next hdrop =>
      rcases List.mem_cons.mp hk with rfl | hk
      · exact hdrop
      · exact h.nonempty k (hchunks ▸ List.mem_cons_of_mem chunk hk)
  · intro more
    have hsettle := htexts (rest.flatten ++ more)
    rw [Framer.settle_of_lt h.room, ← List.append_assoc, hflatten] at hsettle
    exact hsettle
  · show rest.flatten.length < s.incoming.flatten.length
    rw [← hflatten, List.length_append]
    omega
  · intro chunk' hone hfills
    obtain ⟨rfl, rfl⟩ := List.cons.inj (hchunks.symm.trans hone)
    have hdrop : chunk.drop nBytes = [] := List.drop_eq_nil_of_le (by omega)
    refine ⟨beq_iff_eq.mpr (by omega), ?_⟩
    show rest = []
    rw [hrest, if_pos hdrop]

/-- A read leaves less to read and nothing to look at, and no text is lost or made up. -/
lemma readStep_run (h : s.Waiting m) (hincoming : s.incoming ≠ []) :
    ∃ go t m', readStep.run s = .ok go t ∧ t.Waiting m' ∧ t.texts m' = s.texts m ∧
      t.incoming.flatten.length < s.incoming.flatten.length := by
  obtain ⟨go, t, m', hrun, ht, htexts, hlt, -⟩ := readStep_reads h hincoming
  have hsame := htexts []
  rw [List.append_nil, List.append_nil] at hsame
  exact ⟨go, t, m', hrun, ht, hsame, hlt⟩

lemma readClientAt_does (fuel : ℕ) : Does (readClientAt fuel) (readClient fuel) := by
  induction fuel with
  | zero => exact Does.fault _
  | succ fuel ih =>
    apply Does.bind
    intro s
    apply Does.ite (Does.pure _)
    apply Does.bind
    intro go
    exact Does.ite (Does.map _ ih) (Does.pure _)

lemma pollRunAt_does (fuel : ℕ) : Does (pollRunAt fuel) (pollRun fuel) := by
  induction fuel with
  | zero => exact Does.fault _
  | succ fuel ih =>
    apply Does.bind
    intro s
    apply Does.ite _ (Does.pure _)
    exact Does.seq (readClientAt_does _) (fun ptrs => Does.map _ ih)

lemma Connection.Waiting.bufferPtr_lt (h : s.Waiting m) : s.client.bufferPtr < clientBufferSize := by
  have hlength := h.scanning.length
  rw [List.length_nil, Nat.add_zero] at hlength
  rw [← hlength]
  exact h.room

lemma readClientAt_run (h : s.Waiting m) (hfuel : s.incoming.flatten.length < fuel) :
    ∃ ptrs t m', (readClientAt fuel).run s = .ok ptrs t ∧ (∀ p ∈ ptrs, p < clientBufferSize) ∧
      t.Waiting m' ∧ t.texts m' = s.texts m ∧
      t.incoming.flatten.length ≤ s.incoming.flatten.length ∧
      (s.incoming ≠ [] → t.incoming.flatten.length < s.incoming.flatten.length) := by
  induction fuel generalizing s m with
  | zero => exact absurd hfuel (Nat.not_lt_zero _)
  | succ fuel ih =>
    rw [readClientAt, run_bind_ok (EStateM.run_get s)]
    by_cases hincoming : s.incoming = []
    · rw [if_pos hincoming]
      exact ⟨[], s, m, rfl, by simp, h, rfl, Nat.le_refl _, fun hne => absurd hincoming hne⟩
    · obtain ⟨go, t, m', hstep, ht, htexts, hlt⟩ := readStep_run h hincoming
      have hptr := h.bufferPtr_lt
      rw [if_neg hincoming, run_bind_ok hstep]
      cases go with
      | false =>
        exact ⟨[s.client.bufferPtr], t, m', rfl, by simpa using hptr, ht, htexts, hlt.le,
          fun _ => hlt⟩
      | true =>
        obtain ⟨ptrs, u, m'', hrun, hptrs, hu, hutexts, hle, -⟩ := ih ht (by omega)
        refine ⟨s.client.bufferPtr :: ptrs, u, m'', run_bind_ok hrun, ?_, hu,
          hutexts.trans htexts, (hle.trans_lt hlt).le, fun _ => hle.trans_lt hlt⟩
        exact List.forall_mem_cons.mpr ⟨hptr, hptrs⟩

lemma pollRunAt_run (h : s.Waiting m) (hfuel : s.incoming.flatten.length < fuel) :
    ∃ ptrs t m', (pollRunAt fuel).run s = .ok ptrs t ∧ (∀ p ∈ ptrs, p < clientBufferSize) ∧
      t.Waiting m' ∧ t.texts m' = s.texts m ∧ t.incoming = [] := by
  induction fuel generalizing s m with
  | zero => exact absurd hfuel (Nat.not_lt_zero _)
  | succ fuel ih =>
    rw [pollRunAt, run_bind_ok (EStateM.run_get s)]
    by_cases hincoming : s.incoming = []
    · rw [if_neg (fun hgo => hgo.2 hincoming)]
      exact ⟨[], s, m, rfl, by simp, h, rfl, hincoming⟩
    · obtain ⟨ptrs, t, m', hread, hptrs, ht, htexts, -, hlt⟩ := readClientAt_run h hfuel
      obtain ⟨ptrs', u, m'', hrun, hptrs', hu, hutexts, hnil⟩ :=
        ih ht (by have := hlt hincoming; omega)
      rw [if_pos ⟨h.connected, hincoming⟩, run_bind_ok hread]
      refine ⟨ptrs ++ ptrs', u, m'', run_bind_ok hrun, ?_, hu, hutexts.trans htexts, hnil⟩
      exact List.forall_mem_append.mpr ⟨hptrs, hptrs'⟩

lemma Connection.Waiting.positions (h : s.Waiting m) :
    s.client.bufferPtr ≤ clientBufferSize ∧ s.client.bufferParsePtr ≤ clientBufferSize := by
  have hposition := h.scanning.position
  have hroom := h.room
  refine ⟨h.scanning.bounded, ?_⟩
  split at hposition
  · rw [hposition.2]
    decide
  · omega

end Reading

/-- The reader reads all that the client sends, hands over these texts, and there is room in the
buffer whenever it reads. -/
def HandsOver (incoming texts : List (List UInt8)) : Prop :=
  ∃ s, (pollRun (incoming.flatten.length + 1)).run (clientConnect incoming) = .ok () s ∧
    s.incoming = [] ∧ s.accepted = texts ∧
    ∃ ptrs, (pollRunAt (incoming.flatten.length + 1)).run (clientConnect incoming) = .ok ptrs s ∧
      ∀ p ∈ ptrs, p < clientBufferSize

/-- However the bytes are cut, the reader reads them all, hands over the frames of the stream and
stays in its buffer. -/
lemma pollRunAt_frames {incoming : List (List UInt8)} (h : ∀ chunk ∈ incoming, chunk ≠ []) :
    ∃ ptrs s, (pollRunAt (incoming.flatten.length + 1)).run (clientConnect incoming) = .ok ptrs s ∧
      (∀ p ∈ ptrs, p < clientBufferSize) ∧ s.incoming = [] ∧
      s.accepted = Framer.fresh.frames incoming.flatten ∧
      s.client.bufferPtr ≤ clientBufferSize ∧ s.client.bufferParsePtr ≤ clientBufferSize := by
  obtain ⟨ptrs, s, m, hrun, hptrs, hs, htexts, hnil⟩ := pollRunAt_run (clientConnect_waiting h)
    (Nat.lt_succ_self (clientConnect incoming).incoming.flatten.length)
  rw [Connection.texts, hnil, List.flatten_nil, Framer.frames, List.append_nil] at htexts
  exact ⟨ptrs, s, hrun, hptrs, hnil, htexts, hs.positions⟩

lemma handsOver_frames {incoming : List (List UInt8)} (h : ∀ chunk ∈ incoming, chunk ≠ []) :
    HandsOver incoming (Framer.fresh.frames incoming.flatten) := by
  obtain ⟨ptrs, s, hrun, hptrs, hnil, haccepted, -⟩ := pollRunAt_frames h
  exact ⟨s, (pollRunAt_does _).run_ok hrun, hnil, haccepted, ptrs, hrun, hptrs⟩

/-- However the bytes are cut, the reader hands over the frames of the stream and stays in its
buffer. -/
theorem pollRun_accepts {incoming : List (List UInt8)} (h : ∀ chunk ∈ incoming, chunk ≠ []) :
    ∃ s, (pollRun (incoming.flatten.length + 1)).run (clientConnect incoming) = .ok () s ∧
      s.accepted = Framer.fresh.frames incoming.flatten ∧
      s.client.bufferPtr ≤ clientBufferSize ∧ s.client.bufferParsePtr ≤ clientBufferSize := by
  obtain ⟨ptrs, s, hrun, -, -, haccepted, hpositions⟩ := pollRunAt_frames h
  exact ⟨s, (pollRunAt_does _).run_ok hrun, haccepted, hpositions⟩

/-- **The way in which a stream is cut does not matter.** -/
theorem handsOver_same {incoming incoming' : List (List UInt8)}
    (h : ∀ chunk ∈ incoming, chunk ≠ []) (h' : ∀ chunk ∈ incoming', chunk ≠ [])
    (hsame : incoming.flatten = incoming'.flatten) :
    ∃ texts, HandsOver incoming texts ∧ HandsOver incoming' texts := by
  refine ⟨Framer.fresh.frames incoming.flatten, handsOver_frames h, ?_⟩
  rw [hsame]
  exact handsOver_frames h'

/-- An empty line that is cut off and one that is not. -/
theorem handsOver_emptyLine :
    ∃ texts, HandsOver [[97, 10], [10, 98, 10]] texts ∧ HandsOver [[97, 10, 10, 98, 10]] texts :=
  handsOver_same (by decide) (by decide) rfl

lemma acceptsLines_iff_frames {incoming : List (List UInt8)} (h : ∀ chunk ∈ incoming, chunk ≠ []) :
    AcceptsLines incoming ↔
      Framer.fresh.frames incoming.flatten = lines newline incoming.flatten := by
  obtain ⟨s, hrun, haccepted, hptr, hparse⟩ := pollRun_accepts h
  rw [← haccepted]
  constructor
  · rintro ⟨t, hrun', hlines, -⟩
    rw [hrun] at hrun'
    cases hrun'
    exact hlines
  · intro hlines
    exact ⟨s, hrun, hlines, hptr, hparse⟩

/-- The reader frames by newline unless a line after the first one is empty. -/
theorem acceptsLines_iff (incoming : List (List UInt8)) (h : ∀ chunk ∈ incoming, chunk ≠ [])
    (hshort : ∀ l ∈ lines newline incoming.flatten, l.length < clientBufferSize) :
    AcceptsLines incoming ↔ ∀ l ∈ (lines newline incoming.flatten).tail, l ≠ [] :=
  (acceptsLines_iff_frames h).trans (Framer.frames_fresh_iff hshort)

/-- An empty line, then two lines in three pieces. -/
theorem acceptsLines_threePieces :
    AcceptsLines [[10, 97], [98, 10, 99], [10]] ∧
      ∀ l ∈ (lines newline [10, 97, 98, 10, 99, 10]).tail, l ≠ [] := by
  have hl : ∀ l ∈ (lines newline [10, 97, 98, 10, 99, 10]).tail, l ≠ [] := by decide
  exact ⟨(acceptsLines_iff [[10, 97], [98, 10, 99], [10]] (by decide) (by decide)).mpr hl, hl⟩

/-- The empty line in `a\n\nb\n` is not a line of its own: the second text is `\nb`. -/
theorem not_acceptsLines : ¬ ∀ incoming : List (List UInt8), (∀ chunk ∈ incoming, chunk ≠ []) →
    (∀ l ∈ lines newline incoming.flatten, l.length < clientBufferSize) →
      AcceptsLines incoming := by
  intro h
  have haccepts := h [[97, 10, 10, 98, 10]] (by decide) (by decide)
  rw [acceptsLines_iff_frames (by decide)] at haccepts
  exact absurd haccepts (by decide)

end ZejfMeteo
