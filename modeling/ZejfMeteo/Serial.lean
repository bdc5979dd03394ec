import ZejfMeteo.Lib.Lines
import ZejfMeteo.Relay
import Mathlib.Data.List.ReduceOption

/-!
# The serial link

The server and the pressure sensor talk over a serial line: the sensor writes a packet and
CR LF, which `run_reader` of `serial.c` reads, and the server writes a packet and LF, which
`check_input` of `zejf_press.cpp` reads.

The four buffers on the way have four sizes, and the smallest one is that of `check_input`.
-/

namespace ZejfMeteo.Serial
open Runs Lines Format

/-! ### The reader of the server -/

/-- `BUFFER_SIZE`. -/
def bufferSize : ℕ := 1024

/-- `LINE_BUFFER_SIZE`. -/
def lineBufferSize : ℕ := 128

/-- What one `read` of the port has put into the buffer. -/
structure PortRead where
  bytes : List UInt8
  size_le : bytes.length ≤ bufferSize

/-- The variables of `run_reader`, and the texts that have been passed to `network_accept`
with the lengths that came with them. -/
structure Reader where
  lineBuffer : List UInt8
  lineBufferPtr : ℤ
  accepted : List (List UInt8 × ℤ)
  size_eq : lineBuffer.length = lineBufferSize

/-- `line_buffer[i] = c`. -/
def setChar (i : ℤ) (c : UInt8) : Run Reader Unit := do
  let s ← get
  if 0 ≤ i ∧ i < lineBufferSize then
    set { s with
      lineBuffer := s.lineBuffer.set i.toNat c
      size_eq := by rw [List.length_set, s.size_eq] }
  else
    throw .outOfBounds

def setPtr (i : ℤ) : Run Reader Unit := modify (fun s => { s with lineBufferPtr := i })

/-- `network_accept` of what the line buffer holds. -/
def acceptLine (length : ℤ) : Run Reader Unit :=
  modify (fun s => { s with accepted := s.accepted ++ [(cText s.lineBuffer, length)] })

/-- The body of the loop over the bytes of a read. -/
def readByte (c : UInt8) : Run Reader Unit := do
  let ptr := (← get).lineBufferPtr
  setChar ptr c
  if c = newline then
    setChar (ptr - 1) 0
    if (← get).lineBuffer.head? = some openBrace then
      acceptLine (ptr - 1)
    setPtr 0
  else
    setPtr (if ptr + 1 = lineBufferSize - 1 then 0 else ptr + 1)

def readBytes : List UInt8 → Run Reader Unit
  | [] => return
  | c :: cs => do
    readByte c
    readBytes cs

/-- The loop of `run_reader`, for as long as the port is there. -/
def runReader : List PortRead → Run Reader Unit
  | [] => return
  | r :: rs => do
    readBytes r.bytes
    runReader rs

def readerStart : Reader where
  lineBuffer := List.replicate lineBufferSize 0
  lineBufferPtr := 0
  accepted := []
  size_eq := List.length_replicate

/-- All that has been read. -/
def received (rs : List PortRead) : List UInt8 := rs.flatMap PortRead.bytes

/-- The reader stays in its line buffer and passes no negative length on. -/
def StaysInBuffer (rs : List PortRead) : Prop :=
  ∃ s, (runReader rs).run readerStart = .ok () s ∧ ∀ x ∈ s.accepted, 0 ≤ x.2

section Reading

variable {s : Reader} {n : ℕ} {c : UInt8} {l cs : List UInt8}

lemma runReader_eq (rs : List PortRead) : runReader rs = readBytes (received rs) := by
  have happend : ∀ cs ds, readBytes (cs ++ ds) = (do
      readBytes cs
      readBytes ds) := by
    intro cs ds
    induction cs with
    | nil => rfl
    | cons c cs ih => rw [List.cons_append, readBytes, readBytes, ih, bind_assoc]
  induction rs with
  | nil => rfl
  | cons r rs ih =>
    rw [runReader, ih]
    unfold received
    rw [List.flatMap_cons, happend]

lemma setChar_run (hn : n < lineBufferSize) : (setChar n c).run s = .ok () { s with
    lineBuffer := s.lineBuffer.set n c
    size_eq := by rw [List.length_set, s.size_eq] } := by
  unfold setChar
  rw [run_bind_ok (EStateM.run_get s), if_pos ⟨Int.natCast_nonneg n, by exact_mod_cast hn⟩]
  rfl

/-- A byte of a line is stored. -/
lemma readByte_char (hptr : s.lineBufferPtr = n) (hn : n < lineBufferSize - 1)
    (hc : c ≠ newline) : ∃ t, (readByte c).run s = .ok () t ∧
      t.lineBuffer = s.lineBuffer.set n c ∧
      t.lineBufferPtr = ((n + 1) % (lineBufferSize - 1) : ℕ) ∧ t.accepted = s.accepted := by
  have hwrap : (if (n : ℤ) + 1 = lineBufferSize - 1 then (0 : ℤ) else n + 1) =
      ((n + 1) % (lineBufferSize - 1) : ℕ) := by
    unfold lineBufferSize at hn ⊢
    split
    · have hlast : n + 1 = 127 := by omega
      rw [hlast]
      rfl
    · rw [Nat.mod_eq_of_lt (by omega)]
      rfl
  unfold readByte
  rw [run_bind_ok (EStateM.run_get s), hptr, run_bind_ok (setChar_run (by omega)), if_neg hc,
    hwrap]
  exact ⟨_, rfl, rfl, rfl, rfl⟩

/-- A newline ends a line that has begun. -/
lemma readByte_newline (hptr : s.lineBufferPtr = (n + 1 : ℕ)) (hn : n + 1 < lineBufferSize) :
    ∃ t, (readByte newline).run s = .ok () t ∧ t.lineBufferPtr = 0 ∧
      t.accepted = s.accepted ++
        if ((s.lineBuffer.set (n + 1) newline).set n 0).head? = some openBrace then
          [(cText ((s.lineBuffer.set (n + 1) newline).set n 0), (n : ℤ))]
        else [] := by
  have hpred : ((n + 1 : ℕ) : ℤ) - 1 = n := by omega
  unfold readByte
  rw [run_bind_ok (EStateM.run_get s), hptr, run_bind_ok (setChar_run hn), if_pos rfl, hpred,
    run_bind_ok (setChar_run (by omega)), run_bind_ok (EStateM.run_get _)]
  by_cases hopen : ((s.lineBuffer.set (n + 1) newline).set n 0).head? = some openBrace
  · rw [if_pos hopen, if_pos hopen]
    exact ⟨_, rfl, rfl, rfl⟩
  · rw [if_neg hopen, if_neg hopen]
    exact ⟨_, rfl, rfl, (List.append_nil _).symm⟩

/-- A newline where no line has begun is written in front of the buffer. -/
lemma readByte_fault (hptr : s.lineBufferPtr = 0) :
    ∃ t, (readByte newline).run s = .error .outOfBounds t := by
  have hset := setChar_run (s := s) (n := 0) (c := newline) (by decide)
  unfold readByte
  rw [run_bind_ok (EStateM.run_get s), hptr]
  exact ⟨_, run_bind_ok hset⟩

/-- What holds between two bytes. -/
structure Reader.Between (s : Reader) (n : ℕ) : Prop where
  ptr : s.lineBufferPtr = n
  lt : n < lineBufferSize - 1
  lengths : ∀ x ∈ s.accepted, 0 ≤ x.2 ∧ x.2 < lineBufferSize - 2

lemma readerStart_between : readerStart.Between 0 where
  ptr := rfl
  lt := by decide
  lengths := by simp [readerStart]

/-- The position after a line without its newline. -/
lemma readBytes_line (hs : s.Between n) (hl : newline ∉ l) (cs : List UInt8) :
    ∃ t, (readBytes (l ++ cs)).run s = (readBytes cs).run t ∧
      t.Between ((n + l.length) % (lineBufferSize - 1)) ∧ t.accepted = s.accepted := by
  induction l generalizing s n with
  | nil =>
    refine ⟨s, rfl, ?_, rfl⟩
    rw [List.length_nil, Nat.add_zero, Nat.mod_eq_of_lt hs.lt]
    exact hs
  | cons c l ih =>
    obtain ⟨t, hrun, -, hptr, haccepted⟩ :=
      readByte_char hs.ptr hs.lt (List.ne_of_not_mem_cons hl).symm
    have ht : t.Between ((n + 1) % (lineBufferSize - 1)) :=
      ⟨hptr, Nat.mod_lt _ (by decide), haccepted ▸ hs.lengths⟩
    obtain ⟨u, hrest, hu, hsame⟩ := ih ht (List.not_mem_of_not_mem_cons hl)
    refine ⟨u, ?_, ?_, hsame.trans haccepted⟩
    · rw [List.cons_append, readBytes, run_bind_ok hrun, hrest]
    · rw [Nat.mod_add_mod, Nat.add_assoc, Nat.add_comm 1] at hu
      exact hu

/-- Whatever ends a line that has begun leaves the reader in order. -/
lemma readByte_between (hs : s.Between (n + 1)) :
    ∃ t, (readByte newline).run s = .ok () t ∧ t.Between 0 := by
  have hlt := hs.lt
  obtain ⟨t, hrun, hptr, haccepted⟩ := readByte_newline hs.ptr (by omega)
  refine ⟨t, hrun, hptr, by decide, ?_⟩
  intro x hx
  rw [haccepted, List.mem_append] at hx
  rcases hx with hold | hnew
  · exact hs.lengths x hold
  · split at hnew
    · rw [List.mem_singleton.mp hnew]
      unfold lineBufferSize at hlt ⊢
      constructor
      · exact Int.natCast_nonneg n
      · show (n : ℤ) < _
        omega
    · cases hnew

/-- From the start of a line on, the reader gets through a stream if no line fills the buffer
a whole number of times. -/
lemma readBytes_lines (hs : s.Between 0)
    (h : ∀ l ∈ lines newline cs, l.length % (lineBufferSize - 1) ≠ 0) :
    ∃ t n, (readBytes cs).run s = .ok () t ∧ t.Between n := by
  induction cs using lines_induction newline generalizing s with
  | rest cs hcs =>
    obtain ⟨t, hrun, ht, -⟩ := readBytes_line hs hcs []
    rw [List.append_nil] at hrun
    exact ⟨t, _, hrun, ht⟩
  | line l cs hl ih =>
    rw [lines_line hl] at h
    obtain ⟨t, hrun, ht, -⟩ := readBytes_line hs hl (newline :: cs)
    rw [Nat.zero_add] at ht
    obtain ⟨k, hk⟩ := Nat.exists_eq_succ_of_ne_zero (h l List.mem_cons_self)
    rw [hk] at ht
    obtain ⟨u, hend, hu⟩ := readByte_between ht
    obtain ⟨v, m, hrest, hv⟩ := ih hu (fun l' hl' => h l' (List.mem_cons_of_mem l hl'))
    refine ⟨v, m, ?_, hv⟩
    rw [hrun, readBytes, run_bind_ok hend, hrest]

/-- Otherwise it leaves its buffer. -/
lemma readBytes_fault (hs : s.Between 0)
    (h : ∃ l ∈ lines newline cs, l.length % (lineBufferSize - 1) = 0) :
    ∃ t, (readBytes cs).run s = .error .outOfBounds t := by
  induction cs using lines_induction newline generalizing s with
  | rest cs hcs =>
    rw [lines_of_notMem hcs] at h
    obtain ⟨l, hl, -⟩ := h
    cases hl
  | line l cs hl ih =>
    rw [lines_line hl] at h
    obtain ⟨t, hrun, ht, -⟩ := readBytes_line hs hl (newline :: cs)
    rw [Nat.zero_add] at ht
    rw [hrun, readBytes]
    by_cases hfull : l.length % (lineBufferSize - 1) = 0
    · rw [hfull] at ht
      obtain ⟨u, hfault⟩ := readByte_fault ht.ptr
      exact ⟨u, run_bind_error hfault⟩
    · obtain ⟨k, hk⟩ := Nat.exists_eq_succ_of_ne_zero hfull
      rw [hk] at ht
      obtain ⟨u, hend, hu⟩ := readByte_between ht
      obtain ⟨l', hl', hlen⟩ := h
      have hlater : l' ∈ lines newline cs := by
        rcases List.mem_cons.mp hl' with rfl | hlater
        · exact absurd hlen hfull
        · exact hlater
      obtain ⟨v, hfault⟩ := ih hu ⟨l', hlater, hlen⟩
      exact ⟨v, (run_bind_ok hend).trans hfault⟩

end Reading

/-- **When the reader stays in its line buffer.** Its position starts over after every 127
bytes of a line, and a newline must not come where it has just started over. -/
theorem staysInBuffer_iff (rs : List PortRead) : StaysInBuffer rs ↔
    ∀ l ∈ lines newline (received rs), l.length % (lineBufferSize - 1) ≠ 0 := by
  unfold StaysInBuffer
  rw [runReader_eq]
  constructor
  · rintro ⟨s, hrun, -⟩ l hl hfull
    obtain ⟨t, hfault⟩ := readBytes_fault readerStart_between ⟨l, hl, hfull⟩
    rw [hrun] at hfault
    cases hfault
  · intro h
    obtain ⟨t, n, hrun, ht⟩ := readBytes_lines readerStart_between h
    exact ⟨t, hrun, fun x hx => (ht.lengths x hx).1⟩

/-- An empty line. -/
def emptyLine : PortRead := ⟨[newline], by decide⟩

theorem emptyLine_not_staysInBuffer : ¬∀ rs, StaysInBuffer rs := by
  intro h
  obtain ⟨s, hrun, -⟩ := h [emptyLine]
  rw [runReader_eq] at hrun
  have hline : ∃ l ∈ lines newline (received [emptyLine]), l.length % (lineBufferSize - 1) = 0 :=
    ⟨[], by decide, rfl⟩
  obtain ⟨t, hfault⟩ := readBytes_fault readerStart_between hline
  rw [hrun] at hfault
  cases hfault

/-! ### The reader of the sensor -/

/-- The size that `check_input` is called with. -/
def commandBuffSize : ℕ := 64

/-- The buffer and the position that `check_input` works on, and the texts that have been
passed to `network_accept` with their lengths. -/
structure Console where
  buff : List UInt8
  pos : ℕ
  accepted : List (List UInt8 × ℕ)
  size_eq : buff.length = commandBuffSize

/-- `buff[i] = c`. -/
def setBuff (i : ℕ) (c : UInt8) : Run Console Unit := do
  let s ← get
  if i < commandBuffSize then
    set { s with
      buff := s.buff.set i c
      size_eq := by rw [List.length_set, s.size_eq] }
  else
    throw .outOfBounds

/-- `check_input`, which is given what `getchar_timeout_us` is going to return (`none` is
`PICO_ERROR_TIMEOUT`) and returns what it has not asked for. -/
def checkInput : List (Option UInt8) → Run Console (List (Option UInt8))
  | [] => return []
  | none :: input => return input
  | some ch :: input => do
    let pos := (← get).pos
    if ch = newline then
      setBuff pos 0
      modify (fun s => { s with accepted := s.accepted ++ [(cText s.buff, pos)], pos := 0 })
      return input
    setBuff pos ch
    modify (fun s => { s with pos := (pos + 1) % commandBuffSize })
    checkInput input

/-- The main loop of the sensor, which calls `check_input` in every round. -/
def mainLoop : ℕ → List (Option UInt8) → Run Console Unit
  | 0, _ => throw .outOfFuel
  | fuel + 1, input => do
    if input ≠ [] then
      let input ← checkInput input
      mainLoop fuel input

/-! ### The link -/

def carriageReturn : UInt8 := 0x0D

/-- What `network_send_via` of the sensor prints; the newline goes out as CR LF. -/
def sensorSendVia (msg : List UInt8) : List UInt8 :=
  print [.str msg, .lit carriageReturn, .lit newline]

/-- The text that the server sends over its open serial line reaches the network of the sensor,
in whatever pieces it comes. -/
def ReachesSensor (msg : List UInt8) : Prop :=
  ∀ (interface : Interface) (time : UInt32) (d : Descriptors) (bytes : List UInt8)
    (input : List (Option UInt8)) (s : Console),
    interface.type = .usb → interface.closed = false →
      (serverSendVia Settings.zejfMeteo.packetMaxLength msg interface time d).2.written =
        d.written ++ [(interface.handle, bytes)] →
      input.reduceOption = bytes → s.pos = 0 →
        ∃ t, (mainLoop (input.length + 1) input).run s = .ok () t ∧
          t.accepted = s.accepted ++ [(msg, msg.length)]

/-- The text that the sensor sends reaches the network of the server, in whatever pieces it is
read. -/
def ReachesServer (msg : List UInt8) : Prop :=
  ∀ (rs : List PortRead) (s : Reader), received rs = sensorSendVia msg → s.lineBufferPtr = 0 →
    ∃ t, (runReader rs).run s = .ok () t ∧
      t.accepted = s.accepted ++ [(msg, (msg.length : ℤ))]

/-- The link carries the text both ways. -/
def Carries (msg : List UInt8) : Prop := ReachesSensor msg ∧ ReachesServer msg

section Link

variable {c : UInt8} {l cs m : List UInt8} {n : ℕ}

/-- Storing the next byte of a text. -/
lemma take_set {buff : List UInt8} (h : buff.take l.length = l) (hlt : l.length < buff.length) :
    (buff.set l.length c).take (l ++ [c]).length = l ++ [c] := by
  rw [List.set_eq_take_append_cons_drop, if_pos hlt, h,
    List.append_cons l c (buff.drop (l.length + 1))]
  exact List.take_left' rfl

/-- A NUL behind a text ends it. -/
lemma cText_set {buff : List UInt8} (h : buff.take m.length = m) (hlt : m.length < buff.length)
    (hm : 0 ∉ m) : cText (buff.set m.length 0) = m := by
  rw [List.set_eq_take_append_cons_drop, if_pos hlt, h]
  refine (takeWhile_append_stop ?_ ?_).1
  · intro d hd
    rw [decide_eq_true_eq]
    rintro rfl
    exact hm hd
  · simp

/-! ### To the sensor -/

/-- What the sensor does with a byte. -/
def consoleByte (ch : UInt8) : Run Console Unit := do
  let pos := (← get).pos
  if ch = newline then
    setBuff pos 0
    modify (fun s => { s with accepted := s.accepted ++ [(cText s.buff, pos)], pos := 0 })
  else
    setBuff pos ch
    modify (fun s => { s with pos := (pos + 1) % commandBuffSize })

def consoleBytes : List UInt8 → Run Console Unit
  | [] => return
  | c :: cs => do
    consoleByte c
    consoleBytes cs

/-- The rounds of the main loop and the timeouts do not matter. -/
lemma checkInput_mainLoop (input : List (Option UInt8)) {fuel : ℕ} (hlen : input.length ≤ fuel)
    (hfuel : 0 < fuel) : (do
      let input ← checkInput input
      mainLoop fuel input) = consoleBytes input.reduceOption := by
  induction input generalizing fuel with
  | nil =>
    obtain ⟨fuel, rfl⟩ := Nat.exists_eq_succ_of_ne_zero (Nat.ne_of_gt hfuel)
    rfl
  | cons o input ih =>
    rw [List.length_cons] at hlen
    obtain ⟨fuel, rfl⟩ := Nat.exists_eq_succ_of_ne_zero (Nat.ne_of_gt hfuel)
    have hnext : mainLoop (fuel + 1) input = consoleBytes input.reduceOption := by
      rw [mainLoop]
      by_cases hnil : input = []
      · rw [hnil]
        rfl
      · have hpos := List.length_pos_iff.mpr hnil
        rw [if_pos hnil, ih (by omega) (by omega)]
    cases o with
    | none =>
      rw [List.reduceOption_cons_of_none, ← hnext, checkInput, pure_bind]
    | some ch =>
      rw [List.reduceOption_cons_of_some, consoleBytes, checkInput, consoleByte]
      simp only [bind_assoc]
      refine congrArg _ (funext fun s => ?_)
      by_cases hch : ch = newline
      · simp only [hch, if_true, bind_assoc, pure_bind, hnext]
      · simp only [hch, if_false, bind_assoc, ih (by omega) hfuel]

lemma mainLoop_eq (input : List (Option UInt8)) :
    mainLoop (input.length + 1) input = consoleBytes input.reduceOption := by
  rw [mainLoop]
  by_cases hnil : input = []
  · rw [hnil]
    rfl
  · rw [if_pos hnil]
    exact checkInput_mainLoop input (Nat.le_refl _) (List.length_pos_iff.mpr hnil)

/-- The console has `l` of a line. -/
structure Console.Gathering (s : Console) (l : List UInt8) : Prop where
  pos : s.pos = l.length
  bytes : s.buff.take l.length = l

lemma setBuff_run {s : Console} (hn : n < commandBuffSize) : (setBuff n c).run s = .ok () { s with
    buff := s.buff.set n c
    size_eq := by rw [List.length_set, s.size_eq] } := by
  unfold setBuff
  rw [run_bind_ok (EStateM.run_get s), if_pos hn]
  rfl

lemma consoleByte_char {s : Console} (hs : s.Gathering l) (hc : c ≠ newline)
    (hlen : l.length + 1 < commandBuffSize) : ∃ t, (consoleByte c).run s = .ok () t ∧
      t.Gathering (l ++ [c]) ∧ t.accepted = s.accepted := by
  have hsize := s.size_eq
  unfold consoleByte
  rw [run_bind_ok (EStateM.run_get s), if_neg hc, hs.pos, run_bind_ok (setBuff_run (by omega))]
  refine ⟨_, rfl, ⟨?_, take_set hs.bytes (by omega)⟩, rfl⟩
  show (l.length + 1) % commandBuffSize = _
  rw [Nat.mod_eq_of_lt hlen, List.length_append, List.length_singleton]

lemma consoleByte_newline {s : Console} (hs : s.Gathering l) (hl : 0 ∉ l)
    (hlen : l.length < commandBuffSize) : ∃ t, (consoleByte newline).run s = .ok () t ∧
      t.accepted = s.accepted ++ [(l, l.length)] := by
  have hsize := s.size_eq
  have htext := cText_set hs.bytes (by omega) hl
  unfold consoleByte
  rw [run_bind_ok (EStateM.run_get s), if_pos rfl, hs.pos, run_bind_ok (setBuff_run hlen)]
  refine ⟨_, rfl, ?_⟩
  show _ ++ [(cText (s.buff.set l.length 0), l.length)] = _
  rw [htext]

lemma consoleBytes_text {s : Console} (hs : s.Gathering l) (hm : newline ∉ m)
    (hlen : l.length + m.length < commandBuffSize) (cs : List UInt8) :
    ∃ t, (consoleBytes (m ++ cs)).run s = (consoleBytes cs).run t ∧ t.Gathering (l ++ m) ∧
      t.accepted = s.accepted := by
  induction m generalizing s l with
  | nil =>
    rw [List.append_nil]
    exact ⟨s, rfl, hs, rfl⟩
  | cons c m ih =>
    rw [List.length_cons] at hlen
    obtain ⟨t, hrun, ht, haccepted⟩ :=
      consoleByte_char hs (List.ne_of_not_mem_cons hm).symm (by omega)
    obtain ⟨u, hrest, hu, hsame⟩ := ih ht (List.not_mem_of_not_mem_cons hm)
      (by rw [List.length_append, List.length_singleton]; omega)
    rw [List.append_assoc, List.singleton_append] at hu
    refine ⟨u, ?_, hu, hsame.trans haccepted⟩
    rw [List.cons_append, consoleBytes, run_bind_ok hrun, hrest]

lemma consoleByte_lengths {s : Console} (hs : s.pos < commandBuffSize) (c : UInt8) :
    ∃ t new, (consoleByte c).run s = .ok () t ∧ t.pos < commandBuffSize ∧
      t.accepted = s.accepted ++ new ∧ ∀ x ∈ new, x.2 < commandBuffSize := by
  unfold consoleByte
  rw [run_bind_ok (EStateM.run_get s)]
  by_cases hc : c = newline
  · rw [if_pos hc, run_bind_ok (setBuff_run hs)]
    refine ⟨_, [(cText (s.buff.set s.pos 0), s.pos)], rfl, ?_, rfl, ?_⟩
    · show 0 < commandBuffSize
      decide
    · intro x hx
      rw [List.mem_singleton.mp hx]
      exact hs
  · rw [if_neg hc, run_bind_ok (setBuff_run hs)]
    exact ⟨_, [], rfl, Nat.mod_lt _ (by decide), (List.append_nil _).symm, by simp⟩

/-- No text that is handed over is as long as the buffer. -/
lemma consoleBytes_lengths {s : Console} (hs : s.pos < commandBuffSize) (cs : List UInt8) :
    ∃ t new, (consoleBytes cs).run s = .ok () t ∧ t.accepted = s.accepted ++ new ∧
      ∀ x ∈ new, x.2 < commandBuffSize := by
  induction cs generalizing s with
  | nil => exact ⟨s, [], rfl, (List.append_nil _).symm, by simp⟩
  | cons c cs ih =>
    obtain ⟨t, new, hrun, ht, haccepted, hnew⟩ := consoleByte_lengths hs c
    obtain ⟨u, more, hrest, hsame, hmore⟩ := ih ht
    refine ⟨u, new ++ more, (run_bind_ok hrun).trans hrest, ?_, ?_⟩
    · rw [hsame, haccepted, List.append_assoc]
    · exact List.forall_mem_append.mpr ⟨hnew, hmore⟩

lemma serverSendVia_written {interface : Interface} (h : interface.closed = false) (time : UInt32)
    (d : Descriptors) {maxLength : ℕ} :
    (serverSendVia maxLength m interface time d).2.written =
      d.written ++ [(interface.handle, snprintf maxLength [.str m, .lit newline])] := by
  unfold serverSendVia
  rw [if_neg (by simp [h])]
  rfl

/-- Only texts that are shorter than the buffer of the sensor reach it. -/
lemma reachesSensor_iff (hnul : 0 ∉ m) (hline : newline ∉ m) :
    ReachesSensor m ↔ m.length < commandBuffSize := by
  constructor
  · intro h
    let interface : Interface := ⟨1, .usb, 5, 0, 0⟩
    let console : Console := ⟨List.replicate commandBuffSize 0, 0, [], List.length_replicate⟩
    let bytes := snprintf Settings.zejfMeteo.packetMaxLength [.str m, .lit newline]
    have hinput : (bytes.map some).reduceOption = bytes := by
      rw [List.reduceOption, List.filterMap_map]
      exact List.filterMap_some
    obtain ⟨t, hrun, haccepted⟩ := h interface 0 ⟨[], fun _ => 1, []⟩ bytes (bytes.map some)
      console rfl (by decide) (serverSendVia_written (by decide) _ _) hinput rfl
    rw [mainLoop_eq, hinput] at hrun
    obtain ⟨u, new, hrun', hnew, hlengths⟩ :=
      consoleBytes_lengths (s := console) (by decide) bytes
    obtain rfl := (EStateM.Result.ok.inj (hrun.symm.trans hrun')).2
    obtain rfl := List.append_cancel_left (haccepted.symm.trans hnew)
    exact hlengths _ (List.mem_singleton_self _)
  · intro hlen interface time d bytes input s _ hopen hwritten hinput hpos
    rw [serverSendVia_written hopen, List.append_cancel_left_eq] at hwritten
    have hprint : print [.str m, .lit newline] = m ++ [newline] := by simp [print, Piece.text]
    have hbytes : bytes = m ++ [newline] := by
      rw [← (Prod.mk.inj (List.singleton_inj.mp hwritten)).2, snprintf_eq, hprint]
      rw [hprint, List.length_append, List.length_singleton]
      unfold commandBuffSize at hlen
      show m.length + 1 < 128
      omega
    rw [mainLoop_eq, hinput, hbytes]
    have hs : s.Gathering [] := ⟨hpos, rfl⟩
    obtain ⟨t, hrun, ht, hsame⟩ :=
      consoleBytes_text hs hline (by rw [List.length_nil, Nat.zero_add]; exact hlen) [newline]
    rw [List.nil_append] at ht
    obtain ⟨u, hend, hu⟩ := consoleByte_newline ht hnul hlen
    refine ⟨u, ?_, hu.trans (by rw [hsame])⟩
    rw [hrun, consoleBytes, run_bind_ok hend]
    rfl

/-! ### To the server -/

/-- The line buffer has `l` of a line. -/
structure Reader.Gathering (s : Reader) (l : List UInt8) : Prop where
  ptr : s.lineBufferPtr = l.length
  bytes : s.lineBuffer.take l.length = l

lemma readBytes_text {s : Reader} (hs : s.Gathering l) (hm : newline ∉ m)
    (hlen : l.length + m.length < lineBufferSize - 1) (cs : List UInt8) :
    ∃ t, (readBytes (m ++ cs)).run s = (readBytes cs).run t ∧ t.Gathering (l ++ m) ∧
      t.accepted = s.accepted := by
  induction m generalizing s l with
  | nil =>
    rw [List.append_nil]
    exact ⟨s, rfl, hs, rfl⟩
  | cons c m ih =>
    rw [List.length_cons] at hlen
    have hsize := s.size_eq
    obtain ⟨t, hrun, hbuffer, hptr, haccepted⟩ :=
      readByte_char hs.ptr (by omega) (List.ne_of_not_mem_cons hm).symm
    have hlength : (l ++ [c]).length = l.length + 1 := by
      rw [List.length_append, List.length_singleton]
    have ht : t.Gathering (l ++ [c]) := by
      refine ⟨?_, ?_⟩
      · rw [hptr, Nat.mod_eq_of_lt (by omega), hlength]
      · rw [hbuffer]
        exact take_set hs.bytes (by omega)
    obtain ⟨u, hrest, hu, hsame⟩ := ih ht (List.not_mem_of_not_mem_cons hm) (by omega)
    rw [List.append_assoc, List.singleton_append] at hu
    refine ⟨u, ?_, hu, hsame.trans haccepted⟩
    rw [List.cons_append, readBytes, run_bind_ok hrun, hrest]

/-- A line that ends in CR LF and begins with a brace is handed over without the two. -/
lemma readByte_lineEnd {s : Reader} (hs : s.Gathering (m ++ [c]))
    (hopen : m.head? = some openBrace) (hnul : 0 ∉ m) (hlen : m.length + 1 < lineBufferSize) :
    ∃ t, (readByte newline).run s = .ok () t ∧
      t.accepted = s.accepted ++ [(m, (m.length : ℤ))] := by
  have hsize := s.size_eq
  have hptr : s.lineBufferPtr = (m.length + 1 : ℕ) := by
    rw [hs.ptr, List.length_append, List.length_singleton]
  have hbytes : (s.lineBuffer.set (m.length + 1) newline).take m.length = m := by
    have hprefix := congrArg (List.take m.length) hs.bytes
    rw [List.take_take, List.length_append, List.take_left' rfl,
      Nat.min_eq_left (Nat.le_add_right _ _)] at hprefix
    rw [List.take_set_of_le (Nat.le_succ _), hprefix]
  have htext := cText_set hbytes (by rw [List.length_set]; omega) hnul
  have hhead : ((s.lineBuffer.set (m.length + 1) newline).set m.length 0).head? =
      some openBrace := by
    rw [List.set_eq_take_append_cons_drop, if_pos (by rw [List.length_set]; omega), hbytes,
      List.head?_append, hopen]
    rfl
  obtain ⟨t, hrun, -, haccepted⟩ := readByte_newline hptr hlen
  rw [if_pos hhead, htext] at haccepted
  exact ⟨t, hrun, haccepted⟩

/-- Only texts that leave room for CR and for the end of the line buffer reach the server. -/
lemma reachesServer_iff (hopen : m.head? = some openBrace) (hnul : 0 ∉ m) (hline : newline ∉ m) :
    ReachesServer m ↔ m.length < lineBufferSize - 2 := by
  have hsend : sensorSendVia m = (m ++ [carriageReturn]) ++ [newline] := by
    simp [sensorSendVia, print, Piece.text]
  have hreturn : newline ∉ m ++ [carriageReturn] := by
    rw [List.mem_append, List.mem_singleton]
    rintro (h | h)
    · exact hline h
    · exact absurd h (by decide)
  have hlength : (m ++ [carriageReturn]).length = m.length + 1 := by
    rw [List.length_append, List.length_singleton]
  constructor
  · intro h
    -- The bytes come one by one.
    have hreceived : received ((sensorSendVia m).map (fun c => ⟨[c], by simp [bufferSize]⟩)) =
        sensorSendVia m := by
      rw [received, List.flatMap_map, List.flatMap_singleton']
    obtain ⟨t, hrun, haccepted⟩ := h _ readerStart hreceived rfl
    rw [runReader_eq, hreceived, hsend] at hrun
    obtain ⟨u, hline, hu, -⟩ := readBytes_line readerStart_between hreturn [newline]
    rw [hline] at hrun
    obtain ⟨u', v, hend, hnil⟩ := run_bind_inv hrun
    obtain rfl := (EStateM.Result.ok.inj hnil).2
    have hbetween : ∃ n, v.Between n := by
      cases hn : (0 + (m ++ [carriageReturn]).length) % (lineBufferSize - 1) with
      | zero =>
        rw [hn] at hu
        obtain ⟨w, hfault⟩ := readByte_fault hu.ptr
        rw [hfault] at hend
        cases hend
      | succ n =>
        rw [hn] at hu
        obtain ⟨w, hok, hw⟩ := readByte_between hu
        obtain rfl := (EStateM.Result.ok.inj (hend.symm.trans hok)).2
        exact ⟨0, hw⟩
    obtain ⟨n, hv⟩ := hbetween
    have hlt := (hv.lengths (m, (m.length : ℤ)) (by rw [haccepted]; simp)).2
    unfold lineBufferSize at hlt ⊢
    dsimp only at hlt
    omega
  · intro hlen rs s hreceived hptr
    have hs : s.Gathering [] := ⟨hptr, rfl⟩
    obtain ⟨t, hrun, ht, hsame⟩ := readBytes_text hs hreturn
      (by rw [List.length_nil, hlength]; omega) [newline]
    rw [List.nil_append] at ht
    obtain ⟨u, hend, hu⟩ := readByte_lineEnd ht hopen hnul (by omega)
    refine ⟨u, ?_, hu.trans (by rw [hsame])⟩
    rw [runReader_eq, hreceived, hsend, hrun, readBytes, run_bind_ok hend]
    rfl

/-! ### Packets -/

/-- The text of a packet is one line of C text that begins with a brace. -/
lemma packetText_line {p : Packet} (hnul : 0 ∉ p.text) :
    (packetText p).head? = some openBrace ∧ 0 ∉ packetText p ∧ newline ∉ packetText p := by
  have hdigit : ∀ n, newline ∉ decimal n := fun n hn =>
    absurd (isDigit_of_mem_decimal hn) (by decide)
  have hprepared : ∀ c ∈ p.prepare.text, c ≠ 0 ∧ c ≠ newline := by
    intro c hc
    rw [prepare_text, replaceCharacter] at hc
    obtain ⟨d, hd, rfl⟩ := List.mem_map.mp hc
    split
    · decide
    · refine ⟨?_, by assumption⟩
      rintro rfl
      exact hnul hd
  refine ⟨?_, zero_notMem_packetPieces _ (fun h => (hprepared 0 h).1 rfl), ?_⟩
  · rw [packetText, print_packetPieces, print_packetHeader]
    rfl
  · rw [packetText, print_packetPieces, print_packetHeader]
    have htext : newline ∉ p.prepare.text := fun h => (hprepared newline h).2 rfl
    simp only [List.mem_cons, List.mem_append, List.not_mem_nil, hdigit, htext, or_false,
      false_or]
    decide

/-- The link carries a packet both ways exactly if its text fits the buffer of the sensor. -/
theorem carries_iff (p : Packet) (hnul : 0 ∉ p.text) :
    Carries (packetText p) ↔ (packetText p).length < commandBuffSize := by
  obtain ⟨hopen, hnul', hline⟩ := packetText_line hnul
  unfold Carries
  rw [reachesSensor_iff hnul' hline, reachesServer_iff hopen hnul' hline]
  unfold commandBuffSize lineBufferSize
  omega

theorem awkwardPacket_carries : Carries (packetText awkwardPacket) :=
  (carries_iff awkwardPacket (by decide)).mpr (by decide +kernel)

/-- A packet with a message of 50 letters does not reach the sensor. -/
theorem monotonePacket_not_carries : ¬∀ p : Packet, 0 ∉ p.text → carriageReturn ∉ p.text →
    newline ∉ p.text → (packetText p).length < Settings.zejfMeteo.packetMaxLength →
      Carries (packetText p) := by
  intro h
  have hplain : 0 ∉ (monotonePacket 50).text := by decide
  obtain ⟨-, hnul, hline⟩ := packetText_line hplain
  have hcarries := h (monotonePacket 50) hplain (by decide) (by decide) (by decide +kernel)
  have hlt := (reachesSensor_iff hnul hline).mp hcarries.1
  exact absurd hlt (by decide +kernel)

end Link

end ZejfMeteo.Serial
