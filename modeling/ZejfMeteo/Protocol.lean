import ZejfMeteo.Defs
import ZejfMeteo.Lib.Run
import ZejfMeteo.Lib.Bytes
import ZejfMeteo.Lib.Format

/-!
# Packets and their text form

`zejf_protocol.c`: a packet is sent as one line of text and read back from it. Messages are
the bytes before the terminating NUL, interfaces are addresses.
-/

namespace ZejfMeteo
open Runs Bytes Format

/-- `message` is NULL or a text; the checksum field is only set by `packetFromString`. -/
structure Packet where
  sourceInterface : Option ℕ
  destinationInterface : Option ℕ
  timeReceived : UInt32
  timeSent : UInt32
  flags : UInt32
  checksum : UInt32
  fromId : UInt16
  toId : UInt16
  messageSize : UInt16
  ttl : UInt8
  command : UInt8
  message : Option (List UInt8)
deriving DecidableEq

/-- `calloc` leaves every field zero. -/
def packetCreate : Packet :=
  ⟨none, none, 0, 0, 0, 0, 0, 0, 0, 0, 0, none⟩

/-- `CHECKSUM_BYPASS_VALUE`. -/
def checksumBypassValue : UInt32 := 0

def openBrace : UInt8 := 0x7B

def closeBrace : UInt8 := 0x7D

def semicolon : UInt8 := 0x3B

def tab : UInt8 := 0x09

def newline : UInt8 := 0x0A

/-- The byte that stands for a newline on the wire. -/
def newlineCode : UInt8 := 0x02

def checksum (bytes : List UInt8) : UInt32 :=
  bytes.foldl (fun result b => ((result <<< 5) + result) + b.toUInt32) 5381

/-- The checksum of the fields, each taken as the bytes of its memory. -/
def packetChecksum (packet : Packet) : UInt32 :=
  checksum (leBytes 1 packet.command.toNat) + checksum (leBytes 2 packet.messageSize.toNat) +
    checksum ((packet.message.getD []).take packet.messageSize.toNat) +
    checksum (leBytes 2 packet.fromId.toNat) + checksum (leBytes 2 packet.toId.toNat) +
    checksum (leBytes 1 packet.ttl.toNat) + checksum (leBytes 4 packet.flags.toNat)

def replaceCharacter (str : List UInt8) (target replacement : UInt8) : List UInt8 :=
  str.map (fun c => if c = target then replacement else c)

/-! ### Writing -/

/-- What `packetToString` does to the packet itself. -/
def Packet.prepare (packet : Packet) : Packet :=
  match packet.message with
  | none => { packet with messageSize := 0 }
  | some m =>
    { packet with
      messageSize := UInt16.ofNat m.length
      message := some (replaceCharacter m newline newlineCode) }

/-- The format of a packet before its message. -/
def packetHeader (packet : Packet) (checksum : UInt32) : List Piece :=
  [.lit openBrace, .num packet.fromId.toNat, .lit semicolon, .num packet.toId.toNat,
    .lit semicolon, .num packet.command.toNat, .lit semicolon, .num packet.ttl.toNat,
    .lit semicolon, .num checksum.toNat, .lit semicolon, .num packet.flags.toNat,
    .lit semicolon, .num packet.messageSize.toNat, .lit semicolon]

/-- The format of a packet, with or without a message. -/
def packetPieces (packet : Packet) (checksum : UInt32) : List Piece :=
  match packet.message with
  | some m => packetHeader packet checksum ++ [.str m, .lit closeBrace]
  | none => packetHeader packet checksum ++ [.lit closeBrace]

/-- The complete encoding of a packet. -/
def packetText (packet : Packet) : List UInt8 :=
  print (packetPieces packet.prepare (packetChecksum packet.prepare))

/-- Returns the packet as it has been changed and the contents of the buffer. -/
def packetToString (packet : Packet) (maxLength : ℕ) : ZejfErr × Packet × List UInt8 :=
  let packet := packet.prepare
  let pieces := packetPieces packet (packetChecksum packet)
  (if 0 < (print pieces).length then .ok else .generic, packet, snprintf maxLength pieces)

/-! ### Reading -/

/-- A character of a text in memory, which a NUL follows. -/
def charAt (data : List UInt8) (i : ℕ) : Except Fault UInt8 :=
  if h : i < data.length then .ok (data.get ⟨i, h⟩)
  else if i = data.length then .ok 0 else .error .outOfBounds

def packetFormat : List Directive :=
  [.lit openBrace, .num 16, .lit semicolon, .num 16, .lit semicolon, .num 16, .lit semicolon,
    .num 16, .lit semicolon, .num 32, .lit semicolon, .num 32, .lit semicolon, .num 16,
    .lit semicolon, .until [tab, newline]]

/-- Fills in a packet from a text. The last character of the scanned message is dropped
without a look at it, and the message buffer has `length` bytes. -/
def packetFromString (packet : Packet) (data : List UInt8) (length : ℕ) :
    Except Fault (ZejfErr × Packet) := do
  if (← charAt data 0) ≠ openBrace then
    return (.packetFormatBrackets, packet)
  if length = 0 then
    throw .outOfBounds
  if (← charAt data (length - 1)) ≠ closeBrace then
    return (.packetFormatBrackets, packet)
  match sscanf (fun _ => none) packetFormat (cText data) with
  | [.num fromId, .num toId, .num command, .num ttl, .num checksum, .num flags,
      .num messageSize, .str message] =>
    if length < message.length + 1 then
      throw .outOfBounds
    let message := message.dropLast
    if message.length ≠ messageSize then
      return (.packetFormatLength, packet)
    let packet := { packet with
      fromId := UInt16.ofNat fromId
      toId := UInt16.ofNat toId
      ttl := UInt8.ofNat ttl
      flags := UInt32.ofNat flags
      checksum := UInt32.ofNat checksum
      command := UInt8.ofNat command
      messageSize := UInt16.ofNat messageSize
      message := some message }
    if packet.checksum ≠ checksumBypassValue ∧ packet.checksum ≠ packetChecksum packet then
      return (.checksum, { packet with message := none })
    return (.ok, { packet with message := some (replaceCharacter message newlineCode newline) })
  | _ => return (.packetFormatItems, packet)

/-- Reading a whole line never leaves its text or the message buffer, and of a packet it
only changes what has been read. -/
lemma packetFromString_total (packet : Packet) (data : List UInt8) :
    ∃ rv q, packetFromString packet data data.length = .ok (rv, q) ∧
      q.sourceInterface = packet.sourceInterface ∧
      q.destinationInterface = packet.destinationInterface := by
  have hchar : ∀ n, n ≤ data.length → ∃ c, charAt data n = .ok c := by
    intro n hn
    unfold charAt
    by_cases hlt : n < data.length
    · exact ⟨_, dif_pos hlt⟩
    · rw [dif_neg hlt, if_pos (by omega)]
      exact ⟨_, rfl⟩
  obtain ⟨first, hfirst⟩ := hchar 0 (Nat.zero_le _)
  obtain ⟨last, hlast⟩ := hchar (data.length - 1) (by omega)
  unfold packetFromString
  simp only [hfirst, hlast, bind, Except.bind, pure, Except.pure]
  by_cases hopen : first ≠ openBrace
  · rw [if_pos hopen]
    exact ⟨_, _, rfl, rfl, rfl⟩
  by_cases hnil : data.length = 0
  · -- The first byte of an empty text is its NUL.
    rw [charAt, dif_neg (by omega), if_pos hnil.symm] at hfirst
    obtain rfl := Except.ok.inj hfirst
    exact absurd (by decide : (0 : UInt8) ≠ openBrace) hopen
  rw [if_neg hopen, if_neg hnil]
  by_cases hclose : last ≠ closeBrace
  · rw [if_pos hclose]
    exact ⟨_, _, rfl, rfl, rfl⟩
  rw [if_neg hclose]
  split
  · rename_i fromId toId command ttl checksum flags messageSize message hscan
    have hfits : message.length + 1 ≤ data.length := by
      have hmem : .str message ∈ sscanf (fun _ => none) packetFormat (cText data) := by
        rw [hscan]
        simp
      have hlt := length_lt_of_mem_sscanf_lit hmem
      have hprefix := (List.takeWhile_prefix (l := data) (fun c => decide (c ≠ 0))).length_le
      unfold cText at hlt
      omega
    rw [if_neg (by omega)]
    by_cases hsize : message.dropLast.length ≠ messageSize
    · rw [if_pos hsize]
      exact ⟨_, _, rfl, rfl, rfl⟩
    rw [if_neg hsize]
    split
    · exact ⟨_, _, rfl, rfl, rfl⟩
    · exact ⟨_, _, rfl, rfl, rfl⟩
  · exact ⟨_, _, rfl, rfl, rfl⟩

/-! ### The round trip -/

/-- The text that the receiver gets to see as the message. -/
def Packet.text (packet : Packet) : List UInt8 := packet.message.getD []

/-- The characters that packet messages must not contain. -/
def PlainText (m : List UInt8) : Prop := ∀ c ∈ m, c ≠ 0 ∧ c ≠ tab ∧ c ≠ newlineCode

instance (m : List UInt8) : Decidable (PlainText m) :=
  List.decidableBAll (fun c => c ≠ 0 ∧ c ≠ tab ∧ c ≠ newlineCode) m

/-- Reading a text back gives the packet that was written. -/
structure Packet.SameContent (packet q : Packet) : Prop where
  fromId : q.fromId = packet.fromId
  toId : q.toId = packet.toId
  command : q.command = packet.command
  ttl : q.ttl = packet.ttl
  flags : q.flags = packet.flags
  size : q.messageSize.toNat = packet.text.length
  message : q.message = some packet.text

/-- Both directions succeed on a packet and its content survives, whatever the packet that
is filled in held before. -/
def RoundTrips (packet : Packet) (maxLength : ℕ) : Prop :=
  ∃ packet' buff, packetToString packet maxLength = (.ok, packet', buff) ∧
    ∀ blank, ∃ q, packetFromString blank buff buff.length = .ok (.ok, q) ∧ packet.SameContent q

lemma replaceCharacter_inverse {m : List UInt8} (h : newlineCode ∉ m) :
    replaceCharacter (replaceCharacter m newline newlineCode) newlineCode newline = m := by
  induction m with
  | nil => rfl
  | cons c m ih =>
    simp only [List.mem_cons, not_or] at h
    simp only [replaceCharacter, List.map_cons, List.map_map] at ih ⊢
    rw [ih h.2]
    by_cases hc : c = newline
    · simp [hc]
    · simp [hc, Ne.symm h.1]

@[simp] lemma length_replaceCharacter (m : List UInt8) (a b : UInt8) :
    (replaceCharacter m a b).length = m.length := List.length_map _

@[simp] lemma prepare_fields (packet : Packet) :
    packet.prepare.fromId = packet.fromId ∧ packet.prepare.toId = packet.toId ∧
      packet.prepare.command = packet.command ∧ packet.prepare.ttl = packet.ttl ∧
      packet.prepare.flags = packet.flags := by
  rw [Packet.prepare]
  split <;> exact ⟨rfl, rfl, rfl, rfl, rfl⟩

lemma prepare_text (packet : Packet) :
    packet.prepare.text = replaceCharacter packet.text newline newlineCode := by
  cases h : packet.message <;> simp [Packet.prepare, Packet.text, replaceCharacter, h]

@[simp] lemma length_prepare_text (packet : Packet) :
    packet.prepare.text.length = packet.text.length := by
  rw [prepare_text, length_replaceCharacter]

/-- The receiver puts the newlines back. -/
lemma prepare_text_inverse {packet : Packet} (h : PlainText packet.text) :
    replaceCharacter packet.prepare.text newlineCode newline = packet.text := by
  rw [prepare_text, replaceCharacter_inverse (fun hm => (h _ hm).2.2 rfl)]

lemma prepare_messageSize (packet : Packet) :
    packet.prepare.messageSize = UInt16.ofNat packet.text.length := by
  cases h : packet.message <;> simp [Packet.prepare, Packet.text, h]

/-- The encoding, with the message written as the text that it is. -/
lemma print_packetPieces (packet : Packet) (checksum : UInt32) :
    print (packetPieces packet checksum) =
      print (packetHeader packet checksum) ++ (packet.text ++ [closeBrace]) := by
  cases h : packet.message <;> simp [packetPieces, print, Piece.text, Packet.text, h]

lemma print_packetHeader (packet : Packet) (checksum : UInt32) (t : List UInt8) :
    print (packetHeader packet checksum) ++ t = openBrace :: (decimal packet.fromId.toNat ++
      semicolon :: (decimal packet.toId.toNat ++ semicolon :: (decimal packet.command.toNat ++
      semicolon :: (decimal packet.ttl.toNat ++ semicolon :: (decimal checksum.toNat ++
      semicolon :: (decimal packet.flags.toNat ++ semicolon ::
      (decimal packet.messageSize.toNat ++ semicolon :: t))))))) := by
  simp [packetHeader, print, Piece.text]

/-- What is written of a packet does not depend on its times and interfaces. -/
lemma packetText_congr {p q : Packet} (hfrom : p.fromId = q.fromId) (hto : p.toId = q.toId)
    (hcommand : p.command = q.command) (httl : p.ttl = q.ttl) (hflags : p.flags = q.flags)
    (htext : p.text = q.text) : packetText p = packetText q := by
  obtain ⟨hpf, hpt, hpc, hpl, hpg⟩ := prepare_fields p
  obtain ⟨hqf, hqt, hqc, hql, hqg⟩ := prepare_fields q
  have hprepared : p.prepare.text = q.prepare.text := by
    rw [prepare_text, prepare_text, htext]
  have hsize : p.prepare.messageSize = q.prepare.messageSize := by
    rw [prepare_messageSize, prepare_messageSize, htext]
  have hsum : packetChecksum p.prepare = packetChecksum q.prepare := by
    unfold Packet.text at hprepared
    unfold packetChecksum
    rw [hprepared, hsize, hpf, hpt, hpc, hpl, hpg, hqf, hqt, hqc, hql, hqg, hfrom, hto, hcommand,
      httl, hflags]
  unfold packetText
  rw [print_packetPieces, print_packetPieces, print_packetHeader, print_packetHeader, hsum,
    hprepared, hsize, hpf, hpt, hpc, hpl, hpg, hqf, hqt, hqc, hql, hqg, hfrom, hto, hcommand,
    httl, hflags]

/-- Every field, the separators and the brackets. -/
lemma length_packetText (p : Packet) : (packetText p).length =
    (decimal p.fromId.toNat).length + (decimal p.toId.toNat).length +
      (decimal p.command.toNat).length + (decimal p.ttl.toNat).length +
      (decimal (packetChecksum p.prepare).toNat).length + (decimal p.flags.toNat).length +
      (decimal (UInt16.ofNat p.text.length).toNat).length + p.text.length + 9 := by
  obtain ⟨hfrom, hto, hcommand, httl, hflags⟩ := prepare_fields p
  unfold packetText
  rw [print_packetPieces, print_packetHeader, hfrom, hto, hcommand, httl, hflags,
    prepare_messageSize]
  simp only [List.length_append, List.length_cons, List.length_nil, length_prepare_text]
  omega

/-- Everything but the message fits into 50 characters. -/
lemma length_packetText_le (p : Packet) : (packetText p).length ≤ p.text.length + 50 := by
  have hfrom := length_decimal_uint16 p.fromId
  have hto := length_decimal_uint16 p.toId
  have hcommand := length_decimal_uint8 p.command
  have httl := length_decimal_uint8 p.ttl
  have hsum := length_decimal_uint32 (packetChecksum p.prepare)
  have hflags := length_decimal_uint32 p.flags
  have hsize := length_decimal_uint16 (UInt16.ofNat p.text.length)
  rw [length_packetText]
  omega

/-- The scanner finds every field in front of the message. -/
lemma sscanf_packetHeader (packet : Packet) (checksum : UInt32) (t : List UInt8) :
    sscanf (fun _ => none) packetFormat (print (packetHeader packet checksum) ++ t) =
      [.num packet.fromId.toNat, .num packet.toId.toNat, .num packet.command.toNat,
        .num packet.ttl.toNat, .num checksum.toNat, .num packet.flags.toNat,
        .num packet.messageSize.toNat] ++
        sscanf (fun _ => none) [.until [tab, newline]] t := by
  have hsemi := head?_cons_stop (by decide : isDigit semicolon = false)
  rw [print_packetHeader, packetFormat, sscanf_lit, sscanf_uint16 _ (hsemi _), sscanf_lit,
    sscanf_uint16 _ (hsemi _), sscanf_lit, sscanf_uint8 _ (hsemi _), sscanf_lit,
    sscanf_uint8 _ (hsemi _), sscanf_lit, sscanf_uint32 _ (hsemi _), sscanf_lit,
    sscanf_uint32 _ (hsemi _), sscanf_lit, sscanf_uint16 _ (hsemi _), sscanf_lit]
  rfl

/-- The scanner finds every field of an encoding, and the closing brace with the message. -/
lemma sscanf_packetText {packet : Packet} (checksum : UInt32)
    (h : ∀ c ∈ packet.text, c ≠ tab ∧ c ≠ newline) :
    sscanf (fun _ => none) packetFormat (print (packetPieces packet checksum)) =
      [.num packet.fromId.toNat, .num packet.toId.toNat, .num packet.command.toNat,
        .num packet.ttl.toNat, .num checksum.toNat, .num packet.flags.toNat,
        .num packet.messageSize.toNat, .str (packet.text ++ [closeBrace])] := by
  have hstop : ∀ c ∈ packet.text ++ [closeBrace], c ∉ [tab, newline] := by
    intro c hc
    rcases List.mem_append.mp hc with hc | hc
    · simpa using h c hc
    · rw [List.mem_singleton.mp hc]
      decide
  have huntil := sscanf_until (fun _ => none) [] (t := []) (by simp) hstop (by simp)
  rw [List.append_nil] at huntil
  rw [print_packetPieces, sscanf_packetHeader, huntil, sscanf_nil]
  rfl

/-- An encoding passes the checks on its brackets and has room for the scanned message. -/
lemma print_packetPieces_frame {packet : Packet} {checksum : UInt32} {s : List UInt8}
    (hs : s = print (packetPieces packet checksum)) :
    charAt s 0 = .ok openBrace ∧ charAt s (s.length - 1) = .ok closeBrace ∧
      s.length ≠ 0 ∧ ¬s.length < (packet.text ++ [closeBrace]).length + 1 := by
  obtain ⟨init, hinit⟩ : ∃ init, s = openBrace :: (init ++ [closeBrace]) := by
    rw [hs, print_packetPieces, ← List.append_assoc, print_packetHeader]
    exact ⟨_, rfl⟩
  have hlen : s.length = (print (packetHeader packet checksum)).length + packet.text.length + 1 := by
    rw [hs, print_packetPieces]
    simp only [List.length_append, List.length_singleton]
    omega
  have hhead : 0 < (print (packetHeader packet checksum)).length := by
    rw [← List.append_nil (print _), print_packetHeader]
    exact Nat.succ_pos _
  refine ⟨?_, ?_, by omega, ?_⟩
  · rw [charAt, dif_pos (by omega)]
    simp [hinit]
  · rw [charAt, dif_pos (by omega)]
    simp [hinit]
  · rw [List.length_append, List.length_singleton]
    omega

/-- There is no NUL in an encoding. -/
lemma zero_notMem_packetPieces {packet : Packet} (checksum : UInt32) (h : 0 ∉ packet.text) :
    0 ∉ print (packetPieces packet checksum) := by
  have hdecimal : ∀ n, 0 ∉ decimal n := fun n hn =>
    absurd (isDigit_of_mem_decimal hn) (by decide)
  rw [print_packetPieces, print_packetHeader]
  simp only [List.mem_cons, List.mem_append, List.not_mem_nil, hdecimal, h, or_false, false_or]
  decide

/-- What is left of `packetFromString` on an encoding once the text has been scanned. -/
lemma packetFromString_print {packet : Packet} {checksum : UInt32} {s : List UInt8}
    (hs : s = print (packetPieces packet checksum)) (blank : Packet)
    (h : ∀ c ∈ packet.text, c ≠ 0 ∧ c ≠ tab ∧ c ≠ newline) :
    packetFromString blank s s.length =
      if packet.text.length ≠ packet.messageSize.toNat then .ok (.packetFormatLength, blank)
      else if checksum ≠ checksumBypassValue ∧ checksum ≠ packetChecksum packet then
        .ok (.checksum, { blank with
          fromId := packet.fromId
          toId := packet.toId
          ttl := packet.ttl
          flags := packet.flags
          checksum := checksum
          command := packet.command
          messageSize := packet.messageSize
          message := none })
      else
        .ok (.ok, { blank with
          fromId := packet.fromId
          toId := packet.toId
          ttl := packet.ttl
          flags := packet.flags
          checksum := checksum
          command := packet.command
          messageSize := packet.messageSize
          message := some (replaceCharacter packet.text newlineCode newline) }) := by
  obtain ⟨hopen, hclose, h0, hfit⟩ := print_packetPieces_frame hs
  have hscan := sscanf_packetText checksum (fun c hc => (h c hc).2)
  have hnul := zero_notMem_packetPieces checksum (fun hc => (h 0 hc).1 rfl)
  rw [← hs] at hscan hnul
  -- The checksum is taken over the scanned fields, which are those of the packet.
  have hsum : ∀ q : Packet, q.fromId = packet.fromId → q.toId = packet.toId → q.ttl = packet.ttl →
      q.flags = packet.flags → q.command = packet.command → q.messageSize = packet.messageSize →
      q.message = some packet.text → packetChecksum q = packetChecksum packet := by
    intro q h1 h2 h3 h4 h5 h6 h7
    simp [packetChecksum, h1, h2, h3, h4, h5, h6, h7, Packet.text]
  have he := hsum { blank with
      fromId := packet.fromId
      toId := packet.toId
      ttl := packet.ttl
      flags := packet.flags
      checksum := checksum
      command := packet.command
      messageSize := packet.messageSize
      message := some packet.text } rfl rfl rfl rfl rfl rfl rfl
  simp only [packetFromString, hopen, hclose, cText_of_notMem hnul, hscan, h0, hfit, if_false,
    List.dropLast_concat, ne_eq, not_true, UInt16.ofNat_toNat, UInt32.ofNat_toNat, UInt8.ofNat_toNat, he,
    bind, Except.bind, pure, Except.pure]

lemma snprintf_eq {maxLength : ℕ} {ps : List Piece} (h : (print ps).length < maxLength) :
    snprintf maxLength ps = print ps :=
  List.take_of_length_le (by omega)

lemma packetText_pos (packet : Packet) : 0 < (packetText packet).length := by
  rw [packetText, print_packetPieces, print_packetHeader]
  exact Nat.succ_pos _

lemma packetToString_eq {packet : Packet} {maxLength : ℕ}
    (h : (packetText packet).length < maxLength) :
    packetToString packet maxLength = (.ok, packet.prepare, packetText packet) := by
  have hpos := packetText_pos packet
  rw [packetText] at h hpos
  simp only [packetToString, packetText, snprintf_eq h, hpos, if_true]

lemma prepare_plain {packet : Packet} (h : PlainText packet.text) :
    ∀ c ∈ packet.prepare.text, c ≠ 0 ∧ c ≠ tab ∧ c ≠ newline := by
  intro c hc
  rw [prepare_text, replaceCharacter] at hc
  obtain ⟨d, hd, rfl⟩ := List.mem_map.mp hc
  split
  · decide
  · exact ⟨(h d hd).1, (h d hd).2.1, by assumption⟩

/-- The receiver of an encoding gets the packet back. -/
lemma packetFromString_packetText (packet : Packet) (htext : PlainText packet.text)
    (hlen : packet.text.length < 2 ^ 16) (blank : Packet) :
    ∃ q, packetFromString blank (packetText packet) (packetText packet).length = .ok (.ok, q) ∧
      packet.SameContent q := by
  have hsize : packet.prepare.messageSize.toNat = packet.text.length := by
    rw [prepare_messageSize, UInt16.toNat_ofNat', Nat.mod_eq_of_lt hlen]
  have hprep : packet.prepare.text.length = packet.prepare.messageSize.toNat := by
    rw [hsize, length_prepare_text]
  obtain ⟨hfrom, hto, hcommand, httl, hflags⟩ := prepare_fields packet
  have hread := packetFromString_print (s := packetText packet) rfl blank (prepare_plain htext)
  rw [if_neg (by simpa using hprep), if_neg (by simp)] at hread
  exact ⟨_, hread, hfrom, hto, hcommand, httl, hflags, hsize,
    congrArg some (prepare_text_inverse htext)⟩

/-- **The text form of a packet is faithful.** A packet whose message is at most 65535
characters long and free of the reserved ones survives the way through its text. -/
theorem roundTrips_of_length_lt (packet : Packet) (maxLength : ℕ) (htext : PlainText packet.text)
    (hlen : packet.text.length < 2 ^ 16) (hfit : (packetText packet).length < maxLength) :
    RoundTrips packet maxLength :=
  ⟨packet.prepare, packetText packet, packetToString_eq hfit,
    packetFromString_packetText packet htext hlen⟩

/-- A text that is read has all eight fields, and a message of the size that it tells. -/
lemma packetFromString_inv {blank p : Packet} {data : List UInt8} {length : ℕ}
    (h : packetFromString blank data length = .ok (.ok, p)) :
    ∃ fromId toId command ttl checksum flags message,
      sscanf (fun _ => none) packetFormat (cText data) =
        [.num fromId, .num toId, .num command, .num ttl, .num checksum, .num flags,
          .num message.dropLast.length, .str message] ∧
      p = { blank with
        fromId := UInt16.ofNat fromId
        toId := UInt16.ofNat toId
        ttl := UInt8.ofNat ttl
        flags := UInt32.ofNat flags
        checksum := UInt32.ofNat checksum
        command := UInt8.ofNat command
        messageSize := UInt16.ofNat message.dropLast.length
        message := some (replaceCharacter message.dropLast newlineCode newline) } := by
  unfold packetFromString at h
  simp only [bind, Except.bind, pure, Except.pure] at h
  split at h
  · cases h
  split at h
  · cases h
  split at h
  · cases h
  split at h
  · cases h
  split at h
  · cases h
  split at h
  · rename_i fromId toId command ttl checksum flags messageSize message hscan
    split at h
    · cases h
    split at h
    · cases h
    rename_i hsize
    obtain rfl := not_not.mp hsize
    split at h
    · cases h
    exact ⟨fromId, toId, command, ttl, checksum, flags, message, hscan,
      (Prod.mk.inj (Except.ok.inj h)).2.symm⟩
  · cases h

/-- What has been read from a text can be written again. -/
lemma packetFromString_plain {blank p : Packet} {data : List UInt8} {length : ℕ}
    (h : packetFromString blank data length = .ok (.ok, p)) :
    PlainText p.text ∧ p.text.length < 2 ^ 16 := by
  obtain ⟨fromId, toId, command, ttl, checksum, flags, message, hscan, rfl⟩ :=
    packetFromString_inv h
  -- The size of the message has been scanned into 16 bits.
  have hsize : (sscanf (fun _ => none) packetFormat (cText data))[6]? =
      some (.num message.dropLast.length) := by
    rw [hscan]
    rfl
  have hmessage : .str message ∈ sscanf (fun _ => none) packetFormat (cText data) := by
    rw [hscan]
    simp
  obtain ⟨width, hwidth, hlt⟩ := getElem?_sscanf_num hsize
  obtain rfl : 16 = width := Directive.num.inj (Option.some.inj hwidth)
  obtain ⟨hsub, stop, hstop, hfree⟩ := sublist_of_mem_sscanf hmessage
  have hstops : stop = [tab, newline] := by
    simpa [packetFormat] using hstop
  refine ⟨?_, ?_⟩
  · intro c hc
    obtain ⟨d, hd, rfl⟩ := List.mem_map.mp hc
    have hmem := List.dropLast_subset _ hd
    have hnul := List.all_eq_true.mp List.all_takeWhile d (hsub.subset hmem)
    have hstop := hfree d hmem
    rw [hstops] at hstop
    simp only [List.mem_cons, List.not_mem_nil, or_false, not_or] at hstop
    rw [decide_eq_true_eq] at hnul
    split
    · decide
    · exact ⟨hnul, hstop.1, by assumption⟩
  · show (replaceCharacter message.dropLast newlineCode newline).length < _
    rw [length_replaceCharacter]
    omega

/-- A packet with a message that has every kind of awkward character. -/
def awkwardPacket : Packet :=
  { packetCreate with
    fromId := 1
    toId := 0xFFFF
    command := 0x0A
    flags := 0xFFFFFFFF
    message := some [semicolon, closeBrace, newline, openBrace, 0x20] }

theorem awkwardPacket_roundTrips :
    PlainText awkwardPacket.text ∧ RoundTrips awkwardPacket 128 :=
  ⟨by decide, roundTrips_of_length_lt awkwardPacket 128 (by decide) (by decide) (by decide)⟩

/-- The size field has 16 bits: from 65536 characters on it wraps and the text is refused. -/
theorem not_roundTrips_of_length_ge (packet : Packet) (maxLength : ℕ)
    (htext : PlainText packet.text) (hlen : 2 ^ 16 ≤ packet.text.length)
    (hfit : (packetText packet).length < maxLength) : ¬RoundTrips packet maxLength := by
  rintro ⟨packet', buff, hwrite, hread⟩
  rw [packetToString_eq hfit] at hwrite
  obtain ⟨-, rfl, rfl⟩ := by simpa using hwrite
  have hlong : packet.prepare.text.length ≠ packet.prepare.messageSize.toNat := by
    have hlt := packet.prepare.messageSize.toNat_lt
    rw [length_prepare_text]
    omega
  obtain ⟨q, hq, -⟩ := hread packetCreate
  rw [packetText, packetFromString_print rfl packetCreate (prepare_plain htext), if_pos hlong] at hq
  simp at hq

/-- A packet with a message of `n` times the same letter. -/
def monotonePacket (n : ℕ) : Packet :=
  { packetCreate with message := some (List.replicate n 0x61) }

lemma monotonePacket_plain (n : ℕ) : PlainText (monotonePacket n).text := by
  intro c hc
  rw [List.eq_of_mem_replicate hc]
  decide

lemma monotonePacket_not_roundTrips {n : ℕ} (h : 2 ^ 16 ≤ n) : ∃ maxLength,
    PlainText (monotonePacket n).text ∧ (packetText (monotonePacket n)).length < maxLength ∧
      ¬RoundTrips (monotonePacket n) maxLength := by
  have hlen : (monotonePacket n).text.length = n := List.length_replicate
  have hfit := Nat.lt_succ_self (packetText (monotonePacket n)).length
  exact ⟨_, monotonePacket_plain n, hfit, not_roundTrips_of_length_ge _ _ (monotonePacket_plain n)
    (hlen.symm ▸ h) hfit⟩

theorem longPacket_not_roundTrips : ∃ maxLength, PlainText (monotonePacket (2 ^ 16)).text ∧
    (packetText (monotonePacket (2 ^ 16))).length < maxLength ∧
    ¬RoundTrips (monotonePacket (2 ^ 16)) maxLength :=
  monotonePacket_not_roundTrips (Nat.le_refl _)

end ZejfMeteo
