import ZejfMeteo.Protocol
import ZejfMeteo.Lib.Lines
import Mathlib.Data.List.DropRight

/-!
# Packets in the viewer

`Packet.java`: the viewer has a reader and a writer of packets of its own. Its texts are
ASCII, so a character is a byte.
-/

namespace ZejfMeteo.Viewer
open Format Lines

/-- The record of the viewer, whose fields are `int` and `long`. -/
structure Packet where
  fromId : ℤ
  toId : ℤ
  ttl : ℤ
  flags : ℤ
  command : ℤ
  checksum : ℤ
  messageSize : ℤ
  message : List UInt8
deriving DecidableEq

/-- `CHECKSUM_BYPASS_VALUE`. -/
def checksumBypassValue : ℤ := 0

/-- `Integer.parseInt` and `Long.parseLong`; the exception is `none`. -/
def parseNumber (width : ℕ) (s : List UInt8) : Option ℤ :=
  let (negative, digits) := scanSign s
  let n : ℤ := if negative then -digitsValue digits else digitsValue digits
  if digits ≠ [] ∧ digits.all isDigit ∧ -2 ^ (width - 1) ≤ n ∧ n < 2 ^ (width - 1) then some n
  else none

def parseInt (s : List UInt8) : Option ℤ := parseNumber 32 s

def parseLong (s : List UInt8) : Option ℤ := parseNumber 64 s

/-- `String.split` at a single character: the empty parts at the end are not there, and a
text without the separator is its only part. -/
def split (sep : UInt8) (s : List UInt8) : List (List UInt8) :=
  if sep ∈ s then (s.splitOn sep).rdropWhile List.isEmpty else [s]

def Packet.fromString (str : List UInt8) : Option Packet :=
  if str.head? ≠ some openBrace ∨ str.getLast? ≠ some closeBrace then none
  else
    match split semicolon str.tail.dropLast with
    | fromId :: toId :: command :: ttl :: checksum :: flags :: messageSize :: message =>
      if 1 < message.length then none
      else do
        let fromId ← parseInt fromId
        let toId ← parseInt toId
        let command ← parseInt command
        let ttl ← parseInt ttl
        let checksum ← parseLong checksum
        let flags ← parseLong flags
        let messageSize ← parseInt messageSize
        return ⟨fromId, toId, ttl, flags, command, checksum, messageSize, message.headD []⟩
    | _ => none

/-- `%d`. -/
def signedDecimal (n : ℤ) : List UInt8 :=
  if n < 0 then 0x2D :: decimal n.natAbs else decimal n.natAbs

/-- The checksum is never written, only the value that bypasses it. -/
def Packet.toString (p : Packet) : List UInt8 :=
  openBrace :: (signedDecimal p.fromId ++ semicolon :: (signedDecimal p.toId ++
    semicolon :: (signedDecimal p.command ++ semicolon :: (signedDecimal p.ttl ++
    semicolon :: (signedDecimal checksumBypassValue ++ semicolon :: (signedDecimal p.flags ++
    semicolon :: (signedDecimal p.messageSize ++ semicolon ::
    (p.message ++ [closeBrace, newline]))))))))

/-- An ASCII text without TAB and newline. -/
def Message (m : List UInt8) : Prop := ∀ c ∈ m, c < 0x80 ∧ c ≠ tab ∧ c ≠ newline

instance (m : List UInt8) : Decidable (Message m) :=
  List.decidableBAll (fun c => c < 0x80 ∧ c ≠ tab ∧ c ≠ newline) m

/-- A packet of the viewer and one of the firmware have the same fields, apart from their
checksums and messages. -/
structure Packet.SameFields (r : Packet) (p : ZejfMeteo.Packet) : Prop where
  fromId : r.fromId = p.fromId.toNat
  toId : r.toId = p.toId.toNat
  command : r.command = p.command.toNat
  ttl : r.ttl = p.ttl.toNat
  flags : r.flags = p.flags.toNat
  size : r.messageSize = p.messageSize.toNat

/-- The viewer reads the text that the firmware writes of a packet, and gets the packet. -/
def ReadByViewer (maxLength : ℕ) (p : ZejfMeteo.Packet) : Prop :=
  ∃ p' buff r, packetToString p maxLength = (.ok, p', buff) ∧
    Packet.fromString buff = some r ∧ r.SameFields p' ∧
    r.checksum = (packetChecksum p').toNat ∧ r.message = p.text

/-- The firmware reads the text that the viewer writes of a packet, and gets the packet. -/
def ReadByFirmware (r : Packet) : Prop :=
  let line := r.toString.dropLast
  ∀ blank, ∃ q, packetFromString blank line line.length = .ok (.ok, q) ∧ r.SameFields q ∧
    r.checksum = q.checksum.toNat ∧ q.message = some r.message

/-- Every field has a value that the firmware has room for, and the size is that of the
message. -/
structure Packet.InRange (r : Packet) : Prop where
  fromId : 0 ≤ r.fromId ∧ r.fromId < 2 ^ 16
  toId : 0 ≤ r.toId ∧ r.toId < 2 ^ 16
  command : 0 ≤ r.command ∧ r.command < 2 ^ 8
  ttl : 0 ≤ r.ttl ∧ r.ttl < 2 ^ 8
  checksum : 0 ≤ r.checksum ∧ r.checksum < 2 ^ 32
  flags : 0 ≤ r.flags ∧ r.flags < 2 ^ 32
  messageSize : 0 ≤ r.messageSize ∧ r.messageSize < 2 ^ 16
  size : r.messageSize = r.message.length

lemma rdropWhile_append {α : Type} {p : α → Bool} {l : List α} (hl : l.rdropWhile p = l)
    (t : List α) : (l ++ t).rdropWhile p = l ++ t.rdropWhile p := by
  induction t using List.reverseRecOn with
  | nil => rw [List.append_nil, hl, List.rdropWhile_nil, List.append_nil]
  | append_singleton t x ih =>
    rw [← List.append_assoc, List.rdropWhile_concat, List.rdropWhile_concat, ih]
    split
    · rfl
    · exact List.append_assoc _ _ _

lemma parseNumber_decimal {width n : ℕ} (h : n < 2 ^ (width - 1)) :
    parseNumber width (decimal n) = some (n : ℤ) := by
  obtain ⟨c, ds, hds⟩ := List.exists_cons_of_ne_nil (decimal_ne_nil n)
  have hsign : scanSign (decimal n) = (false, decimal n) := by
    have hc : c ∈ decimal n := by
      rw [hds]
      exact List.mem_cons_self
    rw [hds]
    exact scanSign_digit (isDigit_of_mem_decimal hc) ds
  have hall : (decimal n).all isDigit = true :=
    List.all_eq_true.mpr fun c hc => isDigit_of_mem_decimal hc
  have hlow : -2 ^ (width - 1) ≤ (n : ℤ) := by
    have hpos : (0 : ℤ) ≤ 2 ^ (width - 1) := by positivity
    omega
  have hhigh : (n : ℤ) < 2 ^ (width - 1) := by exact_mod_cast h
  simp only [parseNumber, hsign, digitsValue_decimal, Bool.false_eq_true, if_false]
  exact if_pos ⟨decimal_ne_nil n, hall, hlow, hhigh⟩

/-- The parts of an encoding: the numbers, and of the message what `split` leaves. -/
lemma split_packetPieces (p : ZejfMeteo.Packet) (checksum : UInt32) :
    split semicolon (print (packetPieces p checksum)).tail.dropLast =
      [decimal p.fromId.toNat, decimal p.toId.toNat, decimal p.command.toNat, decimal p.ttl.toNat,
        decimal checksum.toNat, decimal p.flags.toNat, decimal p.messageSize.toNat] ++
        (p.text.splitOn semicolon).rdropWhile List.isEmpty := by
  have hdecimal : ∀ n, semicolon ∉ decimal n := fun n hn =>
    absurd (isDigit_of_mem_decimal hn) (by decide)
  have hsub : (print (packetPieces p checksum)).tail.dropLast = decimal p.fromId.toNat ++
      semicolon :: (decimal p.toId.toNat ++ semicolon :: (decimal p.command.toNat ++
      semicolon :: (decimal p.ttl.toNat ++ semicolon :: (decimal checksum.toNat ++
      semicolon :: (decimal p.flags.toNat ++ semicolon ::
      (decimal p.messageSize.toNat ++ semicolon :: p.text)))))) := by
    rw [print_packetPieces, print_packetHeader, List.tail_cons]
    simp only [← List.append_assoc, ← List.cons_append, List.dropLast_concat]
  rw [hsub, split, if_pos (by simp),
    List.splitOn_append_cons_self_of_not_mem (hdecimal _),
    List.splitOn_append_cons_self_of_not_mem (hdecimal _),
    List.splitOn_append_cons_self_of_not_mem (hdecimal _),
    List.splitOn_append_cons_self_of_not_mem (hdecimal _),
    List.splitOn_append_cons_self_of_not_mem (hdecimal _),
    List.splitOn_append_cons_self_of_not_mem (hdecimal _),
    List.splitOn_append_cons_self_of_not_mem (hdecimal _)]
  refine rdropWhile_append (l := [_, _, _, _, _, _, _]) ?_ _
  rw [List.rdropWhile_eq_self_iff]
  intro _
  simp [decimal_ne_nil]

/-- What the viewer makes of an encoding. -/
lemma fromString_packetPieces (p : ZejfMeteo.Packet) (checksum : UInt32) :
    Packet.fromString (print (packetPieces p checksum)) =
      let message := (p.text.splitOn semicolon).rdropWhile List.isEmpty
      if 1 < message.length then none
      else some ⟨p.fromId.toNat, p.toId.toNat, p.ttl.toNat, p.flags.toNat, p.command.toNat,
        checksum.toNat, p.messageSize.toNat, message.headD []⟩ := by
  have hhead : (print (packetPieces p checksum)).head? = some openBrace := by
    rw [print_packetPieces, print_packetHeader]
    rfl
  have hlast : (print (packetPieces p checksum)).getLast? = some closeBrace := by
    rw [print_packetPieces, ← List.append_assoc]
    exact List.getLast?_concat
  have h16 : ∀ x : UInt16, parseInt (decimal x.toNat) = some (x.toNat : ℤ) := fun x =>
    parseNumber_decimal (Nat.lt_trans x.toNat_lt (by decide))
  have h8 : ∀ x : UInt8, parseInt (decimal x.toNat) = some (x.toNat : ℤ) := fun x =>
    parseNumber_decimal (Nat.lt_trans x.toNat_lt (by decide))
  have h32 : ∀ x : UInt32, parseLong (decimal x.toNat) = some (x.toNat : ℤ) := fun x =>
    parseNumber_decimal (Nat.lt_trans x.toNat_lt (by decide))
  unfold Packet.fromString
  rw [if_neg (by rw [hhead, hlast]; simp), split_packetPieces]
  simp only [List.cons_append, List.nil_append, h16, h8, h32, Option.bind_eq_bind,
    Option.bind_some, Option.pure_def]

lemma replaceCharacter_eq_self_iff {m : List UInt8} {a b : UInt8} (hab : a ≠ b) :
    replaceCharacter m a b = m ↔ a ∉ m := by
  constructor
  · intro h ha
    have hmap := List.map_inj_left.mp (h.trans (List.map_id m).symm) a ha
    rw [if_pos rfl] at hmap
    exact hab hmap.symm
  · intro h
    refine (List.map_congr_left fun c hc => if_neg ?_).trans (List.map_id m)
    rintro rfl
    exact h hc

/-- The message is found whole exactly if it is a single part. -/
lemma readByViewer_iff {maxLength : ℕ} {p : ZejfMeteo.Packet} (htext : Message p.text)
    (hfit : (packetText p).length < maxLength) :
    ReadByViewer maxLength p ↔ semicolon ∉ p.text := by
  have hplain : p.prepare.text = p.text := by
    rw [prepare_text]
    exact (replaceCharacter_eq_self_iff (by decide)).mpr fun hm => (htext _ hm).2.2 rfl
  have hread : Packet.fromString (packetText p) = _ := fromString_packetPieces p.prepare _
  rw [hplain] at hread
  unfold ReadByViewer
  constructor
  · rintro ⟨p', buff, r, hwrite, hr, -, -, hmessage⟩ hsemi
    rw [packetToString_eq hfit] at hwrite
    obtain ⟨-, -, rfl⟩ := by simpa using hwrite
    -- No part has a semicolon, and neither has the text that stands for no part.
    have hfree : semicolon ∉ ((p.text.splitOn semicolon).rdropWhile List.isEmpty).headD [] := by
      cases hparts : (p.text.splitOn semicolon).rdropWhile List.isEmpty with
      | nil => exact List.not_mem_nil
      | cons m parts =>
        have hm : m ∈ (p.text.splitOn semicolon).rdropWhile List.isEmpty := by
          rw [hparts]
          exact List.mem_cons_self
        exact notMem_of_mem_splitOn ((List.rdropWhile_prefix List.isEmpty _).subset hm)
    rw [hread, Option.ite_none_left_eq_some] at hr
    rw [← Option.some.inj hr.2] at hmessage
    rw [← hmessage] at hsemi
    exact hfree hsemi
  · intro hsemi
    refine ⟨p.prepare, packetText p, _, packetToString_eq hfit, hread.trans (if_neg ?_),
      ⟨rfl, rfl, rfl, rfl, rfl, rfl⟩, rfl, ?_⟩
    · rw [List.splitOn_eq_singleton hsemi, List.rdropWhile_singleton]
      split
      · exact Nat.not_lt_zero 1
      · exact Nat.lt_irrefl 1
    · dsimp only
      rw [List.splitOn_eq_singleton hsemi, List.rdropWhile_singleton]
      split
      · rename_i hnil
        exact (List.isEmpty_iff.mp hnil).symm
      · rfl

/-- The packet that the firmware has for one of the viewer. -/
def Packet.firmware (r : Packet) : ZejfMeteo.Packet :=
  { packetCreate with
    fromId := UInt16.ofNat r.fromId.toNat
    toId := UInt16.ofNat r.toId.toNat
    ttl := UInt8.ofNat r.ttl.toNat
    flags := UInt32.ofNat r.flags.toNat
    command := UInt8.ofNat r.command.toNat
    messageSize := UInt16.ofNat r.messageSize.toNat
    message := some r.message }

lemma sameFields_firmware {r : Packet} (h : r.InRange) : r.SameFields r.firmware := by
  have hback : ∀ {n : ℤ} {k : ℕ}, 0 ≤ n ∧ n < 2 ^ k → n = ((n.toNat % 2 ^ k : ℕ) : ℤ) := by
    intro n k hn
    obtain ⟨m, rfl⟩ := Int.eq_ofNat_of_zero_le hn.1
    have hm : m < 2 ^ k := by exact_mod_cast hn.2
    rw [Int.toNat_natCast, Nat.mod_eq_of_lt hm]
  constructor
  · rw [Packet.firmware, UInt16.toNat_ofNat']
    exact hback h.fromId
  · rw [Packet.firmware, UInt16.toNat_ofNat']
    exact hback h.toId
  · rw [Packet.firmware, UInt8.toNat_ofNat']
    exact hback h.command
  · rw [Packet.firmware, UInt8.toNat_ofNat']
    exact hback h.ttl
  · rw [Packet.firmware, UInt32.toNat_ofNat']
    exact hback h.flags
  · rw [Packet.firmware, UInt16.toNat_ofNat']
    exact hback h.messageSize

/-- The writer of the viewer writes what the format of the firmware says. -/
lemma dropLast_toString {r : Packet} (h : r.InRange) :
    r.toString.dropLast = print (packetPieces r.firmware ZejfMeteo.checksumBypassValue) := by
  have hnat : ∀ n : ℕ, signedDecimal (n : ℤ) = decimal n := by
    intro n
    rw [signedDecimal, if_neg (by omega), Int.natAbs_natCast]
  have hs := sameFields_firmware h
  have hclose : ∀ t : List UInt8, t ++ [closeBrace, newline] = t ++ [closeBrace] ++ [newline] :=
    fun t => by rw [List.append_assoc]; rfl
  rw [print_packetPieces, print_packetHeader, Packet.toString, hs.fromId, hs.toId, hs.command,
    hs.ttl, hs.flags, hs.size, hclose, show checksumBypassValue = ((0 : ℕ) : ℤ) from rfl]
  simp only [hnat, ← List.append_assoc, ← List.cons_append, List.dropLast_concat]
  rfl

/-- A NUL ends the message before its end, so the sizes differ. -/
lemma packetFromString_nul {p : ZejfMeteo.Packet} (checksum : UInt32)
    (htext : ∀ c ∈ p.text, c ≠ tab ∧ c ≠ newline) (hnul : 0 ∈ p.text)
    (hsize : p.messageSize.toNat = p.text.length) (blank q : ZejfMeteo.Packet) :
    let line := print (packetPieces p checksum)
    packetFromString blank line line.length ≠ .ok (.ok, q) := by
  intro line
  obtain ⟨m, t, hm, hfree⟩ := List.eq_append_cons_of_mem hnul
  have hdecimal : ∀ n, 0 ∉ decimal n := fun n hn =>
    absurd (isDigit_of_mem_decimal hn) (by decide)
  have hseen : cText line = print (packetHeader p checksum) ++ m := by
    have hhead : 0 ∉ print (packetHeader p checksum) ++ m := by
      rw [print_packetHeader]
      simp only [List.mem_cons, List.mem_append, hdecimal, hfree, or_false, false_or]
      decide
    have hline : line = print (packetHeader p checksum) ++ m ++ 0 :: (t ++ [closeBrace]) := by
      simp only [line, print_packetPieces, hm, List.append_assoc, List.cons_append]
    rw [hline, cText, (takeWhile_append_stop (fun c hc => ?_) (by simp)).1]
    rw [decide_eq_true_eq]
    rintro rfl
    exact hhead hc
  have hshort : m.dropLast.length ≠ p.messageSize.toNat := by
    rw [hsize, hm, List.length_dropLast, List.length_append, List.length_cons]
    omega
  obtain ⟨hopen, hclose, h0, hfit⟩ := print_packetPieces_frame (s := line) rfl
  have hroom : ¬line.length < m.length + 1 := by
    rw [hm] at hfit
    simp only [List.length_append, List.length_cons, List.length_nil] at hfit
    omega
  simp only [packetFromString, hopen, hclose, h0, hseen, sscanf_packetHeader, if_false, ne_eq,
    not_true, bind, Except.bind, pure, Except.pure]
  by_cases hnil : m = []
  · subst hnil
    simp [sscanf]
  · have hstop : ∀ c ∈ m, c ∉ [tab, newline] := by
      intro c hc
      have hc := htext c (by rw [hm]; exact List.mem_append_left _ hc)
      simpa using hc
    have huntil := sscanf_until (fun _ => none) [] (t := []) hnil hstop (by simp)
    rw [List.append_nil] at huntil
    rw [List.length_dropLast] at hshort
    simp [huntil, hroom, hshort]

lemma readByFirmware_iff {r : Packet} (h : r.InRange) (htext : Message r.message) :
    ReadByFirmware r ↔ 0 ∉ r.message ∧ newlineCode ∉ r.message ∧
      r.checksum = checksumBypassValue := by
  have hsize : r.firmware.messageSize.toNat = r.message.length := by
    have hs := (sameFields_firmware h).size
    rw [h.size] at hs
    exact_mod_cast hs.symm
  have hfields := sameFields_firmware h
  unfold ReadByFirmware
  rw [dropLast_toString h]
  have hstop : ∀ c ∈ r.firmware.text, c ≠ tab ∧ c ≠ newline := fun c hc => (htext c hc).2
  by_cases hnul : 0 ∈ r.message
  · refine iff_of_false (fun hread => ?_) (fun hc => hc.1 hnul)
    obtain ⟨q, hq, -⟩ := hread packetCreate
    exact packetFromString_nul _ hstop hnul hsize packetCreate q hq
  · have hplain : ∀ c ∈ r.firmware.text, c ≠ 0 ∧ c ≠ tab ∧ c ≠ newline := by
      intro c hc
      refine ⟨?_, hstop c hc⟩
      rintro rfl
      exact hnul hc
    have hprint : print (packetPieces r.firmware ZejfMeteo.checksumBypassValue) =
        print (packetPieces r.firmware ZejfMeteo.checksumBypassValue) := rfl
    have hread := fun blank => packetFromString_print hprint blank hplain
    have hlen : ¬r.firmware.text.length ≠ r.firmware.messageSize.toNat := by
      rw [hsize]
      exact not_not.mpr rfl
    simp only [hread, hlen, if_false, ne_eq, not_true, false_and]
    constructor
    · intro hok
      obtain ⟨q, hq, -, hsum, hmessage⟩ := hok packetCreate
      obtain ⟨-, rfl⟩ := Prod.mk.inj (Except.ok.inj hq)
      refine ⟨hnul, ?_, hsum⟩
      exact (replaceCharacter_eq_self_iff (by decide)).mp (Option.some.inj hmessage)
    · rintro ⟨-, hcode, hsum⟩ blank
      exact ⟨_, rfl, ⟨hfields.fromId, hfields.toId, hfields.command, hfields.ttl, hfields.flags,
        hfields.size⟩, hsum, congrArg some ((replaceCharacter_eq_self_iff (by decide)).mpr hcode)⟩

/-- **Two formats for one packet.** The viewer splits a line at every semicolon and drops the
empty parts at its end, while the firmware takes the message up to the end of the line; and
only the firmware has a code for newlines. -/
theorem readByViewer_and_readByFirmware_iff (maxLength : ℕ) (p : ZejfMeteo.Packet) (r : Packet)
    (hfit : (packetText p).length < maxLength) (hp : Message p.text) (hrange : r.InRange)
    (hr : Message r.message) :
    (ReadByViewer maxLength p ↔ semicolon ∉ p.text) ∧
      (ReadByFirmware r ↔ 0 ∉ r.message ∧ newlineCode ∉ r.message ∧
        r.checksum = checksumBypassValue) :=
  ⟨readByViewer_iff hp hfit, readByFirmware_iff hrange hr⟩

/-- What the viewer sends with a message of its own. -/
def viewerPacket (message : List UInt8) : Packet :=
  ⟨1, 0xFFFF, 0, 0xFFFFFFFF, 0x0B, 0, message.length, message⟩

/-- A packet of the firmware with the message. -/
def firmwarePacket (message : List UInt8) : ZejfMeteo.Packet :=
  { packetCreate with fromId := 1, command := 0x02, message := some message }

theorem letters_readByViewer_and_readByFirmware :
    (ReadByViewer 128 (firmwarePacket (ascii "1,2")) ↔ semicolon ∉ ascii "1,2") ∧
      (ReadByFirmware (viewerPacket (ascii "a;b")) ↔ 0 ∉ ascii "a;b" ∧ newlineCode ∉ ascii "a;b" ∧
        checksumBypassValue = checksumBypassValue) :=
  readByViewer_and_readByFirmware_iff 128 (firmwarePacket (ascii "1,2"))
    (viewerPacket (ascii "a;b")) (by decide +kernel) (by decide)
    ⟨by decide, by decide, by decide, by decide, by decide, by decide, by decide, rfl⟩ (by decide)

/-- A message with a semicolon, which the firmware reads back, is too many parts for the
viewer. -/
theorem separator_not_readByViewer :
    (packetText (firmwarePacket (ascii "a;b"))).length < 128 ∧
      Message (firmwarePacket (ascii "a;b")).text ∧
      ¬ReadByViewer 128 (firmwarePacket (ascii "a;b")) := by
  have hfit : (packetText (firmwarePacket (ascii "a;b"))).length < 128 := by decide +kernel
  refine ⟨hfit, by decide, fun h => ?_⟩
  exact (readByViewer_iff (by decide) hfit).mp h (by decide)

end ZejfMeteo.Viewer
