import ZejfMeteo.Protocol
import ZejfMeteo.Lib.Fields
import Mathlib.Data.List.TakeWhile

/-!
# What the lines of packets say

`packet_from_string` scans more than `packet_to_string` writes: blanks, signs and numbers of any
size, and a message only as far as a TAB. A line is compared with the packet that is read from it.
-/

namespace ZejfMeteo
open Runs Bytes Format Lines

/-- The texts in front of the first seven semicolons. -/
def writtenFields (line : List UInt8) : List (List UInt8) :=
  (firstLines semicolon 7 (line.drop 1)).1

/-- The text behind the seventh semicolon, with the final brace. -/
def writtenTail (line : List UInt8) : List UInt8 := (firstLines semicolon 7 (line.drop 1)).2

/-- The numbers of a packet in the order of its text. -/
def Packet.numbers (p : Packet) : List ℕ :=
  [p.fromId.toNat, p.toId.toNat, p.command.toNat, p.ttl.toNat, p.checksum.toNat, p.flags.toNat,
    p.messageSize.toNat]

/-- The bits that a packet has for each of its numbers. -/
def numberBits : List ℕ := [16, 16, 8, 8, 32, 32, 16]

/-- The packet is the one that the line says. -/
structure MeansWhatItSays (line : List UInt8) (p : Packet) : Prop where
  numbers : p.numbers.map (fun n : ℕ => (n : ℤ)) = (writtenFields line).map writtenInt
  message : p.message = some (replaceCharacter (writtenTail line).dropLast newlineCode newline)

/-- The packet has room for every number of the line. -/
def NumbersFit (line : List UInt8) : Prop :=
  List.Forall₂ (fun f bits => 0 ≤ writtenInt f ∧ writtenInt f < 2 ^ bits) (writtenFields line)
    numberBits

/-- Nothing stops the scan of the message. -/
def Uncut (line : List UInt8) : Prop := ∀ c ∈ writtenTail line, c ∉ [tab, newline]

/-- The message and the brace behind it, as far as they are scanned. -/
def scannedMessage (rest : List UInt8) : List UInt8 :=
  rest.takeWhile (fun c => decide (c ∉ [tab, newline]))

/-- The widths that `packet_from_string` scans the numbers with. -/
def scanWidths : List ℕ := [16, 16, 16, 16, 32, 32, 16]

/-- The packet that is filled in from the fields of a line. -/
def scannedPacket (blank : Packet) (fs : List (List UInt8)) (message : List UInt8) : Packet :=
  { blank with
    fromId := UInt16.ofNat (number (fs.getD 0 []))
    toId := UInt16.ofNat (number (fs.getD 1 []))
    ttl := UInt8.ofNat (number (fs.getD 3 []))
    flags := UInt32.ofNat (number (fs.getD 5 []))
    checksum := UInt32.ofNat (number (fs.getD 4 []))
    command := UInt8.ofNat (number (fs.getD 2 []))
    messageSize := UInt16.ofNat (number (fs.getD 6 []))
    message := some message }

/-- The packet with its message as it is handed out. -/
def packetOfFields (blank : Packet) (fs : List (List UInt8)) (message : List UInt8) : Packet :=
  { scannedPacket blank fs message with
    message := some (replaceCharacter message newlineCode newline) }

/-- The size and the checksum that the fields tell are those of the message and the packet. -/
structure Checked (fs : List (List UInt8)) (message : List UInt8) : Prop where
  size : message.length = (scannedPacket packetCreate fs message).messageSize.toNat
  sum : (scannedPacket packetCreate fs message).checksum = checksumBypassValue ∨
    (scannedPacket packetCreate fs message).checksum =
      packetChecksum (scannedPacket packetCreate fs message)

section Scanning

variable {blank p : Packet} {line rest m : List UInt8} {fs : List (List UInt8)}

lemma packetFormat_eq : packetFormat =
    .lit openBrace :: (numberDirectives semicolon scanWidths ++ [.until [tab, newline]]) := rfl

lemma sscanf_fields (hfs : ∀ f ∈ fs, IsNumber f) (hlength : fs.length = 7) (rest : List UInt8) :
    sscanf (fun _ => none) packetFormat (openBrace :: (unlines semicolon fs ++ rest)) =
      List.zipWith (fun f width => .num (number f % 2 ^ width)) fs scanWidths ++
        if scannedMessage rest = [] then [] else [.str (scannedMessage rest)] := by
  have hwidths : fs.length = scanWidths.length := hlength
  rw [packetFormat_eq, sscanf_lit, sscanf_numberDirectives (by decide) hfs hwidths]
  rfl

/-- What `packetFromString` makes of a line with seven numbers. -/
lemma packetFromString_fields (hopen : charAt line 0 = .ok openBrace)
    (hclose : charAt line (line.length - 1) = .ok closeBrace)
    (hline : cText line = openBrace :: (unlines semicolon fs ++ rest))
    (hfs : ∀ f ∈ fs, IsNumber f) (hlength : fs.length = 7)
    (hm : m = (scannedMessage rest).dropLast) (blank : Packet) :
    packetFromString blank line line.length =
      if scannedMessage rest = [] then .ok (.packetFormatItems, blank)
      else if m.length ≠ number (fs.getD 6 []) % 2 ^ 16 then .ok (.packetFormatLength, blank)
      else if (scannedPacket blank fs m).checksum ≠ checksumBypassValue ∧
          (scannedPacket blank fs m).checksum ≠ packetChecksum (scannedPacket blank fs m) then
        .ok (.checksum, { scannedPacket blank fs m with message := none })
      else .ok (.ok, packetOfFields blank fs m) := by
  subst hm
  have hscan := sscanf_fields hfs hlength rest
  rw [← hline] at hscan
  have hfit : rest.length < line.length := by
    have hle := (List.takeWhile_prefix (l := line) (fun c => decide (c ≠ 0))).length_le
    rw [← cText, hline, List.length_cons, List.length_append] at hle
    omega
  have hroom : (scannedMessage rest).length ≤ rest.length :=
    (List.takeWhile_prefix _).length_le
  obtain ⟨f₀, f₁, f₂, f₃, f₄, f₅, f₆, rfl⟩ :
      ∃ f₀ f₁ f₂ f₃ f₄ f₅ f₆, fs = [f₀, f₁, f₂, f₃, f₄, f₅, f₆] := by
    match fs, hlength with
    | [f₀, f₁, f₂, f₃, f₄, f₅, f₆], _ => exact ⟨f₀, f₁, f₂, f₃, f₄, f₅, f₆, rfl⟩
  have hwidth : ∀ n : ℕ, UInt8.ofNat (n % 2 ^ 16) = UInt8.ofNat n := by
    intro n
    rw [← UInt8.toNat_inj, UInt8.toNat_ofNat', UInt8.toNat_ofNat']
    omega
  simp only [scanWidths, List.zipWith_cons_cons, List.zipWith_nil_left] at hscan
  have h0 : line.length ≠ 0 := by omega
  have hbuffer : ¬line.length < (scannedMessage rest).length + 1 := by omega
  by_cases hnil : scannedMessage rest = []
  · rw [if_pos hnil, List.append_nil] at hscan
    simp only [packetFromString, hopen, hclose, hscan, h0, hnil, bind, Except.bind, pure,
      Except.pure, ne_eq, not_true, if_false, if_true]
  · rw [if_neg hnil] at hscan
    simp only [packetFromString, hopen, hclose, hscan, h0, hnil, bind, Except.bind, pure,
      Except.pure, ne_eq, not_true, if_false, List.cons_append, List.nil_append, if_neg hbuffer,
      hwidth, UInt16.ofNat_mod_size, UInt32.ofNat_mod_size]
    rfl

lemma charAt_zero_iff : charAt line 0 = .ok openBrace ↔ line.head? = some openBrace := by
  cases line with
  | nil => exact ⟨fun h => absurd (Except.ok.inj h) (by decide), fun h => nomatch h⟩
  | cons c line => exact ⟨fun h => congrArg some (Except.ok.inj h),
      fun h => congrArg Except.ok (Option.some.inj h)⟩

lemma charAt_last_iff :
    charAt line (line.length - 1) = .ok closeBrace ↔ line.getLast? = some closeBrace := by
  rw [List.getLast?_eq_getElem?]
  cases line with
  | nil => exact ⟨fun h => absurd (Except.ok.inj h) (by decide), fun h => nomatch h⟩
  | cons c line =>
    have hlast : (c :: line).length - 1 < (c :: line).length := Nat.pred_lt (Nat.succ_ne_zero _)
    rw [charAt, dif_pos hlast, List.getElem?_eq_getElem hlast]
    exact ⟨fun h => congrArg some (Except.ok.inj h),
      fun h => congrArg Except.ok (Option.some.inj h)⟩

lemma packetFromString_brackets
    (h : packetFromString blank line line.length = .ok (.ok, p)) :
    charAt line 0 = .ok openBrace ∧ charAt line (line.length - 1) = .ok closeBrace := by
  unfold packetFromString at h
  cases hfirst : charAt line 0 with
  | error e =>
    rw [hfirst] at h
    cases h
  | ok first =>
    cases hlast : charAt line (line.length - 1) with
    | error e =>
      simp only [hfirst, hlast, bind, Except.bind, pure, Except.pure] at h
      split at h
      · cases h
      · split at h <;> cases h
    | ok last =>
      simp only [hfirst, hlast, bind, Except.bind, pure, Except.pure] at h
      by_cases hopen : first = openBrace
      · by_cases hclose : last = closeBrace
        · exact ⟨congrArg Except.ok hopen, congrArg Except.ok hclose⟩
        · rw [if_neg (not_not.mpr hopen), if_pos hclose] at h
          split at h <;> cases h
      · rw [if_pos hopen] at h
        cases h

lemma exists_fields (h : packetFromString blank line line.length = .ok (.ok, p)) : ∃ fs rest,
    cText line = openBrace :: (unlines semicolon fs ++ rest) ∧ (∀ f ∈ fs, IsNumber f) ∧
      fs.length = 7 := by
  obtain ⟨fromId, toId, command, ttl, checksum, flags, message, hscan, -⟩ :=
    packetFromString_inv h
  have hitems : scanWidths.length <
      (sscanf (fun _ => none) packetFormat (cText line)).length := by
    rw [hscan]
    exact Nat.lt_succ_self 7
  rw [packetFormat_eq] at hitems
  generalize cText line = s at hitems
  cases s with
  | nil => exact absurd hitems (Nat.not_lt_zero _)
  | cons c s =>
    by_cases hc : c = openBrace
    · subst hc
      rw [sscanf_lit] at hitems
      obtain ⟨fs, rest, hs, hlength, hfs⟩ := exists_fields_of_sscanf hitems
      exact ⟨fs, rest, congrArg (openBrace :: ·) hs, hfs, hlength⟩
    · rw [sscanf, if_neg hc] at hitems
      exact absurd hitems (Nat.not_lt_zero _)

/-- The lines that are read, and what is read from them. -/
lemma packetFromString_ok_iff : packetFromString blank line line.length = .ok (.ok, p) ↔
    line.head? = some openBrace ∧ line.getLast? = some closeBrace ∧ ∃ fs rest,
      cText line = openBrace :: (unlines semicolon fs ++ rest) ∧ (∀ f ∈ fs, IsNumber f) ∧
        fs.length = 7 ∧ scannedMessage rest ≠ [] ∧ Checked fs (scannedMessage rest).dropLast ∧
        p = packetOfFields blank fs (scannedMessage rest).dropLast := by
  rw [← charAt_zero_iff, ← charAt_last_iff]
  constructor
  · intro h
    obtain ⟨hopen, hclose⟩ := packetFromString_brackets h
    obtain ⟨fs, rest, hline, hfs, hlength⟩ := exists_fields h
    rw [packetFromString_fields hopen hclose hline hfs hlength rfl] at h
    refine ⟨hopen, hclose, fs, rest, hline, hfs, hlength, ?_⟩
    split at h
    · cases h
    rename_i hne
    split at h
    · cases h
    rename_i hsize
    split at h
    · cases h
    rename_i hsum
    refine ⟨hne, ⟨?_, ?_⟩, (Prod.mk.inj (Except.ok.inj h)).2.symm⟩
    · exact (not_not.mp hsize).trans UInt16.toNat_ofNat'.symm
    · exact Classical.or_iff_not_imp_left.mpr (fun h0 => not_not.mp (fun h1 => hsum ⟨h0, h1⟩))
  · rintro ⟨hopen, hclose, fs, rest, hline, hfs, hlength, hne, ⟨hsize, hsum⟩, rfl⟩
    have hbypass : ¬((scannedPacket blank fs (scannedMessage rest).dropLast).checksum ≠
        checksumBypassValue ∧ (scannedPacket blank fs (scannedMessage rest).dropLast).checksum ≠
          packetChecksum (scannedPacket blank fs (scannedMessage rest).dropLast)) :=
      fun h => hsum.elim h.1 h.2
    rw [packetFromString_fields hopen hclose hline hfs hlength rfl, if_neg hne,
      if_neg (not_not.mpr (hsize.trans UInt16.toNat_ofNat')), if_neg hbypass]

end Scanning

section Meaning

variable {blank p : Packet} {line rest f : List UInt8} {fs : List (List UInt8)}

lemma semicolon_notMem (h : IsNumber f) : semicolon ∉ f := by
  intro hmem
  have hcases := h.mem hmem
  revert hcases
  decide

lemma writtenFields_eq (hline : line = openBrace :: (unlines semicolon fs ++ rest))
    (hfs : ∀ f ∈ fs, IsNumber f) (hlength : fs.length = 7) :
    writtenFields line = fs ∧ writtenTail line = rest := by
  have hfirst := firstLines_unlines (fun f hf => semicolon_notMem (hfs f hf)) rest
  rw [hlength] at hfirst
  unfold writtenFields writtenTail
  rw [hline, List.drop_one, List.tail_cons, hfirst]
  exact ⟨rfl, rfl⟩

lemma packetOfFields_numbers (hlength : fs.length = 7) (blank : Packet) (m : List UInt8) :
    (packetOfFields blank fs m).numbers =
      List.zipWith (fun f bits => number f % 2 ^ bits) fs numberBits := by
  match fs, hlength with
  | [f₀, f₁, f₂, f₃, f₄, f₅, f₆], _ => rfl

lemma scannedMessage_length_iff :
    (scannedMessage rest).length = rest.length ↔ ∀ c ∈ rest, c ∉ [tab, newline] := by
  constructor
  · intro hlength c hc
    have heq : scannedMessage rest = rest :=
      (List.takeWhile_prefix _).eq_of_length hlength
    have hall := List.all_eq_true.mp (List.all_takeWhile (l := rest)) c (heq.symm ▸ hc)
    exact of_decide_eq_true hall
  · intro hall
    have heq : scannedMessage rest = rest :=
      List.takeWhile_eq_self_iff.mpr (fun c hc => decide_eq_true (hall c hc))
    rw [heq]

/-- **A line that is read means what it says exactly if its numbers fit.** Every number that is
stored is the written one, and the message is the whole text in front of the final brace, if and
only if every written number fits into its field of the packet and no TAB or newline cuts the
scan of the message. -/
theorem meansWhatItSays_iff (hnul : 0 ∉ line)
    (h : packetFromString blank line line.length = .ok (.ok, p)) :
    MeansWhatItSays line p ↔ NumbersFit line ∧ Uncut line := by
  obtain ⟨-, -, fs, rest, hline, hfs, hlength, hne, -, rfl⟩ := packetFromString_ok_iff.mp h
  rw [cText_of_notMem hnul] at hline
  obtain ⟨hfields, htail⟩ := writtenFields_eq hline hfs hlength
  have hnumbers : (packetOfFields blank fs (scannedMessage rest).dropLast).numbers.map
      (fun n : ℕ => (n : ℤ)) = (writtenFields line).map writtenInt ↔ NumbersFit line := by
    rw [NumbersFit, hfields, packetOfFields_numbers hlength, List.map_zipWith]
    exact map_number_eq_iff hfs (by decide) hlength
  have hmessage : (packetOfFields blank fs (scannedMessage rest).dropLast).message =
      some (replaceCharacter (writtenTail line).dropLast newlineCode newline) ↔ Uncut line := by
    rw [Uncut, htail, ← scannedMessage_length_iff]
    constructor
    · intro hsame
      have hlengths := congrArg List.length (Option.some.inj hsame)
      rw [length_replaceCharacter, length_replaceCharacter, List.length_dropLast,
        List.length_dropLast] at hlengths
      have hle : (scannedMessage rest).length ≤ rest.length :=
        (List.takeWhile_prefix _).length_le
      have hpos := List.length_pos_iff.mpr hne
      omega
    · intro hlengths
      have heq : scannedMessage rest = rest := (List.takeWhile_prefix _).eq_of_length hlengths
      rw [heq]
      rfl
  rw [← hnumbers, ← hmessage]
  exact ⟨fun ⟨hn, hm⟩ => ⟨hn, hm⟩, fun ⟨hn, hm⟩ => ⟨hn, hm⟩⟩

/-- Blanks and a sign are no harm. -/
def signedLine : List UInt8 := ascii "\x7b1; +2;3;4;0;007;2;ok\x7d"

theorem signedLine_means : ∃ p,
    packetFromString packetCreate signedLine signedLine.length = .ok (.ok, p) ∧
      MeansWhatItSays signedLine p := by
  have hread : packetFromString packetCreate signedLine signedLine.length =
      .ok (.ok, packetOfFields packetCreate (writtenFields signedLine) (ascii "ok")) := by
    decide +kernel
  refine ⟨_, hread, (meansWhatItSays_iff (by decide) hread).mpr ⟨?_, ?_⟩⟩
  · unfold NumbersFit
    decide +kernel
  · unfold Uncut
    decide +kernel

/-- The hop count is scanned into 16 bits and kept in 8. -/
def tallLine : List UInt8 := ascii "\x7b1;2;3;260;0;0;0;\x7d"

theorem tallLine_not_means : ∃ p,
    0 ∉ tallLine ∧ packetFromString packetCreate tallLine tallLine.length = .ok (.ok, p) ∧
      p.ttl = 4 ∧ ¬MeansWhatItSays tallLine p := by
  refine ⟨packetOfFields packetCreate (writtenFields tallLine) [], by decide +kernel,
    by decide +kernel, by decide +kernel, ?_⟩
  intro hmeans
  exact absurd hmeans.numbers (by decide +kernel)

end Meaning

end ZejfMeteo
