import ZejfMeteo.PacketLines
import Mathlib.Data.Nat.ModEq

/-!
# Lines with a wrong character

A packet is sent with a checksum, and `packet_from_string` refuses most lines in which one
character has been replaced. What gets through is told exactly.
-/

namespace ZejfMeteo
open Runs Bytes Format Lines

/-! ### The text of a packet -/

/-- A line with these fields and this message. -/
def packetLine (fs : List (List UInt8)) (m : List UInt8) : List UInt8 :=
  openBrace :: (unlines semicolon fs ++ (m ++ [closeBrace]))

/-- The fields of a packet as they are sent. -/
def textFields (p : Packet) : List (List UInt8) :=
  ({ p.prepare with checksum := packetChecksum p.prepare } : Packet).numbers.map decimal

/-- The part of the written number `j` that a packet keeps. -/
def keptNumber (j : ℕ) (f : List UInt8) : ℕ := number f % 2 ^ numberBits.getD j 0

def numberSum (j : ℕ) (f : List UInt8) : UInt32 :=
  checksum (leBytes (numberBits.getD j 0 / 8) (keptNumber j f))

/-- The line with `b` as its character `i` is refused or read as the packet that was sent. -/
def ReadRight (p : Packet) (i : ℕ) (b : UInt8) : Prop :=
  ∀ blank q, packetFromString blank ((packetText p).set i b) (packetText p).length = .ok (.ok, q) →
    p.SameContent q

/-- The ways in which another packet is read when `b` stands as some character of the line. -/
inductive Misread (p : Packet) (b : UInt8) : ℕ → Prop
  /-- Nothing checks the message if its packet has the checksum that stands for none. -/
  | message {k : ℕ} (hsum : packetChecksum p.prepare = checksumBypassValue)
      (hb : b ∉ [0, tab, newline]) (hk : k < p.text.length) :
      Misread p b (1 + ((unlines semicolon (textFields p)).length + k))
  /-- A number becomes another one whose bytes have the same sum. -/
  | number {pre post : List (List UInt8)} {f : List UInt8} {k : ℕ}
      (hfields : textFields p = pre ++ f :: post) (hk : k < f.length)
      (hnumber : IsNumber (f.set k b)) (hchecked : pre.length ∈ [0, 1, 2, 3, 5])
      (hother : keptNumber pre.length (f.set k b) ≠ keptNumber pre.length f)
      (hsum : packetChecksum p.prepare = checksumBypassValue ∨
        numberSum pre.length (f.set k b) = numberSum pre.length f) :
      Misread p b (1 + ((unlines semicolon pre).length + k))
  /-- One field becomes two: those behind it move on, and the size into the message. -/
  | split {pre post fs : List (List UInt8)} {f g last : List UInt8} {digit : UInt8}
      (hb : b = semicolon) (hfields : textFields p = pre ++ (f ++ digit :: g) :: post)
      (hsplit : pre ++ f :: g :: post = fs ++ [last]) (hnumbers : ∀ t ∈ fs, IsNumber t)
      (hchecked : Checked fs (last ++ semicolon :: p.prepare.text)) :
      Misread p b (1 + ((unlines semicolon pre).length + f.length))
  /-- Two fields become one, and the message up to a semicolon of its own becomes the size. -/
  | merge {pre post : List (List UInt8)} {f g last m : List UInt8}
      (hmessage : p.prepare.text = last ++ semicolon :: m)
      (hfields : textFields p ++ [last] = pre ++ f :: g :: post)
      (hnumbers : ∀ t ∈ pre ++ (f ++ b :: g) :: post, IsNumber t)
      (hchecked : Checked (pre ++ (f ++ b :: g) :: post) m) :
      Misread p b (1 + ((unlines semicolon pre).length + f.length))

section Texts

variable {p q blank : Packet} {b : UInt8} {i k : ℕ} {f m : List UInt8}
  {pre post fs : List (List UInt8)}

lemma textFields_eq (p : Packet) : textFields p =
    [decimal p.fromId.toNat, decimal p.toId.toNat, decimal p.command.toNat, decimal p.ttl.toNat,
      decimal (packetChecksum p.prepare).toNat, decimal p.flags.toNat,
      decimal (UInt16.ofNat p.text.length).toNat] := by
  obtain ⟨hfrom, hto, hcommand, httl, hflags⟩ := prepare_fields p
  simp only [textFields, Packet.numbers, List.map_cons, List.map_nil, hfrom, hto, hcommand, httl,
    hflags, prepare_messageSize]

lemma packetText_eq_line (p : Packet) : packetText p = packetLine (textFields p) p.prepare.text := by
  rw [packetText, print_packetPieces, print_packetHeader, packetLine, textFields]
  simp only [Packet.numbers, List.map_cons, List.map_nil, unlines_cons, List.append_assoc,
    List.cons_append]
  rfl

lemma textFields_isNumber (p : Packet) : ∀ f ∈ textFields p, IsNumber f := by
  intro f hf
  obtain ⟨n, -, rfl⟩ := List.mem_map.mp hf
  exact isNumber_decimal n

lemma length_textFields (p : Packet) : (textFields p).length = 7 := rfl

lemma packetLine_set_number (hk : k < f.length) :
    (packetLine (pre ++ f :: post) m).set (1 + ((unlines semicolon pre).length + k)) b =
      packetLine (pre ++ f.set k b :: post) m := by
  rw [packetLine, packetLine, Nat.add_comm 1, List.set_cons_succ, unlines_set hk]

lemma packetLine_set_separator :
    (packetLine (pre ++ f :: post) m).set (1 + ((unlines semicolon pre).length + f.length)) b =
      openBrace :: (unlines semicolon pre ++
        (f ++ b :: (unlines semicolon post ++ (m ++ [closeBrace])))) := by
  rw [packetLine, Nat.add_comm 1, List.set_cons_succ, unlines_set_separator]

lemma packetLine_set_message (hk : k < m.length) :
    (packetLine fs m).set (1 + ((unlines semicolon fs).length + k)) b =
      packetLine fs (m.set k b) := by
  rw [packetLine, packetLine, Nat.add_comm 1, List.set_cons_succ,
    List.set_append_right _ _ (Nat.le_add_right _ _), Nat.add_sub_cancel_left,
    List.set_append_left _ _ hk]

lemma getElem?_packetLine_message (hk : k < m.length) :
    (packetLine fs m)[1 + ((unlines semicolon fs).length + k)]? = some m[k] := by
  rw [packetLine, Nat.add_comm 1, List.getElem?_cons_succ,
    List.getElem?_append_right (Nat.le_add_right _ _), Nat.add_sub_cancel_left,
    List.getElem?_append_left hk, List.getElem?_eq_getElem hk]

lemma getElem?_packetLine_separator :
    (packetLine (pre ++ f :: post) m)[1 + ((unlines semicolon pre).length + f.length)]? =
      some semicolon := by
  rw [packetLine, Nat.add_comm 1, List.getElem?_cons_succ, unlines_append, unlines_cons,
    List.append_assoc, List.append_assoc, List.getElem?_append_right (Nat.le_add_right _ _),
    Nat.add_sub_cancel_left, List.getElem?_append_right (Nat.le_refl _), Nat.sub_self]
  rfl

lemma getLast?_packetLine : (packetLine fs m).getLast? = some closeBrace := by
  rw [packetLine, ← List.append_assoc, ← List.cons_append, List.getLast?_concat]

/-- Every character is a bracket or stands in a field, behind one or in the message. -/
lemma position_cases (h : i < (packetLine fs m).length) :
    i = 0 ∨ (∃ pre f post k, fs = pre ++ f :: post ∧ k ≤ f.length ∧
        i = 1 + ((unlines semicolon pre).length + k)) ∨
      (∃ k, k < m.length ∧ i = 1 + ((unlines semicolon fs).length + k)) ∨
      i = (packetLine fs m).length - 1 := by
  rw [packetLine, List.length_cons, List.length_append, List.length_append,
    List.length_singleton] at *
  rcases Nat.eq_zero_or_pos i with h0 | hpos
  · exact Or.inl h0
  by_cases hfield : i - 1 < (unlines semicolon fs).length
  · obtain ⟨pre, f, post, k, hfs, hi, hk⟩ := exists_position hfield
    exact Or.inr (Or.inl ⟨pre, f, post, k, hfs, hk, by omega⟩)
  by_cases hmessage : i - 1 - (unlines semicolon fs).length < m.length
  · exact Or.inr (Or.inr (Or.inl ⟨_, hmessage, by omega⟩))
  · exact Or.inr (Or.inr (Or.inr (by omega)))

end Texts

section Sums

variable {r s : UInt32} {c : UInt8} {m : List UInt8} {k : ℕ}

lemma toNat_shiftLeft_five (r : UInt32) : (r <<< 5).toNat = r.toNat * 32 % 2 ^ 32 := by
  have hfive : (5 : UInt32).toNat % 32 = 5 := rfl
  rw [UInt32.toNat_shiftLeft, hfive, Nat.shiftLeft_eq]

/-- One step of `checksum`: 33 is odd. -/
lemma checksum_step_inj (h : (r <<< 5) + r = (s <<< 5) + s) : r = s := by
  have hsum := congrArg UInt32.toNat h
  rw [UInt32.toNat_add, UInt32.toNat_add, toNat_shiftLeft_five, toNat_shiftLeft_five,
    Nat.mod_add_mod, Nat.mod_add_mod, ← Nat.mul_succ, ← Nat.mul_succ] at hsum
  have hmod := Nat.ModEq.cancel_right_of_coprime (by decide : Nat.gcd (2 ^ 32) 33 = 1) hsum
  exact UInt32.toNat_inj.mp (hmod.eq_of_lt_of_lt r.toNat_lt s.toNat_lt)

lemma foldl_checksum_inj (h : m.foldl (fun (r : UInt32) c => ((r <<< 5) + r) + c.toUInt32) r =
    m.foldl (fun (r : UInt32) c => ((r <<< 5) + r) + c.toUInt32) s) : r = s := by
  induction m generalizing r s with
  | nil => exact h
  | cons c m ih => exact checksum_step_inj ((UInt32.add_left_inj _).mp (ih h))

/-- The sum tells a single wrong byte. -/
lemma checksum_set_ne (hk : k < m.length) (hc : c ≠ m[k]) : checksum (m.set k c) ≠ checksum m := by
  intro h
  apply hc
  have hold := List.set_getElem_self hk
  rw [← hold, List.set_set, List.set_eq_take_append_cons_drop, if_pos hk,
    List.set_eq_take_append_cons_drop, if_pos hk] at h
  unfold checksum at h
  rw [List.foldl_append, List.foldl_append, List.foldl_cons, List.foldl_cons] at h
  have hbytes := (UInt32.add_right_inj _).mp (foldl_checksum_inj h)
  rw [← UInt8.toNat_inj]
  have hnats := congrArg UInt32.toNat hbytes
  rwa [UInt8.toNat_toUInt32, UInt8.toNat_toUInt32] at hnats

end Sums

section Reading

variable {p q blank : Packet} {b : UInt8} {i k : ℕ} {f m body : List UInt8}
  {pre post fs : List (List UInt8)}

lemma isNumber_zero_notMem (h : IsNumber f) : 0 ∉ f := by
  intro hmem
  have hcases := h.mem hmem
  revert hcases
  decide

lemma zero_notMem_openBrace (h : 0 ∉ body) : 0 ∉ openBrace :: body := by
  rw [List.mem_cons, not_or]
  exact ⟨by decide, h⟩

lemma zero_notMem_body (hfs : ∀ f ∈ fs, 0 ∉ f) (hm : 0 ∉ m) :
    0 ∉ unlines semicolon fs ++ (m ++ [closeBrace]) := by
  intro hmem
  rcases List.mem_append.mp hmem with hmem | hmem
  · rcases mem_unlines hmem with h0 | ⟨f, hf, h0⟩
    · exact absurd h0 (by decide)
    · exact hfs f hf h0
  · rcases List.mem_append.mp hmem with hmem | hmem
    · exact hm hmem
    · exact absurd (List.mem_singleton.mp hmem) (by decide)

lemma read_inv (hnul : 0 ∉ body)
    (h : packetFromString blank (openBrace :: body) (openBrace :: body).length = .ok (.ok, q)) :
    ∃ fs rest, body = unlines semicolon fs ++ rest ∧ (∀ f ∈ fs, IsNumber f) ∧ fs.length = 7 ∧
      scannedMessage rest ≠ [] ∧ Checked fs (scannedMessage rest).dropLast ∧
      q = packetOfFields blank fs (scannedMessage rest).dropLast := by
  obtain ⟨-, -, fs, rest, hline, hread⟩ := packetFromString_ok_iff.mp h
  rw [cText_of_notMem (zero_notMem_openBrace hnul)] at hline
  exact ⟨fs, rest, (List.cons.inj hline).2, hread⟩

lemma scannedMessage_plain (hm : ∀ c ∈ m, c ≠ 0 ∧ c ≠ tab ∧ c ≠ newline) :
    scannedMessage (m ++ [closeBrace]) = m ++ [closeBrace] := by
  refine List.takeWhile_eq_self_iff.mpr (fun c hc => decide_eq_true ?_)
  rcases List.mem_append.mp hc with hc | hc
  · simpa using (hm c hc).2
  · rw [List.mem_singleton.mp hc]
    decide

/-- A line of this form is read if its fields are numbers and check. -/
lemma read_line_iff (hm : ∀ c ∈ m, c ≠ 0 ∧ c ≠ tab ∧ c ≠ newline) (hfs : ∀ f ∈ fs, semicolon ∉ f ∧ 0 ∉ f)
    (hlength : fs.length = 7) :
    packetFromString blank (packetLine fs m) (packetLine fs m).length = .ok (.ok, q) ↔
      (∀ f ∈ fs, IsNumber f) ∧ Checked fs m ∧ q = packetOfFields blank fs m := by
  have hnul := zero_notMem_body (fun f hf => (hfs f hf).2) (fun h0 => (hm 0 h0).1 rfl)
  constructor
  · intro h
    obtain ⟨gs, rest, hbody, hgs, hlength', -, hchecked, rfl⟩ := read_inv hnul h
    obtain ⟨rfl, rfl⟩ := unlines_append_inj (fun f hf => (hfs f hf).1)
      (fun g hg => semicolon_notMem (hgs g hg)) (hlength.trans hlength'.symm) hbody
    rw [scannedMessage_plain hm, List.dropLast_concat] at hchecked ⊢
    exact ⟨hgs, hchecked, rfl⟩
  · rintro ⟨hnumbers, hchecked, rfl⟩
    refine packetFromString_ok_iff.mpr
      ⟨rfl, getLast?_packetLine, fs, m ++ [closeBrace], ?_, hnumbers, hlength, ?_⟩
    · exact cText_of_notMem (zero_notMem_openBrace hnul)
    · rw [scannedMessage_plain hm, List.dropLast_concat]
      exact ⟨by simp, hchecked, rfl⟩

lemma scannedPacket_textFields (p blank : Packet) (m : List UInt8) :
    scannedPacket blank (textFields p) m = { blank with
      fromId := p.fromId
      toId := p.toId
      ttl := p.ttl
      flags := p.flags
      checksum := packetChecksum p.prepare
      command := p.command
      messageSize := UInt16.ofNat p.text.length
      message := some m } := by
  have b8 : ∀ x : UInt8, number (decimal x.toNat) = x.toNat :=
    fun x => number_decimal (Nat.lt_trans x.toNat_lt (by decide))
  have b16 : ∀ x : UInt16, number (decimal x.toNat) = x.toNat :=
    fun x => number_decimal (Nat.lt_trans x.toNat_lt (by decide))
  have b32 : ∀ x : UInt32, number (decimal x.toNat) = x.toNat :=
    fun x => number_decimal (Nat.lt_trans x.toNat_lt (by decide))
  rw [textFields_eq]
  simp only [scannedPacket, List.getD_cons_zero, List.getD_cons_succ, b8, b16, b32,
    UInt8.ofNat_toNat, UInt16.ofNat_toNat, UInt32.ofNat_toNat]

lemma not_checked_of_length_ne (hlen : p.text.length < 2 ^ 16) (hm : m.length ≠ p.text.length) :
    ¬Checked (textFields p) m := by
  intro h
  have hsize := h.size
  rw [scannedPacket_textFields] at hsize
  exact hm (hsize.trans (UInt16.toNat_ofNat_of_lt' hlen))

/-- The message is not scanned to its end, and refused. -/
lemma not_read_of_cut {rest : List UInt8} (hlen : p.text.length < 2 ^ 16)
    (hcut : (scannedMessage rest).length ≤ p.text.length) (hne : scannedMessage rest ≠ []) :
    ¬Checked (textFields p) (scannedMessage rest).dropLast := by
  have hpos := List.length_pos_iff.mpr hne
  refine not_checked_of_length_ne hlen ?_
  rw [List.length_dropLast]
  omega

lemma textFields_separate (p : Packet) : ∀ f ∈ textFields p, semicolon ∉ f ∧ 0 ∉ f :=
  fun f hf => ⟨semicolon_notMem (textFields_isNumber p f hf),
    isNumber_zero_notMem (textFields_isNumber p f hf)⟩

lemma zero_notMem_packetText (htext : PlainText p.text) : 0 ∉ packetText p := by
  rw [packetText_eq_line]
  exact zero_notMem_openBrace (zero_notMem_body (fun f hf => (textFields_separate p f hf).2)
    (fun h0 => (prepare_plain htext 0 h0).1 rfl))

lemma not_read_nul (htext : PlainText p.text) (hlen : p.text.length < 2 ^ 16)
    (hi : i < (packetText p).length)
    (h : packetFromString blank ((packetText p).set i 0) ((packetText p).set i 0).length =
      .ok (.ok, q)) : False := by
  obtain ⟨-, -, fs, rest, hline, hfs, hlength, hne, hchecked, -⟩ := packetFromString_ok_iff.mp h
  rw [cText_set_zero (zero_notMem_packetText htext) hi] at hline
  -- What the scanner sees is a beginning of the line, so its fields are those of the line.
  have hwhole := List.take_append_drop i (packetText p)
  rw [hline, packetText_eq_line, packetLine, List.cons_append, List.append_assoc] at hwhole
  obtain ⟨rfl, hrest⟩ := unlines_append_inj (fun f hf => semicolon_notMem (hfs f hf))
    (fun f hf => (textFields_separate p f hf).1) hlength (List.cons.inj hwhole).2
  have hlengths := congrArg List.length hrest
  rw [List.length_append, ← packetLine, ← packetText_eq_line, List.length_drop,
    List.length_append, List.length_singleton, length_prepare_text] at hlengths
  have hscanned : (scannedMessage rest).length ≤ rest.length :=
    (List.takeWhile_prefix _).length_le
  exact not_read_of_cut hlen (by omega) hne hchecked

end Reading

section Numbers

variable {p q blank : Packet} {b : UInt8} {k : ℕ} {f g m : List UInt8}
  {f₀ f₁ f₂ f₃ f₄ f₅ f₆ : List UInt8} {pre post fs : List (List UInt8)}

lemma checked_iff (hm : m.length = keptNumber 6 f₆) : Checked [f₀, f₁, f₂, f₃, f₄, f₅, f₆] m ↔
    UInt32.ofNat (number f₄) = checksumBypassValue ∨ UInt32.ofNat (number f₄) =
      numberSum 2 f₂ + numberSum 6 f₆ + checksum m + numberSum 0 f₀ + numberSum 1 f₁ +
        numberSum 3 f₃ + numberSum 5 f₅ := by
  have hsize : m.length = (UInt16.ofNat (number f₆)).toNat := hm.trans UInt16.toNat_ofNat'.symm
  have htake : m.take (number f₆ % 2 ^ 16) = m := List.take_of_length_le hm.le
  have hsum : packetChecksum (scannedPacket packetCreate [f₀, f₁, f₂, f₃, f₄, f₅, f₆] m) =
      numberSum 2 f₂ + numberSum 6 f₆ + checksum m + numberSum 0 f₀ + numberSum 1 f₁ +
        numberSum 3 f₃ + numberSum 5 f₅ := by
    simp only [packetChecksum, scannedPacket, List.getD_cons_zero, List.getD_cons_succ,
      Option.getD_some, UInt8.toNat_ofNat', UInt16.toNat_ofNat', UInt32.toNat_ofNat', htake]
    rfl
  constructor
  · intro h
    rw [← hsum]
    exact h.sum
  · intro h
    rw [← hsum] at h
    exact ⟨hsize, h⟩

lemma sameContent_packetOfFields_iff :
    p.SameContent (packetOfFields blank [f₀, f₁, f₂, f₃, f₄, f₅, f₆] m) ↔
      keptNumber 0 f₀ = p.fromId.toNat ∧ keptNumber 1 f₁ = p.toId.toNat ∧
        keptNumber 2 f₂ = p.command.toNat ∧ keptNumber 3 f₃ = p.ttl.toNat ∧
        keptNumber 5 f₅ = p.flags.toNat ∧ keptNumber 6 f₆ = p.text.length ∧
        replaceCharacter m newlineCode newline = p.text := by
  have b8 : ∀ (n : ℕ) (x : UInt8), n % 2 ^ 8 = x.toNat ↔ UInt8.ofNat n = x := by
    intro n x
    rw [← UInt8.toNat_inj, UInt8.toNat_ofNat']
  have b16 : ∀ (n : ℕ) (x : UInt16), n % 2 ^ 16 = x.toNat ↔ UInt16.ofNat n = x := by
    intro n x
    rw [← UInt16.toNat_inj, UInt16.toNat_ofNat']
  have b32 : ∀ (n : ℕ) (x : UInt32), n % 2 ^ 32 = x.toNat ↔ UInt32.ofNat n = x := by
    intro n x
    rw [← UInt32.toNat_inj, UInt32.toNat_ofNat']
  constructor
  · rintro ⟨hfrom, hto, hcommand, httl, hflags, hsize, hmessage⟩
    exact ⟨(b16 _ _).mpr hfrom, (b16 _ _).mpr hto, (b8 _ _).mpr hcommand, (b8 _ _).mpr httl,
      (b32 _ _).mpr hflags, UInt16.toNat_ofNat'.symm.trans hsize, Option.some.inj hmessage⟩
  · rintro ⟨hfrom, hto, hcommand, httl, hflags, hsize, hmessage⟩
    exact ⟨(b16 _ _).mp hfrom, (b16 _ _).mp hto, (b8 _ _).mp hcommand, (b8 _ _).mp httl,
      (b32 _ _).mp hflags, UInt16.toNat_ofNat'.trans hsize, congrArg some hmessage⟩

lemma keptNumber_textFields (hlen : p.text.length < 2 ^ 16) :
    keptNumber 0 (decimal p.fromId.toNat) = p.fromId.toNat ∧
      keptNumber 1 (decimal p.toId.toNat) = p.toId.toNat ∧
      keptNumber 2 (decimal p.command.toNat) = p.command.toNat ∧
      keptNumber 3 (decimal p.ttl.toNat) = p.ttl.toNat ∧
      keptNumber 5 (decimal p.flags.toNat) = p.flags.toNat ∧
      keptNumber 6 (decimal (UInt16.ofNat p.text.length).toNat) = p.text.length := by
  have hkept : ∀ n j, n < 2 ^ numberBits.getD j 0 → numberBits.getD j 0 ≤ 32 →
      keptNumber j (decimal n) = n := by
    intro n j hn hbits
    have h64 : n < 2 ^ 64 := hn.trans_le (Nat.pow_le_pow_right (by decide) (by omega))
    rw [keptNumber, number_decimal h64, Nat.mod_eq_of_lt hn]
  refine ⟨hkept _ 0 p.fromId.toNat_lt (by decide), hkept _ 1 p.toId.toNat_lt (by decide),
    hkept _ 2 p.command.toNat_lt (by decide), hkept _ 3 p.ttl.toNat_lt (by decide),
    hkept _ 5 p.flags.toNat_lt (by decide), ?_⟩
  rw [UInt16.toNat_ofNat_of_lt' hlen]
  exact hkept _ 6 hlen (by decide)

lemma packetChecksum_prepare (hlen : p.text.length < 2 ^ 16) : packetChecksum p.prepare =
    numberSum 2 (decimal p.command.toNat) +
      numberSum 6 (decimal (UInt16.ofNat p.text.length).toNat) + checksum p.prepare.text +
      numberSum 0 (decimal p.fromId.toNat) + numberSum 1 (decimal p.toId.toNat) +
      numberSum 3 (decimal p.ttl.toNat) + numberSum 5 (decimal p.flags.toNat) := by
  obtain ⟨hfrom, hto, hcommand, httl, hflags⟩ := prepare_fields p
  obtain ⟨h₀, h₁, h₂, h₃, h₅, h₆⟩ := keptNumber_textFields hlen
  have htake : p.prepare.text.take p.text.length = p.prepare.text :=
    List.take_of_length_le (length_prepare_text p).le
  unfold numberSum packetChecksum
  rw [← Packet.text, hfrom, hto, hcommand, httl, hflags, prepare_messageSize, h₀, h₁, h₂, h₃, h₅,
    h₆, UInt16.toNat_ofNat_of_lt' hlen, htake]
  rfl

lemma ofNat_number_checksum (p : Packet) :
    UInt32.ofNat (number (decimal (packetChecksum p.prepare).toNat)) = packetChecksum p.prepare := by
  rw [number_decimal (Nat.lt_trans (packetChecksum p.prepare).toNat_lt (by decide)),
    UInt32.ofNat_toNat]

lemma checked_message_iff (hlen : p.text.length < 2 ^ 16) (hm : m.length = p.text.length) :
    Checked (textFields p) m ↔
      packetChecksum p.prepare = checksumBypassValue ∨ checksum p.prepare.text = checksum m := by
  obtain ⟨-, -, -, -, -, hsize⟩ := keptNumber_textFields hlen
  rw [textFields_eq, checked_iff (hm.trans hsize.symm), ofNat_number_checksum,
    packetChecksum_prepare hlen]
  simp only [UInt32.add_left_inj, UInt32.add_right_inj]

lemma checked_number_iff (htext : PlainText p.text) (hlen : p.text.length < 2 ^ 16)
    (hfields : textFields p = pre ++ f :: post) :
    Checked (pre ++ g :: post) p.prepare.text ∧
        ¬p.SameContent (packetOfFields blank (pre ++ g :: post) p.prepare.text) ↔
      pre.length ∈ [0, 1, 2, 3, 5] ∧ keptNumber pre.length g ≠ keptNumber pre.length f ∧
        (packetChecksum p.prepare = checksumBypassValue ∨
          numberSum pre.length g = numberSum pre.length f) := by
  obtain ⟨h₀, h₁, h₂, h₃, h₅, h₆⟩ := keptNumber_textFields hlen
  have hback := prepare_text_inverse htext
  have hsize := (length_prepare_text p).trans h₆.symm
  have hsum := packetChecksum_prepare hlen
  obtain ⟨hlt, hf, hset⟩ : pre.length < 7 ∧ (textFields p)[pre.length]? = some f ∧
      pre ++ g :: post = (textFields p).set pre.length g := by
    rw [hfields, List.set_append_right _ _ (Nat.le_refl _), Nat.sub_self, List.set_cons_zero,
      List.getElem?_append_right (Nat.le_refl _), Nat.sub_self, ← length_textFields p, hfields,
      List.length_append, List.length_cons]
    exact ⟨by omega, rfl, rfl⟩
  rw [hset]
  generalize pre.length = j at hlt hf
  rw [textFields_eq] at hf ⊢
  have hchecksum := ofNat_number_checksum p
  interval_cases j
  all_goals
    obtain rfl := Option.some.inj hf
    simp only [List.set_cons_zero, List.set_cons_succ, sameContent_packetOfFields_iff, h₀, h₁, h₂, h₃,
      h₅, h₆, hback, true_and, and_true, not_true, and_false]
  case «4» => simp
  case «6» =>
    -- Another size than that of the message is refused.
    refine ⟨fun h => absurd ?_ h.2, fun h => absurd h.1 (by decide)⟩
    have hkept := h.1.size
    rw [length_prepare_text] at hkept
    exact UInt16.toNat_ofNat'.symm.trans hkept.symm
  all_goals
    rw [checked_iff hsize, hchecksum, hsum]
    simp only [UInt32.add_left_inj, UInt32.add_right_inj]
    exact ⟨fun h => ⟨by decide, h.2, h.1.imp_right Eq.symm⟩,
      fun h => ⟨h.2.2.imp_right Eq.symm, h.2.1⟩⟩

end Numbers

section Misreading

variable {p q blank : Packet} {b old : UInt8} {i k : ℕ} {f g last m : List UInt8}
  {pre post fs : List (List UInt8)}

lemma packetLine_concat (fs : List (List UInt8)) (last m : List UInt8) :
    packetLine (fs ++ [last]) m = packetLine fs (last ++ semicolon :: m) := by
  rw [packetLine, packetLine, unlines_append, unlines_cons]
  simp only [List.append_assoc, List.cons_append]
  rfl

lemma packetLine_separate : packetLine (pre ++ (f ++ semicolon :: g) :: post) m =
    packetLine (pre ++ f :: g :: post) m := by
  rw [packetLine, packetLine, unlines_append, unlines_append, unlines_cons, unlines_cons,
    unlines_cons, List.append_assoc f, List.cons_append]

lemma isDigit_of_mem_textFields {c : UInt8} (hf : f ∈ textFields p) (hc : c ∈ f) :
    isDigit c = true := by
  obtain ⟨n, -, rfl⟩ := List.mem_map.mp hf
  exact isDigit_of_mem_decimal hc

lemma plain_of_isDigit {c : UInt8} (h : isDigit c = true) :
    c ≠ semicolon ∧ c ≠ 0 ∧ c ≠ tab ∧ c ≠ newline := by
  refine ⟨?_, ?_, ?_, ?_⟩ <;> rintro rfl <;> exact absurd h (by decide)

lemma isDigit_of_split {digit c : UInt8} {t : List UInt8}
    (hfields : textFields p = pre ++ (f ++ digit :: g) :: post)
    (ht : t ∈ pre ++ f :: g :: post) (hc : c ∈ t) : isDigit c = true := by
  have hin : ∀ s ∈ pre ++ (f ++ digit :: g) :: post, ∀ c ∈ s, isDigit c = true := by
    intro s hs c hc
    rw [← hfields] at hs
    exact isDigit_of_mem_textFields hs hc
  have hwhole := hin (f ++ digit :: g) (by simp)
  simp only [List.mem_append, List.mem_cons] at ht hin hwhole
  rcases ht with ht | rfl | rfl | ht
  · exact hin t (Or.inl ht) c hc
  · exact hwhole c (Or.inl hc)
  · exact hwhole c (Or.inr (Or.inr hc))
  · exact hin t (Or.inr (Or.inr ht)) c hc

lemma not_sameContent_of_length (hm : m.length ≠ p.text.length) :
    ¬p.SameContent (packetOfFields blank fs m) := by
  intro hsame
  apply hm
  rw [← Option.some.inj hsame.message, length_replaceCharacter]

/-- One other character is another message, also where it is written for a newline. -/
lemma replaceCharacter_set_ne (htext : PlainText p.text) (hk : k < p.prepare.text.length)
    (hb : b ≠ p.prepare.text[k]) (hnewline : b ≠ newline) :
    replaceCharacter (p.prepare.text.set k b) newlineCode newline ≠ p.text := by
  intro hsame
  have hold := (prepare_plain htext _ (List.getElem_mem hk)).2.2
  rw [← prepare_text_inverse htext, replaceCharacter, List.map_set, replaceCharacter] at hsame
  have hchar := congrArg (·[k]?) hsame
  rw [List.getElem?_set_self (by rwa [List.length_map]), List.getElem?_map,
    List.getElem?_eq_getElem hk] at hchar
  have hvalue := Option.some.inj hchar
  dsimp only at hvalue
  by_cases hcode : b = newlineCode
  · rw [if_pos hcode] at hvalue
    split at hvalue
    · exact hb (hcode.trans (by assumption : _ = newlineCode).symm)
    · exact hold hvalue.symm
  · rw [if_neg hcode] at hvalue
    split at hvalue
    · exact hnewline hvalue
    · exact hb hvalue

lemma plain_set (htext : PlainText p.text) (hb : b ∉ [0, tab, newline]) :
    ∀ c ∈ p.prepare.text.set k b, c ≠ 0 ∧ c ≠ tab ∧ c ≠ newline := by
  intro c hc
  rcases List.mem_or_eq_of_mem_set hc with hc | rfl
  · exact prepare_plain htext c hc
  · simpa using hb

lemma isNumber_set (hfields : textFields p = pre ++ f :: post) (hg : IsNumber g) :
    ∀ t ∈ pre ++ g :: post, IsNumber t := by
  have hin := textFields_isNumber p
  rw [hfields] at hin
  intro t ht
  rcases List.mem_append.mp ht with ht | ht
  · exact hin t (List.mem_append_left _ ht)
  · rcases List.mem_cons.mp ht with rfl | ht
    · exact hg
    · exact hin t (List.mem_append_right _ (List.mem_cons_of_mem _ ht))

lemma separate_of_isNumber (hfs : ∀ f ∈ fs, IsNumber f) : ∀ f ∈ fs, semicolon ∉ f ∧ 0 ∉ f :=
  fun f hf => ⟨semicolon_notMem (hfs f hf), isNumber_zero_notMem (hfs f hf)⟩

lemma plain_of_split {digit : UInt8} (htext : PlainText p.text)
    (hfields : textFields p = pre ++ (f ++ digit :: g) :: post)
    (hlast : last ∈ pre ++ f :: g :: post) :
    ∀ c ∈ last ++ semicolon :: p.prepare.text, c ≠ 0 ∧ c ≠ tab ∧ c ≠ newline := by
  intro c hc
  rcases List.mem_append.mp hc with hc | hc
  · exact (plain_of_isDigit (isDigit_of_split hfields hlast hc)).2
  · rcases List.mem_cons.mp hc with rfl | hc
    · decide
    · exact prepare_plain htext c hc

lemma plain_of_merge (htext : PlainText p.text) (h : p.prepare.text = last ++ semicolon :: m) :
    ∀ c ∈ m, c ≠ 0 ∧ c ≠ tab ∧ c ≠ newline := by
  intro c hc
  refine prepare_plain htext c ?_
  rw [h]
  exact List.mem_append_right _ (List.mem_cons_of_mem _ hc)

/-- The line is read, as another packet. -/
structure ReadWrong (p : Packet) (line : List UInt8) (fs : List (List UInt8))
    (m : List UInt8) : Prop where
  line_eq : line = packetLine fs m
  plain : ∀ c ∈ m, c ≠ 0 ∧ c ≠ tab ∧ c ≠ newline
  numbers : ∀ f ∈ fs, IsNumber f
  length_eq : fs.length = 7
  checked : Checked fs m
  other : ¬p.SameContent (packetOfFields packetCreate fs m)

lemma ReadWrong.of_message (htext : PlainText p.text) (hlen : p.text.length < 2 ^ 16)
    (hsum : packetChecksum p.prepare = checksumBypassValue) (hstops : b ∉ [0, tab, newline])
    (hk : k < p.prepare.text.length) (hb : b ≠ p.prepare.text[k]) :
    ReadWrong p ((packetLine (textFields p) p.prepare.text).set
      (1 + ((unlines semicolon (textFields p)).length + k)) b) (textFields p)
      (p.prepare.text.set k b) := by
  have hplain := plain_set (k := k) htext hstops
  have hlength : (p.prepare.text.set k b).length = p.text.length := by
    rw [List.length_set, length_prepare_text]
  refine ⟨packetLine_set_message hk, hplain, textFields_isNumber p, length_textFields p,
    (checked_message_iff hlen hlength).mpr (Or.inl hsum), fun hsame => ?_⟩
  exact replaceCharacter_set_ne htext hk hb (hplain b (List.mem_set hk b)).2.2
    (Option.some.inj hsame.message)

lemma ReadWrong.of_number (htext : PlainText p.text) (hlen : p.text.length < 2 ^ 16)
    (hfields : textFields p = pre ++ f :: post) (hk : k < f.length) (hnumber : IsNumber (f.set k b))
    (hj : pre.length ∈ [0, 1, 2, 3, 5])
    (hother : keptNumber pre.length (f.set k b) ≠ keptNumber pre.length f)
    (hsum : packetChecksum p.prepare = checksumBypassValue ∨
      numberSum pre.length (f.set k b) = numberSum pre.length f) :
    ReadWrong p ((packetLine (textFields p) p.prepare.text).set
      (1 + ((unlines semicolon pre).length + k)) b) (pre ++ f.set k b :: post) p.prepare.text := by
  obtain ⟨hchecked, hwrong⟩ := (checked_number_iff htext hlen hfields).mpr ⟨hj, hother, hsum⟩
  have hlength := length_textFields p
  rw [hfields] at hlength ⊢
  refine ⟨packetLine_set_number hk, prepare_plain htext, isNumber_set hfields hnumber, ?_, hchecked,
    hwrong⟩
  rwa [List.length_append, List.length_cons] at hlength ⊢

lemma ReadWrong.of_split {digit : UInt8} (htext : PlainText p.text)
    (hfields : textFields p = pre ++ (f ++ digit :: g) :: post)
    (hsplit : pre ++ f :: g :: post = fs ++ [last]) (hnumbers : ∀ t ∈ fs, IsNumber t)
    (hchecked : Checked fs (last ++ semicolon :: p.prepare.text)) :
    ReadWrong p ((packetLine (textFields p) p.prepare.text).set
      (1 + ((unlines semicolon pre).length + f.length)) semicolon) fs
      (last ++ semicolon :: p.prepare.text) := by
  have hk : f.length < (f ++ digit :: g).length := by
    rw [List.length_append, List.length_cons]
    omega
  have hset : (f ++ digit :: g).set f.length semicolon = f ++ semicolon :: g := by
    rw [List.set_append_right _ _ (Nat.le_refl _), Nat.sub_self, List.set_cons_zero]
  have hlast : last ∈ pre ++ f :: g :: post := by
    rw [hsplit]
    exact List.mem_append_right _ (List.mem_singleton_self last)
  have hplain := plain_of_split htext hfields hlast
  have hlength := congrArg List.length hsplit
  have hseven := length_textFields p
  rw [hfields] at hseven ⊢
  simp only [List.length_append, List.length_cons, List.length_nil] at hlength hseven
  refine ⟨?_, hplain, hnumbers, by omega, hchecked, not_sameContent_of_length ?_⟩
  · rw [packetLine_set_number hk, hset, packetLine_separate, hsplit, packetLine_concat]
  · rw [List.length_append, List.length_cons, length_prepare_text]
    omega

lemma ReadWrong.of_merge (htext : PlainText p.text)
    (hmessage : p.prepare.text = last ++ semicolon :: m)
    (hfields : textFields p ++ [last] = pre ++ f :: g :: post)
    (hnumbers : ∀ t ∈ pre ++ (f ++ b :: g) :: post, IsNumber t)
    (hchecked : Checked (pre ++ (f ++ b :: g) :: post) m) :
    ReadWrong p ((packetLine (textFields p) p.prepare.text).set
      (1 + ((unlines semicolon pre).length + f.length)) b) (pre ++ (f ++ b :: g) :: post) m := by
  have hlength := congrArg List.length hfields
  simp only [List.length_append, List.length_cons, List.length_nil, length_textFields] at hlength
  refine ⟨?_, plain_of_merge htext hmessage, hnumbers, ?_, hchecked, not_sameContent_of_length ?_⟩
  · rw [hmessage, ← packetLine_concat, hfields, packetLine_set_separator, packetLine,
      unlines_append, unlines_cons, unlines_cons]
    simp only [List.append_assoc, List.cons_append]
  · rw [List.length_append, List.length_cons]
    omega
  · rw [← length_prepare_text, hmessage, List.length_append, List.length_cons]
    omega

/-- Each of the ways leads to another packet. -/
lemma Misread.readWrong (h : Misread p b i) (htext : PlainText p.text)
    (hlen : p.text.length < 2 ^ 16) (hold : (packetText p)[i]? = some old) (hb : b ≠ old) :
    ∃ fs m, ReadWrong p ((packetText p).set i b) fs m := by
  rw [packetText_eq_line] at hold ⊢
  cases h with
  | message hsum hstops hk =>
    rw [← length_prepare_text] at hk
    rw [getElem?_packetLine_message hk] at hold
    exact ⟨_, _, .of_message htext hlen hsum hstops hk (Option.some.inj hold ▸ hb)⟩
  | number hfields hk hnumber hj hother hsum =>
    exact ⟨_, _, .of_number htext hlen hfields hk hnumber hj hother hsum⟩
  | split hsemi hfields hsplit hnumbers hchecked =>
    rw [hsemi]
    exact ⟨_, _, .of_split htext hfields hsplit hnumbers hchecked⟩
  | merge hmessage hfields hnumbers hchecked =>
    exact ⟨_, _, .of_merge htext hmessage hfields hnumbers hchecked⟩

section Inversion

variable (htext : PlainText p.text)

include htext

/-- A field with a separator in it. -/
lemma misread_of_split {digit : UInt8} (hfields : textFields p = pre ++ (f ++ digit :: g) :: post)
    (hread : packetFromString blank (packetLine (pre ++ f :: g :: post) p.prepare.text)
      (packetLine (pre ++ f :: g :: post) p.prepare.text).length = .ok (.ok, q)) :
    Misread p semicolon (1 + ((unlines semicolon pre).length + f.length)) := by
  have hdigits : ∀ t ∈ pre ++ f :: g :: post, ∀ c ∈ t, isDigit c = true :=
    fun t ht c hc => isDigit_of_split hfields ht hc
  have hplain : ∀ t ∈ pre ++ f :: g :: post, ∀ c ∈ t,
      c ≠ semicolon ∧ c ≠ 0 ∧ c ≠ tab ∧ c ≠ newline :=
    fun t ht c hc => plain_of_isDigit (hdigits t ht c hc)
  obtain ⟨fs, rest, hbody, hfs, hlength, -, hchecked, -⟩ := read_inv
    (zero_notMem_body (fun t ht h0 => (hplain t ht 0 h0).2.1 rfl)
      (fun h0 => (prepare_plain htext 0 h0).1 rfl)) hread
  have hseven := length_textFields p
  rw [hfields, List.length_append, List.length_cons] at hseven
  obtain ⟨more, hsplit, hrest⟩ := unlines_prefix (fun t ht => semicolon_notMem (hfs t ht))
    (fun t ht hsemi => (hplain t ht _ hsemi).1 rfl)
    (by rw [List.length_append, List.length_cons, List.length_cons]; omega) hbody.symm
  have hmore := congrArg List.length hsplit
  rw [List.length_append, List.length_append, List.length_cons, List.length_cons] at hmore
  obtain ⟨last, rfl⟩ := List.length_eq_one_iff.mp (by omega : more.length = 1)
  have hmessage : rest = (last ++ semicolon :: p.prepare.text) ++ [closeBrace] := by
    rw [hrest, unlines_cons]
    simp only [List.append_assoc, List.cons_append]
    rfl
  have hlast : last ∈ pre ++ f :: g :: post := by
    rw [hsplit]
    exact List.mem_append_right _ (List.mem_singleton_self last)
  rw [hmessage, scannedMessage_plain (plain_of_split htext hfields hlast),
    List.dropLast_concat] at hchecked
  exact Misread.split rfl hfields hsplit hfs hchecked

lemma misread_of_number (hlen : p.text.length < 2 ^ 16) (hfields : textFields p = pre ++ f :: post) (hk : k < f.length)
    (hb : b ≠ semicolon) (h0 : b ≠ 0)
    (hread : packetFromString blank (packetLine (pre ++ f.set k b :: post) p.prepare.text)
      (packetLine (pre ++ f.set k b :: post) p.prepare.text).length = .ok (.ok, q))
    (hwrong : ¬p.SameContent q) :
    Misread p b (1 + ((unlines semicolon pre).length + k)) := by
  have hin := textFields_separate p
  have hseven := length_textFields p
  rw [hfields] at hin hseven
  have hset : ∀ t ∈ pre ++ f.set k b :: post, semicolon ∉ t ∧ 0 ∉ t := by
    intro t ht
    rcases List.mem_append.mp ht with ht | ht
    · exact hin t (List.mem_append_left _ ht)
    rcases List.mem_cons.mp ht with rfl | ht
    · have hf := hin f (List.mem_append_right _ List.mem_cons_self)
      constructor <;> intro hmem <;> rcases List.mem_or_eq_of_mem_set hmem with hmem | hmem
      · exact hf.1 hmem
      · exact hb hmem.symm
      · exact hf.2 hmem
      · exact h0 hmem.symm
    · exact hin t (List.mem_append_right _ (List.mem_cons_of_mem _ ht))
  have hlength : (pre ++ f.set k b :: post).length = 7 := by
    rwa [List.length_append, List.length_cons] at hseven ⊢
  obtain ⟨hall, hchecked, rfl⟩ := (read_line_iff (prepare_plain htext) hset hlength).mp hread
  obtain ⟨hj, hother, hsum⟩ := (checked_number_iff htext hlen hfields).mp ⟨hchecked, hwrong⟩
  exact Misread.number hfields hk (hall _ (List.mem_append_right _ List.mem_cons_self)) hj hother
    hsum

/-- A separator that is none any more. -/
lemma misread_of_merge {body : List UInt8} (hfields : textFields p = pre ++ f :: post)
    (hb : b ≠ semicolon) (hnul : 0 ∉ body)
    (hread : packetFromString blank (openBrace :: body) (openBrace :: body).length = .ok (.ok, q))
    (hbody : body = unlines semicolon pre ++
      (f ++ b :: (unlines semicolon post ++ (p.prepare.text ++ [closeBrace])))) :
    Misread p b (1 + ((unlines semicolon pre).length + f.length)) := by
  have hin := textFields_separate p
  have hseven := length_textFields p
  rw [hfields] at hin
  rw [hfields, List.length_append, List.length_cons] at hseven
  obtain ⟨fs, rest, hscanned, hfs, hlength, hne, hchecked, -⟩ := read_inv hnul hread
  -- The fields in front of the separator are read as they are.
  obtain ⟨more, rfl, hrest⟩ := unlines_prefix
    (fun t ht => (hin t (List.mem_append_left _ ht)).1) (fun t ht => semicolon_notMem (hfs t ht))
    (by omega) (hbody.symm.trans hscanned)
  cases more with
  | nil =>
    rw [List.append_nil] at hlength
    omega
  | cons t more =>
    rw [unlines_cons, List.append_assoc, List.cons_append] at hrest
    obtain ⟨g, rfl, hbehind⟩ := append_cons_of_eq
      (hin f (List.mem_append_right _ List.mem_cons_self)).1 hb hrest
    rw [List.length_append, List.length_cons] at hlength
    have hg : ∀ t ∈ g :: more, semicolon ∉ t := by
      intro t ht
      rcases List.mem_cons.mp ht with rfl | ht
      · exact fun hsemi => semicolon_notMem (hfs _ (List.mem_append_right _ List.mem_cons_self))
          (List.mem_append_right f (List.mem_cons_of_mem b hsemi))
      · exact semicolon_notMem (hfs t (List.mem_append_right _ (List.mem_cons_of_mem _ ht)))
    -- Behind it there is one field more than there was, from the message.
    have hfields' : unlines semicolon post ++ (p.prepare.text ++ [closeBrace]) =
        unlines semicolon (g :: more) ++ rest := by
      rw [hbehind, unlines_cons, List.append_assoc, List.cons_append]
    obtain ⟨extra, hmore, hmessage⟩ := unlines_prefix
      (fun t ht => (hin t (List.mem_append_right _ (List.mem_cons_of_mem _ ht))).1) hg
      (by rw [List.length_cons]; omega) hfields'
    have hextra := congrArg List.length hmore
    rw [List.length_append, List.length_cons] at hextra
    obtain ⟨last, rfl⟩ := List.length_eq_one_iff.mp (by omega : extra.length = 1)
    have hbrace : rest ≠ [] := by
      rintro rfl
      exact hne rfl
    rw [unlines_cons, List.append_assoc, List.cons_append] at hmessage
    obtain ⟨m, rfl, htextm⟩ := concat_eq_append_cons hmessage hbrace
    rw [scannedMessage_plain (plain_of_merge htext htextm), List.dropLast_concat] at hchecked
    refine Misread.merge htextm ?_ hfs hchecked
    rw [hfields, List.append_assoc, List.cons_append, hmore]

/-- A wrong character in the message. -/
lemma misread_of_message (hlen : p.text.length < 2 ^ 16) (hk : k < p.prepare.text.length)
    (hb : b ≠ p.prepare.text[k]) (h0 : b ≠ 0)
    (hread : packetFromString blank (packetLine (textFields p) (p.prepare.text.set k b))
      (packetLine (textFields p) (p.prepare.text.set k b)).length = .ok (.ok, q)) :
    Misread p b (1 + ((unlines semicolon (textFields p)).length + k)) := by
  have hlength : (p.prepare.text.set k b).length = p.text.length := by
    rw [List.length_set, length_prepare_text]
  by_cases hstops : b ∈ [tab, newline]
  · have hnul : 0 ∉ p.prepare.text.set k b := by
      intro hmem
      rcases List.mem_or_eq_of_mem_set hmem with hmem | hmem
      · exact (prepare_plain htext 0 hmem).1 rfl
      · exact h0 hmem.symm
    obtain ⟨fs, rest, hbody, hfs, hseven, hne, hchecked, -⟩ := read_inv
      (zero_notMem_body (fun f hf => (textFields_separate p f hf).2) hnul) hread
    obtain ⟨rfl, rfl⟩ := unlines_append_inj (fun f hf => (textFields_separate p f hf).1)
      (fun f hf => semicolon_notMem (hfs f hf)) hseven.symm hbody
    -- The scan stops at `b`, so the message is too short.
    have hcut : (scannedMessage (p.prepare.text.set k b ++ [closeBrace])).length ≠
        (p.prepare.text.set k b ++ [closeBrace]).length := by
      intro hwhole
      exact scannedMessage_length_iff.mp hwhole b
        (List.mem_append_left _ (List.mem_set hk b)) hstops
    have hle : (scannedMessage (p.prepare.text.set k b ++ [closeBrace])).length ≤
        (p.prepare.text.set k b ++ [closeBrace]).length := (List.takeWhile_prefix _).length_le
    rw [List.length_append, hlength, List.length_singleton] at hcut hle
    exact absurd hchecked (not_read_of_cut hlen (by omega) hne)
  · have hplain : b ∉ [0, tab, newline] := by
      rw [List.mem_cons, not_or]
      exact ⟨h0, hstops⟩
    obtain ⟨-, hchecked, -⟩ := (read_line_iff (plain_set htext hplain) (textFields_separate p)
      (length_textFields p)).mp hread
    have hsum : packetChecksum p.prepare = checksumBypassValue := by
      rcases (checked_message_iff hlen hlength).mp hchecked with hsum | hsum
      · exact hsum
      · exact absurd hsum.symm (checksum_set_ne hk hb)
    exact Misread.message hsum hplain ((length_prepare_text p).symm ▸ hk)

/-- A wrong character in the fields. -/
lemma misread_of_field (hlen : p.text.length < 2 ^ 16) (hfields : textFields p = pre ++ f :: post)
    (hk : k ≤ f.length)
    (hold : (packetLine (textFields p) p.prepare.text)[1 + ((unlines semicolon pre).length + k)]? =
      some old) (hb : b ≠ old) (h0 : b ≠ 0)
    (hnul : 0 ∉ (packetLine (textFields p) p.prepare.text).set
      (1 + ((unlines semicolon pre).length + k)) b)
    (hread : packetFromString blank ((packetLine (textFields p) p.prepare.text).set
        (1 + ((unlines semicolon pre).length + k)) b)
      ((packetLine (textFields p) p.prepare.text).set
        (1 + ((unlines semicolon pre).length + k)) b).length = .ok (.ok, q))
    (hwrong : ¬p.SameContent q) : Misread p b (1 + ((unlines semicolon pre).length + k)) := by
  rw [hfields] at hread hold hnul
  by_cases hlt : k < f.length
  · rw [packetLine_set_number hlt] at hread
    by_cases hsemi : b = semicolon
    · -- A field with a separator in it is two fields.
      subst hsemi
      have hcut : f.take k ++ f[k] :: f.drop (k + 1) = f := by
        rw [List.getElem_cons_drop, List.take_append_drop]
      rw [List.set_eq_take_append_cons_drop, if_pos hlt, packetLine_separate] at hread
      rw [← hcut] at hfields
      have hmisread := misread_of_split htext hfields hread
      rwa [List.length_take_of_le hk] at hmisread
    · exact misread_of_number htext hlen hfields hlt hsemi h0 hread hwrong
  · obtain rfl : k = f.length := by omega
    rw [getElem?_packetLine_separator] at hold
    rw [packetLine_set_separator] at hread hnul
    have hsemi : b ≠ semicolon := Option.some.inj hold ▸ hb
    exact misread_of_merge htext hfields hsemi (List.not_mem_of_not_mem_cons hnul) hread rfl

end Inversion

/-- **A wrong character is detected, or it is one of four kinds.** The line of a packet with one
character replaced is refused or read as the same packet, if and only if it is none of these: a
character of the message where the checksum is zero; one that makes of a number another number
whose bytes have the same sum; a new separator in a field, or one that is lost, where the fields
that move tell the new size and a checksum that is zero or right. -/
theorem readRight_iff (htext : PlainText p.text) (hlen : p.text.length < 2 ^ 16)
    (hold : (packetText p)[i]? = some old) (hb : b ≠ old) :
    ReadRight p i b ↔ ¬Misread p b i := by
  constructor
  · intro hright hmisread
    obtain ⟨fs, m, hwrong⟩ := hmisread.readWrong htext hlen hold hb
    apply hwrong.other
    apply hright packetCreate
    rw [← List.length_set (i := i) (a := b), hwrong.line_eq]
    exact (read_line_iff hwrong.plain (separate_of_isNumber hwrong.numbers)
      hwrong.length_eq).mpr ⟨hwrong.numbers, hwrong.checked, rfl⟩
  · intro hnot blank q hread
    by_contra hwrong
    apply hnot
    obtain ⟨hi, hget⟩ := List.getElem?_eq_some_iff.mp hold
    rw [← List.length_set (i := i) (a := b)] at hread
    by_cases h0 : b = 0
    · rw [h0] at hread
      exact absurd hread (not_read_nul htext hlen hi)
    have hnul : 0 ∉ (packetText p).set i b := by
      intro hmem
      rcases List.mem_or_eq_of_mem_set hmem with hmem | hmem
      · exact zero_notMem_packetText htext hmem
      · exact h0 hmem.symm
    obtain ⟨hhead, hlast, -⟩ := packetFromString_ok_iff.mp hread
    rw [packetText_eq_line] at hread hold hi hhead hlast hnul
    rcases position_cases hi with rfl | ⟨pre, f, post, k, hfields, hk, rfl⟩ | ⟨k, hk, rfl⟩ | rfl
    · -- The first bracket.
      exact absurd ((Option.some.inj hhead).trans (Option.some.inj hold)) hb
    · exact misread_of_field htext hlen hfields hk hold hb h0 hnul hread hwrong
    · rw [packetLine_set_message hk] at hread
      rw [getElem?_packetLine_message hk] at hold
      exact misread_of_message htext hlen hk (Option.some.inj hold ▸ hb) h0 hread
    · -- The last bracket.
      rw [← List.getLast?_eq_getElem?, getLast?_packetLine] at hold
      rw [List.getLast?_eq_getElem?, List.length_set, List.getElem?_set_self hi] at hlast
      exact absurd ((Option.some.inj hlast).trans (Option.some.inj hold)) hb

/-- The bytes of 12427 and of -2427, which is kept as 63109, have the same sum. -/
def minusPacket : Packet :=
  { packetCreate with fromId := 12427, toId := 1, command := 5, message := some (ascii "ok") }

/-- A wrong letter in its message is detected. -/
theorem minusPacket_readRight : ReadRight minusPacket 28 0x61 := by
  have hold : (packetText minusPacket)[28]? = some 0x6F := by decide +kernel
  refine (readRight_iff (by decide) (by decide) hold (by decide)).mpr ?_
  have hfields : (unlines semicolon (textFields minusPacket)).length = 27 := by decide +kernel
  -- No field reaches as far as the message.
  have hbefore : ∀ pre f post, textFields minusPacket = pre ++ f :: post →
      (unlines semicolon pre).length + f.length < 27 := by
    intro pre f post h
    rw [h, unlines_append, unlines_cons, List.length_append, List.length_append,
      List.length_cons] at hfields
    omega
  generalize hi : 28 = i
  rintro (⟨hsum, -, -⟩ | ⟨h, hk, -, -, -, -⟩ | ⟨-, h, -, -, -⟩ | ⟨h, -, -, -⟩)
  · exact absurd hsum (by decide +kernel)
  · have hlt := hbefore _ _ _ h
    omega
  · have hlt := hbefore _ _ _ h
    rw [List.length_append] at hlt
    omega
  · have hsemi : semicolon ∈ minusPacket.prepare.text := by
      rw [h]
      exact List.mem_append_right _ List.mem_cons_self
    exact absurd hsemi (by decide)

/-- A minus in the place of its first digit is not. -/
theorem minusPacket_not_readRight : PlainText minusPacket.text ∧
    (packetText minusPacket).length < 128 ∧ (packetText minusPacket)[1]? = some 0x31 ∧
    ¬ReadRight minusPacket 1 0x2D := by
  refine ⟨by decide, by decide +kernel, by decide +kernel, fun hright => ?_⟩
  have hread : packetFromString packetCreate ((packetText minusPacket).set 1 0x2D)
      (packetText minusPacket).length = .ok (.ok, { minusPacket with
        fromId := 63109
        checksum := 2110276896
        messageSize := 2 }) := by
    decide +kernel
  exact absurd (hright packetCreate _ hread).fromId (by decide)

end Misreading

end ZejfMeteo
