import ZejfMeteo.TransmitRuns

/-!
# The hop limit

`network_accept` counts up the `ttl` of a line and drops it when it reaches `PACKET_MAX_TTL`.
The number is written without a limit, scanned into 16 bits and kept in 8, so a number that is
written too large may come out small.
-/

namespace ZejfMeteo
open Runs Format

variable {δ : Type}

/-- The number in the `ttl` field of a line, if the line is read as far as that. -/
def writtenTtl (line : List UInt8) : Option ℤ :=
  ((sscanfInts (fun _ => none) packetFormat (cText line))[3]?).join

/-- The `ttl` of the packet that a line with the written `ttl` becomes, before it is looked at. -/
def arrivalTtl (t : ℤ) : ℕ := (scannedNat t + 1) % 2 ^ 8

/-- `packet_from_string` reads a packet from the line. -/
def Readable (line : List UInt8) : Prop :=
  ∃ p, packetFromString packetCreate line line.length = .ok (.ok, p)

/-- `n` nodes with this hop limit accept a line in succession. Each of them sends on what it made
of the line, as its queue and `network_send_tx` or `network_send_everywhere` do. -/
inductive AcceptedBy (maxTtl : ℕ) : ℕ → List UInt8 → Prop
  | nobody (line : List UInt8) : AcceptedBy maxTtl 0 line
  | node {σ : Type} (T : Target σ) (hT : T.packetMaxTtl = maxTtl) {line : List UInt8}
    {interface n : ℕ} {p : Packet} (haccept : acceptedPacket T line interface = some p)
    (hnext : AcceptedBy maxTtl n (p.wire T)) : AcceptedBy maxTtl (n + 1) line

/-- `network_accept` refuses the line and leaves the node as it was, or the written number leaves
room for a hop and the packet that is handed to `network_send_packet` has it counted. -/
def CountsHop (T : Target δ) (s : Globals δ) (line : List UInt8) : Prop :=
  ∀ (interface : ℕ) (time : UInt32),
    (acceptedPacket T line interface = none ∧
      ∃ rv ps, (networkAccept T line line.length interface time).run s =
        .ok rv { s with packets := ps } ∧ rv ≠ .ok ∧ ∀ b, ps.cells b = s.packets.cells b) ∨
    ∃ p ps t, acceptedPacket T line interface = some p ∧
      (networkAccept T line line.length interface time).run s =
        (networkSendPacket T s.packets.next time).run { s with packets := ps } ∧
      ps.cells s.packets.next = some p ∧
      writtenTtl line = some t ∧ t + 1 < T.packetMaxTtl ∧ (p.ttl.toNat : ℤ) = t + 1

/-- The hop limit holds for the line, at the first node and over all hops. -/
structure HopLimited (T : Target δ) (s : Globals δ) (line : List UInt8) : Prop where
  counts : CountsHop T s line
  hops : ∀ n t, writtenTtl line = some t → AcceptedBy T.packetMaxTtl n line →
    (n : ℤ) ≤ max 0 (T.packetMaxTtl - 1 - t)

section Reading

variable {T : Target δ} {line : List UInt8} {p : Packet} {interface maxTtl n : ℕ} {t : ℤ}

/-- The `ttl` of a packet is the written one, as far as 8 bits can hold it. -/
lemma packetFromString_ttl (h : packetFromString packetCreate line line.length = .ok (.ok, p)) :
    ∃ t, writtenTtl line = some t ∧ (p.ttl + 1).toNat = arrivalTtl t := by
  obtain ⟨fromId, toId, command, ttl, checksum, flags, message, hscan, rfl⟩ :=
    packetFromString_inv h
  have httl : (sscanf (fun _ => none) packetFormat (cText line))[3]? = some (.num ttl) := by
    rw [hscan]
    rfl
  obtain ⟨width, t, hwidth, hwritten, hn⟩ := getElem?_sscanfInts httl
  obtain rfl : 16 = width := Directive.num.inj (Option.some.inj hwidth)
  refine ⟨t, by rw [writtenTtl, hwritten]; rfl, ?_⟩
  show (UInt8.ofNat ttl + 1).toNat = _
  rw [UInt8.toNat_add, UInt8.toNat_ofNat', UInt8.toNat_one, arrivalTtl, hn]
  omega

lemma Readable.acceptedPacket_eq (h : Readable line) : ∃ t, writtenTtl line = some t ∧
    ∀ {σ : Type} (T : Target σ) interface,
      (T.packetMaxTtl ≤ arrivalTtl t ∧ acceptedPacket T line interface = none) ∨
      (arrivalTtl t < T.packetMaxTtl ∧ ∃ p, acceptedPacket T line interface = some p ∧
        p.ttl.toNat = arrivalTtl t) := by
  obtain ⟨p, hp⟩ := h
  obtain ⟨t, hwritten, httl⟩ := packetFromString_ttl hp
  refine ⟨t, hwritten, ?_⟩
  intro σ T interface
  unfold acceptedPacket
  rw [hp]
  dsimp only
  rw [httl]
  by_cases hmax : T.packetMaxTtl ≤ arrivalTtl t
  · exact Or.inl ⟨hmax, if_pos hmax⟩
  · exact Or.inr ⟨Nat.lt_of_not_le hmax, _, if_neg hmax, httl⟩

lemma acceptedPacket_of_not_readable (h : ¬Readable line) (T : Target δ) (interface : ℕ) :
    acceptedPacket T line interface = none := by
  unfold acceptedPacket
  split
  · rename_i p hp
    exact absurd ⟨p, hp⟩ h
  · rfl

lemma readable_of_accepted (h : acceptedPacket T line interface = some p) : Readable line := by
  by_contra hnot
  rw [acceptedPacket_of_not_readable hnot] at h
  cases h

/-- A node writes the `ttl` of a packet as it is, also when its buffer cuts the text. -/
lemma writtenTtl_wire (p : Packet) : writtenTtl (p.wire T) = some (p.ttl.toNat : ℤ) := by
  have hsemi := head?_cons_stop (by decide : isDigit semicolon = false)
  have b16 := fun (x : UInt16) => Nat.lt_trans x.toNat_lt (by decide : 2 ^ 16 < 2 ^ 64)
  have b8 := fun (x : UInt8) => Nat.lt_trans x.toNat_lt (by decide : 2 ^ 8 < 2 ^ 64)
  have hdecimal : ∀ n, ∀ c ∈ decimal n, decide (c ≠ 0) = true := by
    intro n c hc
    rw [decide_eq_true_eq]
    rintro rfl
    exact absurd (isDigit_of_mem_decimal hc) (by decide)
  -- The four fields stand well before the end of the buffer.
  obtain ⟨rest, htext⟩ : ∃ rest, packetText p = (openBrace :: (decimal p.fromId.toNat ++
      semicolon :: (decimal p.toId.toNat ++ semicolon :: (decimal p.command.toNat ++
      semicolon :: (decimal p.ttl.toNat ++ [semicolon]))))) ++ rest := by
    obtain ⟨hfrom, hto, hcommand, httl, -⟩ := prepare_fields p
    rw [packetText, print_packetPieces, print_packetHeader, hfrom, hto, hcommand, httl]
    simp only [List.cons_append, List.append_assoc, List.nil_append, List.cons.injEq, true_and,
      List.append_cancel_left_eq]
    exact ⟨_, rfl⟩
  have hfits := T.packetMaxLength_ge
  obtain ⟨rest', hwire⟩ : ∃ rest', p.wire T = (openBrace :: (decimal p.fromId.toNat ++
      semicolon :: (decimal p.toId.toNat ++ semicolon :: (decimal p.command.toNat ++
      semicolon :: (decimal p.ttl.toNat ++ [semicolon]))))) ++ rest' := by
    rw [Packet.wire, htext, List.take_append, List.take_of_length_le]
    · exact ⟨_, rfl⟩
    · have hfrom := length_decimal_uint16 p.fromId
      have hto := length_decimal_uint16 p.toId
      have hcommand := length_decimal_uint8 p.command
      have httl := length_decimal_uint8 p.ttl
      simp only [List.length_append, List.length_cons, List.length_nil]
      omega
  obtain ⟨rest'', hseen⟩ : ∃ rest'', cText (p.wire T) = openBrace :: (decimal p.fromId.toNat ++
      semicolon :: (decimal p.toId.toNat ++ semicolon :: (decimal p.command.toNat ++
      semicolon :: (decimal p.ttl.toNat ++ semicolon :: rest'')))) := by
    rw [hwire, cText, List.takeWhile_append_of_pos]
    · simp only [List.cons_append, List.append_assoc, List.nil_append]
      exact ⟨_, rfl⟩
    · intro c hc
      simp only [List.mem_cons, List.mem_append, List.not_mem_nil, or_false] at hc
      rcases hc with rfl | hc | rfl | hc | rfl | hc | rfl | hc | rfl
      · decide
      · exact hdecimal _ c hc
      · decide
      · exact hdecimal _ c hc
      · decide
      · exact hdecimal _ c hc
      · decide
      · exact hdecimal _ c hc
      · decide
  rw [writtenTtl, hseen, packetFormat, sscanfInts_lit, sscanfInts_num 16 (b16 _) (hsemi _),
    sscanfInts_lit, sscanfInts_num 16 (b16 _) (hsemi _), sscanfInts_lit,
    sscanfInts_num 16 (b8 _) (hsemi _), sscanfInts_lit, sscanfInts_num 16 (b8 _) (hsemi _)]
  rfl

/-- A `ttl` that is kept in 8 bits is counted up as it is, except for the last one. -/
lemma arrivalTtl_natCast {n : ℕ} (hn : n < 2 ^ 8 - 1) : arrivalTtl n = n + 1 := by
  have hscan : scannedNat n = n := by
    unfold scannedNat
    rw [Int.natAbs_natCast, if_neg (by omega)]
    omega
  rw [arrivalTtl, hscan, Nat.mod_eq_of_lt (by omega)]

/-- **At most so many hops.** A number that is counted up as it is written bounds the nodes that
accept the line, and so does one that no node accepts. -/
lemma AcceptedBy.le (h : AcceptedBy maxTtl n line) (hmax : maxTtl < 2 ^ 8)
    (hwritten : writtenTtl line = some t)
    (ht : (arrivalTtl t : ℤ) = t + 1 ∨ maxTtl ≤ arrivalTtl t) :
    (n : ℤ) ≤ max 0 (maxTtl - 1 - t) := by
  induction h generalizing t with
  | nobody line => exact le_max_left _ _
  | node T hT haccept hnext ih =>
    obtain ⟨t', hwritten', hcases⟩ := (readable_of_accepted haccept).acceptedPacket_eq
    obtain rfl := Option.some.inj (hwritten.symm.trans hwritten')
    rcases hcases T _ with ⟨-, hnone⟩ | ⟨hlt, p, hp, httl⟩
    · rw [haccept] at hnone
      cases hnone
    · obtain rfl := Option.some.inj (haccept.symm.trans hp)
      rw [hT] at hlt
      have hcounted := ht.resolve_right (Nat.not_le_of_lt hlt)
      have hnextTtl := ih (writtenTtl_wire _)
        (Or.inl (by rw [arrivalTtl_natCast (by omega)]; rfl))
      rw [httl] at hnextTtl
      omega

end Reading

/-- **When the hop limit holds for a line.** The number is counted up as it is written, or it is
too large even after what 8 bits make of it. -/
theorem hopLimited_iff (T : Target δ) (hmax : T.packetMaxTtl < 2 ^ 8) (s : Globals δ)
    (line : List UInt8) : HopLimited T s line ↔ (Readable line → ∃ t, writtenTtl line = some t ∧
      ((arrivalTtl t : ℤ) = t + 1 ∨ T.packetMaxTtl ≤ arrivalTtl t)) := by
  constructor
  · intro h hreadable
    obtain ⟨t, hwritten, hcases⟩ := hreadable.acceptedPacket_eq
    refine ⟨t, hwritten, ?_⟩
    rcases hcases T 0 with ⟨hfull, -⟩ | ⟨-, p, hp, httl⟩
    · exact Or.inr hfull
    · obtain ⟨hnone, -⟩ | ⟨p', ps, t', hp', -, -, hwritten', -, httl'⟩ := h.counts 0 0
      · rw [hp] at hnone
        cases hnone
      · obtain rfl := Option.some.inj (hp.symm.trans hp')
        obtain rfl := Option.some.inj (hwritten.symm.trans hwritten')
        rw [← httl]
        exact Or.inl httl'
  · intro h
    refine ⟨?_, ?_⟩
    · intro interface time
      cases hp : acceptedPacket T line interface with
      | none =>
        obtain ⟨rv, ps, hrun, hrv, -, hps⟩ := networkAccept_refused hp s time
        exact Or.inl ⟨rfl, rv, ps, hrun, hrv, hps⟩
      | some p =>
        obtain ⟨ps, hrun, hnew, -⟩ := networkAccept_accepted hp s time
        have hreadable := readable_of_accepted hp
        obtain ⟨t, hwritten, hcases⟩ := hreadable.acceptedPacket_eq
        obtain ⟨t', hwritten', ht⟩ := h hreadable
        obtain rfl := Option.some.inj (hwritten.symm.trans hwritten')
        rcases hcases T interface with ⟨-, hnone⟩ | ⟨hlt, p', hp', httl⟩
        · rw [hp] at hnone
          cases hnone
        · obtain rfl := Option.some.inj (hp.symm.trans hp')
          have hcounted := ht.resolve_right (Nat.not_le_of_lt hlt)
          refine Or.inr ⟨p, ps, t, rfl, hrun, hnew, hwritten, by omega, ?_⟩
          rw [httl, hcounted]
    · intro n t hwritten haccepted
      cases haccepted with
      | nobody => exact le_max_left _ _
      | node T' hT haccept hnext =>
        obtain ⟨t', hwritten', ht⟩ := h (readable_of_accepted haccept)
        obtain rfl := Option.some.inj (hwritten.symm.trans hwritten')
        exact AcceptedBy.le (.node T' hT haccept hnext) hmax hwritten ht

/-- `{6;5;5;6;0;0;0;}`, a line that one more node may accept. -/
def lastHopLine : List UInt8 := ascii "\x7b6;5;5;6;0;0;0;\x7d"

theorem lastHopLine_hopLimited : HopLimited bareServer twoLinks lastHopLine := by
  refine (hopLimited_iff bareServer (by decide) twoLinks lastHopLine).mpr ?_
  intro _
  exact ⟨6, by decide, Or.inl (by decide)⟩

/-- The number 256 comes out as 0. -/
theorem wrappedTtl_not_hopLimited : ¬∀ line, HopLimited bareServer twoLinks line := by
  intro h
  obtain ⟨hnone, -⟩ | ⟨p, ps, t, -, -, -, hwritten, hlt, -⟩ :=
    (h (ascii "\x7b6;5;5;256;0;0;0;\x7d")).counts 0 0
  · revert hnone
    decide
  · have ht : writtenTtl (ascii "\x7b6;5;5;256;0;0;0;\x7d") = some 256 := by decide
    obtain rfl := Option.some.inj (ht.symm.trans hwritten)
    exact absurd hlt (by decide)

end ZejfMeteo
