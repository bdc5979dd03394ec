import ZejfMeteo.Lib.Lines
import ZejfMeteo.Protocol

/-!
# The reader of the wireless sensors

`tcp_client_recv` of `tcp_handler.c`: the bytes of a callback come in a chain of buffers and
are cut into packets at every newline.

The text of a line lives in a local array, so what a callback leaves unfinished is lost. The
walk reads the length of the next link before it looks whether there is one, so only an empty
link stops it in time.
-/

namespace ZejfMeteo
open Runs Lines

variable (S : Settings)

/-- A `pbuf` by its payload; `len` is its length. -/
abbrev Pbuf := List UInt8

/-- The connection, with the texts that have been passed to `network_accept` and the number of
bytes acknowledged by `tcp_recved`. -/
structure TcpClient where
  idleTime : ℕ
  complete : Bool
  recved : ℕ
  accepted : List (List UInt8)

/-! ### The code of `tcp_handler.c` -/

def pbufLen : List Pbuf → Run TcpClient ℕ
  | [] => throw .nullPointer
  | link :: _ => return link.length

def payloadAt (i : ℕ) : List Pbuf → Run TcpClient UInt8
  | [] => throw .nullPointer
  | link :: _ =>
    match link[i]? with
    | some ch => return ch
    | none => throw .outOfBounds

/-- `next_packet[j] = ch`. -/
def setChar (nextPacket : List UInt8) (j : ℕ) (ch : UInt8) : Run TcpClient (List UInt8) :=
  if j < nextPacket.length then
    return nextPacket.set j ch
  else
    throw .outOfBounds

/-- What the loop does with a character; it returns `j` and `next_packet`. -/
def recvChar (ch : UInt8) (j : ℕ) (nextPacket : List UInt8) :
    Run TcpClient (ℕ × List UInt8) := do
  if ch = newline ∨ j = S.packetMaxLength - 1 then
    let nextPacket ← setChar nextPacket j 0
    modify (fun s => { s with accepted := s.accepted ++ [nextPacket.take j] })
    return (0, nextPacket)
  else
    let nextPacket ← setChar nextPacket j ch
    return (j + 1, nextPacket)

/-- The walk over the chain `p`. -/
def recvLoop : ℕ → List Pbuf → ℕ → ℕ → ℕ → List UInt8 → Run TcpClient Unit
  | 0, _, _, _, _, _ => throw .outOfFuel
  | fuel + 1, p, len, i, j, nextPacket => do
    if p ≠ [] ∧ 0 < len then
      let ch ← payloadAt i p
      let (j, nextPacket) ← recvChar S ch j nextPacket
      if i + 1 = len then
        let len ← pbufLen p.tail
        recvLoop fuel p.tail len 0 j nextPacket
      else
        recvLoop fuel p len (i + 1) j nextPacket

/-- Without a chain the connection is over. -/
def tcpClientRecv (buff : List Pbuf) : Run TcpClient Unit := do
  if buff = [] then
    modify (fun s => { s with complete := true })
    return
  let totLen := buff.flatten.length
  if 0 < totLen then
    let len ← pbufLen buff
    recvLoop S (totLen + 1) buff len 0 0 (List.replicate S.packetMaxLength 0)
    modify (fun s => { s with idleTime := 0, recved := s.recved + totLen })

/-- One callback after the other. -/
def tcpClientRecvs : List (List Pbuf) → Run TcpClient Unit
  | [] => return
  | buff :: buffs => do
    tcpClientRecv S buff
    tcpClientRecvs buffs

def tcpClientInit : TcpClient where
  idleTime := 0
  complete := false
  recved := 0
  accepted := []

/-! ### What the walk sees -/

/-- The bytes before the first empty link. -/
def visible (buff : List Pbuf) : List UInt8 := (buff.takeWhile (· ≠ [])).flatten

/-- The walk comes to an empty link before the chain ends. -/
def Stops (buff : List Pbuf) : Prop := [] ∈ buff

instance (buff : List Pbuf) : Decidable (Stops buff) := inferInstanceAs (Decidable (_ ∈ _))

section Walk

variable {S} {s : TcpClient} {j : ℕ} {nextPacket todo : List UInt8} {ch : UInt8}

/-- The text of the line so far. -/
structure InLine (S : Settings) (j : ℕ) (nextPacket todo : List UInt8) : Prop where
  size : nextPacket.length = S.packetMaxLength
  room : j < S.packetMaxLength
  text : newline ∉ nextPacket.take j
  short : Short newline S.packetMaxLength (nextPacket.take j ++ todo)

lemma InLine.length (h : InLine S j nextPacket todo) : (nextPacket.take j).length = j := by
  have hsize := h.size
  have hroom := h.room
  rw [List.length_take]
  omega

lemma inLine_start (h : Short newline S.packetMaxLength todo) :
    InLine S 0 (List.replicate S.packetMaxLength 0) todo where
  size := List.length_replicate
  room := Nat.lt_of_lt_of_le (by decide) S.packetMaxLength_ge
  text := List.not_mem_nil
  short := h

/-- A line shorter than the array never fills it, so only a newline ends it. -/
lemma recvChar_run (h : InLine S j nextPacket (ch :: todo)) :
    ∃ j' nextPacket' accepted, (recvChar S ch j nextPacket).run s =
        .ok (j', nextPacket') { s with accepted } ∧ InLine S j' nextPacket' todo ∧
      accepted ++ lines newline (nextPacket'.take j' ++ todo) =
        s.accepted ++ lines newline (nextPacket.take j ++ ch :: todo) := by
  have hsize := h.size
  have hroom := h.room
  have hlength := h.length
  have hset : ∀ x, (setChar nextPacket j x).run s = .ok (nextPacket.set j x) s := by
    intro x
    unfold setChar
    rw [if_pos (by omega)]
    rfl
  unfold recvChar
  by_cases hch : ch = newline
  · subst hch
    refine ⟨0, nextPacket.set j 0, s.accepted ++ [nextPacket.take j], ?_, ⟨?_, ?_, ?_, ?_⟩, ?_⟩
    · rw [if_pos (Or.inl rfl), run_bind_ok (hset 0)]
      simp only [EStateM.run_bind, EStateM.run_modify, EStateM.run_pure]
      rw [List.take_set_of_le (Nat.le_refl j)]
    · rw [List.length_set, hsize]
    · omega
    · exact List.not_mem_nil
    · refine h.short.of_infix (List.IsSuffix.isInfix ?_)
      rw [List.take_zero, List.nil_append, List.append_cons]
      exact List.suffix_append _ _
    · rw [List.take_zero, List.nil_append, lines_line h.text, List.append_assoc,
        List.singleton_append]
  · have hinfix : nextPacket.take j ++ [ch] <:+: nextPacket.take j ++ ch :: todo := by
      rw [List.append_cons (nextPacket.take j) ch todo]
      exact (List.prefix_append _ _).isInfix
    have hnext : newline ∉ nextPacket.take j ++ [ch] := by
      rw [List.mem_append, List.mem_singleton]
      exact not_or.mpr ⟨h.text, Ne.symm hch⟩
    have hlt := h.short _ hinfix hnext
    rw [List.length_append, List.length_singleton, hlength] at hlt
    have htake : (nextPacket.set j ch).take (j + 1) = nextPacket.take j ++ [ch] := by
      rw [List.take_add_one, List.take_set_of_le (Nat.le_refl j), List.getElem?_set_self (by omega)]
      rfl
    have hgo : ¬ (ch = newline ∨ j = S.packetMaxLength - 1) := by
      rintro (hc | hj)
      · exact hch hc
      · omega
    refine ⟨j + 1, nextPacket.set j ch, s.accepted, ?_, ⟨?_, hlt, ?_, ?_⟩, ?_⟩
    · rw [if_neg hgo, run_bind_ok (hset ch)]
      rfl
    · rw [List.length_set, hsize]
    · rw [htake]
      exact hnext
    · rw [htake, ← List.append_cons]
      exact h.short
    · rw [htake, ← List.append_cons]

lemma visible_cons {link : Pbuf} (h : link ≠ []) (p : List Pbuf) :
    visible (link :: p) = link ++ visible p := by
  unfold visible
  rw [List.takeWhile_cons, if_pos (decide_eq_true h), List.flatten_cons]

lemma stops_cons {link : Pbuf} (h : link ≠ []) (p : List Pbuf) : Stops (link :: p) ↔ Stops p := by
  unfold Stops
  rw [List.mem_cons, or_iff_right (Ne.symm h)]

/-- How a walk ends that leaves the state `s`. -/
def walked (p : List Pbuf) (s : TcpClient) : EStateM.Result Fault TcpClient Unit :=
  if Stops p then .ok () s else .error .nullPointer s

lemma pbufLen_run (link : Pbuf) (p : List Pbuf) (s : TcpClient) :
    (pbufLen (link :: p)).run s = .ok link.length s := rfl

lemma recvLoop_empty (fuel i j : ℕ) (p : List Pbuf) (nextPacket : List UInt8) (s : TcpClient) :
    (recvLoop S (fuel + 1) p 0 i j nextPacket).run s = .ok () s := by
  rw [recvLoop, if_neg (fun h => Nat.lt_irrefl 0 h.2)]
  rfl

/-- The walk hands over the lines of the bytes that it sees, and reads past the last link
unless an empty one stops it. -/
lemma recvLoop_run {p : List Pbuf} {fuel : ℕ} (seen : List UInt8) (htodo : todo ≠ [])
    (h : InLine S j nextPacket (todo ++ visible p))
    (hfuel : (todo ++ visible p).length < fuel) :
    (recvLoop S fuel ((seen ++ todo) :: p) (seen ++ todo).length seen.length j nextPacket).run s =
      walked p { s with accepted :=
        s.accepted ++ lines newline (nextPacket.take j ++ (todo ++ visible p)) } := by
  induction fuel generalizing s p seen todo j nextPacket with
  | zero => exact absurd hfuel (Nat.not_lt_zero _)
  | succ fuel ih =>
    obtain ⟨ch, todo, rfl⟩ := List.exists_cons_of_ne_nil htodo
    rw [List.cons_append] at h hfuel ⊢
    rw [List.length_cons] at hfuel
    obtain ⟨j', nextPacket', accepted, hchar, hline, hlines⟩ := recvChar_run (s := s) h
    have hpayload : (payloadAt seen.length ((seen ++ ch :: todo) :: p)).run s = .ok ch s := by
      unfold payloadAt
      simp only [List.getElem?_append_right (Nat.le_refl seen.length), Nat.sub_self]
      rfl
    rw [recvLoop, if_pos ⟨List.cons_ne_nil _ _, by simp⟩, run_bind_ok hpayload, run_bind_ok hchar,
      ← hlines]
    dsimp only
    cases todo with
    | nil =>
      rw [if_pos (by simp), List.tail_cons]
      cases p with
      | nil =>
        -- The last link is used up and `p` is NULL.
        have hnone : lines newline (nextPacket'.take j' ++ ([] ++ visible [])) = [] := by
          apply lines_of_notMem
          rw [show visible [] = [] from rfl, List.append_nil, List.append_nil]
          exact hline.text
        rw [hnone, List.append_nil]
        rfl
      | cons link p =>
        by_cases hlink : link = []
        · subst hlink
          obtain ⟨fuel, rfl⟩ := Nat.exists_eq_succ_of_ne_zero
            (Nat.ne_zero_of_lt (Nat.lt_of_succ_lt_succ hfuel))
          have hnone : lines newline (nextPacket'.take j' ++ ([] ++ visible ([] :: p))) = [] := by
            apply lines_of_notMem
            rw [show visible ([] :: p) = [] from rfl, List.append_nil, List.append_nil]
            exact hline.text
          rw [hnone, List.append_nil, walked, if_pos (show Stops ([] :: p) from List.mem_cons_self)]
          rw [run_bind_ok (pbufLen_run [] p _)]
          exact recvLoop_empty fuel 0 j' _ nextPacket' _
        · have hrest := ih (s := { s with accepted }) [] hlink
            (by rw [visible_cons hlink] at hline; exact hline)
            (by rw [visible_cons hlink] at hfuel; exact Nat.lt_of_succ_lt_succ hfuel)
          rw [visible_cons hlink, List.nil_append, walked]
          simp only [stops_cons hlink]
          exact hrest
    | cons c todo =>
      rw [if_neg (by simp)]
      have hrest := ih (s := { s with accepted }) (seen ++ [ch]) (List.cons_ne_nil c todo)
        hline (Nat.lt_of_succ_lt_succ hfuel)
      have hseen : (seen ++ [ch]).length = seen.length + 1 := by
        rw [List.length_append, List.length_singleton]
      rw [← List.append_cons, hseen] at hrest
      exact hrest

lemma visible_append (buff : List Pbuf) :
    visible buff ++ (buff.dropWhile (· ≠ [])).flatten = buff.flatten := by
  rw [visible, ← List.flatten_append, List.takeWhile_append_dropWhile]

lemma stops_of_flatten {buff : List Pbuf} (hbuff : buff ≠ []) (h : buff.flatten = []) :
    Stops buff := by
  obtain ⟨link, p, rfl⟩ := List.exists_cons_of_ne_nil hbuff
  rw [List.flatten_cons, List.append_eq_nil_iff] at h
  rw [h.1]
  exact List.mem_cons_self

/-- A callback hands over the lines of what it sees. -/
lemma tcpClientRecv_run {buff : List Pbuf} (hbuff : buff ≠ [])
    (hshort : Short newline S.packetMaxLength buff.flatten) (s : TcpClient) :
    ∃ s', (tcpClientRecv S buff).run s = walked buff s' ∧
      s'.accepted = s.accepted ++ lines newline (visible buff) := by
  unfold tcpClientRecv
  rw [if_neg hbuff]
  simp only
  have hvisible := visible_append buff
  by_cases hlen : 0 < buff.flatten.length
  · obtain ⟨link, p, rfl⟩ := List.exists_cons_of_ne_nil hbuff
    rw [if_pos hlen, run_bind_ok (pbufLen_run link p s)]
    by_cases hlink : link = []
    · subst hlink
      refine ⟨{ s with idleTime := 0, recved := s.recved + ([] :: p).flatten.length }, ?_, ?_⟩
      · rw [List.length_nil, run_bind_ok (recvLoop_empty _ 0 0 _ _ s), walked,
          if_pos (show Stops ([] :: p) from List.mem_cons_self)]
        rfl
      · rw [show visible ([] :: p) = [] from rfl, lines_of_notMem List.not_mem_nil, List.append_nil]
    · have hline : InLine S 0 (List.replicate S.packetMaxLength 0) (link ++ visible p) := by
        apply inLine_start
        apply hshort.of_infix
        rw [← visible_cons hlink, ← hvisible]
        exact (List.prefix_append _ _).isInfix
      have hfuel : (link ++ visible p).length < (link :: p).flatten.length + 1 := by
        rw [← visible_cons hlink, ← hvisible, List.length_append]
        omega
      have hwalk := recvLoop_run (s := s) [] hlink hline hfuel
      rw [List.nil_append, List.length_nil, List.take_zero, List.nil_append,
        ← visible_cons hlink] at hwalk
      rw [EStateM.run_bind, hwalk]
      unfold walked
      simp only [stops_cons hlink]
      by_cases hstops : Stops p
      · refine ⟨{ s with
          accepted := s.accepted ++ lines newline (visible (link :: p))
          idleTime := 0
          recved := s.recved + (link :: p).flatten.length }, ?_, rfl⟩
        rw [if_pos hstops, if_pos hstops]
        rfl
      · refine ⟨{ s with
          accepted := s.accepted ++ lines newline (visible (link :: p)) }, ?_, rfl⟩
        rw [if_neg hstops]
  · have hnil : buff.flatten = [] := List.eq_nil_of_length_eq_zero (by omega)
    refine ⟨s, ?_, ?_⟩
    · rw [if_neg hlen, walked, if_pos (stops_of_flatten hbuff hnil)]
      rfl
    · rw [hnil, List.append_eq_nil_iff] at hvisible
      rw [hvisible.1, lines_of_notMem List.not_mem_nil, List.append_nil]

/-- Callbacks hand over the lines of what each sees, until a walk reads past its chain. -/
lemma tcpClientRecvs_run {buffs : List (List Pbuf)} (hbuffs : ∀ buff ∈ buffs, buff ≠ [])
    (hshort : ∀ buff ∈ buffs, Short newline S.packetMaxLength buff.flatten) (s : TcpClient) :
    ∃ s', (tcpClientRecvs S buffs).run s =
        (if ∀ buff ∈ buffs, Stops buff then .ok () s' else .error .nullPointer s') ∧
      ((∀ buff ∈ buffs, Stops buff) → s'.accepted =
        s.accepted ++ buffs.flatMap (fun buff => lines newline (visible buff))) := by
  induction buffs generalizing s with
  | nil => exact ⟨s, by simp; rfl, fun _ => by simp⟩
  | cons buff buffs ih =>
    obtain ⟨s₁, hrecv, haccepted⟩ := tcpClientRecv_run (hbuffs buff List.mem_cons_self)
      (hshort buff List.mem_cons_self) s
    obtain ⟨s₂, hrest, hrestAccepted⟩ := ih
      (fun b hb => hbuffs b (List.mem_cons_of_mem buff hb))
      (fun b hb => hshort b (List.mem_cons_of_mem buff hb)) s₁
    simp only [List.forall_mem_cons]
    rw [tcpClientRecvs, EStateM.run_bind, hrecv, walked]
    by_cases hstops : Stops buff
    · refine ⟨s₂, ?_, fun h => ?_⟩
      · rw [if_pos hstops]
        simp only [hstops, true_and]
        exact hrest
      · rw [hrestAccepted h.2, haccepted, List.flatMap_cons, List.append_assoc]
    · refine ⟨s₁, ?_, fun h => absurd h.1 hstops⟩
      rw [if_neg hstops, if_neg (fun h => hstops h.1)]

lemma walked_cons {link : Pbuf} (h : link ≠ []) (p : List Pbuf) (s : TcpClient) :
    walked (link :: p) s = walked p s := by
  unfold walked
  simp only [stops_cons h]

lemma walked_empty (p : List Pbuf) (s : TcpClient) : walked ([] :: p) s = .ok () s :=
  if_pos (show Stops ([] :: p) from List.mem_cons_self)

lemma recvChar_ends (hsize : nextPacket.length = S.packetMaxLength) (hroom : j < S.packetMaxLength)
    (ch : UInt8) (s : TcpClient) :
    ∃ j' nextPacket' accepted, (recvChar S ch j nextPacket).run s =
        .ok (j', nextPacket') { s with accepted } ∧
      nextPacket'.length = S.packetMaxLength ∧ j' < S.packetMaxLength := by
  have hset : ∀ x, (setChar nextPacket j x).run s = .ok (nextPacket.set j x) s := by
    intro x
    unfold setChar
    rw [if_pos (by omega)]
    rfl
  unfold recvChar
  by_cases hch : ch = newline ∨ j = S.packetMaxLength - 1
  · refine ⟨0, nextPacket.set j 0, s.accepted ++ [(nextPacket.set j 0).take j], ?_, ?_, ?_⟩
    · rw [if_pos hch, run_bind_ok (hset 0)]
      rfl
    · rw [List.length_set, hsize]
    · omega
  · refine ⟨j + 1, nextPacket.set j ch, s.accepted, ?_, ?_, ?_⟩
    · rw [if_neg hch, run_bind_ok (hset ch)]
      rfl
    · rw [List.length_set, hsize]
    · omega

/-- Long lines are cut, but where a walk ends does not depend on them. -/
lemma recvLoop_ends {p : List Pbuf} {fuel : ℕ} (seen : List UInt8) (htodo : todo ≠ [])
    (hsize : nextPacket.length = S.packetMaxLength) (hroom : j < S.packetMaxLength)
    (hfuel : (todo ++ visible p).length < fuel) :
    ∃ accepted,
      (recvLoop S fuel ((seen ++ todo) :: p) (seen ++ todo).length seen.length j nextPacket).run s =
        walked p { s with accepted } := by
  induction fuel generalizing s p seen todo j nextPacket with
  | zero => exact absurd hfuel (Nat.not_lt_zero _)
  | succ fuel ih =>
    obtain ⟨ch, todo, rfl⟩ := List.exists_cons_of_ne_nil htodo
    rw [List.cons_append, List.length_cons] at hfuel
    obtain ⟨j', nextPacket', accepted, hchar, hsize', hroom'⟩ := recvChar_ends hsize hroom ch s
    have hpayload : (payloadAt seen.length ((seen ++ ch :: todo) :: p)).run s = .ok ch s := by
      unfold payloadAt
      simp only [List.getElem?_append_right (Nat.le_refl seen.length), Nat.sub_self]
      rfl
    rw [recvLoop, if_pos ⟨List.cons_ne_nil _ _, by simp⟩, run_bind_ok hpayload, run_bind_ok hchar]
    dsimp only
    cases todo with
    | nil =>
      rw [if_pos (by simp), List.tail_cons]
      cases p with
      | nil => exact ⟨accepted, rfl⟩
      | cons link p =>
        by_cases hlink : link = []
        · subst hlink
          obtain ⟨fuel, rfl⟩ := Nat.exists_eq_succ_of_ne_zero
            (Nat.ne_zero_of_lt (Nat.lt_of_succ_lt_succ hfuel))
          refine ⟨accepted, ?_⟩
          rw [run_bind_ok (pbufLen_run [] p _), walked_empty]
          exact recvLoop_empty fuel 0 j' _ nextPacket' _
        · obtain ⟨accepted, hrest⟩ := ih (s := { s with accepted }) [] hlink hsize' hroom'
            (by rw [visible_cons hlink] at hfuel; exact Nat.lt_of_succ_lt_succ hfuel)
          refine ⟨accepted, ?_⟩
          rw [walked_cons hlink]
          exact hrest
    | cons c todo =>
      rw [if_neg (by simp)]
      obtain ⟨accepted, hrest⟩ := ih (s := { s with accepted }) (seen ++ [ch])
        (List.cons_ne_nil c todo) hsize' hroom' (Nat.lt_of_succ_lt_succ hfuel)
      have hseen : (seen ++ [ch]).length = seen.length + 1 := by
        rw [List.length_append, List.length_singleton]
      rw [← List.append_cons, hseen] at hrest
      exact ⟨accepted, hrest⟩

/-- Whatever the lines are, a callback with a chain ends if an empty link stops the walk. -/
lemma tcpClientRecv_ends {buff : List Pbuf} (hbuff : buff ≠ []) (s : TcpClient) :
    ∃ idleTime recved accepted, (tcpClientRecv S buff).run s =
      walked buff { s with idleTime, recved, accepted } := by
  unfold tcpClientRecv
  rw [if_neg hbuff]
  simp only
  by_cases hlen : 0 < buff.flatten.length
  · obtain ⟨link, p, rfl⟩ := List.exists_cons_of_ne_nil hbuff
    rw [if_pos hlen, run_bind_ok (pbufLen_run link p s)]
    by_cases hlink : link = []
    · subst hlink
      refine ⟨0, s.recved + ([] :: p).flatten.length, s.accepted, ?_⟩
      rw [List.length_nil, run_bind_ok (recvLoop_empty _ 0 0 _ _ s), walked_empty]
      rfl
    · have hvisible := visible_append (link :: p)
      have hroom : 0 < S.packetMaxLength := Nat.lt_of_lt_of_le (by decide) S.packetMaxLength_ge
      have hfuel : (link ++ visible p).length < (link :: p).flatten.length + 1 := by
        rw [← visible_cons hlink, ← hvisible, List.length_append]
        omega
      obtain ⟨accepted, hwalk⟩ := recvLoop_ends (s := s) [] hlink List.length_replicate
        hroom hfuel
      rw [List.nil_append, List.length_nil, walked] at hwalk
      by_cases hstops : Stops p
      · rw [if_pos hstops] at hwalk
        refine ⟨0, s.recved + (link :: p).flatten.length, accepted, ?_⟩
        rw [run_bind_ok hwalk, walked_cons hlink, walked, if_pos hstops]
        rfl
      · rw [if_neg hstops] at hwalk
        refine ⟨s.idleTime, s.recved, accepted, ?_⟩
        rw [run_bind_error hwalk, walked_cons hlink, walked, if_neg hstops]
  · have hnil : buff.flatten = [] := List.eq_nil_of_length_eq_zero (by omega)
    refine ⟨s.idleTime, s.recved, s.accepted, ?_⟩
    rw [if_neg hlen, walked, if_pos (stops_of_flatten hbuff hnil)]
    rfl

end Walk

/-- After the data come empty links, at least one, and nothing else. -/
def Padded (buff : List Pbuf) : Prop :=
  buff.dropWhile (· ≠ []) ≠ [] ∧ ∀ link ∈ buff.dropWhile (· ≠ []), link = []

instance (buff : List Pbuf) : Decidable (Padded buff) := inferInstanceAs (Decidable (_ ∧ _))

/-- The texts passed to `network_accept` are the lines that came in, and no walk went past the
end of its chain. -/
def ReceivesLines (buffs : List (List Pbuf)) : Prop :=
  ∃ s, (tcpClientRecvs S buffs).run tcpClientInit = .ok () s ∧
    s.accepted = lines newline buffs.flatten.flatten

section Receiving

variable {S} {buffs : List (List Pbuf)} {buff : List Pbuf}

lemma padded_iff : Padded buff ↔ Stops buff ∧ visible buff = buff.flatten := by
  have hvisible := visible_append buff
  have hsplit : buff.takeWhile (· ≠ []) ++ buff.dropWhile (· ≠ []) = buff :=
    List.takeWhile_append_dropWhile
  constructor
  · rintro ⟨hne, hempty⟩
    constructor
    · obtain ⟨link, hlink⟩ := List.exists_mem_of_ne_nil _ hne
      have hmem : link ∈ buff := by
        rw [← hsplit]
        exact List.mem_append_right _ hlink
      rw [hempty link hlink] at hmem
      exact hmem
    · rw [← hvisible, List.flatten_eq_nil_iff.mpr hempty, List.append_nil]
  · rintro ⟨hstops, hall⟩
    rw [hall, List.append_right_eq_self] at hvisible
    refine ⟨fun hnil => ?_, List.flatten_eq_nil_iff.mp hvisible⟩
    rw [hnil, List.append_nil] at hsplit
    have hmem : [] ∈ buff.takeWhile (· ≠ []) := by rwa [hsplit]
    have hne := List.all_eq_true.mp List.all_takeWhile _ hmem
    exact absurd rfl (of_decide_eq_true hne)

/-- A callback accounts for all of its bytes only if it sees them all and they end a line. -/
lemma length_unlines_visible (buff : List Pbuf) :
    (unlines newline (lines newline (visible buff))).length ≤ buff.flatten.length ∧
      ((unlines newline (lines newline (visible buff))).length = buff.flatten.length →
        visible buff = buff.flatten ∧ rest newline buff.flatten = []) := by
  have hlines := congrArg List.length (unlines_lines newline (visible buff))
  have hvisible := congrArg List.length (visible_append buff)
  rw [List.length_append] at hlines hvisible
  refine ⟨by omega, fun heq => ?_⟩
  have hunseen : (buff.dropWhile (· ≠ [])).flatten = [] :=
    List.eq_nil_of_length_eq_zero (by omega)
  have hall : visible buff = buff.flatten := by
    rw [← visible_append buff, hunseen, List.append_nil]
  rw [← hall]
  exact ⟨rfl, List.eq_nil_of_length_eq_zero (by omega)⟩

lemma unlines_append (as bs : List (List UInt8)) :
    unlines newline (as ++ bs) = unlines newline as ++ unlines newline bs := List.flatMap_append

lemma length_unlines_all (buffs : List (List Pbuf)) :
    (unlines newline (buffs.flatMap (fun buff => lines newline (visible buff)))).length ≤
        buffs.flatten.flatten.length ∧
      ((unlines newline (buffs.flatMap (fun buff => lines newline (visible buff)))).length =
          buffs.flatten.flatten.length →
        ∀ buff ∈ buffs, visible buff = buff.flatten ∧ rest newline buff.flatten = []) := by
  induction buffs with
  | nil => exact ⟨Nat.le_refl _, fun _ buff hbuff => by cases hbuff⟩
  | cons buff buffs ih =>
    have hbuff := length_unlines_visible buff
    rw [List.flatMap_cons, unlines_append, List.flatten_cons, List.flatten_append,
      List.length_append, List.length_append]
    refine ⟨by omega, fun heq => ?_⟩
    rw [List.forall_mem_cons]
    exact ⟨hbuff.2 (by omega), ih.2 (by omega)⟩

lemma lines_flatten (h : ∀ buff ∈ buffs, visible buff = buff.flatten ∧
    rest newline buff.flatten = []) : lines newline buffs.flatten.flatten =
      buffs.flatMap (fun buff => lines newline (visible buff)) := by
  induction buffs with
  | nil => exact lines_of_notMem List.not_mem_nil
  | cons buff buffs ih =>
    rw [List.forall_mem_cons] at h
    rw [List.flatten_cons, List.flatten_append, lines_append h.1.2, ih h.2, List.flatMap_cons,
      h.1.1]

/-- Every callback is a piece of the stream. -/
lemma short_callbacks {n : ℕ} (h : Short newline n buffs.flatten.flatten) :
    ∀ buff ∈ buffs, Short newline n buff.flatten := by
  intro buff hbuff
  apply h.of_infix
  obtain ⟨before, after, rfl⟩ := List.append_of_mem hbuff
  rw [List.flatten_append, List.flatten_cons, List.flatten_append, List.flatten_append]
  exact List.infix_append' _ _ _

end Receiving

/-- The reader gets the lines of a stream right exactly when every callback brings whole lines
and ends its chain with empty links. -/
theorem receivesLines_iff (buffs : List (List Pbuf)) (hbuffs : ∀ buff ∈ buffs, buff ≠ [])
    (hwhole : rest newline buffs.flatten.flatten = [])
    (hshort : ∀ l ∈ lines newline buffs.flatten.flatten, l.length < S.packetMaxLength) :
    ReceivesLines S buffs ↔ ∀ buff ∈ buffs, rest newline buff.flatten = [] ∧ Padded buff := by
  have hpos : 0 < S.packetMaxLength := Nat.lt_of_lt_of_le (by decide) S.packetMaxLength_ge
  obtain ⟨s, hrun, haccepted⟩ := tcpClientRecvs_run hbuffs
    (short_callbacks (short_of_lines hshort hwhole hpos)) tcpClientInit
  unfold ReceivesLines
  rw [hrun]
  constructor
  · rintro ⟨t, ht, hlines⟩ buff hbuff
    split at ht
    next hstops =>
      cases ht
      rw [haccepted hstops, show tcpClientInit.accepted = [] from rfl, List.nil_append] at hlines
      have hunlines := congrArg List.length (unlines_lines newline buffs.flatten.flatten)
      rw [hwhole, List.append_nil, ← hlines] at hunlines
      have hseen := (length_unlines_all buffs).2 hunlines buff hbuff
      exact ⟨hseen.2, padded_iff.mpr ⟨hstops buff hbuff, hseen.1⟩⟩
    next => cases ht
  · intro h
    have hstops : ∀ buff ∈ buffs, Stops buff := fun buff hbuff =>
      (padded_iff.mp (h buff hbuff).2).1
    refine ⟨s, if_pos hstops, ?_⟩
    rw [haccepted hstops, show tcpClientInit.accepted = [] from rfl, List.nil_append]
    exact (lines_flatten (fun buff hbuff =>
      ⟨(padded_iff.mp (h buff hbuff).2).2, (h buff hbuff).1⟩)).symm

/-- Two lines in a chain of two links that an empty one ends, and a third line. -/
theorem receivesLines_twoCallbacks :
    ReceivesLines Settings.zejfWind [[[97, 10, 98], [10], []], [[99, 10], []]] ∧
      ∀ buff ∈ [[[97, 10, 98], [10], []], [[99, 10], ([] : Pbuf)]],
        rest newline buff.flatten = [] ∧ Padded buff := by
  have h : ∀ buff ∈ [[[97, 10, 98], [10], []], [[99, 10], ([] : Pbuf)]],
      rest newline buff.flatten = [] ∧ Padded buff := by decide
  exact ⟨(receivesLines_iff Settings.zejfWind [[[97, 10, 98], [10], []], [[99, 10], []]]
    (by decide) (by decide) (by decide)).mpr h, h⟩

/-- Chains as they come, with data in every link, are read past their end. -/
theorem not_receivesLines_of_data (buffs : List (List Pbuf)) (hsome : buffs ≠ [])
    (hbuffs : ∀ buff ∈ buffs, buff ≠ [])
    (hdata : ∀ buff ∈ buffs, ∀ link ∈ buff, link ≠ [])
    (hshort : ∀ buff ∈ buffs, Short newline S.packetMaxLength buff.flatten) :
    ¬ ReceivesLines S buffs := by
  rintro ⟨t, ht, -⟩
  obtain ⟨s, hrun, -⟩ := tcpClientRecvs_run hbuffs hshort tcpClientInit
  obtain ⟨buff, hbuff⟩ := List.exists_mem_of_ne_nil buffs hsome
  rw [hrun, if_neg] at ht
  · cases ht
  · intro hstops
    exact hdata buff hbuff [] (hstops buff hbuff) rfl

/-- A single line in a single link. -/
theorem not_receivesLines : ¬ ∀ buffs : List (List Pbuf), (∀ buff ∈ buffs, buff ≠ []) →
    rest newline buffs.flatten.flatten = [] →
    (∀ l ∈ lines newline buffs.flatten.flatten, l.length < Settings.zejfWind.packetMaxLength) →
      ReceivesLines Settings.zejfWind buffs := by
  intro h
  have hreceives := h [[[97, 10]]] (by decide) (by decide) (by decide)
  refine not_receivesLines_of_data Settings.zejfWind [[[97, 10]]] (by decide) (by decide)
    (by decide) ?_ hreceives
  exact short_callbacks (short_of_lines (by decide) (by decide) (by decide))

end ZejfMeteo
