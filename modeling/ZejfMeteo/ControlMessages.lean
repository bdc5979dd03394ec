import ZejfMeteo.Messages
import ZejfMeteo.Reception

/-!
# Control messages

Checks, requests and what is told about variables are packets of numbers, which several
functions write and several others read.
-/

namespace ZejfMeteo
open Runs Format

variable {δ : Type} (T : Target δ)

/-- `data_request_send` of `data_request.c`. -/
def dataRequestSend (toId : UInt16) (info : VariableInfo)
    (hourNumber startLog endLog time : UInt32) : Run (Globals δ) ZejfErr := do
  let pieces := numbersMessage info hourNumber startLog (.num endLog.toNat)
  if (print pieces).length = 0 then
    return .generic
  let packet ← networkPreparePacket T toId dataRequestCommand (snprintf T.packetMaxLength pieces)
  networkSendPacket T packet time

inductive ControlMessage
  | check (info : VariableInfo) (hourNum logNum checkNumber : UInt32)
  | request (info : VariableInfo) (hourNumber startLog endLog : UInt32)
  | provide (info : VariableInfo)
  | demand (var : UInt16)
  | variableInfo (info : VariableInfo) (hourNumber : UInt32)

namespace ControlMessage

def command : ControlMessage → UInt8
  | check .. => dataCheckCommand
  | request .. => dataRequestCommand
  | provide .. => dataProvide
  | demand .. => dataDemand
  | variableInfo .. => variableInfoCommand

def pieces : ControlMessage → List Piece
  | check info hourNum logNum checkNumber =>
    numbersMessage info hourNum logNum (.num checkNumber.toNat)
  | request info hourNumber startLog endLog =>
    numbersMessage info hourNumber startLog (.num endLog.toNat)
  | provide info => [.num info.id.toNat, .lit atSign, .num info.samplesPerHour.toNat]
  | demand var => [.num var.toNat]
  | variableInfo info hourNumber => [.num info.id.toNat, .lit comma,
      .num info.samplesPerHour.toNat, .lit comma, .num hourNumber.toNat]

def text (m : ControlMessage) : List UInt8 := print m.pieces

end ControlMessage

/-- Puts a message with all its characters into a packet and sends it. -/
def sendControl (toId : UInt16) (m : ControlMessage) (time : UInt32) :
    Run (Globals δ) ZejfErr := do
  let packet ← networkPreparePacket T toId m.command (some m.text)
  networkSendPacket T packet time

/-- The function that sends such a message sends exactly that: a check after it has counted
the samples that it tells, the variables of an hour one after the other. -/
def Sends (toId : UInt16) (time : UInt32) : ControlMessage → Prop
  | .check info hourNum logNum checkNumber => ∀ s t,
      (calculateDataCheck T info hourNum logNum).run s = .ok (.ok, some checkNumber) t →
      checkNumber ≠ info.samplesPerHour →
      (dataCheckSend T toId info hourNum logNum time).run s =
        (sendControl T toId (.check info hourNum logNum checkNumber) time).run t
  | .request info hourNumber startLog endLog =>
      dataRequestSend T toId info hourNumber startLog endLog time =
        sendControl T toId (.request info hourNumber startLog endLog) time
  | .provide info => pSendProvide T info time = sendControl T broadcast (.provide info) time
  | .demand var => pSendDemand T var time = sendControl T broadcast (.demand var) time
  | .variableInfo info hourNumber => ∀ var rest, var.info = info →
      sendVariables T toId hourNumber time (var :: rest) = do
        let _ ← sendControl T toId (.variableInfo info hourNumber) time
        sendVariables T toId hourNumber time rest

/-- The function that receives such a message gets every number back. No function of the
firmware receives what is told about a variable, so its numbers are those that the format it
was written with finds. -/
def Recovers (packet : Packet) : ControlMessage → Prop
  | .check info hourNum logNum checkNumber => ∀ s : Globals δ, ∀ a,
      s.packets.cells a = some packet → (dataCheckReceive T a).run s = (do
        let (rv, result) ← calculateDataCheck T info hourNum logNum
        if rv ≠ .ok then
          return rv
        if checkNumber < result.getD 0 then
          dataRequestAdd packet.fromId info hourNum 0 logNum
        else
          return .ok : Run (Globals δ) ZejfErr).run s
  | .request info hourNumber startLog endLog => ∀ s : Globals δ, ∀ a,
      s.packets.cells a = some packet → (dataRequestReceive a).run s =
        (dataRequestAdd packet.fromId info hourNumber startLog endLog).run s
  | .provide info => ∀ s : Globals δ, ∀ a,
      s.packets.cells a = some packet → (processDataProvide a).run s = (do
        match ← routingEntryFind packet.fromId with
        | none => return .null
        | some index => routingEntryAddProvidedVariable index info : Run (Globals δ) ZejfErr).run s
  | .demand var => ∀ s : Globals δ, ∀ a,
      s.packets.cells a = some packet → (processDataDemand a).run s = (do
        match ← routingEntryFind packet.fromId with
        | none => return .null
        | some index => routingEntryAddDemandedVariable index var : Run (Globals δ) ZejfErr).run s
  | .variableInfo info hourNumber => ∃ message, packet.message = some message ∧
      sscanf (fun _ => none) [.num 16, .lit comma, .num 32, .lit comma, .num 32] message =
        [.num info.id.toNat, .num info.samplesPerHour.toNat, .num hourNumber.toNat]

namespace ControlMessage

variable {T} {m : ControlMessage}

/-- The longest messages have the shortest commands. -/
lemma length_text_le (m : ControlMessage) :
    m.text.length + (decimal m.command.toNat).length ≤ 50 := by
  unfold text
  cases m with
  | check info hourNum logNum checkNumber =>
    have hcommand := length_decimal_le (n := dataCheckCommand.toNat) (k := 1) (by decide) (by decide)
    have hid := length_decimal_uint16 info.id
    have hrate := length_decimal_uint32 info.samplesPerHour
    have hhour := length_decimal_uint32 hourNum
    have hlog := length_decimal_uint32 logNum
    have hcheck := length_decimal_uint32 checkNumber
    rw [pieces, print_numbersMessage, command]
    simp only [List.length_append, List.length_cons, Piece.text]
    omega
  | request info hourNumber startLog endLog =>
    have hcommand :=
      length_decimal_le (n := dataRequestCommand.toNat) (k := 1) (by decide) (by decide)
    have hid := length_decimal_uint16 info.id
    have hrate := length_decimal_uint32 info.samplesPerHour
    have hhour := length_decimal_uint32 hourNumber
    have hstart := length_decimal_uint32 startLog
    have hend := length_decimal_uint32 endLog
    rw [pieces, print_numbersMessage, command]
    simp only [List.length_append, List.length_cons, Piece.text]
    omega
  | provide info =>
    have hcommand := length_decimal_le (n := dataProvide.toNat) (k := 1) (by decide) (by decide)
    have hid := length_decimal_uint16 info.id
    have hrate := length_decimal_uint32 info.samplesPerHour
    simp only [pieces, command, print, List.flatMap_cons, List.flatMap_nil, Piece.text,
      List.length_append, List.length_cons, List.length_nil]
    omega
  | demand var =>
    have hcommand := length_decimal_le (n := dataDemand.toNat) (k := 1) (by decide) (by decide)
    have hvar := length_decimal_uint16 var
    simp only [pieces, command, print, List.flatMap_cons, List.flatMap_nil, Piece.text,
      List.length_append, List.length_nil]
    omega
  | variableInfo info hourNumber =>
    have hcommand :=
      length_decimal_le (n := variableInfoCommand.toNat) (k := 2) (by decide) (by decide)
    have hid := length_decimal_uint16 info.id
    have hrate := length_decimal_uint32 info.samplesPerHour
    have hhour := length_decimal_uint32 hourNumber
    simp only [pieces, command, print, List.flatMap_cons, List.flatMap_nil, Piece.text,
      List.length_append, List.length_cons, List.length_nil]
    omega

/-- Messages are made of digits and of characters that no packet reserves. -/
lemma plainText_text (m : ControlMessage) : PlainText m.text := by
  have hdecimal : ∀ n, ∀ c ∈ decimal n, c ≠ 0 ∧ c ≠ tab ∧ c ≠ newlineCode := by
    intro n c hc
    have hdigit := isDigit_of_mem_decimal hc
    refine ⟨?_, ?_, ?_⟩ <;>
    · rintro rfl
      exact absurd hdigit (by decide)
  have hlit : ∀ c, c = comma ∨ c = atSign → c ≠ 0 ∧ c ≠ tab ∧ c ≠ newlineCode := by
    rintro c (rfl | rfl) <;> decide
  intro c hc
  unfold text at hc
  cases m <;>
  · simp only [pieces, numbersMessage, print, List.flatMap_cons, List.flatMap_nil, Piece.text,
      List.mem_append, List.mem_singleton, List.not_mem_nil, or_false] at hc
    grind

/-- The message is not cut off when it is written. -/
lemma snprintf_pieces (m : ControlMessage) : snprintf T.packetMaxLength m.pieces = m.text := by
  apply snprintf_eq
  have hlen := m.length_text_le
  have hmax := T.packetMaxLength_ge
  unfold text at hlen
  omega

end ControlMessage

section Ways

variable {T} {m : ControlMessage} {packet : Packet}

lemma sends_control (toId : UInt16) (time : UInt32) (m : ControlMessage) :
    Sends T toId time m := by
  have hcut := m.snprintf_pieces (T := T)
  cases m with
  | check info hourNum logNum checkNumber =>
    intro s t hcalc hne
    rw [dataCheckSend, run_bind_ok hcalc]
    simp only [Option.getD_some, if_neg hne, numbersMessage_length, if_false, ne_eq, not_true]
    exact congrArg (fun msg => (do
      let packet ← networkPreparePacket T toId dataCheckCommand (some msg)
      networkSendPacket T packet time : Run (Globals δ) ZejfErr).run t) hcut
  | request info hourNumber startLog endLog =>
    show dataRequestSend T toId info hourNumber startLog endLog time = _
    rw [dataRequestSend, if_neg (numbersMessage_length _ _ _ _)]
    exact congrArg (fun msg => (do
      let packet ← networkPreparePacket T toId dataRequestCommand (some msg)
      networkSendPacket T packet time : Run (Globals δ) ZejfErr)) hcut
  | provide info =>
    exact congrArg (fun msg => (do
      let packet ← networkPreparePacket T broadcast dataProvide (some msg)
      networkSendPacket T packet time : Run (Globals δ) ZejfErr)) hcut
  | demand var =>
    exact congrArg (fun msg => (do
      let packet ← networkPreparePacket T broadcast dataDemand (some msg)
      networkSendPacket T packet time : Run (Globals δ) ZejfErr)) hcut
  | variableInfo info hourNumber =>
    rintro var rest rfl
    rw [sendVariables, sendControl, bind_assoc]
    exact congrArg (fun msg => (do
      let packet ← networkPreparePacket T toId variableInfoCommand (some msg)
      let _ ← networkSendPacket T packet time
      sendVariables T toId hourNumber time rest : Run (Globals δ) ZejfErr)) hcut

lemma recovers_control (m : ControlMessage) (hm : packet.message = some m.text) :
    Recovers T packet m := by
  have hat := head?_cons_stop (by decide : isDigit atSign = false)
  have hcomma := head?_cons_stop (by decide : isDigit comma = false)
  cases m with
  | check info hourNum logNum checkNumber =>
    intro s a hp
    rw [dataCheckReceive_eq hp hm, ControlMessage.text, ControlMessage.pieces, numberFields_print]
  | request info hourNumber startLog endLog =>
    intro s a hp
    rw [dataRequestReceive_eq hp hm, ControlMessage.text, ControlMessage.pieces,
      numberFields_print]
  | provide info =>
    intro s a hp
    have hscan : sscanf (fun _ => none) [.num 16, .lit atSign, .num 32]
        (ControlMessage.provide info).text =
          [.num info.id.toNat, .num info.samplesPerHour.toNat] := by
      rw [ControlMessage.text, ControlMessage.pieces]
      simp only [print, List.flatMap_cons, List.flatMap_nil, Piece.text, List.cons_append,
        List.nil_append]
      rw [sscanf_uint16 _ (hat _), sscanf_lit, sscanf_uint32 _ (by simp)]
      rfl
    have hrun := congrArg (fun receive => receive.run s) (processDataProvide.eq_1 a)
    simp only [run_bind_ok (readPacket_run hp), hm, hscan, UInt16.ofNat_toNat,
      UInt32.ofNat_toNat] at hrun
    exact hrun
  | demand var =>
    intro s a hp
    have hscan : sscanf (fun _ => none) [.num 16] (ControlMessage.demand var).text =
        [.num var.toNat] := by
      rw [ControlMessage.text, ControlMessage.pieces]
      simp only [print, List.flatMap_cons, List.flatMap_nil, Piece.text]
      rw [sscanf_uint16 _ (by simp)]
      rfl
    have hrun := congrArg (fun receive => receive.run s) (processDataDemand.eq_1 a)
    simp only [run_bind_ok (readPacket_run hp), hm, hscan, UInt16.ofNat_toNat] at hrun
    exact hrun
  | variableInfo info hourNumber =>
    refine ⟨_, hm, ?_⟩
    rw [ControlMessage.text, ControlMessage.pieces]
    simp only [print, List.flatMap_cons, List.flatMap_nil, Piece.text, List.cons_append,
      List.nil_append]
    rw [sscanf_uint16 _ (hcomma _), sscanf_lit, sscanf_uint32 _ (hcomma _), sscanf_lit,
      sscanf_uint32 _ (by simp)]
    rfl

/-- A packet with such a message leaves room for a newline and a NUL. -/
lemma length_packetText_control (hcommand : packet.command = m.command)
    (hm : packet.message = some m.text) : (packetText packet).length + 2 ≤ T.packetMaxLength := by
  have hmax := T.packetMaxLength_ge
  have htext : packet.text = m.text := by
    rw [Packet.text, hm]
    rfl
  have hlen := m.length_text_le
  have hfrom := length_decimal_uint16 packet.fromId
  have hto := length_decimal_uint16 packet.toId
  have httl := length_decimal_uint8 packet.ttl
  have hsum := length_decimal_uint32 (packetChecksum packet.prepare)
  have hflags := length_decimal_uint32 packet.flags
  have hsize : (decimal (UInt16.ofNat m.text.length).toNat).length ≤ 2 := by
    apply length_decimal_le (by decide)
    rw [UInt16.toNat_ofNat']
    omega
  rw [length_packetText, hcommand, htext]
  omega

/-- **Control messages survive.** Every function that sends one writes all of its text, the
packet it is in has room for a newline and a NUL whatever the other fields are, and the
function that receives it gets every number back. -/
theorem control_survives (toId : UInt16) (time : UInt32) (m : ControlMessage) :
    Sends T toId time m ∧
      ∀ packet : Packet, packet.command = m.command → packet.message = some m.text →
        (packetText packet).length + 2 ≤ T.packetMaxLength ∧
        RoundTrips packet T.packetMaxLength ∧
        ∀ q, packet.SameContent q → Recovers T q m := by
  refine ⟨sends_control toId time m, fun packet hcommand hm => ?_⟩
  have hfit := length_packetText_control (T := T) hcommand hm
  have htext : packet.text = m.text := by
    rw [Packet.text, hm]
    rfl
  have hlen := m.length_text_le
  refine ⟨hfit, ⟨packet.prepare, packetText packet, packetToString_eq (by omega), ?_⟩,
    fun q hq => ?_⟩
  · apply packetFromString_packetText
    · rw [htext]
      exact m.plainText_text
    · rw [htext]
      omega
  · apply recovers_control
    rw [hq.message, htext]

end Ways

/-- A check of the largest numbers. -/
def longestMessage : ControlMessage :=
  .check ⟨0xFFFFFFFF, 0xFFFF⟩ 0xFFFFFFFF 0xFFFFFFFF 0xFFFFFFFF

def longestCheck : Packet :=
  { packetCreate with
    fromId := 0xFFFF
    toId := 0xFFFE
    ttl := 0xFF
    flags := 0xFFFFFFFF
    command := dataCheckCommand
    message := some longestMessage.text }

theorem longestCheck_survives :
    (packetText longestCheck).length + 2 ≤ 128 ∧ RoundTrips longestCheck 128 :=
  have h := (control_survives (T := Target.bare Settings.zejfMeteo) broadcast 0
    longestMessage).2 longestCheck rfl rfl
  ⟨h.1, h.2.1⟩

end ZejfMeteo
