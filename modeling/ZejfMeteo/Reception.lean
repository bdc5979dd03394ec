import ZejfMeteo.DataInfo
import ZejfMeteo.Forwarding

/-!
# Received packets

`network_process_rx` takes one packet out of the receive queue, handles it and destroys it.
What the firmware does not catch goes to `network_process_packet` of the platform; here it
is the server's, which answers requests for the time.
-/

namespace ZejfMeteo
open Runs Format

variable {δ : Type} (T : Target δ)

def timeCheck : UInt8 := 0x09

def messageCommand : UInt8 := 0x0A

def timeRequestCommand : UInt8 := 0x0B

/-- Tells about the variables of an hour, one packet each; `network_send_packet` may refuse
some of them. -/
def sendVariables (deviceId : UInt16) (hourNumber time : UInt32) :
    List Variable → Run (Globals δ) ZejfErr
  | [] => return .ok
  | var :: rest => do
    let pieces : List Piece := [.num var.info.id.toNat, .lit comma,
      .num var.info.samplesPerHour.toNat, .lit comma, .num hourNumber.toNat]
    let packet ← networkPreparePacket T deviceId variableInfoCommand
      (snprintf T.packetMaxLength pieces)
    let _ ← networkSendPacket T packet time
    sendVariables deviceId hourNumber time rest

def variablesRequestProcess (deviceId : UInt16) (hourNumber time : UInt32) :
    Run (Globals δ) ZejfErr := do
  match ← datahourGet T hourNumber true false with
  | none => return .null
  | some hour =>
    let h ← readHour hour
    let variableCount := h.variableCount.toNat
    if (← allocatePacketQueue priorityMedium) < variableCount then
      return .queueFull
    sendVariables T deviceId hourNumber time (h.vars.take variableCount)

def variablesRequestReceive (packet : ℕ) (time : UInt32) : Run (Globals δ) ZejfErr := do
  let p ← readPacket packet
  match p.message with
  | none => throw .nullPointer
  | some message =>
    match sscanf (fun _ => none) [.num 32] message with
    | [.num hourNumber] =>
      variablesRequestProcess T p.fromId (UInt32.ofNat hourNumber) time
    | _ => return .generic

/-- What the clock of the server shows; milliseconds are cut to the width of `TIME_TYPE`. -/
structure Clock where
  seconds : ℕ
  millis : UInt32

def timeRequest (clock : Clock) (toId : UInt16) : Run (Globals δ) Bool := do
  let packet ← networkPreparePacket T toId timeCheck (snprintf 32 [.num clock.seconds])
  let rv ← networkSendPacket T packet clock.millis
  return rv == .ok

/-- A text without a message would be printed from a NULL pointer. -/
def networkProcessPacket (clock : Clock) (packet : ℕ) : Run (Globals δ) Unit := do
  let p ← readPacket packet
  if p.command = timeRequestCommand then
    let _ ← timeRequest T clock p.fromId
  else if p.command = messageCommand ∧ p.message = none then
    throw .nullPointer

def networkCatchPacket (packet : ℕ) (time : UInt32) : Run (Globals δ) Bool := do
  let p ← readPacket packet
  if p.command = dataDemand then
    let _ ← processDataDemand packet
    return true
  if p.command = dataProvide then
    let _ ← processDataProvide packet
    return true
  if p.command = dataLogCommand then
    let _ ← processDataLog T packet time
    return true
  if p.command = dataRequestCommand then
    let _ ← dataRequestReceive packet
    return true
  if p.command = dataCheckCommand then
    let _ ← dataCheckReceive T packet
    return true
  if p.command = variablesRequest then
    let _ ← variablesRequestReceive T packet time
    return true
  if p.command = dataSubscribe then
    let _ ← processDataSubscribe packet
    return true
  return false

def networkProcessRx (clock : Clock) (time : UInt32) : Run (Globals δ) Unit := do
  match ← zoom Globals.rxQueueLens listPop with
  | none => return
  | some packet =>
    if !(← networkCatchPacket T packet time) then
      networkProcessPacket T clock packet
    packetDestroy packet

def networkProcessPackets (clock : Clock) (time : UInt32) : Run (Globals δ) Unit := do
  networkProcessRx T clock time
  let _ ← networkSendTx T time

end ZejfMeteo
