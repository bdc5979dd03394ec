import ZejfMeteo.DataCheck

/-!
# What devices provide and demand

The rest of `data_info.c`: a device tells all others which variables it provides and which
it demands, and notes down in its routing table what the others tell.
-/

namespace ZejfMeteo
open Runs Format

variable {δ : Type} (T : Target δ)

def dataProvide : UInt8 := 0x04

def dataDemand : UInt8 := 0x05

def dataRequestCommand : UInt8 := 0x07

def variablesRequest : UInt8 := 0x0D

def variableInfoCommand : UInt8 := 0x0E

def dataSubscribe : UInt8 := 0x11

/-- The global variables of the firmware together with the two positions `provide_ptr` and
`demand_ptr`. -/
structure Device (δ : Type) where
  globals : Globals δ
  providePtr : UInt16
  demandPtr : UInt16

namespace Device

def globalsLens : Lens (Device δ) (Globals δ) where
  get := globals
  set s d := { d with globals := s }
  get_set _ _ := rfl
  set_get _ := rfl
  set_set _ _ _ := rfl

def providePtrLens : Lens (Device δ) UInt16 where
  get := providePtr
  set i d := { d with providePtr := i }
  get_set _ _ := rfl
  set_get _ := rfl
  set_set _ _ _ := rfl

def demandPtrLens : Lens (Device δ) UInt16 where
  get := demandPtr
  set i d := { d with demandPtr := i }
  get_set _ _ := rfl
  set_get _ := rfl
  set_set _ _ _ := rfl

end Device

def atSign : UInt8 := 0x40

def pSendProvide (info : VariableInfo) (time : UInt32) : Run (Globals δ) ZejfErr := do
  let pieces : List Piece := [.num info.id.toNat, .lit atSign, .num info.samplesPerHour.toNat]
  let packet ← networkPreparePacket T broadcast dataProvide (snprintf T.packetMaxLength pieces)
  networkSendPacket T packet time

def pSendDemand (var : UInt16) (time : UInt32) : Run (Globals δ) ZejfErr := do
  let packet ← networkPreparePacket T broadcast dataDemand
    (snprintf T.packetMaxLength [.num var.toNat])
  networkSendPacket T packet time

section SendInfo

variable {α : Type} (infos : List α) (send : α → Run (Globals δ) ZejfErr)
  (ptr : Lens (Device δ) UInt16)

/-- The loop of `network_send_provide_info` and of `network_send_demand_info` over an array,
from a position that is kept for the next call. -/
def sendInfoFrom : ℕ → Run (Device δ) ZejfErr
  | 0 => return .ok
  | maxCount + 1 => do
    match infos[(ptr.get (← get)).toNat]? with
    | none => throw .outOfBounds
    | some info =>
      let rv ← zoom Device.globalsLens (send info)
      if rv ≠ .ok then
        return rv
      let next := UInt16.ofNat (((ptr.get (← get)).toNat + 1) % infos.length)
      modify (ptr.set next)
      if next = 0 then
        return .ok
      sendInfoFrom maxCount

def sendInfo : Run (Device δ) ZejfErr := do
  if infos.length = 0 then
    return .generic
  if infos.length ≤ (ptr.get (← get)).toNat then
    modify (ptr.set 0)
  let maxCount ← zoom Device.globalsLens (allocatePacketQueue priorityMedium)
  sendInfoFrom infos send ptr maxCount

end SendInfo

def networkSendProvideInfo (time : UInt32) : Run (Device δ) ZejfErr :=
  sendInfo T.providedVariables (pSendProvide T · time) Device.providePtrLens

def networkSendDemandInfo (time : UInt32) : Run (Device δ) ZejfErr :=
  sendInfo T.demandedVariables (pSendDemand T · time) Device.demandPtrLens

/-- One more variable in an array of an entry. -/
lemma append_counted {α : Type} {count : UInt16} {xs : List α} (h : count.toNat ≤ xs.length)
    (x : α) : (count + 1).toNat ≤ (xs.take count.toNat ++ [x]).length := by
  rw [List.length_append, List.length_take, Nat.min_eq_left h, UInt16.toNat_add]
  exact Nat.mod_le _ _

namespace RoutingEntry

def provide (entry : RoutingEntry) (info : VariableInfo) : RoutingEntry :=
  { entry with
    providedCount := entry.providedCount + 1
    providedVariables := entry.provided ++ [info]
    provided_le := append_counted entry.provided_le info }

def demand (entry : RoutingEntry) (var : UInt16) : RoutingEntry :=
  { entry with
    demandCount := entry.demandCount + 1
    demandedVariables := entry.demanded ++ [var]
    demand_le := append_counted entry.demand_le var }

def subscribe (entry : RoutingEntry) : RoutingEntry := { entry with subscribed := true }

end RoutingEntry

/-- Adds a variable to an array of an entry unless it is known. The new variable goes to
the last place that the counter counts: there is none if the counter has wrapped. -/
def routingEntryAdd (index : ℕ) (known : RoutingEntry → Bool) (count : RoutingEntry → UInt16)
    (add : RoutingEntry → RoutingEntry) : Run (Globals δ) ZejfErr := do
  let entry ← tableEntry index
  if known entry then
    return .generic
  if count entry + 1 = 0 then
    throw .outOfBounds
  setTableEntry index (some (add entry))
  return .ok

def routingEntryAddProvidedVariable (index : ℕ) (providedVariable : VariableInfo) :
    Run (Globals δ) ZejfErr :=
  routingEntryAdd index (fun e => e.provided.any (fun v => v.id == providedVariable.id))
    RoutingEntry.providedCount (·.provide providedVariable)

def routingEntryAddDemandedVariable (index : ℕ) (demandedVariable : UInt16) :
    Run (Globals δ) ZejfErr :=
  routingEntryAdd index (fun e => e.demanded.any (fun v => v == demandedVariable))
    RoutingEntry.demandCount (·.demand demandedVariable)

def processDataDemand (packet : ℕ) : Run (Globals δ) ZejfErr := do
  let p ← readPacket packet
  match p.message with
  | none => return .null
  | some message =>
    match ← routingEntryFind p.fromId with
    | none => return .null
    | some index =>
      match sscanf (fun _ => none) [.num 16] message with
      | [.num var] => routingEntryAddDemandedVariable index (UInt16.ofNat var)
      | _ => return .generic

def processDataProvide (packet : ℕ) : Run (Globals δ) ZejfErr := do
  let p ← readPacket packet
  match p.message with
  | none => return .null
  | some message =>
    match ← routingEntryFind p.fromId with
    | none => return .null
    | some index =>
      match sscanf (fun _ => none) [.num 16, .lit atSign, .num 32] message with
      | [.num id, .num samplesPerHour] =>
        routingEntryAddProvidedVariable index
          { samplesPerHour := UInt32.ofNat samplesPerHour, id := UInt16.ofNat id }
      | _ => return .generic

def processDataSubscribe (packet : ℕ) : Run (Globals δ) ZejfErr := do
  let p ← readPacket packet
  match ← routingEntryFind p.fromId with
  | none => return .null
  | some index =>
    setTableEntry index (some (← tableEntry index).subscribe)
    return .ok

def processDataLog (packet : ℕ) (time : UInt32) : Run (Globals δ) ZejfErr := do
  let p ← readPacket packet
  match p.message with
  | none => return .null
  | some message =>
    match sscanf T.scanValue (numbersFormat .float) message with
    | [.num id, .num samplesPerHour, .num hourNumber, .num sampleNum, .float val] =>
      let info : VariableInfo :=
        { samplesPerHour := UInt32.ofNat samplesPerHour, id := UInt16.ofNat id }
      dataLog T info (UInt32.ofNat hourNumber) (UInt32.ofNat sampleNum) val time false
    | _ => return .generic

/-- `data_request_receive` of `data_request.c`. -/
def dataRequestReceive (packet : ℕ) : Run (Globals δ) ZejfErr := do
  let p ← readPacket packet
  match p.message with
  | none => throw .nullPointer
  | some message =>
    match sscanf (fun _ => none) (numbersFormat (.num 32)) message with
    | [.num id, .num samplesPerHour, .num hourNumber, .num startLog, .num endLog] =>
      let info : VariableInfo :=
        { samplesPerHour := UInt32.ofNat samplesPerHour, id := UInt16.ofNat id }
      dataRequestAdd p.fromId info (UInt32.ofNat hourNumber) (UInt32.ofNat startLog)
        (UInt32.ofNat endLog)
    | _ => return .generic

end ZejfMeteo
