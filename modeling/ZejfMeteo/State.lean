import ZejfMeteo.Protocol
import ZejfMeteo.Hour
import ZejfMeteo.LinkedList
import ZejfMeteo.Lib.Double

/-!
# The state of a node

The global variables of the firmware in one record, and what it calls on its platform.
Packets and data requests live on heaps and the queues hold their addresses; an hour is
owned by its node in the cache, and a routing entry by its slot in the table.
-/

namespace ZejfMeteo
open Runs

/-- `enum interface_type_t`. -/
inductive InterfaceType
  | usb
  | tcp
deriving DecidableEq

structure Interface where
  uid : ℤ
  type : InterfaceType
  handle : ℤ
  rxCount : UInt32
  txCount : UInt32
deriving DecidableEq

/-- The two arrays of an entry are at least as long as their counters say. -/
structure RoutingEntry where
  lastSeen : UInt32
  deviceId : UInt16
  demandCount : UInt16
  demandedVariables : List UInt16
  interface : Option ℕ
  paused : UInt8
  distance : UInt8
  providedCount : UInt16
  providedVariables : List VariableInfo
  subscribed : Bool
  demand_le : demandCount.toNat ≤ demandedVariables.length
  provided_le : providedCount.toNat ≤ providedVariables.length
deriving DecidableEq

structure DataRequest where
  info : VariableInfo
  targetDevice : UInt16
  hourNumber : UInt32
  startLog : UInt32
  endLog : UInt32
  currentLog : UInt32
  errors : UInt16
deriving DecidableEq

/-- The global variables; `platform` is the state of everything below the firmware. -/
structure Globals (δ : Type) where
  dataQueue : LinkedList DataHour
  dataRequestsQueue : LinkedList ℕ
  requests : Heap DataRequest
  rxQueue : LinkedList ℕ
  txQueue : LinkedList ℕ
  packets : Heap Packet
  nextPacket : Option ℕ
  routingTable : List (Option RoutingEntry)
  routingTableTop : ℕ
  nextFreeId : UInt16
  interfaces : Heap Interface
  platform : δ

/-- A device: its settings and the functions that the target platform defines. `printf`
and `scanf` of sample values belong to the platform too, and so does the conversion of a
double where C leaves it undefined. -/
structure Target (δ : Type) extends Settings where
  hourLoad : UInt32 → δ → (ZejfErr × List UInt8) × δ
  hourSave : UInt32 → List UInt8 → δ → ZejfErr × δ
  networkSendVia : List UInt8 → Interface → UInt32 → δ → ZejfErr × δ
  getAllInterfaces : δ → List ℕ
  providedVariables : List VariableInfo
  demandedVariables : List UInt16
  printValue : Sample → List UInt8
  scanValue : List UInt8 → Option (Sample × List UInt8)
  doubleToUInt32 : ℚ → UInt32
  doubleToUInt32_eq : ∀ x, -1 < x → x < 2 ^ 32 → doubleToUInt32 x = Double.toUInt32 x

/-- Dropping the fraction everywhere is one such conversion. -/
lemma toUInt32_conforms : ∀ x : ℚ, -1 < x → x < 2 ^ 32 →
    Double.toUInt32 x = Double.toUInt32 x := fun _ _ _ => rfl

namespace Globals

variable {δ : Type}

def dataQueueLens : Lens (Globals δ) (LinkedList DataHour) where
  get := dataQueue
  set q s := { s with dataQueue := q }
  get_set _ _ := rfl
  set_get _ := rfl
  set_set _ _ _ := rfl

def requestsQueueLens : Lens (Globals δ) (LinkedList ℕ) where
  get := dataRequestsQueue
  set q s := { s with dataRequestsQueue := q }
  get_set _ _ := rfl
  set_get _ := rfl
  set_set _ _ _ := rfl

def requestsLens : Lens (Globals δ) (Heap DataRequest) where
  get := requests
  set h s := { s with requests := h }
  get_set _ _ := rfl
  set_get _ := rfl
  set_set _ _ _ := rfl

def rxQueueLens : Lens (Globals δ) (LinkedList ℕ) where
  get := rxQueue
  set q s := { s with rxQueue := q }
  get_set _ _ := rfl
  set_get _ := rfl
  set_set _ _ _ := rfl

def txQueueLens : Lens (Globals δ) (LinkedList ℕ) where
  get := txQueue
  set q s := { s with txQueue := q }
  get_set _ _ := rfl
  set_get _ := rfl
  set_set _ _ _ := rfl

def packetsLens : Lens (Globals δ) (Heap Packet) where
  get := packets
  set h s := { s with packets := h }
  get_set _ _ := rfl
  set_get _ := rfl
  set_set _ _ _ := rfl

def interfacesLens : Lens (Globals δ) (Heap Interface) where
  get := interfaces
  set h s := { s with interfaces := h }
  get_set _ _ := rfl
  set_get _ := rfl
  set_set _ _ _ := rfl

/-- A call of a platform function. -/
def platformCall {α : Type} (f : δ → α × δ) : Run (Globals δ) α := do
  let s ← get
  let (a, platform) := f s.platform
  set { s with platform }
  return a

@[simp] lemma platformCall_run {α : Type} (f : δ → α × δ) (s : Globals δ) :
    (platformCall f).run s = .ok (f s.platform).1 { s with platform := (f s.platform).2 } := rfl

end Globals

variable {δ : Type}

/-- `zejf_init`. The platform sets itself up, with no interfaces at first. -/
def zejfInit (T : Target δ) (platform : δ) : Globals δ where
  dataQueue := listCreate DataHour T.hourBufferSize
  dataRequestsQueue := listCreate ℕ T.dataRequestQueueSize
  requests := Heap.empty
  rxQueue := listCreate ℕ T.rxQueueSize
  txQueue := listCreate ℕ T.txQueueSize
  packets := Heap.empty
  nextPacket := none
  routingTable := List.replicate T.routingTableSize none
  routingTableTop := 0
  nextFreeId := reservedDeviceIds
  interfaces := Heap.empty
  platform := platform

/-- A platform without storage, without links and without variables of its own. -/
def Target.bare (settings : Settings) : Target Unit where
  toSettings := settings
  hourLoad _ p := ((.fileDoesntExist, []), p)
  hourSave _ _ p := (.io, p)
  networkSendVia _ _ _ p := (.ok, p)
  getAllInterfaces _ := []
  providedVariables := []
  demandedVariables := []
  printValue _ := []
  scanValue _ := none
  doubleToUInt32 := Double.toUInt32
  doubleToUInt32_eq := toUInt32_conforms

def packetDestroy (packet : ℕ) : Run (Globals δ) Unit :=
  zoom Globals.packetsLens (Heap.free packet)

def readPacket (packet : ℕ) : Run (Globals δ) Packet :=
  zoom Globals.packetsLens (Heap.read packet)

def updatePacket (packet : ℕ) (f : Packet → Packet) : Run (Globals δ) Unit :=
  zoom Globals.packetsLens (Heap.update packet f)

/-- Dereferences an interface pointer. -/
def readInterface (interface : Option ℕ) : Run (Globals δ) Interface :=
  match interface with
  | none => throw .nullPointer
  | some a => zoom Globals.interfacesLens (Heap.read a)

/-- Dereferences `routing_table[index]`. -/
def tableEntry (index : ℕ) : Run (Globals δ) RoutingEntry := do
  match (← get).routingTable[index]? with
  | some (some entry) => return entry
  | some none => throw .nullPointer
  | none => throw .outOfBounds

/-- Stores a pointer to a routing entry, or NULL, in `routing_table[index]`. -/
def setTableEntry (index : ℕ) (entry : Option RoutingEntry) : Run (Globals δ) Unit := do
  let s ← get
  if index < s.routingTable.length then
    set { s with routingTable := s.routingTable.set index entry }
  else
    throw .outOfBounds

end ZejfMeteo
