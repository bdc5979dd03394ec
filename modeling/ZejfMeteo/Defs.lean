import Mathlib.Tactic.Common
import Mathlib.Algebra.Group.Nat.Defs

/-!
# Data types and settings of the firmware

Values from `zejf_defs.h` and the constants each device sets in its `zejf_settings.h`.
-/

namespace ZejfMeteo

inductive ZejfErr
  | ok
  | generic
  | null
  | packetFormat
  | checksum
  | itself
  | queueFull
  | txid
  | rxid
  | ttl
  | noSuchDevice
  | packetFormatBrackets
  | packetFormatItems
  | packetFormatLength
  | outOfMemory
  | noChange
  | partialSend
  | invalidSampleRate
  | variablesMax
  | variableAlreadyExists
  | logNumber
  | value
  | noFreeSlots
  | requestAlreadyExists
  | io
  | fileDoesntExist
  | sendUnable
deriving DecidableEq, Repr

/-- The constants of a device's `zejf_settings.h` that the firmware reads. Every message
that the firmware formats fits into 96 bytes. -/
structure Settings where
  deviceId : UInt16
  packetMaxLength : ℕ
  packetMaxTtl : ℕ
  rxQueueSize : ℕ
  txQueueSize : ℕ
  packetDeleteTimeout : ℕ
  routingTableSize : ℕ
  routingEntryTimeout : ℕ
  hourBufferSize : ℕ
  sampleRateMax : ℕ
  variablesMax : ℕ
  dataRequestQueueSize : ℕ
  packetMaxLength_ge : 96 ≤ packetMaxLength
  hourBufferSize_pos : 0 < hourBufferSize
  variablesMax_lt : variablesMax < 2 ^ 16

namespace Settings

/-- The server. -/
def zejfMeteo : Settings where
  deviceId := 0x0001
  packetMaxLength := 128
  packetMaxTtl := 8
  rxQueueSize := 16384
  txQueueSize := 16384
  packetDeleteTimeout := 1000 * 10
  routingTableSize := 16
  routingEntryTimeout := 1000 * 60
  hourBufferSize := 128
  sampleRateMax := 60 * 12
  variablesMax := 128
  dataRequestQueueSize := 32768
  packetMaxLength_ge := by decide
  hourBufferSize_pos := by decide
  variablesMax_lt := by decide

/-- The pressure sensor on the serial line. -/
def zejfPress : Settings where
  deviceId := 0x0002
  packetMaxLength := 128
  packetMaxTtl := 8
  rxQueueSize := 64
  txQueueSize := 32
  packetDeleteTimeout := 1000 * 5
  routingTableSize := 16
  routingEntryTimeout := 1000 * 60
  hourBufferSize := 12
  sampleRateMax := 60 * 12
  variablesMax := 4
  dataRequestQueueSize := 64
  packetMaxLength_ge := by decide
  hourBufferSize_pos := by decide
  variablesMax_lt := by decide

/-- The wind and rain sensor. -/
def zejfWind : Settings where
  deviceId := 0x0003
  packetMaxLength := 128
  packetMaxTtl := 8
  rxQueueSize := 64
  txQueueSize := 32
  packetDeleteTimeout := 1000 * 5
  routingTableSize := 16
  routingEntryTimeout := 1000 * 60
  hourBufferSize := 8
  sampleRateMax := 60 * 12
  variablesMax := 8
  dataRequestQueueSize := 312
  packetMaxLength_ge := by decide
  hourBufferSize_pos := by decide
  variablesMax_lt := by decide

/-- The outside sensor. -/
def zejfOutside : Settings where
  deviceId := 0x0004
  packetMaxLength := 128
  packetMaxTtl := 8
  rxQueueSize := 64
  txQueueSize := 32
  packetDeleteTimeout := 1000 * 5
  routingTableSize := 16
  routingEntryTimeout := 1000 * 60
  hourBufferSize := 6
  sampleRateMax := 60 * 12
  variablesMax := 10
  dataRequestQueueSize := 164
  packetMaxLength_ge := by decide
  hourBufferSize_pos := by decide
  variablesMax_lt := by decide

end Settings

/-- `BROADCAST`, the address of every device. -/
def broadcast : UInt16 := 0xFFFF

/-- `ALL_VARIABLES`, a demand for every variable. -/
def allVariables : UInt16 := 0xFFFF

def priorityHigh : ℕ := 2

def priorityMedium : ℕ := 4

def priorityLow : ℕ := 8

/-- `HOUR` in milliseconds. -/
def hourMillis : ℕ := 1000 * 60 * 60

def reservedDeviceIds : UInt16 := 1000

/-- A sample is kept as the bit pattern of a 32-bit float. -/
abbrev Sample := UInt32

/-- `VALUE_EMPTY`, the pattern of -999. -/
def valueEmpty : Sample := 0xC479C000

/-- `VALUE_NOT_MEASURED`, the pattern of -998. -/
def valueNotMeasured : Sample := 0xC4798000

/-- Both sentinels have a single bit pattern each, so comparing floats with them is
comparing patterns; every other pattern, a NaN included, is a measured value. -/
def Measured (v : Sample) : Prop := v ≠ valueEmpty ∧ v ≠ valueNotMeasured

instance (v : Sample) : Decidable (Measured v) := inferInstanceAs (Decidable (_ ∧ _))

structure VariableInfo where
  samplesPerHour : UInt32
  id : UInt16
deriving DecidableEq, Repr

/-- A variable owns an array of exactly `samplesPerHour` samples. -/
structure Variable where
  info : VariableInfo
  data : List Sample
  size_eq : data.length = info.samplesPerHour.toNat
deriving DecidableEq

/-- An hour of data; `variable_count` is the number of `vars`. -/
structure DataHour where
  hourId : UInt32
  checksum : UInt32
  flags : UInt8
  vars : List Variable
deriving DecidableEq

def DataHour.variableCount (hour : DataHour) : UInt16 := UInt16.ofNat hour.vars.length

/-- `FLAG_MODIFIED`. -/
def flagModified : UInt8 := 1

namespace Variable

/-- The variable with sample `i` overwritten. -/
def setSample (v : Variable) (i : ℕ) (value : Sample) : Variable where
  info := v.info
  data := v.data.set i value
  size_eq := by rw [List.length_set, v.size_eq]

@[simp] lemma setSample_info (v : Variable) (i : ℕ) (value : Sample) :
    (v.setSample i value).info = v.info := rfl

@[simp] lemma setSample_data (v : Variable) (i : ℕ) (value : Sample) :
    (v.setSample i value).data = v.data.set i value := rfl

end Variable

end ZejfMeteo
