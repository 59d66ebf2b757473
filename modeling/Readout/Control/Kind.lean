/-
# The kinds of control messages

Every control message has one of thirty-four kinds, numbered from zero.  A device command and its
answer share a kind; the chunks of a streamed dump have one of their own.  Number zero stands for a
kind that was never set and is not valid in a message.
-/

namespace Readout.Control

/-- The kind of a control message. -/
inductive Kind where
  | unspecified
  | configureClocks
  | configureFrontEnd
  | writeAfeRegister
  | writeAfeGain
  | writeAfeBias
  | writeTrimAllChannels
  | writeTrimAllAfes
  | writeTrimChannel
  | writeOffsetAllChannels
  | writeOffsetAllAfes
  | writeOffsetChannel
  | writeBiasControl
  | readAfeRegister
  | readAfeGain
  | readAfeBias
  | readTrimAllChannels
  | readTrimAllAfes
  | readTrimChannel
  | readOffsetAllChannels
  | readOffsetAllAfes
  | readOffsetChannel
  | readBiasControl
  | readCurrentMonitor
  | readBiasMonitor
  | setAfeReset
  | doAfeReset
  | setAfePower
  /-- A dump in one answer; the request and the answer share this kind. -/
  | dump
  | alignAfe
  | writeAfeFunction
  | softwareTrigger
  /-- The request of a streamed dump. -/
  | chunkRequest
  /-- One chunk of a streamed dump. -/
  | chunkReply
  deriving DecidableEq, Repr, Inhabited

namespace Kind

/-- All kinds, by number. -/
def all : List Kind :=
  [unspecified, configureClocks, configureFrontEnd, writeAfeRegister, writeAfeGain, writeAfeBias,
    writeTrimAllChannels, writeTrimAllAfes, writeTrimChannel, writeOffsetAllChannels,
    writeOffsetAllAfes, writeOffsetChannel, writeBiasControl, readAfeRegister, readAfeGain,
    readAfeBias, readTrimAllChannels, readTrimAllAfes, readTrimChannel, readOffsetAllChannels,
    readOffsetAllAfes, readOffsetChannel, readBiasControl, readCurrentMonitor, readBiasMonitor,
    setAfeReset, doAfeReset, setAfePower, dump, alignAfe, writeAfeFunction, softwareTrigger,
    chunkRequest, chunkReply]

/-- The number of a kind on the wire. -/
def code (k : Kind) : Int32 := Int32.ofNat k.ctorIdx

/-- The kind with a number. -/
def ofCode? (value : Int32) : Option Kind :=
  if 0 ≤ value.toInt then all[value.toInt.toNat]? else none

/-- The name of a kind. -/
def name : Kind → String
  | unspecified => "UNSPECIFIED"
  | configureClocks => "CONFIGURE_CLKS"
  | configureFrontEnd => "CONFIGURE_FE"
  | writeAfeRegister => "WRITE_AFE_REG"
  | writeAfeGain => "WRITE_AFE_VGAIN"
  | writeAfeBias => "WRITE_AFE_BIAS_SET"
  | writeTrimAllChannels => "WRITE_TRIM_ALL_CH"
  | writeTrimAllAfes => "WRITE_TRIM_ALL_AFE"
  | writeTrimChannel => "WRITE_TRIM_CH"
  | writeOffsetAllChannels => "WRITE_OFFSET_ALL_CH"
  | writeOffsetAllAfes => "WRITE_OFFSET_ALL_AFE"
  | writeOffsetChannel => "WRITE_OFFSET_CH"
  | writeBiasControl => "WRITE_VBIAS_CONTROL"
  | readAfeRegister => "READ_AFE_REG"
  | readAfeGain => "READ_AFE_VGAIN"
  | readAfeBias => "READ_AFE_BIAS_SET"
  | readTrimAllChannels => "READ_TRIM_ALL_CH"
  | readTrimAllAfes => "READ_TRIM_ALL_AFE"
  | readTrimChannel => "READ_TRIM_CH"
  | readOffsetAllChannels => "READ_OFFSET_ALL_CH"
  | readOffsetAllAfes => "READ_OFFSET_ALL_AFE"
  | readOffsetChannel => "READ_OFFSET_CH"
  | readBiasControl => "READ_VBIAS_CONTROL"
  | readCurrentMonitor => "READ_CURRENT_MONITOR"
  | readBiasMonitor => "READ_BIAS_VOLTAGE_MONITOR"
  | setAfeReset => "SET_AFE_RESET"
  | doAfeReset => "DO_AFE_RESET"
  | setAfePower => "SET_AFE_POWERSTATE"
  | dump => "DUMP_SPYBUFFER"
  | alignAfe => "ALIGN_AFE"
  | writeAfeFunction => "WRITE_AFE_FUNCTION"
  | softwareTrigger => "DO_SOFTWARE_TRIGGER"
  | chunkRequest => "DUMP_SPYBUFFER_CHUNK"
  | chunkReply => "DUMP_SPYBUFFER_CHUNK_RESPONSE"

theorem ofCode?_code (k : Kind) : ofCode? k.code = some k := by cases k <;> rfl

theorem code_inj {a b : Kind} (h : a.code = b.code) : a = b :=
  Option.some.inj (by rw [← ofCode?_code a, h, ofCode?_code])

end Kind

end Readout.Control
