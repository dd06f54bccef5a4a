namespace SdioWlan

instance instDecidableEqOutcome {ε α : Type} [DecidableEq ε] [DecidableEq α] :
    DecidableEq (Except ε α)
  | .error a, .error b => decidable_of_iff (a = b) (by simp)
  | .ok a, .ok b => decidable_of_iff (a = b) (by simp)
  | .error _, .ok _ | .ok _, .error _ => isFalse (by simp)

abbrev Errno := Int32

namespace Errno

def io : Errno := -5
def tooBig : Errno := -7
def noMemory : Errno := -12
def busy : Errno := -16
def noDevice : Errno := -19
def invalid : Errno := -22
def notImplemented : Errno := -38
def noData : Errno := -61
def protocol : Errno := -71
def badMessage : Errno := -74
def timedOut : Errno := -110

end Errno

inductive WaitPoint
  | writePort
  | chunkReady
  | firmwareReady
  deriving DecidableEq, Repr

def WaitPoint.message : WaitPoint → String
  | writePort => "WritePort"
  | chunkReady => "FwChunkReady"
  | firmwareReady => "FwReady"

inductive FirmwareFault
  /-- The chip asks for an odd number of bytes when the last chunk failed its checksum. -/
  | oddChunk (length : UInt16)
  | imageMissing
  | emptyImage
  deriving DecidableEq, Repr

def FirmwareFault.message : FirmwareFault → String
  | oddChunk n => s!"OddChunk({n})"
  | imageMissing => "ImageMissing"
  | emptyImage => "EmptyImage"

inductive DriverError
  | transfer (errno : Errno)
  | unknownControlPort
  | interruptMask
  | interruptStatus
  | receive
  | sendData
  | rejected (command : UInt16) (result : UInt8)
  | malformedTlv
  | malformedFrame
  | firmware (fault : FirmwareFault)
  | timeout (point : WaitPoint)
  | busy
  | tooLarge
  | invalidState
  | invalidParam
  deriving DecidableEq, Repr

namespace DriverError

def message : DriverError → String
  | transfer e => s!"Io({e})"
  | unknownControlPort => "UnknownIoPort"
  | interruptMask => "IntMaskFailed"
  | interruptStatus => "IntStatusFailed"
  | receive => "InvalidRxBuffer"
  | sendData => "SendDataFailed"
  | rejected c r =>
    "InvalidCmdResponse \x7b cmd: " ++ toString c ++ ", result: " ++ toString r ++ " \x7d"
  | malformedTlv => "MalformedTlv"
  | malformedFrame => "MalformedFrame"
  | firmware f => "FirmwareFailed(" ++ f.message ++ ")"
  | timeout w => "Timeout(" ++ w.message ++ ")"
  | busy => "Busy"
  | tooLarge => "PayloadTooLarge"
  | invalidState => "InvalidState"
  | invalidParam => "InvalidParam"

/-- The number a caller sees. The bus's own number is passed on if it is one. -/
def errno : DriverError → Errno
  | transfer e => if e < 0 then e else .io
  | interruptMask | interruptStatus | receive | sendData => .io
  | unknownControlPort => .noDevice
  | rejected _ _ => .protocol
  | malformedTlv | malformedFrame => .badMessage
  | firmware .imageMissing => .noData
  | firmware _ => .io
  | timeout _ => .timedOut
  | busy => .busy
  | tooLarge => .tooBig
  | invalidState | invalidParam => .invalid

end DriverError

inductive SystemError
  | io
  | notFound
  | invalidData
  | wouldBlock
  | resourceBusy
  | noMemory
  | badState
  | invalidInput
  deriving DecidableEq, Repr

def SystemError.name : SystemError → String
  | io => "Io"
  | notFound => "NotFound"
  | invalidData => "InvalidData"
  | wouldBlock => "WouldBlock"
  | resourceBusy => "ResourceBusy"
  | noMemory => "NoMemory"
  | badState => "BadState"
  | invalidInput => "InvalidInput"

def DriverError.system : DriverError → SystemError
  | transfer _ | interruptMask | interruptStatus | receive | sendData | firmware _ => .io
  | unknownControlPort => .notFound
  | rejected _ _ | malformedTlv | malformedFrame => .invalidData
  | timeout _ => .wouldBlock
  | busy => .resourceBusy
  | tooLarge => .noMemory
  | invalidState => .badState
  | invalidParam => .invalidInput

end SdioWlan
