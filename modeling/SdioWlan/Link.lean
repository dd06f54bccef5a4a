import SdioWlan.Dot11
import SdioWlan.Error
import SdioWlan.Frame

namespace SdioWlan

/-- A block moves through consecutive registers, or through the one address of a port. -/
inductive Addressing
  | incrementing
  | fifo
  deriving DecidableEq, Repr

inductive Access
  | readByte (addr : UInt32) (outcome : Except Errno UInt8)
  | writeByte (addr : UInt32) (value : UInt8) (outcome : Except Errno Unit)
  | readBlock (addr : UInt32) (mode : Addressing) (size : Nat) (outcome : Except Errno Bytes)
  | writeBlock (addr : UInt32) (mode : Addressing) (block : Bytes) (outcome : Except Errno Unit)
  | reset (outcome : Except Errno Unit)
  deriving DecidableEq

structure Lease where
  hostname : String
  ip : Bytes
  deriving DecidableEq, Repr

structure ScanResult where
  ssid : String
  bssid : Mac
  rssi : UInt8
  channel : UInt8
  security : Security
  deriving DecidableEq, Repr

inductive ConnectFailure
  | notFound
  | command (error : DriverError)
  | refused (reason : AssocRefusal)
  deriving DecidableEq, Repr

def ConnectFailure.message : ConnectFailure → String
  | notFound => "NotFound"
  | command e => "Command(" ++ e.message ++ ")"
  | refused r => "Refused(" ++ r.message ++ ")"

inductive StackCall
  | interfaceUp (mac : Mac)
  | deliver (frame : Bytes) (role : Role)
  | linkUp (role : Role)
  | linkDown (role : Role)
  | eraseLease (mac : Mac) (answer : Option Lease)
  deriving DecidableEq

inductive Report
  | initialized (status : Except DriverError Mac)
  /-- One result, or the end of a scan. -/
  | scanResult (result : Option ScanResult)
  | connected (status : Except ConnectFailure Unit)
  | disconnected
  | apStarted (status : Except DriverError Unit)
  | apStopped
  | clientConnected (mac : Mac) (lease : Lease)
  | clientDisconnected (mac : Mac) (lease : Option Lease)
  deriving DecidableEq

inductive Action
  | access (a : Access)
  | stack (c : StackCall)
  | report (r : Report)
  deriving DecidableEq

/-- What a platform with states in `σ` offers the driver: a bus with byte and block transfers, a
reset line if it has one, and the table of leases of its network stack. It may answer in any way,
and change its state in any way while it does. -/
class Platform (σ : Type) where
  readByte : UInt32 → σ → Except Errno UInt8 × σ
  writeByte : UInt32 → UInt8 → σ → Except Errno Unit × σ
  readBlock : UInt32 → Addressing → Nat → σ → Except Errno Bytes × σ
  writeBlock : UInt32 → Addressing → Bytes → σ → Except Errno Unit × σ
  reset : σ → Option (Except Errno Unit × σ)
  eraseLease : Mac → σ → Option Lease × σ

/-- The platform's state, and everything that was done to it, the latest first. -/
structure Link (σ : Type) where
  device : σ
  past : List Action

namespace Link

abbrev Transfer (σ α : Type) := ExceptT Errno (StateM (Link σ)) α

abbrev Work (σ α : Type) := ExceptT DriverError (StateM (Link σ)) α

variable {σ α : Type}

def perform (op : σ → Except Errno α × σ) (entry : Except Errno α → Access) : Transfer σ α :=
  fun l ↦
    let r := op l.device
    (r.1, ⟨r.2, .access (entry r.1) :: l.past⟩)

variable [Platform σ]

def readByte (addr : UInt32) : Transfer σ UInt8 :=
  perform (Platform.readByte addr) (.readByte addr)

def writeByte (addr : UInt32) (value : UInt8) : Transfer σ Unit :=
  perform (Platform.writeByte addr value) (.writeByte addr value)

/-- Whatever the platform hands over, the caller's zeroed buffer of `size` bytes is filled from
its start and keeps its length. -/
def readBlock (addr : UInt32) (mode : Addressing) (size : Nat) : Transfer σ Bytes :=
  perform
    (fun d ↦
      let r := Platform.readBlock addr mode size d
      (r.1.map fun b ↦ Bytes.fit b size, r.2))
    (.readBlock addr mode size)

def writeBlock (addr : UInt32) (mode : Addressing) (block : Bytes) : Transfer σ Unit :=
  perform (Platform.writeBlock addr mode block) (.writeBlock addr mode block)

/-- Without a reset line nothing is accessed. -/
def reset : Transfer σ Unit := fun l ↦
  match Platform.reset l.device with
  | none => (.ok (), l)
  | some r => (r.1, ⟨r.2, .access (.reset r.1) :: l.past⟩)

def read16 (lo hi : UInt32) : Transfer σ UInt16 := do
  let l ← readByte lo
  let h ← readByte hi
  return ofLe16 l h

end Link

structure Budget where
  maxTries : UInt32
  spinMicros : UInt32
  deriving DecidableEq, Repr

def defaultTries : UInt32 := 50000

def loopsPerMilli : Nat := 1000

variable {S α : Type}

/-- Probes up to `n` times. A failing probe ends the wait, and so does one that finds something. -/
def poll (point : WaitPoint) (probe : ExceptT DriverError (StateM S) (Option α)) :
    Nat → ExceptT DriverError (StateM S) α
  | 0 => throw (.timeout point)
  | n + 1 => do
    match ← probe with
    | some a => pure a
    | none => poll point probe n

def Budget.poll (b : Budget) (point : WaitPoint)
    (probe : ExceptT DriverError (StateM S) (Option α)) : ExceptT DriverError (StateM S) α :=
  SdioWlan.poll point probe b.maxTries.toNat

end SdioWlan
