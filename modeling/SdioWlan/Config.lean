import SdioWlan.Link
import SdioWlan.Params
import SdioWlan.Text

namespace SdioWlan

structure Config where
  writePortTries : UInt32 := defaultTries
  chunkReadyTries : UInt32 := defaultTries
  firmwareReadyTries : UInt32 := defaultTries
  spinMicros : UInt32 := 0
  /-- How many milliseconds the scan of an attempt to connect stays on a channel. -/
  scanTime : UInt16 := defaultScanTime
  retryLimit : UInt8 := 0
  firmwareName : String := "sd8801_uapsta.bin"
  deriving DecidableEq, Repr

structure FirmwareBudgets where
  chunkReady : Budget
  firmwareReady : Budget
  deriving DecidableEq, Repr

namespace Config

def writePortBudget (c : Config) : Budget := ⟨c.writePortTries, c.spinMicros⟩

def firmwareBudgets (c : Config) : FirmwareBudgets :=
  ⟨⟨c.chunkReadyTries, c.spinMicros⟩, ⟨c.firmwareReadyTries, c.spinMicros⟩⟩

inductive Tag
  | writePortTries
  | chunkReadyTries
  | firmwareReadyTries
  | spinMicros
  | scanTime
  | retryLimit
  | firmwareName
  deriving DecidableEq, Repr

namespace Tag

def name : Tag → String
  | writePortTries => "WRITE_PORT_RETRIES"
  | chunkReadyTries => "FW_CHUNK_READY_TRIES"
  | firmwareReadyTries => "FW_READY_TRIES"
  | spinMicros => "POLL_SPIN_US"
  | scanTime => "SCAN_MAX_TIME"
  | retryLimit => "CONNECT_RETRY_LIMIT"
  | firmwareName => "FW_NAME"

/-- What a line for this setting starts with. Names are ASCII, a byte for each character. -/
def start (t : Tag) : Bytes := (t.name.toList ++ ['=']).map fun c ↦ UInt8.ofNat c.toNat

end Tag

def lineFeed : UInt8 := 0x0A

def carriageReturn : UInt8 := 0x0D

def lines : Bytes → List Bytes
  | [] => [[]]
  | b :: bs =>
    if b = lineFeed then [] :: lines bs
    else
      match lines bs with
      | [] => [[b]]
      | l :: ls => (b :: l) :: ls

def withoutReturn (l : Bytes) : Bytes :=
  if l.getLast? = some carriageReturn then l.dropLast else l

def value? (ls : List Bytes) (tag : Tag) : Option Bytes :=
  (ls.findSome? tag.start.isPrefixOf?).map withoutReturn

def text? (ls : List Bytes) (tag : Tag) : Option (List Char) := do
  let chars ← Text.Utf8.decode? (← value? ls tag)
  return Text.trim chars

def number? (ls : List Bytes) (tag : Tag) (bits : Nat) : Option Nat :=
  ((text? ls tag).bind Text.natural?).filter (· < Nat.pow 2 bits)

def word (ls : List Bytes) (tag : Tag) (standard : UInt32) : UInt32 :=
  (number? ls tag 32).elim standard UInt32.ofNat

def ofLines (ls : List Bytes) : Config :=
  let standard : Config := {}
  { writePortTries := word ls .writePortTries standard.writePortTries
    chunkReadyTries := word ls .chunkReadyTries standard.chunkReadyTries
    firmwareReadyTries := word ls .firmwareReadyTries standard.firmwareReadyTries
    spinMicros := word ls .spinMicros standard.spinMicros
    scanTime := (number? ls .scanTime 16).elim standard.scanTime UInt16.ofNat
    retryLimit := (number? ls .retryLimit 8).elim standard.retryLimit UInt8.ofNat
    firmwareName :=
      ((text? ls .firmwareName).filter (· ≠ [])).elim standard.firmwareName String.ofList }

def parse (text : Bytes) : Config := ofLines (lines text)

end Config

end SdioWlan
