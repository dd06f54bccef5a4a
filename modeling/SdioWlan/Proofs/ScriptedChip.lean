import SdioWlan.Proofs.Trace

namespace SdioWlan

structure ScriptedChip where
  frames : List Bytes
  deriving DecidableEq

namespace ScriptedChip

/-- The registers of a chip that takes all firmware in one chunk and runs it at once. -/
def register (addr : UInt32) : UInt8 :=
  if addr = Register.cardEvent then cardReady ||| chunkReady
  else if addr = Register.chunkLengthHigh then 1
  else if addr = Register.firmwareLow then 0xDC
  else if addr = Register.firmwareHigh then 0xFE
  else 0

def announcement (length : Nat) : Bytes :=
  [0, 0, 0, 1, 1, 0, 0xFF, 0xFF] ++ leBytes 2 length ++ List.replicate 54 0

def readBlock (mode : Addressing) (c : ScriptedChip) : Except Errno Bytes × ScriptedChip :=
  match mode, c.frames with
  | .incrementing, [] => (.ok [], c)
  | .incrementing, f :: _ => (.ok (announcement f.length), c)
  | .fifo, [] => (.error .noData, c)
  | .fifo, f :: rest => (.ok f, ⟨rest⟩)

instance : Platform ScriptedChip where
  readByte addr c := (.ok (register addr), c)
  writeByte _ _ c := (.ok (), c)
  readBlock _ mode _ c := c.readBlock mode
  writeBlock _ _ _ c := (.ok (), c)
  reset _ := none
  eraseLease _ c := (none, c)

def response (id : CommandId) (result : UInt8) (body : Bytes) : Bytes :=
  let n := CommandHeader.length + body.length
  { frameLength := UInt16.ofNat n
    kind := FrameKind.command.code.toUInt16
    command := id.code ||| responseBit
    size := UInt16.ofNat (n - frameHeaderSize)
    sequence := 0
    bss := 0
    result : CommandHeader }.toBytes ++ body

def event (id : EventId) : Bytes :=
  le16 (UInt16.ofNat eventHeaderSize) ++ le16 FrameKind.event.code.toUInt16 ++ le16 id.code ++
    [0, 0]

def securedNetwork : Bytes :=
  [28, 0, 1, 26, 0] ++ [0xA0, 1, 2, 3, 4, 5, 40] ++ List.replicate 8 0 ++ [100, 0, 0x11, 0] ++
    [0, 1, 65, 48, 2, 1, 0]

def openNetwork : Bytes :=
  [24, 0, 1, 22, 0] ++ [0xA0, 1, 2, 3, 4, 5, 40] ++ List.replicate 8 0 ++ [100, 0, 1, 0] ++
    [0, 1, 65]

def bootFrames : List Bytes :=
  [response .funcInit 0 [], response .macControl 0 [],
    response .getHwSpec 0 (List.replicate 43 0 ++ [16, 0]),
    response .macAddr 0 [0, 0, 2, 136, 1, 170, 187, 204]]

def booted (calls : List Call) : List Call :=
  [.init, .serviceInterrupt, .serviceInterrupt, .serviceInterrupt, .serviceInterrupt] ++ calls

/-- A driver with a chip that hands over these frames after those of the bootstrap. -/
def start (frames : List Bytes) : Session ScriptedChip :=
  .fresh {} (.image [165, 165]) ⟨bootFrames ++ frames⟩

def stepsOf (calls : List Call) (frames : List Bytes) : List (Step ScriptedChip) :=
  Session.steps (booted calls) (start frames)

/-- A step of a run, with what can be computed about it. -/
theorem exists_step {σ α : Type} (ms : List (Step σ)) (n : Nat) (f : Step σ → α) {a : α}
    (h : ms[n]?.map f = some a) :
    ∃ pre m post, ms = pre ++ m :: post ∧ pre.length = n ∧ f m = a := by
  obtain ⟨m, hm, hf⟩ := Option.map_eq_some_iff.mp h
  obtain ⟨hn, rfl⟩ := List.getElem?_eq_some_iff.mp hm
  refine ⟨ms.take n, ms[n], ms.drop (n + 1), ?_, List.length_take_of_le (Nat.le_of_lt hn), hf⟩
  rw [List.getElem_cons_drop, List.take_append_drop]

theorem exists_steps {σ α β : Type} (ms : List (Step σ)) (i n : Nat) (f : Step σ → α)
    (g : Step σ → β) {x : α} {y : β} (hin : i < n) (hi : ms[i]?.map f = some x)
    (hn : ms[n]?.map g = some y) :
    ∃ a k b m post, ms = (a ++ k :: b) ++ m :: post ∧ a ++ k :: b = ms.take n ∧ a.length = i ∧
      f k = x ∧ g m = y := by
  obtain ⟨pre, m, post, h, hlen, hm⟩ := exists_step ms n g hn
  have hpre : pre = ms.take n := by rw [h, ← hlen, List.take_left]
  have hk : pre[i]?.map f = some x := by rw [hpre, List.getElem?_take_of_lt hin, hi]
  obtain ⟨a, k, b, rfl, ha, hf⟩ := exists_step pre i f hk
  exact ⟨a, k, b, m, post, h, hpre, ha, hf, hm⟩

end ScriptedChip

end SdioWlan
