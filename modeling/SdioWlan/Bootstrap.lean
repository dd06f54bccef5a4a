import SdioWlan.Command

namespace SdioWlan

inductive BootStage
  | idle
  | awaitFuncInit
  | awaitMacControl
  | awaitHwSpec
  | awaitMacAddr
  | ready
  | failed
  deriving DecidableEq, Repr

namespace BootStage

/-- The command whose response a stage waits for, and the stage after it. -/
def step? : BootStage → Option (CommandId × BootStage)
  | awaitFuncInit => some (.funcInit, awaitMacControl)
  | awaitMacControl => some (.macControl, awaitHwSpec)
  | awaitHwSpec => some (.getHwSpec, awaitMacAddr)
  | awaitMacAddr => some (.macAddr, ready)
  | idle | ready | failed => none

def awaited? (s : BootStage) : Option CommandId := s.step?.map (·.1)

end BootStage

inductive BootStep
  | next (id : CommandId)
  | done
  | notMine
  deriving DecidableEq, Repr

structure Bootstrap where
  stage : BootStage := .idle
  next : Option CommandId := none
  deriving DecidableEq, Repr

namespace Bootstrap

def isReady (b : Bootstrap) : Bool := b.stage == .ready

def start : Bootstrap := ⟨.awaitFuncInit, some .funcInit⟩

def take (b : Bootstrap) : Option CommandId × Bootstrap := (b.next, { b with next := none })

def advance (b : Bootstrap) (id : CommandId) : BootStep × Bootstrap :=
  match b.stage.step? with
  | none => (.notMine, b)
  | some (awaited, stage) =>
    if id = awaited then
      match stage.awaited? with
      | some c => (.next c, ⟨stage, some c⟩)
      | none => (.done, ⟨stage, none⟩)
    else (.notMine, b)

/-- Ends the chain. What was ready before stays ready. -/
def fail (b : Bootstrap) : Bootstrap := ⟨if b.stage = .ready then .ready else .failed, none⟩

def reset : Bootstrap := {}

end Bootstrap

end SdioWlan
