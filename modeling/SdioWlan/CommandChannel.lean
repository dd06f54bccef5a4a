import SdioWlan.Command
import SdioWlan.Register

namespace SdioWlan

structure CommandChannel where
  held : Bool := false
  buffer : Bytes := []
  inFlight : Option CommandId := none
  sent : UInt32 := 0
  /-- An association that waits until the chip knows the key. -/
  staged : Option Command := none
  deriving DecidableEq

namespace CommandChannel

def acquire (ch : CommandChannel) (c : Command) : Except DriverError CommandChannel :=
  if ch.held then .error .busy
  else
    match c.writeTo (List.replicate maxFrame 0) with
    | .error e => .error e
    | .ok (n, buf) => .ok { ch with held := true, buffer := buf.take n }

def release (ch : CommandChannel) (id : CommandId) : Except Errno Unit → CommandChannel
  | .ok () => { ch with held := false, inFlight := some id, sent := ch.sent + 1 }
  | .error _ => { ch with held := false }

def stage (ch : CommandChannel) (c : Command) : CommandChannel := { ch with staged := some c }

def clearStaged (ch : CommandChannel) : CommandChannel := { ch with staged := none }

/-- A response has come in. Tells whether it answers the command under way. -/
def respond (ch : CommandChannel) (id : CommandId) : Bool × CommandChannel :=
  (ch.inFlight == some id, { ch with inFlight := none })

variable {σ β : Type} [Platform σ]

/-- Sends a command to the control port. `meanwhile` runs while the channel is held, before the
block goes out; it does not run if the channel could not be taken. -/
def sendDuring (base : UInt32) (c : Command) (meanwhile : StateM (CommandChannel × Link σ) β) :
    StateM (CommandChannel × Link σ) (Except DriverError Unit × Option β) := fun s ↦
  match s.1.acquire c with
  | .error e => ((.error e, none), s)
  | .ok ch =>
    let m := meanwhile (ch, s.2)
    let w := Link.writeBlock (portAddress base controlPort) .fifo m.2.1.buffer m.2.2
    ((w.1.mapError .transfer, some m.1), (m.2.1.release c.id w.1, w.2))

def send (base : UInt32) (c : Command) :
    ExceptT DriverError (StateM (CommandChannel × Link σ)) Unit := fun s ↦
  let r := sendDuring base c (pure ()) s
  (r.1.1, r.2)

/-- Sends a command and is interrupted by others that want to be sent too. -/
def sendInterrupted (base : UInt32) (c : Command) (others : List Command) :
    StateM (CommandChannel × Link σ)
      (Except DriverError Unit × Option (List (Except DriverError Unit))) :=
  sendDuring base c (others.mapM fun d ↦ (send base d).run)

end CommandChannel

end SdioWlan
