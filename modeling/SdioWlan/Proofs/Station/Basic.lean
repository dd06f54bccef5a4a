import SdioWlan.Proofs.Footprint
import SdioWlan.Startup

namespace SdioWlan

structure Station where
  connection : Connection
  staged : Option Command
  held : Bool

def Driver.station (d : Driver) : Station := ⟨d.connection, d.channel.staged, d.channel.held⟩

def CommandId.connects : CommandId → Bool
  | scan | supplicantPmk | associate => true
  | _ => false

/-- What an action has to do with the station: it writes a command by which a station connects, or
tells somebody how the connection stands. -/
def Action.concernsStation : Action → Bool
  | .access a => ((Action.access a).command?.map fun w ↦ w.1.connects).getD false
  | .stack (.linkUp .sta) | .stack (.linkDown .sta) => true
  | .report (.connected _) | .report .disconnected => true
  | _ => false

abbrev Action.Calm (a : Action) : Prop := a.concernsStation = false

theorem Action.calm_of_scanResult {l : List Action}
    (h : ∀ x ∈ l, ∃ r, x = .report (.scanResult r)) : ∀ x ∈ l, x.Calm := by
  intro x hx
  obtain ⟨r, rfl⟩ := h x hx
  rfl

theorem Command.written_calm {c : Command} (h : c.id ∈ CommandId.known)
    (hc : c.id.connects = false) (base : UInt32) (outcome : Except Errno Unit) :
    (c.written base outcome).Calm := by
  have hw := c.command?_written h base outcome
  simp only [written] at hw ⊢
  simp only [Action.Calm, Action.concernsStation, hw, Option.map_some, Option.getD_some, hc]

namespace Session

variable {σ : Type}

abbrev Quiet : Session σ → Session σ → Prop := Footprint Driver.station Action.Calm

end Session

def Driver.written (d : Driver) (c : Command) (outcome : Except Errno Unit) : Driver :=
  { d with channel := { d.channel with buffer := c.frame }.release c.id outcome }

def Driver.sent (d : Driver) (c : Command) (outcome : Except Errno Unit) : Driver :=
  if outcome = .ok () ∧ c.id = .scan then
    { d.written c outcome with connection := d.connection.scanSent }
  else d.written c outcome

theorem Driver.sent_of_not {d : Driver} {c : Command} {o : Except Errno Unit}
    (h : o ≠ .ok () ∨ c.id ≠ .scan) : d.sent c o = d.written c o := by
  apply if_neg
  rintro ⟨ho, hc⟩
  rcases h with h | h
  · exact h ho
  · exact h hc

theorem Driver.sent_scan {d : Driver} {c : Command} (h : c.id = .scan) :
    d.sent c (.ok ()) = { d.written c (.ok ()) with connection := d.connection.scanSent } :=
  if_pos ⟨rfl, h⟩

theorem Driver.station_sent {d : Driver} {c : Command} (hh : d.channel.held = false)
    (hc : c.id.connects = false) (o : Except Errno Unit) : (d.sent c o).station = d.station := by
  have hs : c.id ≠ .scan := fun hs ↦ by rw [hs] at hc; cases hc
  rw [sent_of_not (.inr hs)]
  rcases o with e | u <;> simp [station, written, CommandChannel.release, hh]

theorem Driver.boot_sent (d : Driver) (c : Command) (o : Except Errno Unit) :
    (d.sent c o).boot = d.boot := by
  unfold sent
  split <;> rfl

theorem CommandChannel.acquire_of_not_held {ch : CommandChannel} (h : ch.held = false)
    (c : Command) : ch.acquire c = .ok { ch with held := true, buffer := c.frame } := by
  have ht (rest : Bytes) : (c.frame ++ rest).take c.frameLength = c.frame := by
    rw [← Command.length_frame, List.take_left]
  simp only [acquire, h, Bool.false_eq_true, if_false, Command.writeTo_replicate, ht]

namespace Session

variable {σ : Type} [Platform σ] {s : Session σ}

theorem onChannel_send (h : s.driver.channel.held = false) (base : UInt32) (c : Command) :
    onChannel (CommandChannel.send base c) s =
      let r := Platform.writeBlock (portAddress base controlPort) .fifo c.frame s.link.device
      (r.1.mapError .transfer,
        ⟨s.driver.written c r.1, ⟨r.2, c.written base r.1 :: s.link.past⟩⟩) := by
  simp only [onChannel, CommandChannel.send, CommandChannel.sendDuring,
    CommandChannel.acquire_of_not_held h]
  rfl

/-- Sending is one write of the command's frame. -/
theorem sendCommand_eq (h : s.driver.channel.held = false) (c : Command) :
    sendCommand c s =
      let r := Platform.writeBlock (portAddress s.driver.base controlPort) .fifo c.frame
        s.link.device
      (r.1.mapError .transfer,
        ⟨s.driver.sent c r.1, ⟨r.2, c.written s.driver.base r.1 :: s.link.past⟩⟩) := by
  simp only [sendCommand, bind_apply, view_apply, onChannel_send h]
  rcases Platform.writeBlock (portAddress s.driver.base controlPort) .fifo c.frame s.link.device
    with ⟨e | u, device⟩
  · rw [Driver.sent_of_not (.inl (by simp))]
    rfl
  · by_cases hc : c.id = .scan
    · rw [Driver.sent_scan hc, if_pos hc]
      rfl
    · rw [Driver.sent_of_not (.inr hc), if_neg hc]
      rfl

/-- Whatever the bus makes of it, sending is one write of the command's frame. -/
theorem sendCommand_of_not_held (h : s.driver.channel.held = false) (c : Command) :
    ∃ o device, sendCommand c s = (o.mapError .transfer,
      ⟨s.driver.sent c o, ⟨device, c.written s.driver.base o :: s.link.past⟩⟩) :=
  ⟨_, _, sendCommand_eq h c⟩

theorem sendCommand_of_held (h : s.driver.channel.held = true) (c : Command) :
    sendCommand c s = (.error .busy, s) := by
  simp only [sendCommand, bind_apply, view_apply, onChannel, CommandChannel.send,
    CommandChannel.sendDuring, CommandChannel.acquire, h, if_true]

theorem sendCommand_footprint {β : Type} {f : Driver → β} {P : Action → Prop} {c : Command}
    (hf : ∀ (d : Driver) o, d.channel.held = false → f (d.sent c o) = f d)
    (hw : ∀ base o, P (c.written base o)) :
    Guarantees (Footprint f P) (sendCommand c : Act σ Unit) := by
  intro s
  cases hh : s.driver.channel.held with
  | true =>
    rw [sendCommand_of_held hh]
    exact refl_of (Footprint f P) s
  | false =>
    obtain ⟨o, device, ho⟩ := sendCommand_of_not_held hh c
    rw [ho]
    exact ⟨hf _ _ hh, .cons (hw _ _) _⟩

end Session

theorem Command.ofBody_id {id : CommandId} {body : Bytes} {c : Command}
    (h : ofBody id body = .ok c) : c.id = id := by
  unfold ofBody at h
  split at h
  · cases h
    rfl
  · cases h

theorem Command.ofBody_body {id : CommandId} {body : Bytes} {c : Command}
    (h : ofBody id body = .ok c) : c.body = body := by
  unfold ofBody at h
  split at h
  · cases h
    rfl
  · cases h

theorem Command.encode_id {id : CommandId} {action : CommandAction} {payload : Bytes} {peer : Peer}
    {c : Command} (h : encode id action payload peer = .ok c) :
    c.id = id ∧ id ∈ CommandId.known := by
  unfold encode at h
  cases hb : bodyOf id action payload peer with
  | error e => rw [hb] at h; cases h
  | ok body =>
    rw [hb] at h
    refine ⟨ofBody_id h, ?_⟩
    cases id with
    | unknown v => cases hb
    | _ => decide

end SdioWlan
