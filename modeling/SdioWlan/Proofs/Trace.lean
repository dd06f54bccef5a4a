import SdioWlan.Proofs.Footprint
import SdioWlan.Startup

namespace SdioWlan

inductive Trigger
  | bus
  /-- A call to start, whose attempt to power the chip up has ended like this. -/
  | powered (base : Except DriverError UInt32)
  | call (c : Call)
  | frame (bytes : Bytes)
  deriving DecidableEq

structure Step (σ : Type) where
  trigger : Trigger
  before : Session σ
  outcome : Except DriverError Unit
  after : Session σ

def Step.actions {σ : Type} (m : Step σ) : List Action :=
  m.after.link.past.take (m.after.link.past.length - m.before.link.past.length)

theorem Step.actions_eq {σ : Type} {m : Step σ} {l : List Action}
    (h : m.after.link.past = l ++ m.before.link.past) : m.actions = l := by
  rw [actions, h, List.length_append, Nat.add_sub_cancel, List.take_left]

inductive Message
  | response (id : CommandId) (result : UInt8) (body : Bytes)
  | event (id : EventId) (body : Bytes)
  | other
  deriving DecidableEq

namespace Message

def ofResponse (frame : Bytes) : Message :=
  match CommandHeader.parse? frame with
  | some h => response h.id h.result (frame.drop CommandHeader.length)
  | none => other

def ofEvent : Bytes → Message
  | _ :: _ :: _ :: _ :: lo :: hi :: _ :: _ :: body => event (.ofCode (ofLe16 lo hi)) body
  | _ => other

def ofFrame (frame : Bytes) : Message :=
  match frame with
  | _ :: _ :: kind :: _ =>
    match FrameKind.ofCode kind with
    | .command => ofResponse frame
    | .event => ofEvent frame
    | .data | .other _ => other
  | _ => other

theorem ofResponse_ne_event {f : Bytes} {id : EventId} {body : Bytes} :
    ofResponse f ≠ event id body := by
  unfold ofResponse
  split <;> simp

theorem ofEvent_ne_response {f : Bytes} {id : CommandId} {result : UInt8} {body : Bytes} :
    ofEvent f ≠ response id result body := by
  unfold ofEvent
  split <;> simp

end Message

def Step.message {σ : Type} (m : Step σ) : Message :=
  match m.trigger with
  | .frame f => .ofFrame f
  | .bus | .powered _ | .call _ => .other

namespace Session

variable {σ : Type}

def fresh (config : Config) (firmware : FirmwareSource) (device : σ) : Session σ :=
  ofConfig config firmware ⟨device, []⟩

variable [Platform σ]

def answer (id : CommandId) (result : UInt8) (body : Bytes) : Act σ Unit := do
  update fun d ↦ { d with channel := (d.channel.respond id).2 }
  if result ≠ 0 then
    commandFailed id (.rejected id.code result)
    throw (.rejected id.code result)
  else commandDone id body

theorem onResponse_of_message {f : Bytes} {id : CommandId} {result : UInt8} {body : Bytes}
    (h : Message.ofResponse f = .response id result body) :
    (onResponse f : Act σ Unit) = answer id result body := by
  unfold Message.ofResponse at h
  split at h
  · rename_i header hp
    cases h
    funext s
    simp only [onResponse, answer, hp, required, bind_apply, liftM_apply]
  · cases h

theorem onEvent_of_message {f : Bytes} {id : EventId} {body : Bytes}
    (h : Message.ofEvent f = .event id body) :
    (onEvent f : Act σ Unit) = onEventOf id body := by
  unfold Message.ofEvent at h
  split at h
  · cases h
    rfl
  · cases h

theorem receive_response {f : Bytes} {id : CommandId} {result : UInt8} {body : Bytes}
    (h : Message.ofFrame f = .response id result body) :
    (receive f : Act σ Unit) = answer id result body := by
  unfold Message.ofFrame at h
  split at h
  · rename_i a b kind rest
    simp only [receive]
    cases hk : FrameKind.ofCode kind with
    | command =>
      simp only [hk] at h
      exact onResponse_of_message h
    | event =>
      simp only [hk] at h
      exact absurd h Message.ofEvent_ne_response
    | data | other v =>
      simp only [hk] at h
      cases h
  · cases h

theorem receive_event {f : Bytes} {id : EventId} {body : Bytes}
    (h : Message.ofFrame f = .event id body) :
    (receive f : Act σ Unit) = onEventOf id body := by
  unfold Message.ofFrame at h
  split at h
  · rename_i a b kind rest
    simp only [receive]
    cases hk : FrameKind.ofCode kind with
    | command =>
      simp only [hk] at h
      exact absurd h Message.ofResponse_ne_event
    | event =>
      simp only [hk] at h
      exact onEvent_of_message h
    | data | other v =>
      simp only [hk] at h
      cases h
  · cases h

theorem receive_data {f : Bytes} (h : f[2]? = some FrameKind.data.code) :
    (receive f : Act σ Unit) = onData f := by
  match f, h with
  | _ :: _ :: kind :: _, h =>
    obtain rfl : kind = 0 := Option.some.inj h
    rfl

/-- A frame that is no data and does not say anything. -/
theorem receive_other {f : Bytes} (h : Message.ofFrame f = .other)
    (hd : f[2]? ≠ some FrameKind.data.code) :
    (receive f : Act σ Unit) = pure () ∨ (receive f : Act σ Unit) = throw .malformedFrame := by
  match f, h, hd with
  | [], _, _ | [_], _, _ | [_, _], _, _ => exact .inr rfl
  | a :: b :: kind :: rest, h, hd =>
    simp only [Message.ofFrame] at h
    simp only [receive]
    cases hk : FrameKind.ofCode kind with
    | data =>
      have hc := FrameKind.code_ofCode kind
      rw [hk] at hc
      exact absurd (congrArg some hc.symm) hd
    | other code => exact .inl rfl
    | event =>
      simp only [hk] at h
      simp only [onEvent]
      split
      · rename_i he
        rw [he] at h
        cases h
      · exact .inr rfl
    | command =>
      simp only [hk, Message.ofResponse] at h
      split at h
      · cases h
      · rename_i hp
        simp only [onResponse, hp, required]
        exact .inr rfl

/-- A call to start, once it is known whether the chip has power. -/
def afterPowerUp (base : Except DriverError UInt32) : Act σ Unit :=
  match base with
  | .error e => do
    failBoot e
    throw e
  | .ok base => do
    update fun d ↦ { d with base, boot := .start }
    pumpBootstrap

theorem init_eq (s : Session σ) : init s = afterPowerUp (powerUp s).1 (powerUp s).2 := by
  simp only [init, bind_apply, tryCatch_apply]
  rcases powerUp s with ⟨e | base, t⟩ <;> rfl

def openInterrupt : Act σ Snapshot := do
  let snapshot ← onLink (ExceptT.adapt (fun _ ↦ .interruptStatus) Snapshot.read)
  onLink (ExceptT.adapt (fun _ ↦ .interruptStatus) snapshot.clearUpload)
  update fun d ↦ { d with ports := d.ports.refresh snapshot.readable snapshot.writable }
  return snapshot

theorem serviceInterrupt_eq :
    (serviceInterrupt : Act σ Unit) = openInterrupt >>= fun snapshot ↦ drain snapshot maxPort := by
  simp only [serviceInterrupt, openInterrupt, bind_assoc, pure_bind]

def fetch (snapshot : Snapshot) : Act σ (Option Bytes) := do
  match ← view (·.ports.nextReadable?) with
  | none => return none
  | some (port, ports) =>
    update fun d ↦ { d with ports }
    return some (← readFrame snapshot port)

theorem drain_succ (snapshot : Snapshot) (n : Nat) :
    (drain snapshot (n + 1) : Act σ Unit) = (do
      match ← fetch snapshot with
      | none => pure ()
      | some f =>
        receive f
        drain snapshot n) := by
  rw [drain, fetch, bind_assoc]
  congr 1
  funext next
  cases next with
  | none => simp only [pure_bind]
  | some next => simp only [bind_assoc, pure_bind]

def drainSteps (snapshot : Snapshot) : Nat → Session σ → List (Step σ)
  | 0, _ => []
  | n + 1, s =>
    match fetch snapshot s with
    | (.error e, t) => [⟨.bus, s, .error e, t⟩]
    | (.ok none, t) => [⟨.bus, s, .ok (), t⟩]
    | (.ok (some f), t) =>
      match receive f t with
      | (.error e, u) => [⟨.bus, s, .ok (), t⟩, ⟨.frame f, t, .error e, u⟩]
      | (.ok (), u) => ⟨.bus, s, .ok (), t⟩ :: ⟨.frame f, t, .ok (), u⟩ :: drainSteps snapshot n u

def callSteps (c : Call) (s : Session σ) : List (Step σ) :=
  match c with
  | .init =>
    let p := powerUp s
    let r := afterPowerUp p.1 p.2
    [⟨.bus, s, p.1.map fun _ ↦ (), p.2⟩, ⟨.powered p.1, p.2, r.1, r.2⟩]
  | .serviceInterrupt =>
    match openInterrupt s with
    | (.error e, t) => [⟨.bus, s, .error e, t⟩]
    | (.ok snapshot, t) => ⟨.bus, s, .ok (), t⟩ :: drainSteps snapshot maxPort t
  | c =>
    let r := perform c s
    [⟨.call c, s, r.1, r.2⟩]

def steps : List Call → Session σ → List (Step σ)
  | [], _ => []
  | c :: rest, s => callSteps c s ++ steps rest (perform c s).2

end Session

end SdioWlan
