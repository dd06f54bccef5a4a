import SdioWlan.Error
import SdioWlan.Frame

namespace SdioWlan

structure Packet where
  headroom : Bytes
  data : Bytes
  tailroom : Bytes
  deriving DecidableEq, Repr

namespace Packet

/-- A zeroed buffer with room in front of its data, of which there is none yet. -/
def withHeadroom (capacity headroom : Nat) : Packet :=
  ⟨List.replicate (min headroom capacity) 0, [], List.replicate (capacity - headroom) 0⟩

def ofBytes (frame : Bytes) : Packet := ⟨[], frame, []⟩

def capacity (p : Packet) : Nat := p.headroom.length + p.data.length + p.tailroom.length

def put? (p : Packet) (bytes : Bytes) : Option Packet :=
  if bytes.length ≤ p.tailroom.length then
    some { p with data := p.data ++ bytes, tailroom := p.tailroom.drop bytes.length }
  else none

def push? (p : Packet) (bytes : Bytes) : Option Packet :=
  if bytes.length ≤ p.headroom.length then
    some { p with
      headroom := p.headroom.take (p.headroom.length - bytes.length)
      data := bytes ++ p.data }
  else none

def pull? (p : Packet) (n : Nat) : Option Packet :=
  if n ≤ p.data.length then
    some { p with headroom := p.headroom ++ p.data.take n, data := p.data.drop n }
  else none

def trim (p : Packet) (n : Nat) : Packet :=
  { p with data := p.data.take n, tailroom := p.data.drop n ++ p.tailroom }

def overwrite (p : Packet) (bytes : Bytes) : Packet :=
  { p with data := bytes.take p.data.length ++ p.data.drop bytes.length }

def after? (p : Packet) (n : Nat) : Option Bytes := p.tailroom.slice? 0 n

def before? (p : Packet) (n : Nat) : Option Bytes :=
  if n ≤ p.headroom.length then p.headroom.slice? (p.headroom.length - n) n else none

end Packet

namespace DataFrame

def payloadOffset : Nat := txDescriptorSize - frameHeaderSize

def descriptor (role : Role) (n : Nat) : Bytes :=
  leBytes 2 (txDescriptorSize + n) ++ le16 FrameKind.data.code.toUInt16 ++ [role.code, 0] ++
    leBytes 2 n ++ leBytes 2 payloadOffset ++ List.replicate 10 0

/-- A packet that holds the frame for a payload. It grows from the payload to the front. -/
def build (payload : Bytes) (role : Role) : Except DriverError Packet :=
  if payload = [] then .error .invalidParam
  else if maxFrame < txDescriptorSize + payload.length then .error .tooLarge
  else
    match (Packet.withHeadroom maxFrame txDescriptorSize).put? payload with
    | none => .error .tooLarge
    | some p =>
      match p.push? (descriptor role payload.length) with
      | none => .error .tooLarge
      | some p => .ok p

structure Received where
  role : Role
  payload : Bytes
  deriving DecidableEq, Repr

/-- The payload stands where the descriptor says, anywhere in the frame. -/
def parse (frame : Bytes) : Except DriverError Received :=
  match fields? frame with
  | none => .error .malformedFrame
  | some r => .ok r
where
  fields? (frame : Bytes) : Option Received := do
    let role ← Role.ofCode? (← frame[4]?)
    let n ← frame.u16? 6
    let offset ← frame.u16? 8
    let payload ← frame.slice? (frameHeaderSize + offset.toNat) n.toNat
    return { role, payload }

def Received.dest? (r : Received) : Option Bytes := r.payload.slice? 0 Mac.size

inductive Route
  | deliver
  | forward
  | forwardAndDeliver
  deriving DecidableEq, Repr

namespace Route

def ofDest (dest : Bytes) (own : Mac) : Route :=
  if isMulticast dest then .forwardAndDeliver
  else if dest = own.toBytes then .deliver
  else .forward

def forwards : Route → Bool
  | forward | forwardAndDeliver => true
  | deliver => false

def delivers : Route → Bool
  | deliver | forwardAndDeliver => true
  | forward => false

end Route

/-- A station gets no frames for others. A frame too short for an address stays here. -/
def Received.route (r : Received) (own : Mac) : Route :=
  match r.role, r.dest? with
  | .uap, some dest => .ofDest dest own
  | _, _ => .deliver

end DataFrame

end SdioWlan
