import SdioWlan.CommandChannel

namespace SdioWlan

@[simp] theorem ofLe16_le16 (v : UInt16) :
    ofLe16 (UInt8.ofNat v.toNat) (UInt8.ofNat (v.toNat / 256)) = v := by
  have h : leNat (leBytes 2 v.toNat) = v.toNat := leNat_leBytes 2 _ v.toNat_lt
  simp only [leBytes] at h
  rw [ofLe16, h, UInt16.ofNat_toNat]

theorem le16_eq (v : UInt16) :
    le16 v = [UInt8.ofNat v.toNat, UInt8.ofNat (v.toNat / 256)] := rfl

@[simp] theorem CommandHeader.parse?_toBytes_append (h : CommandHeader) (rest : Bytes) :
    parse? (h.toBytes ++ rest) = some h := by
  simp only [toBytes, le16_eq, List.cons_append, List.nil_append, parse?, ofLe16_le16]

@[simp] theorem Command.parse?_frame (c : Command) :
    CommandHeader.parse? c.frame = some c.header := CommandHeader.parse?_toBytes_append _ _

theorem Command.drop_frame (c : Command) : c.frame.drop CommandHeader.length = c.body := by
  rw [frame, ← c.header.length_toBytes, List.drop_left]

theorem Command.ofBody_of_le {id : CommandId} {body : Bytes} (h : body.length ≤ maxBody) :
    ofBody id body = .ok ⟨id, id.role, body, h⟩ := dif_pos h

theorem Command.frameLength_le (c : Command) : c.frameLength ≤ maxFrame := by
  have h := c.body_le
  simp only [maxBody] at h
  simp only [frameLength, CommandHeader.length, maxFrame] at h ⊢
  omega

theorem Command.writeTo_of_le (c : Command) {buf : Bytes} (h : maxFrame ≤ buf.length) :
    c.writeTo buf = .ok (c.frameLength, c.frame ++ buf.drop c.frameLength) :=
  if_pos (Nat.le_trans c.frameLength_le h)

theorem Command.writeTo_replicate (c : Command) :
    c.writeTo (List.replicate maxFrame 0) =
      .ok (c.frameLength, c.frame ++ (List.replicate maxFrame 0).drop c.frameLength) :=
  c.writeTo_of_le (Nat.le_of_eq List.length_replicate.symm)

theorem CommandId.ofCode_code {id : CommandId} (h : id ∈ known) : ofCode id.code = id := by
  revert id
  decide

def commandOf? (block : Bytes) : Option CommandId :=
  match CommandHeader.parse? block with
  | some h => if h.kind = FrameKind.command.code.toUInt16 then some (.ofCode h.command) else none
  | none => none

theorem commandOf?_frame {c : Command} (h : c.id ∈ CommandId.known) :
    commandOf? c.frame = some c.id := by
  simp only [commandOf?, Command.parse?_frame, Command.header, if_true, CommandId.ofCode_code h]

/-- A block that is written, if it is a command's, with the command's kind and what came of it. -/
def Action.command? : Action → Option (CommandId × Bytes × Except Errno Unit)
  | .access (.writeBlock _ _ block outcome) =>
    (commandOf? block).map fun id ↦ (id, block, outcome)
  | _ => none

/-- The access that writes a command, from a driver that takes the ports to start at `base`. -/
def Command.written (c : Command) (base : UInt32) (outcome : Except Errno Unit) : Action :=
  .access (.writeBlock (portAddress base controlPort) .fifo c.frame outcome)

@[simp] theorem Command.command?_written {c : Command} (h : c.id ∈ CommandId.known)
    (base : UInt32) (outcome : Except Errno Unit) :
    (c.written base outcome).command? = some (c.id, c.frame, outcome) := by
  simp only [written, Action.command?, commandOf?_frame h, Option.map_some]

end SdioWlan
