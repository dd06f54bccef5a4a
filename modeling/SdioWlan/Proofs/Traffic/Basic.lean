import Mathlib.Algebra.GroupWithZero.Nat
import SdioWlan.Proofs.DataFrame
import SdioWlan.Proofs.Trace

namespace SdioWlan

open DataFrame (Received)

/-- An attempt to send a payload, by a driver that is ready or not, and what came of it. -/
structure Sending where
  role : Role
  payload : Bytes
  ready : Bool
  outcome : Except DriverError Unit
  deriving DecidableEq

def Sending.sent? (a : Sending) : Option Received :=
  if a.outcome.isOk then some ⟨a.role, a.payload⟩ else none

structure Traffic where
  delivered : List Received := []
  written : List Received := []
  sendings : List Sending := []
  forwards : List Sending := []
  unreadable : Nat := 0
  deriving DecidableEq

instance : Add DeviceStats where
  add a b :=
    { rxPackets := a.rxPackets + b.rxPackets
      txPackets := a.txPackets + b.txPackets
      rxBytes := a.rxBytes + b.rxBytes
      txBytes := a.txBytes + b.txBytes
      rxErrors := a.rxErrors + b.rxErrors
      txErrors := a.txErrors + b.txErrors
      rxDropped := a.rxDropped + b.rxDropped
      txDropped := a.txDropped + b.txDropped
      forwarded := a.forwarded + b.forwarded }

namespace DeviceStats

theorem add_def (a b : DeviceStats) : a + b =
    ⟨a.rxPackets + b.rxPackets, a.txPackets + b.txPackets, a.rxBytes + b.rxBytes,
      a.txBytes + b.txBytes, a.rxErrors + b.rxErrors, a.txErrors + b.txErrors,
      a.rxDropped + b.rxDropped, a.txDropped + b.txDropped, a.forwarded + b.forwarded⟩ := rfl

theorem add_assoc (a b c : DeviceStats) : a + b + c = a + (b + c) := by
  simp only [add_def, UInt32.add_assoc, UInt64.add_assoc]

theorem add_empty (a : DeviceStats) : a + {} = a := by
  simp only [add_def, UInt32.add_zero, UInt64.add_zero]

end DeviceStats

namespace NetDevice

variable (d : NetDevice) (n : Nat)

theorem stats_countRx : (d.countRx n).stats =
    d.stats + { rxPackets := 1, rxBytes := UInt64.ofNat n } := by
  simp only [countRx, DeviceStats.add_def, UInt32.add_zero, UInt64.add_zero]

theorem stats_countTx : (d.countTx n).stats =
    d.stats + { txPackets := 1, txBytes := UInt64.ofNat n } := by
  simp only [countTx, DeviceStats.add_def, UInt32.add_zero, UInt64.add_zero]

theorem stats_countTxError : d.countTxError.stats = d.stats + { txErrors := 1 } := by
  simp only [countTxError, DeviceStats.add_def, UInt32.add_zero, UInt64.add_zero]

theorem stats_countRxDropped : d.countRxDropped.stats = d.stats + { rxDropped := 1 } := by
  simp only [countRxDropped, DeviceStats.add_def, UInt32.add_zero, UInt64.add_zero]

theorem stats_countTxDropped : d.countTxDropped.stats = d.stats + { txDropped := 1 } := by
  simp only [countTxDropped, DeviceStats.add_def, UInt32.add_zero, UInt64.add_zero]

theorem stats_countForwarded : d.countForwarded.stats = d.stats + { forwarded := 1 } := by
  simp only [countForwarded, DeviceStats.add_def, UInt32.add_zero, UInt64.add_zero]

end NetDevice

namespace Traffic

instance : Append Traffic where
  append v w :=
    { delivered := v.delivered ++ w.delivered
      written := v.written ++ w.written
      sendings := v.sendings ++ w.sendings
      forwards := v.forwards ++ w.forwards
      unreadable := v.unreadable + w.unreadable }

def packets (l : List Received) (role : Role) : UInt32 := UInt32.ofNat (l.countP (·.role = role))

def bytes (l : List Received) (role : Role) : UInt64 :=
  UInt64.ofNat ((l.filter (·.role = role)).map (·.payload.length)).sum

/-- Frames that cannot be read count as the station's. -/
def dropped (n : Nat) (role : Role) : UInt32 := if role = .sta then UInt32.ofNat n else 0

/-- The counters of a device through which nothing but this has gone. -/
def stats (w : Traffic) (role : Role) : DeviceStats where
  rxPackets := packets w.delivered role
  rxBytes := bytes w.delivered role
  txPackets := packets w.written role
  txBytes := bytes w.written role
  rxErrors := 0
  txErrors := UInt32.ofNat (w.sendings.countP fun a ↦ a.role = role ∧ a.ready ∧ ¬ a.outcome.isOk)
  rxDropped := dropped w.unreadable role
  txDropped := UInt32.ofNat (w.forwards.countP fun a ↦ a.role = role ∧ ¬ a.outcome.isOk)
  forwarded := UInt32.ofNat (w.forwards.countP fun a ↦ a.role = role ∧ a.outcome.isOk)

theorem append_def (v w : Traffic) : v ++ w = ⟨v.delivered ++ w.delivered, v.written ++ w.written,
    v.sendings ++ w.sendings, v.forwards ++ w.forwards, v.unreadable + w.unreadable⟩ := rfl

theorem packets_append (l k : List Received) (role : Role) :
    packets (l ++ k) role = packets l role + packets k role := by
  rw [packets, List.countP_append, UInt32.ofNat_add, packets, packets]

theorem bytes_append (l k : List Received) (role : Role) :
    bytes (l ++ k) role = bytes l role + bytes k role := by
  rw [bytes, List.filter_append, List.map_append, List.sum_append, UInt64.ofNat_add, bytes, bytes]

theorem dropped_add (m n : Nat) (role : Role) :
    dropped (m + n) role = dropped m role + dropped n role := by
  unfold dropped
  split
  · exact UInt32.ofNat_add m n
  · rfl

theorem stats_append (v w : Traffic) (role : Role) :
    (v ++ w).stats role = v.stats role + w.stats role := by
  simp only [append_def, stats, DeviceStats.add_def, packets_append, bytes_append, dropped_add,
    List.countP_append, UInt32.ofNat_add]
  rfl

@[simp] theorem stats_empty (role : Role) : ({} : Traffic).stats role = {} := by
  cases role <;> rfl

end Traffic

def Action.delivered? : Action → Option Received
  | .stack (.deliver payload role) => some ⟨role, payload⟩
  | _ => none

def Action.dataSent? : Action → Option Received
  | .access (.writeBlock _ .fifo block (.ok ())) =>
    if block[2]? = some FrameKind.data.code then (DataFrame.parse block).toOption else none
  | _ => none

namespace Session

variable {σ : Type}

def delivered (r : Received) (s : Session σ) : Session σ where
  driver := s.driver.updateDevice (NetDevice.countRx · r.payload.length) r.role
  link := { s.link with past := .stack (.deliver r.payload r.role) :: s.link.past }

def dropped (s : Session σ) : Session σ :=
  { s with driver := s.driver.updateDevice NetDevice.countRxDropped .sta }

variable [Platform σ]

def sending (payload : Bytes) (role : Role) (s : Session σ) : Sending :=
  ⟨role, payload, s.driver.boot.isReady, (sendData payload role s).1⟩

def relayed (payload : Bytes) (s : Session σ) : Session σ :=
  let r := sendData payload .uap s
  let f := if r.1.isOk then NetDevice.countForwarded else NetDevice.countTxDropped
  { r.2 with driver := r.2.driver.updateDevice f .uap }

def routed (r : Received) (s : Session σ) : Session σ :=
  let t := if r.Forwards s.driver.mac then relayed r.payload s else s
  if r.Delivers s.driver.mac then delivered r t else t

end Session

namespace Step

variable {σ : Type}

def received? (m : Step σ) : Option (Except DriverError Received) :=
  match m.trigger with
  | .frame f => if f[2]? = some FrameKind.data.code then some (DataFrame.parse f) else none
  | .bus | .powered _ | .call _ => none

def unreadable (m : Step σ) : Bool := m.received? matches some (.error _)

def delivered (m : Step σ) : List Received := m.actions.reverse.filterMap Action.delivered?

def arriving? (m : Step σ) : Option Received :=
  match m.received? with
  | some (.ok r) => if r.Delivers m.before.driver.mac then some r else none
  | _ => none

def written (m : Step σ) : List Received :=
  if m.trigger = .bus then [] else m.actions.reverse.filterMap Action.dataSent?

variable [Platform σ]

def forwarding? (m : Step σ) : Option Sending :=
  match m.received? with
  | some (.ok r) =>
    if r.Forwards m.before.driver.mac then some (m.before.sending r.payload .uap) else none
  | _ => none

def sending? (m : Step σ) : Option Sending :=
  match m.trigger with
  | .call (.sendData payload role) => some (m.before.sending payload role)
  | _ => m.forwarding?

def due (m : Step σ) : Traffic where
  delivered := m.arriving?.toList
  written := (m.sending?.bind Sending.sent?).toList
  sendings := m.sending?.toList
  forwards := m.forwarding?.toList
  unreadable := if m.unreadable then 1 else 0

/-- What a step does with data: a frame that can be read takes its route and one that cannot is
counted, neither with an error; and the stack is given, and the bus takes, what is due. -/
structure Conveys (m : Step σ) : Prop where
  dropped : ∀ e, m.received? = some (.error e) →
    m.outcome = .ok () ∧ m.after = m.before.dropped
  routed : ∀ r, m.received? = some (.ok r) →
    m.outcome = .ok () ∧ m.after = m.before.routed r
  called : ∀ payload role, m.trigger = .call (.sendData payload role) →
    Session.sendData payload role m.before = (m.outcome, m.after)
  delivered : m.delivered = m.arriving?.toList
  written : m.written = (m.sending?.bind Sending.sent?).toList

end Step

def traffic {σ : Type} [Platform σ] (ms : List (Step σ)) : Traffic where
  delivered := ms.flatMap Step.delivered
  written := ms.flatMap Step.written
  sendings := ms.filterMap Step.sending?
  forwards := ms.filterMap Step.forwarding?
  unreadable := ms.countP Step.unreadable

theorem traffic_append {σ : Type} [Platform σ] (ms ns : List (Step σ)) :
    traffic (ms ++ ns) = traffic ms ++ traffic ns := by
  simp only [traffic, Traffic.append_def, List.flatMap_append, List.filterMap_append,
    List.countP_append]

end SdioWlan
