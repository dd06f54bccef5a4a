import SdioWlan.Proofs.Path
import SdioWlan.Proofs.Station.Basic

namespace SdioWlan

open Connection (Target)

def keyCommand (t : Target) (b : Bss) : Except DriverError Command := do
  let key ← Params.masterKey t.ssid b.bssid t.passphrase
  Command.encode .supplicantPmk .set key.bytes ⟨b.bssid, b.capability⟩

def associationCommand (t : Target) (b : Bss) : Except DriverError Command := do
  let block ← Params.association t.ssid b.channel b.security
  let secured := Params.addSecurity block b.security b.vendor b.rsn
  secured.1
  Command.encode .associate .get secured.2.bytes ⟨b.bssid, b.capability⟩

def pickedNetwork (body ssid : Bytes) : Except DriverError (Option Bss) := do
  return (← ScanReport.parse body).networks.find? (·.ssid == ssid)

/-- Responses that end an attempt under way: it was rejected, or the access point refuses it. -/
def Denies (id : CommandId) (result : UInt8) (body : Bytes) : Prop :=
  (id = .supplicantPmk ∨ id = .associate) ∧ result ≠ 0 ∨
    id = .associate ∧ result = 0 ∧
      ∃ capability ∈ Reply.capability? body, (AssocRefusal.ofCapability? capability).isSome

namespace Station

def move (a : Station) (connection : Connection) : Station := { a with connection }

def stage (a : Station) (c : Command) : Station := { a with staged := some c }

def forget (a : Station) : Station := { a with staged := none }

def answered (a : Station) : Station := a.move a.connection.scanAnswered.2

def toward (a : Station) (b : Bss) : Station :=
  a.move (a.connection.setPeer b.bssid b.capability b.security)

/-- What holds of every station between two steps. -/
structure Sound (a : Station) : Prop where
  free : a.held = false
  associates : ∀ c ∈ a.staged, c.id = .associate
  heeded : a.staged.isSome → a.connection.status ≠ .notConnected

inductive Scans (a : Station) : Except DriverError Unit → List Action → Station → Prop
  | unwritten (e : DriverError) : Scans a (.error e) [] a
  | refused {c : Command} (hc : c.id = .scan) (base : UInt32) (e : Errno) :
      Scans a (.error (.transfer e)) [c.written base (.error e)] a
  | sent {c : Command} (hc : c.id = .scan) (base : UInt32) :
      Scans a (.ok ()) [c.written base (.ok ())] (a.move a.connection.scanSent)

inductive Fails (why : ConnectFailure) (a : Station) : List Action → Station → Prop
  | gaveUp (h : a.connection.attemptFailed.1 = .giveUp) :
      Fails why a [.report (.connected (.error why))] (a.forget.move a.connection.attemptFailed.2)
  | retried {l : List Action} {b : Station} (h : a.connection.attemptFailed.1 = .rescan)
      (hs : (a.forget.move a.connection.attemptFailed.2).Scans (.ok ()) l b) : Fails why a l b
  | stranded {e : DriverError} {l : List Action} {b : Station}
      (h : a.connection.attemptFailed.1 = .rescan)
      (hs : (a.forget.move a.connection.attemptFailed.2).Scans (.error e) l b) :
      Fails why a (.report (.connected (.error (.command e))) :: l) (b.move b.connection.abort)

inductive Joins (a : Station) (b : Bss) : Except DriverError Unit → List Action → Station → Prop
  | unwritten (e : DriverError) : Joins a b (.error e) [] (a.toward b)
  | keyRefused {k : Command} (hk : keyCommand a.connection.target b = .ok k) (base : UInt32)
      (e : Errno) : Joins a b (.error (.transfer e)) [k.written base (.error e)] (a.toward b)
  | keyOnly {k : Command} (hk : keyCommand a.connection.target b = .ok k) (base : UInt32)
      (e : DriverError) : Joins a b (.error e) [k.written base (.ok ())] (a.toward b)
  | staged {k c : Command} (hn : b.security.needsKey)
      (hk : keyCommand a.connection.target b = .ok k)
      (hc : associationCommand a.connection.target b = .ok c) (base : UInt32) :
      Joins a b (.ok ()) [k.written base (.ok ())] ((a.toward b).stage c)
  | refused {c : Command} (hn : b.security.needsKey = false)
      (hc : associationCommand a.connection.target b = .ok c) (base : UInt32) (e : Errno) :
      Joins a b (.error (.transfer e)) [c.written base (.error e)] (a.toward b)
  | sent {c : Command} (hn : b.security.needsKey = false)
      (hc : associationCommand a.connection.target b = .ok c) (base : UInt32) :
      Joins a b (.ok ()) [c.written base (.ok ())] (a.toward b)

end Station

def Message.Idle : Message → Prop
  | .response id result _ => id.connects = false ∧ ¬ (id = .funcShutdown ∧ result = 0)
  | .event id _ => id ≠ .deauthenticated ∧ id ≠ .portRelease
  | .other => True

open Station in
inductive Reaction : Message → Station → List Action → Station → Prop
  | idle {m : Message} {a : Station} {l : List Action} (h : m.Idle) (hl : ∀ x ∈ l, x.Calm) :
      Reaction m a l a
  | scanned {result : UInt8} {body : Bytes} {a : Station} {l : List Action}
      (h : a.connection.scanAnswered.1 ≠ .connect)
      (hl : ∀ x ∈ l, ∃ r, x = .report (.scanResult r)) :
      Reaction (.response .scan result body) a l a.answered
  | scanFailed {result : UInt8} {body : Bytes} {a b : Station} {l : List Action}
      {why : ConnectFailure} (h : a.connection.scanAnswered.1 = .connect)
      (hf : a.answered.Fails why l b) : Reaction (.response .scan result body) a l b
  | joined {body : Bytes} {a b : Station} {l : List Action} {network : Bss}
      (h : a.connection.scanAnswered.1 = .connect)
      (hp : pickedNetwork body a.connection.target.ssid = .ok (some network))
      (hj : a.answered.Joins network (.ok ()) l b) : Reaction (.response .scan 0 body) a l b
  | unjoined {body : Bytes} {a b c : Station} {k l : List Action} {network : Bss}
      {e : DriverError} (h : a.connection.scanAnswered.1 = .connect)
      (hp : pickedNetwork body a.connection.target.ssid = .ok (some network))
      (hj : a.answered.Joins network (.error e) l b) (hf : b.Fails (.command e) k c) :
      Reaction (.response .scan 0 body) a (k ++ l) c
  | unheeded {id : CommandId} {result : UInt8} {body : Bytes} {a : Station}
      (hi : id = .supplicantPmk ∨ id = .associate)
      (h : ¬ (a.connection.status = .connecting ∧ Denies id result body))
      (hs : id = .supplicantPmk → result = 0 → a.staged = none) :
      Reaction (.response id result body) a [] a
  | rejected {id : CommandId} {result : UInt8} {body : Bytes} {a b : Station} {l : List Action}
      {why : ConnectFailure} (h : a.connection.status = .connecting)
      (he : Denies id result body) (hf : a.Fails why l b) :
      Reaction (.response id result body) a l b
  | flushed {body : Bytes} {a : Station} {c : Command} (h : a.staged = some c) (base : UInt32) :
      Reaction (.response .supplicantPmk 0 body) a [c.written base (.ok ())] a.forget
  | unflushed {body : Bytes} {a b : Station} {c : Command} {l : List Action}
      (h : a.staged = some c) (base : UInt32) (e : Errno)
      (hf : a.forget.Fails (.command (.transfer e)) l b) :
      Reaction (.response .supplicantPmk 0 body) a (l ++ [c.written base (.error e)]) b
  | shutDown {body : Bytes} {a : Station} {l : List Action} (hl : ∀ x ∈ l, x.Calm) :
      Reaction (.response .funcShutdown 0 body) a l (a.forget.move a.connection.reset)
  | deauthenticated {body : Bytes} {a : Station} :
      Reaction (.event .deauthenticated body) a
        [.report .disconnected, .stack (.linkDown .sta)]
        (a.forget.move a.connection.deauthenticated.2)
  | released {body : Bytes} {a : Station} :
      Reaction (.event .portRelease body) a
        [.report (.connected (.ok ())), .stack (.linkUp .sta)]
        (a.move a.connection.portReleased.2)

open Station in
inductive Deed (ready : Bool) : Call → Except DriverError Unit → Station → List Action →
    Station → Prop
  | idle {c : Call} {o : Except DriverError Unit} {a : Station} {l : List Action}
      (h : ∀ ssid passphrase, c ≠ .connect ssid passphrase) (hl : ∀ x ∈ l, x.Calm) :
      Deed ready c o a l a
  | scanned {c : Call} {o : Except DriverError Unit} {a b : Station} {l : List Action}
      (h : ∀ ssid passphrase, c ≠ .connect ssid passphrase)
      (hc : a.connection.status ≠ .connecting) (hs : a.Scans o l b) : Deed ready c o a l b
  | refused {ssid passphrase : Bytes} {a : Station} {e : DriverError}
      (h : ready = false ∨ ∃ e, a.connection.request ssid passphrase = .error e) :
      Deed ready (.connect ssid passphrase) (.error e) a [] a
  | connected {ssid passphrase : Bytes} {a b : Station} {l : List Action} {r : Connection}
      (hr : ready = true) (h : a.connection.request ssid passphrase = .ok r)
      (hs : (a.forget.move r).Scans (.ok ()) l b) :
      Deed ready (.connect ssid passphrase) (.ok ()) a l b
  | aborted {ssid passphrase : Bytes} {a b : Station} {l : List Action} {r : Connection}
      {e : DriverError} (hr : ready = true) (h : a.connection.request ssid passphrase = .ok r)
      (hs : (a.forget.move r).Scans (.error e) l b) :
      Deed ready (.connect ssid passphrase) (.error e) a l (b.move b.connection.abort)

inductive Step.Effect {σ : Type} (m : Step σ) : Prop
  | bus (ht : m.trigger = .bus) (hs : m.after.driver.station = m.before.driver.station)
      (hl : ∀ x ∈ m.actions, x.IsAccess)
  | powered {base : Except DriverError UInt32} (ht : m.trigger = .powered base)
      (hs : m.after.driver.station = m.before.driver.station) (hl : ∀ x ∈ m.actions, x.Calm)
  | call {c : Call} (ht : m.trigger = .call c)
      (hd : Deed m.before.driver.boot.isReady c m.outcome m.before.driver.station m.actions
        m.after.driver.station)
  | frame {f : Bytes} (ht : m.trigger = .frame f)
      (hr : Reaction m.message m.before.driver.station m.actions m.after.driver.station)

end SdioWlan
