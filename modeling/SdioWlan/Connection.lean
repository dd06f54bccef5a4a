import SdioWlan.Dot11
import SdioWlan.Error
import SdioWlan.Frame

namespace SdioWlan

namespace Connection

inductive Status
  | notConnected
  | connecting
  | connected
  deriving DecidableEq, Repr

/-- The network to connect with. The last three fields are known once it was found. -/
structure Target where
  ssid : Bytes := []
  passphrase : Bytes := []
  security : Security := .unprotected
  bssid : Mac := .zero
  capability : UInt16 := 0
  deriving DecidableEq, Repr

inductive PendingScan
  | attempt
  /-- An attempt that a newer request has replaced. -/
  | replaced
  | caller
  deriving DecidableEq, Repr

inductive ScanVerdict
  | stale
  | connect
  | plain
  deriving DecidableEq, Repr

inductive RetryDecision
  | rescan
  | giveUp
  deriving DecidableEq, Repr

end Connection

structure Connection where
  status : Connection.Status := .notConnected
  target : Connection.Target := {}
  retryLimit : UInt8
  retriesLeft : UInt8
  scans : List Connection.PendingScan := []
  deriving DecidableEq, Repr

namespace Connection

def new (limit : UInt8) : Connection := { retryLimit := limit, retriesLeft := limit }

def PendingScan.replace : PendingScan → PendingScan
  | attempt => replaced
  | s => s

/-- Starts an attempt, in place of the one under way if there is one. -/
def request (c : Connection) (ssid passphrase : Bytes) : Except DriverError Connection :=
  if ssid = [] ∨ Dot11.maxSsid < ssid.length ∨ maxPassphrase < passphrase.length then
    .error .invalidParam
  else if c.status = .connected then .error .invalidState
  else
    .ok { c with
      status := .connecting
      target := { ssid, passphrase }
      retriesLeft := c.retryLimit
      scans := c.scans.map PendingScan.replace }

def abort (c : Connection) : Connection := { c with status := .notConnected }

/-- Whatever is sent during an attempt belongs to it. -/
def scanSent (c : Connection) : Connection :=
  { c with scans := c.scans ++ [if c.status = .connecting then .attempt else .caller] }

/-- A response to a scan has come in. A scan that nobody asked for counts as a caller's. -/
def scanAnswered (c : Connection) : ScanVerdict × Connection :=
  match c.scans with
  | [] => (.plain, c)
  | s :: rest =>
    let verdict :=
      match s with
      | .attempt => if c.status = .connecting then .connect else .stale
      | .replaced => .stale
      | .caller => .plain
    (verdict, { c with scans := rest })

def setPeer (c : Connection) (bssid : Mac) (capability : UInt16) (security : Security) :
    Connection :=
  { c with target := { c.target with bssid, capability, security } }

/-- The attempt has failed, and is made again as long as there are retries. -/
def attemptFailed (c : Connection) : RetryDecision × Connection :=
  if c.status = .connecting ∧ 0 < c.retriesLeft then
    (.rescan, { c with retriesLeft := c.retriesLeft - 1 })
  else (.giveUp, { c with status := .notConnected })

/-- The chip lets data through. Tells whether that completes an attempt. -/
def portReleased (c : Connection) : Bool × Connection :=
  (c.status = .connecting, { c with status := .connected, retriesLeft := c.retryLimit })

/-- The access point has ended the connection. Tells what there was to end. -/
def deauthenticated (c : Connection) : Status × Connection :=
  (c.status, { c with status := .notConnected })

def reset (c : Connection) : Connection := new c.retryLimit

end Connection

end SdioWlan
