import SdioWlan.Dot11
import SdioWlan.Frame
import SdioWlan.Tlv

namespace SdioWlan

namespace TlvType

def ssid : UInt16 := 0x0000
def rates : UInt16 := 0x0001
def channel : UInt16 := 0x0003
def cf : UInt16 := 0x0004
def rsn : UInt16 := 0x0030
def vendor : UInt16 := 0x00DD
def channelList : UInt16 := 0x0101
def authType : UInt16 := 0x011F
def bssid : UInt16 := 0x0123
def broadcastSsid : UInt16 := 0x0130
def passphrase : UInt16 := 0x013C
def encryption : UInt16 := 0x0140
def keyManagement : UInt16 := 0x0141
def pairwiseCipher : UInt16 := 0x0191
def groupCipher : UInt16 := 0x0192

end TlvType

def scanChannelCount : Nat := 14

def defaultScanTime : UInt16 := 200

structure ApSettings where
  /-- Without a name the chip uses one of its own. -/
  ssid : Option Bytes
  passphrase : Option Bytes
  security : Security
  broadcastSsid : Bool
  deriving DecidableEq, Repr

namespace Params

open Tlv (Block)

/-- The channels of a scan: radio type, channel, mode and least time, and the longest time. -/
def channelList (channels : Bytes) (maxTime : UInt16) : Tlv :=
  ⟨TlvType.channelList, channels.flatMap fun c ↦ [0, c, 0, 0, 0] ++ le16 maxTime⟩

def scanChannels (channels : Bytes) (maxTime : UInt16) : Except DriverError Block :=
  if channels = [] then .error .invalidParam else Block.ofList [channelList channels maxTime]

def scanSsid (ssid : Bytes) (maxTime : UInt16) : Except DriverError Block :=
  if ssid = [] ∨ Dot11.maxSsid < ssid.length then .error .invalidParam
  else
    Block.ofList
      [⟨TlvType.ssid, ssid⟩,
        channelList ((List.range scanChannelCount).map fun i ↦ UInt8.ofNat (i + 1)) maxTime]

def associationRates : Bytes :=
  [0x82, 0x84, 0x8B, 0x8C, 0x12, 0x96, 0x98, 0x24, 0xB0, 0x48, 0x60, 0x6C]

/-- The elements of an association that do not depend on how the network is secured; an
unprotected network is also told that there is no authentication. -/
def associationElements (ssid : Bytes) (channel : UInt8) (security : Security) : List Tlv :=
  [⟨TlvType.ssid, ssid⟩, ⟨TlvType.channel, [channel]⟩, ⟨TlvType.cf, List.replicate 6 0⟩] ++
    (if security = .unprotected then [⟨TlvType.authType, le16 0⟩] else []) ++
    [channelList [channel] defaultScanTime, ⟨TlvType.rates, associationRates⟩]

def association (ssid : Bytes) (channel : UInt8) (security : Security) :
    Except DriverError Block :=
  Block.ofList (associationElements ssid channel security)

/-- Adds what a secured network wants to see again of its beacon: the vendor elements, and for
WPA2 the RSN element, without which there is no association. -/
def addSecurity (b : Block) (security : Security) (vendor : List Bytes) (rsn : Option Bytes) :
    Except DriverError Unit × Block :=
  if security.needsKey then
    match b.pushAll (vendor.map fun v ↦ ⟨TlvType.vendor, v⟩) with
    | (.error e, b) => (.error e, b)
    | (.ok (), b) =>
      if security = .wpa2 then
        match rsn with
        | none => (.error .invalidState, b)
        | some r => b.pushAll [⟨TlvType.rsn, r⟩]
      else (.ok (), b)
  else (.ok (), b)

def masterKey (ssid : Bytes) (bssid : Mac) (passphrase : Bytes) : Except DriverError Block :=
  Block.ofList
    [⟨TlvType.ssid, ssid⟩, ⟨TlvType.bssid, bssid.toBytes⟩, ⟨TlvType.passphrase, passphrase⟩]

/-- The bit of an access point's protocol. WEP is run as WPA. -/
def apProtocol (security : Security) : UInt16 := if security = .wpa2 then 0x20 else 0x08

def preSharedKey : UInt16 := 2

def ccmp : UInt16 := 8

/-- A name or passphrase is passed on only if it is neither empty nor as long as `limit`. -/
def shorterThan (limit : Nat) (b : Option Bytes) : Option Bytes :=
  b.filter fun b ↦ b ≠ [] ∧ b.length < limit

def apElements (s : ApSettings) : List Tlv :=
  (match shorterThan Dot11.maxSsid s.ssid with
    | none => []
    | some n =>
      [⟨TlvType.ssid, n⟩, ⟨TlvType.broadcastSsid, [if s.broadcastSsid then 1 else 0]⟩]) ++
  if s.security = .unprotected then []
  else
    let protocol := le16 (apProtocol s.security)
    (match shorterThan maxPassphrase s.passphrase with
      | none => []
      | some p => [⟨TlvType.passphrase, p⟩]) ++
    [⟨TlvType.encryption, protocol⟩, ⟨TlvType.keyManagement, le16 preSharedKey ++ le16 0⟩,
      ⟨TlvType.pairwiseCipher, protocol ++ le16 ccmp⟩, ⟨TlvType.groupCipher, le16 ccmp⟩]

def accessPoint (s : ApSettings) : Except DriverError Block := Block.ofList (apElements s)

end Params

end SdioWlan
