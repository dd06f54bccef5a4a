import SdioWlan.Proofs.Elements
import SdioWlan.Proofs.Station.Sound

namespace SdioWlan

structure ScanRequest where
  mode : UInt8
  bssid : Mac
  elements : List Tlv
  deriving DecidableEq

structure AssociationRequest where
  bssid : Mac
  capability : UInt16
  listenInterval : UInt16
  beaconPeriod : UInt16
  dtim : UInt8
  elements : List Tlv
  deriving DecidableEq

structure KeyRequest where
  action : UInt16
  result : UInt16
  elements : List Tlv
  deriving DecidableEq

namespace ScanRequest

def ofFrame? (frame : Bytes) : Option ScanRequest := do
  guard (commandOf? frame = some .scan)
  let body : Bytes := frame.drop CommandHeader.length
  return {
    mode := ← body[0]?
    bssid := ← Mac.at? body 1
    elements := ← (Tlv.parse .chip (body.drop 7)).toOption }

/-- The scan for a name: networks of any kind and address, and for all of them the channels 1 to 14,
on each of which it stays for a while. -/
def named (ssid : Bytes) (maxTime : UInt16) : ScanRequest where
  mode := 3
  bssid := ⟨0, 0, 0, 0, 0, 0⟩
  elements :=
    [⟨0x0000, ssid⟩, ⟨0x0101, ([1, 2, 3, 4, 5, 6, 7, 8, 9, 10, 11, 12, 13, 14] : Bytes).flatMap
      fun channel ↦ [0, channel, 0, 0, 0] ++ le16 maxTime⟩]

end ScanRequest

namespace AssociationRequest

def fixedSize : Nat := 13

def ofFrame? (frame : Bytes) : Option AssociationRequest := do
  guard (commandOf? frame = some .associate)
  let body : Bytes := frame.drop CommandHeader.length
  return {
    bssid := ← Mac.at? body 0
    capability := ← body.u16? 6
    listenInterval := ← body.u16? 8
    beaconPeriod := ← body.u16? 10
    dtim := ← body[12]?
    elements := ← (Tlv.parse .chip (body.drop fixedSize)).toOption }

def size (r : AssociationRequest) : Nat := fixedSize + (Tlv.encodeAll r.elements).length

end AssociationRequest

def KeyRequest.ofFrame? (frame : Bytes) : Option KeyRequest := do
  guard (commandOf? frame = some .supplicantPmk)
  let body : Bytes := frame.drop CommandHeader.length
  return {
    action := ← body.u16? 0
    result := ← body.u16? 2
    elements := ← (Tlv.parse .chip (body.drop 4)).toOption }

/-- The association with a network: its name and channel, no contention-free period, open
authentication where there is no key to prove, the channel again with 200 ms to find it on, the
rates from 1 to 54 Mbit/s, and of a secured network the elements that it has sent itself. -/
def Bss.request (b : Bss) (ssid : Bytes) : AssociationRequest where
  bssid := b.bssid
  capability := b.capability
  listenInterval := 10
  beaconPeriod := 0x40
  dtim := 0
  elements :=
    [⟨0x0000, ssid⟩, ⟨0x0003, [b.channel]⟩, ⟨0x0004, [0, 0, 0, 0, 0, 0]⟩] ++
      (if b.security = .unprotected then [⟨0x011F, [0, 0]⟩] else []) ++
      [⟨0x0101, [0, b.channel, 0, 0, 0, 200, 0]⟩,
        ⟨0x0001, [0x82, 0x84, 0x8B, 0x8C, 0x12, 0x96, 0x98, 0x24, 0xB0, 0x48, 0x60, 0x6C]⟩] ++
      (if b.security = .wpa ∨ b.security = .wpa2 then b.vendor.map fun v ↦ ⟨0x00DD, v⟩ else []) ++
      (if b.security = .wpa2 then b.rsn.toList.map fun r ↦ ⟨0x0030, r⟩ else [])

def Bss.keyRequest (b : Bss) (ssid passphrase : Bytes) : KeyRequest where
  action := 1
  result := 0
  elements := [⟨0x0000, ssid⟩, ⟨0x0123, b.bssid.toBytes⟩, ⟨0x013C, passphrase⟩]

theorem ScanRequest.ofFrame?_frame {c : Command} {r : ScanRequest} (hi : c.id = .scan)
    (ht : ∀ t ∈ r.elements, t.Fits)
    (hb : c.body = [r.mode] ++ r.bssid.toBytes ++ Tlv.encodeAll r.elements) :
    ofFrame? c.frame = some r := by
  have hk : commandOf? c.frame = some .scan := by
    rw [← hi]
    exact commandOf?_frame (by rw [hi]; decide)
  have hg : (guard (commandOf? c.frame = some .scan) : Option Unit) = some () := if_pos hk
  have h₀ : c.body[0]? = some r.mode := by
    rw [hb]
    rfl
  have h₁ : Mac.at? c.body 1 = some r.bssid := by
    rw [hb]
    rfl
  have h₂ : c.body.drop 7 = Tlv.encodeAll r.elements := by
    rw [hb]
    rfl
  rw [ofFrame?, hg]
  simp only [c.drop_frame, h₀, h₁, h₂, Tlv.parse_encodeAll ht, Except.toOption, bind, Option.bind,
    pure]

theorem AssociationRequest.ofFrame?_frame {c : Command} {r : AssociationRequest}
    (hi : c.id = .associate) (ht : ∀ t ∈ r.elements, t.Fits)
    (hb : c.body = r.bssid.toBytes ++ le16 r.capability ++ le16 r.listenInterval ++
      le16 r.beaconPeriod ++ [r.dtim] ++ Tlv.encodeAll r.elements) : ofFrame? c.frame = some r := by
  have hk : commandOf? c.frame = some .associate := by
    rw [← hi]
    exact commandOf?_frame (by rw [hi]; decide)
  have hg : (guard (commandOf? c.frame = some .associate) : Option Unit) = some () := if_pos hk
  have h₁ : c.body.u16? 6 = some r.capability := by
    simp only [hb, List.append_assoc]
    exact Bytes.u16?_append r.bssid.length_toBytes _ _
  have h₂ : c.body.u16? 8 = some r.listenInterval := by
    rw [hb, List.append_assoc, List.append_assoc, List.append_assoc]
    exact Bytes.u16?_append rfl _ _
  have h₃ : c.body.u16? 10 = some r.beaconPeriod := by
    rw [hb, List.append_assoc, List.append_assoc]
    exact Bytes.u16?_append rfl _ _
  have h₄ : c.body[12]? = some r.dtim := by
    rw [hb]
    rfl
  have h₅ : c.body.drop fixedSize = Tlv.encodeAll r.elements := by
    rw [hb]
    rfl
  have h₀ : Mac.at? c.body 0 = some r.bssid := by
    rw [hb]
    rfl
  rw [ofFrame?, hg]
  simp only [c.drop_frame, h₀, h₁, h₂, h₃, h₄, h₅, Tlv.parse_encodeAll ht, Except.toOption, bind,
    Option.bind, pure]

theorem KeyRequest.ofFrame?_frame {c : Command} {r : KeyRequest}
    (hi : c.id = .supplicantPmk) (ht : ∀ t ∈ r.elements, t.Fits)
    (hb : c.body = le16 r.action ++ le16 r.result ++ Tlv.encodeAll r.elements) :
    ofFrame? c.frame = some r := by
  have hk : commandOf? c.frame = some .supplicantPmk := by
    rw [← hi]
    exact commandOf?_frame (by rw [hi]; decide)
  have hg : (guard (commandOf? c.frame = some .supplicantPmk) : Option Unit) = some () := if_pos hk
  have h₁ : c.body.u16? 0 = some r.action := by
    rw [hb, List.append_assoc]
    exact Bytes.u16?_append (p := []) rfl _ _
  have h₂ : c.body.u16? 2 = some r.result := by
    rw [hb, List.append_assoc]
    exact Bytes.u16?_append rfl _ _
  have h₃ : c.body.drop 4 = Tlv.encodeAll r.elements := by
    rw [hb]
    rfl
  rw [ofFrame?, hg]
  simp only [c.drop_frame, h₁, h₂, h₃, Tlv.parse_encodeAll ht, Except.toOption, bind, Option.bind,
    pure]

namespace Params

theorem length_channelList (channels : Bytes) (maxTime : UInt16) :
    (channelList channels maxTime).payload.length = 7 * channels.length := by
  induction channels with
  | nil => rfl
  | cons c channels ih =>
    simp only [channelList] at ih
    simp only [channelList, List.flatMap_cons, List.length_append, List.length_cons,
      List.length_nil, length_le16, ih]
    omega

def securityElements (b : Bss) : List Tlv :=
  (if b.security.needsKey then b.vendor.map fun v ↦ ⟨TlvType.vendor, v⟩ else []) ++
    if b.security = .wpa2 then b.rsn.toList.map fun r ↦ ⟨TlvType.rsn, r⟩ else []

theorem request_elements (b : Bss) (ssid : Bytes) :
    (b.request ssid).elements =
      associationElements ssid b.channel b.security ++ securityElements b := by
  obtain ⟨bssid, rssi, timestamp, interval, capability, channel, name, rates, rsn, vendor, s⟩ := b
  cases s <;> rfl

theorem addSecurity_of_fits {b : Bss} (h : ∀ t ∈ securityElements b, t.Fits)
    (hr : b.security = .wpa2 → b.rsn.isSome) (block : Tlv.Block) :
    addSecurity block b.security b.vendor b.rsn =
      (.ok (), ⟨block.bytes ++ Tlv.encodeAll (securityElements b)⟩) := by
  unfold securityElements at h ⊢
  cases hn : b.security.needsKey with
  | false =>
    have hs : b.security ≠ .wpa2 := fun hs ↦ by rw [hs] at hn; cases hn
    simp only [addSecurity, hn, Bool.false_eq_true, if_false, hs, Tlv.encodeAll, List.append_nil,
      List.flatMap_nil]
  | true =>
    simp only [hn, if_true] at h
    have hv := Tlv.Block.pushAll_of_fits (fun t ht ↦ h t (List.mem_append_left _ ht)) block
    simp only [addSecurity, hn, if_true, hv, Tlv.encodeAll_append]
    by_cases hs : b.security = .wpa2
    · obtain ⟨r, hr⟩ := Option.isSome_iff_exists.mp (hr hs)
      simp only [hs, if_true, hr, Option.toList_some, List.map_cons, List.map_nil] at h ⊢
      rw [Tlv.Block.pushAll_of_fits fun t ht ↦ h t (List.mem_append_right _ ht)]
      simp only [List.append_assoc]
    · simp only [hs, if_false, Tlv.encodeAll, List.flatMap_nil, List.append_nil]

end Params

/-- A name that can be looked for makes a scan that fits into a command, and its frame asks for just
that name. -/
theorem scanCommand_of_named {ssid : Bytes} (hne : ssid ≠ []) (hle : ssid.length ≤ Dot11.maxSsid)
    (maxTime : UInt16) (action : CommandAction) (peer : Peer) :
    ∃ block c, Params.scanSsid ssid maxTime = .ok block ∧ c.id = .scan ∧
      ScanRequest.ofFrame? c.frame = some (.named ssid maxTime) ∧
      Command.encode .scan action block.bytes peer = .ok c := by
  have hn : ¬ (ssid = [] ∨ Dot11.maxSsid < ssid.length) := by
    intro h
    rcases h with h | h
    · exact hne h
    · omega
  have he : [⟨TlvType.ssid, ssid⟩, Params.channelList
      ((List.range scanChannelCount).map fun i ↦ UInt8.ofNat (i + 1)) maxTime] =
        (ScanRequest.named ssid maxTime).elements := rfl
  have hl : (Tlv.encodeAll (ScanRequest.named ssid maxTime).elements).length ≤ 138 := by
    have hc := Params.length_channelList
      ((List.range scanChannelCount).map fun i ↦ UInt8.ofNat (i + 1)) maxTime
    rw [← he]
    simp only [List.length_map, List.length_range, scanChannelCount] at hc
    simp only [Dot11.maxSsid] at hle
    simp only [Tlv.length_encodeAll_cons, Tlv.length_encodeAll_nil, scanChannelCount, hc]
    omega
  have hf := Tlv.fits_of_length (Nat.lt_of_le_of_lt hl (by decide))
  have hb : ([Command.anyBssMode] ++ Mac.zero.toBytes ++
      Tlv.encodeAll (ScanRequest.named ssid maxTime).elements).length ≤ maxBody := by
    simp only [List.length_append, List.length_cons, List.length_nil, Mac.length_toBytes, maxBody,
      maxFrame, CommandHeader.length]
    omega
  refine ⟨⟨Tlv.encodeAll (ScanRequest.named ssid maxTime).elements⟩, ⟨.scan, .sta, _, hb⟩, ?_, rfl,
    ScanRequest.ofFrame?_frame rfl hf rfl, Command.ofBody_of_le hb⟩
  rw [Params.scanSsid, if_neg hn, he, Tlv.Block.ofList_of_fits hf]

/-- An association that fits into a command is encoded, and its frame says what it asks for. -/
theorem associationCommand_of_size {t : Connection.Target} {b : Bss}
    (hr : b.security = .wpa2 → b.rsn.isSome) (h : (b.request t.ssid).size ≤ maxBody) :
    ∃ c, associationCommand t b = .ok c ∧
      AssociationRequest.ofFrame? c.frame = some (b.request t.ssid) := by
  have hf : ∀ e ∈ (b.request t.ssid).elements, e.Fits := by
    apply Tlv.fits_of_length
    simp only [AssociationRequest.size, maxBody, maxFrame, CommandHeader.length] at h
    omega
  have hb : (b.bssid.toBytes ++ le16 b.capability ++ le16 Command.listenInterval ++
      le16 Command.beaconPeriod ++ [0] ++
      Tlv.encodeAll (b.request t.ssid).elements).length ≤ maxBody := by
    simpa only [AssociationRequest.size, AssociationRequest.fixedSize, List.length_append,
      Mac.length_toBytes, length_le16, List.length_cons, List.length_nil] using h
  refine ⟨_, ?_, AssociationRequest.ofFrame?_frame (c := ⟨.associate, .sta, _, hb⟩) rfl hf rfl⟩
  have he := Params.request_elements b t.ssid
  rw [he] at hf
  have ha := Tlv.Block.ofList_of_fits fun e hm ↦ hf e (List.mem_append_left _ hm)
  have hs := Params.addSecurity_of_fits (fun e hm ↦ hf e (List.mem_append_right _ hm)) hr
  simp only [associationCommand, Params.association, ha, hs, bind, Except.bind, Command.encode,
    Command.bodyOf, ← Tlv.encodeAll_append, ← he]
  exact Command.ofBody_of_le hb

/-- The key for a network is encoded, and its frame says what it is the key for. -/
theorem keyCommand_of_named {t : Connection.Target} (b : Bss)
    (hs : t.ssid.length ≤ Dot11.maxSsid) (hp : t.passphrase.length ≤ maxPassphrase) :
    ∃ k, keyCommand t b = .ok k ∧
      KeyRequest.ofFrame? k.frame = some (b.keyRequest t.ssid t.passphrase) := by
  have hl : (Tlv.encodeAll (b.keyRequest t.ssid t.passphrase).elements).length ≤ 114 := by
    simp only [Dot11.maxSsid, maxPassphrase] at hs hp
    simp only [Bss.keyRequest, Tlv.length_encodeAll_cons, Tlv.length_encodeAll_nil,
      Mac.length_toBytes]
    omega
  have hf := Tlv.fits_of_length (Nat.lt_of_le_of_lt hl (by decide))
  have hb : (le16 CommandAction.set.code ++ le16 0 ++
      Tlv.encodeAll (b.keyRequest t.ssid t.passphrase).elements).length ≤ maxBody := by
    simp only [List.length_append, length_le16, maxBody, maxFrame, CommandHeader.length]
    omega
  refine ⟨_, ?_, KeyRequest.ofFrame?_frame (c := ⟨.supplicantPmk, .sta, _, hb⟩) rfl hf rfl⟩
  have hm : Params.masterKey t.ssid b.bssid t.passphrase =
      .ok ⟨Tlv.encodeAll (b.keyRequest t.ssid t.passphrase).elements⟩ :=
    Tlv.Block.ofList_of_fits hf
  simp only [keyCommand, hm, bind, Except.bind, Command.encode, Command.bodyOf]
  exact Command.ofBody_of_le hb

end SdioWlan
