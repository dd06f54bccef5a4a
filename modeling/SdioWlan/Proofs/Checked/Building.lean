import SdioWlan.Params
import SdioWlan.Proofs.Checked.Basic
import SdioWlan.ScanReport

namespace SdioWlan.Checked

/-- Work that a fault can end, and an error of the driver's own as well. -/
abbrev Built (α : Type) := ExceptT DriverError (Except Fault) α

@[simp] theorem Built.lift_bind {α β : Type} (a : α) (f : α → Built β) :
    ((liftM (Except.ok a : Except Fault α) : Built α) >>= f) = f a := by
  have hl : (liftM (Except.ok a : Except Fault α) : Built α) = pure a := rfl
  rw [hl, pure_bind]

theorem Built.ok_bind {α β : Type} (r : Except DriverError α) (f : α → Built β) :
    (ExceptT.mk (Except.ok r) >>= f) = match r with
      | .ok a => f a
      | .error e => ExceptT.mk (.ok (.error e)) := by
  cases r <;> rfl

namespace Block

variable {b c : Tlv.Block} {ts : List Tlv}

/-- An element takes at most four bytes and what a length field can say. -/
theorem length_of_foldlM (h : ts.foldlM Tlv.Block.push b = .ok c) :
    c.bytes.length ≤ b.bytes.length + 0x10003 * ts.length := by
  induction ts generalizing b with
  | nil =>
    cases h
    exact Nat.le_refl _
  | cons t ts ih =>
    obtain ⟨d, hd, h⟩ := bind_eq_ok h
    have hc := ih h
    unfold Tlv.Block.push at hd
    split at hd
    · rename_i hn
      cases hd
      have hl : (t.encode .chip).length = 4 + t.payload.length := by
        simp only [Tlv.encode, List.length_append, length_le16, length_leBytes]
      simp only [List.length_append, List.length_cons, hl] at hc ⊢
      omega
    · cases hd

/-- Adding elements one after the other, for a caller that keeps what was added before an error. -/
theorem foldlM_of_pushAll (b : Tlv.Block) (ts : List Tlv) :
    ts.foldlM Tlv.Block.push b = match b.pushAll ts with
      | (.ok (), c) => .ok c
      | (.error e, _) => .error e := by
  induction ts generalizing b with
  | nil => rfl
  | cons t ts ih =>
    rw [List.foldlM_cons, Tlv.Block.pushAll]
    cases b.push t with
    | error e => rfl
    | ok c => exact ih c

variable [Machine]

def put (b : Bytes) (type : UInt16) (n : Nat) (parts : List Bytes) : Built Bytes :=
  if n < 0x10000 then do
    let b ← extend b (le16 type)
    let b ← extend b (leBytes 2 n)
    (parts.foldlM extend b : Except Fault Bytes)
  else throw .tooLarge

def push (b : Bytes) (t : Tlv) : Built Bytes := put b t.type t.payload.length [t.payload]

def pushParts (b : Bytes) (type : UInt16) (parts : List Bytes) : Built Bytes := do
  let n ← (parts.foldlM (fun n p ↦ addSize n p.length) 0 : Except Fault Nat)
  put b type n parts

def pushAll (b : Bytes) (ts : List Tlv) : Built Bytes := ts.foldlM push b

theorem foldlM_extend {b : Bytes} {parts : List Bytes}
    (h : b.length + parts.flatten.length ≤ maxSlice) :
    parts.foldlM extend b = .ok (b ++ parts.flatten) := by
  induction parts generalizing b with
  | nil =>
    rw [List.flatten_nil, List.append_nil]
    rfl
  | cons p parts ih =>
    rw [List.flatten_cons, List.length_append] at h
    rw [List.foldlM_cons, extend_of_le (by omega), ok_bind, ih]
    · rw [List.flatten_cons, List.append_assoc]
    · rw [List.length_append]
      omega

theorem put_eq {b : Bytes} {type : UInt16} {parts : List Bytes}
    (h : b.length + 0x10003 ≤ maxSlice) :
    put b type parts.flatten.length parts =
      ExceptT.mk (.ok ((Tlv.Block.push ⟨b⟩ ⟨type, parts.flatten⟩).map (·.bytes))) := by
  unfold put Tlv.Block.push
  by_cases hn : parts.flatten.length < 0x10000
  · have h₁ : extend b (le16 type) = .ok _ := extend_of_le (by rw [length_le16]; omega)
    have h₂ : extend (b ++ le16 type) (leBytes 2 parts.flatten.length) = .ok _ :=
      extend_of_le (by simp only [List.length_append, length_le16, length_leBytes]; omega)
    have h₃ : parts.foldlM extend (b ++ le16 type ++ leBytes 2 parts.flatten.length) = .ok _ :=
      foldlM_extend (by simp only [List.length_append, length_le16, length_leBytes] at hn ⊢; omega)
    simp only [if_pos hn, h₁, h₂, h₃, Built.lift_bind, Except.map, Tlv.encode]
    rw [List.append_assoc, List.append_assoc, List.append_assoc]
    rfl
  · simp only [if_neg hn]
    rfl

theorem push_eq {b : Bytes} (h : b.length + 0x10003 ≤ maxSlice) (t : Tlv) :
    push b t = ExceptT.mk (.ok ((Tlv.Block.push ⟨b⟩ t).map (·.bytes))) := by
  have hp : put b t.type [t.payload].flatten.length [t.payload] = _ := put_eq h
  rwa [List.flatten_singleton] at hp

theorem sum_of_parts {n : Nat} {parts : List Bytes} (h : n + parts.flatten.length ≤ maxSlice) :
    parts.foldlM (fun n p ↦ addSize n p.length) n = .ok (n + parts.flatten.length) := by
  induction parts generalizing n with
  | nil => rfl
  | cons p parts ih =>
    rw [List.flatten_cons, List.length_append] at h ⊢
    rw [List.foldlM_cons, addSize_of_le (by omega), ok_bind, ih (by omega), Nat.add_assoc]

theorem pushParts_eq {b : Bytes} {type : UInt16} {parts : List Bytes}
    (hp : parts.flatten.length ≤ maxSlice) (h : b.length + 0x10003 ≤ maxSlice) :
    pushParts b type parts = push b ⟨type, parts.flatten⟩ := by
  have hs := sum_of_parts (n := 0) (by rwa [Nat.zero_add])
  rw [Nat.zero_add] at hs
  rw [push_eq h, ← put_eq h, pushParts, hs, Built.lift_bind]

theorem pushAll_eq {b : Bytes} (h : b.length + 0x10003 * ts.length ≤ maxSlice) :
    pushAll b ts = ExceptT.mk (.ok ((ts.foldlM Tlv.Block.push ⟨b⟩).map (·.bytes))) := by
  unfold pushAll
  induction ts generalizing b with
  | nil => rfl
  | cons t ts ih =>
    rw [List.length_cons, Nat.mul_succ] at h
    have hb : b.length + 0x10003 ≤ maxSlice :=
      Nat.le_trans (Nat.add_le_add_left (Nat.le_add_left _ _) _) h
    rw [List.foldlM_cons, List.foldlM_cons, push_eq hb, Built.ok_bind]
    cases hp : Tlv.Block.push ⟨b⟩ t with
    | error e => rfl
    | ok c =>
      have hf : [t].foldlM Tlv.Block.push ⟨b⟩ = .ok c := by
        rw [List.foldlM_cons, hp]
        rfl
      have hc := length_of_foldlM hf
      simp only [List.length_singleton] at hc
      rw [Nat.mul_one] at hc
      apply ih
      calc
        c.bytes.length + 0x10003 * ts.length ≤ b.length + 0x10003 + 0x10003 * ts.length :=
          Nat.add_le_add_right hc _
        _ = b.length + (0x10003 * ts.length + 0x10003) := by
          rw [Nat.add_assoc, Nat.add_comm 0x10003]
        _ ≤ maxSlice := h

end Block

open Block (push pushParts pushAll)

def apProtocol (security : Security) : Except Fault UInt16 :=
  if security = .wpa2 then shl16 1 5 else shl16 1 3

theorem apProtocol_eq (security : Security) :
    apProtocol security = .ok (Params.apProtocol security) := by
  cases security <;> rfl

section Lengths

variable {b c : Tlv.Block}

theorem length_of_few {ts : List Tlv} (h : ts.length ≤ 16) (hc : Tlv.Block.ofList ts = .ok c) :
    c.bytes.length ≤ 0x100030 := by
  have hl := Block.length_of_foldlM hc
  simp only [List.length_nil, Nat.zero_add] at hl
  omega

theorem length_associationElements (ssid : Bytes) (channel : UInt8) (security : Security) :
    (Params.associationElements ssid channel security).length ≤ 16 := by
  cases security <;> simp [Params.associationElements]

theorem length_apElements (s : ApSettings) : (Params.apElements s).length ≤ 16 := by
  unfold Params.apElements
  generalize Params.shorterThan Dot11.maxSsid s.ssid = name
  generalize Params.shorterThan maxPassphrase s.passphrase = passphrase
  cases name <;> cases passphrase <;> by_cases hs : s.security = .unprotected <;> simp [hs]

theorem length_of_scanChannels {channels : Bytes} {maxTime : UInt16}
    (h : Params.scanChannels channels maxTime = .ok c) : c.bytes.length ≤ 0x100030 := by
  unfold Params.scanChannels at h
  split at h
  · cases h
  · exact length_of_few (by simp) h

theorem length_of_scanSsid {ssid : Bytes} {maxTime : UInt16}
    (h : Params.scanSsid ssid maxTime = .ok c) : c.bytes.length ≤ 0x100030 := by
  unfold Params.scanSsid at h
  split at h
  · cases h
  · exact length_of_few (by simp) h

/-- A secured network wants to see at most nine elements again. -/
theorem length_of_addSecurity {security : Security} {vendor : List Bytes} {rsn : Option Bytes}
    (hb : b.bytes.length ≤ 0x100030) (hv : vendor.length ≤ Bss.maxVendor)
    (h : Params.addSecurity b security vendor rsn = (.ok (), c)) :
    c.bytes.length ≤ 0x300000 := by
  have hp {a d : Tlv.Block} {ts : List Tlv} (hd : a.pushAll ts = (.ok (), d)) :
      d.bytes.length ≤ a.bytes.length + 0x10003 * ts.length := by
    have hf := Block.foldlM_of_pushAll a ts
    rw [hd] at hf
    exact Block.length_of_foldlM hf
  unfold Params.addSecurity at h
  split at h
  · split at h
    · cases h
    · rename_i d hd
      have hl := hp hd
      simp only [List.length_map, Bss.maxVendor] at hl hv
      split at h
      · split at h
        · cases h
        · have hr := hp h
          simp only [List.length_singleton] at hr
          omega
      · cases h
        omega
  · cases h
    omega

end Lengths

variable [Machine]

def channelList (channels : Bytes) (maxTime : UInt16) : Except Fault Tlv := do
  reserve (← mulSize channels.length 7)
  let params ← channels.foldlM (fun b c ↦ extend b ([0, c, 0, 0, 0] ++ le16 maxTime)) []
  return ⟨TlvType.channelList, params⟩

def scanChannels (channels : Bytes) (maxTime : UInt16) : Built Bytes :=
  if channels = [] then throw .invalidParam
  else do
    let list ← channelList channels maxTime
    push [] list

def scanSsid (ssid : Bytes) (maxTime : UInt16) : Built Bytes :=
  if ssid = [] ∨ Dot11.maxSsid < ssid.length then throw .invalidParam
  else do
    let b ← push [] ⟨TlvType.ssid, ssid⟩
    let list ← channelList ((List.range scanChannelCount).map fun i ↦ UInt8.ofNat (i + 1)) maxTime
    push b list

def association (ssid : Bytes) (channel : UInt8) (security : Security) : Built Bytes := do
  let b ← push [] ⟨TlvType.ssid, ssid⟩
  let b ← push b ⟨TlvType.channel, [channel]⟩
  let b ← push b ⟨TlvType.cf, List.replicate 6 0⟩
  let b ← if security = .unprotected then push b ⟨TlvType.authType, le16 0⟩ else pure b
  let list ← channelList [channel] defaultScanTime
  let b ← push b list
  push b ⟨TlvType.rates, Params.associationRates⟩

def addSecurity (b : Bytes) (security : Security) (vendor : List Bytes) (rsn : Option Bytes) :
    Built Bytes :=
  if security.needsKey then do
    let b ← pushAll b (vendor.map fun v ↦ ⟨TlvType.vendor, v⟩)
    if security = .wpa2 then
      match rsn with
      | none => throw .invalidState
      | some r => push b ⟨TlvType.rsn, r⟩
    else return b
  else return b

def masterKey (ssid : Bytes) (bssid : Mac) (passphrase : Bytes) : Built Bytes := do
  let b ← push [] ⟨TlvType.ssid, ssid⟩
  let b ← push b ⟨TlvType.bssid, bssid.toBytes⟩
  push b ⟨TlvType.passphrase, passphrase⟩

def accessPoint (s : ApSettings) : Built Bytes := do
  let b ← match Params.shorterThan Dot11.maxSsid s.ssid with
    | none => pure []
    | some n => do
      let b ← push [] ⟨TlvType.ssid, n⟩
      push b ⟨TlvType.broadcastSsid, [if s.broadcastSsid then 1 else 0]⟩
  if s.security = .unprotected then return b
  else
    let b ← match Params.shorterThan maxPassphrase s.passphrase with
      | none => pure b
      | some p => push b ⟨TlvType.passphrase, p⟩
    let protocol ← apProtocol s.security
    let b ← push b ⟨TlvType.encryption, le16 protocol⟩
    let b ← pushParts b TlvType.keyManagement [le16 Params.preSharedKey, le16 0]
    let b ← pushParts b TlvType.pairwiseCipher [le16 protocol, le16 Params.ccmp]
    push b ⟨TlvType.groupCipher, le16 Params.ccmp⟩

theorem foldlM_channels {b channels : Bytes} (h : b.length + 7 * channels.length ≤ maxSlice)
    (maxTime : UInt16) :
    channels.foldlM (fun b c ↦ extend b ([0, c, 0, 0, 0] ++ le16 maxTime)) b =
      .ok (b ++ (Params.channelList channels maxTime).payload) := by
  induction channels generalizing b with
  | nil =>
    rw [Params.channelList, List.flatMap_nil, List.append_nil]
    rfl
  | cons c channels ih =>
    have hl : ([0, c, 0, 0, 0] ++ le16 maxTime).length = 7 := by
      rw [List.length_append, length_le16]
      rfl
    rw [List.length_cons] at h
    rw [List.foldlM_cons, extend_of_le (by omega), ok_bind, ih]
    · simp only [Params.channelList, List.flatMap_cons, List.append_assoc]
    · rw [List.length_append, hl]
      omega

theorem channelList_eq {channels : Bytes} (h : 7 * channels.length ≤ maxSlice)
    (maxTime : UInt16) :
    channelList channels maxTime = .ok (Params.channelList channels maxTime) := by
  have hm : mulSize channels.length 7 = .ok (channels.length * 7) := if_pos (by omega)
  have hr : reserve (channels.length * 7) = .ok () := if_pos (by omega)
  have hn : ([] : Bytes).length + 7 * channels.length ≤ maxSlice := by
    rwa [List.length_nil, Nat.zero_add]
  have hf := foldlM_channels hn maxTime
  simp only [channelList, hm, hr, hf, ok_bind, List.nil_append, pure_eq_ok, Params.channelList]

theorem channelList_of_small {channels : Bytes} (h : channels.length ≤ 0x10000) (maxTime : UInt16) :
    channelList channels maxTime = .ok (Params.channelList channels maxTime) := by
  apply channelList_eq
  have hm := le_maxSlice
  omega

/-- A block of a few elements. -/
theorem pushAll_of_few {ts : List Tlv} (h : ts.length ≤ 16) :
    pushAll [] ts = ExceptT.mk (.ok ((Tlv.Block.ofList ts).map (·.bytes))) := by
  apply Block.pushAll_eq
  have hm := le_maxSlice
  rw [List.length_nil, Nat.zero_add]
  omega

theorem scanChannels_eq {channels : Bytes} (h : 7 * channels.length ≤ maxSlice)
    (maxTime : UInt16) : scanChannels channels maxTime =
      ExceptT.mk (.ok ((Params.scanChannels channels maxTime).map (·.bytes))) := by
  unfold scanChannels Params.scanChannels
  by_cases hc : channels = []
  · rw [if_pos hc, if_pos hc]
    rfl
  · rw [if_neg hc, if_neg hc, channelList_eq h, Built.lift_bind, ← pushAll_of_few (by simp)]
    simp only [pushAll, List.foldlM_cons, List.foldlM_nil, bind_pure]

theorem scanSsid_eq (ssid : Bytes) (maxTime : UInt16) : scanSsid ssid maxTime =
    ExceptT.mk (.ok ((Params.scanSsid ssid maxTime).map (·.bytes))) := by
  unfold scanSsid Params.scanSsid
  by_cases hs : ssid = [] ∨ Dot11.maxSsid < ssid.length
  · rw [if_pos hs, if_pos hs]
    rfl
  · rw [if_neg hs, if_neg hs, channelList_of_small (by decide), ← pushAll_of_few (by simp)]
    simp only [pushAll, List.foldlM_cons, List.foldlM_nil, bind_pure, Built.lift_bind]

theorem association_eq (ssid : Bytes) (channel : UInt8) (security : Security) :
    association ssid channel security =
      ExceptT.mk (.ok ((Params.association ssid channel security).map (·.bytes))) := by
  rw [Params.association, ← pushAll_of_few (length_associationElements _ _ _), association,
    channelList_of_small (by simp)]
  cases security <;>
    simp only [Params.associationElements, pushAll, reduceCtorEq, if_true, if_false,
      List.cons_append, List.nil_append, List.foldlM_cons, List.foldlM_nil, bind_pure, pure_bind,
      Built.lift_bind]

theorem masterKey_eq (ssid : Bytes) (bssid : Mac) (passphrase : Bytes) :
    masterKey ssid bssid passphrase =
      ExceptT.mk (.ok ((Params.masterKey ssid bssid passphrase).map (·.bytes))) := by
  rw [Params.masterKey, ← pushAll_of_few (by simp)]
  simp only [masterKey, pushAll, List.foldlM_cons, List.foldlM_nil, bind_pure]

/-- What a secured network wants to see again never takes more room than there is. -/
theorem addSecurity_eq {b : Tlv.Block} {vendor : List Bytes}
    (hb : b.bytes.length ≤ 0x100030) (hv : vendor.length ≤ Bss.maxVendor) (security : Security)
    (rsn : Option Bytes) : addSecurity b.bytes security vendor rsn =
      ExceptT.mk (.ok (match Params.addSecurity b security vendor rsn with
        | (.ok (), c) => .ok c.bytes
        | (.error e, _) => .error e)) := by
  have hm := le_maxSlice
  unfold addSecurity Params.addSecurity
  cases security.needsKey with
  | false => rfl
  | true =>
    have hl : (vendor.map fun v ↦ (⟨TlvType.vendor, v⟩ : Tlv)).length ≤ 8 := by
      rwa [List.length_map]
    generalize vendor.map (fun v ↦ (⟨TlvType.vendor, v⟩ : Tlv)) = ts at hl
    have hn : b.bytes.length + 0x10003 * ts.length ≤ 0x300000 := by omega
    have hp := Block.foldlM_of_pushAll b ts
    rw [if_pos rfl, if_pos rfl, Block.pushAll_eq (Nat.le_trans hn (by omega)), Built.ok_bind, hp]
    rcases hr : b.pushAll ts with ⟨e | _, c⟩
    · rfl
    · rw [hr] at hp
      have hc := Nat.le_trans (Block.length_of_foldlM hp) hn
      by_cases hs : security = .wpa2
      · cases rsn with
        | none =>
          simp only [Except.map, if_pos hs]
          rfl
        | some r =>
          have hr : c.bytes.length + 0x10003 ≤ maxSlice := by omega
          simp only [Except.map, if_pos hs, Block.push_eq hr, Tlv.Block.pushAll]
          cases c.push ⟨TlvType.rsn, r⟩ <;> rfl
      · simp only [Except.map, if_neg hs]
        rfl

theorem pushAll_push (ts : List Tlv) (t : Tlv) :
    (pushAll [] ts >>= fun b ↦ push b t) = pushAll [] (ts ++ [t]) := by
  simp only [pushAll, List.foldlM_append, List.foldlM_cons, List.foldlM_nil, bind_pure]

theorem pushAll_push_bind (ts : List Tlv) (t : Tlv) (f : Bytes → Built Bytes) :
    (pushAll [] ts >>= fun b ↦ push b t >>= f) = pushAll [] (ts ++ [t]) >>= f := by
  rw [← pushAll_push, bind_assoc]

theorem pushAll_pushParts_bind {ts : List Tlv} (h : ts.length ≤ 16) (type : UInt16)
    {parts : List Bytes} (hp : parts.flatten.length ≤ 16) (f : Bytes → Built Bytes) :
    (pushAll [] ts >>= fun b ↦ pushParts b type parts >>= f) =
      pushAll [] (ts ++ [⟨type, parts.flatten⟩]) >>= f := by
  have hm := le_maxSlice
  rw [← pushAll_push_bind, pushAll_of_few h, Built.ok_bind, Built.ok_bind]
  cases hc : Tlv.Block.ofList ts with
  | error e => rfl
  | ok c =>
    have hl := Block.length_of_foldlM hc
    simp only [List.length_nil, Nat.zero_add] at hl
    have hn : c.bytes.length + 0x10003 ≤ maxSlice := by omega
    simp only [Except.map, Block.pushParts_eq (Nat.le_trans hp (by omega)) hn]

theorem accessPoint_eq (s : ApSettings) : accessPoint s =
    ExceptT.mk (.ok ((Params.accessPoint s).map (·.bytes))) := by
  rw [Params.accessPoint, ← pushAll_of_few (length_apElements s)]
  unfold accessPoint Params.apElements
  generalize Params.shorterThan Dot11.maxSsid s.ssid = name
  generalize Params.shorterThan maxPassphrase s.passphrase = passphrase
  generalize (if s.broadcastSsid then 1 else 0 : UInt8) = broadcast
  have ht (t : Tlv) (f : Bytes → Built Bytes) : (push [] t >>= f) = pushAll [] [t] >>= f :=
    pushAll_push_bind [] t f
  by_cases hs : s.security = .unprotected
  · cases name <;>
      simp only [if_pos hs, bind_pure, List.append_nil, pushAll, List.foldlM_cons, List.foldlM_nil]
  · -- Every block begins with the elements before it, so each step adds one to a list.
    cases name <;> cases passphrase <;>
      simp (disch := simp) only [if_neg hs, apProtocol_eq, Built.lift_bind, pure_bind,
        List.nil_append, List.cons_append, ht, pushAll_push, pushAll_push_bind,
        pushAll_pushParts_bind, List.flatten_cons, List.flatten_nil, List.append_nil]

end SdioWlan.Checked
