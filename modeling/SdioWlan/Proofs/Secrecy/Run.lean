import SdioWlan.Proofs.ScriptedChip
import SdioWlan.Proofs.Secrecy.Work

namespace SdioWlan

/-- The same call, or two that ask for the same network with two passphrases that are both short
enough, or both too long. -/
inductive Call.Alike : Call → Call → Prop
  | same (c : Call) : Alike c c
  | connect (ssid : Bytes) {p p' : Bytes}
      (h : p.length ≤ maxPassphrase ↔ p'.length ≤ maxPassphrase) :
      Alike (.connect ssid p) (.connect ssid p')

namespace Session

variable {σ : Type}

theorem fresh_alike {R : σ → σ → Prop} (config : Config) (firmware : FirmwareSource)
    {device device' : σ} (hd : R device device') :
    (fresh config firmware device).Alike R (fresh config firmware device') :=
  ⟨⟨rfl, .default, .default⟩, hd, .nil⟩

variable [Platform σ] {R : σ → σ → Prop} (hp : Platform.Oblivious R)
include hp

theorem perform_discreet (c : Call) : Discreet R (perform c : Act σ Unit) := by
  have hi (id : CommandId) (payload : Bytes) :
      Discreet R (issue id .get payload : Act σ Unit) := issue_discreet hp _ _ _
  have hr (id : CommandId) (payload : Bytes) :
      Discreet R (ensureReady >>= fun _ ↦ issue id .get payload : Act σ Unit) :=
    ensureReady_discreet.bind fun _ ↦ hi _ _
  cases c with
  | init => exact init_discreet hp
  | shutdown => exact hi _ _
  | serviceInterrupt => exact serviceInterrupt_discreet hp
  | scan channels maxTime => exact startScan_discreet hp _
  | scanSsid ssid maxTime => exact startScan_discreet hp _
  | connect ssid passphrase => exact connect_parallel hp ssid .rfl
  | disconnect => exact disconnect_discreet hp
  | startAp settings => exact startAp_discreet hp settings
  | stopAp => exact hr _ _
  | deauthClient mac => exact hr _ _
  | sendData payload role => exact sendData_discreet hp payload role
  | leased mac lease => exact leased_discreet mac lease

theorem perform_parallel {c c' : Call} (h : c.Alike c') :
    Parallel (Alike R) (perform c : Act σ Unit) (perform c') := by
  cases h with
  | same => exact perform_discreet hp c
  | connect ssid h => exact connect_parallel hp ssid h

theorem run_alike {calls calls' : List Call} (h : List.Forall₂ Call.Alike calls calls')
    {s t : Session σ} (hs : s.Alike R t) :
    (run calls s).1 = (run calls' t).1 ∧ (run calls s).2.Alike R (run calls' t).2 := by
  induction h generalizing s t with
  | nil => exact ⟨rfl, hs⟩
  | cons hc _ ih =>
    obtain ⟨ho, he⟩ := perform_parallel hp hc s t hs
    obtain ⟨hos, hes⟩ := ih he
    exact ⟨congrArg₂ List.cons ho hos, hes⟩

/-- On a platform that does not look into keys, two applications that make the same calls with
different passphrases get the same answers. What is done to the bus, to the network stack and for
the applications is the same and comes in the same order, except for the bytes of the keys that are
written. The drivers differ in the passphrase alone, and in the last frame, which may be a key. -/
theorem passphrase_confined (config : Config) (firmware : FirmwareSource) {device device' : σ}
    (hd : R device device') {calls calls' : List Call}
    (h : List.Forall₂ Call.Alike calls calls') :
    let r := run calls (fresh config firmware device)
    let r' := run calls' (fresh config firmware device')
    r.1 = r'.1 ∧ List.Forall₂ Action.Alike r.2.link.past r'.2.link.past ∧
      r.2.driver.redacted = r'.2.driver.redacted := by
  obtain ⟨ho, ha⟩ := run_alike hp h (fresh_alike config firmware hd)
  exact ⟨ho, ha.link.past, ha.driver.redacted⟩

end Session

/-- The chip takes every write in the same way. -/
theorem ScriptedChip.oblivious : Platform.Oblivious (Eq : ScriptedChip → ScriptedChip → Prop) where
  readByte h _ := ⟨rfl, h⟩
  writeByte h _ _ := ⟨rfl, h⟩
  readBlock h _ mode _ := by
    subst h
    exact ⟨rfl, rfl⟩
  writeBlock h _ _ _ := ⟨rfl, h⟩
  writeKey h _ _ _ _ _ _ := ⟨rfl, h⟩
  reset _ := .none
  eraseLease h _ := ⟨rfl, h⟩

open Session ScriptedChip

/-- A key is given to the chip, and it is not the same. -/
theorem passphrase_confined_secured :
    let r p := run (booted [.connect [65] p, .serviceInterrupt])
      (start [response .scan 0 securedNetwork])
    (r [112, 113]).2.link.past ≠ (r [112]).2.link.past ∧ (r [112, 113]).1 = (r [112]).1 ∧
      List.Forall₂ Action.Alike (r [112, 113]).2.link.past (r [112]).2.link.past ∧
      (r [112, 113]).2.driver.redacted = (r [112]).2.driver.redacted := by
  have hn : (run (booted [.connect [65] [112, 113], .serviceInterrupt])
      (start [response .scan 0 securedNetwork])).2.link.past ≠
      (run (booted [.connect [65] [112], .serviceInterrupt])
        (start [response .scan 0 securedNetwork])).2.link.past := by
    decide +kernel
  refine ⟨hn, passphrase_confined ScriptedChip.oblivious {} (.image [165, 165]) rfl ?_⟩
  exact .cons (.same _) (.cons (.same _) (.cons (.same _) (.cons (.same _) (.cons (.same _)
    (.cons (.connect [65] (by decide)) (.cons (.same _) .nil))))))

end SdioWlan
