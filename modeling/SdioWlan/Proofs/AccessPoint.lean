import SdioWlan.Proofs.CommandLayout
import SdioWlan.Proofs.Elements
import SdioWlan.Proofs.RetryBudget

namespace SdioWlan

open Tlv (encodeAll)
open Tlv.Block

namespace ApSettings

/-- A value is passed on in these elements if it is there and has at least one byte and at most
`most`. -/
inductive Passed (value : Option Bytes) (most : Nat) (elements : Bytes → List Tlv) :
    List Tlv → Prop
  | whole {b : Bytes} (hv : value = some b) (hp : 1 ≤ b.length) (hl : b.length ≤ most) :
      Passed value most elements (elements b)
  | nothing (h : ∀ b, value = some b → b.length = 0 ∨ most < b.length) :
      Passed value most elements []

def named (broadcast : Bool) (name : Bytes) : List Tlv :=
  [⟨0x0000, name⟩, ⟨0x0130, [if broadcast then 1 else 0]⟩]

/-- The elements that an access point is configured with, in their order. `p` is the bit of the
protocol. -/
inductive Configures (s : ApSettings) : List Tlv → Prop
  | unprotected {ts : List Tlv} (hs : s.security = .unprotected)
      (hn : Passed s.ssid 31 (named s.broadcastSsid) ts) : Configures s ts
  | secured {ts us : List Tlv} {p : UInt8} (hs : s.security ≠ .unprotected)
      (hp : p = if s.security = .wpa2 then 32 else 8)
      (hn : Passed s.ssid 31 (named s.broadcastSsid) ts)
      (hk : Passed s.passphrase 63 (fun b ↦ [⟨0x013C, b⟩]) us) :
      Configures s (ts ++ (us ++ [⟨0x0140, [p, 0]⟩, ⟨0x0141, [2, 0, 0, 0]⟩,
        ⟨0x0191, [p, 0, 8, 0]⟩, ⟨0x0192, [8, 0]⟩]))

theorem passed_shorterThan (value : Option Bytes) (most : Nat) (elements : Bytes → List Tlv) :
    Passed value most elements (match Params.shorterThan (most + 1) value with
      | none => []
      | some b => elements b) := by
  cases value with
  | none => exact .nothing fun b h ↦ by cases h
  | some b =>
    by_cases h : b ≠ [] ∧ b.length < most + 1
    · have hf : Params.shorterThan (most + 1) (some b) = some b :=
        Option.filter_some_pos (decide_eq_true h)
      rw [hf]
      exact .whole rfl (List.length_pos_iff.mpr h.1) (Nat.le_of_lt_succ h.2)
    · have hf : Params.shorterThan (most + 1) (some b) = none :=
        Option.filter_some_neg (by simpa using h)
      rw [hf]
      apply Passed.nothing
      intro c hc
      cases hc
      by_cases hb : b = []
      · exact .inl (List.length_eq_zero_iff.mpr hb)
      · exact .inr (Nat.lt_of_succ_le (Nat.not_lt.mp fun hl ↦ h ⟨hb, hl⟩))

theorem apElements_configures (s : ApSettings) : s.Configures (Params.apElements s) := by
  have hn := passed_shorterThan s.ssid 31 (named s.broadcastSsid)
  have hk := passed_shorterThan s.passphrase 63 fun b ↦ [⟨0x013C, b⟩]
  unfold Params.apElements
  by_cases hs : s.security = .unprotected
  · rw [if_pos hs, List.append_nil]
    exact .unprotected hs hn
  · have hp : le16 (Params.apProtocol s.security) =
        [if s.security = .wpa2 then 32 else 8, 0] := by
      unfold Params.apProtocol
      split <;> rfl
    rw [if_neg hs]
    simp only [hp]
    exact .secured hs rfl hn hk

theorem Passed.length_le {value : Option Bytes} {most n : Nat} {elements : Bytes → List Tlv}
    {ts : List Tlv} (h : Passed value most elements ts)
    (he : ∀ b, (encodeAll (elements b)).length = n + b.length) :
    (encodeAll ts).length ≤ n + most := by
  cases h with
  | whole hv hp hl =>
    rw [he]
    exact Nat.add_le_add_left hl n
  | nothing h => exact Nat.zero_le _

/-- The whole configuration is short. -/
theorem Configures.length_le {s : ApSettings} {ts : List Tlv} (h : s.Configures ts) :
    (encodeAll ts).length ≤ 135 := by
  have hn {us : List Tlv} (hu : Passed s.ssid 31 (named s.broadcastSsid) us) :
      (encodeAll us).length ≤ 9 + 31 :=
    hu.length_le fun b ↦ by
      simp only [named, Tlv.length_encodeAll_cons, Tlv.length_encodeAll_nil, List.length_singleton]
      omega
  cases h with
  | unprotected hs h => exact Nat.le_trans (hn h) (by decide)
  | secured hs hp h hk =>
    have hl := hk.length_le (n := 4) fun b ↦ by
      rw [Tlv.length_encodeAll_cons, Tlv.length_encodeAll_nil]
      rfl
    have hr := hn h
    simp only [Tlv.encodeAll_append, List.length_append, Tlv.length_encodeAll_cons,
      Tlv.length_encodeAll_nil, List.length_cons, List.length_nil]
    omega

/-- The block can be built whatever the settings are, and reads as what is configured. -/
theorem exists_accessPoint (s : ApSettings) :
    ∃ block ts, Params.accessPoint s = .ok block ∧ Tlv.parse .chip block.bytes = .ok ts ∧
      s.Configures ts ∧ block.bytes.length ≤ 135 := by
  have hc := s.apElements_configures
  have hl := hc.length_le
  have hf := Tlv.fits_of_length (Nat.lt_of_le_of_lt hl (by decide))
  exact ⟨_, _, ofList_of_fits hf, Tlv.parse_encodeAll hf, hc, hl⟩

end ApSettings

namespace Session

variable {σ : Type} [Platform σ] {s : Session σ}

inductive SetsUp (block : Bytes) (c : Command) : Prop
  | start (hb : block = []) (hi : c.id = .bssStart) (hc : c.body = [])
  | configure (hb : block ≠ []) (hi : c.id = .sysConfigure) (hc : c.body = [1, 0] ++ block)

inductive StartsAccessPoint (s t : Session σ) : Prop
  | written {c : Command} (hi : c.id = .bssStart) (hc : c.body = [])
      (hl : t.link.past = c.written s.driver.base (.ok ()) :: s.link.past)
  | failed {c : Command} {e : Errno} (hi : c.id = .bssStart) (hc : c.body = [])
      (hl : t.link.past = .report (.apStarted (.error (.transfer e))) ::
        c.written s.driver.base (.error e) :: s.link.past)

theorem startAp_of_not_ready (h : s.driver.boot.isReady = false) (settings : ApSettings) :
    startAp settings s = (.error .invalidState, s) := ensureReady_bind_of_not_ready h _

theorem startAp_of_ready (h : s.driver.boot.isReady = true) {settings : ApSettings}
    {block : Tlv.Block} (hb : Params.accessPoint settings = .ok block) :
    startAp settings s =
      if block.bytes = [] then issue .bssStart .get [] s
      else issue .sysConfigure .set block.bytes s := by
  unfold startAp
  rw [ensureReady_bind_of_ready h]
  simp only [bind_apply, liftM_apply, hb]
  split <;> rfl

theorem issue_bssStart (hf : s.driver.channel.held = false) :
    ∃ c : Command, c.id = .bssStart ∧ c.body = [] ∧ Issues c s (issue .bssStart .get [] s) := by
  have ha : Command.Accepts .bssStart .get [] := trivial
  obtain ⟨c, hc, hi, -, hb⟩ := Command.encode_of_accepts ha
    ⟨s.driver.connection.target.bssid, s.driver.connection.target.capability⟩
  rw [issue_of_encode (by decide) hc]
  exact ⟨c, hi, hb, sendCommand_issues hf c⟩

theorem startAp_writes (hf : s.driver.channel.held = false) (hr : s.driver.boot.isReady = true)
    {settings : ApSettings} {block : Tlv.Block} (hb : Params.accessPoint settings = .ok block)
    (hl : block.bytes.length ≤ 135) :
    ∃ c, SetsUp block.bytes c ∧ Issues c s (startAp settings s) := by
  rw [startAp_of_ready hr hb]
  by_cases hn : block.bytes = []
  · rw [if_pos hn]
    obtain ⟨c, hi, hc, hw⟩ := issue_bssStart hf
    exact ⟨c, .start hn hi hc, hw⟩
  · rw [if_neg hn]
    have ha : Command.Accepts .sysConfigure .set block.bytes :=
      (Nat.add_le_add_left hl 2).trans (by decide)
    obtain ⟨c, hc, hi, -, hd⟩ := Command.encode_of_accepts ha
      ⟨s.driver.connection.target.bssid, s.driver.connection.target.capability⟩
    have hbody : c.body = [1, 0] ++ block.bytes := by
      rw [hd]
      simp only [Command.fields, List.flatten_cons, List.flatten_nil, List.append_nil]
      rfl
    rw [issue_of_encode (by decide) hc]
    exact ⟨c, .configure hn hi hbody, sendCommand_issues hf c⟩

/-- The chip has taken the configuration. -/
theorem answer_sysConfigure (hf : s.driver.channel.held = false) (body : Bytes) :
    (answer .sysConfigure 0 body s).1 = .ok () ∧
      StartsAccessPoint s (answer .sysConfigure 0 body s).2 := by
  let u : Session σ :=
    { s with driver := { s.driver with channel := { s.driver.channel with inFlight := none } } }
  have ha : answer .sysConfigure 0 body s = (tryCatch (issue .bssStart .get [])
      fun e ↦ report (.apStarted (.error e)) : Act σ Unit) u := rfl
  obtain ⟨c, hi, hc, hw⟩ := issue_bssStart (s := u) hf
  obtain ⟨t, ht, -, hl⟩ | ⟨e, t, ht, -, hl⟩ := hw.tryCatch fun e ↦ report (.apStarted (.error e))
  · rw [ha, ht]
    exact ⟨rfl, .written hi hc hl⟩
  · rw [ha, ht]
    exact ⟨rfl, .failed hi hc (congrArg _ hl)⟩

/-- An access point is set up in order, in whatever state a run has left the driver. The block can
be built for any settings and reads as their elements. A ready driver then writes one command, which
carries the block as it is or, without anything in it, starts the access point at once, and only the
bus can make it fail. And along the run the access point was started once for every configuration
that the chip had taken. -/
theorem access_point_set_up (config : Config) (firmware : FirmwareSource) (device : σ)
    (calls : List Call) (settings : ApSettings) :
    let s := (run calls (fresh config firmware device)).2
    let r := perform (.startAp settings) s
    (∃ block ts, Params.accessPoint settings = .ok block ∧
      Tlv.parse .chip block.bytes = .ok ts ∧ settings.Configures ts ∧
      if s.driver.boot.isReady then ∃ c, SetsUp block.bytes c ∧ Issues c s r
      else r = (.error .invalidState, s)) ∧
    ∀ m ∈ steps calls (fresh config firmware device), ∀ body,
      m.message = .response .sysConfigure 0 body →
        m.outcome = .ok () ∧ StartsAccessPoint m.before m.after := by
  intro s r
  have hp := steps_path calls (fresh config firmware device)
  have hf := fresh_sound config firmware device
  refine ⟨?_, fun m hm body hb ↦ ?_⟩
  · obtain ⟨block, ts, hb, ht, hc, hl⟩ := settings.exists_accessPoint
    refine ⟨block, ts, hb, ht, hc, ?_⟩
    split
    · rename_i hr
      exact startAp_writes (hp.sound hf).free hr hb hl
    · rename_i hr
      exact startAp_of_not_ready (Bool.eq_false_iff.mpr hr) settings
  · obtain ⟨pre, post, h⟩ := List.append_of_mem hm
    obtain ⟨-, hg, hs⟩ := steps_around h
    have ha := hg.answer_of_response hb
    obtain ⟨ho, ht⟩ := answer_sysConfigure (s := m.before) hs.free body
    rw [ha] at ho ht
    exact ⟨ho, ht⟩

end Session

end SdioWlan
