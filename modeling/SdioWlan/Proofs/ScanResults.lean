import SdioWlan.Proofs.Joining
import SdioWlan.Proofs.PendingScans
import SdioWlan.Proofs.Scan.Report

namespace SdioWlan

def Action.scanResult? : Action → Option (Option ScanResult)
  | .report (.scanResult r) => some r
  | _ => none

theorem Station.Fails.scanResults {a b : Station} {l : List Action} {why : ConnectFailure}
    (h : a.Fails why l b) : l.filterMap Action.scanResult? = [] :=
  h.filterMap_eq_nil (fun _ _ _ _ ↦ rfl) fun _ ↦ rfl

theorem Station.Joins.scanResults {a b : Station} {o : Except DriverError Unit} {l : List Action}
    {n : Bss} (h : a.Joins n o l b) : l.filterMap Action.scanResult? = [] :=
  h.filterMap_eq_nil fun _ _ _ ↦ rfl

/-- Whatever an attempt makes of the answer to its scan, it keeps the networks to itself. -/
theorem Reaction.scanResults {result : UInt8} {body : Bytes} {a b : Station} {l : List Action}
    (h : Reaction (.response .scan result body) a l b)
    (hv : a.connection.scanAnswered.1 = .connect) : l.filterMap Action.scanResult? = [] := by
  cases h with
  | idle hi => cases hi.1
  | scanned hn => exact absurd hv hn
  | scanFailed _ hf => exact hf.scanResults
  | joined _ _ hj => exact hj.scanResults
  | unjoined _ _ hj hf => rw [List.filterMap_append, hf.scanResults, hj.scanResults, List.append_nil]
  | unheeded => rfl
  | rejected _ _ hf => exact hf.scanResults

def Description.result (d : Description) : ScanResult where
  ssid := String.ofList (Text.Utf8.decodeLossy d.network.ssid)
  bssid := d.bssid
  rssi := d.rssi
  channel := d.network.channel
  security := d.network.security

/-- The descriptions that can be read in the answer to a scan: those at its start, up to the first
that is malformed. A failure offers none. -/
inductive ScanReport.Offers (result : UInt8) (body : Bytes) : List Description → Prop
  | failed (h : result ≠ 0 ∨ body.length < 3) : Offers result body []
  | report {r : ScanReport} {ds : List Description} {tail : Bytes} (h : result = 0)
      (hp : ScanReport.parse body = .ok r) (hr : r.ReadsPrefix ds tail) : Offers result body ds

namespace Session

open ScanReport (Offers)

variable {σ : Type}

def scanTaken (s : Session σ) : Session σ :=
  { s with driver := { s.driver with
      channel := { s.driver.channel with inFlight := none }
      connection := { s.driver.connection with scans := s.driver.connection.scans.tail } } }

theorem picking_eq_scanTaken (s : Session σ) : s.picking = s.scanTaken := by
  have hc : s.driver.connection.scanAnswered.2 =
      { s.driver.connection with scans := s.driver.connection.scans.tail } := by
    unfold Connection.scanAnswered
    split <;> rename_i h <;> simp only [h, List.tail_nil, List.tail_cons]
    rw [← h]
  simp only [picking, answered, hc, scanTaken]
  rfl

variable [Platform σ] {s : Session σ} {result : UInt8} {body : Bytes}

/-- An answer with a result other than zero, and one that is too short, fail the scan. -/
theorem answer_scan_of_failed (h : result ≠ 0 ∨ body.length < 3) :
    ∃ e, (answer .scan result body s).2 =
      (scanFailed s.driver.connection.scanAnswered.1 e s.scanTaken).2 := by
  rw [← picking_eq_scanTaken]
  by_cases hz : result = 0
  · have hp : ScanReport.parse body = .error .malformedFrame :=
      ScanReport.parse_eq_error_iff.mpr (h.resolve_left (not_not.mpr hz))
    refine ⟨.malformedFrame, (congrArg Prod.snd ?_).trans (bind_throw_snd _ .malformedFrame _)⟩
    simp only [answer, commandDone, onScan, bind_apply, update_apply, hz, ne_eq, not_true_eq_false,
      if_false, takeScan_apply, hp]
    rfl
  · let e := DriverError.rejected CommandId.scan.code result
    refine ⟨e, (congrArg Prod.snd ?_).trans (bind_throw_snd _ e _)⟩
    simp only [answer, commandFailed, bind_apply, update_apply, ne_eq, hz, not_false_eq_true,
      if_true, takeScan_apply]
    rfl

/-- Every answer is either a failure or a report. -/
theorem answer_scan_cases (result : UInt8) (body : Bytes) (s : Session σ) :
    ((result ≠ 0 ∨ body.length < 3) ∧ ∃ e, (answer .scan result body s).2 =
        (scanFailed s.driver.connection.scanAnswered.1 e s.scanTaken).2) ∨
      ∃ r, result = 0 ∧ ScanReport.parse body = .ok r := by
  by_cases h : result ≠ 0 ∨ body.length < 3
  · exact .inl ⟨h, answer_scan_of_failed h⟩
  · obtain ⟨hz, hl⟩ := not_or.mp h
    obtain ⟨r, hr, -⟩ := ScanReport.parse_of_le (Nat.not_lt.mp hl)
    exact .inr ⟨r, not_not.mp hz, hr⟩

theorem answer_scan_of_plain (hv : s.driver.connection.scanAnswered.1 = .plain) (result : UInt8)
    (body : Bytes) :
    ∃ ds, Offers result body ds ∧ (answer .scan result body s).2 =
      s.scanTaken.hears (ds.map (fun d ↦ some d.result) ++ [none]) := by
  obtain ⟨h, e, he⟩ | ⟨r, rfl, hr⟩ := answer_scan_cases result body s
  · refine ⟨[], .failed h, ?_⟩
    rw [he, hv]
    rfl
  · obtain ⟨ds, tail, hp⟩ := r.exists_readsPrefix
    refine ⟨ds, .report rfl hr hp, ?_⟩
    rw [answer_scan_of_ok hr, hv, picking_eq_scanTaken]
    simp only [reportNetworks_apply, hp.networks, List.map_map]
    rfl

theorem answer_scan_of_stale (hv : s.driver.connection.scanAnswered.1 = .stale) (result : UInt8)
    (body : Bytes) : (answer .scan result body s).2 = s.scanTaken := by
  obtain ⟨-, e, he⟩ | ⟨r, rfl, hr⟩ := answer_scan_cases result body s
  · rw [he, hv]
    rfl
  · rw [answer_scan_of_ok hr, hv, picking_eq_scanTaken]
    rfl

/-- The application hears of its own scans only, whatever the answer to a scan says. It hears every
description that can be read, in order, and then the end once, and nothing else has changed for the
station. Of an attempt's scan it hears nothing, and an answer that belongs to nobody any more is
counted and dropped. -/
theorem scan_results_bracketed {config : Config} {firmware : FirmwareSource} {device : σ}
    {ms : List (Step σ)} {f : Bytes} (h : Path (fresh config firmware device) ms s)
    (hf : Message.ofFrame f = .response .scan result body) :
    let t := (receive f s).2
    match s.driver.connection.scanAnswered.1 with
    | .plain => ∃ ds, Offers result body ds ∧
        t = s.scanTaken.hears (ds.map (fun d ↦ some d.result) ++ [none]) ∧
        t.driver.connection.status = s.driver.connection.status ∧
        t.driver.connection.target = s.driver.connection.target ∧
        t.driver.connection.retriesLeft = s.driver.connection.retriesLeft ∧
        t.driver.channel.staged = s.driver.channel.staged
    | .connect => ∃ l, t.link.past = l ++ s.link.past ∧ l.filterMap Action.scanResult? = []
    | .stale => t = s.scanTaken := by
  intro t
  have ht : t = (answer .scan result body s).2 := by rw [← receive_response hf]
  cases hv : s.driver.connection.scanAnswered.1 with
  | plain =>
    obtain ⟨ds, hd, ha⟩ := answer_scan_of_plain hv result body
    rw [← ht] at ha
    exact ⟨ds, hd, ha, by rw [ha]; rfl, by rw [ha]; rfl, by rw [ha]; rfl, by rw [ha]; rfl⟩
  | connect =>
    obtain ⟨l, hr, hl⟩ := receive_reacts (h.sound (fresh_sound _ _ _)) f
    rw [hf] at hr
    exact ⟨l, hl, hr.scanResults hv⟩
  | stale => exact ht.trans (answer_scan_of_stale hv result body)

end Session

open Session ScriptedChip
open ScanReport (Offers)

theorem scan_results_bracketed_one :
    let s := (run (booted [.scan [1] 100]) (start [])).2
    let f := response .scan 0 securedNetwork
    Message.ofFrame f = .response .scan 0 securedNetwork ∧
      s.driver.connection.scans = [.caller] ∧
      ∃ ds, Offers 0 securedNetwork ds ∧ ds.length = 1 ∧
        (receive f s).2 = s.scanTaken.hears (ds.map (fun d ↦ some d.result) ++ [none]) := by
  intro s f
  have hf : Message.ofFrame f = .response .scan 0 securedNetwork := by decide +kernel
  have hs : s.driver.connection.scans = [.caller] := by decide +kernel
  have hv : s.driver.connection.scanAnswered.1 = .plain := by
    rw [Connection.scanAnswered, hs]
  have hl : (receive f s).2.link.past.length = s.link.past.length + 2 := by decide +kernel
  have h := scan_results_bracketed (s := s) (steps_path (booted [.scan [1] 100]) (start [])) hf
  rw [hv] at h
  obtain ⟨ds, hd, ha, -⟩ := h
  refine ⟨hf, hs, ds, hd, ?_, ha⟩
  rw [ha] at hl
  simp only [hears, scanTaken, List.length_append, List.length_reverse, List.length_map,
    List.length_singleton] at hl
  omega

end SdioWlan
