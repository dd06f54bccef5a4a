import SdioWlan.Proofs.Path
import SdioWlan.Proofs.Routine
import SdioWlan.Proofs.Traffic.Basic

namespace SdioWlan

open DataFrame (Received)

structure Action.Idle (a : Action) : Prop where
  undelivered : a.delivered? = none
  unsent : a.dataSent? = none

theorem Command.written_idle (c : Command) (base : UInt32) (o : Except Errno Unit) :
    (c.written base o).Idle := by
  refine ⟨rfl, ?_⟩
  have hk : c.frame[2]? ≠ some FrameKind.data.code := by
    have hc : c.frame[2]? = some FrameKind.command.code := rfl
    rw [hc]
    decide
  cases o with
  | error e => rfl
  | ok u => simp only [Command.written, Action.dataSent?, hk, if_false]

def Driver.counters (d : Driver) : DeviceStats × DeviceStats := (d.sta.stats, d.uap.stats)

theorem Driver.stats_of_counters {d e : Driver} (h : e.counters = d.counters) (role : Role) :
    (e.device role).stats = (d.device role).stats := by
  obtain ⟨hs, hu⟩ := Prod.mk.inj h
  cases role with
  | sta => exact hs
  | uap => exact hu

/-- To count at one device is to add to its counters and to no others. -/
theorem Driver.stats_updateDevice {d : Driver} {f : NetDevice → NetDevice} {role : Role}
    {x : DeviceStats} {w : Traffic} (hf : ∀ n : NetDevice, (f n).stats = n.stats + x)
    (hw : ∀ r, w.stats r = if r = role then x else {}) (r : Role) :
    ((d.updateDevice f role).device r).stats = (d.device r).stats + w.stats r := by
  rw [hw]
  by_cases h : r = role
  · subst h
    rw [if_pos rfl]
    cases r with
    | sta => exact hf d.sta
    | uap => exact hf d.uap
  · rw [if_neg h, DeviceStats.add_empty]
    cases role <;> cases r <;> first
      | rfl
      | exact absurd rfl h

namespace Session

variable {σ : Type} {s t u : Session σ}

abbrev Still : Session σ → Session σ → Prop := Footprint Driver.counters Action.Idle

def Records (s t : Session σ) (delivered written : List Received) : Prop :=
  ∃ k, t.link.past = k ++ s.link.past ∧ k.reverse.filterMap Action.delivered? = delivered ∧
    k.reverse.filterMap Action.dataSent? = written

theorem records_of_logs (h : Logs Action.Idle s.link t.link) : s.Records t [] [] := by
  obtain ⟨k, hk, hi⟩ := h
  refine ⟨k, hk, ?_, ?_⟩
  · exact List.filterMap_eq_nil_iff.mpr fun a ha ↦ (hi a (List.mem_reverse.mp ha)).undelivered
  · exact List.filterMap_eq_nil_iff.mpr fun a ha ↦ (hi a (List.mem_reverse.mp ha)).unsent

theorem Records.append {d d' w w' : List Received} (h : s.Records t d w)
    (h' : t.Records u d' w') : s.Records u (d ++ d') (w ++ w') := by
  obtain ⟨j, hj, rfl, rfl⟩ := h
  obtain ⟨k, hk, rfl, rfl⟩ := h'
  refine ⟨k ++ j, ?_, ?_, ?_⟩
  · rw [hk, hj, List.append_assoc]
  · rw [List.reverse_append, List.filterMap_append]
  · rw [List.reverse_append, List.filterMap_append]

/-- Work through which certain data goes, by what is done and by the counters. -/
structure Conducts (s t : Session σ) (w : Traffic) : Prop where
  records : s.Records t w.delivered w.written
  stats : ∀ role, (t.driver.device role).stats = (s.driver.device role).stats + w.stats role

theorem Still.conducts (h : s.Still t) : s.Conducts t {} where
  records := records_of_logs h.logged
  stats role := by
    rw [Driver.stats_of_counters h.kept, Traffic.stats_empty, DeviceStats.add_empty]

theorem Conducts.append {v w : Traffic} (h : s.Conducts t v) (h' : t.Conducts u w) :
    s.Conducts u (v ++ w) where
  records := h.records.append h'.records
  stats role := by
    rw [h'.stats, h.stats, DeviceStats.add_assoc, Traffic.stats_append]

section Sending

variable [Platform σ]

theorem transmit_records (payload : Bytes) (role : Role) (s : Session σ) :
    (transmit payload role s).2.driver.counters = s.driver.counters ∧
      s.Records (transmit payload role s).2 []
        (Sending.sent? ⟨role, payload, true, (transmit payload role s).1⟩).toList := by
  simp only [transmit, bind_apply, liftM_apply, view_apply]
  cases hb : DataFrame.build payload role with
  | error e => exact ⟨rfl, records_of_logs (refl_of (Logs Action.Idle) s.link)⟩
  | ok packet =>
    have hl := PortAllocator.acquire_logs (P := Action.Idle) (fun _ _ ↦ ⟨rfl, rfl⟩)
      s.driver.config.writePortBudget (s.driver.ports, s.link)
    simp only [onPorts]
    generalize PortAllocator.acquire s.driver.config.writePortBudget (s.driver.ports, s.link) = r
      at hl
    obtain ⟨e | port, ports, link⟩ := r
    · exact ⟨rfl, records_of_logs hl⟩
    · dsimp only at hl ⊢
      rw [onLink_writeBlock]
      dsimp only
      have hr : s.Records ⟨{ s.driver with ports }, link⟩ [] [] := records_of_logs hl
      generalize Platform.writeBlock (portAddress s.driver.base port) Addressing.fifo packet.data
        link.device = r
      obtain ⟨o, device⟩ := r
      refine ⟨rfl, hr.append ⟨[_], rfl, rfl, ?_⟩⟩
      cases o with
      | error e => rfl
      | ok u =>
        simp only [List.reverse_singleton, List.filterMap_cons, Action.dataSent?,
          DataFrame.kind_build hb, if_true, DataFrame.parse_build hb, Except.toOption]
        rfl

theorem sending_of_not_ready (h : s.driver.boot.isReady = false) (payload : Bytes) (role : Role) :
    s.sending payload role = ⟨role, payload, false, .error .invalidState⟩ := by
  rw [sending, h, sendData_of_not_ready h]

theorem sending_of_ready (h : s.driver.boot.isReady = true) (payload : Bytes) (role : Role) :
    s.sending payload role = ⟨role, payload, true, (transmit payload role s).1⟩ := by
  rw [sending, h, sendData_of_ready h]
  rcases transmit payload role s with ⟨e | u, t⟩ <;> rfl

/-- Who sends data has the bus take it or not, and one counter tells which. -/
theorem sendData_conducts (payload : Bytes) (role : Role) (s : Session σ) :
    s.Conducts (sendData payload role s).2
      { written := (s.sending payload role).sent?.toList
        sendings := [s.sending payload role] } := by
  cases hr : s.driver.boot.isReady with
  | false =>
    rw [sending_of_not_ready hr, sendData_of_not_ready hr]
    refine ⟨records_of_logs (refl_of (Logs Action.Idle) s.link), fun r ↦ ?_⟩
    refine (DeviceStats.add_empty _).symm.trans (congrArg _ ?_)
    cases role <;> cases r <;> rfl
  | true =>
    obtain ⟨hc, hrec⟩ := transmit_records payload role s
    rw [sending_of_ready hr, sendData_of_ready hr]
    generalize transmit payload role s = r at hc hrec ⊢
    obtain ⟨e | u, t⟩ := r
    · refine ⟨hrec, fun r ↦ ?_⟩
      rw [← Driver.stats_of_counters hc]
      refine Driver.stats_updateDevice NetDevice.stats_countTxError ?_ r
      intro r
      cases role <;> cases r <;> rfl
    · refine ⟨hrec, fun r ↦ ?_⟩
      rw [← Driver.stats_of_counters hc]
      refine Driver.stats_updateDevice (fun n ↦ n.stats_countTx payload.length) ?_ r
      intro r
      cases role <;> cases r <;> rfl

theorem forward_eq (payload : Bytes) (s : Session σ) :
    forward payload s = (.ok (), relayed payload s) := by
  simp only [forward, relayed, tryCatch_apply, bind_apply]
  rcases sendData payload .uap s with ⟨e | u, t⟩ <;> rfl

theorem relayed_conducts (payload : Bytes) (s : Session σ) :
    s.Conducts (relayed payload s)
      { written := (s.sending payload .uap).sent?.toList
        sendings := [s.sending payload .uap]
        forwards := [s.sending payload .uap] } := by
  have hs := sendData_conducts payload .uap s
  have hc : (sendData payload .uap s).2.Conducts (relayed payload s)
      { forwards := [s.sending payload .uap] } := by
    refine ⟨records_of_logs (refl_of (Logs Action.Idle) _), ?_⟩
    simp only [relayed, sending]
    cases (sendData payload .uap s).1 with
    | error e =>
      refine Driver.stats_updateDevice NetDevice.stats_countTxDropped ?_
      intro r
      cases r <;> rfl
    | ok u =>
      refine Driver.stats_updateDevice NetDevice.stats_countForwarded ?_
      intro r
      cases r <;> rfl
  have h := hs.append hc
  simpa only [Traffic.append_def, List.append_nil, List.nil_append, Nat.add_zero] using h

end Sending

theorem delivered_conducts (r : Received) (s : Session σ) :
    s.Conducts (delivered r s) { delivered := [r] } where
  records := ⟨[_], rfl, rfl, rfl⟩
  stats := by
    refine Driver.stats_updateDevice (fun n ↦ n.stats_countRx r.payload.length) ?_
    intro other
    obtain ⟨role, payload⟩ := r
    cases role <;> cases other <;> rfl

theorem dropped_conducts (s : Session σ) : s.Conducts (dropped s) { unreadable := 1 } where
  records := records_of_logs (refl_of (Logs Action.Idle) s.link)
  stats := by
    refine Driver.stats_updateDevice NetDevice.stats_countRxDropped ?_
    intro other
    cases other <;> rfl

variable [Platform σ]

theorem onData_of_error {f : Bytes} {e : DriverError} (h : DataFrame.parse f = .error e)
    (s : Session σ) : onData f s = (.ok (), dropped s) := by
  simp only [onData, h]
  rfl

theorem onData_of_ok {f : Bytes} {r : Received} (h : DataFrame.parse f = .ok r) (s : Session σ) :
    onData f s = (.ok (), routed r s) := by
  obtain ⟨hd, hf⟩ := r.route_iff s.driver.mac
  have hdeliver (t : Session σ) : (if (r.route s.driver.mac).delivers then do
      count (NetDevice.countRx · r.payload.length) r.role
      stack (.deliver r.payload r.role) else pure () : Act σ Unit) t =
        (.ok (), if r.Delivers s.driver.mac then delivered r t else t) := by
    by_cases h : r.Delivers s.driver.mac
    · rw [if_pos h, if_pos (hd.mpr h)]
      rfl
    · rw [if_neg h, if_neg (mt hd.mp h)]
      rfl
  simp only [onData, h, bind_apply, view_apply, routed]
  by_cases h : r.Forwards s.driver.mac
  · rw [if_pos h, if_pos (hf.mpr h), bind_apply, forward_eq]
    exact hdeliver _
  · rw [if_neg h, if_neg (mt hf.mp h)]
    exact hdeliver _

theorem routed_conducts (r : Received) (s : Session σ) :
    let passed := if r.Forwards s.driver.mac then some (s.sending r.payload .uap) else none
    s.Conducts (routed r s)
      { delivered := if r.Delivers s.driver.mac then [r] else []
        written := (passed.bind Sending.sent?).toList
        sendings := passed.toList
        forwards := passed.toList } := by
  intro passed
  let t := if r.Forwards s.driver.mac then relayed r.payload s else s
  have hf : s.Conducts t
      ⟨[], (passed.bind Sending.sent?).toList, passed.toList, passed.toList, 0⟩ := by
    by_cases h : r.Forwards s.driver.mac
    · simp only [passed, t, if_pos h]
      exact relayed_conducts r.payload s
    · simp only [passed, t, if_neg h]
      exact Still.conducts (refl_of Still s)
  by_cases h : r.Delivers s.driver.mac
  · have hd := hf.append (delivered_conducts r t)
    simp only [Traffic.append_def, List.append_nil, List.nil_append, Nat.add_zero] at hd
    simp only [routed, if_pos h]
    exact hd
  · simp only [routed, if_neg h]
    exact hf

theorem still_confined : Confined .clients (Still (σ := σ)) := by
  have hn : ¬ Scope.counters ≤ .clients := by decide
  refine footprint_confined (fun d ↦ rfl) (fun r _ ↦ ⟨rfl, rfl⟩) ?_ Command.written_idle
  intro c hc
  cases c with
  | deliver => exact absurd hc hn
  | _ => exact ⟨rfl, rfl⟩

end Session

open Session

namespace Step

variable {σ : Type} {m : Step σ}

theorem received?_of_frame {f : Bytes} (ht : m.trigger = .frame f)
    (hd : f[2]? = some FrameKind.data.code) : m.received? = some (DataFrame.parse f) := by
  rw [received?, ht]
  exact if_pos hd

theorem frame_of_received? {x : Except DriverError Received} (h : m.received? = some x) :
    ∃ f, m.trigger = .frame f ∧ f[2]? = some FrameKind.data.code ∧ DataFrame.parse f = x := by
  unfold received? at h
  split at h
  · rename_i f ht
    split at h
    · rename_i hd
      exact ⟨f, ht, hd, Option.some.inj h⟩
    · cases h
  all_goals cases h

variable [Platform σ]

/-- Everything but data frames and calls to send data. -/
theorem Genuine.still (hg : m.Genuine) (hb : m.trigger ≠ .bus)
    (hs : ∀ payload role, m.trigger ≠ .call (.sendData payload role))
    (hr : m.received? = none) : m.before.Still m.after := by
  refine hg.across (fun ht ↦ absurd ht hb) ?_ ?_ ?_
  · intro base
    exact afterPowerUp_confined (still_confined.mono (Scope.station_le _))
      (fun base ↦ Footprint.update fun d ↦ rfl) base
  · intro c ht hi hv
    rw [ht] at hs
    have hd (payload : Bytes) (role : Role) : c ≠ .sendData payload role := by
      rintro rfl
      exact hs payload role rfl
    refine perform_confined still_confined ?_ hi hv hd
    cases c with
    | sendData payload role => exact absurd rfl (hs payload role)
    | leased => exact le_rfl
    | _ => exact Scope.station_le _
  · intro f ht
    refine receive_confined still_confined ?_ ?_
    · exact Message.scope_le_clients
    · intro hd
      rw [received?_of_frame ht hd] at hr
      cases hr

theorem due_of_none (hs : m.sending? = none) (hr : m.received? = none) : m.due = {} := by
  simp only [due, arriving?, forwarding?, unreadable, hs, hr]
  rfl

theorem Genuine.onData_of_received? (hg : m.Genuine) {x : Except DriverError Received}
    (h : m.received? = some x) :
    ∃ f, DataFrame.parse f = x ∧ onData f m.before = (m.outcome, m.after) := by
  obtain ⟨f, ht, hd, hp⟩ := frame_of_received? h
  unfold Genuine at hg
  simp only [ht, receive_data hd] at hg
  exact ⟨f, hp, hg⟩

theorem Genuine.dropped (hg : m.Genuine) {e : DriverError} (h : m.received? = some (.error e)) :
    m.outcome = .ok () ∧ m.after = m.before.dropped := by
  obtain ⟨f, hp, hr⟩ := hg.onData_of_received? h
  rw [onData_of_error hp] at hr
  obtain ⟨ho, ha⟩ := Prod.mk.inj hr
  exact ⟨ho.symm, ha.symm⟩

theorem Genuine.routed (hg : m.Genuine) {r : Received} (h : m.received? = some (.ok r)) :
    m.outcome = .ok () ∧ m.after = m.before.routed r := by
  obtain ⟨f, hp, hr⟩ := hg.onData_of_received? h
  rw [onData_of_ok hp] at hr
  obtain ⟨ho, ha⟩ := Prod.mk.inj hr
  exact ⟨ho.symm, ha.symm⟩

theorem Genuine.received?_eq_none (hg : m.Genuine) {e : DriverError} (h : m.outcome = .error e) :
    m.received? = none := by
  cases hr : m.received? with
  | none => rfl
  | some x =>
    have ho : m.outcome = .ok () := by
      cases x with
      | error e => exact (hg.dropped hr).1
      | ok r => exact (hg.routed hr).1
    rw [ho] at h
    cases h

theorem sending?_of_received? {x : Except DriverError Received} (h : m.received? = some x) :
    m.sending? = m.forwarding? := by
  obtain ⟨f, ht, -⟩ := frame_of_received? h
  rw [sending?, ht]

/-- Every step but the work with the bus conducts what is due. -/
theorem Genuine.conducts (hg : m.Genuine) (hb : m.trigger ≠ .bus) :
    m.before.Conducts m.after m.due := by
  cases hr : m.received? with
  | some x =>
    have hs := sending?_of_received? hr
    cases x with
    | error e =>
      have hw : m.due = { unreadable := 1 } := by
        simp only [due, hs, arriving?, forwarding?, unreadable, hr]
        rfl
      rw [hw, (hg.dropped hr).2]
      exact dropped_conducts m.before
    | ok r =>
      have hc := routed_conducts r m.before
      rw [← (hg.routed hr).2] at hc
      have hw : m.arriving?.toList = if r.Delivers m.before.driver.mac then [r] else [] := by
        simp only [arriving?, hr]
        split <;> rfl
      simp only [due, hs, hw, forwarding?, unreadable, hr]
      exact hc
  | none =>
    by_cases hs : ∃ payload role, m.trigger = .call (.sendData payload role)
    · obtain ⟨payload, role, ht⟩ := hs
      obtain ⟨-, -, hp⟩ := hg.perform_of_call ht
      have hc := sendData_conducts payload role m.before
      have hp : sendData payload role m.before = (m.outcome, m.after) := hp
      rw [hp] at hc
      simp only [due, sending?, ht, arriving?, forwarding?, unreadable, hr]
      exact hc
    · have hs (payload : Bytes) (role : Role) : m.trigger ≠ .call (.sendData payload role) :=
        fun ht ↦ hs ⟨payload, role, ht⟩
      have hn : m.sending? = none := by
        unfold sending?
        split
        · rename_i payload role ht
          exact absurd ht (hs payload role)
        · simp only [forwarding?, hr]
      rw [due_of_none hn hr]
      exact (hg.still hb hs hr).conducts

/-- What is done and counted in a step is what is due. -/
theorem Genuine.settles (hg : m.Genuine) :
    m.delivered = m.due.delivered ∧ m.written = m.due.written ∧
      ∀ role, (m.after.driver.device role).stats =
        (m.before.driver.device role).stats + m.due.stats role := by
  by_cases hb : m.trigger = .bus
  · -- Firmware can look like a data frame, so what is written here must not count.
    have hr : m.received? = none := by rw [received?, hb]
    have hn : m.sending? = none := by simp only [sending?, hb, forwarding?, hr]
    unfold Genuine at hg
    rw [hb] at hg
    obtain ⟨hk, l, hl, ha⟩ := hg
    rw [due_of_none hn hr]
    refine ⟨?_, if_pos hb, fun role ↦ ?_⟩
    · rw [delivered, actions_eq hl]
      refine List.filterMap_eq_nil_iff.mpr fun a hm ↦ ?_
      obtain ⟨x, rfl⟩ := ha a (List.mem_reverse.mp hm)
      rfl
    · have hc : m.after.driver.counters = m.before.driver.counters := by
        have he := congrArg Driver.counters hk
        exact he
      rw [Driver.stats_of_counters hc, Traffic.stats_empty, DeviceStats.add_empty]
  · obtain ⟨⟨k, hk, hd, hw⟩, hs⟩ := hg.conducts hb
    refine ⟨?_, ?_, hs⟩
    · rw [delivered, actions_eq hk, hd]
    · rw [written, if_neg hb, actions_eq hk, hw]

theorem Genuine.conveys (hg : m.Genuine) : m.Conveys where
  dropped _ h := hg.dropped h
  routed _ h := hg.routed h
  called _ _ ht := (hg.perform_of_call ht).2.2
  delivered := hg.settles.1
  written := hg.settles.2.1

theorem Genuine.traffic_eq (hg : m.Genuine) : traffic [m] = m.due := by
  obtain ⟨hd, hw, -⟩ := hg.settles
  have hf (f : Step σ → Option Sending) : [m].filterMap f = (f m).toList := by
    rw [List.filterMap_cons, List.filterMap_nil]
    cases f m <;> rfl
  simp only [traffic, List.flatMap_singleton, hd, hw, hf, List.countP_singleton]
  rfl

end Step

namespace Session

variable {σ : Type} [Platform σ] {config : Config} {firmware : FirmwareSource} {device : σ}

theorem stats_of_path {ms : List (Step σ)} {s : Session σ}
    (h : Path (fresh config firmware device) ms s) (role : Role) :
    (s.driver.device role).stats = (traffic ms).stats role := by
  refine h.rec_snoc
    (P := fun ms s ↦ (s.driver.device role).stats = (traffic ms).stats role) ?_ ?_
  · have hn : (traffic ([] : List (Step σ))).stats role = {} := Traffic.stats_empty role
    rw [hn]
    cases role <;> rfl
  · intro ms m _ hg ih
    rw [hg.settles.2.2, ih, traffic_append, Traffic.stats_append, hg.traffic_eq]

/-- In every run, each frame with data takes its route, and nothing else gives the stack a frame or
has the bus take one. Work on the frames that wait may fail, but never for a frame with data. And
between any two steps and at the end the counters of both devices show what has gone through the
driver, but for the times that they were full. -/
theorem traffic_counted (config : Config) (firmware : FirmwareSource) (device : σ)
    (calls : List Call) :
    let ms := steps calls (fresh config firmware device)
    (∀ m ∈ ms, m.Conveys) ∧
      (∀ (s : Session σ) e, (perform .serviceInterrupt s).1 = .error e →
        ∃ m ∈ callSteps .serviceInterrupt s, m.outcome = .error e ∧ m.received? = none) ∧
      (∀ pre m post, ms = pre ++ m :: post → ∀ role,
        (m.before.driver.device role).stats = (traffic pre).stats role) ∧
      ∀ role, ((run calls (fresh config firmware device)).2.driver.device role).stats =
        (traffic ms).stats role := by
  intro ms
  have hpath : Path (fresh config firmware device) ms _ := steps_path calls _
  refine ⟨fun m hm ↦ (hpath.genuine hm).conveys, ?_, ?_, stats_of_path hpath⟩
  · intro s e h
    obtain ⟨m, hm, ho⟩ := exists_step_of_error h
    exact ⟨m, hm, ho, ((callSteps_path _ s).genuine hm).received?_eq_none ho⟩
  · intro pre m post hs role
    rw [hs] at hpath
    obtain ⟨hp, -, -⟩ := hpath.around
    exact stats_of_path hp role

end Session

end SdioWlan
