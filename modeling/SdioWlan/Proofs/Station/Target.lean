import SdioWlan.Proofs.Station.Sound

namespace SdioWlan

namespace Connection

structure Named (c : Connection) : Prop where
  ssid_le : c.target.ssid.length ≤ Dot11.maxSsid
  passphrase_le : c.target.passphrase.length ≤ maxPassphrase
  ssid_ne : c.status = .connecting → c.target.ssid ≠ []

namespace Named

variable {c : Connection}

theorem new (limit : UInt8) : (Connection.new limit).Named :=
  ⟨Nat.zero_le _, Nat.zero_le _, fun h ↦ by cases h⟩

theorem scanAnswered (h : c.Named) : c.scanAnswered.2.Named := by
  refine ⟨?_, ?_, ?_⟩
  · rw [scanAnswered_target]
    exact h.ssid_le
  · rw [scanAnswered_target]
    exact h.passphrase_le
  · rw [scanAnswered_target, scanAnswered_status]
    exact h.ssid_ne

theorem scanSent (h : c.Named) : c.scanSent.Named := ⟨h.ssid_le, h.passphrase_le, h.ssid_ne⟩

theorem setPeer (h : c.Named) (bssid : Mac) (capability : UInt16) (security : Security) :
    (c.setPeer bssid capability security).Named := ⟨h.ssid_le, h.passphrase_le, h.ssid_ne⟩

theorem abort (h : c.Named) : c.abort.Named :=
  ⟨h.ssid_le, h.passphrase_le, fun hs ↦ by cases hs⟩

theorem attemptFailed (h : c.Named) : c.attemptFailed.2.Named := by
  unfold Connection.attemptFailed
  split
  · exact ⟨h.ssid_le, h.passphrase_le, h.ssid_ne⟩
  · exact ⟨h.ssid_le, h.passphrase_le, fun hs ↦ by cases hs⟩

theorem portReleased (h : c.Named) : c.portReleased.2.Named :=
  ⟨h.ssid_le, h.passphrase_le, fun hs ↦ by cases hs⟩

theorem deauthenticated (h : c.Named) : c.deauthenticated.2.Named :=
  ⟨h.ssid_le, h.passphrase_le, fun hs ↦ by cases hs⟩

theorem request {r : Connection} {ssid passphrase : Bytes}
    (h : c.request ssid passphrase = .ok r) : r.Named := by
  have hr := (status_of_request h).2
  unfold Connection.request at h
  split at h
  · cases h
  · rename_i hn
    subst hr
    refine ⟨Nat.le_of_not_lt fun hl ↦ hn (.inr (.inl hl)),
      Nat.le_of_not_lt fun hl ↦ hn (.inr (.inr hl)), fun _ he ↦ hn (.inl he)⟩

end Named

end Connection

namespace Station

variable {a b : Station} {o : Except DriverError Unit} {l : List Action} {why : ConnectFailure}

theorem Scans.named (h : a.Scans o l b) (ha : a.connection.Named) : b.connection.Named := by
  cases h with
  | unwritten | refused => exact ha
  | sent => exact ha.scanSent

theorem Fails.named (h : a.Fails why l b) (ha : a.connection.Named) : b.connection.Named := by
  cases h with
  | gaveUp => exact ha.attemptFailed
  | retried _ hs => exact hs.named ha.attemptFailed
  | stranded _ hs => exact (hs.named ha.attemptFailed).abort

theorem Joins.named {n : Bss} (h : a.Joins n o l b) (ha : a.connection.Named) :
    b.connection.Named := by
  cases h <;> exact ha.setPeer _ _ _

end Station

theorem Reaction.named {m : Message} {a b : Station} {l : List Action} (h : Reaction m a l b)
    (ha : a.connection.Named) : b.connection.Named := by
  cases h with
  | idle | unheeded | flushed => exact ha
  | scanned => exact ha.scanAnswered
  | scanFailed _ hf => exact hf.named ha.scanAnswered
  | joined _ _ hj => exact hj.named ha.scanAnswered
  | unjoined _ _ hj hf => exact hf.named (hj.named ha.scanAnswered)
  | rejected _ _ hf | unflushed _ _ _ hf => exact hf.named ha
  | shutDown => exact .new _
  | deauthenticated => exact ha.deauthenticated
  | released => exact ha.portReleased

theorem Deed.named {ready : Bool} {c : Call} {o : Except DriverError Unit} {a b : Station}
    {l : List Action} (h : Deed ready c o a l b) (ha : a.connection.Named) :
    b.connection.Named := by
  cases h with
  | idle | refused => exact ha
  | scanned _ _ hs => exact hs.named ha
  | connected _ hr hs => exact hs.named (.request hr)
  | aborted _ hr hs => exact (hs.named (.request hr)).abort

variable {σ : Type}

theorem Step.Effect.named {m : Step σ} (h : m.Effect) (ha : m.before.driver.connection.Named) :
    m.after.driver.connection.Named := by
  cases h with
  | bus _ hs | powered _ hs =>
    have hc : m.after.driver.connection = m.before.driver.connection :=
      congrArg Station.connection hs
    rwa [hc]
  | call _ hd => exact hd.named ha
  | frame _ hr => exact hr.named ha

theorem Path.named [Platform σ] {s t : Session σ} {ms : List (Step σ)} (h : Path s ms t)
    (hs : s.driver.station.Sound) (hn : s.driver.connection.Named) :
    t.driver.connection.Named := by
  refine (h.invariant (P := fun s ↦ s.driver.station.Sound ∧ s.driver.connection.Named)
    (fun m hg ha ↦ ?_) ⟨hs, hn⟩).2
  have he := hg.effect ha.1
  exact ⟨he.1.sound ha.1, he.1.named ha.2⟩

end SdioWlan
