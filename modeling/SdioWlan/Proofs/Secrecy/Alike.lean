import Mathlib.Data.List.Forall2
import SdioWlan.Proofs.CommandFrame
import SdioWlan.Proofs.Secrecy.Parallel
import SdioWlan.Startup

namespace SdioWlan

variable {σ α : Type}

def Command.IsKey (c : Command) : Prop := c.id = .supplicantPmk

/-- The same action, or two keys written to the same place with the same outcome. -/
inductive Action.Alike : Action → Action → Prop
  | same (a : Action) : Alike a a
  | key {c c' : Command} (h : c.IsKey) (h' : c'.IsKey) (base : UInt32) (o : Except Errno Unit) :
      Alike (c.written base o) (c'.written base o)

def Same (R : σ → σ → Prop) (x y : α × σ) : Prop := x.1 = y.1 ∧ R x.2 y.2

/-- In states that `R` relates, the platform answers to the same access in the same way, and to two
keys that are written to the same place as if they were the same. -/
structure Platform.Oblivious [Platform σ] (R : σ → σ → Prop) : Prop where
  readByte {d e : σ} (h : R d e) (addr : UInt32) :
    Same R (Platform.readByte addr d) (Platform.readByte addr e)
  writeByte {d e : σ} (h : R d e) (addr : UInt32) (value : UInt8) :
    Same R (Platform.writeByte addr value d) (Platform.writeByte addr value e)
  readBlock {d e : σ} (h : R d e) (addr : UInt32) (mode : Addressing) (size : Nat) :
    Same R (Platform.readBlock addr mode size d) (Platform.readBlock addr mode size e)
  writeBlock {d e : σ} (h : R d e) (addr : UInt32) (mode : Addressing) (block : Bytes) :
    Same R (Platform.writeBlock addr mode block d) (Platform.writeBlock addr mode block e)
  writeKey {d e : σ} (h : R d e) (addr : UInt32) (mode : Addressing) {c c' : Command}
    (hc : c.IsKey) (hc' : c'.IsKey) :
    Same R (Platform.writeBlock addr mode c.frame d) (Platform.writeBlock addr mode c'.frame e)
  reset {d e : σ} (h : R d e) : Option.Rel (Same R) (Platform.reset d) (Platform.reset e)
  eraseLease {d e : σ} (h : R d e) (mac : Mac) :
    Same R (Platform.eraseLease mac d) (Platform.eraseLease mac e)

structure Link.Alike (R : σ → σ → Prop) (l m : Link σ) : Prop where
  device : R l.device m.device
  past : List.Forall₂ Action.Alike l.past m.past

theorem Link.Alike.cons {R : σ → σ → Prop} {l m : Link σ} (h : l.Alike R m) {x y : α × σ}
    (hs : Same R x y) (a : α → Action) :
    Link.Alike R ⟨x.2, a x.1 :: l.past⟩ ⟨y.2, a y.1 :: m.past⟩ := by
  refine ⟨hs.2, .cons ?_ h.past⟩
  rw [hs.1]
  exact .same _

namespace Link

theorem perform_parallel {R : σ → σ → Prop} {op : σ → Except Errno α × σ}
    {entry : Except Errno α → Access} (h : ∀ {d e}, R d e → Same R (op d) (op e)) :
    Parallel (Alike R) (perform op entry) (perform op entry) :=
  fun _ _ hl ↦ ⟨(h hl.device).1, hl.cons (h hl.device) fun o ↦ .access (entry o)⟩

variable [Platform σ] {R : σ → σ → Prop} (hp : Platform.Oblivious R)
include hp

theorem readByte_parallel (addr : UInt32) :
    Parallel (Alike R) (readByte addr : Transfer σ UInt8) (readByte addr) :=
  perform_parallel fun h ↦ hp.readByte h addr

theorem writeByte_parallel (addr : UInt32) (value : UInt8) :
    Parallel (Alike R) (writeByte addr value : Transfer σ Unit) (writeByte addr value) :=
  perform_parallel fun h ↦ hp.writeByte h addr value

theorem readBlock_parallel (addr : UInt32) (mode : Addressing) (size : Nat) :
    Parallel (Alike R) (readBlock addr mode size : Transfer σ Bytes)
      (readBlock addr mode size) := by
  refine perform_parallel fun h ↦ ?_
  obtain ⟨ho, hr⟩ := hp.readBlock h addr mode size
  exact ⟨congrArg (Except.map _) ho, hr⟩

theorem writeBlock_parallel (addr : UInt32) (mode : Addressing) (block : Bytes) :
    Parallel (Alike R) (writeBlock addr mode block : Transfer σ Unit)
      (writeBlock addr mode block) :=
  perform_parallel fun h ↦ hp.writeBlock h addr mode block

theorem reset_parallel : Parallel (Alike R) (reset : Transfer σ Unit) reset := by
  intro l m h
  have hr := hp.reset h.device
  unfold reset
  generalize Platform.reset l.device = x at hr
  generalize Platform.reset m.device = y at hr
  cases hr with
  | none => exact ⟨rfl, h⟩
  | some hs => exact ⟨hs.1, h.cons hs fun o ↦ .access (.reset o)⟩

theorem read16_parallel (lo hi : UInt32) :
    Parallel (Alike R) (read16 lo hi : Transfer σ UInt16) (read16 lo hi) :=
  (readByte_parallel hp lo).bind fun _ ↦ (readByte_parallel hp hi).bind fun _ ↦ .pure _

end Link

section Bus

variable [Platform σ] {R : σ → σ → Prop} (hp : Platform.Oblivious R)
include hp

open Link (Alike)

theorem Snapshot.read_parallel :
    Parallel (Alike R) (read : Link.Transfer σ Snapshot) read :=
  (Link.readBlock_parallel hp _ _ _).bind fun _ ↦ .pure _

theorem readControlPort_parallel :
    Parallel (Alike R) (readControlPort : Link.Transfer σ UInt32) readControlPort :=
  (Link.readByte_parallel hp _).bind fun _ ↦ (Link.readByte_parallel hp _).bind fun _ ↦
    (Link.readByte_parallel hp _).bind fun _ ↦ .pure _

namespace Firmware

theorem nextLength?_parallel (first : Bool) :
    Parallel (Alike R) (nextLength? first : Link.Work σ (Option ChunkLength))
      (nextLength? first) := by
  have hr : Parallel (Alike R) (requested? : Link.Work σ (Option ChunkLength)) requested? :=
    (Link.read16_parallel hp _ _).adapt.bind fun _ ↦ .pure _
  cases first with
  | true => exact hr
  | false =>
    refine .bind ((Link.readByte_parallel hp _).adapt.bind fun _ ↦ .pure _) fun ready ↦ ?_
    exact .ite (fun _ ↦ hr) fun _ ↦ .pure _

theorem sendChunks_parallel (base : UInt32) (b : Budget) (first : Bool) (image : Bytes) :
    Parallel (Alike R) (sendChunks base b first image : Link.Work σ Unit)
      (sendChunks base b first image) := by
  induction first, image using sendChunks.induct with
  | case1 first => rw [sendChunks]; exact .pure _
  | case2 first image h ih =>
    rw [sendChunks, dif_neg h]
    refine .bind (.poll (nextLength?_parallel hp first) _) fun n ↦ ?_
    refine .ite (fun _ ↦ .throw _) fun _ ↦ ?_
    exact (Link.writeBlock_parallel hp _ _ _).adapt.bind fun _ ↦ ih n

theorem download_parallel (base : UInt32) (image : Bytes) (b : FirmwareBudgets) :
    Parallel (Alike R) (download base image b : Link.Work σ Unit) (download base image b) := by
  refine .ite (fun _ ↦ .throw _) fun _ ↦ (sendChunks_parallel hp _ _ _ _).bind fun _ ↦ .poll ?_ _
  exact (Link.read16_parallel hp _ _).adapt.bind fun _ ↦ .pure _

theorem powerOn_parallel (image : Bytes) (b : FirmwareBudgets) :
    Parallel (Alike R) (powerOn image b : Link.Work σ UInt32) (powerOn image b) := by
  refine (Link.reset_parallel hp).adapt.bind fun _ ↦ ?_
  refine (readControlPort_parallel hp).adapt.bind fun base ↦ ?_
  refine (download_parallel hp base image b).bind fun _ ↦ ?_
  exact (Link.writeByte_parallel hp _ _).adapt.bind fun _ ↦ .pure _

end Firmware

namespace PortAllocator

theorem acquire_parallel (b : Budget) :
    Parallel (fun s t ↦ s.1 = t.1 ∧ Alike R s.2 t.2) (acquire (σ := σ) b) (acquire b) := by
  refine .poll (fun ⟨a, l⟩ ⟨a', m⟩ ⟨ha, hl⟩ ↦ ?_) _
  obtain rfl : a = a' := ha
  obtain ⟨ho, hr⟩ := Link.read16_parallel hp Register.writableLow Register.writableHigh l m hl
  unfold tryAcquire
  dsimp only
  rcases hx : Link.read16 Register.writableLow Register.writableHigh l with ⟨o, l'⟩
  rcases hy : Link.read16 Register.writableLow Register.writableHigh m with ⟨o', m'⟩
  rw [hx, hy] at ho hr
  obtain rfl : o = o' := ho
  cases o with
  | error e => exact ⟨rfl, rfl, hr⟩
  | ok w =>
    dsimp only
    split <;> exact ⟨rfl, rfl, hr⟩

end PortAllocator

end Bus

namespace Connection

structure Target.Short (t : Target) : Prop where
  ssid_le : t.ssid.length ≤ Dot11.maxSsid
  passphrase_le : t.passphrase.length ≤ maxPassphrase

theorem Target.Short.default : ({} : Target).Short := ⟨Nat.zero_le _, Nat.zero_le _⟩

def redacted (c : Connection) : Connection :=
  { c with target := { c.target with passphrase := [] } }

structure Alike (c c' : Connection) : Prop where
  redacted : c.redacted = c'.redacted
  short : c.target.Short
  short' : c'.target.Short

variable {c c' : Connection}

theorem redacted_scanAnswered (c : Connection) :
    c.redacted.scanAnswered = (c.scanAnswered.1, c.scanAnswered.2.redacted) := by
  rcases c with ⟨status, target, limit, left, _ | ⟨scan, rest⟩⟩ <;> rfl

theorem redacted_attemptFailed (c : Connection) :
    c.redacted.attemptFailed = (c.attemptFailed.1, c.attemptFailed.2.redacted) := by
  unfold attemptFailed redacted
  dsimp only
  split <;> rfl

theorem target_scanAnswered (c : Connection) : c.scanAnswered.2.target = c.target := by
  unfold scanAnswered
  split <;> rfl

theorem target_attemptFailed (c : Connection) : c.attemptFailed.2.target = c.target := by
  unfold attemptFailed
  split <;> rfl

namespace Alike

/-- A change that neither looks at the target nor touches it. -/
theorem map (h : c.Alike c') {f : Connection → Connection}
    (hf : ∀ c, (f c).redacted = f c.redacted) (ht : ∀ c, (f c).target = c.target) :
    (f c).Alike (f c') :=
  ⟨by rw [hf, hf, h.redacted], ht c ▸ h.short, ht c' ▸ h.short'⟩

theorem target (h : c.Alike c') :
    c.target.ssid = c'.target.ssid ∧ c.target.security = c'.target.security ∧
      c.target.bssid = c'.target.bssid ∧ c.target.capability = c'.target.capability := by
  have ht := congrArg Connection.target h.redacted
  exact ⟨(congrArg Target.ssid ht :), (congrArg Target.security ht :), (congrArg Target.bssid ht :),
    (congrArg Target.capability ht :)⟩

theorem scanAnswered (h : c.Alike c') :
    c.scanAnswered.1 = c'.scanAnswered.1 ∧ c.scanAnswered.2.Alike c'.scanAnswered.2 := by
  have hr := congrArg Connection.scanAnswered h.redacted
  rw [redacted_scanAnswered, redacted_scanAnswered, Prod.mk.injEq] at hr
  refine ⟨hr.1, hr.2, ?_, ?_⟩
  · rw [target_scanAnswered]
    exact h.short
  · rw [target_scanAnswered]
    exact h.short'

theorem attemptFailed (h : c.Alike c') :
    c.attemptFailed.1 = c'.attemptFailed.1 ∧ c.attemptFailed.2.Alike c'.attemptFailed.2 := by
  have hr := congrArg Connection.attemptFailed h.redacted
  rw [redacted_attemptFailed, redacted_attemptFailed, Prod.mk.injEq] at hr
  refine ⟨hr.1, hr.2, ?_, ?_⟩
  · rw [target_attemptFailed]
    exact h.short
  · rw [target_attemptFailed]
    exact h.short'

theorem abort (h : c.Alike c') : c.abort.Alike c'.abort := h.map (fun _ ↦ rfl) fun _ ↦ rfl

theorem setPeer (h : c.Alike c') (bssid : Mac) (capability : UInt16) (security : Security) :
    (c.setPeer bssid capability security).Alike (c'.setPeer bssid capability security) := by
  refine ⟨?_, ⟨h.short.ssid_le, h.short.passphrase_le⟩, ⟨h.short'.ssid_le, h.short'.passphrase_le⟩⟩
  exact congrArg (fun c ↦ c.setPeer bssid capability security) h.redacted

/-- Of two requests for the same network with passphrases that are both short enough or both too
long, both are taken up or neither. -/
theorem request (h : c.Alike c') (ssid : Bytes) {p p' : Bytes}
    (hp : p.length ≤ maxPassphrase ↔ p'.length ≤ maxPassphrase) :
    (∃ e, c.request ssid p = .error e ∧ c'.request ssid p' = .error e) ∨
      ∃ r r', c.request ssid p = .ok r ∧ c'.request ssid p' = .ok r' ∧ r.Alike r' := by
  have hs : c.status = c'.status := congrArg (·.status) h.redacted
  have hi : (ssid = [] ∨ Dot11.maxSsid < ssid.length ∨ maxPassphrase < p'.length) ↔
      (ssid = [] ∨ Dot11.maxSsid < ssid.length ∨ maxPassphrase < p.length) := by
    rw [← Nat.not_le, ← Nat.not_le, ← Nat.not_le, hp]
  unfold Connection.request
  simp only [hi, hs]
  by_cases hn : ssid = [] ∨ Dot11.maxSsid < ssid.length ∨ maxPassphrase < p.length
  · exact .inl ⟨.invalidParam, if_pos hn, if_pos hn⟩
  rw [if_neg hn, if_neg hn]
  by_cases hc : c'.status = .connected
  · exact .inl ⟨.invalidState, if_pos hc, if_pos hc⟩
  have hl : ssid.length ≤ Dot11.maxSsid := Nat.le_of_not_lt fun hl ↦ hn (.inr (.inl hl))
  have hq : p.length ≤ maxPassphrase := Nat.le_of_not_lt fun hl ↦ hn (.inr (.inr hl))
  refine .inr ⟨_, _, if_neg hc, if_neg hc, ?_, ⟨hl, hq⟩, ⟨hl, hp.mp hq⟩⟩
  exact congrArg (fun c : Connection ↦ { c with
    status := .connecting, target := { ssid, passphrase := [] }
    retriesLeft := c.retryLimit, scans := c.scans.map PendingScan.replace }) h.redacted

end Alike

end Connection

namespace Driver

/-- A driver without the passphrase, neither in its target nor in a frame that it has written. -/
def redacted (d : Driver) : Driver :=
  { d with connection := d.connection.redacted, channel := { d.channel with buffer := [] } }

structure Alike (d e : Driver) : Prop where
  redacted : d.redacted = e.redacted
  short : d.connection.target.Short
  short' : e.connection.target.Short

namespace Alike

variable {d e : Driver}

theorem connection (h : d.Alike e) : d.connection.Alike e.connection :=
  ⟨congrArg Driver.connection h.redacted, h.short, h.short'⟩

/-- What is the same for a driver without its passphrase is the same for both. -/
theorem eq_of {β : Type} (h : d.Alike e) {f : Driver → β} (hf : ∀ d, f d.redacted = f d) :
    f d = f e := by
  rw [← hf, h.redacted, hf]

/-- A change that makes nothing of the passphrase. -/
theorem map (h : d.Alike e) {g : Driver → Driver}
    (hg : ∀ d, (g d.redacted).redacted = (g d).redacted)
    (ht : ∀ d : Driver, d.connection.target.Short → (g d).connection.target.Short) :
    (g d).Alike (g e) :=
  ⟨by rw [← hg, h.redacted, hg], ht d h.short, ht e h.short'⟩

theorem setConnection (h : d.Alike e) {c c' : Connection} (hc : c.Alike c') :
    Driver.Alike { d with connection := c } { e with connection := c' } := by
  refine ⟨?_, hc.short, hc.short'⟩
  have hd := h.redacted
  have hr := hc.redacted
  simp only [Driver.redacted, Driver.mk.injEq] at hd ⊢
  exact ⟨hd.1, hd.2.1, hd.2.2.1, hd.2.2.2.1, hd.2.2.2.2.1, hd.2.2.2.2.2.1, hd.2.2.2.2.2.2.1, hr,
    hd.2.2.2.2.2.2.2.2⟩

end Alike

end Driver

/-- The drivers differ in the passphrase alone, and what was done in the keys alone. -/
structure Session.Alike (R : σ → σ → Prop) (s t : Session σ) : Prop where
  driver : s.driver.Alike t.driver
  link : s.link.Alike R t.link

end SdioWlan
