import SdioWlan.Proofs.Bootstrap.Basic
import SdioWlan.Proofs.Download.PowerOn
import SdioWlan.Proofs.Restart

namespace SdioWlan

open Firmware

namespace Driver

inductive Lacks (d : Driver) : DriverError → Prop
  | missing {images : FirmwareRegistry} (hf : d.firmware = .registry images)
      (hg : images.get? d.config.firmwareName = none) : d.Lacks (.firmware .imageMissing)
  | empty {images : FirmwareRegistry} (hf : d.firmware = .registry images)
      (hg : images.get? d.config.firmwareName = some []) : d.Lacks (.firmware .emptyImage)

inductive Has (d : Driver) : Bytes → Prop
  | given {image : Bytes} (hf : d.firmware = .image image) : d.Has image
  | found {images : FirmwareRegistry} {image : Bytes} (hf : d.firmware = .registry images)
      (hg : images.get? d.config.firmwareName = some image) (hn : image ≠ []) : d.Has image

theorem image_cases (d : Driver) :
    (∃ e, d.image = .error e ∧ d.Lacks e) ∨ ∃ image, d.image = .ok image ∧ d.Has image := by
  unfold image
  cases hf : d.firmware with
  | image image => exact .inr ⟨image, rfl, .given hf⟩
  | registry images =>
    simp only [FirmwareRegistry.find]
    cases hg : images.get? d.config.firmwareName with
    | none => exact .inl ⟨_, rfl, .missing hf hg⟩
    | some image =>
      cases image with
      | nil => exact .inl ⟨_, rfl, .empty hf hg⟩
      | cons x image => exact .inr ⟨_, rfl, .found hf hg (List.cons_ne_nil x image)⟩

end Driver

namespace Session

variable {σ : Type} [Platform σ] {s t : Session σ}

/-- How a call to start ends, and what it has done until then. -/
inductive Inits (s : Session σ) : Except DriverError Unit × Session σ → Prop
  | noImage {e : DriverError} {t : Session σ} (hi : s.driver.Lacks e)
      (hl : t.link = ⟨s.link.device, .report (.initialized (.error e)) :: s.link.past⟩)
      (hb : t.driver.base = s.driver.base) : Inits s (.error e, t)
  | notPowered {image : Bytes} {e : DriverError} {n : Link σ} {t : Session σ}
      (hi : s.driver.Has image)
      (hp : powerOn image s.driver.config.firmwareBudgets s.link = (.error e, n))
      (hl : t.link = ⟨n.device, .report (.initialized (.error e)) :: n.past⟩)
      (hb : t.driver.base = s.driver.base) : Inits s (.error e, t)
  | notBegun {image : Bytes} {base : UInt32} {n : Link σ} {c : Command} {e : Errno} {t : Session σ}
      (hi : s.driver.Has image)
      (hp : powerOn image s.driver.config.firmwareBudgets s.link = (.ok base, n))
      (hc : c.id = .funcInit ∧ c.body = [])
      (hl : t.link.past = .report (.initialized (.error (.transfer e))) ::
        c.written base (.error e) :: n.past)
      (hb : t.driver.base = base) : Inits s (.error (.transfer e), t)
  | begun {image : Bytes} {base : UInt32} {n : Link σ} {c : Command} {t : Session σ}
      (hi : s.driver.Has image)
      (hp : powerOn image s.driver.config.firmwareBudgets s.link = (.ok base, n))
      (hc : c.id = .funcInit ∧ c.body = []) (hl : t.link.past = c.written base (.ok ()) :: n.past)
      (hb : t.driver.base = base) : Inits s (.ok (), t)

theorem powerUp_of_error {e : DriverError} (h : s.driver.image = .error e) :
    powerUp s = (.error e, s) := by
  simp only [powerUp, bind_apply, view_apply, liftM_apply, h]

theorem powerUp_of_image {image : Bytes} (h : s.driver.image = .ok image) :
    powerUp s =
      let r := powerOn image s.driver.config.firmwareBudgets s.link
      (r.1, { s with link := r.2 }) := by
  simp only [powerUp, bind_apply, view_apply, liftM_apply, h]
  rfl

theorem afterPowerUp_error (e : DriverError) (s : Session σ) :
    afterPowerUp (.error e) s = (.error e,
      ⟨{ s.driver with boot := s.driver.boot.fail },
        ⟨s.link.device, .report (.initialized (.error e)) :: s.link.past⟩⟩) := rfl

theorem init_inits (hf : s.driver.channel.held = false) : Inits s (init s) := by
  rw [init_eq]
  obtain ⟨e, hi, hl⟩ | ⟨image, hi, hh⟩ := s.driver.image_cases
  · rw [powerUp_of_error hi, afterPowerUp_error]
    exact .noImage hl rfl rfl
  · rw [powerUp_of_image hi]
    rcases hp : powerOn image s.driver.config.firmwareBudgets s.link with ⟨e | base, n⟩
    · exact .notPowered hh hp rfl rfl
    · simp only
      obtain ⟨t, ht, hb, -, hl⟩ | ⟨e, t, ht, hb, hl⟩ :=
        afterPowerUp_ok (s := { s with link := n }) hf base
      · rw [ht]
        exact .begun hh hp ⟨rfl, rfl⟩ hl hb
      · rw [ht]
        exact .notBegun hh hp ⟨rfl, rfl⟩ hl hb

/-- Accesses tell the application nothing. -/
theorem initialized_of_accesses (h : List Access) :
    (h.map Action.access).filterMap Action.initialized? = [] := by
  rw [List.filterMap_eq_nil_iff]
  intro a ha
  obtain ⟨x, -, rfl⟩ := List.mem_map.mp ha
  rfl

/-- The application hears of exactly the failure that the caller hears of. -/
theorem Inits.tells {r : Except DriverError Unit × Session σ} (hi : Inits s r) :
    ∃ l, r.2.link.past = l ++ s.link.past ∧
      l.filterMap Action.initialized? = (match r.1 with
        | .ok _ => []
        | .error e => [.error e]) := by
  have hp {image : Bytes} {o : Except DriverError UInt32} {n : Link σ}
      (ho : powerOn image s.driver.config.firmwareBudgets s.link = (o, n)) :
      ∃ h : List Access, n.past = h.map .access ++ s.link.past := by
    have hn := powerOn_powersOn image s.driver.config.firmwareBudgets s.link
    rw [ho] at hn
    obtain ⟨h, hh, -⟩ := hn.earned
    exact ⟨h, hh⟩
  cases hi with
  | noImage hi hl hb => exact ⟨[_], by rw [hl]; rfl, rfl⟩
  | notPowered hi ho hl hb =>
    obtain ⟨h, hh⟩ := hp ho
    refine ⟨_ :: h.map .access, by rw [hl, hh]; rfl, ?_⟩
    exact congrArg (_ :: ·) (initialized_of_accesses h)
  | notBegun hi ho hc hl hb =>
    obtain ⟨h, hh⟩ := hp ho
    refine ⟨_ :: _ :: h.map .access, by rw [hl, hh]; rfl, ?_⟩
    exact congrArg (_ :: ·) (initialized_of_accesses h)
  | begun hi ho hc hl hb =>
    obtain ⟨h, hh⟩ := hp ho
    refine ⟨_ :: h.map .access, by rw [hl, hh]; rfl, ?_⟩
    exact initialized_of_accesses h

/-- Starting reports what happened, on any chip and in whatever state a run has left the driver.
Powering up goes through its steps in order and stops at the first one that fails, with the error
of that step. A call to start fails exactly if the application is told so meanwhile, and it is told
once. Without power no command is written and the base address of the ports stays as it was, and
without firmware not even the bus is accessed. -/
theorem start_reports (config : Config) (firmware : FirmwareSource) (device : σ)
    (calls : List Call) (image : Bytes) (b : FirmwareBudgets) (l : Link σ) :
    let p := powerOn image b l
    let s := (run calls (fresh config firmware device)).2
    let r := perform .init s
    (PowersOn image b l p ∧ ∃ h, p.2.past = h.map .access ++ l.past ∧ Earned image h) ∧
    Inits s r ∧ ∃ told, r.2.link.past = told ++ s.link.past ∧
      told.filterMap Action.initialized? = (match r.1 with
        | .ok _ => []
        | .error e => [.error e]) := by
  intro p s r
  have hp := powerOn_powersOn image b l
  have hs : s.driver.station.Sound :=
    (steps_path calls (fresh config firmware device)).sound (fresh_sound config firmware device)
  have hi : Inits s r := init_inits hs.free
  exact ⟨⟨hp, hp.earned⟩, hi, hi.tells⟩

end Session

end SdioWlan
