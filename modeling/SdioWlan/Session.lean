import SdioWlan.Bootstrap
import SdioWlan.CommandChannel
import SdioWlan.Config
import SdioWlan.Connection
import SdioWlan.Firmware
import SdioWlan.Interface
import SdioWlan.PortAllocator

namespace SdioWlan

inductive FirmwareSource
  | image (bytes : Bytes)
  | registry (images : FirmwareRegistry)
  deriving DecidableEq

structure Driver where
  config : Config
  firmware : FirmwareSource
  base : UInt32 := 0
  mac : Mac := .zero
  ports : PortAllocator := {}
  channel : CommandChannel := {}
  boot : Bootstrap := {}
  connection : Connection
  clients : ClientTable := .empty ClientTable.defaultCapacity
  sta : NetDevice := { role := .sta }
  uap : NetDevice := { role := .uap }
  deriving DecidableEq

namespace Driver

def new (config : Config) (firmware : FirmwareSource) : Driver :=
  { config, firmware, connection := .new config.retryLimit }

def image (d : Driver) : Except DriverError Bytes :=
  match d.firmware with
  | .image bytes => .ok bytes
  | .registry images => images.find d.config.firmwareName

def device (d : Driver) : Role → NetDevice
  | .sta => d.sta
  | .uap => d.uap

def updateDevice (d : Driver) (f : NetDevice → NetDevice) : Role → Driver
  | .sta => { d with sta := f d.sta }
  | .uap => { d with uap := f d.uap }

def clearStaged (d : Driver) : Driver := { d with channel := d.channel.clearStaged }

end Driver

structure Session (σ : Type) where
  driver : Driver
  link : Link σ

namespace Session

abbrev Act (σ α : Type) := ExceptT DriverError (StateM (Session σ)) α

variable {σ α : Type}

def view (f : Driver → α) : Act σ α := fun s ↦ (.ok (f s.driver), s)

def update (f : Driver → Driver) : Act σ Unit := fun s ↦
  (.ok (), { s with driver := f s.driver })

def record (a : Action) : Act σ Unit := fun s ↦
  (.ok (), { s with link := { s.link with past := a :: s.link.past } })

def stack (c : StackCall) : Act σ Unit := record (.stack c)

def report (r : Report) : Act σ Unit := record (.report r)

def onLink (w : Link.Work σ α) : Act σ α := fun s ↦
  let r := w s.link
  (r.1, { s with link := r.2 })

def onPorts (w : ExceptT DriverError (StateM (PortAllocator × Link σ)) α) : Act σ α := fun s ↦
  let r := w (s.driver.ports, s.link)
  (r.1, ⟨{ s.driver with ports := r.2.1 }, r.2.2⟩)

def onChannel (w : ExceptT DriverError (StateM (CommandChannel × Link σ)) α) : Act σ α := fun s ↦
  let r := w (s.driver.channel, s.link)
  (r.1, ⟨{ s.driver with channel := r.2.1 }, r.2.2⟩)

def eraseLease [Platform σ] (mac : Mac) : Act σ (Option Lease) := fun s ↦
  let r := Platform.eraseLease mac s.link.device
  (.ok r.1, { s with link := ⟨r.2, .stack (.eraseLease mac r.1) :: s.link.past⟩ })

@[simp] theorem pure_apply (a : α) (s : Session σ) : (pure a : Act σ α) s = (.ok a, s) := rfl

@[simp] theorem throw_apply (e : DriverError) (s : Session σ) :
    (throw e : Act σ α) s = (.error e, s) := rfl

@[simp] theorem liftM_apply (x : Except DriverError α) (s : Session σ) :
    (liftM x : Act σ α) s = (x, s) := by
  cases x <;> rfl

theorem bind_apply {β : Type} (x : Act σ α) (f : α → Act σ β) (s : Session σ) :
    (x >>= f) s = match x s with
      | (.ok a, t) => f a t
      | (.error e, t) => (.error e, t) := by
  simp only [bind, ExceptT.bind, ExceptT.mk, StateT.bind, ExceptT.bindCont]
  rcases x s with ⟨_ | _, _⟩ <;> rfl

theorem tryCatch_apply (x : Act σ α) (f : DriverError → Act σ α) (s : Session σ) :
    (tryCatch x f) s = match x s with
      | (.ok a, t) => (.ok a, t)
      | (.error e, t) => f e t := by
  simp only [tryCatch, tryCatchThe, MonadExceptOf.tryCatch, ExceptT.tryCatch, ExceptT.mk,
    StateT.bind, bind]
  rcases x s with ⟨_ | _, _⟩ <;> rfl

@[simp] theorem view_apply (f : Driver → α) (s : Session σ) :
    view f s = (.ok (f s.driver), s) := rfl

@[simp] theorem update_apply (f : Driver → Driver) (s : Session σ) :
    update f s = (.ok (), { s with driver := f s.driver }) := rfl

def ensureReady : Act σ Unit := do
  if ← view (·.boot.isReady) then pure () else throw .invalidState

theorem ensureReady_bind_of_ready {s : Session σ} (h : s.driver.boot.isReady = true)
    (x : Unit → Act σ α) : (ensureReady >>= x) s = x () s := by
  simp only [ensureReady, bind_apply, view_apply, h, if_true, pure_apply]

theorem ensureReady_bind_of_not_ready {s : Session σ} (h : s.driver.boot.isReady = false)
    (x : Unit → Act σ α) : (ensureReady >>= x) s = (.error .invalidState, s) := by
  simp only [ensureReady, bind_apply, view_apply, h, Bool.false_eq_true, if_false, throw_apply]

end Session

end SdioWlan
