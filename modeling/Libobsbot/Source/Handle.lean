import Libobsbot.Foundations.Worker
import Libobsbot.Source.Device

/-! # The life of a handle

`Devices::open` of `crates/libobsbot-core/src/discovery.rs`; `Device::new`, `set_status_cadence`, the status
poller and `Device::drop` of `device.rs`. What `open_transport` finds at the platform is a parameter; the
program is over the transport it returns. `poll_loop` is a program over what it asks of the outside: the
transport, the stop flag, the cadence, the channel and the clock. A tick carries two ghosts: what the
loop has slept and the target it loaded.
-/

namespace Libobsbot
open Foundations
set_option autoImplicit false

section Open
variable {Location : Type}

/-- The handle's own data; the poller it spawns is `pollLoop`. -/
def Device.new (info : DeviceInfo Location) (mac : Bytes 6) : Device Location where
  info := info
  storedFirmware := Meet2.minFw
  mac := mac

def Devices.open (openTransport : DeviceInfo Location → Result Unit) (info : DeviceInfo Location) :
    DeviceM (Device Location) := do
  let () ← (.mk (.done (openTransport info)) : DeviceM Unit)
  let mac ← learnMac
  return Device.new info mac

end Open

/-! ## The status poller -/

inductive PollerOp where
  | transport (op : TransportOp)
  | loadStop
  | loadCadence
  | storeCadence (periodMs : ℕ)
  | send (event : Event)
  | tick (slept target : ℕ)

abbrev PollerOp.Reply : PollerOp → Type
  | .transport op => op.Reply
  | .loadStop => Bool
  | .loadCadence => ℕ
  | .storeCadence _ => Unit
  | .send _ => Bool
  | .tick _ _ => Unit

abbrev PollerProgram (α : Type) : Type := Program PollerOp PollerOp.Reply α

/-- A program over the handle's transport. -/
def onTransport {α : Type} (p : TransportProgram α) : PollerProgram α :=
  p.translate fun op => .perform (.transport op) .done

namespace Poller

def loadStop : PollerProgram Bool := .perform .loadStop .done
def loadCadence : PollerProgram ℕ := .perform .loadCadence .done
def storeCadence (periodMs : ℕ) : PollerProgram Unit := .perform (.storeCadence periodMs) .done
def send (event : Event) : PollerProgram Bool := .perform (.send event) .done
def tick (slept target : ℕ) : PollerProgram Unit := .perform (.tick slept target) .done

end Poller

def pollerTickMs : ℕ := 25

/-- The sleep in ticks; false when the stop flag cut it short. -/
def pollPause (target slept : ℕ) : PollerProgram Bool := do
  if slept < target then
    if ← Poller.loadStop then return false
    else
      Poller.tick slept target
      pollPause target (slept + pollerTickMs)
  else return true
termination_by target - slept
decreasing_by
  unfold pollerTickMs
  omega

/-- The first `rounds` rounds of the loop. -/
def pollLoop (serial : String) : ℕ → PollerProgram Unit
  | 0 => return ()
  | rounds + 1 => do
    if ← Poller.loadStop then return ()
    else
      let snapshot ← onTransport sampleStatus
      if ← Poller.send (.status serial snapshot) then
        let target ← Poller.loadCadence
        if ← pollPause target 0 then pollLoop serial rounds
        else return ()
      else return ()

def initialCadence : Cadence := .slow

def Device.setStatusCadence (cadence : Cadence) : PollerProgram Unit :=
  Poller.storeCadence cadence.periodMs

/-- `Device::drop`; the poller is the worker. -/
def Device.drop : Worker.Prog PollerOp.Reply Unit := Worker.stopAndJoin

end Libobsbot
