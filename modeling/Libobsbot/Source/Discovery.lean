import Libobsbot.Foundations.HashMap
import Libobsbot.Foundations.Worker
import Libobsbot.Source.Types

/-! # The hot-plug watcher

`crates/libobsbot-core/src/discovery.rs`. `hotplug_loop` is a program over what it asks of the outside:
the stop flag, the enumeration, the order of a map's iteration, the channel and the clock. Two ghosts
are kept in the operations: a send carries the key of the loop variable, and `polled` marks the
assignment `known = current` with the snapshot it was built from.
-/

namespace Libobsbot
open Foundations
set_option autoImplicit false

/-! ## Device keys -/

/-- `device_key` on Linux. -/
def deviceKeyLinux (info : DeviceInfo LinuxLocation) : String :=
  s!"{info.location.busnum.toNat}:{info.location.devnum.toNat}"

/-- `{n:04x}`. -/
def hex04 (n : ℕ) : String := String.ofList (List.leftpad 4 '0' (Nat.toDigits 16 n))

/-- `device_key` elsewhere. -/
def deviceKeyOther {Location : Type} (info : DeviceInfo Location) : String :=
  s!"{hex04 info.vendorId.toNat}:{hex04 info.productId.toNat}:{info.serial}"

/-! ## The loop -/

section Loop
variable {Info : Type}

inductive HotplugOp (Info : Type) where
  | loadStop
  | enumerate
  | iterate (map : HashMap String Info)
  | send (key : String) (event : Event)
  | polled (snapshot : List Info)
  | sleep (millis : ℕ)

abbrev HotplugOp.Reply : HotplugOp Info → Type
  | .loadStop => Bool
  | .enumerate => List Info
  | .iterate map => Listing map
  | .send _ _ => Bool
  | .polled _ => Unit
  | .sleep _ => Unit

abbrev HotplugProgram (Info α : Type) : Type := Program (HotplugOp Info) HotplugOp.Reply α

def loadStop : HotplugProgram Info Bool := .perform .loadStop .done
def enumerate : HotplugProgram Info (List Info) := .perform .enumerate .done
def iterate (map : HashMap String Info) : HotplugProgram Info (Listing map) :=
  .perform (.iterate map) .done
def sendEvent (key : String) (event : Event) : HotplugProgram Info Bool :=
  .perform (.send key event) .done
def polled (snapshot : List Info) : HotplugProgram Info Unit := .perform (.polled snapshot) .done
def sleepMs (millis : ℕ) : HotplugProgram Info Unit := .perform (.sleep millis) .done

def hotplugPollIntervalMs : ℕ := 2000

/-- `for (k, info) in entries { if !other.contains_key(k) && tx.send(..).is_err() { return } }`. -/
def sendMissing (serial : Info → String) (event : String → Event) (other : HashMap String Info) :
    List (Σ _ : String, Info) → HotplugProgram Info Bool
  | [] => return true
  | ⟨k, info⟩ :: rest => do
    if k ∉ other then
      if ← sendEvent k (event (serial info)) then sendMissing serial event other rest
      else return false
    else sendMissing serial event other rest

/-- One comparison with the host: the new `known`, or none when the receivers are gone. -/
def hotplugPoll (key serial : Info → String) (known : HashMap String Info) :
    HotplugProgram Info (Option (HashMap String Info)) := do
  let snapshot ← enumerate
  let current := collect key snapshot
  let entries ← iterate current
  if ← sendMissing serial .deviceAdded known entries.toList then
    let entries ← iterate known
    if ← sendMissing serial .deviceRemoved current entries.toList then
      polled snapshot
      return some current
    else return none
  else return none

/-- The sleep in chunks; false when the stop flag cut it short. -/
def hotplugPause (slept : ℕ) : HotplugProgram Info Bool := do
  if slept < hotplugPollIntervalMs then
    if ← loadStop then return false
    else
      sleepMs 100
      hotplugPause (slept + 100)
  else return true
termination_by hotplugPollIntervalMs - slept

/-- The first `polls` rounds of the loop. -/
def hotplugLoop (key serial : Info → String) : ℕ → HashMap String Info → HotplugProgram Info Unit
  | 0, _ => return ()
  | polls + 1, known => do
    if ← loadStop then return ()
    else
      match ← hotplugPoll key serial known with
      | none => return ()
      | some current =>
        if ← hotplugPause 0 then hotplugLoop key serial polls current
        else return ()

/-- `Devices::drop`; the watcher is the worker. -/
def Devices.drop : Worker.Prog (@HotplugOp.Reply Info) Unit := Worker.stopAndJoin

end Loop
end Libobsbot
