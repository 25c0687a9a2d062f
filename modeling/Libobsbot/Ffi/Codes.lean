import Libobsbot.Controls.FirstFailure
import Libobsbot.Ffi.Outputs
import Libobsbot.Ffi.PanelCamera

/-! # What a return code tells

Every function of the C interface that works on a device's controls, with every argument, null or not.
-/

namespace Libobsbot.Ffi.Codes
open Foundations Raw Sessions Integers Xu BadResponses FirstFailure
open Foundations.Program (Steps Exchange)
open Foundations.FailFast
set_option autoImplicit false

inductive CFunction where
  | call (call : Sessions.Call)
  | setFaceFocus (on : Int32)
  | firmware (outBuf bufLen : ℕ)
  | serial (outBuf bufLen : ℕ)

section Programs
variable {Location : Type} (handle : Option (Device Location))

def run (m : CMemory) : CFunction → TransportProgram (Int32 × CMemory)
  | .call call => program handle m call
  | .setFaceFocus on => leaving m (obsbotDeviceSetFaceFocus handle on)
  | .firmware outBuf bufLen => obsbotDeviceFirmware handle outBuf bufLen m
  | .serial outBuf bufLen => obsbotDeviceSerial handle outBuf bufLen m

end Programs

section Ways
variable {Location α β : Type} {missing string : Prop} {handle : Option (Device Location)} {m m' : CMemory}
  {code : Int32} {t : Transfers}

end Ways

section Functions
variable {Location : Type} {handle : Option (Device Location)} {m m' : CMemory} {code : Int32} {t : Transfers}

end Functions

end Libobsbot.Ffi.Codes
