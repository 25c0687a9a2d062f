import Libobsbot.Macos.Registry

/-! # Enumeration and opening over the I/O registry -/

namespace Libobsbot.Macos
open Foundations
open Foundations.Program (Steps Exchange)
open Foundations.Referents
open Registry (Holding HandsOut HandsObject Opened)
set_option autoImplicit false

section Calls
variable {Entry : Type} {R : Registry Entry} {held : Holding Entry}

/-! ## The calls, one by one -/

end Calls

end Libobsbot.Macos
