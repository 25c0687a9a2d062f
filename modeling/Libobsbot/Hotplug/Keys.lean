import Libobsbot.Foundations.Numerals
import Libobsbot.Source.Discovery

/-! # What a device key determines

On Linux the key determines the bus and the device number. Elsewhere it determines the vendor, the
product and the serial, and nothing more.
-/

namespace Libobsbot
open Foundations
set_option autoImplicit false

theorem toString_string (s : String) : toString s = s := rfl

theorem deviceKeyLinux_toList (info : DeviceInfo LinuxLocation) :
    (deviceKeyLinux info).toList = Nat.toDigits 10 info.location.busnum.toNat ++
      ':' :: Nat.toDigits 10 info.location.devnum.toNat := by
  simp [deviceKeyLinux, toString_string]

theorem deviceKeyLinux_inj {d e : DeviceInfo LinuxLocation} :
    deviceKeyLinux d = deviceKeyLinux e ↔ d.location = e.location := by
  constructor
  · intro h
    have hlist := congrArg String.toList h
    rw [deviceKeyLinux_toList, deviceKeyLinux_toList] at hlist
    obtain ⟨hbus, hdev⟩ := append_sep_inj (colon_notMem_toDigits (by norm_num) (by norm_num) _)
      (colon_notMem_toDigits (by norm_num) (by norm_num) _) hlist
    have digits : ∀ {m n : ℕ}, Nat.toDigits 10 m = Nat.toDigits 10 n → m = n := by
      intro m n hmn
      have hval := congrArg (valueOf 10) hmn
      rwa [valueOf_toDigits (by norm_num) (by norm_num),
        valueOf_toDigits (by norm_num) (by norm_num)] at hval
    have hbus' : d.location.busnum = e.location.busnum := UInt8.toNat_inj.mp (digits hbus)
    have hdev' : d.location.devnum = e.location.devnum := UInt8.toNat_inj.mp (digits hdev)
    cases hd : d.location
    cases he : e.location
    simp_all
  · intro h
    rw [deviceKeyLinux, deviceKeyLinux, h]

theorem hex04_toList (n : ℕ) : (hex04 n).toList = List.leftpad 4 '0' (Nat.toDigits 16 n) := by
  simp [hex04]

theorem hex04_inj {m n : ℕ} (h : (hex04 m).toList = (hex04 n).toList) : m = n := by
  have hval := congrArg (valueOf 16) h
  rwa [hex04_toList, hex04_toList, valueOf_leftpad, valueOf_leftpad,
    valueOf_toDigits (by norm_num) (by norm_num),
    valueOf_toDigits (by norm_num) (by norm_num)] at hval

theorem colon_notMem_hex04 (n : ℕ) : ':' ∉ (hex04 n).toList := by
  rw [hex04_toList]
  exact colon_notMem_leftpad (colon_notMem_toDigits (by norm_num) (by norm_num) n)

variable {Location : Type}

theorem deviceKeyOther_toList (info : DeviceInfo Location) :
    (deviceKeyOther info).toList = (hex04 info.vendorId.toNat).toList ++
      ':' :: ((hex04 info.productId.toNat).toList ++ ':' :: info.serial.toList) := by
  simp [deviceKeyOther, toString_string]

theorem deviceKeyOther_inj {d e : DeviceInfo Location} :
    deviceKeyOther d = deviceKeyOther e ↔
      (d.vendorId, d.productId, d.serial) = (e.vendorId, e.productId, e.serial) := by
  constructor
  · intro h
    have hlist := congrArg String.toList h
    rw [deviceKeyOther_toList, deviceKeyOther_toList] at hlist
    obtain ⟨hvendor, hrest⟩ := append_sep_inj (colon_notMem_hex04 _) (colon_notMem_hex04 _) hlist
    obtain ⟨hproduct, hserial⟩ := append_sep_inj (colon_notMem_hex04 _) (colon_notMem_hex04 _) hrest
    rw [UInt16.toNat_inj.mp (hex04_inj hvendor), UInt16.toNat_inj.mp (hex04_inj hproduct),
      String.toList_inj.mp hserial]
  · intro h
    simp only [Prod.mk.injEq] at h
    rw [deviceKeyOther, deviceKeyOther, h.1, h.2.1, h.2.2]

end Libobsbot
