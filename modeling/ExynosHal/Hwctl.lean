import Mathlib.Algebra.Order.Ring.Int

/-! # Power reference count of the secure processor

`ssp_hwctl_enable` and `ssp_hwctl_disable`, which the weaver and the keymint
services both have with a static `refcount` of their own. The device node opens
and the ioctls succeed.
-/

namespace ExynosHal.Hwctl

def sspHwctlEnable (refcount : Int) : Int := refcount + 1

def sspHwctlDisable (refcount : Int) : Int := if refcount ≤ 0 then refcount else refcount - 1

@[simp] theorem disable_enable {refcount : Int} (h : 0 ≤ refcount) :
    sspHwctlDisable (sspHwctlEnable refcount) = refcount := by
  rw [sspHwctlDisable, sspHwctlEnable, if_neg (by omega), Int.add_sub_cancel]

theorem disable_of_pos {refcount : Int} (h : 0 < refcount) : sspHwctlDisable refcount = refcount - 1 :=
  if_neg (by omega)

theorem disable_zero : sspHwctlDisable 0 = 0 := rfl

end ExynosHal.Hwctl
