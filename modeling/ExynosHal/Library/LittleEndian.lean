import ExynosHal.Library.BitString

/-! # Little-endian integers -/

namespace ExynosHal.Library.LittleEndian
open BitString

def toLittleEndian : Nat → Nat → List Byte
  | 0, _ => []
  | width + 1, value => BitVec.ofNat 8 value :: toLittleEndian width (value / 256)

def ofLittleEndian : List Byte → Nat
  | [] => 0
  | byte :: bytes => byte.toNat + 256 * ofLittleEndian bytes

@[simp] theorem length_toLittleEndian (width value : Nat) : (toLittleEndian width value).length = width := by
  induction width generalizing value with
  | zero => rfl
  | succ width ih => rw [toLittleEndian, List.length_cons, ih]

theorem ofLittleEndian_toLittleEndian (width value : Nat) (h : value < 256 ^ width) :
    ofLittleEndian (toLittleEndian width value) = value := by
  induction width generalizing value with
  | zero =>
    rw [Nat.pow_zero] at h
    simp [toLittleEndian, ofLittleEndian]
    omega
  | succ width ih =>
    have hdiv : value / 256 < 256 ^ width := by
      rw [Nat.pow_succ] at h
      exact Nat.div_lt_of_lt_mul (by omega)
    rw [toLittleEndian, ofLittleEndian, ih _ hdiv, BitVec.toNat_ofNat]
    omega

theorem ofLittleEndian_lt (bytes : List Byte) : ofLittleEndian bytes < 256 ^ bytes.length := by
  induction bytes with
  | nil => exact Nat.zero_lt_one
  | cons byte bytes ih =>
    have hbyte := byte.isLt
    rw [ofLittleEndian, List.length_cons, Nat.pow_succ]
    omega

theorem toLittleEndian_ofLittleEndian (bytes : List Byte) :
    toLittleEndian bytes.length (ofLittleEndian bytes) = bytes := by
  induction bytes with
  | nil => rfl
  | cons byte bytes ih =>
    have hbyte := byte.isLt
    have hdiv : (byte.toNat + 256 * ofLittleEndian bytes) / 256 = ofLittleEndian bytes := by omega
    have hlow : BitVec.ofNat 8 (byte.toNat + 256 * ofLittleEndian bytes) = byte := by
      apply BitVec.eq_of_toNat_eq
      rw [BitVec.toNat_ofNat]
      omega
    rw [List.length_cons, ofLittleEndian, toLittleEndian, hdiv, hlow, ih]

end ExynosHal.Library.LittleEndian
