import ExynosHal.Library.Words
import Mathlib.Data.Nat.Bitwise
import Mathlib.Tactic

/-! # Bit strings and the bytes they fill

A field of a wire format is a big-endian string of bits and a byte string is the same string cut into eights.
-/

namespace ExynosHal.Library.BitString

def toBits : Nat → Nat → List Bool
  | 0, _ => []
  | width + 1, value => value.testBit width :: toBits width value

def ofBits (bits : List Bool) : Nat := bits.foldl (fun acc bit => 2 * acc + bit.toNat) 0

@[simp] theorem length_toBits (width value : Nat) : (toBits width value).length = width := by
  induction width with
  | zero => rfl
  | succ width ih => simp [toBits, ih]

theorem getElem?_toBits (width value i : Nat) (h : i < width) :
    (toBits width value)[i]? = some (value.testBit (width - 1 - i)) := by
  induction width generalizing i with
  | zero => omega
  | succ width ih =>
    cases i with
    | zero => simp [toBits]
    | succ i =>
      rw [toBits, List.getElem?_cons_succ, ih i (by omega)]
      congr 2
      omega

theorem toBits_congr (width a b : Nat) (h : ∀ i < width, a.testBit i = b.testBit i) :
    toBits width a = toBits width b := by
  induction width with
  | zero => rfl
  | succ width ih =>
    rw [toBits, toBits, h width (by omega), ih (fun i hi => h i (by omega))]

@[simp] theorem toBits_mod (width value : Nat) : toBits width (value % 2 ^ width) = toBits width value := by
  apply toBits_congr
  intro i hi
  simp [Nat.testBit_mod_two_pow, hi]

theorem toBits_append (high low value : Nat) :
    toBits high (value / 2 ^ low) ++ toBits low value = toBits (high + low) value := by
  induction high with
  | zero => simp [toBits]
  | succ high ih =>
    rw [show high + 1 + low = high + low + 1 by omega, toBits, toBits, List.cons_append, ih]
    congr 1
    rw [Nat.testBit_div_two_pow]

theorem take_drop_toBits (skip width low value : Nat) :
    ((toBits (skip + width + low) value).drop skip).take width = toBits width (value / 2 ^ low) := by
  rw [← toBits_append (skip + width) low, ← toBits_append skip width, List.append_assoc,
    List.drop_append_of_le_length (by rw [length_toBits]), List.drop_of_length_le (by rw [length_toBits]),
    List.nil_append, List.take_append_of_le_length (by rw [length_toBits]),
    List.take_of_length_le (by rw [length_toBits])]

variable (bits : List Bool)

theorem ofBits_append_singleton (bit : Bool) : ofBits (bits ++ [bit]) = 2 * ofBits bits + bit.toNat := by
  simp [ofBits]

theorem ofBits_append (front back : List Bool) :
    ofBits (front ++ back) = ofBits front * 2 ^ back.length + ofBits back := by
  induction back using List.reverseRecOn with
  | nil => simp [ofBits]
  | append_singleton back bit ih =>
    rw [← List.append_assoc, ofBits_append_singleton, ih, ofBits_append_singleton]
    simp only [List.length_append, List.length_singleton, Nat.pow_succ]
    ring

theorem ofBits_lt : ofBits bits < 2 ^ bits.length := by
  induction bits using List.reverseRecOn with
  | nil => simp [ofBits]
  | append_singleton bits bit ih =>
    rw [ofBits_append_singleton, List.length_append, List.length_singleton, Nat.pow_succ]
    have hbit : bit.toNat ≤ 1 := Bool.toNat_le bit
    omega

theorem ofBits_toBits_mod (width value : Nat) : ofBits (toBits width value) = value % 2 ^ width := by
  induction width with
  | zero => simp [toBits, ofBits, Nat.mod_one]
  | succ width ih =>
    have hsplit : toBits (width + 1) value = [value.testBit width] ++ toBits width value := rfl
    have hbit : ofBits [value.testBit width] = value / 2 ^ width % 2 := by
      rw [← Nat.toNat_testBit]
      simp [ofBits]
    rw [hsplit, ofBits_append, ih, length_toBits, hbit, Nat.mod_pow_succ]
    ring

theorem ofBits_toBits (width value : Nat) (h : value < 2 ^ width) : ofBits (toBits width value) = value := by
  rw [ofBits_toBits_mod, Nat.mod_eq_of_lt h]

theorem toBits_ofBits : toBits bits.length (ofBits bits) = bits := by
  induction bits using List.reverseRecOn with
  | nil => rfl
  | append_singleton bits bit ih =>
    have hdiv : (2 * ofBits bits + bit.toNat) / 2 ^ 1 = ofBits bits := by
      have hbit : bit.toNat ≤ 1 := Bool.toNat_le bit
      omega
    have hlast : toBits 1 (2 * ofBits bits + bit.toNat) = [bit] := by
      cases bit <;> simp [toBits, Nat.testBit_zero]
    rw [ofBits_append_singleton, List.length_append, List.length_singleton, ← toBits_append, hdiv, ih, hlast]

theorem toBits_zero (width : Nat) : toBits width 0 = List.replicate width false := by
  induction width with
  | zero => rfl
  | succ width ih => simp [toBits, ih, List.replicate_succ]

def byteBits (byte : Byte) : List Bool := toBits 8 byte.toNat

@[simp] theorem length_byteBits (byte : Byte) : (byteBits byte).length = 8 := length_toBits 8 _

def toBytes : List Bool → List Byte
  | b7 :: b6 :: b5 :: b4 :: b3 :: b2 :: b1 :: b0 :: rest =>
    BitVec.ofNat 8 (ofBits [b7, b6, b5, b4, b3, b2, b1, b0]) :: toBytes rest
  | _ => []

theorem toBytes_eight (byte rest : List Bool) (h : byte.length = 8) :
    toBytes (byte ++ rest) = BitVec.ofNat 8 (ofBits byte) :: toBytes rest := by
  match byte, h with
  | [_, _, _, _, _, _, _, _], _ => rfl

@[simp] theorem toBytes_byteBits (byte : Byte) (rest : List Bool) :
    toBytes (byteBits byte ++ rest) = byte :: toBytes rest := by
  rw [toBytes_eight _ _ (length_byteBits byte), byteBits, ofBits_toBits 8 _ byte.isLt,
    BitVec.ofNat_toNat, BitVec.setWidth_eq]

theorem byteBits_ofNat (h : bits.length = 8) : byteBits (BitVec.ofNat 8 (ofBits bits)) = bits := by
  have hlt : ofBits bits < 2 ^ 8 := h ▸ ofBits_lt bits
  rw [byteBits, BitVec.toNat_ofNat, Nat.mod_eq_of_lt hlt]
  exact h ▸ toBits_ofBits bits

variable (bytes : List Byte)

theorem toBytes_flatMap_append (rest : List Bool) :
    toBytes (bytes.flatMap byteBits ++ rest) = bytes ++ toBytes rest := by
  induction bytes with
  | nil => rfl
  | cons byte bytes ih => rw [List.flatMap_cons, List.append_assoc, toBytes_byteBits, ih, List.cons_append]

@[simp] theorem toBytes_flatMap : toBytes (bytes.flatMap byteBits) = bytes := by
  have hnil : toBytes [] = [] := rfl
  have h := toBytes_flatMap_append bytes []
  rwa [List.append_nil, hnil, List.append_nil] at h

theorem length_flatMap_byteBits : (bytes.flatMap byteBits).length = 8 * bytes.length := by
  simp [List.length_flatMap, Nat.mul_comm]

theorem drop_flatMap_byteBits (n : Nat) : (bytes.flatMap byteBits).drop (8 * n) = (bytes.drop n).flatMap byteBits := by
  induction n generalizing bytes with
  | zero => rfl
  | succ n ih =>
    cases bytes with
    | nil => simp
    | cons byte bytes =>
      have hskip : (byteBits byte ++ bytes.flatMap byteBits).drop 8 = bytes.flatMap byteBits :=
        List.drop_left' (length_byteBits byte)
      rw [List.flatMap_cons, Nat.mul_succ, Nat.add_comm, ← List.drop_drop, hskip, ih, List.drop_succ_cons]

theorem flatMap_toBytes (h : 8 ∣ bits.length) : (toBytes bits).flatMap byteBits = bits := by
  obtain ⟨count, hcnt⟩ := h
  induction count generalizing bits with
  | zero =>
    have hnil : bits = [] := List.length_eq_zero_iff.mp (by omega)
    subst hnil
    rfl
  | succ count ih =>
    have htake : (bits.take 8).length = 8 := by rw [List.length_take]; omega
    have hdrop : (bits.drop 8).length = 8 * count := by rw [List.length_drop]; omega
    rw [← List.take_append_drop 8 bits, toBytes_eight _ _ htake, List.flatMap_cons, byteBits_ofNat _ htake, ih _ hdrop]

theorem length_toBytes (h : 8 ∣ bits.length) : (toBytes bits).length = bits.length / 8 := by
  obtain ⟨count, hcnt⟩ := h
  induction count generalizing bits with
  | zero =>
    have hnil : bits = [] := List.length_eq_zero_iff.mp (by omega)
    subst hnil
    rfl
  | succ count ih =>
    have htake : (bits.take 8).length = 8 := by rw [List.length_take]; omega
    have hdrop : (bits.drop 8).length = 8 * count := by rw [List.length_drop]; omega
    have hsplit : toBytes bits = BitVec.ofNat 8 (ofBits (bits.take 8)) :: toBytes (bits.drop 8) := by
      conv_lhs => rw [← List.take_append_drop 8 bits]
      exact toBytes_eight _ _ htake
    rw [hsplit, List.length_cons, ih _ hdrop, hdrop]
    omega

def wordBytes (word : U32) : List Byte :=
  [(word >>> 24).setWidth 8, (word >>> 16).setWidth 8, (word >>> 8).setWidth 8, word.setWidth 8]

theorem flatMap_wordBytes (word : U32) : (wordBytes word).flatMap byteBits = toBits 32 word.toNat := by
  have hbyte : ∀ n : Nat, byteBits ((word >>> n).setWidth 8) = toBits 8 (word.toNat / 2 ^ n) := by
    intro n
    rw [byteBits, BitVec.toNat_setWidth, BitVec.toNat_ushiftRight, Nat.shiftRight_eq_div_pow, toBits_mod]
  have hlast : byteBits (word.setWidth 8) = toBits 8 word.toNat := by
    rw [byteBits, BitVec.toNat_setWidth, toBits_mod]
  rw [← toBits_append 8 24, ← toBits_append 8 16, ← toBits_append 8 8]
  simp only [wordBytes, List.flatMap_cons, List.flatMap_nil, hbyte, hlast, List.append_nil]

end ExynosHal.Library.BitString
