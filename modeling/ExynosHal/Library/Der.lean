import ExynosHal.Library.LittleEndian

/-! # DER encodings

Definite lengths, context tag numbers and non-negative integers, each in the one form that DER allows.
-/

namespace ExynosHal.Library.Der
open BitString LittleEndian
open BitVec (ofNat)

def toBigEndian (width value : Nat) : List Byte := (toLittleEndian width value).reverse

@[simp] theorem length_toBigEndian (width value : Nat) : (toBigEndian width value).length = width := by
  rw [toBigEndian, List.length_reverse, length_toLittleEndian]

theorem toBigEndian_succ (width value : Nat) :
    toBigEndian (width + 1) value = toBigEndian width (value / 256) ++ [ofNat 8 value] := by
  rw [toBigEndian, toLittleEndian, List.reverse_cons]
  rfl

theorem toBigEndian_cons (width value : Nat) :
    toBigEndian (width + 1) value = ofNat 8 (value / 256 ^ width) :: toBigEndian width value := by
  induction width generalizing value with
  | zero =>
    rw [Nat.pow_zero, Nat.div_one]
    rfl
  | succ width ih =>
    rw [toBigEndian_succ, ih, toBigEndian_succ width, List.cons_append, Nat.div_div_eq_div_mul, Nat.pow_succ']

def ofBigEndian (bytes : List Byte) : Nat := ofLittleEndian bytes.reverse

theorem ofBigEndian_append_singleton (bytes : List Byte) (byte : Byte) :
    ofBigEndian (bytes ++ [byte]) = byte.toNat + 256 * ofBigEndian bytes := by
  rw [ofBigEndian, List.reverse_append]
  rfl

theorem ofBigEndian_toBigEndian {width value : Nat} (h : value < 256 ^ width) :
    ofBigEndian (toBigEndian width value) = value := by
  rw [ofBigEndian, toBigEndian, List.reverse_reverse, ofLittleEndian_toLittleEndian width value h]

def byteWidth (value : Nat) : Nat := value.log2 / 8 + 1

def derLength (len : Nat) : List Byte :=
  if len < 128 then [ofNat 8 len]
  else ofNat 8 (128 + byteWidth len) :: toBigEndian (byteWidth len) len

variable {len : Nat}

theorem derLength_short (h : len < 128) : derLength len = [ofNat 8 len] := if_pos h

theorem derLength_long (h : 128 ≤ len) :
    derLength len = ofNat 8 (128 + byteWidth len) :: toBigEndian (byteWidth len) len := if_neg (by omega)

variable {value : Nat}

theorem lt_byteWidth_iff (h : value ≠ 0) (width : Nat) : byteWidth value ≤ width ↔ value < 256 ^ width := by
  rw [byteWidth, show 256 = 2 ^ 8 by rfl, ← Nat.pow_mul, ← Nat.log2_lt h]
  omega

theorem byteWidth_one (h0 : 128 ≤ value) (h1 : value < 256) : byteWidth value = 1 := by
  have hle := (lt_byteWidth_iff (by omega) 1).mpr h1
  rw [byteWidth] at hle ⊢
  omega

theorem byteWidth_two (h0 : 256 ≤ value) (h1 : value < 65536) : byteWidth value = 2 := by
  have hle := (lt_byteWidth_iff (by omega) 2).mpr h1
  have hgt : ¬byteWidth value ≤ 1 := fun h => absurd ((lt_byteWidth_iff (by omega) 1).mp h) (by omega)
  omega

theorem derLength_one (hlow : 128 ≤ len) (hhigh : len < 256) : derLength len = [0x81#8, ofNat 8 len] := by
  rw [derLength_long hlow, byteWidth_one hlow hhigh, toBigEndian_succ]
  rfl

theorem derLength_two (hlow : 256 ≤ len) (hhigh : len < 65536) :
    derLength len = [0x82#8, ofNat 8 (len / 256), ofNat 8 len] := by
  rw [derLength_long (by omega), byteWidth_two hlow hhigh, toBigEndian_succ, toBigEndian_succ]
  rfl

theorem two_lt_byteWidth (h : 65536 ≤ value) : 2 < byteWidth value := by
  have hne : value ≠ 0 := by omega
  by_contra hle
  have hlt : value < 256 ^ 2 := (lt_byteWidth_iff hne 2).mp (Nat.le_of_not_lt hle)
  omega

theorem length_derLength_le (h : len < 65536) : (derLength len).length ≤ 3 := by
  rw [derLength]
  split_ifs
  · rw [List.length_singleton]
    decide
  · have hle : byteWidth len ≤ 2 := (lt_byteWidth_iff (by omega) 2).mpr h
    rw [List.length_cons, length_toBigEndian]
    omega

def derElement (tag : Byte) (content : List Byte) : List Byte := tag :: derLength content.length ++ content

theorem length_derElement (tag : Byte) (content : List Byte) :
    (derElement tag content).length = 1 + (derLength content.length).length + content.length := by
  rw [derElement, List.cons_append, List.length_cons, List.length_append]
  omega

def derExplicitTag (number : Nat) : List Byte :=
  if number < 31 then [ofNat 8 (0xA0 + number)]
  else if number < 128 then [0xBF#8, ofNat 8 number]
  else [0xBF#8, ofNat 8 (128 + number / 128), ofNat 8 (number % 128)]

def derExplicit (number : Nat) (content : List Byte) : List Byte :=
  derExplicitTag number ++ derLength content.length ++ content

def integerWidth (value : Nat) : Nat := (value.log2 + 1) / 8 + 1

def derInteger (value : Nat) : List Byte :=
  0x02#8 :: derLength (integerWidth value) ++ toBigEndian (integerWidth value) value

theorem integerWidth_le {value bits : Nat} (h : value < 2 ^ (8 * bits + 7)) : integerWidth value ≤ bits + 1 := by
  rcases Nat.eq_zero_or_pos value with rfl | hpos
  · change 1 ≤ _
    omega
  · have := (Nat.log2_lt (Nat.ne_of_gt hpos)).mpr h
    rw [integerWidth]
    omega

theorem lt_integerWidth (value : Nat) : value < 256 ^ integerWidth value := by
  rcases Nat.eq_zero_or_pos value with rfl | hpos
  · exact Nat.pow_pos (by decide)
  · rw [show 256 = 2 ^ 8 by rfl, ← Nat.pow_mul, ← Nat.log2_lt (Nat.ne_of_gt hpos), integerWidth]
    omega

def magnitude (value : Nat) : List Byte := toBigEndian (byteWidth value) value

@[simp] theorem length_magnitude (value : Nat) : (magnitude value).length = byteWidth value := length_toBigEndian _ _

theorem lt_byteWidth (h : 0 < value) : value < 256 ^ byteWidth value :=
  (lt_byteWidth_iff (Nat.ne_of_gt h) _).mp (Nat.le_refl _)

theorem ofBigEndian_magnitude (h : 0 < value) : ofBigEndian (magnitude value) = value :=
  ofBigEndian_toBigEndian (lt_byteWidth h)

theorem magnitude_eq_cons (h : 0 < value) : ∃ byte bytes, magnitude value = byte :: bytes ∧ byte ≠ 0 := by
  have hbound := lt_byteWidth h
  refine ⟨_, _, toBigEndian_cons (value.log2 / 8) value, fun hzero => ?_⟩
  have hlow : 256 ^ (value.log2 / 8) ≤ value := by
    rw [show 256 = 2 ^ 8 by rfl, ← Nat.pow_mul]
    exact (Nat.pow_le_pow_right (by decide) (Nat.mul_div_le _ _)).trans (Nat.log2_self_le (Nat.ne_of_gt h))
  have hhigh : value / 256 ^ (value.log2 / 8) < 256 := by
    rw [byteWidth, Nat.pow_succ] at hbound
    exact Nat.div_lt_of_lt_mul hbound
  have hbyte := congrArg BitVec.toNat hzero
  rw [BitVec.toNat_ofNat, Nat.mod_eq_of_lt hhigh] at hbyte
  have hpos := Nat.div_pos hlow (Nat.pow_pos (by decide))
  exact Nat.ne_of_gt hpos hbyte

theorem toBigEndian_integerWidth (h : 0 < value) : toBigEndian (integerWidth value) value = 0#8 :: magnitude value ∨
      toBigEndian (integerWidth value) value = magnitude value := by
  by_cases htop : (value.log2 + 1) % 8 = 0
  · have hwidth : integerWidth value = byteWidth value + 1 := by
      rw [integerWidth, byteWidth]
      omega
    left
    rw [hwidth, toBigEndian_cons, Nat.div_eq_of_lt (lt_byteWidth h)]
    rfl
  · have hwidth : integerWidth value = byteWidth value := by
      rw [integerWidth, byteWidth]
      omega
    right
    rw [hwidth]
    rfl

theorem derInteger_small (h : value < 128) : derInteger value = [0x02#8, 1#8, ofNat 8 value] := by
  have hle : integerWidth value ≤ 0 + 1 := integerWidth_le h
  have hwidth : integerWidth value = 1 := by
    rw [integerWidth] at hle ⊢
    omega
  rw [derInteger, hwidth]
  rfl

end ExynosHal.Library.Der
