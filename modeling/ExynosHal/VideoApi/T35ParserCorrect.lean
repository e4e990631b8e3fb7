import ExynosHal.VideoApi.T35Parser

/-! # What the T.35 parser reads

A byte loop yields the field in front of it, as far as the loop reaches.
-/

namespace ExynosHal.VideoApi.T35ParserCorrect
open Library.BitString Library.BitBuffer HdrData T35Parser

theorem fieldAt_one (buf : Buffer) (offset : Nat) : fieldAt buf offset 1 = (bitAt buf offset).toNat := by
  simp [fieldAt, ofBits]

variable (data : U32)

theorem or_bit_toNat (byte : Byte) (k high : Nat) (hk : k < 8) (hdata : data.toNat = 2 ^ (k + 1) * high) :
    (data ||| (byte.setWidth 32 &&& 1#32 <<< k)).toNat = 2 ^ k * (2 * high + (byte.getLsbD k).toNat) := by
  have hmask : byte.setWidth 32 &&& 1#32 <<< k =
      if byte.getLsbD k then BitVec.twoPow 32 k else 0#32 := by
    have hget : (byte.setWidth 32).getLsbD k = byte.getLsbD k := by
      rw [BitVec.getLsbD_setWidth, decide_eq_true (by omega : k < 32), Bool.true_and]
    rw [← hget, ← BitVec.and_twoPow, BitVec.twoPow_eq]
  have hpow : (BitVec.twoPow 32 k).toNat = 2 ^ k := by
    rw [BitVec.toNat_twoPow, Nat.mod_eq_of_lt (Nat.pow_lt_pow_right (by decide) (by omega))]
  rw [hmask, BitVec.toNat_or]
  cases hbit : byte.getLsbD k with
  | false =>
    rw [hdata, Nat.pow_succ]
    simp
    ring
  | true =>
    have hlt : 2 ^ k < 2 ^ (k + 1) := Nat.pow_lt_pow_right (by decide) (by omega)
    rw [if_pos rfl, hpow, hdata, ← Nat.two_pow_add_eq_or_of_lt hlt, Nat.pow_succ, Bool.toNat_true]
    ring

variable (src : Buffer)

theorem orBits_toNat (i count l : Nat) (data : U32) (high : Nat)
    (hcnt : l + count ≤ 8) (hdata : data.toNat = 2 ^ (8 - l) * high) :
    (orBits (src i) count l data).toNat = 2 ^ (8 - l) * high + fieldAt src (8 * i + l) count * 2 ^ (8 - l - count) := by
  induction count generalizing l data high with
  | zero => simpa [orBits, fieldAt, ofBits] using hdata
  | succ count ih =>
    have hbit : bitAt src (8 * i + l) = (src i).getLsbD (7 - l) := by
      rw [bitAt, show (8 * i + l) / 8 = i by omega, show (8 * i + l) % 8 = l by omega]
    have hor := or_bit_toNat data (src i) (7 - l) high (by omega)
      (by rw [hdata, show 7 - l + 1 = 8 - l by omega])
    rw [show 7 - l = 8 - (l + 1) by omega] at hor
    have hrec := ih (l + 1) _ _ (by omega) hor
    rw [show 8 - (l + 1) = 7 - l by omega] at hrec
    rw [orBits, hrec, Nat.add_comm count 1, fieldAt_add, fieldAt_one, hbit,
      show 8 - l = 7 - l + 1 by omega, show 7 - l + 1 - (1 + count) = 7 - l - count by omega]
    have hpow : 2 ^ (7 - l) = 2 ^ count * 2 ^ (7 - l - count) := by
      rw [← Nat.pow_add]; congr 1; omega
    rw [show 8 * i + (l + 1) = 8 * i + l + 1 by omega, Nat.pow_succ, hpow]
    ring

theorem readBytes_toNat (nBytes i extraBit : Nat) (data : U32) (high : Nat)
    (hextra : extraBit < 8) (hpos : 0 < nBytes) (hdata : data.toNat = 2 ^ 8 * high)
    (hbound : (high + 1) * 2 ^ (8 * nBytes) ≤ 2 ^ 32) :
    (readBytes src nBytes i extraBit data).toNat =
      high * 2 ^ (8 * nBytes) + fieldAt src (8 * i + extraBit) (8 * nBytes - extraBit) := by
  induction nBytes generalizing i extraBit data high with
  | zero => omega
  | succ nBytes ih =>
    have hsplit : 2 ^ 8 * high = 2 ^ (8 - extraBit) * (2 ^ extraBit * high) := by
      rw [← Nat.mul_assoc, ← Nat.pow_add]; congr 2; omega
    have hbyte := orBits_toNat src i (8 - extraBit) extraBit data _ (by omega) (hdata.trans hsplit)
    rw [← hsplit, Nat.sub_self, Nat.pow_zero, Nat.mul_one] at hbyte
    have hlt : fieldAt src (8 * i + extraBit) (8 - extraBit) < 2 ^ 8 :=
      (fieldAt_lt src _ _).trans_le (Nat.pow_le_pow_right (by decide) (by omega))
    cases nBytes with
    | zero =>
      rw [readBytes, if_neg (by decide), readBytes, hbyte]
      simp only [Nat.zero_add, Nat.mul_one]
      ring
    | succ nBytes =>
      -- the value so far moves up by one byte and stays below 2^32
      have hroom : (2 ^ 8 * high + fieldAt src (8 * i + extraBit) (8 - extraBit) + 1) *
          2 ^ (8 * (nBytes + 1)) ≤ 2 ^ 32 := by
        refine le_trans ?_ hbound
        rw [show 8 * (nBytes + 1 + 1) = 8 + 8 * (nBytes + 1) by omega, Nat.pow_add, ← Nat.mul_assoc]
        exact Nat.mul_le_mul_right _ (by omega)
      have hshift : (orBits (src i) (8 - extraBit) extraBit data <<< 8).toNat =
          2 ^ 8 * (2 ^ 8 * high + fieldAt src (8 * i + extraBit) (8 - extraBit)) := by
        rw [BitVec.toNat_shiftLeft, hbyte, Nat.shiftLeft_eq, Nat.mod_eq_of_lt, Nat.mul_comm]
        have hpow : 2 ^ 8 ≤ 2 ^ (8 * (nBytes + 1)) := Nat.pow_le_pow_right (by decide) (by omega)
        have hmul := Nat.mul_le_mul_left (2 ^ 8 * high + fieldAt src (8 * i + extraBit) (8 - extraBit) + 1) hpow
        omega
      rw [readBytes, if_pos (by omega), ih (i + 1) 0 _ _ (by decide) (by omega) hshift hroom,
        show 8 * (nBytes + 1 + 1) - extraBit = 8 - extraBit + 8 * (nBytes + 1) by omega, fieldAt_add,
        show 8 * i + extraBit + (8 - extraBit) = 8 * (i + 1) + 0 by omega, Nat.sub_zero,
        show 8 * (nBytes + 1 + 1) = 8 + 8 * (nBytes + 1) by omega, Nat.pow_add]
      ring

theorem sshiftRight_toNat (n : Nat) (h : data.toNat < 2 ^ 31) : (data.sshiftRight n).toNat = data.toNat / 2 ^ n := by
  have hmsb : data.msb = false := by
    rw [BitVec.msb_eq_false_iff_two_mul_lt]
    omega
  rw [BitVec.sshiftRight_eq_of_msb_false hmsb, BitVec.toNat_ushiftRight, Nat.shiftRight_eq_div_pow]

variable {offset width : Nat} {nBytes : Nat}

theorem alignData_readBytes (hpos : 0 < nBytes) (hlow : 8 * nBytes < offset % 8 + width + 8)
    (hhigh : offset % 8 + width ≤ 8 * nBytes) (hint : 8 * nBytes ≤ 31 + offset % 8) :
    alignData ((offset + width) % 8) (readBytes src nBytes (offset / 8) (offset % 8) 0) =
      .ofNat 32 (fieldAt src offset width) := by
  have hbytes := readBytes_toNat src nBytes (offset / 8) (offset % 8) 0 0 (by omega) hpos rfl
    (by rw [Nat.zero_add, Nat.one_mul]; exact Nat.pow_le_pow_right (by decide) (by omega))
  rw [Nat.zero_mul, Nat.zero_add, Nat.div_add_mod,
    show 8 * nBytes - offset % 8 = width + (8 * nBytes - offset % 8 - width) by omega] at hbytes
  have hsmall : (readBytes src nBytes (offset / 8) (offset % 8) 0).toNat < 2 ^ 31 := by
    rw [hbytes]
    exact (fieldAt_lt src _ _).trans_le (Nat.pow_le_pow_right (by decide) (by omega))
  have hwidth : fieldAt src offset width < 2 ^ 32 :=
    (fieldAt_lt src offset width).trans_le (Nat.pow_le_pow_right (by decide) (by omega))
  apply BitVec.eq_of_toNat_eq
  rw [BitVec.toNat_ofNat, Nat.mod_eq_of_lt hwidth, alignData]
  split_ifs
  · rw [sshiftRight_toNat _ _ hsmall, hbytes,
      show 8 - (offset + width) % 8 = 8 * nBytes - offset % 8 - width by omega, fieldAt_div]
  · rw [hbytes, show 8 * nBytes - offset % 8 - width = 0 by omega, Nat.add_zero]

theorem orBits_fieldAt (count : Nat) (hfit : offset % 8 + count ≤ 8) :
    (orBits (src (offset / 8)) count (offset % 8) 0).toNat =
      fieldAt src offset count * 2 ^ (8 - offset % 8 - count) := by
  have hbits := orBits_toNat src (offset / 8) count (offset % 8) 0 0 hfit (by simp)
  rwa [Nat.mul_zero, Nat.zero_add, Nat.div_add_mod] at hbits

theorem sshiftRight_orBits (count : Nat) (hfit : offset % 8 + count ≤ 8) :
    (orBits (src (offset / 8)) count (offset % 8) 0).sshiftRight (8 - offset % 8 - count) =
      .ofNat 32 (fieldAt src offset count) := by
  have hbits := orBits_fieldAt src count hfit
  have hval := fieldAt_lt src offset count
  have hbound : fieldAt src offset count * 2 ^ (8 - offset % 8 - count) < 2 ^ 8 := by
    calc fieldAt src offset count * 2 ^ (8 - offset % 8 - count)
        < 2 ^ count * 2 ^ (8 - offset % 8 - count) := Nat.mul_lt_mul_of_pos_right hval (Nat.two_pow_pos _)
      _ = 2 ^ (8 - offset % 8) := by rw [← Nat.pow_add]; congr 1; omega
      _ ≤ 2 ^ 8 := Nat.pow_le_pow_right (by decide) (by omega)
  have hle : 2 ^ count ≤ 2 ^ 8 := Nat.pow_le_pow_right (by decide) (by omega)
  apply BitVec.eq_of_toNat_eq
  rw [sshiftRight_toNat _ _ (by omega), hbits, Nat.mul_div_cancel _ (Nat.two_pow_pos _), BitVec.toNat_ofNat,
    Nat.mod_eq_of_lt (by omega)]

theorem alignData_orBits :
    alignData ((offset + 1) % 8) (orBits (src (offset / 8)) 1 (offset % 8) 0) = .ofNat 32 (fieldAt src offset 1) := by
  have hread := @sshiftRight_orBits src offset 1 (by omega)
  rw [alignData]
  split_ifs
  · rwa [show 8 - (offset + 1) % 8 = 8 - offset % 8 - 1 by omega]
  · rwa [show 8 - offset % 8 - 1 = 0 by omega, BitVec.sshiftRight_zero] at hread

/-- The parser stands at `offset`. -/
structure At (s : ParserState) (offset : Nat) : Prop where
  bitOffset : s.bitOffset = offset
  extraBit : s.extraBit = offset % 8

section
variable {s : ParserState}

theorem At.skip (hs : At s offset) (width : Nat) : At (T35Parser.skip width s) (offset + width) := by
  constructor <;> rw [T35Parser.skip, hs.bitOffset]

theorem At.withDest (hs : At s offset) (dest : ExynosHdrData) : At { s with dest } offset := ⟨hs.bitOffset, hs.extraBit⟩

end

def Sees (read : ParserState → U32 × ParserState) (width offset value : Nat) : Prop :=
  ∀ s, At s offset → read s = (.ofNat 32 value, skip width s)

theorem readField_sees (hpos : 0 < nBytes) (hlow : 8 * nBytes < offset % 8 + width + 8)
    (hhigh : offset % 8 + width ≤ 8 * nBytes) (hint : 8 * nBytes ≤ 31 + offset % 8) :
    Sees (readField src width nBytes) width offset (fieldAt src offset width) := by
  intro s hs
  refine Prod.ext ?_ rfl
  simp only [readField, skip, hs.bitOffset, hs.extraBit]
  exact alignData_readBytes src hpos hlow hhigh hint

theorem readShort_sees {width limit : Nat} (hfit : limit + width = 8) (hwidth : 0 < width) (offset : Nat) :
    Sees (fun s => readField src width (1 + if s.extraBit > limit then 1 else 0) s) width offset
      (fieldAt src offset width) := by
  intro s hs
  have hextra := hs.extraBit
  dsimp only
  split_ifs <;> exact readField_sees src (by decide) (by omega) (by omega) (by omega) s hs

theorem readBits27_sees (hphase : 1 ≤ offset % 8 ∧ offset % 8 ≤ 5) :
    Sees (readBits27 src) 27 offset (fieldAt src offset 27) := by
  intro s hs
  have hextra := hs.extraBit
  rw [readBits27, if_neg (by omega)]
  exact readField_sees src (by decide) (by omega) (by omega) (by omega) s hs

variable (offset)

theorem readBits17_sees : Sees (readBits17 src) 17 offset (fieldAt src offset 17) :=
  readField_sees src (by decide) (by omega) (by omega) (by omega)

theorem readBits10_sees : Sees (readBits10 src) 10 offset (fieldAt src offset 10) := by
  intro s hs
  have hextra := hs.extraBit
  unfold readBits10
  split_ifs <;> exact readField_sees src (by decide) (by omega) (by omega) (by omega) s hs

theorem readBits7_sees : Sees (readBits7 src) 7 offset (fieldAt src offset 7) :=
  readShort_sees src (by decide : 1 + 7 = 8) (by decide) offset

theorem readBits5_sees : Sees (readBits5 src) 5 offset (fieldAt src offset 5) :=
  readShort_sees src (by decide : 3 + 5 = 8) (by decide) offset

theorem readBits4_sees : Sees (readBits4 src) 4 offset (fieldAt src offset 4) :=
  readShort_sees src (by decide : 4 + 4 = 8) (by decide) offset

theorem readFlag_sees : Sees (readFlag src) 1 offset (fieldAt src offset 1) := by
  intro s hs
  refine Prod.ext ?_ rfl
  simp only [readFlag, skip, hs.bitOffset, hs.extraBit]
  exact alignData_orBits src

theorem readNumWindows_sees (hphase : offset % 8 = 0) : Sees (readNumWindows src) 2 offset (fieldAt src offset 2) := by
  intro s hs
  refine Prod.ext ?_ rfl
  have hread := @sshiftRight_orBits src offset 2 (by omega)
  simp only [readNumWindows, skip, hs.bitOffset]
  rw [hphase] at hread
  rwa [show 8 - (offset + 2) % 8 = 8 - 0 - 2 by omega]

theorem orByte_zero (byte : Byte) : orByte byte 0 = byte.setWidth 32 := by
  apply BitVec.eq_of_getLsbD_eq
  intro i hi
  simp only [orByte, List.range_succ, List.range_zero, List.nil_append, List.cons_append, List.foldl_cons,
    List.foldl_nil, BitVec.getLsbD_or, BitVec.getLsbD_and, BitVec.getLsbD_setWidth, ← BitVec.twoPow_eq,
    BitVec.getLsbD_twoPow]
  by_cases hlow : i < 8
  · interval_cases i <;> simp
  · simp [BitVec.getLsbD_of_ge byte i (by omega)]

theorem parseHeader_applicationVersion (dest : ExynosHdrData) :
    (parseHeader src { dest, bitOffset := 0, extraBit := 0 }).dest.applicationVersion =
      .ofNat 8 (fieldAt src 48 8) := by
  have hbyte : (orByte (src 6) 0).setWidth 8 = src 6 := by
    rw [orByte_zero]
    simp
  rw [fieldAt_byte src 6 0 (by decide), Nat.mod_eq_of_lt (src 6).isLt, BitVec.ofNat_toNat, BitVec.setWidth_eq]
  simp only [parseHeader, readHeader, List.range_one, List.foldl_cons, List.foldl_nil]
  exact hbyte

section
variable {n : Nat}

def overwrite {n : Nat} (old new : Nat → BitVec n) (first count : Nat) : Nat → BitVec n :=
  fun i => if first ≤ i ∧ i < first + count then new i else old i

theorem overwrite_zero (old new : Nat → BitVec n) (first : Nat) : overwrite old new first 0 = old := by
  funext i
  exact if_neg (by omega)

theorem overwrite_update (old new : Nat → BitVec n) (first count : Nat) :
    overwrite (Function.update old first (new first)) new (first + 1) count = overwrite old new first (count + 1) := by
  funext i
  unfold overwrite
  rcases Nat.lt_trichotomy i first with hlt | rfl | hgt
  · rw [if_neg (by omega), if_neg (by omega), Function.update_of_ne (by omega)]
  · rw [if_neg (by omega), if_pos (by omega), Function.update_self]
  · by_cases hin : i < first + (count + 1)
    · rw [if_pos (by omega), if_pos (by omega)]
    · rw [if_neg (by omega), if_neg (by omega), Function.update_of_ne (by omega)]

theorem overwrite_of_lt (old new : Nat → BitVec n) (count i : Nat) (h : i < count) :
    overwrite old new 0 count i = new i := if_pos ⟨Nat.zero_le i, by omega⟩

theorem ofNat_setWidth_eq {value : Nat} (hn : n ≤ 32) : (BitVec.ofNat 32 value).setWidth n = .ofNat n value := by
  apply BitVec.eq_of_toNat_eq
  rw [BitVec.toNat_setWidth, BitVec.toNat_ofNat, BitVec.toNat_ofNat, Nat.mod_mod_of_dvd _ (Nat.pow_dvd_pow 2 hn)]

end

end ExynosHal.VideoApi.T35ParserCorrect
