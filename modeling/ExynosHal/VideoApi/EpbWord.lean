import ExynosHal.Library.StartCode
import ExynosHal.VideoApi.PutBits

/-! # `insert_epb_data` escapes one word

Whatever zero bytes precede it, the word that goes out followed by the escaped spilled bytes is the escaped
original word.
-/

namespace ExynosHal.VideoApi.EpbWord
open Library.BitString Library.StartCode PutBits
open BitVec (allOnes eq_of_getLsbD_eq ofNat toNat_and toNat_inj toNat_ofNat toNat_setWidth toNat_ushiftRight)

variable (data : U32) (n : Nat)

theorem and_high : data &&& allOnes 32 <<< n = (data >>> n) <<< n := by
  apply eq_of_getLsbD_eq
  intro i hi
  simp only [BitVec.getLsbD_and, BitVec.getLsbD_shiftLeft, BitVec.getLsbD_allOnes, BitVec.getLsbD_ushiftRight]
  by_cases hlow : i < n
  · simp [hlow]
  · have hsub : n + (i - n) = i := by omega
    have hrange : i - n < 32 := by omega
    simp [hlow, hi, hsub, hrange]

theorem and_high_toNat : (data &&& allOnes 32 <<< n).toNat = data.toNat / 2 ^ n * 2 ^ n := by
  rw [and_high, BitVec.toNat_shiftLeft, toNat_ushiftRight, Nat.shiftLeft_eq, Nat.shiftRight_eq_div_pow]
  exact Nat.mod_eq_of_lt (lt_of_le_of_lt (Nat.div_mul_le_self _ _) data.isLt)

theorem high_le_three (hn : n ≤ 24) : (data &&& allOnes 32 <<< n = 0#32 ∨ data &&& allOnes 32 <<< n = 1#32 <<< n ∨
      data &&& allOnes 32 <<< n = 2#32 <<< n ∨ data &&& allOnes 32 <<< n = 3#32 <<< n) ↔
    data.toNat / 2 ^ n ≤ 3 := by
  have hpow : 2 ^ n ≤ 2 ^ 24 := Nat.pow_le_pow_right (by decide) hn
  have hconst : ∀ k ≤ 3, (ofNat 32 k <<< n).toNat = k * 2 ^ n := by
    intro k hk
    have hmul : k * 2 ^ n ≤ 3 * 2 ^ n := Nat.mul_le_mul_right _ hk
    rw [BitVec.toNat_shiftLeft, Nat.shiftLeft_eq, toNat_ofNat, Nat.mod_eq_of_lt (by omega : k < 2 ^ 32),
      Nat.mod_eq_of_lt (by omega)]
  have hpos : 0 < 2 ^ n := Nat.two_pow_pos n
  have heq : ∀ k ≤ 3, data &&& allOnes 32 <<< n = ofNat 32 k <<< n ↔ data.toNat / 2 ^ n = k := by
    intro k hk
    rw [← toNat_inj, and_high_toNat, hconst k hk]
    exact ⟨fun h => Nat.eq_of_mul_eq_mul_right hpos h, fun h => by rw [h]⟩
  have hzero : (0#32 : U32) = ofNat 32 0 <<< n := by simp
  rw [hzero, heq 0 (by decide), heq 1 (by decide), heq 2 (by decide), heq 3 (by decide)]
  generalize data.toNat / 2 ^ n = high
  omega

theorem low_le_three : (data &&& 0x00FFFFFF#32 = 0x00000000#32 ∨ data &&& 0x00FFFFFF#32 = 0x00000001#32 ∨
      data &&& 0x00FFFFFF#32 = 0x00000002#32 ∨ data &&& 0x00FFFFFF#32 = 0x00000003#32) ↔
    data.toNat % 2 ^ 24 ≤ 3 := by
  have hmask : (data &&& 0x00FFFFFF#32).toNat = data.toNat % 2 ^ 24 := by
    rw [toNat_and]
    exact Nat.and_two_pow_sub_one_eq_mod data.toNat 24
  simp only [← toNat_inj, hmask, toNat_ofNat]
  omega

theorem wordBytes_insert_two : wordBytes (0x03000000#32 ||| ((data &&& 0xFFFF0000#32) >>> 8) ||| 0x00000003#32) =
      [3#8, (data >>> 24).setWidth 8, (data >>> 16).setWidth 8, 3#8] := by
  simp only [wordBytes, List.cons.injEq, and_true]
  refine ⟨?_, ?_, ?_, ?_⟩ <;> (apply eq_of_getLsbD_eq; intro i hi; interval_cases i <;> simp)

theorem wordBytes_insert_first : wordBytes (0x03000000#32 ||| ((data &&& 0xFFFFFF00#32) >>> 8)) =
      [3#8, (data >>> 24).setWidth 8, (data >>> 16).setWidth 8, (data >>> 8).setWidth 8] := by
  simp only [wordBytes, List.cons.injEq, and_true]
  refine ⟨?_, ?_, ?_, ?_⟩ <;> (apply eq_of_getLsbD_eq; intro i hi; interval_cases i <;> simp)

theorem wordBytes_insert_second :
    wordBytes ((data &&& 0xFF000000#32) ||| 0x00030000#32 ||| ((data &&& 0x00FFFF00#32) >>> 8)) =
      [(data >>> 24).setWidth 8, 3#8, (data >>> 16).setWidth 8, (data >>> 8).setWidth 8] := by
  simp only [wordBytes, List.cons.injEq, and_true]
  refine ⟨?_, ?_, ?_, ?_⟩ <;> (apply eq_of_getLsbD_eq; intro i hi; interval_cases i <;> simp)

theorem wordBytes_insert_third :
    wordBytes ((data &&& 0xFFFF0000#32) ||| 0x00000300#32 ||| ((data &&& 0x0000FF00#32) >>> 8)) =
      [(data >>> 24).setWidth 8, (data >>> 16).setWidth 8, 3#8, (data >>> 8).setWidth 8] := by
  simp only [wordBytes, List.cons.injEq, and_true]
  refine ⟨?_, ?_, ?_, ?_⟩ <;> (apply eq_of_getLsbD_eq; intro i hi; interval_cases i <;> simp)

theorem wordBytes_insert_fourth : wordBytes ((data &&& 0xFFFFFF00#32) ||| 0x00000003#32) =
      [(data >>> 24).setWidth 8, (data >>> 16).setWidth 8, (data >>> 8).setWidth 8, 3#8] := by
  simp only [wordBytes, List.cons.injEq, and_true]
  refine ⟨?_, ?_, ?_, ?_⟩ <;> (apply eq_of_getLsbD_eq; intro i hi; interval_cases i <;> simp)

theorem zeroBytes_eq (writedata : U32) :
    zeroBytes writedata = trailingZeros ((writedata >>> 8).setWidth 8) (writedata.setWidth 8) := by
  have hlow16 : writedata &&& 0xFFFF#32 = 0#32 ↔ (writedata >>> 8).setWidth 8 = 0#8 ∧ writedata.setWidth 8 = 0#8 := by
    simp only [← toNat_inj, toNat_and, toNat_setWidth, toNat_ushiftRight, Nat.shiftRight_eq_div_pow, toNat_ofNat]
    rw [show 65535 % 2 ^ 32 = 2 ^ 16 - 1 by decide, Nat.and_two_pow_sub_one_eq_mod]
    omega
  have hlow8 : writedata &&& 0xFF#32 = 0#32 ↔ writedata.setWidth 8 = 0#8 := by
    simp only [← toNat_inj, toNat_and, toNat_setWidth, toNat_ofNat]
    rw [show 255 % 2 ^ 32 = 2 ^ 8 - 1 by decide, Nat.and_two_pow_sub_one_eq_mod]
  simp only [zeroBytes, trailingZeros, hlow16, hlow8]

theorem wordBytes_toNat : ∃ b0 b1 b2 b3 : Byte, wordBytes data = [b0, b1, b2, b3] ∧
      (data >>> 24).setWidth 8 = b0 ∧ (data >>> 16).setWidth 8 = b1 ∧ (data >>> 8).setWidth 8 = b2 ∧
      data.setWidth 8 = b3 ∧
      data.toNat = b0.toNat * 2 ^ 24 + b1.toNat * 2 ^ 16 + b2.toNat * 2 ^ 8 + b3.toNat := by
  refine ⟨_, _, _, _, rfl, rfl, rfl, rfl, rfl, ?_⟩
  simp only [toNat_setWidth, toNat_ushiftRight, Nat.shiftRight_eq_div_pow]
  have hlt := data.isLt
  omega

def insertBytes (zeros : Nat) (b0 b1 b2 b3 : Byte) : List Byte × Nat :=
  if zeros = 2 then
    if b0 = 0#8 ∧ b1 = 0#8 ∧ b2.toNat ≤ 3 then ([3#8, b0, b1, 3#8], 2)
    else if b0.toNat ≤ 3 then ([3#8, b0, b1, b2], 1)
    else if b1 = 0#8 ∧ b2 = 0#8 ∧ b3.toNat ≤ 3 then ([b0, b1, b2, 3#8], 1)
    else ([b0, b1, b2, b3], 0)
  else if zeros = 1 then
    if b0 = 0#8 ∧ b1.toNat ≤ 3 then ([b0, 3#8, b1, b2], 1)
    else if b1 = 0#8 ∧ b2 = 0#8 ∧ b3.toNat ≤ 3 then ([b0, b1, b2, 3#8], 1)
    else ([b0, b1, b2, b3], 0)
  else
    if b0 = 0#8 ∧ b1 = 0#8 ∧ b2.toNat ≤ 3 then ([b0, b1, 3#8, b2], 1)
    else if b1 = 0#8 ∧ b2 = 0#8 ∧ b3.toNat ≤ 3 then ([b0, b1, b2, 3#8], 1)
    else ([b0, b1, b2, b3], 0)

variable (zeros : Nat)

theorem insertEpbData_bytes (data : U32) (b0 b1 b2 b3 : Byte)
    (h0 : (data >>> 24).setWidth 8 = b0) (h1 : (data >>> 16).setWidth 8 = b1)
    (h2 : (data >>> 8).setWidth 8 = b2) (h3 : data.setWidth 8 = b3)
    (hdata : data.toNat = b0.toNat * 2 ^ 24 + b1.toNat * 2 ^ 16 + b2.toNat * 2 ^ 8 + b3.toNat) :
    (wordBytes (insertEpbData zeros data).1, (insertEpbData zeros data).2) = insertBytes zeros b0 b1 b2 b3 := by
  have hlt0 := b0.isLt
  have hlt1 := b1.isLt
  have hlt2 := b2.isLt
  have hlt3 := b3.isLt
  have hhigh3 := (high_le_three data 8 (by decide)).trans
    (show data.toNat / 2 ^ 8 ≤ 3 ↔ b0 = 0#8 ∧ b1 = 0#8 ∧ b2.toNat ≤ 3 by
      simp only [← toNat_inj, toNat_ofNat]; omega)
  have hhigh2 := (high_le_three data 16 (by decide)).trans
    (show data.toNat / 2 ^ 16 ≤ 3 ↔ b0 = 0#8 ∧ b1.toNat ≤ 3 by
      simp only [← toNat_inj, toNat_ofNat]; omega)
  have hhigh1 := (high_le_three data 24 (by decide)).trans
    (show data.toNat / 2 ^ 24 ≤ 3 ↔ b0.toNat ≤ 3 by omega)
  have hlow3 := (low_le_three data).trans (show data.toNat % 2 ^ 24 ≤ 3 ↔ b1 = 0#8 ∧ b2 = 0#8 ∧ b3.toNat ≤ 3 by
      simp only [← toNat_inj, toNat_ofNat]; omega)
  have hword : wordBytes data = [b0, b1, b2, b3] := by rw [wordBytes, h0, h1, h2, h3]
  simp only [BitVec.reduceAllOnes, BitVec.reduceHShiftLeft] at hhigh3 hhigh2 hhigh1
  unfold insertEpbData insertBytes
  simp only [hhigh3, hhigh2, hhigh1, hlow3]
  repeat' split
  all_goals simp only [hword, wordBytes_insert_two, wordBytes_insert_first, wordBytes_insert_second,
    wordBytes_insert_third, wordBytes_insert_fourth, h0, h1, h2]

theorem insertEpbData_of_wordBytes (data : U32) (b0 b1 b2 b3 : Byte) (h : wordBytes data = [b0, b1, b2, b3]) :
    wordBytes (insertEpbData zeros data).1 = (insertBytes zeros b0 b1 b2 b3).1 ∧
      (insertEpbData zeros data).2 = (insertBytes zeros b0 b1 b2 b3).2 := by
  obtain ⟨c0, c1, c2, c3, hword, h0, h1, h2, h3, hdata⟩ := wordBytes_toNat data
  rw [hword] at h
  obtain ⟨rfl, rfl, rfl, rfl⟩ : c0 = b0 ∧ c1 = b1 ∧ c2 = b2 ∧ c3 = b3 := by simpa using h
  have hinsert := insertEpbData_bytes zeros data c0 c1 c2 c3 h0 h1 h2 h3 hdata
  rw [← hinsert]
  exact ⟨rfl, rfl⟩

theorem insertBytes_escape (hzeros : zeros ≤ 2) (b0 b1 b2 b3 : Byte) (rest : List Byte) :
    ∃ e0 e1 e2 e3, (insertBytes zeros b0 b1 b2 b3).1 = [e0, e1, e2, e3] ∧
      e0 :: e1 :: e2 :: e3 :: escape (trailingZeros e2 e3)
          ([b0, b1, b2, b3].drop (4 - (insertBytes zeros b0 b1 b2 b3).2) ++ rest) =
        escape zeros (b0 :: b1 :: b2 :: b3 :: rest) := by
  have hpos : ∀ b : Byte, 3 < b.toNat → b ≠ 0#8 := by
    rintro b hb rfl
    exact absurd hb (by decide)
  unfold insertBytes
  split
  · subst zeros
    split
    · obtain ⟨rfl, rfl, h2⟩ := ‹_ ∧ _›
      refine ⟨_, _, _, _, rfl, ?_⟩
      rw [escape_insert 2 0#8 _ le_rfl (by decide), escape_two_zeros, escape_insert 2 b2 _ le_rfl h2]
      rfl
    split
    · rename_i hnot h0
      refine ⟨_, _, _, _, rfl, ?_⟩
      rw [escape_insert 2 b0 _ le_rfl h0, escape_triple b0 b1 b2 _ (by intro h0 h1; grind)]
      rfl
    split
    · rename_i h0 hlow
      obtain ⟨rfl, rfl, h3⟩ := hlow
      refine ⟨_, _, _, _, rfl, ?_⟩
      rw [escape_restart 2 b0 _ (by omega) (hpos b0 (by omega)), escape_two_zeros,
        escape_insert 2 b3 _ le_rfl h3]
      rfl
    · rename_i h0 hlow
      refine ⟨_, _, _, _, rfl, ?_⟩
      rw [escape_restart 2 b0 _ (by omega) (hpos b0 (by omega)),
        escape_triple b1 b2 b3 rest (by intro h1 h2; grind)]
      rfl
  split
  · subst zeros
    split
    · obtain ⟨rfl, h1⟩ := ‹_ ∧ _›
      refine ⟨_, _, _, _, rfl, ?_⟩
      rw [escape_keep 1 0#8 _ (by omega), nextZeros_zero, escape_insert 2 b1 _ le_rfl h1, escape_pair]
      rfl
    split
    · rename_i hnot hlow
      obtain ⟨rfl, rfl, h3⟩ := hlow
      have h0 : b0 ≠ 0#8 := fun h0 => hnot ⟨h0, by decide⟩
      refine ⟨_, _, _, _, rfl, ?_⟩
      rw [escape_restart 1 b0 _ (by omega) h0, escape_two_zeros, escape_insert 2 b3 _ le_rfl h3]
      rfl
    · rename_i hnot hlow
      refine ⟨_, _, _, _, rfl, ?_⟩
      by_cases h0 : b0 = 0#8
      · subst h0
        have h1 : 3 < b1.toNat := by
          by_contra hle
          exact hnot ⟨rfl, by omega⟩
        rw [escape_keep 1 0#8 _ (by omega), nextZeros_zero, escape_restart 2 b1 _ (fun _ => h1) (hpos b1 h1),
          escape_pair]
        rfl
      · rw [escape_restart 1 b0 _ (by omega) h0, escape_triple b1 b2 b3 rest (by intro h1 h2; grind)]
        rfl
  · obtain rfl : zeros = 0 := by omega
    split
    · obtain ⟨rfl, rfl, h2⟩ := ‹_ ∧ _›
      refine ⟨_, _, _, _, rfl, ?_⟩
      rw [escape_two_zeros, escape_insert 2 b2 _ le_rfl h2, escape_keep 0 b2 _ (by omega),
        trailingZeros_of_ne 3#8 b2 (by decide)]
      rfl
    split
    · rename_i hnot hlow
      obtain ⟨rfl, rfl, h3⟩ := hlow
      have h0 : b0 ≠ 0#8 := fun h0 => hnot ⟨h0, rfl, by decide⟩
      refine ⟨_, _, _, _, rfl, ?_⟩
      rw [escape_restart 0 b0 _ (by omega) h0, escape_two_zeros, escape_insert 2 b3 _ le_rfl h3]
      rfl
    · rename_i hnot hlow
      refine ⟨_, _, _, _, rfl, ?_⟩
      by_cases h0 : b0 = 0#8
      · subst h0
        by_cases h1 : b1 = 0#8
        · subst h1
          have h2 : 3 < b2.toNat := by
            by_contra hle
            exact hnot ⟨rfl, rfl, by omega⟩
          rw [escape_two_zeros, escape_restart 2 b2 _ (fun _ => h2) (hpos b2 h2), escape_keep 0 b3 _ (by omega),
            trailingZeros_of_ne b2 b3 (hpos b2 h2)]
          rfl
        · rw [escape_keep 0 0#8 _ (by omega), escape_restart _ b1 _ (by simp) h1, escape_pair]
          rfl
      · rw [escape_restart 0 b0 _ (by omega) h0, escape_triple b1 b2 b3 rest (by intro h1 h2; grind)]
        rfl

theorem insertEpbData_escape (hzeros : zeros ≤ 2) (data : U32) (rest : List Byte) :
    wordBytes (insertEpbData zeros data).1 ++ escape (zeroBytes (insertEpbData zeros data).1)
        ((wordBytes data).drop (4 - (insertEpbData zeros data).2) ++ rest) =
      escape zeros (wordBytes data ++ rest) := by
  obtain ⟨b0, b1, b2, b3, hword, -⟩ := wordBytes_toNat data
  obtain ⟨hbytes, hcnt⟩ := insertEpbData_of_wordBytes zeros data b0 b1 b2 b3 hword
  obtain ⟨e0, e1, e2, e3, hinsert, hescape⟩ := insertBytes_escape zeros hzeros b0 b1 b2 b3 rest
  rw [hinsert] at hbytes
  have hlast : zeroBytes (insertEpbData zeros data).1 = trailingZeros e2 e3 := by
    have hcons := hbytes
    simp only [wordBytes, List.cons.injEq, and_true] at hcons
    rw [zeroBytes_eq, hcons.2.2.1, hcons.2.2.2]
  rw [hlast, hbytes, hword, hcnt]
  exact hescape

end ExynosHal.VideoApi.EpbWord
