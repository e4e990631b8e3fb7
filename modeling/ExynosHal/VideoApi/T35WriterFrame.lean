import ExynosHal.VideoApi.FullT35Writer
import ExynosHal.VideoApi.T35WriterCorrect

/-! # What the T.35 writer leaves alone

A field moves the offset on by its width, whatever its value, and no bit in front of it changes.
-/

namespace ExynosHal.VideoApi.T35WriterFrame
open Library.BitString Library.BitBuffer HdrData FullHdr T35Writer T35WriterCorrect FullT35Writer

structure Extends (count : Nat) (s s' : WriterState) : Prop where
  bitOffset : s'.bitOffset = s.bitOffset + count
  extraBit : s'.extraBit = s'.bitOffset % 8
  kept : ∀ n < s.bitOffset, bitAt s'.pBlob n = bitAt s.pBlob n

theorem extends_refl {s : WriterState} (hs : s.extraBit = s.bitOffset % 8) : Extends 0 s s := ⟨rfl, hs, fun _ _ => rfl⟩

theorem Extends.trans {a b : Nat} {s s' s'' : WriterState} (h : Extends a s s') (h' : Extends b s' s'') :
    Extends (a + b) s s'' where
  bitOffset := by rw [h'.bitOffset, h.bitOffset, Nat.add_assoc]
  extraBit := h'.extraBit
  kept := fun n hn => (h'.kept n (by rw [h.bitOffset]; omega)).trans (h.kept n hn)

theorem bitAt_orBit (buf : Buffer) (byte : Byte) (offset n : Nat) (hn : n ≠ offset) :
    bitAt (orAt buf (offset / 8) (byte &&& 1#8 <<< (7 - offset % 8))) n = bitAt buf n := by
  rw [bitAt_orAt]
  rcases eq_or_ne (n / 8) (offset / 8) with hbyte | hbyte
  · have hmask : (byte &&& 1#8 <<< (7 - offset % 8)).getLsbD (7 - n % 8) = false := by
      rw [BitVec.getLsbD_and, BitVec.getLsbD_shiftLeft, BitVec.getLsbD_one]
      have hother : ¬ (7 - n % 8 - (7 - offset % 8) = 0 ∧ ¬ 7 - n % 8 < 7 - offset % 8) := by omega
      rcases Nat.lt_or_ge (7 - n % 8) (7 - offset % 8) with hlt | hge
      · simp [hlt]
      · have hne : 7 - n % 8 - (7 - offset % 8) ≠ 0 := by omega
        simp [hne]
    rw [hmask, Bool.and_false, Bool.or_false]
  · rw [decide_eq_false hbyte, Bool.false_and, Bool.or_false]

theorem putLoop_extends (byte : Byte) (count k width : Nat) (s : WriterState) (hwidth : 0 < width)
    (hphase : 0 < count → s.bitOffset % 8 = k) (hcnt : k + count ≤ 8) :
    let s' := putLoop byte (s.bitOffset + width) count k s
    s'.bitOffset = s.bitOffset + min count width ∧ s'.extraBit = s.extraBit ∧ ∀ n < s.bitOffset, bitAt s'.pBlob n =
      bitAt s.pBlob n := by
  induction count generalizing k width s with
  | zero => exact ⟨by rw [Nat.zero_min]; rfl, rfl, fun _ _ => rfl⟩
  | succ count ih =>
    have hk := hphase (Nat.succ_pos _)
    simp only [putLoop]
    split_ifs with hlimit
    · refine ⟨by dsimp only; omega, rfl, fun n hn => ?_⟩
      rw [← hk]
      exact bitAt_orBit _ _ _ _ (by omega)
    · obtain ⟨hoff, hextra, hkept⟩ := ih (k + 1) (width - 1)
        { s with pBlob := orAt s.pBlob (s.bitOffset / 8) (byte &&& 1#8 <<< (7 - k)), bitOffset := s.bitOffset + 1 }
        (by omega) (fun _ => by dsimp only; omega) (by omega)
      have hend : s.bitOffset + 1 + (width - 1) = s.bitOffset + width := by omega
      simp only [hend] at hoff hextra hkept
      refine ⟨by omega, hextra, fun n hn => (hkept n (Nat.lt_succ_of_lt hn)).trans ?_⟩
      rw [← hk]
      exact bitAt_orBit _ _ _ _ (by omega)

theorem putBytes_extends (bytes : List Byte) (width : Nat) (s : WriterState) (hs : s.extraBit = s.bitOffset % 8)
    (hlow : 8 * bytes.length < s.bitOffset % 8 + width + 8) (hhigh : s.bitOffset % 8 + width ≤ 8 * bytes.length)
      (hwidth : 0 < width) : Extends width s (putBytes (s.bitOffset + width) bytes s) := by
  induction bytes generalizing width s with
  | nil =>
    rw [List.length_nil] at hhigh
    omega
  | cons byte bytes ih =>
    rw [List.length_cons] at hlow hhigh
    obtain ⟨hoff, -, hkept⟩ :=
      putLoop_extends byte (8 - s.extraBit) s.extraBit width s hwidth (fun _ => hs.symm) (by omega)
    rw [putBytes]
    generalize putLoop byte (s.bitOffset + width) (8 - s.extraBit) s.extraBit s = sByte at hoff hkept ⊢
    rcases Nat.lt_or_ge 8 (s.bitOffset % 8 + width) with hmore | hdone
    · have hrest := ih (width - (8 - s.extraBit)) { sByte with extraBit := sByte.bitOffset % 8 }
        rfl (by simp only; omega) (by simp only; omega) (by omega)
      have hend : sByte.bitOffset + (width - (8 - s.extraBit)) = s.bitOffset + width := by omega
      simp only [hend] at hrest
      exact ⟨hrest.bitOffset.trans hend, hrest.extraBit, fun n hn => (hrest.kept n (by simp only; omega)).trans
        (hkept n hn)⟩
    · -- the field ends inside this byte, so no byte is left
      have hnil : bytes = [] := List.length_eq_zero_iff.mp (by omega)
      rw [hnil, putBytes]
      exact ⟨by simp only; omega, rfl, hkept⟩

theorem putField_extends {width nBytes : Nat} (tempBuffer : U32) {s : WriterState} (hs : s.extraBit = s.bitOffset % 8)
    (hlow : 8 * nBytes < s.bitOffset % 8 + width + 8) (hhigh : s.bitOffset % 8 + width ≤ 8 * nBytes)
    (hwidth : 0 < width) : Extends width s (putField width nBytes tempBuffer s) := by
  refine putBytes_extends _ width s hs ?_ ?_ hwidth <;> rwa [List.length_map, List.length_range]

theorem skip_extends (width : Nat) (s : WriterState) : Extends width s (T35Writer.skip width s) :=
  ⟨rfl, rfl, fun _ _ => rfl⟩

theorem loop_extends (step : Nat → WriterState → WriterState) (width : Nat)
    (loop : Nat → Nat → WriterState → WriterState) (hzero : ∀ i s, loop 0 i s = s)
    (hsucc : ∀ count i s, loop (count + 1) i s = loop count (i + 1) (step i s))
    (hstep : ∀ i s, s.extraBit = s.bitOffset % 8 → Extends width s (step i s))
    (count first : Nat) (s : WriterState) (hs : s.extraBit = s.bitOffset % 8) :
    Extends (width * count) s (loop count first s) := by
  induction count generalizing first s with
  | zero =>
    rw [hzero]
    exact extends_refl hs
  | succ count ih =>
    have hfst := hstep first s hs
    rw [hsucc, Nat.mul_succ, Nat.add_comm]
    exact hfst.trans (ih (first + 1) _ hfst.extraBit)

section
variable {s : WriterState}

theorem putField_extraByte {width base limit : Nat} (tempBuffer : U32) (hs : s.extraBit = s.bitOffset % 8)
    (hwidth : 0 < width) (hfit : limit + width = 8 * base) (hlimit : limit < 8) :
    Extends width s (putField width (base + if s.extraBit > limit then 1 else 0) tempBuffer s) := by
  split_ifs with hphase <;> exact putField_extends _ hs (by omega) (by omega) hwidth

theorem putBits17_extends (value : U32) (hs : s.extraBit = s.bitOffset % 8) : Extends 17 s (putBits17 value s) :=
  putField_extends _ hs (by omega) (by omega) (by decide)

variable (value : U8)

theorem putMaxrgbPercentage_extends (hs : s.extraBit = s.bitOffset % 8) : Extends 7 s (putMaxrgbPercentage value s) :=
  putField_extraByte _ hs (by decide) (by decide : 1 + 7 = 8 * 1) (by decide)

theorem putKneePoint_extends (value : U16) (hs : s.extraBit = s.bitOffset % 8) : Extends 12 s (putKneePoint value s) :=
  putField_extraByte _ hs (by decide) (by decide : 4 + 12 = 8 * 2) (by decide)

theorem putNumBezierCurveAnchors_extends (value : U16) (hs : s.extraBit = s.bitOffset % 8) :
    Extends 4 s (putNumBezierCurveAnchors value s) :=
  putField_extraByte _ hs (by decide) (by decide : 4 + 4 = 8 * 1) (by decide)

theorem putBezierCurveAnchor_extends (value : U16) (hs : s.extraBit = s.bitOffset % 8) :
    Extends 10 s (putBezierCurveAnchor value s) :=
  putField_extraByte _ hs (by decide) (by decide : 6 + 10 = 8 * 2) (by decide)

theorem putBits16_extends (value : U16) (hs : s.extraBit = s.bitOffset % 8) : Extends 16 s (putBits16 value s) :=
  putField_extraByte _ hs (by decide) (by decide : 0 + 16 = 8 * 2) (by decide)

theorem putRotationAngle_extends (hs : s.extraBit = s.bitOffset % 8) : Extends 8 s (putRotationAngle value s) :=
  putField_extraByte _ hs (by decide) (by decide : 0 + 8 = 8 * 1) (by decide)

theorem putBits5_extends (hs : s.extraBit = s.bitOffset % 8) : Extends 5 s (putBits5 value s) :=
  putField_extraByte _ hs (by decide) (by decide : 3 + 5 = 8 * 1) (by decide)

theorem putBits4_extends (hs : s.extraBit = s.bitOffset % 8) : Extends 4 s (putBits4 value s) :=
  putField_extraByte _ hs (by decide) (by decide : 4 + 4 = 8 * 1) (by decide)

theorem setBit_extends (set : Prop) [Decidable set] (hs : s.extraBit = s.bitOffset % 8) :
    Extends 1 s (T35Writer.skip 1
      { s with pBlob := if set then orAt s.pBlob (s.bitOffset / 8) (1#8 <<< (7 - s.extraBit)) else s.pBlob }) := by
  refine ⟨rfl, rfl, fun n hn => ?_⟩
  have hbit := bitAt_orBit s.pBlob 0xFF#8 s.bitOffset n (by omega)
  have hmask : ∀ k ≤ 7, (0xFF#8 &&& 1#8 <<< (7 - k)) = 1#8 <<< (7 - k) := by decide
  rw [hmask _ (by omega), ← hs] at hbit
  simp only [T35Writer.skip]
  split_ifs
  · exact hbit
  · rfl

theorem putFlag_extends (hs : s.extraBit = s.bitOffset % 8) : Extends 1 s (putFlag value s) :=
  setBit_extends (value ≠ 0) hs

theorem putToneMappingFlag_extends (t : ToneMapping) (hs : s.extraBit = s.bitOffset % 8) :
    Extends 1 s (putToneMappingFlag t s) :=
  setBit_extends (t.toneMappingFlag ≠ 0) hs

theorem putCount_extends (byte : Byte) (hs : s.extraBit = s.bitOffset % 8) : Extends (min (8 - s.extraBit) 4) s
      { putLoop byte (s.bitOffset + 4) (8 - s.extraBit) s.extraBit s with
        extraBit := (putLoop byte (s.bitOffset + 4) (8 - s.extraBit) s.extraBit s).bitOffset % 8 } := by
  obtain ⟨hoff, -, hkept⟩ := putLoop_extends byte (8 - s.extraBit) s.extraBit 4 s (by decide)
    (fun _ => hs.symm) (by omega)
  exact ⟨hoff, rfl, hkept⟩

theorem putNumMaxrgbPercentiles_extends (d : ExynosHdrData) (hs : s.extraBit = s.bitOffset % 8) :
    Extends (min (8 - s.extraBit) 4) s (T35Writer.putNumMaxrgbPercentiles d s) :=
  putCount_extends _ hs

theorem putFullNumMaxrgbPercentiles_extends (negativeShift : NegativeShift) (d : FullHdrData) (w : Nat)
    (hs : s.extraBit = s.bitOffset % 8) :
    Extends (min (8 - s.extraBit) 4) s (FullT35Writer.putNumMaxrgbPercentiles negativeShift d w s) :=
  putCount_extends _ hs

theorem putTwoBits_extends (byte : Byte) (hphase : s.bitOffset % 8 = 0) :
    Extends 2 s { putLoop byte (s.bitOffset + 2) 2 0 s with
      extraBit := (putLoop byte (s.bitOffset + 2) 2 0 s).bitOffset % 8 } := by
  obtain ⟨hoff, -, hkept⟩ := putLoop_extends byte 2 0 2 s (by decide) (fun _ => hphase) (by decide)
  exact ⟨hoff, rfl, hkept⟩

end

end ExynosHal.VideoApi.T35WriterFrame
