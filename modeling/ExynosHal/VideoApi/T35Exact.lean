import ExynosHal.Library.BitBuffer
import ExynosHal.VideoApi.HdrData

/-! # Where the fields of a T.35 payload stand

The fields of ST 2094-40 stand one behind the other, each as wide as the comments of the source say, for one window
and for several ones.
-/

namespace ExynosHal.VideoApi.T35Exact
open Library.BitBuffer HdrData

section
variable (src : Buffer)

def tableCells (offset : Nat) : Nat := fieldAt src (offset + 1) 5 * fieldAt src (offset + 6) 5

def tableWidth (offset : Nat) : Nat := if fieldAt src offset 1 = 1 then 1 + 5 + 5 + 4 * tableCells src offset else 1

/-- Header, `num_windows` and `targeted_system_display_maximum_luminance` stand in front of the first table. -/
def targetedOffset : Nat := 56 + 2 + 27

def maxsclOffset : Nat := targetedOffset + tableWidth src targetedOffset

/-- Behind `maxscl` and `average_maxrgb`. -/
def percentileCountOffset : Nat := maxsclOffset src + 17 * 3 + 17

def percentileCount : Nat := fieldAt src (percentileCountOffset src) 4

def percentileOffset (j : Nat) : Nat := percentileCountOffset src + 4 + (7 + 17) * j

/-- Behind the percentiles and `fraction_bright_pixels`. -/
def masteringOffset : Nat := percentileOffset src (percentileCount src) + 10

def toneMappingOffset : Nat := masteringOffset src + tableWidth src (masteringOffset src)

def referenceToneMapping : ToneMapping where
  toneMappingFlag := .ofNat 16 (fieldAt src (toneMappingOffset src) 1)
  kneePointX := .ofNat 16 (fieldAt src (toneMappingOffset src + 1) 12)
  kneePointY := .ofNat 16 (fieldAt src (toneMappingOffset src + 1 + 12) 12)
  numBezierCurveAnchors := .ofNat 16 (fieldAt src (toneMappingOffset src + 1 + 12 + 12) 4)
  bezierCurveAnchors := fun j => .ofNat 16 (fieldAt src (toneMappingOffset src + 1 + 12 + 12 + 4 + 10 * j) 10)

def reference : ExynosHdrData where
  countryCode := .ofNat 8 (fieldAt src 0 8)
  providerCode := .ofNat 16 (fieldAt src 8 16)
  providerOrientedCode := .ofNat 16 (fieldAt src 24 16)
  applicationIdentifier := .ofNat 8 (fieldAt src 40 8)
  applicationVersion := .ofNat 8 (fieldAt src 48 8)
  displayMaximumLuminance := .ofNat 32 (fieldAt src (56 + 2) 27)
  maxscl := fun j => .ofNat 32 (fieldAt src (maxsclOffset src + 17 * j) 17)
  numMaxrgbPercentiles := .ofNat 8 (percentileCount src)
  maxrgbPercentages := fun j => .ofNat 8 (fieldAt src (percentileOffset src j) 7)
  maxrgbPercentiles := fun j => .ofNat 32 (fieldAt src (percentileOffset src j + 7) 17)
  toneMapping := referenceToneMapping src

end

def literal (bytes n : Nat) : Buffer := fun i => .ofNat 8 (n >>> (8 * (bytes - 1 - i)))

/-- One window with a percentile, a mastering table of four cells, a curve of two anchors and a weight. -/
def curvePayload : Buffer := literal 35 0xB5003C0001040140013880271017700DAC00C806D08CA00088468AD400800220100920

def OneOddTable (src : Buffer) : Prop :=
  (fieldAt src targetedOffset 1 = 1 ∧ fieldAt src (masteringOffset src) 1 = 0 ∧ tableCells src targetedOffset % 2 = 1) ∨
    fieldAt src targetedOffset 1 = 0 ∧ fieldAt src (masteringOffset src) 1 = 1 ∧ tableCells src (masteringOffset src) %
      2 = 1

variable (src : Buffer)

theorem fieldAt_one_cases (offset : Nat) : fieldAt src offset 1 = 0 ∨ fieldAt src offset 1 = 1 := by
  have hlt := fieldAt_lt src offset 1
  omega

theorem tableWidth_cases (offset : Nat) : (fieldAt src offset 1 = 0 ∧ tableWidth src offset = 1) ∨
      fieldAt src offset 1 = 1 ∧ tableWidth src offset = 11 + 4 * tableCells src offset := by
  rw [tableWidth]
  rcases fieldAt_one_cases src offset with hzero | hone
  · rw [hzero]
    exact .inl ⟨rfl, rfl⟩
  · rw [hone]
    exact .inr ⟨rfl, rfl⟩

theorem toneMappingOffset_eq :
    toneMappingOffset src = 167 + 24 * percentileCount src + tableWidth src targetedOffset +
      tableWidth src (masteringOffset src) := by
  rw [toneMappingOffset, masteringOffset, percentileOffset, percentileCountOffset, maxsclOffset, targetedOffset]
  omega

theorem toneMappingOffset_odd : toneMappingOffset src % 2 = 1 := by
  have hoff := toneMappingOffset_eq src
  rcases tableWidth_cases src targetedOffset with ⟨-, hfst⟩ | ⟨-, hfst⟩ <;>
    rcases tableWidth_cases src (masteringOffset src) with ⟨-, hsnd⟩ | ⟨-, hsnd⟩ <;> omega

theorem toneMappingOffset_mod_iff : toneMappingOffset src % 8 = 7 ↔ OneOddTable src := by
  have hoff := toneMappingOffset_eq src
  rw [OneOddTable]
  rcases tableWidth_cases src targetedOffset with ⟨hnone, hfst⟩ | ⟨hsome, hfst⟩ <;>
    rcases tableWidth_cases src (masteringOffset src) with ⟨hnone', hsnd⟩ | ⟨hsome', hsnd⟩ <;> omega

theorem toNat_ofNat_fieldAt {src : Buffer} {offset width n : Nat} (hwidth : width ≤ n) :
    (BitVec.ofNat n (fieldAt src offset width)).toNat = fieldAt src offset width := by
  rw [BitVec.toNat_ofNat]
  exact Nat.mod_eq_of_lt ((fieldAt_lt src offset width).trans_le (Nat.pow_le_pow_right (by decide) hwidth))

def emptyHdrData : ExynosHdrData := ⟨0, 0, 0, 0, 0, 0, fun _ => 0, 0, fun _ => 0, fun _ => 0, ⟨0, 0, 0, 0, fun _ => 0⟩⟩

end ExynosHal.VideoApi.T35Exact

namespace ExynosHal.VideoApi.WindowSyntax
open Library.BitBuffer T35Exact

def geometryWidth : Nat := 16 * 6 + 8 + 16 * 3 + 1

def geometryAt (w : Nat) : Nat := 56 + 2 + geometryWidth * w

def luminanceAt (windows : Nat) : Nat := geometryAt (windows - 1)

def targetedAt (windows : Nat) : Nat := luminanceAt windows + 27

section
variable (src : Buffer)

/-- `maxscl`, `average_maxrgb`, the percentiles behind their number, and `fraction_bright_pixels`. -/
def statisticsWidth (offset : Nat) : Nat := 17 * 3 + 17 + 4 + (7 + 17) * fieldAt src (offset + 17 * 3 + 17) 4 + 10

def afterStatistics (offset : Nat) : Nat := offset + statisticsWidth src offset

def statisticsAt (windows w : Nat) : Nat :=
  (afterStatistics src)^[w] (targetedAt windows + tableWidth src (targetedAt windows))

def masteringAt (windows : Nat) : Nat := statisticsAt src windows windows

/-- The knee point and the anchors behind their number, if the flag in front of them is set. -/
def curveWidth (offset : Nat) : Nat :=
  if fieldAt src offset 1 = 1 then 12 + 12 + 4 + 10 * fieldAt src (offset + 1 + 12 + 12) 4 else 0

def saturationAt (offset : Nat) : Nat := offset + 1 + curveWidth src offset

def saturationWidth (offset : Nat) : Nat := if fieldAt src offset 1 = 1 then 1 + 6 else 1

def afterToneMapping (offset : Nat) : Nat := saturationAt src offset + saturationWidth src (saturationAt src offset)

def toneMappingAt (windows w : Nat) : Nat :=
  (afterToneMapping src)^[w] (masteringAt src windows + tableWidth src (masteringAt src windows))

theorem curveWidth_cases (offset : Nat) : (fieldAt src offset 1 = 0 ∧ curveWidth src offset = 0) ∨
    fieldAt src offset 1 = 1 ∧ curveWidth src offset = 28 + 10 * fieldAt src (offset + 25) 4 := by
  rw [curveWidth]
  rcases fieldAt_one_cases src offset with hzero | hone
  · rw [hzero]
    exact .inl ⟨rfl, rfl⟩
  · rw [hone]
    exact .inr ⟨rfl, rfl⟩

theorem saturationWidth_cases (offset : Nat) : (fieldAt src offset 1 = 0 ∧ saturationWidth src offset = 1) ∨
    fieldAt src offset 1 = 1 ∧ saturationWidth src offset = 7 := by
  rw [saturationWidth]
  rcases fieldAt_one_cases src offset with hzero | hone
  · rw [hzero]
    exact .inl ⟨rfl, rfl⟩
  · rw [hone]
    exact .inr ⟨rfl, rfl⟩

theorem tableWidth_odd (offset : Nat) : tableWidth src offset % 2 = 1 := by
  rcases tableWidth_cases src offset with ⟨-, hwidth⟩ | ⟨-, hwidth⟩ <;> omega

theorem statisticsAt_mod (windows w : Nat) :
    statisticsAt src windows w % 8 = (targetedAt windows + tableWidth src (targetedAt windows) + 2 * w) % 8 := by
  induction w with
  | zero => rfl
  | succ w ih =>
    have hnext : statisticsAt src windows (w + 1) = afterStatistics src (statisticsAt src windows w) :=
      Function.iterate_succ_apply' _ _ _
    rw [hnext, afterStatistics, statisticsWidth]
    omega

theorem toneMappingAt_mod_two (windows w : Nat) :
    toneMappingAt src windows w % 2 = toneMappingAt src windows 0 % 2 := by
  induction w with
  | zero => rfl
  | succ w ih =>
    have hnext : toneMappingAt src windows (w + 1) = afterToneMapping src (toneMappingAt src windows w) :=
      Function.iterate_succ_apply' _ _ _
    have hcurve := curveWidth_cases src (toneMappingAt src windows w)
    have hsat := saturationWidth_cases src (saturationAt src (toneMappingAt src windows w))
    rw [hnext, afterToneMapping, saturationAt]
    rw [saturationAt] at hsat
    omega

theorem toneMappingAt_zero (windows : Nat) :
    toneMappingAt src windows 0 = masteringAt src windows + tableWidth src (masteringAt src windows) := rfl

theorem toneMappingAt_parity {windows : Nat} (hone : 1 ≤ windows) (w : Nat) :
    toneMappingAt src windows w % 2 = windows % 2 := by
  have hmast : masteringAt src windows % 8 = _ := statisticsAt_mod src windows windows
  have htargeted := tableWidth_odd src (targetedAt windows)
  have htable := tableWidth_odd src (masteringAt src windows)
  have hfst := toneMappingAt_zero src windows
  have hoff : targetedAt windows = 56 + 2 + 153 * (windows - 1) + 27 := rfl
  rw [toneMappingAt_mod_two]
  omega

end

end ExynosHal.VideoApi.WindowSyntax
