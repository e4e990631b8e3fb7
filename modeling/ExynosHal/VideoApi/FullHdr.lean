import ExynosHal.Library.BitString

/-! # Dynamic HDR metadata of the full build

`ExynosHdrData_ST2094_40` as it is compiled with `USE_FULL_ST2094_40`.
-/

namespace ExynosHal.VideoApi.FullHdr

/-- `targeted_system_display_actual_peak_luminance` or `mastering_display_actual_peak_luminance`. -/
structure PeakLuminance where
  flag : U8
  numRows : U8
  numCols : U8
  luminance : Nat → Nat → U8

structure FullToneMapping where
  toneMappingFlag : Nat → U8
  kneePointX : Nat → U16
  kneePointY : Nat → U16
  numBezierCurveAnchors : Nat → U8
  bezierCurveAnchors : Nat → Nat → U16

structure FullHdrData where
  countryCode : U8
  providerCode : U16
  providerOrientedCode : U16
  applicationIdentifier : U8
  applicationVersion : U8
  numWindows : U8
  windowUpperLeftCornerX : Nat → U16
  windowUpperLeftCornerY : Nat → U16
  windowLowerRightCornerX : Nat → U16
  windowLowerRightCornerY : Nat → U16
  centerOfEllipseX : Nat → U16
  centerOfEllipseY : Nat → U16
  rotationAngle : Nat → U8
  semimajorAxisInternalEllipse : Nat → U16
  semimajorAxisExternalEllipse : Nat → U16
  semiminorAxisExternalEllipse : Nat → U16
  overlapProcessOption : Nat → U8
  targetedSystemDisplayMaximumLuminance : U32
  targetedSystemDisplay : PeakLuminance
  maxscl : Nat → Nat → U32
  averageMaxrgb : Nat → U32
  numMaxrgbPercentiles : Nat → U8
  maxrgbPercentages : Nat → Nat → U8
  maxrgbPercentiles : Nat → Nat → U32
  fractionBrightPixels : Nat → U16
  masteringDisplay : PeakLuminance
  toneMapping : FullToneMapping
  colorSaturationMappingFlag : Nat → U8
  colorSaturationWeight : Nat → U8

structure PeakLuminance.InRange (p : PeakLuminance) : Prop where
  flag : p.flag = 0 ∨ p.flag = 1
  numRows : p.flag = 1 → 2 ≤ p.numRows.toNat ∧ p.numRows.toNat ≤ 25
  numCols : p.flag = 1 → 2 ≤ p.numCols.toNat ∧ p.numCols.toNat ≤ 25
  luminance : p.flag = 1 → ∀ i < p.numRows.toNat, ∀ j < p.numCols.toNat, (p.luminance i j).toNat < 2 ^ 4

structure WindowInRange (d : FullHdrData) (w : Nat) : Prop where
  maxscl : ∀ i < 3, (d.maxscl w i).toNat < 2 ^ 17
  averageMaxrgb : (d.averageMaxrgb w).toNat < 2 ^ 17
  numMaxrgbPercentiles : (d.numMaxrgbPercentiles w).toNat < 2 ^ 4
  maxrgbPercentages : ∀ i < (d.numMaxrgbPercentiles w).toNat, (d.maxrgbPercentages w i).toNat < 2 ^ 7
  maxrgbPercentiles : ∀ i < (d.numMaxrgbPercentiles w).toNat, (d.maxrgbPercentiles w i).toNat < 2 ^ 17
  fractionBrightPixels : (d.fractionBrightPixels w).toNat < 2 ^ 10
  toneMappingFlag : d.toneMapping.toneMappingFlag w = 0 ∨ d.toneMapping.toneMappingFlag w = 1
  kneePointX : (d.toneMapping.kneePointX w).toNat < 2 ^ 12
  kneePointY : (d.toneMapping.kneePointY w).toNat < 2 ^ 12
  numBezierCurveAnchors : (d.toneMapping.numBezierCurveAnchors w).toNat < 2 ^ 4
  bezierCurveAnchors : ∀ i < (d.toneMapping.numBezierCurveAnchors w).toNat,
    (d.toneMapping.bezierCurveAnchors w i).toNat < 2 ^ 10
  colorSaturationMappingFlag : d.colorSaturationMappingFlag w = 0 ∨ d.colorSaturationMappingFlag w = 1
  colorSaturationWeight : (d.colorSaturationWeight w).toNat < 2 ^ 6

structure InRange (d : FullHdrData) : Prop where
  numWindows : 1 ≤ d.numWindows.toNat ∧ d.numWindows.toNat ≤ 3
  overlapProcessOption : ∀ w < d.numWindows.toNat - 1, d.overlapProcessOption w = 0 ∨ d.overlapProcessOption w = 1
  maximumLuminance : d.targetedSystemDisplayMaximumLuminance.toNat < 2 ^ 27
  targetedSystemDisplay : d.targetedSystemDisplay.InRange
  masteringDisplay : d.masteringDisplay.InRange
  window : ∀ w < d.numWindows.toNat, WindowInRange d w

end ExynosHal.VideoApi.FullHdr
