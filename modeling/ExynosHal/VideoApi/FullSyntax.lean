import ExynosHal.VideoApi.FullT35Parser
import ExynosHal.VideoApi.T35Windows

/-! # The fields of a T.35 payload and where the full parser keeps them

The arrays of the metadata are gathered by window.
-/

namespace ExynosHal.VideoApi.FullSyntax
open Library.BitBuffer FullHdr T35Exact WindowSyntax T35Windows

structure Geometry where
  windowUpperLeftCornerX : U16
  windowUpperLeftCornerY : U16
  windowLowerRightCornerX : U16
  windowLowerRightCornerY : U16
  centerOfEllipseX : U16
  centerOfEllipseY : U16
  rotationAngle : U8
  semimajorAxisInternalEllipse : U16
  semimajorAxisExternalEllipse : U16
  semiminorAxisExternalEllipse : U16
  overlapProcessOption : U8

structure Statistics where
  maxscl : Nat → U32
  averageMaxrgb : U32
  numMaxrgbPercentiles : U8
  maxrgbPercentages : Nat → U8
  maxrgbPercentiles : Nat → U32
  fractionBrightPixels : U16

structure WindowTone where
  toneMappingFlag : U8
  kneePointX : U16
  kneePointY : U16
  numBezierCurveAnchors : U8
  bezierCurveAnchors : Nat → U16
  colorSaturationMappingFlag : U8
  colorSaturationWeight : U8

def geometryOf (d : FullHdrData) (w : Nat) : Geometry where
  windowUpperLeftCornerX := d.windowUpperLeftCornerX w
  windowUpperLeftCornerY := d.windowUpperLeftCornerY w
  windowLowerRightCornerX := d.windowLowerRightCornerX w
  windowLowerRightCornerY := d.windowLowerRightCornerY w
  centerOfEllipseX := d.centerOfEllipseX w
  centerOfEllipseY := d.centerOfEllipseY w
  rotationAngle := d.rotationAngle w
  semimajorAxisInternalEllipse := d.semimajorAxisInternalEllipse w
  semimajorAxisExternalEllipse := d.semimajorAxisExternalEllipse w
  semiminorAxisExternalEllipse := d.semiminorAxisExternalEllipse w
  overlapProcessOption := d.overlapProcessOption w

def statisticsOf (d : FullHdrData) (w : Nat) : Statistics where
  maxscl := d.maxscl w
  averageMaxrgb := d.averageMaxrgb w
  numMaxrgbPercentiles := d.numMaxrgbPercentiles w
  maxrgbPercentages := d.maxrgbPercentages w
  maxrgbPercentiles := d.maxrgbPercentiles w
  fractionBrightPixels := d.fractionBrightPixels w

def windowToneOf (d : FullHdrData) (w : Nat) : WindowTone where
  toneMappingFlag := d.toneMapping.toneMappingFlag w
  kneePointX := d.toneMapping.kneePointX w
  kneePointY := d.toneMapping.kneePointY w
  numBezierCurveAnchors := d.toneMapping.numBezierCurveAnchors w
  bezierCurveAnchors := d.toneMapping.bezierCurveAnchors w
  colorSaturationMappingFlag := d.colorSaturationMappingFlag w
  colorSaturationWeight := d.colorSaturationWeight w

section
variable (src : Buffer)

structure ReadsGeometry (offset : Nat) (g : Geometry) : Prop where
  windowUpperLeftCornerX : g.windowUpperLeftCornerX.toNat = fieldAt src offset 16
  windowUpperLeftCornerY : g.windowUpperLeftCornerY.toNat = fieldAt src (offset + 16) 16
  windowLowerRightCornerX : g.windowLowerRightCornerX.toNat = fieldAt src (offset + 32) 16
  windowLowerRightCornerY : g.windowLowerRightCornerY.toNat = fieldAt src (offset + 48) 16
  centerOfEllipseX : g.centerOfEllipseX.toNat = fieldAt src (offset + 64) 16
  centerOfEllipseY : g.centerOfEllipseY.toNat = fieldAt src (offset + 80) 16
  rotationAngle : g.rotationAngle.toNat = fieldAt src (offset + 96) 8
  semimajorAxisInternalEllipse : g.semimajorAxisInternalEllipse.toNat = fieldAt src (offset + 104) 16
  semimajorAxisExternalEllipse : g.semimajorAxisExternalEllipse.toNat = fieldAt src (offset + 120) 16
  semiminorAxisExternalEllipse : g.semiminorAxisExternalEllipse.toNat = fieldAt src (offset + 136) 16
  overlapProcessOption : g.overlapProcessOption.toNat = fieldAt src (offset + 152) 1

structure ReadsTable (offset : Nat) (p : PeakLuminance) : Prop where
  flag : p.flag.toNat = fieldAt src offset 1
  numRows : fieldAt src offset 1 = 1 → p.numRows.toNat = fieldAt src (offset + 1) 5
  numCols : fieldAt src offset 1 = 1 → p.numCols.toNat = fieldAt src (offset + 6) 5
  luminance : fieldAt src offset 1 = 1 → ∀ i < fieldAt src (offset + 1) 5, ∀ j < fieldAt src (offset + 6) 5,
    (p.luminance i j).toNat = fieldAt src (offset + 11 + 4 * (i * fieldAt src (offset + 6) 5 + j)) 4

/-- The number of percentiles, behind `maxscl` and `average_maxrgb`. -/
def percentilesOf (offset : Nat) : Nat := fieldAt src (offset + 17 * 3 + 17) 4

def fractionAt (offset : Nat) : Nat := offset + 17 * 3 + 17 + 4 + (7 + 17) * percentilesOf src offset

/-- All values of a window's statistics but `fraction_bright_pixels`. -/
structure ReadsLists (offset : Nat) (st : Statistics) : Prop where
  maxscl : ∀ i < 3, (st.maxscl i).toNat = fieldAt src (offset + 17 * i) 17
  averageMaxrgb : st.averageMaxrgb.toNat = fieldAt src (offset + 17 * 3) 17
  numMaxrgbPercentiles : st.numMaxrgbPercentiles.toNat = percentilesOf src offset
  maxrgbPercentages : ∀ i < percentilesOf src offset,
    (st.maxrgbPercentages i).toNat = fieldAt src (offset + 17 * 3 + 17 + 4 + (7 + 17) * i) 7
  maxrgbPercentiles : ∀ i < percentilesOf src offset,
    (st.maxrgbPercentiles i).toNat = fieldAt src (offset + 17 * 3 + 17 + 4 + (7 + 17) * i + 7) 17

structure ReadsStatistics (offset : Nat) (st : Statistics) : Prop extends ReadsLists src offset st where
  fractionBrightPixels : st.fractionBrightPixels.toNat = fieldAt src (fractionAt src offset) 10

/-- The curve is there only behind a set flag, and so is the weight. -/
structure ReadsTone (offset : Nat) (t : WindowTone) : Prop where
  toneMappingFlag : t.toneMappingFlag.toNat = fieldAt src offset 1
  kneePointX : fieldAt src offset 1 = 1 → t.kneePointX.toNat = fieldAt src (offset + 1) 12
  kneePointY : fieldAt src offset 1 = 1 → t.kneePointY.toNat = fieldAt src (offset + 1 + 12) 12
  numBezierCurveAnchors : fieldAt src offset 1 = 1 → t.numBezierCurveAnchors.toNat =
    fieldAt src (offset + 1 + 12 + 12) 4
  bezierCurveAnchors : fieldAt src offset 1 = 1 → ∀ i < fieldAt src (offset + 1 + 12 + 12) 4,
    (t.bezierCurveAnchors i).toNat = fieldAt src (offset + 1 + 12 + 12 + 4 + 10 * i) 10
  colorSaturationMappingFlag : t.colorSaturationMappingFlag.toNat = fieldAt src (saturationAt src offset) 1
  colorSaturationWeight : fieldAt src (saturationAt src offset) 1 = 1 →
    t.colorSaturationWeight.toNat = fieldAt src (saturationAt src offset + 1) 6

/-- Every field of the body is what a big-endian reader finds in its place. -/
structure ReadsBody (r : FullHdrData) : Prop where
  numWindows : r.numWindows.toNat = fieldAt src 56 2
  geometry : ∀ w < fieldAt src 56 2 - 1, ReadsGeometry src (geometryAt w) (geometryOf r w)
  maximumLuminance : r.targetedSystemDisplayMaximumLuminance.toNat = fieldAt src (luminanceAt (fieldAt src 56 2)) 27
  targetedSystemDisplay : ReadsTable src (targetedAt (fieldAt src 56 2)) r.targetedSystemDisplay
  statistics : ∀ w < fieldAt src 56 2, ReadsStatistics src (statisticsAt src (fieldAt src 56 2) w) (statisticsOf r w)
  masteringDisplay : ReadsTable src (masteringAt src (fieldAt src 56 2)) r.masteringDisplay
  toneMapping : ∀ w < fieldAt src 56 2, ReadsTone src (toneMappingAt src (fieldAt src 56 2) w) (windowToneOf r w)

def seenFraction (offset : Nat) : Nat :=
  if offset % 8 = 7 then fieldAt src offset 10 else fieldAt src offset (16 - offset % 8) * 2 ^ (2 + offset % 8) % 2 ^ 16

def seenWeight (offset : Nat) : Nat := if offset % 8 = 3 then 0 else fieldAt src offset 6

def KeepsFraction (offset : Nat) : Prop := offset % 8 = 7 ∨ fieldAt src offset (16 - offset % 8) = 0

def KeepsCurve (offset : Nat) : Prop :=
  fieldAt src offset 1 = 1 → offset % 8 ≠ 7 ∧ (offset % 8 = 4 → fieldAt src (offset + 1) 12 = 0) ∧
    (offset % 8 = 0 → fieldAt src (offset + 1 + 12) 12 = 0)

def KeepsWeight (offset : Nat) : Prop := fieldAt src offset 1 = 1 → offset % 8 = 2 → fieldAt src (offset + 1) 6 = 0

instance (offset : Nat) : Decidable (KeepsFraction src offset) := inferInstanceAs (Decidable (_ ∨ _))

instance (offset : Nat) : Decidable (KeepsCurve src offset) := inferInstanceAs (Decidable (_ → _))

instance (offset : Nat) : Decidable (KeepsWeight src offset) := inferInstanceAs (Decidable (_ → _))

theorem turns_zero {field rest turns : Nat} (hrest : rest < 64) (hfield : field < 1024)
    (h : 65536 * turns + field = 256 * field + 4 * rest) : field = 0 ∧ rest = 0 := by
  have hturns : turns < 4 := by omega
  interval_cases turns <;> omega

theorem shifted_eq_iff {value c k : Nat} (hck : 4 * c * k = 256) (hlt : value < 1024 * k) :
    value * (4 * c) % 65536 = value / k ↔ value = 0 := by
  have hpos : 0 < k := Nat.pos_of_ne_zero fun h => by rw [h] at hck; cases hck
  have hc : 0 < c := Nat.pos_of_ne_zero fun h => by rw [h, Nat.mul_zero, Nat.zero_mul] at hck; cases hck
  have hfield : value / k < 1024 := (Nat.div_lt_iff_lt_mul hpos).mpr hlt
  have hrest : value % k * c < 64 := by
    have h := Nat.mul_lt_mul_of_pos_right (Nat.mod_lt value hpos) hc
    have hquarter : k * c = 64 := by rw [Nat.mul_comm]; rw [Nat.mul_assoc] at hck; omega
    omega
  have hsplit : value * (4 * c) = 256 * (value / k) + 4 * (value % k * c) := by
    calc value * (4 * c) = (k * (value / k) + value % k) * (4 * c) := by rw [Nat.div_add_mod]
      _ = 4 * c * k * (value / k) + 4 * (value % k * c) := by ring
      _ = 256 * (value / k) + 4 * (value % k * c) := by rw [hck]
  constructor
  · intro heq
    have hdiv := Nat.div_add_mod (value * (4 * c)) 65536
    rw [heq] at hdiv
    obtain ⟨hzero, hmod⟩ := turns_zero hrest hfield (hdiv.trans hsplit)
    rw [← Nat.div_add_mod value k, hzero, (Nat.mul_eq_zero.mp hmod).resolve_right hc.ne']
    rfl
  · rintro rfl
    rw [Nat.zero_mul, Nat.zero_div]

theorem seenFraction_eq_iff (offset : Nat) :
    seenFraction src offset = fieldAt src offset 10 ↔ KeepsFraction src offset := by
  rw [seenFraction, KeepsFraction]
  rcases eq_or_ne (offset % 8) 7 with hlast | hphase
  · rw [if_pos hlast]
    exact ⟨fun _ => .inl hlast, fun _ => rfl⟩
  · have hlt := fieldAt_lt src offset (16 - offset % 8)
    have hfield : fieldAt src offset (16 - offset % 8) / 2 ^ (6 - offset % 8) = fieldAt src offset 10 := by
      have hsplit : 16 - offset % 8 = 10 + (6 - offset % 8) := by omega
      rw [hsplit]
      exact fieldAt_div src offset 10 (6 - offset % 8)
    rw [if_neg hphase, ← hfield]
    refine Iff.trans ?_ (or_iff_right hphase).symm
    have hcases : ∀ phase < 8, phase ≠ 7 → 2 ^ (2 + phase) = 4 * 2 ^ phase ∧ 4 * 2 ^ phase * 2 ^ (6 - phase) = 256 ∧
        2 ^ (16 - phase) = 1024 * 2 ^ (6 - phase) := by decide
    obtain ⟨hshift, hturn, hbits⟩ := hcases (offset % 8) (by omega) hphase
    rw [hshift]
    exact shifted_eq_iff hturn (by rw [← hbits]; exact hlt)

theorem seenWeight_eq_iff (offset : Nat) :
    seenWeight src offset = fieldAt src offset 6 ↔ (offset % 8 = 3 → fieldAt src offset 6 = 0) := by
  rw [seenWeight]
  rcases eq_or_ne (offset % 8) 3 with hcut | hphase
  · rw [if_pos hcut]
    exact ⟨fun h _ => h.symm, fun h => (h hcut).symm⟩
  · rw [if_neg hphase]
    exact ⟨fun _ h => absurd h hphase, fun _ => rfl⟩

end

end ExynosHal.VideoApi.FullSyntax
