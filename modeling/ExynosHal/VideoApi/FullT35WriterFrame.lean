import ExynosHal.VideoApi.T35WriterFrame

/-! # How far the full T.35 writer gets

Every part of a payload moves the offset on by a number of bits that depends on the flags, dimensions
and list lengths of the metadata, and for the number of percentiles also on the phase.
-/

namespace ExynosHal.VideoApi.FullT35WriterFrame
open Library.BitBuffer FullHdr T35Writer T35WriterFrame FullT35Writer

variable {s : WriterState} (d : FullHdrData)

theorem putGeometry_extends (w : Nat) (hs : s.extraBit = s.bitOffset % 8) : Extends 152 s (putGeometry d w s) := by
  have h := putBits16_extends (d.windowUpperLeftCornerX w) hs
  have h := h.trans (putBits16_extends (d.windowUpperLeftCornerY w) h.extraBit)
  have h := h.trans (putBits16_extends (d.windowLowerRightCornerX w) h.extraBit)
  have h := h.trans (putBits16_extends (d.windowLowerRightCornerY w) h.extraBit)
  have h := h.trans (putBits16_extends (d.centerOfEllipseX w) h.extraBit)
  have h := h.trans (putBits16_extends (d.centerOfEllipseY w) h.extraBit)
  have h := h.trans (putRotationAngle_extends (d.rotationAngle w) h.extraBit)
  have h := h.trans (putBits16_extends (d.semimajorAxisInternalEllipse w) h.extraBit)
  have h := h.trans (putBits16_extends (d.semimajorAxisExternalEllipse w) h.extraBit)
  exact h.trans (putBits16_extends (d.semiminorAxisExternalEllipse w) h.extraBit)

theorem putGeometries_extends (count w : Nat) (hs : s.extraBit = s.bitOffset % 8) :
    Extends (152 * count) s (putGeometries d count w s) :=
  loop_extends (fun w s => putGeometry d w s) 152 (putGeometries d) (fun _ _ => rfl) (fun _ _ _ => rfl)
    (fun _ _ hs => putGeometry_extends d _ hs) count w s hs

variable (p : PeakLuminance)

theorem putRow_extends (i count j : Nat) (hs : s.extraBit = s.bitOffset % 8) :
    Extends (4 * count) s (putRow p i count j s) :=
  loop_extends (fun j s => putBits4 (p.luminance i j) s) 4 (putRow p i) (fun _ _ => rfl) (fun _ _ _ => rfl)
    (fun _ _ hs => putBits4_extends _ hs) count j s hs

theorem putRows_extends (count i : Nat) (hs : s.extraBit = s.bitOffset % 8) :
    Extends (4 * p.numCols.toNat * count) s (putRows p count i s) :=
  loop_extends (fun i s => putRow p i p.numCols.toNat 0 s) (4 * p.numCols.toNat) (putRows p) (fun _ _ => rfl)
    (fun _ _ _ => rfl) (fun _ _ hs => putRow_extends p _ _ 0 hs) count i s hs

def peakLuminanceWidth (p : PeakLuminance) : Nat :=
  if p.flag ≠ 0 then 1 + 5 + 5 + 4 * p.numCols.toNat * p.numRows.toNat else 1

theorem putPeakLuminance_extends (hs : s.extraBit = s.bitOffset % 8) :
    Extends (peakLuminanceWidth p) s (putPeakLuminance p s) := by
  have hflag := putFlag_extends p.flag hs
  rw [putPeakLuminance, peakLuminanceWidth]
  split_ifs
  · have hrows := hflag.trans (putBits5_extends p.numRows hflag.extraBit)
    have hcols := hrows.trans (putBits5_extends p.numCols hrows.extraBit)
    exact hcols.trans (putRows_extends p _ 0 hcols.extraBit)
  · exact hflag

theorem putFullMaxscl_extends (w count i : Nat) (hs : s.extraBit = s.bitOffset % 8) :
    Extends (17 * count) s (FullT35Writer.putMaxscl d w count i s) :=
  loop_extends (fun i s => putBits17 (d.maxscl w i) s) 17 (FullT35Writer.putMaxscl d w) (fun _ _ => rfl)
    (fun _ _ _ => rfl) (fun _ _ hs => putBits17_extends _ hs) count i s hs

theorem putFullPercentiles_extends (w count i : Nat) (hs : s.extraBit = s.bitOffset % 8) :
    Extends (24 * count) s (FullT35Writer.putPercentiles d w count i s) :=
  loop_extends (fun i s => putBits17 (d.maxrgbPercentiles w i) (putMaxrgbPercentage (d.maxrgbPercentages w i) s)) 24
    (FullT35Writer.putPercentiles d w) (fun _ _ => rfl) (fun _ _ _ => rfl)
    (fun _ _ hs => (putMaxrgbPercentage_extends _ hs).trans
      (putBits17_extends _ (putMaxrgbPercentage_extends _ hs).extraBit)) count i s hs

def countWidth (offset : Nat) : Nat := min (8 - offset % 8) 4

theorem putWindowStatistics_extends (negativeShift : NegativeShift) (d : FullHdrData) (w : Nat)
    (hs : s.extraBit = s.bitOffset % 8) :
    Extends (78 + countWidth (s.bitOffset + 68) + 24 * (d.numMaxrgbPercentiles w).toNat) s
      (putWindowStatistics negativeShift d w s) := by
  have h := putFullMaxscl_extends d w 3 0 hs
  have h := h.trans (putBits17_extends (d.averageMaxrgb w) h.extraBit)
  have hphase := h.extraBit
  rw [h.bitOffset] at hphase
  have hcnt := h.trans (putFullNumMaxrgbPercentiles_extends negativeShift d w h.extraBit)
  have h := hcnt.trans (putFullPercentiles_extends d w (d.numMaxrgbPercentiles w).toNat 0 hcnt.extraBit)
  have h := h.trans (putBezierCurveAnchor_extends (d.fractionBrightPixels w) h.extraBit)
  rw [hphase] at h
  have hwidth : 17 * 3 + 17 + min (8 - (s.bitOffset + (17 * 3 + 17)) % 8) 4 + 24 * (d.numMaxrgbPercentiles w).toNat +
    10 =
      78 + countWidth (s.bitOffset + 68) + 24 * (d.numMaxrgbPercentiles w).toNat := by
    rw [countWidth]
    omega
  rw [hwidth] at h
  exact h

theorem putAnchors_extends (t : FullToneMapping) (w count i : Nat) (hs : s.extraBit = s.bitOffset % 8) :
    Extends (10 * count) s (FullT35Writer.putAnchors t w count i s) :=
  loop_extends (fun i s => putBezierCurveAnchor (t.bezierCurveAnchors w i) s) 10 (FullT35Writer.putAnchors t w)
    (fun _ _ => rfl) (fun _ _ _ => rfl) (fun _ _ hs => putBezierCurveAnchor_extends _ hs) count i s hs

def curveWidth (t : FullToneMapping) (w : Nat) : Nat :=
  if t.toneMappingFlag w ≠ 0 then 1 + 12 + 12 + 4 + 10 * (t.numBezierCurveAnchors w).toNat else 1

theorem putCurve_extends (t : FullToneMapping) (w : Nat) (hs : s.extraBit = s.bitOffset % 8) :
    Extends (curveWidth t w) s (FullT35Writer.putCurve t w s) := by
  have hflag := putFlag_extends (t.toneMappingFlag w) hs
  rw [FullT35Writer.putCurve, curveWidth]
  split_ifs
  · have h := hflag.trans (putKneePoint_extends (t.kneePointX w) hflag.extraBit)
    have h := h.trans (putKneePoint_extends (t.kneePointY w) h.extraBit)
    have h := h.trans (putBits4_extends (t.numBezierCurveAnchors w) h.extraBit)
    exact h.trans (putAnchors_extends t w _ 0 h.extraBit)
  · exact hflag

def saturationWidth (d : FullHdrData) (i : Nat) : Nat := if d.colorSaturationMappingFlag i ≠ 0 then 1 + 5 else 1

variable {i : Nat}

theorem putColorSaturation_set {d : FullHdrData} (s : WriterState) (hset : d.colorSaturationMappingFlag i ≠ 0) :
    putColorSaturation d i s = (1 + (if (putFlag (d.colorSaturationMappingFlag i) s).extraBit > 3 then 1 else 0),
      putBits5 d.targetedSystemDisplay.numRows (putFlag (d.colorSaturationMappingFlag i) s)) := if_pos hset

theorem putColorSaturation_clear {d : FullHdrData} (s : WriterState) (hclear : ¬ d.colorSaturationMappingFlag i ≠ 0) :
    putColorSaturation d i s = (i, putFlag (d.colorSaturationMappingFlag i) s) := if_neg hclear

theorem putColorSaturation_extends (i : Nat) (hs : s.extraBit = s.bitOffset % 8) :
    Extends (saturationWidth d i) s (putColorSaturation d i s).2 := by
  have hflag := putFlag_extends (d.colorSaturationMappingFlag i) hs
  rw [saturationWidth]
  split_ifs with hset
  · rw [putColorSaturation_set s hset]
    exact hflag.trans (putBits5_extends _ hflag.extraBit)
  · rw [putColorSaturation_clear s hset]
    exact hflag

theorem putColorSaturation_next {d : FullHdrData} {s : WriterState} (hset : d.colorSaturationMappingFlag i ≠ 0)
    (hs : s.extraBit = s.bitOffset % 8) :
    (putColorSaturation d i s).1 = if (s.bitOffset + 1) % 8 > 3 then 2 else 1 := by
  have hflag := putFlag_extends (d.colorSaturationMappingFlag i) hs
  rw [putColorSaturation_set s hset, hflag.extraBit, hflag.bitOffset]
  split_ifs <;> rfl

end ExynosHal.VideoApi.FullT35WriterFrame
