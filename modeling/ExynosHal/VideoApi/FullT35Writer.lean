import ExynosHal.VideoApi.FullHdr
import ExynosHal.VideoApi.T35Writer

/-! # `Exynos_dynamic_meta_to_itu_t_t35` (full build)

The header and the loops over single fields are those of the default build; what the full build adds is
unrolled the same way. Two steps stand out. The number of percentiles is shifted by `4 - extraBit`, which C
leaves undefined for `extraBit > 4`, so what such a shift gives is a parameter.
-/

namespace ExynosHal.VideoApi.FullT35Writer
open Library.BitString Library.BitBuffer FullHdr T35Writer

def putBits16 (value : U16) (s : WriterState) : WriterState :=
  let extraByte := if s.extraBit > 0 then 1 else 0
  putField 16 (2 + extraByte) (value.setWidth 32 <<< (16 - s.extraBit)) s

def putRotationAngle (value : U8) (s : WriterState) : WriterState :=
  let extraByte := if s.extraBit > 0 then 1 else 0
  putField 8 (1 + extraByte) (value.setWidth 32 <<< (24 - s.extraBit)) s

def putBits5 (value : U8) (s : WriterState) : WriterState :=
  let extraByte := if s.extraBit > 3 then 1 else 0
  putField 5 (1 + extraByte) (value.setWidth 32 <<< (27 - s.extraBit)) s

def putBits4 (value : U8) (s : WriterState) : WriterState :=
  let extraByte := if s.extraBit > 4 then 1 else 0
  putField 4 (1 + extraByte) (value.setWidth 32 <<< (28 - s.extraBit)) s

def putFlag (value : U8) (s : WriterState) : WriterState :=
  let pBlob := if value ≠ 0 then orAt s.pBlob (s.bitOffset / 8) (1#8 <<< (7 - s.extraBit)) else s.pBlob
  skip 1 { s with pBlob }

def putFullHeader (d : FullHdrData) (s : WriterState) : WriterState :=
  let s := putHeader8 d.countryCode s
  let s := putHeader16 d.providerCode s
  let s := putHeader16 d.providerOrientedCode s
  let s := putHeader8 d.applicationIdentifier s
  putHeader8 d.applicationVersion s

def putNumWindows (d : FullHdrData) (s : WriterState) : WriterState :=
  let tempBuffer := d.numWindows.setWidth 32 <<< (6 - s.extraBit)
  let s := putLoop (tempBuffer.setWidth 8) (s.bitOffset + 2) 2 0 s
  { s with extraBit := s.bitOffset % 8 }

/-- Behind the last axis stands a comment for `overlap_process_option`, and no code. -/
def putGeometry (d : FullHdrData) (w : Nat) (s : WriterState) : WriterState :=
  let s := putBits16 (d.windowUpperLeftCornerX w) s
  let s := putBits16 (d.windowUpperLeftCornerY w) s
  let s := putBits16 (d.windowLowerRightCornerX w) s
  let s := putBits16 (d.windowLowerRightCornerY w) s
  let s := putBits16 (d.centerOfEllipseX w) s
  let s := putBits16 (d.centerOfEllipseY w) s
  let s := putRotationAngle (d.rotationAngle w) s
  let s := putBits16 (d.semimajorAxisInternalEllipse w) s
  let s := putBits16 (d.semimajorAxisExternalEllipse w) s
  putBits16 (d.semiminorAxisExternalEllipse w) s

def putGeometries (d : FullHdrData) : Nat → Nat → WriterState → WriterState
  | 0, _, s => s
  | count + 1, w, s => putGeometries d count (w + 1) (putGeometry d w s)

def putMaximumLuminance (d : FullHdrData) (s : WriterState) : WriterState :=
  putField 27 4 (d.targetedSystemDisplayMaximumLuminance <<< (5 - s.extraBit)) s

def putRow (p : PeakLuminance) (i : Nat) : Nat → Nat → WriterState → WriterState
  | 0, _, s => s
  | count + 1, j, s => putRow p i count (j + 1) (putBits4 (p.luminance i j) s)

def putRows (p : PeakLuminance) : Nat → Nat → WriterState → WriterState
  | 0, _, s => s
  | count + 1, i, s => putRows p count (i + 1) (putRow p i p.numCols.toNat 0 s)

def putPeakLuminance (p : PeakLuminance) (s : WriterState) : WriterState :=
  let s := putFlag p.flag s
  if p.flag ≠ 0 then
    let s := putBits5 p.numRows s
    let s := putBits5 p.numCols s
    putRows p p.numRows.toNat 0 s
  else s

def putMaxscl (d : FullHdrData) (w : Nat) : Nat → Nat → WriterState → WriterState
  | 0, _, s => s
  | count + 1, i, s => putMaxscl d w count (i + 1) (putBits17 (d.maxscl w i) s)

/-- What the platform makes of a shift to the left by a negative number. -/
abbrev NegativeShift := U32 → Nat → U32

def putNumMaxrgbPercentiles (negativeShift : NegativeShift) (d : FullHdrData) (w : Nat) (s : WriterState) :
    WriterState :=
  let value := (d.numMaxrgbPercentiles w).setWidth 32
  let tempBuffer := if s.extraBit ≤ 4 then value <<< (4 - s.extraBit) else negativeShift value (s.extraBit - 4)
  let s := putLoop (tempBuffer.setWidth 8) (s.bitOffset + 4) (8 - s.extraBit) s.extraBit s
  { s with extraBit := s.bitOffset % 8 }

def putPercentiles (d : FullHdrData) (w : Nat) : Nat → Nat → WriterState → WriterState
  | 0, _, s => s
  | count + 1, i, s =>
    putPercentiles d w count (i + 1)
      (putBits17 (d.maxrgbPercentiles w i) (putMaxrgbPercentage (d.maxrgbPercentages w i) s))

def putWindowStatistics (negativeShift : NegativeShift) (d : FullHdrData) (w : Nat) (s : WriterState) : WriterState :=
  let s := putMaxscl d w 3 0 s
  let s := putBits17 (d.averageMaxrgb w) s
  let s := putNumMaxrgbPercentiles negativeShift d w s
  let s := putPercentiles d w (d.numMaxrgbPercentiles w).toNat 0 s
  putBezierCurveAnchor (d.fractionBrightPixels w) s     -- ten bits, like an anchor

def putStatistics (negativeShift : NegativeShift) (d : FullHdrData) : Nat → Nat → WriterState → WriterState
  | 0, _, s => s
  | count + 1, w, s => putStatistics negativeShift d count (w + 1) (putWindowStatistics negativeShift d w s)

def putAnchors (t : FullToneMapping) (w : Nat) : Nat → Nat → WriterState → WriterState
  | 0, _, s => s
  | count + 1, i, s => putAnchors t w count (i + 1) (putBezierCurveAnchor (t.bezierCurveAnchors w i) s)

def putCurve (t : FullToneMapping) (w : Nat) (s : WriterState) : WriterState :=
  let s := putFlag (t.toneMappingFlag w) s
  if t.toneMappingFlag w ≠ 0 then
    let s := putKneePoint (t.kneePointX w) s
    let s := putKneePoint (t.kneePointY w) s
    let s := putBits4 (t.numBezierCurveAnchors w) s
    putAnchors t w (t.numBezierCurveAnchors w).toNat 0 s
  else s

/-- The weight is not put: its five bits are those of the number of rows of the targeted display. The loops
for them leave `i` at the number of bytes they took, and the loop over the windows goes on from there. -/
def putColorSaturation (d : FullHdrData) (i : Nat) (s : WriterState) : Nat × WriterState :=
  let s := putFlag (d.colorSaturationMappingFlag i) s
  if d.colorSaturationMappingFlag i ≠ 0 then
    (1 + (if s.extraBit > 3 then 1 else 0), putBits5 d.targetedSystemDisplay.numRows s)
  else (i, s)

def putToneMappings (d : FullHdrData) : Nat → Nat → WriterState → Option WriterState
  | 0, _, _ => none
  | fuel + 1, i, s =>
    if i < d.numWindows.toNat then
      let (i, s) := putColorSaturation d i (putCurve d.toneMapping i s)
      putToneMappings d fuel (i + 1) s
    else some s

def putFullFront (negativeShift : NegativeShift) (d : FullHdrData) (s : WriterState) : WriterState :=
  let s := putNumWindows d s
  let s := putGeometries d (d.numWindows.toNat - 1) 0 s
  let s := putMaximumLuminance d s
  let s := putPeakLuminance d.targetedSystemDisplay s
  let s := putStatistics negativeShift d d.numWindows.toNat 0 s
  putPeakLuminance d.masteringDisplay s

def putFullBody (negativeShift : NegativeShift) (fuel : Nat) (d : FullHdrData) (s : WriterState) : Option WriterState :=
  putToneMappings d fuel 0 (putFullFront negativeShift d s)

/-- The state the writer ends in; `dst` is what the caller passes in. -/
def writeFull (negativeShift : NegativeShift) (fuel : Nat) (d : FullHdrData) (dst : Buffer) : Option WriterState :=
  putFullBody negativeShift fuel d (putFullHeader d { pBlob := dst, bitOffset := 0, extraBit := 0 })

def exynosDynamicMetaToItuTT35 (negativeShift : NegativeShift) (fuel : Nat) (d : FullHdrData) (dst : Buffer) :
    Option (Nat × Buffer) :=
  (writeFull negativeShift fuel d dst).map fun s =>
    (if s.extraBit > 0 then s.bitOffset / 8 + 1 else s.bitOffset / 8, s.pBlob)

end ExynosHal.VideoApi.FullT35Writer
