import ExynosHal.VideoApi.FullHdr
import ExynosHal.VideoApi.SeiWrite

/-! # `Exynos_sei_write` (full build)

The window geometry, both tables, the tone mapping and the saturation of every window are put as they are.
The unit around them and the filler behind it are those of the default build.
-/

namespace ExynosHal.VideoApi.FullSeiWrite
open Library.BitString FullHdr PutBits SeiWrite
open List (range)

/-- Dimensions and cells of a table; what it is called with is in both places the targeted display. -/
def tableSize (p : PeakLuminance) : Nat := if p.flag = 1 then (5 + 5) + p.numRows.toNat * (p.numCols.toNat * 4) else 0

def statisticsSize (d : FullHdrData) (w : Nat) : Nat :=
  3 * 17 + (17 + 4) + (d.numMaxrgbPercentiles w).toNat * (7 + 17) + 10

def toneMappingSize (d : FullHdrData) (w : Nat) : Nat :=
  1 + (if d.toneMapping.toneMappingFlag w = 1 then (12 + 12 + 4) + (d.toneMapping.numBezierCurveAnchors w).toNat *
    10 else 0) + 1 + if d.colorSaturationMappingFlag w = 1 then 6 else 0

def getPayloadSize (d : FullHdrData) : Nat :=
  let numBits := 8 + 16 + 16 + 8 + 8 + 2
  let numBits := numBits + (d.numWindows.toNat - 1) * (16 + 16 + 16 + 16 + 16 + 16 + 8 + 16 + 16 + 16 + 1)
  let numBits := numBits + (27 + 1)
  let numBits := numBits + tableSize d.targetedSystemDisplay
  let numBits := numBits + ((range d.numWindows.toNat).map (statisticsSize d)).sum
  let numBits := numBits + 1
  let numBits := numBits + tableSize d.targetedSystemDisplay
  let numBits := numBits + ((range d.numWindows.toNat).map (toneMappingSize d)).sum
  let numBits := if numBits % 8 ≠ 0 then numBits + (8 - numBits % 8) else numBits
  numBits / 8

def payloadHeaderFields (d : FullHdrData) : List Field :=
  [(8, d.countryCode.setWidth 32), (16, d.providerCode.setWidth 32), (16, d.providerOrientedCode.setWidth 32),
    (8, d.applicationIdentifier.setWidth 32), (8, d.applicationVersion.setWidth 32)]

def plainFields (d : FullHdrData) : List Field := startCodeFields ++ nalUnitHeaderFields 0x27#32 ++
    [(8, 0x04#32), (8, BitVec.ofNat 32 (getPayloadSize d))] ++ payloadHeaderFields d

def ellipseFields (d : FullHdrData) (w : Nat) : List Field :=
  [(16, (d.windowUpperLeftCornerX w).setWidth 32), (16, (d.windowUpperLeftCornerY w).setWidth 32),
    (16, (d.windowLowerRightCornerX w).setWidth 32), (16, (d.windowLowerRightCornerY w).setWidth 32),
    (16, (d.centerOfEllipseX w).setWidth 32), (16, (d.centerOfEllipseY w).setWidth 32),
    (8, (d.rotationAngle w).setWidth 32), (16, (d.semimajorAxisInternalEllipse w).setWidth 32),
    (16, (d.semimajorAxisExternalEllipse w).setWidth 32), (16, (d.semiminorAxisExternalEllipse w).setWidth 32)]

def geometryFields (d : FullHdrData) (w : Nat) : List Field :=
  ellipseFields d w ++ [(1, (d.overlapProcessOption w).setWidth 32)]

def cellFields (p : PeakLuminance) : List Field :=
  (range p.numRows.toNat).flatMap fun i => (range p.numCols.toNat).map fun j => (4, (p.luminance i j).setWidth 32)

def peakLuminanceFields (p : PeakLuminance) : List Field := (1, p.flag.setWidth 32) ::
    if p.flag = 1 then [(5, p.numRows.setWidth 32), (5, p.numCols.setWidth 32)] ++ cellFields p else []

def percentileFields (d : FullHdrData) (w : Nat) : List Field :=
  (range (d.numMaxrgbPercentiles w).toNat).flatMap fun i =>
    [(7, (d.maxrgbPercentages w i).setWidth 32), (17, d.maxrgbPercentiles w i)]

def statisticsFields (d : FullHdrData) (w : Nat) : List Field := ((range 3).map fun i => (17, d.maxscl w i)) ++
    [(17, d.averageMaxrgb w), (4, (d.numMaxrgbPercentiles w).setWidth 32)] ++ percentileFields d w ++
    [(10, (d.fractionBrightPixels w).setWidth 32)]

def curveFields (t : FullToneMapping) (w : Nat) : List Field := (1, (t.toneMappingFlag w).setWidth 32) ::
    if t.toneMappingFlag w = 1 then
      [(12, (t.kneePointX w).setWidth 32), (12, (t.kneePointY w).setWidth 32),
        (4, (t.numBezierCurveAnchors w).setWidth 32)] ++
        (range (t.numBezierCurveAnchors w).toNat).map fun i => (10, (t.bezierCurveAnchors w i).setWidth 32)
    else []

def colorSaturationFields (d : FullHdrData) (w : Nat) : List Field :=
  (1, (d.colorSaturationMappingFlag w).setWidth 32) ::
    if d.colorSaturationMappingFlag w = 1 then [(6, (d.colorSaturationWeight w).setWidth 32)] else []

def toneMappingFields (d : FullHdrData) (w : Nat) : List Field :=
  curveFields d.toneMapping w ++ colorSaturationFields d w

def frontFields (d : FullHdrData) : List Field :=
  [(2, d.numWindows.setWidth 32)] ++ (range (d.numWindows.toNat - 1)).flatMap (geometryFields d) ++
    [(27, d.targetedSystemDisplayMaximumLuminance)]

def bodyFields (d : FullHdrData) : List Field := frontFields d ++ peakLuminanceFields d.targetedSystemDisplay ++
    (range d.numWindows.toNat).flatMap (statisticsFields d) ++ peakLuminanceFields d.masteringDisplay ++
    (range d.numWindows.toNat).flatMap (toneMappingFields d)

def seiWrite2094_40 (d : FullHdrData) (pStream : List Byte) : List Byte :=
  let s := putFields (plainFields d) { pStream, packedStr := PackedStr.init 0 false }
  let s := putFields (bodyFields d) (enableEpb s)
  (flushBitstream (putBits 8 0x80 (putByteAlign s))).pStream

def exynosSeiWrite (d : FullHdrData) (size : Int) : List Byte :=
  if size ≤ 0 then [] else writeFillerDataRbsp size (seiWrite2094_40 d [])

end ExynosHal.VideoApi.FullSeiWrite
