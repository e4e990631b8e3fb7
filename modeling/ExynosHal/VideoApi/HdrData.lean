import ExynosHal.Library.BitString

/-! # Dynamic HDR metadata and its wire layout (default build)

`ExynosHdrData` follows `ExynosHdrData_ST2094_40` of `VendorVideoAPI.h` as it is compiled without
`USE_FULL_ST2094_40`; a C array is a function of its index.
-/

namespace ExynosHal.VideoApi.HdrData
open Library.BitString

structure ToneMapping where
  toneMappingFlag : U16
  kneePointX : U16
  kneePointY : U16
  numBezierCurveAnchors : U16
  bezierCurveAnchors : Nat → U16

structure ExynosHdrData where
  countryCode : U8
  providerCode : U16
  providerOrientedCode : U16
  applicationIdentifier : U8
  applicationVersion : U8
  displayMaximumLuminance : U32
  maxscl : Nat → U32
  numMaxrgbPercentiles : U8
  maxrgbPercentages : Nat → U8
  maxrgbPercentiles : Nat → U32
  toneMapping : ToneMapping

def maxBezierCurveAnchors (applicationVersion : U8) : Nat :=
  if applicationVersion = 1 then 9 else 15

/-- The curve fields of a tone mapping whose flag is set fit the wire. -/
structure ToneMapping.InRange (t : ToneMapping) (applicationVersion : U8) : Prop where
  kneePointX : t.kneePointX.toNat < 2 ^ 12
  kneePointY : t.kneePointY.toNat < 2 ^ 12
  anchorCount : t.numBezierCurveAnchors.toNat ≤ maxBezierCurveAnchors applicationVersion
  anchors : ∀ i < t.numBezierCurveAnchors.toNat, (t.bezierCurveAnchors i).toNat < 2 ^ 10

/-- Every body field fits its wire width and passes the checks of the parser. -/
structure InRange (d : ExynosHdrData) : Prop where
  displayMaximumLuminance : d.displayMaximumLuminance.toNat ≤ 10000
  maxscl : ∀ i < 3, (d.maxscl i).toNat < 2 ^ 17
  percentileCount : d.numMaxrgbPercentiles.toNat ≤ 15
  percentages : ∀ i < d.numMaxrgbPercentiles.toNat, (d.maxrgbPercentages i).toNat < 2 ^ 7
  percentiles : ∀ i < d.numMaxrgbPercentiles.toNat, (d.maxrgbPercentiles i).toNat < 2 ^ 17
  flag : d.toneMapping.toneMappingFlag = 0 ∨ d.toneMapping.toneMappingFlag = 1
  toneMapping : d.toneMapping.toneMappingFlag = 1 → d.toneMapping.InRange d.applicationVersion

/-- `r` agrees with `d` on everything the payload body carries of `d`. -/
structure Restores (d r : ExynosHdrData) : Prop where
  displayMaximumLuminance : r.displayMaximumLuminance = d.displayMaximumLuminance
  maxscl : ∀ i < 3, r.maxscl i = d.maxscl i
  numMaxrgbPercentiles : r.numMaxrgbPercentiles = d.numMaxrgbPercentiles
  percentages : ∀ i < d.numMaxrgbPercentiles.toNat, r.maxrgbPercentages i = d.maxrgbPercentages i
  percentiles : ∀ i < d.numMaxrgbPercentiles.toNat, r.maxrgbPercentiles i = d.maxrgbPercentiles i
  toneMappingFlag : r.toneMapping.toneMappingFlag = d.toneMapping.toneMappingFlag
  kneePoint : d.toneMapping.toneMappingFlag = 1 →
    r.toneMapping.kneePointX = d.toneMapping.kneePointX ∧ r.toneMapping.kneePointY = d.toneMapping.kneePointY
  anchorCount : d.toneMapping.toneMappingFlag = 1 →
    r.toneMapping.numBezierCurveAnchors = d.toneMapping.numBezierCurveAnchors
  anchors : d.toneMapping.toneMappingFlag = 1 → ∀ i < d.toneMapping.numBezierCurveAnchors.toNat,
    r.toneMapping.bezierCurveAnchors i = d.toneMapping.bezierCurveAnchors i

theorem Restores.trans {a b c : ExynosHdrData} (hab : Restores a b) (hbc : Restores b c) : Restores a c where
  displayMaximumLuminance := hbc.displayMaximumLuminance.trans hab.displayMaximumLuminance
  maxscl i hi := (hbc.maxscl i hi).trans (hab.maxscl i hi)
  numMaxrgbPercentiles := hbc.numMaxrgbPercentiles.trans hab.numMaxrgbPercentiles
  percentages i hi := (hbc.percentages i (hab.numMaxrgbPercentiles ▸ hi)).trans (hab.percentages i hi)
  percentiles i hi := (hbc.percentiles i (hab.numMaxrgbPercentiles ▸ hi)).trans (hab.percentiles i hi)
  toneMappingFlag := hbc.toneMappingFlag.trans hab.toneMappingFlag
  kneePoint hone :=
    have h := hbc.kneePoint (hab.toneMappingFlag.trans hone)
    ⟨h.1.trans (hab.kneePoint hone).1, h.2.trans (hab.kneePoint hone).2⟩
  anchorCount hone := (hbc.anchorCount (hab.toneMappingFlag.trans hone)).trans (hab.anchorCount hone)
  anchors hone i hi :=
    (hbc.anchors (hab.toneMappingFlag.trans hone) i (hab.anchorCount hone ▸ hi)).trans (hab.anchors hone i hi)

theorem maxBezierCurveAnchors_le (version : U8) : maxBezierCurveAnchors version ≤ 15 := by
  unfold maxBezierCurveAnchors
  split <;> omega

def headerBits (d : ExynosHdrData) : List Bool := toBits 8 d.countryCode.toNat ++ toBits 16 d.providerCode.toNat ++
    toBits 16 d.providerOrientedCode.toNat ++ toBits 8 d.applicationIdentifier.toNat ++
    toBits 8 d.applicationVersion.toNat

def maxsclBits (d : ExynosHdrData) : List Bool := (List.range 3).flatMap fun i => toBits 17 (d.maxscl i).toNat

def percentileBits (d : ExynosHdrData) (i : Nat) : List Bool :=
  toBits 7 (d.maxrgbPercentages i).toNat ++ toBits 17 (d.maxrgbPercentiles i).toNat

def percentileListBits (d : ExynosHdrData) (count : Nat) : List Bool := (List.range count).flatMap (percentileBits d)

def anchorListBits (t : ToneMapping) (count : Nat) : List Bool :=
  (List.range count).flatMap fun i => toBits 10 (t.bezierCurveAnchors i).toNat

def curveBits (t : ToneMapping) : List Bool := toBits 12 t.kneePointX.toNat ++ toBits 12 t.kneePointY.toNat ++
    toBits 4 t.numBezierCurveAnchors.toNat ++ anchorListBits t t.numBezierCurveAnchors.toNat

def toneMappingBits (t : ToneMapping) : List Bool :=
  toBits 1 t.toneMappingFlag.toNat ++ if t.toneMappingFlag = 1 then curveBits t else []

/-- Everything from the luminance on, for one window: the two writers differ in the
average and the bright-pixel fraction they put, which the metadata does not carry. -/
def bodyBits (averageMaxrgb fractionBrightPixels : Nat) (d : ExynosHdrData) : List Bool :=
  toBits 27 d.displayMaximumLuminance.toNat ++ toBits 1 0 ++ maxsclBits d ++
    toBits 17 averageMaxrgb ++ toBits 4 d.numMaxrgbPercentiles.toNat ++
    percentileListBits d d.numMaxrgbPercentiles.toNat ++ toBits 10 fractionBrightPixels ++
    toBits 1 0 ++ toneMappingBits d.toneMapping ++ toBits 1 0

@[simp] theorem length_headerBits (d : ExynosHdrData) : (headerBits d).length = 56 := by
  simp [headerBits]

@[simp] theorem length_maxsclBits (d : ExynosHdrData) : (maxsclBits d).length = 51 := by
  simp [maxsclBits, List.range_succ]

end ExynosHal.VideoApi.HdrData
