import ExynosHal.VideoApi.FullHdr
import ExynosHal.VideoApi.T35Parser

/-! # `Exynos_parsing_user_data_registered_itu_t_t35` (full build)

The header and the bit loops are those of the default build.
-/

namespace ExynosHal.VideoApi.FullT35Parser
open Library.BitString Library.BitBuffer HdrData FullHdr T35Parser
open Function (update)

structure FullState where
  dest : FullHdrData
  bitOffset : Nat
  extraBit : Nat

/-- An error is `return -1`, with what has been stored into `dest` until then. -/
abbrev FullParse := Except FullHdrData FullState

/-- The byte loop: the first `shifts` bytes are followed by `data = data << 8`. -/
def readLoop (src : Buffer) (shifts : Nat) : Nat → Nat → Nat → Nat → U32 → U32
  | 0, _, _, _, data => data
  | nBytes + 1, j, i, extraBit, data =>
    let data := orBits (src i) (8 - extraBit) extraBit data
    readLoop src shifts nBytes (j + 1) (i + 1) 0 (if j < shifts then data <<< 8 else data)

def skipTo (width : Nat) (s : FullState) : FullState :=
  { s with bitOffset := s.bitOffset + width, extraBit := (s.bitOffset + width) % 8 }

def readFull (src : Buffer) (width nBytes shifts : Nat) (s : FullState) : U32 × FullState :=
  let s' := skipTo width s
  (alignData s'.extraBit (readLoop src shifts nBytes 0 (s.bitOffset / 8) s.extraBit 0), s')

def readFullFlag (src : Buffer) (s : FullState) : U32 × FullState :=
  let s' := skipTo 1 s
  (alignData s'.extraBit (orBits (src (s.bitOffset / 8)) 1 s.extraBit 0), s')

/-- This flag alone is shifted also when `extraBit` is zero, which loses it. -/
def readFullToneMappingFlag (src : Buffer) (s : FullState) : U32 × FullState :=
  let s' := skipTo 1 s
  ((orBits (src (s.bitOffset / 8)) 1 s.extraBit 0).sshiftRight (8 - s'.extraBit), s')

def readFull16 (src : Buffer) (s : FullState) : U32 × FullState :=
  readFull src 16 (2 + if s.extraBit > 0 then 1 else 0) 2 s

def readFull8 (src : Buffer) (s : FullState) : U32 × FullState :=
  readFull src 8 (1 + if s.extraBit > 0 then 1 else 0) 1 s

def readFull27 (src : Buffer) (s : FullState) : U32 × FullState :=
  let extraByte := if s.extraBit > 5 then 2 else 1
  readFull src 27 (3 + extraByte) (3 + extraByte - 1) s

def readFull17 (src : Buffer) (s : FullState) : U32 × FullState := readFull src 17 3 2 s

/-- Fields of less than a byte: `data` is shifted behind the first byte if there is a second. -/
def readFullShort (src : Buffer) (width limit : Nat) (s : FullState) : U32 × FullState :=
  let extraByte := if s.extraBit > limit then 1 else 0
  readFull src width (1 + extraByte) extraByte s

def readFull7 (src : Buffer) (s : FullState) : U32 × FullState := readFullShort src 7 1 s

def readFull5 (src : Buffer) (s : FullState) : U32 × FullState := readFullShort src 5 3 s

def readFull4 (src : Buffer) (s : FullState) : U32 × FullState := readFullShort src 4 4 s

def readFull6 (src : Buffer) (s : FullState) : U32 × FullState := readFullShort src 6 3 s

def readFull12 (src : Buffer) (s : FullState) : U32 × FullState :=
  let extraByte := if s.extraBit > 5 then 2 else 1
  readFull src 12 (1 + extraByte) (1 + extraByte - 1) s

def readFull10 (src : Buffer) (s : FullState) : U32 × FullState :=
  let extraByte := if s.extraBit > 6 then 2 else 1
  readFull src 10 (1 + extraByte) (1 + extraByte - 1) s

/-- Unlike an anchor, `fraction_bright_pixels` has `data` shifted behind each of its first two bytes. -/
def readFraction (src : Buffer) (s : FullState) : U32 × FullState :=
  readFull src 10 (1 + if s.extraBit > 6 then 2 else 1) 2 s

def readFullHeader (src : Buffer) (nBytes : Nat) (s : FullState) : U32 × FullState :=
  ((List.range nBytes).foldl (fun data i => orByte (src (s.bitOffset / 8 + i)) data) 0,
    { s with bitOffset := s.bitOffset + 8 * nBytes })

def parseFullHeader (src : Buffer) (s : FullState) : FullState :=
  let (data, s) := readFullHeader src 1 s
  let s := { s with dest := { s.dest with countryCode := data.setWidth 8 } }
  let (data, s) := readFullHeader src 2 s
  let s := { s with dest := { s.dest with providerCode := data.setWidth 16 } }
  let (data, s) := readFullHeader src 2 s
  let s := { s with dest := { s.dest with providerOrientedCode := data.setWidth 16 } }
  let (data, s) := readFullHeader src 1 s
  let s := { s with dest := { s.dest with applicationIdentifier := data.setWidth 8 } }
  let (data, s) := readFullHeader src 1 s
  { s with dest := { s.dest with applicationVersion := data.setWidth 8 } }

def parseNumWindows (src : Buffer) (s : FullState) : FullParse :=
  let s' := skipTo 2 s
  let data := (orBits (src (s.bitOffset / 8)) 2 0 0).sshiftRight (8 - s'.extraBit)
  let s := { s' with dest := { s.dest with numWindows := data.setWidth 8 } }
  if s.dest.numWindows.toNat < 1 ∨ s.dest.numWindows.toNat > 3 then .error s.dest else .ok s

def store {n : Nat} (read : FullState → U32 × FullState) (set : FullHdrData → BitVec n → FullHdrData) (s : FullState) :
    FullState :=
  let (data, s) := read s
  { s with dest := set s.dest (data.setWidth n) }

def parseGeometry (src : Buffer) (w : Nat) (s : FullState) : FullState :=
  let s := store (readFull16 src) (fun d v => { d with windowUpperLeftCornerX := update d.windowUpperLeftCornerX w v })
    s
  let s := store (readFull16 src) (fun d v => { d with windowUpperLeftCornerY := update d.windowUpperLeftCornerY w v })
    s
  let s := store (readFull16 src)
      (fun d v => { d with windowLowerRightCornerX := update d.windowLowerRightCornerX w v }) s
  let s := store (readFull16 src)
      (fun d v => { d with windowLowerRightCornerY := update d.windowLowerRightCornerY w v }) s
  let s := store (readFull16 src) (fun d v => { d with centerOfEllipseX := update d.centerOfEllipseX w v }) s
  let s := store (readFull16 src) (fun d v => { d with centerOfEllipseY := update d.centerOfEllipseY w v }) s
  let s := store (readFull8 src) (fun d v => { d with rotationAngle := update d.rotationAngle w v }) s
  let s := store (readFull16 src)
      (fun d v => { d with semimajorAxisInternalEllipse := update d.semimajorAxisInternalEllipse w v }) s
  let s := store (readFull16 src)
      (fun d v => { d with semimajorAxisExternalEllipse := update d.semimajorAxisExternalEllipse w v }) s
  let s := store (readFull16 src)
      (fun d v => { d with semiminorAxisExternalEllipse := update d.semiminorAxisExternalEllipse w v }) s
  store (readFullFlag src) (fun d v => { d with overlapProcessOption := update d.overlapProcessOption w v }) s

def parseGeometries (src : Buffer) : Nat → Nat → FullState → FullState
  | 0, _, s => s
  | count + 1, w, s => parseGeometries src count (w + 1) (parseGeometry src w s)

def parseMaximumLuminance (src : Buffer) (s : FullState) : FullParse :=
  let s := store (readFull27 src) (fun d v => { d with targetedSystemDisplayMaximumLuminance := v }) s
  if s.dest.targetedSystemDisplayMaximumLuminance.toNat > 10000 then .error s.dest else .ok s

structure TableField where
  get : FullHdrData → PeakLuminance
  set : FullHdrData → PeakLuminance → FullHdrData

def targetedField : TableField := ⟨fun d => d.targetedSystemDisplay, fun d p => { d with targetedSystemDisplay := p }⟩

def masteringField : TableField := ⟨fun d => d.masteringDisplay, fun d p => { d with masteringDisplay := p }⟩

def parseRow (src : Buffer) (t : TableField) (i : Nat) : Nat → Nat → FullState → FullState
  | 0, _, s => s
  | count + 1, j, s =>
    parseRow src t i count (j + 1) (store (readFull4 src) (fun d v => t.set d { t.get d with
      luminance := update (t.get d).luminance i (update ((t.get d).luminance i) j v) }) s)

def parseRows (src : Buffer) (t : TableField) (cols : Nat) : Nat → Nat → FullState → FullState
  | 0, _, s => s
  | count + 1, i, s => parseRows src t cols count (i + 1) (parseRow src t i cols 0 s)

def parsePeakLuminance (src : Buffer) (t : TableField) (s : FullState) : FullParse :=
  let s := store (readFullFlag src) (fun d v => t.set d { t.get d with flag := v }) s
  if (t.get s.dest).flag ≠ 0 then
    let s := store (readFull5 src) (fun d v => t.set d { t.get d with numRows := v }) s
    let rows := (t.get s.dest).numRows.toNat
    if rows < 2 ∨ rows > 25 then .error s.dest else
    let s := store (readFull5 src) (fun d v => t.set d { t.get d with numCols := v }) s
    let cols := (t.get s.dest).numCols.toNat
    if cols < 2 ∨ cols > 25 then .error s.dest else
    .ok (parseRows src t cols rows 0 s)
  else .ok s

def update2 {n : Nat} (f : Nat → Nat → BitVec n) (w i : Nat) (v : BitVec n) : Nat → Nat → BitVec n :=
  update f w (update (f w) i v)

def parseMaxscl (src : Buffer) (w : Nat) : Nat → Nat → FullState → FullState
  | 0, _, s => s
  | count + 1, i, s =>
    parseMaxscl src w count (i + 1) (store (readFull17 src) (fun d v => { d with maxscl := update2 d.maxscl w i v }) s)

def parsePercentiles (src : Buffer) (w : Nat) : Nat → Nat → FullState → FullState
  | 0, _, s => s
  | count + 1, i, s =>
    let s := store (readFull7 src) (fun d v => { d with maxrgbPercentages := update2 d.maxrgbPercentages w i v }) s
    parsePercentiles src w count (i + 1)
      (store (readFull17 src) (fun d v => { d with maxrgbPercentiles := update2 d.maxrgbPercentiles w i v }) s)

def parseWindowStatistics (src : Buffer) (w : Nat) (s : FullState) : FullState :=
  let s := parseMaxscl src w 3 0 s
  let s := store (readFull17 src) (fun d v => { d with averageMaxrgb := update d.averageMaxrgb w v }) s
  let s := store (readFull4 src) (fun d v => { d with numMaxrgbPercentiles := update d.numMaxrgbPercentiles w v }) s
  let s := parsePercentiles src w (s.dest.numMaxrgbPercentiles w).toNat 0 s
  store (readFraction src) (fun d v => { d with fractionBrightPixels := update d.fractionBrightPixels w v }) s

def parseStatistics (src : Buffer) : Nat → Nat → FullState → FullState
  | 0, _, s => s
  | count + 1, w, s => parseStatistics src count (w + 1) (parseWindowStatistics src w s)

def parseAnchors (src : Buffer) (w : Nat) : Nat → Nat → FullState → FullState
  | 0, _, s => s
  | count + 1, i, s =>
    parseAnchors src w count (i + 1) (store (readFull10 src) (fun d v => { d with toneMapping := { d.toneMapping with
      bezierCurveAnchors := update2 d.toneMapping.bezierCurveAnchors w i v } }) s)

def parseCurve (src : Buffer) (w : Nat) (s : FullState) : FullParse :=
  let s := store (readFull12 src) (fun d v => { d with toneMapping := { d.toneMapping with
    kneePointX := update d.toneMapping.kneePointX w v } }) s
  let s := store (readFull12 src) (fun d v => { d with toneMapping := { d.toneMapping with
    kneePointY := update d.toneMapping.kneePointY w v } }) s
  let s := store (readFull4 src) (fun d v => { d with toneMapping := { d.toneMapping with
    numBezierCurveAnchors := update d.toneMapping.numBezierCurveAnchors w v } }) s
  let count := (s.dest.toneMapping.numBezierCurveAnchors w).toNat
  if count > maxBezierCurveAnchors s.dest.applicationVersion then .error s.dest else
  .ok (parseAnchors src w count 0 s)

def parseColorSaturation (src : Buffer) (w : Nat) (s : FullState) : FullState :=
  let s := store (readFullFlag src) (fun d v => { d with
    colorSaturationMappingFlag := update d.colorSaturationMappingFlag w v }) s
  if s.dest.colorSaturationMappingFlag w ≠ 0 then
    store (readFull6 src) (fun d v => { d with colorSaturationWeight := update d.colorSaturationWeight w v }) s
  else s

def parseWindowToneMapping (src : Buffer) (w : Nat) (s : FullState) : FullParse := do
  let s := store (readFullToneMappingFlag src) (fun d v => { d with toneMapping := { d.toneMapping with
    toneMappingFlag := update d.toneMapping.toneMappingFlag w v } }) s
  let s ← if s.dest.toneMapping.toneMappingFlag w ≠ 0 then parseCurve src w s else .ok s
  return parseColorSaturation src w s

def parseToneMappings (src : Buffer) : Nat → Nat → FullState → FullParse
  | 0, _, s => .ok s
  | count + 1, w, s => do
    let s ← parseWindowToneMapping src w s
    parseToneMappings src count (w + 1) s

def parseFullPayload (src : Buffer) (s : FullState) : FullParse := do
  let s ← parseNumWindows src (parseFullHeader src s)
  let windows := s.dest.numWindows.toNat
  let s ← parseMaximumLuminance src (parseGeometries src (windows - 1) 0 s)
  let s ← parsePeakLuminance src targetedField s
  let s ← parsePeakLuminance src masteringField (parseStatistics src windows 0 s)
  parseToneMappings src windows 0 s

/-- The return value and `dest` as the caller finds it. -/
def exynosParsingUserDataRegisteredItuTT35 (dest : FullHdrData) (src : Buffer) : Int × FullHdrData :=
  match parseFullPayload src { dest, bitOffset := 0, extraBit := 0 } with
  | .ok s => (0, s.dest)
  | .error dest => (-1, dest)

end ExynosHal.VideoApi.FullT35Parser
