import ExynosHal.Library.BitBuffer
import ExynosHal.VideoApi.HdrData

/-! # `Exynos_parsing_user_data_registered_itu_t_t35` (default build)

Like the writer, the parser unrolls one bit loop for every field, here over the bytes that hold the field,
with the surplus low bits shifted out at the end.
-/

namespace ExynosHal.VideoApi.T35Parser
open Library.BitString Library.BitBuffer HdrData
open Function (update)

structure ParserState where
  dest : ExynosHdrData
  bitOffset : Nat
  extraBit : Nat

/-- An error is `return -1`, with what has been stored into `dest` until then. -/
abbrev Parse := Except ExynosHdrData ParserState

/-- `for (l ...; count times) data |= byte & (1 << (7 - l));` -/
def orBits (byte : Byte) : Nat → Nat → U32 → U32
  | 0, _, data => data
  | count + 1, l, data => orBits byte count (l + 1) (data ||| (byte.setWidth 32 &&& 1#32 <<< (7 - l)))

/-- The byte loop: every byte but the last is followed by `data = data << 8`. -/
def readBytes (src : Buffer) : Nat → Nat → Nat → U32 → U32
  | 0, _, _, data => data
  | nBytes + 1, i, extraBit, data =>
    let data := orBits (src i) (8 - extraBit) extraBit data
    readBytes src nBytes (i + 1) 0 (if nBytes ≠ 0 then data <<< 8 else data)

def skip (width : Nat) (s : ParserState) : ParserState :=
  { s with bitOffset := s.bitOffset + width, extraBit := (s.bitOffset + width) % 8 }

/-- `data = (extraBit != 0) ? (data >> (8 - extraBit)) : data;` -/
def alignData (extraBit : Nat) (data : U32) : U32 :=
  if extraBit ≠ 0 then data.sshiftRight (8 - extraBit) else data

def readField (src : Buffer) (width nBytes : Nat) (s : ParserState) : U32 × ParserState :=
  let s' := skip width s
  (alignData s'.extraBit (readBytes src nBytes (s.bitOffset / 8) s.extraBit 0), s')

def readFlag (src : Buffer) (s : ParserState) : U32 × ParserState :=
  let s' := skip 1 s
  (alignData s'.extraBit (orBits (src (s.bitOffset / 8)) 1 s.extraBit 0), s')

/-- This flag alone is shifted also when `extraBit` is zero, which loses it. -/
def readToneMappingFlag (src : Buffer) (s : ParserState) : U32 × ParserState :=
  let s' := skip 1 s
  ((orBits (src (s.bitOffset / 8)) 1 s.extraBit 0).sshiftRight (8 - s'.extraBit), s')

def readNumWindows (src : Buffer) (s : ParserState) : U32 × ParserState :=
  let s' := skip 2 s
  ((orBits (src (s.bitOffset / 8)) 2 0 0).sshiftRight (8 - s'.extraBit), s')

def readBits27 (src : Buffer) (s : ParserState) : U32 × ParserState :=
  readField src 27 (3 + if s.extraBit > 5 then 2 else 1) s

def readBits17 (src : Buffer) (s : ParserState) : U32 × ParserState := readField src 17 3 s

def readBits12 (src : Buffer) (s : ParserState) : U32 × ParserState :=
  readField src 12 (1 + if s.extraBit > 5 then 2 else 1) s

def readBits10 (src : Buffer) (s : ParserState) : U32 × ParserState :=
  readField src 10 (1 + if s.extraBit > 6 then 2 else 1) s

def readBits7 (src : Buffer) (s : ParserState) : U32 × ParserState :=
  readField src 7 (1 + if s.extraBit > 1 then 1 else 0) s

def readBits5 (src : Buffer) (s : ParserState) : U32 × ParserState :=
  readField src 5 (1 + if s.extraBit > 3 then 1 else 0) s

def readBits4 (src : Buffer) (s : ParserState) : U32 × ParserState :=
  readField src 4 (1 + if s.extraBit > 4 then 1 else 0) s

def orByte (byte : Byte) (data : U32) : U32 :=
  (List.range 8).foldl (fun data j => data ||| (byte.setWidth 32 &&& 1#32 <<< j)) data

def readHeader (src : Buffer) (nBytes : Nat) (s : ParserState) : U32 × ParserState :=
  ((List.range nBytes).foldl (fun data i => orByte (src (s.bitOffset / 8 + i)) data) 0,
    { s with bitOffset := s.bitOffset + 8 * nBytes })

def parseHeader (src : Buffer) (s : ParserState) : ParserState :=
  let (data, s) := readHeader src 1 s
  let s := { s with dest := { s.dest with countryCode := data.setWidth 8 } }
  let (data, s) := readHeader src 2 s
  let s := { s with dest := { s.dest with providerCode := data.setWidth 16 } }
  let (data, s) := readHeader src 2 s
  let s := { s with dest := { s.dest with providerOrientedCode := data.setWidth 16 } }
  let (data, s) := readHeader src 1 s
  let s := { s with dest := { s.dest with applicationIdentifier := data.setWidth 8 } }
  let (data, s) := readHeader src 1 s
  { s with dest := { s.dest with applicationVersion := data.setWidth 8 } }

def skipWindow (s : ParserState) : ParserState :=
  [16, 16, 16, 16, 16, 16, 8, 16, 16, 16, 1].foldl (fun s width => skip width s) s

def skipWindows : Nat → ParserState → ParserState
  | 0, s => s
  | count + 1, s => skipWindows count (skipWindow s)

def parseDisplayMaximumLuminance (src : Buffer) (s : ParserState) : Parse :=
  let (data, s) := readBits27 src s
  let s := { s with dest := { s.dest with displayMaximumLuminance := data } }
  if s.dest.displayMaximumLuminance.toNat > 10000 then .error s.dest else .ok s

def skipCells : Nat → ParserState → ParserState
  | 0, s => s
  | count + 1, s => skipCells count (skip 4 s)

def skipRows (cols : Nat) : Nat → ParserState → ParserState
  | 0, s => s
  | rows + 1, s => skipRows cols rows (skipCells cols s)

/-- The targeted and the mastering display table are parsed alike: flag, number of rows,
number of columns, then four bits a cell that are not kept. -/
def parsePeakLuminance (src : Buffer) (s : ParserState) : Parse :=
  let (flag, s) := readFlag src s
  if flag ≠ 0 then
    let (rows, s) := readBits5 src s
    if rows.toInt < 2 ∨ rows.toInt > 25 then .error s.dest else
    let (cols, s) := readBits5 src s
    if cols.toInt < 2 ∨ cols.toInt > 25 then .error s.dest else
    .ok (skipRows cols.toNat rows.toNat s)
  else .ok s

def parseMaxscl (src : Buffer) : Nat → Nat → ParserState → ParserState
  | 0, _, s => s
  | count + 1, j, s =>
    let (data, s) := readBits17 src s
    parseMaxscl src count (j + 1) { s with dest := { s.dest with maxscl := update s.dest.maxscl j data } }

def parsePercentiles (src : Buffer) : Nat → Nat → ParserState → ParserState
  | 0, _, s => s
  | count + 1, j, s =>
    let (data, s) := readBits7 src s
    let s := { s with dest := { s.dest with
      maxrgbPercentages := update s.dest.maxrgbPercentages j (data.setWidth 8) } }
    let (data, s) := readBits17 src s
    parsePercentiles src count (j + 1) { s with dest := { s.dest with
      maxrgbPercentiles := update s.dest.maxrgbPercentiles j data } }

def parseWindowStatistics (src : Buffer) (s : ParserState) : ParserState :=
  let s := parseMaxscl src 3 0 s
  let s := skip 17 s      -- average_maxrgb
  let (data, s) := readBits4 src s
  let s := { s with dest := { s.dest with numMaxrgbPercentiles := data.setWidth 8 } }
  let s := parsePercentiles src s.dest.numMaxrgbPercentiles.toNat 0 s
  skip 10 s               -- fraction_bright_pixels

def parseStatistics (src : Buffer) : Nat → ParserState → ParserState
  | 0, s => s
  | windows + 1, s => parseStatistics src windows (parseWindowStatistics src s)

def parseAnchors (src : Buffer) : Nat → Nat → ParserState → ParserState
  | 0, _, s => s
  | count + 1, j, s =>
    let (data, s) := readBits10 src s
    let t := s.dest.toneMapping
    parseAnchors src count (j + 1) { s with dest := { s.dest with toneMapping := { t with
      bezierCurveAnchors := update t.bezierCurveAnchors j (data.setWidth 16) } } }

def parseCurve (src : Buffer) (s : ParserState) : Parse :=
  let (data, s) := readBits12 src s
  let s := { s with dest := { s.dest with
    toneMapping := { s.dest.toneMapping with kneePointX := data.setWidth 16 } } }
  let (data, s) := readBits12 src s
  let s := { s with dest := { s.dest with
    toneMapping := { s.dest.toneMapping with kneePointY := data.setWidth 16 } } }
  let (data, s) := readBits4 src s
  let s := { s with dest := { s.dest with
    toneMapping := { s.dest.toneMapping with numBezierCurveAnchors := data.setWidth 16 } } }
  let count := s.dest.toneMapping.numBezierCurveAnchors.toNat
  if count > maxBezierCurveAnchors s.dest.applicationVersion then .error s.dest else
  .ok (parseAnchors src count 0 s)

def skipColorSaturation (src : Buffer) (s : ParserState) : ParserState :=
  let (flag, s) := readFlag src s
  if flag ≠ 0 then skip 6 s else s

def parseWindowToneMapping (src : Buffer) (s : ParserState) : Parse := do
  let (data, s) := readToneMappingFlag src s
  let s := { s with dest := { s.dest with
    toneMapping := { s.dest.toneMapping with toneMappingFlag := data.setWidth 16 } } }
  let s ← if s.dest.toneMapping.toneMappingFlag ≠ 0 then parseCurve src s else .ok s
  return skipColorSaturation src s

def parseToneMapping (src : Buffer) : Nat → ParserState → Parse
  | 0, s => .ok s
  | windows + 1, s => do
    let s ← parseWindowToneMapping src s
    parseToneMapping src windows s

def parseBody (src : Buffer) (windows : Nat) (s : ParserState) : Parse := do
  let s ← parseDisplayMaximumLuminance src (skipWindows (windows - 1) s)
  let s ← parsePeakLuminance src s
  let s ← parsePeakLuminance src (parseStatistics src windows s)
  parseToneMapping src windows s

def parsePayload (src : Buffer) (s : ParserState) : Parse :=
  let (windows, s) := readNumWindows src (parseHeader src s)
  if windows.toInt < 1 ∨ windows.toInt > 3 then .error s.dest else parseBody src windows.toNat s

/-- The return value and `dest` as the caller finds it. -/
def exynosParsingUserDataRegisteredItuTT35 (dest : ExynosHdrData) (src : Buffer) : Int × ExynosHdrData :=
  match parsePayload src { dest, bitOffset := 0, extraBit := 0 } with
  | .ok s => (0, s.dest)
  | .error dest => (-1, dest)

end ExynosHal.VideoApi.T35Parser
