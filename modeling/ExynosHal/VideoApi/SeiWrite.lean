import ExynosHal.VideoApi.HdrData
import ExynosHal.VideoApi.PutBits

/-! # `Exynos_sei_write` (default build)

The calls of `put_bits` are listed field by field in the order of the source, with the number of bits each
asks for.
-/

namespace ExynosHal.VideoApi.SeiWrite
open Library.BitString HdrData PutBits

abbrev Field := Nat × U32

def startCodeFields : List Field := [(8, 0x00#32), (8, 0x00#32), (8, 0x00#32), (8, 0x01#32)]

def nalUnitHeaderFields (nalUnitType : U32) : List Field :=
  [(1, 0x00#32), (6, nalUnitType), (6, 0x00#32), (3, 0x01#32)]

def getPayloadSize (d : ExynosHdrData) : Nat :=
  let numBits := 8 + 16 + 16 + 8 + 8 + 2
  let numBits := numBits + (16 + 16 + 16 + 16 + 16 + 16 + 8 + 16 + 16 + 16 + 1)
  let numBits := numBits + (27 + 1)
  let numBits := numBits + 3 * 17
  let numBits := numBits + (17 + 4)
  let numBits := numBits + d.numMaxrgbPercentiles.toNat * (7 + 17)
  let numBits := numBits + (10 + 1 + 1)
  let numBits := numBits + if d.toneMapping.toneMappingFlag = 1 then
    (12 + 12 + 4) + d.toneMapping.numBezierCurveAnchors.toNat * 10 else 0
  let numBits := numBits + 1
  let numBits := if numBits % 8 ≠ 0 then numBits + (8 - numBits % 8) else numBits
  numBits / 8

def payloadHeaderFields (d : ExynosHdrData) : List Field :=
  [(8, d.countryCode.setWidth 32), (16, d.providerCode.setWidth 32), (16, d.providerOrientedCode.setWidth 32),
    (8, d.applicationIdentifier.setWidth 32), (8, d.applicationVersion.setWidth 32)]

def plainFields (d : ExynosHdrData) : List Field := startCodeFields ++ nalUnitHeaderFields 0x27#32 ++
    [(8, 0x04#32), (8, BitVec.ofNat 32 (getPayloadSize d))] ++ payloadHeaderFields d

def windowFields : List Field :=
  [(2, 0x01#32), (16, 0x01#32), (16, 0x01#32), (16, 0x01#32), (16, 0x01#32), (16, 0x01#32), (16, 0x01#32),
    (8, 0x01#32), (16, 0x01#32), (16, 0x01#32), (16, 0x01#32), (1, 0x01#32)]

def maxsclFields (d : ExynosHdrData) : List Field := (List.range 3).map fun i => (17, d.maxscl i)

def percentileFields (d : ExynosHdrData) : List Field := (List.range d.numMaxrgbPercentiles.toNat).flatMap fun i =>
    [(7, (d.maxrgbPercentages i).setWidth 32), (17, d.maxrgbPercentiles i)]

def toneMappingFields (t : ToneMapping) : List Field := (1, t.toneMappingFlag.setWidth 32) ::
    if t.toneMappingFlag = 1 then
      [(12, t.kneePointX.setWidth 32), (12, t.kneePointY.setWidth 32), (4, t.numBezierCurveAnchors.setWidth 32)] ++
        (List.range t.numBezierCurveAnchors.toNat).map fun i => (10, (t.bezierCurveAnchors i).setWidth 32)
    else []

def bodyFields (d : ExynosHdrData) : List Field := [(27, d.displayMaximumLuminance), (1, 0x00#32)] ++ maxsclFields d ++
    [(17, 0x01#32), (4, d.numMaxrgbPercentiles.setWidth 32)] ++ percentileFields d ++
    [(10, 0x01#32), (1, 0x00#32)] ++ toneMappingFields d.toneMapping ++ [(1, 0x00#32)]

def enableEpb (s : BitWriter) : BitWriter := { s with packedStr := { s.packedStr with isEpbOn := true } }

def putByteAlign (s : BitWriter) : BitWriter :=
  let byteAlignBit := s.packedStr.writeBitSize % 8
  if byteAlignBit ≠ 0 then putBits (8 - byteAlignBit) 0 s else s

def seiWrite2094_40 (d : ExynosHdrData) (pStream : List Byte) : List Byte :=
  let s := putFields (plainFields d) { pStream, packedStr := PackedStr.init 0 false }
  let s := putFields (windowFields ++ bodyFields d) (enableEpb s)
  (flushBitstream (putBits 8 0x80 (putByteAlign s))).pStream

/-- Fills the stream up to `nSize`; when it is already longer, only the unit itself is put. -/
def writeFillerDataRbsp (nSize : Int) (pStream : List Byte) : List Byte :=
  let s := putFields (startCodeFields ++ nalUnitHeaderFields 0x26#32)
    { pStream, packedStr := PackedStr.init (pStream.length * 8) false }
  let payloadSize := (nSize - (s.packedStr.writeBitSize / 8 : Nat) - 1).toNat
  let s := putFields (List.replicate payloadSize (8, 0xff#32)) s
  (flushBitstream (putBits 8 0x80 s)).pStream

def exynosSeiWrite (d : ExynosHdrData) (size : Int) : List Byte :=
  if size ≤ 0 then [] else writeFillerDataRbsp size (seiWrite2094_40 d [])

end ExynosHal.VideoApi.SeiWrite
