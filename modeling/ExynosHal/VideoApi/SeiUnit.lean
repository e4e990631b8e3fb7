import ExynosHal.VideoApi.FullSeiFields
import ExynosHal.VideoApi.HeaderRoundTrip

/-! # The SEI unit of both builds

The builds differ in the fields of the payload and in the size they announce.
-/

namespace ExynosHal.VideoApi.SeiUnit
open Library.BitString Library.StartCode PutBits PutBitsCorrect SeiWrite SeiRoundTrip
open HdrData (ExynosHdrData)
open FullHdr (FullHdrData)
open HeaderRoundTrip (Header headerOf fullHeaderOf)
open BitVec (ofNat toNat_ofNat)
open FullSeiFields (fieldsFit_cons fieldsFit_nil)

inductive HdrDataSt2094
  | default (d : ExynosHdrData)
  | full (d : FullHdrData)

namespace HdrDataSt2094

def InRange : HdrDataSt2094 → Prop
  | default d => HdrData.InRange d
  | full d => FullHdr.InRange d

def header : HdrDataSt2094 → Header
  | default d => headerOf d
  | full d => fullHeaderOf d

def bodyFields : HdrDataSt2094 → List Field
  | default d => windowFields ++ SeiWrite.bodyFields d
  | full d => FullSeiWrite.bodyFields d

def getPayloadSize : HdrDataSt2094 → Nat
  | default d => SeiWrite.getPayloadSize d
  | full d => FullSeiWrite.getPayloadSize d

def seiWrite2094_40 : HdrDataSt2094 → List Byte
  | default d => SeiWrite.seiWrite2094_40 d []
  | full d => FullSeiWrite.seiWrite2094_40 d []

def exynosSeiWrite (m : HdrDataSt2094) (size : Int) : List Byte :=
  match m with
  | default d => SeiWrite.exynosSeiWrite d size
  | full d => FullSeiWrite.exynosSeiWrite d size

end HdrDataSt2094

def headerFront (h : Header) : List Byte :=
  [h.countryCode, .ofNat 8 (h.providerCode.toNat / 2 ^ 8), .ofNat 8 h.providerCode.toNat,
    .ofNat 8 (h.providerOrientedCode.toNat / 2 ^ 8)]

def headerBack (h : Header) : List Byte :=
  [.ofNat 8 h.providerOrientedCode.toNat, h.applicationIdentifier, h.applicationVersion]

def headerFields (h : Header) : List Field :=
  [(8, h.countryCode.setWidth 32), (16, h.providerCode.setWidth 32), (16, h.providerOrientedCode.setWidth 32),
    (8, h.applicationIdentifier.setWidth 32), (8, h.applicationVersion.setWidth 32)]

def unitFields (size : Nat) (h : Header) : List Field :=
  startCodeFields ++ nalUnitHeaderFields 0x27#32 ++ [(8, 0x04#32), (8, ofNat 32 size)] ++ headerFields h

def joinedFields (size : Nat) (h : Header) : List Field :=
  startCodeFields ++ nalUnitHeaderFields 0x27#32 ++ [(16, 0x04#32 <<< 8 ||| ofNat 32 size)] ++ headerFields h

def frontBytes (size : Nat) (h : Header) : List Byte :=
  [0x00#8, 0x00#8, 0x00#8, 0x01#8, 0x4E#8, 0x01#8] ++ toBytes (toBits 16 (0x04#32 <<< 8 ||| ofNat 32 size).toNat) ++
    headerFront h

theorem length_frontBytes (size : Nat) (h : Header) : (frontBytes size h).length = 12 := by
  rw [frontBytes, List.length_append, List.length_append, length_toBytes _ ⟨2, length_toBits 16 _⟩, length_toBits]
  rfl

theorem putBits_full {s : BitWriter} {number : Nat} (data : U32) (hroom : s.packedStr.remainedBitsInPackedData =
    number) :
    putBits number data s = writeWord (s.packedStr.packedData ||| data) (s.packedStr.writeBitSize + number) s := by
  rw [putBits]
  simp [hroom]

theorem putBits_join {s : BitWriter} (high low : U32) (hroom : s.packedStr.remainedBitsInPackedData = 16) :
    putBits 8 low (putBits 8 high s) = putBits 16 (high <<< 8 ||| low) s := by
  have hfst : putBits 8 high s = { s with packedStr := { s.packedStr with
      packedData := s.packedStr.packedData ||| high <<< 8
      remainedBitsInPackedData := 8
      writeBitSize := s.packedStr.writeBitSize + 8
      remained_pos := by decide
      remained_le := by decide } } := by
    rw [putBits]
    simp [hroom]
  have hsnd : putBits 8 low (putBits 8 high s) = _ := putBits_full low (by rw [hfst])
  rw [putBits_full _ hroom, hsnd, hfst, writeWord, writeWord, BitVec.or_assoc]

theorem putFields_unitFields (size : Nat) (h : Header) :
    putFields (unitFields size h) { pStream := [], packedStr := PackedStr.init 0 false } =
      putFields (joinedFields size h) { pStream := [], packedStr := PackedStr.init 0 false } := by
  have hadv := putFields_advances (startCodeFields ++ nalUnitHeaderFields 0x27#32)
      { pStream := [], packedStr := PackedStr.init 0 false }
  have happend (a b : List Field) (s : BitWriter) : putFields (a ++ b) s = putFields b (putFields a s) :=
    List.foldl_append
  have hroom := hadv.remained rfl
  have hinit : (PackedStr.init 0 false).remainedBitsInPackedData = 32 := rfl
  have hwidth : ((startCodeFields ++ nalUnitHeaderFields 0x27#32).map Prod.fst).sum = 48 := rfl
  rw [hwidth, hinit] at hroom
  rw [unitFields, joinedFields, happend, happend, happend _ (headerFields h), happend _ [(16, _)]]
  generalize putFields (startCodeFields ++ nalUnitHeaderFields 0x27#32)
    { pStream := [], packedStr := PackedStr.init 0 false } = s at hroom ⊢
  have hpos := s.packedStr.remained_pos
  have hle := s.packedStr.remained_le
  exact congrArg (putFields (headerFields h)) (putBits_join 0x04#32 (ofNat 32 size) (by omega))

theorem joinedFields_fit {size : Nat} (hsize : size < 2 ^ 16) (h : Header) : FieldsFit (joinedFields size h) := by
  have hsizeVal : (ofNat 32 size).toNat < 2 ^ 16 := by
    rw [toNat_ofNat]
    omega
  have hjoined : (0x04#32 <<< 8 ||| ofNat 32 size).toNat < 2 ^ 16 := by
    rw [BitVec.toNat_or]
    exact Nat.or_lt_two_pow (by decide) hsizeVal
  have hstart : FieldsFit (startCodeFields ++ nalUnitHeaderFields 0x27#32) := by
    rw [FieldsFit]
    decide
  refine fieldsFit_append (fieldsFit_append hstart (fieldsFit_cons ⟨by decide, hjoined⟩ fieldsFit_nil)) ?_
  have h8 (value : U8) := fit_setWidth value 8 (by decide) value.isLt
  have h16 (value : U16) := fit_setWidth value 16 (by decide) value.isLt
  exact fieldsFit_cons (h8 _) (fieldsFit_cons (h16 _) (fieldsFit_cons (h16 _)
    (fieldsFit_cons (h8 _) (fieldsFit_cons (h8 _) fieldsFit_nil))))

theorem toBits_setWidth {n : Nat} (width : Nat) (value : BitVec n) (hn : n ≤ 32) :
    toBits width (value.setWidth 32).toNat = toBits width value.toNat := by
  rw [BitVec.toNat_setWidth, Nat.mod_eq_of_lt (value.isLt.trans_le (Nat.pow_le_pow_right (by decide) hn))]

theorem toBits_sixteen (value : Nat) :
    toBits 16 value = byteBits (.ofNat 8 (value / 2 ^ 8)) ++ byteBits (.ofNat 8 value) := by
  rw [byteBits, byteBits, toNat_ofNat, toNat_ofNat, toBits_mod, toBits_mod]
  exact (toBits_append 8 8 value).symm

theorem fieldBits_headerFields (h : Header) :
    fieldBits (headerFields h) = (headerFront h ++ headerBack h).flatMap byteBits := by
  have h8 (value : U8) := toBits_setWidth 8 value (by decide)
  have h16 (value : U16) := toBits_setWidth 16 value (by decide)
  simp only [headerFields, fieldBits, List.flatMap_cons, List.flatMap_nil, h8, h16, toBits_sixteen, headerFront,
    headerBack, List.cons_append, List.nil_append, List.append_assoc, byteBits]

theorem fieldBits_joinedFields (size : Nat) (h : Header) :
    fieldBits (joinedFields size h) = (frontBytes size h ++ headerBack h).flatMap byteBits := by
  have hstart : fieldBits (startCodeFields ++ nalUnitHeaderFields 0x27#32) =
      [0x00#8, 0x00#8, 0x00#8, 0x01#8, 0x4E#8, 0x01#8].flatMap byteBits := by decide
  have hjoined : fieldBits [(16, 0x04#32 <<< 8 ||| ofNat 32 size)] =
      (toBytes (toBits 16 (0x04#32 <<< 8 ||| ofNat 32 size).toNat)).flatMap byteBits := by
    rw [flatMap_toBytes _ ⟨2, length_toBits 16 _⟩, fieldBits, List.flatMap_cons, List.flatMap_nil, List.append_nil]
  rw [joinedFields, fieldBits_append, fieldBits_append, hstart, hjoined, fieldBits_headerFields, frontBytes]
  simp only [List.flatMap_append, List.append_assoc]

theorem putUnit_eq {size : Nat} (hsize : size < 2 ^ 16) (h : Header) {body : List Field} (hbody : FieldsFit body) :
    (flushBitstream (putBits 8 0x80 (putByteAlign (putFields body
      (enableEpb (putFields (unitFields size h) { pStream := [], packedStr := PackedStr.init 0 false })))))).pStream =
      frontBytes size h ++ escape 0 (headerBack h ++ paddedBytes body ++ [0x80#8]) := by
  rw [putFields_unitFields]
  exact putUnit_stream (joinedFields_fit hsize h) hbody (fieldBits_joinedFields size h) ⟨3, length_frontBytes size h⟩
    (by decide : 3 < 4)

section

open FullSeiWrite FullHdr

variable {d : FullHdrData}

theorem tableSize_le {p : PeakLuminance} (hp : p.InRange) : tableSize p ≤ 2510 := by
  rw [tableSize]
  split_ifs with hone
  · have hcells : p.numRows.toNat * (p.numCols.toNat * 4) ≤ 25 * (25 * 4) :=
      Nat.mul_le_mul (hp.numRows hone).2 (Nat.mul_le_mul_right 4 (hp.numCols hone).2)
    omega
  · exact Nat.zero_le _

theorem statisticsSize_le {w : Nat} (hw : WindowInRange d w) : statisticsSize d w ≤ 442 := by
  have hcnt := hw.numMaxrgbPercentiles
  rw [statisticsSize]
  omega

theorem toneMappingSize_le {w : Nat} (hw : WindowInRange d w) : toneMappingSize d w ≤ 186 := by
  have hcnt := hw.numBezierCurveAnchors
  rw [toneMappingSize]
  split_ifs <;> omega

theorem sum_windows_le {count bound : Nat} {f : Nat → Nat} (hcnt : count ≤ 3) (hf : ∀ w < count, f w ≤ bound) :
    ((List.range count).map f).sum ≤ 3 * bound := by
  have hsum := List.sum_le_card_nsmul ((List.range count).map f) bound fun n hn => by
    obtain ⟨w, hw, rfl⟩ := List.mem_map.mp hn
    exact hf w (List.mem_range.mp hw)
  rw [List.length_map, List.length_range, smul_eq_mul] at hsum
  exact hsum.trans (Nat.mul_le_mul_right bound hcnt)

def declaredBits (d : FullHdrData) : Nat :=
  31 + 153 * (d.numWindows.toNat - 1) + tableSize d.targetedSystemDisplay +
    ((List.range d.numWindows.toNat).map (statisticsSize d)).sum +
    tableSize d.targetedSystemDisplay + ((List.range d.numWindows.toNat).map (toneMappingSize d)).sum

theorem getPayloadSize_eq_declared (d : FullHdrData) :
    FullSeiWrite.getPayloadSize d = 7 + (declaredBits d + 7) / 8 := by
  rw [FullSeiWrite.getPayloadSize, declaredBits]
  split_ifs <;> omega

theorem fullPayloadSize_lt (hd : FullHdr.InRange d) : FullSeiWrite.getPayloadSize d < 2 ^ 16 := by
  have htable := tableSize_le hd.targetedSystemDisplay
  have hwins := hd.numWindows.2
  have hstatistics : ((List.range d.numWindows.toNat).map (statisticsSize d)).sum ≤ _ :=
    sum_windows_le hwins fun w hw => statisticsSize_le (hd.window w hw)
  have htone : ((List.range d.numWindows.toNat).map (toneMappingSize d)).sum ≤ _ :=
    sum_windows_le hwins fun w hw => toneMappingSize_le (hd.window w hw)
  rw [getPayloadSize_eq_declared, declaredBits]
  omega

end

namespace HdrDataSt2094

variable {m : HdrDataSt2094}

theorem bodyFields_fit (hm : m.InRange) : FieldsFit m.bodyFields := by
  cases m with
  | default d => exact fieldsFit_append windowFields_fit (SeiRoundTrip.bodyFields_fit d hm)
  | full d => exact FullSeiFields.bodyFields_fit hm

theorem getPayloadSize_lt (hm : m.InRange) : m.getPayloadSize < 2 ^ 16 := by
  cases m with
  | default d => exact (SeiRoundTrip.getPayloadSize_lt d hm).trans (by decide)
  | full d => exact fullPayloadSize_lt hm

theorem seiWrite2094_40_eq (hm : m.InRange) : m.seiWrite2094_40 =
    frontBytes m.getPayloadSize m.header ++ escape 0 (headerBack m.header ++ paddedBytes m.bodyFields ++ [0x80#8]) := by
  have hunit := putUnit_eq (getPayloadSize_lt hm) m.header (bodyFields_fit hm)
  cases m with
  | default d => exact hunit
  | full d => exact hunit

end HdrDataSt2094

end ExynosHal.VideoApi.SeiUnit
