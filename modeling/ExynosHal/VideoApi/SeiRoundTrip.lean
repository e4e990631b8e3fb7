import ExynosHal.VideoApi.PutBitsCorrect
import ExynosHal.VideoApi.SeiWrite
import ExynosHal.VideoApi.T35RoundTrip

/-! # The SEI writer against the T.35 parser

The writer puts the geometry of one window although it announces one window in all, for which the parser
expects none.
-/

namespace ExynosHal.VideoApi.SeiRoundTrip
open Library.BitString Library.BitBuffer Library.StartCode HdrData PutBits PutBitsCorrect SeiWrite
open T35Parser T35RoundTrip
open List (append_assoc cons_append length_append mem_cons mem_range nil_append not_mem_nil)
open BitVec (ofNat toNat_ofNat)

theorem fieldsFit_append {a b : List Field} (ha : FieldsFit a) (hb : FieldsFit b) : FieldsFit (a ++ b) := by
  intro field hfield
  rcases List.mem_append.mp hfield with h | h
  · exact ha field h
  · exact hb field h

theorem fit_setWidth {w : Nat} (value : BitVec w) (number : Nat) (hnum : number ≤ 32)
    (hval : value.toNat < 2 ^ number) : number ≤ 32 ∧ (value.setWidth 32).toNat < 2 ^ number := by
  refine ⟨hnum, ?_⟩
  rw [BitVec.toNat_setWidth]
  exact lt_of_le_of_lt (Nat.mod_le _ _) hval

theorem windowFields_fit : FieldsFit windowFields := by
  intro field hfield
  simp only [windowFields, mem_cons, not_mem_nil, or_false] at hfield
  rcases hfield with rfl | rfl | rfl | rfl | rfl | rfl | rfl | rfl | rfl | rfl | rfl | rfl <;> decide

variable (d : ExynosHdrData)

theorem percentileFields_fit (hd : InRange d) : FieldsFit (percentileFields d) := by
  intro field hfield
  obtain ⟨i, hi, hfield⟩ := List.mem_flatMap.mp hfield
  have hlt := mem_range.mp hi
  simp only [mem_cons, not_mem_nil, or_false] at hfield
  rcases hfield with rfl | rfl
  · exact fit_setWidth _ 7 (by decide) (hd.percentages i hlt)
  · exact ⟨by simp, hd.percentiles i hlt⟩

theorem toneMappingFields_fit (hd : InRange d) : FieldsFit (toneMappingFields d.toneMapping) := by
  have hflag : d.toneMapping.toneMappingFlag.toNat < 2 ^ 1 := by
    rcases hd.flag with h | h <;> rw [h] <;> decide
  intro field hfield
  rcases mem_cons.mp hfield with rfl | hfield
  · exact fit_setWidth _ 1 (by decide) hflag
  split at hfield
  · rename_i hone
    have ht := hd.toneMapping hone
    have hcnt := ht.anchorCount.trans (maxBezierCurveAnchors_le d.applicationVersion)
    rcases List.mem_append.mp hfield with hfield | hfield
    · simp only [mem_cons, not_mem_nil, or_false] at hfield
      rcases hfield with rfl | rfl | rfl
      · exact fit_setWidth _ 12 (by decide) ht.kneePointX
      · exact fit_setWidth _ 12 (by decide) ht.kneePointY
      · exact fit_setWidth _ 4 (by decide) (by omega)
    · obtain ⟨i, hi, rfl⟩ := List.mem_map.mp hfield
      exact fit_setWidth _ 10 (by decide) (ht.anchors i (mem_range.mp hi))
  · exact absurd hfield not_mem_nil

theorem bodyFields_fit (hd : InRange d) : FieldsFit (bodyFields d) := by
  have hlum := hd.displayMaximumLuminance
  have hcnt := hd.percentileCount
  refine fieldsFit_append (fieldsFit_append (fieldsFit_append (fieldsFit_append (fieldsFit_append
    (fieldsFit_append ?_ ?_) ?_) (percentileFields_fit d hd)) ?_) (toneMappingFields_fit d hd)) ?_
  · intro field hfield
    simp only [mem_cons, not_mem_nil, or_false] at hfield
    rcases hfield with rfl | rfl
    · exact ⟨by simp, show d.displayMaximumLuminance.toNat < 2 ^ 27 by omega⟩
    · decide
  · intro field hfield
    obtain ⟨i, hi, rfl⟩ := List.mem_map.mp hfield
    exact ⟨by simp, hd.maxscl i (mem_range.mp hi)⟩
  · intro field hfield
    simp only [mem_cons, not_mem_nil, or_false] at hfield
    rcases hfield with rfl | rfl
    · decide
    · exact fit_setWidth _ 4 (by decide) (by omega)
  · intro field hfield
    simp only [mem_cons, not_mem_nil, or_false] at hfield
    rcases hfield with rfl | rfl <;> decide
  · intro field hfield
    simp only [mem_cons, not_mem_nil, or_false] at hfield
    subst hfield
    decide

def fieldWidth (fields : List Field) : Nat := (fields.map Prod.fst).sum

theorem fieldWidth_append (a b : List Field) : fieldWidth (a ++ b) = fieldWidth a + fieldWidth b := by
  simp [fieldWidth]

variable (fields : List Field)

theorem length_fieldBits : (fieldBits fields).length = fieldWidth fields := by
  simp [fieldBits, fieldWidth, List.length_flatMap]

theorem fieldWidth_percentileFields : fieldWidth (percentileFields d) = d.numMaxrgbPercentiles.toNat * 24 := by
  unfold percentileFields
  induction d.numMaxrgbPercentiles.toNat with
  | zero => rfl
  | succ count ih =>
    rw [List.range_succ, List.flatMap_append, fieldWidth_append, ih]
    simp [fieldWidth]
    omega

theorem fieldWidth_toneMappingFields (t : ToneMapping) : fieldWidth (toneMappingFields t) =
      1 + if t.toneMappingFlag = 1 then 28 + t.numBezierCurveAnchors.toNat * 10 else 0 := by
  unfold toneMappingFields
  split
  · simp [fieldWidth, Function.comp_def]
    omega
  · rfl

theorem getPayloadSize_eq : getPayloadSize d = 7 + (fieldWidth (windowFields ++ bodyFields d) + 7) / 8 := by
  have hwidth : fieldWidth (windowFields ++ bodyFields d) = 268 + d.numMaxrgbPercentiles.toNat * 24 +
        if d.toneMapping.toneMappingFlag = 1 then 28 + d.toneMapping.numBezierCurveAnchors.toNat * 10 else 0 := by
    have hwin : fieldWidth windowFields = 155 := rfl
    have hmaxscl : fieldWidth (maxsclFields d) = 51 := rfl
    simp only [bodyFields, fieldWidth_append, hwin, hmaxscl, fieldWidth_percentileFields,
      fieldWidth_toneMappingFields]
    simp only [fieldWidth, List.map_cons, List.map_nil, List.sum_cons, List.sum_nil]
    omega
  rw [hwidth]
  unfold getPayloadSize
  simp only
  generalize (if d.toneMapping.toneMappingFlag = 1 then _ else 0) = curve
  split <;> omega

structure StandardHeader (d : ExynosHdrData) : Prop where
  countryCode : d.countryCode = 0xB5
  providerCode : d.providerCode = 0x003C
  providerOrientedCode : d.providerOrientedCode = 0x0001
  applicationIdentifier : d.applicationIdentifier = 4

def plainWords (d : ExynosHdrData) : List Byte :=
  [0x00#8, 0x00#8, 0x00#8, 0x01#8, 0x4E#8, 0x01#8, 0x04#8, ofNat 8 (getPayloadSize d),
    0xB5#8, 0x00#8, 0x3C#8, 0x00#8]

def pendingBytes (d : ExynosHdrData) : List Byte := [0x01#8, 0x04#8, d.applicationVersion]

theorem fieldBits_append (a b : List Field) : fieldBits (a ++ b) = fieldBits a ++ fieldBits b := by
  simp [fieldBits]

theorem getPayloadSize_lt (hd : InRange d) : getPayloadSize d < 256 := by
  have hcnt := hd.percentileCount
  unfold getPayloadSize
  rcases hd.flag with hzero | hone
  · have hne : d.toneMapping.toneMappingFlag ≠ 1 := by rw [hzero]; decide
    simp only [if_neg hne]
    split <;> omega
  · have hanchors := (hd.toneMapping hone).anchorCount.trans (maxBezierCurveAnchors_le d.applicationVersion)
    simp only [if_pos hone]
    split <;> omega

theorem fieldBits_plainFields (hd : InRange d) (hhdr : StandardHeader d) :
    fieldBits (plainFields d) = (plainWords d ++ pendingBytes d).flatMap byteBits := by
  have hsize := getPayloadSize_lt d hd
  have hstart : fieldBits (startCodeFields ++ nalUnitHeaderFields 0x27#32) =
      [0x00#8, 0x00#8, 0x00#8, 0x01#8, 0x4E#8, 0x01#8].flatMap byteBits := by decide
  have hpayload : fieldBits [(8, 0x04#32), (8, ofNat 32 (getPayloadSize d))] =
      [0x04#8, ofNat 8 (getPayloadSize d)].flatMap byteBits := by
    simp only [fieldBits, List.flatMap_cons, List.flatMap_nil, byteBits, toNat_ofNat, List.append_nil]
    rw [Nat.mod_eq_of_lt (by omega : getPayloadSize d < 2 ^ 32), Nat.mod_eq_of_lt hsize]
  have hver : toBits 8 (d.applicationVersion.setWidth 32).toNat = byteBits d.applicationVersion := by
    rw [byteBits, BitVec.toNat_setWidth, Nat.mod_eq_of_lt (by omega)]
  have hfront : fieldBits [(8, 0xB5#32), (16, 0x003C#32), (16, 0x0001#32), (8, 4#32)] =
      [0xB5#8, 0x00#8, 0x3C#8, 0x00#8, 0x01#8, 0x04#8].flatMap byteBits := by decide
  have hlast : fieldBits (payloadHeaderFields d) =
      fieldBits [(8, 0xB5#32), (16, 0x003C#32), (16, 0x0001#32), (8, 4#32)] ++ byteBits d.applicationVersion := by
    rw [payloadHeaderFields, hhdr.countryCode, hhdr.providerCode, hhdr.providerOrientedCode,
      hhdr.applicationIdentifier, ← hver]
    simp [fieldBits]
  rw [plainFields, fieldBits_append, fieldBits_append, hstart, hpayload, hlast, hfront]
  simp [plainWords, pendingBytes]

theorem plainFields_fit (hd : InRange d) : FieldsFit (plainFields d) := by
  have hsize := getPayloadSize_lt d hd
  refine fieldsFit_append (fieldsFit_append ?_ ?_) ?_
  · intro field hfield
    simp only [startCodeFields, nalUnitHeaderFields, cons_append, nil_append, mem_cons, not_mem_nil, or_false] at hfield
    rcases hfield with rfl | rfl | rfl | rfl | rfl | rfl | rfl | rfl <;> decide
  · intro field hfield
    simp only [mem_cons, not_mem_nil, or_false] at hfield
    rcases hfield with rfl | rfl
    · decide
    · refine ⟨by simp, ?_⟩
      simp only [toNat_ofNat]
      omega
  · intro field hfield
    simp only [payloadHeaderFields, mem_cons, not_mem_nil, or_false] at hfield
    rcases hfield with rfl | rfl | rfl | rfl | rfl
    · exact fit_setWidth _ 8 (by decide) d.countryCode.isLt
    · exact fit_setWidth _ 16 (by decide) d.providerCode.isLt
    · exact fit_setWidth _ 16 (by decide) d.providerOrientedCode.isLt
    · exact fit_setWidth _ 8 (by decide) d.applicationIdentifier.isLt
    · exact fit_setWidth _ 8 (by decide) d.applicationVersion.isLt

variable {front back : List Byte}

theorem enableEpb_emits {fields : List Field} (hfit : FieldsFit fields)
    (hbytes : fieldBits fields = (front ++ back).flatMap byteBits) (hfront : 4 ∣ front.length)
    (hback : back.length < 4) :
    let s := enableEpb (putFields fields { pStream := [], packedStr := PackedStr.init 0 false })
    Emits front (back.flatMap byteBits) (back.flatMap byteBits) s ∧
      s.packedStr.writeBitSize % 8 = 0 ∧ s.packedStr.isEpbOn := by
  obtain ⟨pending, hs⟩ := putFields_emits [] fields [] [] _ (emits_init [] 0 false) hfit
  have hadv := putFields_advances fields { pStream := [], packedStr := PackedStr.init 0 false }
  have hwidth : (fields.map Prod.fst).sum = 8 * front.length + 8 * back.length := by
    have h := length_fieldBits fields
    rw [hbytes, length_flatMap_byteBits, length_append] at h
    rw [← fieldWidth, ← h]
    omega
  rw [hwidth] at hadv
  generalize putFields fields { pStream := [], packedStr := PackedStr.init 0 false } = t at hs hadv ⊢
  intro s
  have hremained := hadv.remained rfl
  have hinit : (PackedStr.init 0 false).remainedBitsInPackedData = 32 := rfl
  simp only [hinit] at hremained
  have hpos := t.packedStr.remained_pos
  have hle := t.packedStr.remained_le
  have hroom := hs.room
  have hlen : pending.length = 8 * back.length := by omega
  have hplain : t.packedStr.isEpbOn = false := hadv.isEpbOn
  have hzero : t.packedStr.numZeroByte = 0 := hadv.numZeroByte rfl
  have hpend : pending = back.flatMap byteBits := by
    have hsuffix := hs.suffix
    rw [nil_append, hbytes, List.flatMap_append] at hsuffix
    exact List.IsSuffix.eq_of_length
      (List.suffix_of_suffix_length_le hsuffix (List.suffix_append _ _) (by rw [hlen, length_flatMap_byteBits]))
      (by rw [hlen, length_flatMap_byteBits])
  have hstrm : t.pStream = front := by
    have hall := hs.stream []
    simp only [encode, hplain, List.append_nil, nil_append] at hall
    rw [hbytes, hpend, toBytes_flatMap, toBytes_flatMap] at hall
    exact List.append_cancel_right hall
  subst hpend
  refine ⟨⟨hs.room, hs.packed, hs.zeros, List.suffix_rfl, rfl, ?_⟩, ?_, rfl⟩
  · intro rest
    have hsStrm : s.pStream = front := hstrm
    have hsZero : s.packedStr.numZeroByte = 0 := hzero
    rw [hsStrm, hsZero]
  · have hsize : t.packedStr.writeBitSize % 8 = (0 + (8 * front.length + 8 * back.length)) % 8 := hadv.writeBitSize
    have hstate : s.packedStr.writeBitSize = t.packedStr.writeBitSize := rfl
    omega

def paddedBytes (fields : List Field) : List Byte :=
  toBytes (fieldBits fields ++ List.replicate ((8 - fieldWidth fields % 8) % 8) false)

theorem length_paddedBits :
    (fieldBits fields ++ List.replicate ((8 - fieldWidth fields % 8) % 8) false).length =
      8 * ((fieldWidth fields + 7) / 8) := by
  rw [length_append, length_fieldBits, List.length_replicate]
  omega

def alignBits (d : ExynosHdrData) : List Bool :=
  List.replicate ((8 - fieldWidth (windowFields ++ bodyFields d) % 8) % 8) false

theorem length_payloadBits : (fieldBits (windowFields ++ bodyFields d) ++ alignBits d).length =
      8 * ((fieldWidth (windowFields ++ bodyFields d) + 7) / 8) :=
  length_paddedBits (windowFields ++ bodyFields d)

def payloadTail (d : ExynosHdrData) : List Byte := toBytes (fieldBits (windowFields ++ bodyFields d) ++ alignBits d)

theorem putByteAlign_eq (s : BitWriter) (hs : s.packedStr.writeBitSize % 8 = 0) :
    ∃ pad, putByteAlign (putFields fields s) = putFields (fields ++ pad) s ∧ FieldsFit pad ∧
      fieldBits pad = List.replicate ((8 - fieldWidth fields % 8) % 8) false := by
  have hsize : (putFields fields s).packedStr.writeBitSize % 8 = fieldWidth fields % 8 := by
    have h := (putFields_advances fields s).writeBitSize
    rw [fieldWidth]
    omega
  unfold putByteAlign
  simp only [hsize]
  split
  · rename_i hne
    refine ⟨[(8 - fieldWidth fields % 8, 0)], ?_, ?_, ?_⟩
    · simp [putFields]
    · intro field hfield
      rw [List.mem_singleton.mp hfield]
      exact ⟨by simp only; omega, Nat.two_pow_pos _⟩
    · have hmod : (8 - fieldWidth fields % 8) % 8 = 8 - fieldWidth fields % 8 := by omega
      rw [hmod, ← toBits_zero]
      simp [fieldBits]
  · rename_i heq
    refine ⟨[], by simp, fun field hfield => absurd hfield not_mem_nil, ?_⟩
    have hmod : (8 - fieldWidth fields % 8) % 8 = 0 := by omega
    rw [hmod]
    rfl

theorem putUnit_stream {plain body : List Field} (hplain : FieldsFit plain) (hbody : FieldsFit body)
    (hbytes : fieldBits plain = (front ++ back).flatMap byteBits) (hfront : 4 ∣ front.length)
    (hback : back.length < 4) :
    (flushBitstream (putBits 8 0x80 (putByteAlign (putFields body
      (enableEpb (putFields plain { pStream := [], packedStr := PackedStr.init 0 false })))))).pStream =
      front ++ escape 0 (back ++ paddedBytes body ++ [0x80#8]) := by
  obtain ⟨hs, hsize, hepb⟩ := enableEpb_emits hplain hbytes hfront hback
  generalize enableEpb (putFields plain { pStream := [], packedStr := PackedStr.init 0 false }) = s at hs hsize hepb ⊢
  obtain ⟨pad, hpad, hfit, hbits⟩ := putByteAlign_eq body s hsize
  have htail : fieldBits (body ++ pad) = fieldBits body ++ List.replicate ((8 - fieldWidth body % 8) % 8) false := by
    rw [fieldBits_append, hbits]
  have hwhole : 8 ∣ (back.flatMap byteBits ++ fieldBits (body ++ pad)).length := by
    rw [htail, length_append, length_paddedBits, length_flatMap_byteBits]
    omega
  have hstrm := putFields_flush_stream hs hepb (body ++ pad) (fieldsFit_append hbody hfit) hwhole
  rw [htail, toBytes_flatMap_append] at hstrm
  rw [hpad]
  exact hstrm

theorem seiWrite2094_40_eq (hd : InRange d) (hhdr : StandardHeader d) :
    seiWrite2094_40 d [] = plainWords d ++ escape 0 (pendingBytes d ++ payloadTail d ++ [0x80#8]) :=
  putUnit_stream (plainFields_fit d hd) (fieldsFit_append windowFields_fit (bodyFields_fit d hd))
    (fieldBits_plainFields d hd hhdr) ⟨3, rfl⟩ (by decide : 3 < 4)

theorem writeFillerDataRbsp_mono (nSize : Int) (pStream : List Byte) :
    pStream <+: writeFillerDataRbsp nSize pStream := by
  unfold writeFillerDataRbsp
  refine List.IsPrefix.trans ?_ (flushBitstream_stream_mono _)
  refine List.IsPrefix.trans ?_ (putBits_advances 8 0x80 _).stream
  refine List.IsPrefix.trans ?_ (putFields_advances _ _).stream
  exact (putFields_advances (startCodeFields ++ nalUnitHeaderFields 0x26#32)
    { pStream, packedStr := PackedStr.init (pStream.length * 8) false }).stream

def seiPayload (stream : List Byte) : List Byte := (unescape 0 (stream.drop 8)).take (stream.getD 7 0).toNat

theorem seiPayload_exynosSeiWrite (size : Int) (hsize : 0 < size) (hd : InRange d) (hhdr : StandardHeader d) :
    seiPayload (exynosSeiWrite d size) = [0xB5#8, 0x00#8, 0x3C#8, 0x00#8] ++ pendingBytes d ++ payloadTail d := by
  have hcnt := getPayloadSize_eq d
  have hlt := getPayloadSize_lt d hd
  rw [exynosSeiWrite, if_neg (by omega), seiWrite2094_40_eq d hd hhdr]
  obtain ⟨filler, hfiller⟩ := writeFillerDataRbsp_mono size
    (plainWords d ++ escape 0 (pendingBytes d ++ payloadTail d ++ [0x80#8]))
  rw [← hfiller, seiPayload]
  have hdrop : ((plainWords d ++ escape 0 (pendingBytes d ++ payloadTail d ++ [0x80#8])) ++ filler).drop 8 =
      [0xB5#8, 0x00#8, 0x3C#8, 0x00#8] ++ (escape 0 (pendingBytes d ++ payloadTail d ++ [0x80#8]) ++ filler) := by
    rw [append_assoc]
    rfl
  have hbyte : (((plainWords d ++ escape 0 (pendingBytes d ++ payloadTail d ++ [0x80#8])) ++ filler).getD 7 0).toNat =
      getPayloadSize d := by
    rw [append_assoc]
    simp only [plainWords, cons_append, List.getD_cons_succ, List.getD_cons_zero, toNat_ofNat]
    omega
  have hlen : (payloadTail d).length + 7 = getPayloadSize d := by
    rw [payloadTail, length_toBytes _ ⟨_, length_payloadBits d⟩, length_payloadBits, hcnt]
    omega
  -- the plain zero byte in front is not counted by the writer, but a `01` follows it
  have hescape : escape 0 (pendingBytes d ++ payloadTail d ++ [0x80#8]) =
      0x01#8 :: escape 0 (0x04#8 :: d.applicationVersion :: (payloadTail d ++ [0x80#8])) :=
    escape_restart 0 0x01#8 _ (by omega) (by decide)
  obtain ⟨zeros, htail⟩ := unescape_append 0
    (escape 0 (0x04#8 :: d.applicationVersion :: (payloadTail d ++ [0x80#8]))) filler
  rw [unescape_escape] at htail
  rw [hdrop, hbyte, hescape]
  simp only [cons_append, nil_append]
  rw [unescape_keep 0 0xB5#8 _ (by omega), nextZeros_ne 0 0xB5#8 (by decide), unescape_keep 0 0x00#8 _ (by omega),
    nextZeros_zero, unescape_keep _ 0x3C#8 _ (by omega), nextZeros_ne _ 0x3C#8 (by decide),
    unescape_keep 0 0x00#8 _ (by omega), nextZeros_zero, unescape_keep _ 0x01#8 _ (by omega),
    nextZeros_ne _ 0x01#8 (by decide), htail, ← hlen]
  simp [pendingBytes]

def geometryData (d : ExynosHdrData) : ExynosHdrData := { d with
    displayMaximumLuminance := 2048
    maxscl := fun i => ofNat 32 (8192 * 2 ^ i)
    numMaxrgbPercentiles := 0
    toneMapping := { d.toneMapping with toneMappingFlag := 0 } }

theorem geometryData_inRange : InRange (geometryData d) := by
  constructor
  case maxscl =>
    intro i hi
    interval_cases i <;> simp [geometryData]
  case percentages => exact fun i hi => absurd hi (by simp [geometryData])
  case percentiles => exact fun i hi => absurd hi (by simp [geometryData])
  case flag => exact Or.inl rfl
  case toneMapping => exact fun hone => absurd hone (by simp [geometryData])
  all_goals simp [geometryData]

theorem fieldBits_windowFields : fieldBits windowFields =
      toBits 2 1 ++ (bodyBits 65537 64 (geometryData d) ++ toBits 40 0x200020003) := by
  have hbody : bodyBits 65537 64 (geometryData d) =
      toBits 27 2048 ++ toBits 1 0 ++ (toBits 17 8192 ++ (toBits 17 16384 ++ toBits 17 32768)) ++ toBits 17 65537 ++
        toBits 4 0 ++ toBits 10 64 ++ toBits 1 0 ++ toBits 1 0 ++ toBits 1 0 := by
    simp [bodyBits, geometryData, maxsclBits, percentileListBits, toneMappingBits, List.range_succ]
  rw [hbody]
  decide

theorem parse_seiPayload (d dest : ExynosHdrData) (size : Int) (hsize : 0 < size) (hd : InRange d)
    (hhdr : StandardHeader d) :
    let parsed := exynosParsingUserDataRegisteredItuTT35 dest (ofList (seiPayload (exynosSeiWrite d size)))
    parsed.1 = 0 ∧ Restores (geometryData d) parsed.2 := by
  have hahead := (holds_ofList (seiPayload (exynosSeiWrite d size))).ahead
  have hbits : (seiPayload (exynosSeiWrite d size)).flatMap byteBits =
      headerBits (geometryData d) ++ (toBits 2 1 ++ (bodyBits 65537 64 (geometryData d) ++
        (toBits 40 0x200020003 ++ (fieldBits (bodyFields d) ++ alignBits d)))) := by
    have hhdrBits : ([0xB5#8, 0x00#8, 0x3C#8, 0x00#8] ++ pendingBytes d).flatMap byteBits =
        headerBits (geometryData d) := by
      simp only [headerBits, geometryData, hhdr.countryCode, hhdr.providerCode,
        hhdr.providerOrientedCode, hhdr.applicationIdentifier]
      rfl
    rw [seiPayload_exynosSeiWrite d size hsize hd hhdr, List.flatMap_append, hhdrBits, payloadTail,
      flatMap_toBytes _ ⟨_, length_payloadBits d⟩, fieldBits_append, fieldBits_windowFields d]
    simp only [append_assoc]
  rw [hbits] at hahead
  exact parse_oneWindow dest (geometryData_inRange d) hahead

structure MatchesGeometry (d : ExynosHdrData) : Prop where
  displayMaximumLuminance : d.displayMaximumLuminance = 2048
  maxscl : d.maxscl 0 = 8192 ∧ d.maxscl 1 = 16384 ∧ d.maxscl 2 = 32768
  numMaxrgbPercentiles : d.numMaxrgbPercentiles = 0
  toneMappingFlag : d.toneMapping.toneMappingFlag = 0

theorem restores_iff_matchesGeometry (d r : ExynosHdrData) (hr : Restores (geometryData d) r) :
    Restores d r ↔ MatchesGeometry d := by
  constructor
  · intro h
    refine ⟨h.displayMaximumLuminance.symm.trans hr.displayMaximumLuminance, ⟨?_, ?_, ?_⟩,
      h.numMaxrgbPercentiles.symm.trans hr.numMaxrgbPercentiles, h.toneMappingFlag.symm.trans hr.toneMappingFlag⟩
    · exact (h.maxscl 0 (by decide)).symm.trans (hr.maxscl 0 (by decide))
    · exact (h.maxscl 1 (by decide)).symm.trans (hr.maxscl 1 (by decide))
    · exact (h.maxscl 2 (by decide)).symm.trans (hr.maxscl 2 (by decide))
  · intro h
    have hnone : d.numMaxrgbPercentiles.toNat = 0 := by rw [h.numMaxrgbPercentiles]; rfl
    have hflag : d.toneMapping.toneMappingFlag ≠ 1 := by rw [h.toneMappingFlag]; decide
    obtain ⟨h0, h1, h2⟩ := h.maxscl
    constructor
    case displayMaximumLuminance => exact hr.displayMaximumLuminance.trans h.displayMaximumLuminance.symm
    case maxscl =>
      intro i hi
      rw [hr.maxscl i hi]
      interval_cases i
      · exact h0.symm
      · exact h1.symm
      · exact h2.symm
    case numMaxrgbPercentiles => exact hr.numMaxrgbPercentiles.trans h.numMaxrgbPercentiles.symm
    case toneMappingFlag => exact hr.toneMappingFlag.trans h.toneMappingFlag.symm
    case percentages => exact fun i hi => absurd hi (by omega)
    case percentiles => exact fun i hi => absurd hi (by omega)
    case kneePoint => exact fun hone => absurd hone hflag
    case anchorCount => exact fun hone => absurd hone hflag
    case anchors => exact fun hone => absurd hone hflag

/-- The parser restores from the SEI payload exactly the metadata that looks like the geometry. -/
theorem seiPayload_restores_iff (d dest : ExynosHdrData) (size : Int) (hsize : 0 < size) (hd : InRange d)
    (hhdr : StandardHeader d) :
    let parsed := exynosParsingUserDataRegisteredItuTT35 dest (ofList (seiPayload (exynosSeiWrite d size)))
    (parsed.1 = 0 ∧ Restores d parsed.2) ↔ MatchesGeometry d := by
  obtain ⟨hret, hrestores⟩ := parse_seiPayload d dest size hsize hd hhdr
  intro parsed
  exact (and_iff_right hret).trans (restores_iff_matchesGeometry d _ hrestores)

theorem sampleHdrData_standardHeader : StandardHeader sampleHdrData := ⟨rfl, rfl, rfl, rfl⟩

/-- A luminance of 1000 does not survive. -/
theorem seiPayload_sampleHdrData_not_restored : InRange sampleHdrData ∧ StandardHeader sampleHdrData ∧
      ¬((exynosParsingUserDataRegisteredItuTT35 sampleHdrData
            (ofList (seiPayload (exynosSeiWrite sampleHdrData 200)))).1 = 0 ∧
        Restores sampleHdrData (exynosParsingUserDataRegisteredItuTT35 sampleHdrData
            (ofList (seiPayload (exynosSeiWrite sampleHdrData 200)))).2) := by
  refine ⟨sampleHdrData_inRange, sampleHdrData_standardHeader, ?_⟩
  rintro ⟨-, hrestores⟩
  obtain ⟨-, hgeom⟩ := parse_seiPayload sampleHdrData sampleHdrData 200 (by decide) sampleHdrData_inRange
    sampleHdrData_standardHeader
  have hmatch := (restores_iff_matchesGeometry sampleHdrData _ hgeom).mp hrestores
  exact absurd hmatch.displayMaximumLuminance (by decide)

theorem seiPayload_restores_iff_geometryData :
    (InRange (geometryData sampleHdrData) ∧ StandardHeader (geometryData sampleHdrData)) ∧
      ((exynosParsingUserDataRegisteredItuTT35 sampleHdrData
            (ofList (seiPayload (exynosSeiWrite (geometryData sampleHdrData) 200)))).1 = 0 ∧
        Restores (geometryData sampleHdrData) (exynosParsingUserDataRegisteredItuTT35 sampleHdrData
            (ofList (seiPayload (exynosSeiWrite (geometryData sampleHdrData) 200)))).2) := by
  have hhdr : StandardHeader (geometryData sampleHdrData) := ⟨rfl, rfl, rfl, rfl⟩
  refine ⟨⟨geometryData_inRange sampleHdrData, hhdr⟩, ?_⟩
  have hiff := seiPayload_restores_iff (geometryData sampleHdrData) sampleHdrData 200 (by decide)
    (geometryData_inRange sampleHdrData) hhdr
  exact hiff.mpr ⟨rfl, ⟨rfl, rfl, rfl⟩, rfl, rfl⟩

end ExynosHal.VideoApi.SeiRoundTrip
