import ExynosHal.VideoApi.SeiPayloadSize

/-! # The stream `Exynos_sei_write` leaves

The unit is written whatever the size of the stream is.
-/

namespace ExynosHal.VideoApi.SeiFiller
open Library.BitString Library.StartCode PutBits PutBitsCorrect SeiWrite SeiRoundTrip SeiUnit
open List (length_append replicate)
open T35RoundTrip (sampleHdrData sampleHdrData_inRange)

variable {s : BitWriter}

theorem putBits_writeBitSize (number : Nat) (data : U32) (hplain : s.packedStr.isEpbOn = false) :
    (putBits number data s).packedStr.writeBitSize = s.packedStr.writeBitSize + number := by
  induction number using Nat.strong_induction_on generalizing data s with
  | _ number ih =>
    have hpos := s.packedStr.remained_pos
    rw [putBits]
    simp only
    split_ifs with hroom hfull
    · rw [writeWord, hplain]
      rfl
    · rfl
    · have hfst := (putBits_advances s.packedStr.remainedBitsInPackedData
        (data >>> (number - s.packedStr.remainedBitsInPackedData) &&&
          (1#32 <<< s.packedStr.remainedBitsInPackedData - 1#32)) s).isEpbOn
      rw [ih _ (by omega) _ (hfst.trans hplain), ih _ (by omega) _ hplain]
      omega

theorem putFields_writeBitSize (fields : List Field) (hplain : s.packedStr.isEpbOn = false) :
    (putFields fields s).packedStr.writeBitSize = s.packedStr.writeBitSize + fieldWidth fields := by
  induction fields generalizing s with
  | nil => rfl
  | cons field fields ih =>
    have hstep := (putBits_advances field.1 field.2 s).isEpbOn.trans hplain
    have hrest : (putFields (field :: fields) s).packedStr.writeBitSize = _ := ih hstep
    rw [hrest, putBits_writeBitSize _ _ hplain, FullSeiFields.fieldWidth_cons]
    omega

theorem flushBitstream_plain {base : List Byte} {bits pending : List Bool} (hs : Emits base bits pending s)
    (hplain : s.packedStr.isEpbOn = false) (hwhole : 8 ∣ bits.length) :
    (flushBitstream s).pStream = base ++ toBytes bits := by
  have hroom := hs.room
  have hpos := s.packedStr.remained_pos
  have haligned := hs.aligned
  have hpend : 8 ∣ pending.length := by omega
  have hstrm := hs.stream []
  simp only [List.append_nil, encode, hplain] at hstrm
  have hstrm : s.pStream ++ toBytes pending = base ++ toBytes bits := hstrm
  rw [← hstrm]
  have hword := wordBytes_pending hs
  rw [← flatMap_toBytes pending hpend, toBytes_flatMap_append] at hword
  have hcnt : (32 - s.packedStr.remainedBitsInPackedData) / 8 = (toBytes pending).length := by
    rw [length_toBytes pending hpend]
    omega
  rcases eq_or_ne s.packedStr.remainedBitsInPackedData 32 with hempty | hsome
  · have hnone : pending = [] := List.length_eq_zero_iff.mp (by omega)
    rw [flushBitstream, if_neg (fun h => h hempty), hnone]
    exact (List.append_nil _).symm
  · rw [flushBitstream]
    simp only [hsome, ne_eq, not_false_eq_true, if_true, hplain, Bool.false_eq_true, false_and, if_false, writeRemained]
    rw [hword, hcnt, List.take_left]

def fillerHeader : List Byte := [0x00#8, 0x00#8, 0x00#8, 0x01#8, 0x4C#8, 0x01#8]

theorem fieldBits_fillerFields (count : Nat) :
    fieldBits (startCodeFields ++ nalUnitHeaderFields 0x26#32 ++ replicate count (8, 0xff#32) ++ [(8, 0x80)]) =
      (fillerHeader ++ replicate count 0xFF#8 ++ [0x80#8]).flatMap byteBits := by
  have hhdr : fieldBits (startCodeFields ++ nalUnitHeaderFields 0x26#32) = fillerHeader.flatMap byteBits := by decide
  have hlast : fieldBits [(8, 0x80)] = [0x80#8].flatMap byteBits := by decide
  have hbytes : fieldBits (replicate count (8, 0xff#32)) = (replicate count 0xFF#8).flatMap byteBits := by
    rw [fieldBits, List.flatMap_replicate, List.flatMap_replicate]
    rfl
  rw [fieldBits_append, fieldBits_append, hhdr, hbytes, hlast, List.flatMap_append, List.flatMap_append]

theorem fillerFields_fit (count : Nat) :
    FieldsFit (startCodeFields ++ nalUnitHeaderFields 0x26#32 ++ replicate count (8, 0xff#32) ++ [(8, 0x80)]) := by
  have hhdr : FieldsFit (startCodeFields ++ nalUnitHeaderFields 0x26#32) := by
    rw [FieldsFit]
    decide
  refine fieldsFit_append (fieldsFit_append hhdr fun field hfield => ?_) fun field hfield => ?_
  · rw [List.eq_of_mem_replicate hfield]
    decide
  · rw [List.mem_singleton.mp hfield]
    decide

theorem writeFillerDataRbsp_eq (nSize : Int) (pStream : List Byte) : writeFillerDataRbsp nSize pStream =
      pStream ++ (fillerHeader ++ replicate (nSize - (pStream.length + 7)).toNat 0xFF#8 ++ [0x80#8]) := by
  have happend (a b : List Field) (s : BitWriter) : putFields (a ++ b) s = putFields b (putFields a s) :=
    List.foldl_append
  have hsize := @putFields_writeBitSize { pStream, packedStr := PackedStr.init (pStream.length * 8) false }
    (startCodeFields ++ nalUnitHeaderFields 0x26#32) rfl
  have hwidth : fieldWidth (startCodeFields ++ nalUnitHeaderFields 0x26#32) = 48 := rfl
  have hinit : (PackedStr.init (pStream.length * 8) false).writeBitSize = pStream.length * 8 := rfl
  have hcnt : (nSize - ((pStream.length * 8 + 48) / 8 : Nat) - 1).toNat = (nSize - (pStream.length + 7)).toNat := by
    omega
  simp only [writeFillerDataRbsp, hsize, hwidth, hinit, hcnt]
  generalize (nSize - (pStream.length + 7)).toNat = count
  obtain ⟨pending, hs⟩ :=
    putFields_emits pStream _ [] [] _ (emits_init pStream (pStream.length * 8) false) (fillerFields_fit count)
  have hplain :=
    (putFields_advances (startCodeFields ++ nalUnitHeaderFields 0x26#32 ++ replicate count (8, 0xff#32) ++ [(8, 0x80)])
    { pStream, packedStr := PackedStr.init (pStream.length * 8) false }).isEpbOn
  rw [List.nil_append, fieldBits_fillerFields] at hs
  have hflush := flushBitstream_plain hs hplain ⟨_, length_flatMap_byteBits _⟩
  rw [toBytes_flatMap, happend, happend] at hflush
  exact hflush

section
variable {m : HdrDataSt2094} {size : Int}

theorem exynosSeiWrite_eq (m : HdrDataSt2094) (hsize : 0 < size) : m.exynosSeiWrite size = m.seiWrite2094_40 ++
    (fillerHeader ++ replicate (size - (m.seiWrite2094_40.length + 7)).toNat 0xFF#8 ++ [0x80#8]) := by
  have hfiller := writeFillerDataRbsp_eq size m.seiWrite2094_40
  have hpos : ¬ size ≤ 0 := by omega
  cases m with
  | default d => exact (if_neg hpos).trans hfiller
  | full d => exact (if_neg hpos).trans hfiller

theorem length_exynosSeiWrite (m : HdrDataSt2094) (hsize : 0 < size) : (m.exynosSeiWrite size).length =
    m.seiWrite2094_40.length + 7 + (size - (m.seiWrite2094_40.length + 7)).toNat := by
  rw [exynosSeiWrite_eq m hsize]
  simp only [length_append, List.length_replicate, List.length_cons, List.length_nil, fillerHeader]
  omega

def unitLength (m : HdrDataSt2094) : Nat :=
  12 + (escape 0 (headerBack m.header ++ paddedBytes m.bodyFields ++ [0x80#8])).length

theorem length_seiWrite2094_40 (hm : m.InRange) : m.seiWrite2094_40.length = unitLength m := by
  rw [HdrDataSt2094.seiWrite2094_40_eq hm, length_append, length_frontBytes, unitLength]

/-- The bytes stay inside the stream exactly when both units fit without any filler byte. -/
theorem stores_inside_iff (hm : m.InRange) (hsize : 0 < size) :
    ((∀ i < (m.exynosSeiWrite size).length, (i : Int) < size) ∧ ((m.exynosSeiWrite size).length : Int) ≤ size) ↔
      (unitLength m + 7 : Int) ≤ size := by
  have hlen := length_exynosSeiWrite m hsize
  rw [length_seiWrite2094_40 hm] at hlen
  constructor
  · rintro ⟨-, hle⟩
    omega
  · intro hfits
    refine ⟨fun i hi => ?_, ?_⟩
    · omega
    · omega

end

theorem sampleHdrData_stores_inside :
    (∀ i < ((HdrDataSt2094.default sampleHdrData).exynosSeiWrite 200).length, (i : Int) < 200) ∧
      (((HdrDataSt2094.default sampleHdrData).exynosSeiWrite 200).length : Int) ≤ 200 :=
  (stores_inside_iff (m := .default sampleHdrData) sampleHdrData_inRange (by decide)).mpr (by decide)

/-- The first unit alone takes 63 bytes. -/
theorem sampleHdrData_stores_outside : HdrData.InRange sampleHdrData ∧
    ¬ ((∀ i < ((HdrDataSt2094.default sampleHdrData).exynosSeiWrite 64).length, (i : Int) < 64) ∧
      (((HdrDataSt2094.default sampleHdrData).exynosSeiWrite 64).length : Int) ≤ 64) := by
  refine ⟨sampleHdrData_inRange, fun h => ?_⟩
  have hlen := length_exynosSeiWrite (.default sampleHdrData) (by decide : (0 : Int) < 64)
  rw [length_seiWrite2094_40 (m := .default sampleHdrData) sampleHdrData_inRange] at hlen
  have hunit : 64 < unitLength (.default sampleHdrData) + 7 := by decide
  have hle := h.2
  omega

section
variable {d : HdrData.ExynosHdrData} {i : Nat}

theorem startCodeAt_prefix : StartCodeAt [0x00#8, 0x00#8, 0x00#8, 0x01#8] i ↔ i = 1 := by
  constructor
  · rintro ⟨hfst, hsnd, hthird⟩
    obtain ⟨hi, -⟩ := List.getElem?_eq_some_iff.mp hthird
    have hi : i < 2 := Nat.lt_of_add_lt_add_right hi
    interval_cases i
    · cases hthird
    · rfl
  · rintro rfl
    exact ⟨rfl, rfl, rfl⟩

theorem startCodeAt_unit {bytes : List Byte} {byte : Byte} (hzero : byte ≠ 0#8) (hone : byte ≠ 1#8)
    (hbytes : ∀ i, ¬ StartCodeAt bytes i) :
    StartCodeAt ([0x00#8, 0x00#8, 0x00#8, 0x01#8] ++ byte :: bytes) i ↔ i = 1 := by
  rw [startCodeAt_append_cons hzero hone, startCodeAt_prefix]
  exact or_iff_left fun h => hbytes _ h.2

theorem not_startCodeAt_filler (count i : Nat) : ¬ StartCodeAt (0x01#8 :: (replicate count 0xFF#8 ++ [0x80#8])) i := by
  refine not_startCodeAt_of_not_mem (fun hmem => ?_) i
  rcases List.mem_cons.mp hmem with h | hmem
  · exact absurd h (by decide)
  rcases List.mem_append.mp hmem with hmem | hmem
  · exact absurd (List.eq_of_mem_replicate hmem) (by decide)
  · exact absurd (List.mem_singleton.mp hmem) (by decide)

theorem escape_concat (zeros : Nat) (bytes : List Byte) (byte : Byte) :
    ∃ front, escape zeros (bytes ++ [byte]) = front ++ [byte] := by
  induction bytes generalizing zeros with
  | nil =>
    rcases em (2 ≤ zeros ∧ byte.toNat ≤ 3) with ⟨hzeros, hbyte⟩ | hkeep
    · exact ⟨[3#8], (escape_insert zeros byte [] hzeros hbyte).trans (congrArg _ (escape_keep 0 byte [] (by omega)))⟩
    · exact ⟨[], escape_keep zeros byte [] (by omega)⟩
  | cons head bytes ih =>
    rcases em (2 ≤ zeros ∧ head.toNat ≤ 3) with ⟨hzeros, hbyte⟩ | hkeep
    · obtain ⟨front, hfront⟩ := ih (nextZeros 0 head)
      refine ⟨3#8 :: head :: front, ?_⟩
      rw [List.cons_append, escape_insert zeros head _ hzeros hbyte, escape_keep 0 head _ (by omega), hfront]
      rfl
    · obtain ⟨front, hfront⟩ := ih (nextZeros zeros head)
      refine ⟨head :: front, ?_⟩
      rw [List.cons_append, escape_keep zeros head _ (by omega), hfront]
      rfl

theorem seiWrite2094_40_split (hd : HdrData.InRange d) (hhdr : StandardHeader d) :
    ∃ back, seiWrite2094_40 d [] = [0x00#8, 0x00#8, 0x00#8, 0x01#8] ++ 0x4E#8 ::
        ([0x01#8, 0x04#8, BitVec.ofNat 8 (getPayloadSize d)] ++
          0xB5#8 :: ([0x00#8] ++ 0x3C#8 :: (0x00#8 :: 0x01#8 :: back))) ++ [0x80#8] ∧
      ∀ i, ¬ StartCodeAt (0x01#8 :: back) i := by
  obtain ⟨back, hback⟩ := escape_concat 0 (0x04#8 :: d.applicationVersion :: payloadTail d) 0x80#8
  have hescape : escape 0 (pendingBytes d ++ payloadTail d ++ [0x80#8]) = 0x01#8 :: back ++ [0x80#8] := by
    refine (escape_restart 0 0x01#8 _ (by omega) (by decide)).trans ?_
    exact congrArg (0x01#8 :: ·) hback
  refine ⟨back, ?_, fun i hstart => ?_⟩
  · rw [SeiRoundTrip.seiWrite2094_40_eq d hd hhdr, hescape]
    rfl
  · have hwhole : StartCodeAt (0x01#8 :: back ++ [0x80#8]) i := by
      obtain ⟨hfst, hsnd, hthird⟩ := hstart
      have hin := (List.getElem?_eq_some_iff.mp hthird).1
      refine ⟨?_, ?_, ?_⟩
      · rw [List.getElem?_append_left (by omega), hfst]
      · rw [List.getElem?_append_left (by omega), hsnd]
      · rw [List.getElem?_append_left hin, hthird]
    rw [← hescape] at hwhole
    exact not_startCodeAt_escape 0 _ i hwhole

theorem not_startCodeAt_plain {size : Byte} {back : List Byte} (hback : ∀ i, ¬ StartCodeAt (0x01#8 :: back) i)
    (i : Nat) :
    ¬ StartCodeAt ([0x01#8, 0x04#8, size] ++ 0xB5#8 :: ([0x00#8] ++ 0x3C#8 :: (0x00#8 :: 0x01#8 :: back))) i := by
  rw [startCodeAt_append_cons (by decide) (by decide), startCodeAt_append_cons (by decide) (by decide)]
  rintro (⟨hfst, -, hthird⟩ | ⟨-, ⟨-, hsnd, -⟩ | ⟨-, hfst, hsnd, hthird⟩⟩)
  · have hi : i + 2 < 3 := (List.getElem?_eq_some_iff.mp hthird).1
    obtain rfl : i = 0 := by omega
    cases hfst
  · cases hsnd
  · generalize i - ([0x01#8, 0x04#8, size].length + 1) - ([0x00#8].length + 1) = k at hfst hsnd hthird
    cases k with
    | zero => cases hsnd
    | succ k => exact hback k ⟨hfst, hsnd, hthird⟩

end

/-- `Exynos_sei_write` on a stream of `size` bytes with room for both units. -/
structure Fills (d : HdrData.ExynosHdrData) (size : Int) : Prop where
  length : ((exynosSeiWrite d size).length : Int) = size
  unit : seiWrite2094_40 d [] = [0x00#8, 0x00#8, 0x00#8, 0x01#8, 0x4E#8, 0x01#8, 0x04#8,
      BitVec.ofNat 8 (getPayloadSize d), 0xB5#8, 0x00#8, 0x3C#8, 0x00#8] ++
    escape 0 ([0x01#8, 0x04#8, d.applicationVersion] ++ payloadTail d ++ [0x80#8])
  stream : exynosSeiWrite d size = seiWrite2094_40 d [] ++ [0x00#8, 0x00#8, 0x00#8, 0x01#8, 0x4C#8, 0x01#8] ++
    replicate (size - (seiWrite2094_40 d []).length - 7).toNat 0xFF#8 ++ [0x80#8]
  startCodes : ∀ i, StartCodeAt (exynosSeiWrite d size) i ↔ i = 1 ∨ i = (seiWrite2094_40 d []).length + 1

/-- The stream is filled to its last byte, the SEI unit comes first, and a start code stands only where one of the two
units begins. -/
theorem exynosSeiWrite_fills {d : HdrData.ExynosHdrData} {size : Int} (hd : HdrData.InRange d) (hhdr : StandardHeader d)
    (hsize : ((seiWrite2094_40 d []).length + 7 : Int) ≤ size) : Fills d size := by
  have hpos : 0 < size := by omega
  have hlen : (exynosSeiWrite d size).length = _ := length_exynosSeiWrite (.default d) hpos
  have hstrm : exynosSeiWrite d size = _ := exynosSeiWrite_eq (.default d) hpos
  have hunit : (HdrDataSt2094.default d).seiWrite2094_40 = seiWrite2094_40 d [] := rfl
  rw [hunit] at hlen hstrm
  have hcnt : (size - ((seiWrite2094_40 d []).length + 7)).toNat =
      (size - (seiWrite2094_40 d []).length - 7).toNat := by omega
  rw [hcnt] at hstrm
  refine ⟨by omega, SeiRoundTrip.seiWrite2094_40_eq d hd hhdr, ?_, fun i => ?_⟩
  · rw [hstrm, fillerHeader]
    simp only [List.append_assoc]
  · obtain ⟨back, hsplit, hback⟩ := seiWrite2094_40_split hd hhdr
    generalize (size - (seiWrite2094_40 d []).length - 7).toNat = count at hstrm
    -- the trailing byte of the first unit keeps the two apart
    have hfiller : fillerHeader ++ replicate count 0xFF#8 ++ [0x80#8] =
        [0x00#8, 0x00#8, 0x00#8, 0x01#8] ++ 0x4C#8 :: (0x01#8 :: (replicate count 0xFF#8 ++ [0x80#8])) := rfl
    have hjoin (front back : List Byte) : front ++ [0x80#8] ++ back = front ++ 0x80#8 :: back := by
      rw [List.append_assoc]
      rfl
    have hend (front : List Byte) : (front ++ [0x80#8]).length = front.length + 1 := length_append
    rw [hstrm, hfiller, hsplit, hjoin, startCodeAt_append_cons (by decide : 0x80#8 ≠ 0#8) (by decide : 0x80#8 ≠ 1#8),
      startCodeAt_unit (by decide) (by decide) (not_startCodeAt_plain hback),
      startCodeAt_unit (by decide) (by decide) (not_startCodeAt_filler count), hend]
    omega

theorem sampleHdrData_fills : Fills sampleHdrData 200 ∧
    (seiWrite2094_40 sampleHdrData []).map BitVec.toNat =
      [0, 0, 0, 1, 78, 1, 4, 54, 181, 0, 60, 0, 1, 4, 1, 64, 0, 64, 0, 64, 0, 64, 0, 64, 0, 64, 0, 64, 64, 0,
        64, 0, 64, 0, 96, 0, 15, 161, 134, 160, 195, 80, 225, 168, 128, 0, 36, 202, 34, 224, 206, 34, 226, 0, 162, 89,
        255, 231, 244, 125, 63, 80, 128] := by
  have hunit : (seiWrite2094_40 sampleHdrData []).length = unitLength (.default sampleHdrData) :=
    length_seiWrite2094_40 (m := .default sampleHdrData) sampleHdrData_inRange
  have hfills : Fills sampleHdrData 200 := by
    refine exynosSeiWrite_fills sampleHdrData_inRange sampleHdrData_standardHeader ?_
    rw [hunit]
    decide
  exact ⟨hfills, by rw [hfills.unit]; decide⟩

end ExynosHal.VideoApi.SeiFiller
