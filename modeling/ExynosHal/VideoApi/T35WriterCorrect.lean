import ExynosHal.VideoApi.T35Writer

/-! # The T.35 writer produces the wire layout

Every field appends its own bits for each phase of the blob at which the source gives it enough bytes.
-/

namespace ExynosHal.VideoApi.T35WriterCorrect
open Library.BitString Library.BitBuffer HdrData T35Writer
open List (append_assoc length_append)

theorem swappedByte_bits (tempBuffer : U32) (nBytes : Nat) (h : nBytes ≤ 4) :
    ((List.range nBytes).map (swappedByte tempBuffer)).flatMap byteBits =
      (toBits 32 tempBuffer.toNat).take (8 * nBytes) := by
  have htake : ∀ (byte : Byte) (n : Nat), 8 ≤ n → (byteBits byte).take n = byteBits byte := by
    intro byte n hn
    exact List.take_of_length_le (by rw [length_byteBits]; exact hn)
  rw [← flatMap_wordBytes, wordBytes]
  interval_cases nBytes <;> simp [List.range_succ, List.take_append, htake, swappedByte]

variable {s : WriterState} {bits : List Bool}

theorem putField_writes (width nBytes : Nat) (value : U32) (hs : Writes s bits) (hval : value.toNat < 2 ^ width)
    (hwidth : 0 < width) (hbytes : nBytes ≤ 4) (hlow : 8 * nBytes < bits.length % 8 + width + 8)
    (hhigh : bits.length % 8 + width ≤ 8 * nBytes) :
    Writes (putField width nBytes (value <<< (32 - width - s.extraBit)) s) (bits ++ toBits width value.toNat) := by
  have hshift : (value <<< (32 - width - s.extraBit)).toNat = value.toNat * 2 ^ (32 - width - bits.length % 8) := by
    rw [hs.extraBit, BitVec.toNat_shiftLeft, Nat.shiftLeft_eq]
    apply Nat.mod_eq_of_lt
    calc value.toNat * 2 ^ (32 - width - bits.length % 8)
        < 2 ^ width * 2 ^ (32 - width - bits.length % 8) := Nat.mul_lt_mul_of_pos_right hval (Nat.two_pow_pos _)
      _ = 2 ^ (32 - bits.length % 8) := by rw [← Nat.pow_add]; congr 1; omega
      _ ≤ 2 ^ 32 := Nat.pow_le_pow_right (by decide) (by omega)
  have hwrites := putBytes_writes
    ((List.range nBytes).map (swappedByte (value <<< (32 - width - s.extraBit)))) width s bits hs
    (by simpa using hlow) (by simpa using hhigh) hwidth
  rw [swappedByte_bits _ _ hbytes, hshift, List.drop_take, List.take_take, Nat.min_eq_left (by omega)] at hwrites
  have hcut := take_drop_toBits (bits.length % 8) width (32 - width - bits.length % 8)
    (value.toNat * 2 ^ (32 - width - bits.length % 8))
  have hsum : bits.length % 8 + width + (32 - width - bits.length % 8) = 32 := by omega
  rw [hsum, Nat.mul_div_cancel _ (Nat.two_pow_pos _)] at hcut
  rw [hcut] at hwrites
  rw [putField, hs.bitOffset]
  exact hwrites

theorem Writes.skip (hs : Writes s bits) (width : Nat) : Writes (T35Writer.skip width s) (bits ++ toBits width 0) := by
  refine ⟨?_, ?_, ?_⟩
  · rw [toBits_zero]
    exact hs.holds.append_replicate width
  · simp [T35Writer.skip, hs.bitOffset]
  · simp [T35Writer.skip, hs.bitOffset]

theorem putHeaderByte_holds (byte : Byte) (width : Nat) (hholds : Holds s.pBlob bits) (hoff : s.bitOffset = bits.length)
    (hphase : bits.length % 8 = 0) (hwidth : 8 ≤ width) :
    Holds (putHeaderByte (bits.length + width) byte s).pBlob (bits ++ byteBits byte) ∧
      (putHeaderByte (bits.length + width) byte s).bitOffset = bits.length + 8 := by
  have hloop := putLoop_holds byte 8 0 width s bits hholds hoff (fun _ => hphase) (by omega) (by omega)
  rw [List.drop_zero, Nat.min_eq_left hwidth, List.take_of_length_le (by rw [length_byteBits])] at hloop
  exact ⟨hloop.1, hloop.2.1⟩

theorem putHeader8_writes (value : U8) (hs : Writes s bits) (hphase : bits.length % 8 = 0) :
    Writes (putHeader8 value s) (bits ++ toBits 8 value.toNat) := by
  obtain ⟨hholds, hoff⟩ := putHeaderByte_holds value 8 hs.holds hs.bitOffset hphase le_rfl
  rw [putHeader8, hs.bitOffset]
  exact ⟨hholds, by simp [hoff], by simp [hoff]⟩

theorem putHeader16_writes (value : U16) (hs : Writes s bits) (hphase : bits.length % 8 = 0) :
    Writes (putHeader16 value s) (bits ++ toBits 16 value.toNat) := by
  obtain ⟨hholds, hoff⟩ := putHeaderByte_holds ((value >>> 8).setWidth 8) 16 hs.holds hs.bitOffset hphase (by decide)
  have hlen : (bits ++ byteBits ((value >>> 8).setWidth 8)).length = bits.length + 8 := by simp
  obtain ⟨hholds', hoff'⟩ := putHeaderByte_holds (value.setWidth 8) 8 hholds (hoff.trans hlen.symm) (by omega) le_rfl
  have hbits : byteBits ((value >>> 8).setWidth 8) ++ byteBits (value.setWidth 8) =
      toBits 16 value.toNat := by
    rw [← toBits_append 8 8, byteBits, byteBits, BitVec.toNat_setWidth, BitVec.toNat_setWidth,
      toBits_mod, toBits_mod, BitVec.toNat_ushiftRight, Nat.shiftRight_eq_div_pow]
  rw [hlen, Nat.add_assoc] at hholds' hoff'
  rw [append_assoc, hbits] at hholds'
  rw [putHeader16, hs.bitOffset]
  exact ⟨hholds', by simp [hoff'], by simp [hoff']⟩

theorem putNumWindows_writes (hs : Writes s bits) (hphase : bits.length % 8 = 0) :
    Writes (putNumWindows s) (bits ++ toBits 2 1) := by
  obtain ⟨hholds, hoff, -⟩ := putLoop_holds 0x40 2 0 2 s bits hs.holds hs.bitOffset
    (fun _ => hphase) (by decide) (by decide)
  have hbits : ((byteBits 0x40).drop 0).take (min 2 2) = toBits 2 1 := by decide
  rw [hbits] at hholds
  rw [putNumWindows, hs.bitOffset]
  refine ⟨hholds, ?_, ?_⟩
  · rw [length_append, length_toBits]
    exact hoff
  · rw [length_append, length_toBits]
    exact congrArg (· % 8) hoff

variable {d : ExynosHdrData}

theorem putDisplayMaximumLuminance_writes (hs : Writes s bits) (hval : d.displayMaximumLuminance.toNat < 2 ^ 27)
    (hphase : bits.length % 8 ≤ 5) :
    Writes (putDisplayMaximumLuminance d s) (bits ++ toBits 27 d.displayMaximumLuminance.toNat) :=
  putField_writes 27 4 _ hs hval (by decide) le_rfl (by omega) (by omega)

theorem putBits17_writes {value : U32} (hs : Writes s bits)
    (hval : value.toNat < 2 ^ 17) : Writes (putBits17 value s) (bits ++ toBits 17 value.toNat) :=
  putField_writes 17 3 value hs hval (by decide) (by decide) (by omega) (by omega)

theorem putNumMaxrgbPercentiles_writes (hs : Writes s bits) (hval : d.numMaxrgbPercentiles.toNat < 2 ^ 4)
    (hphase : bits.length % 8 ≤ 4) :
    Writes (putNumMaxrgbPercentiles d s) (bits ++ toBits 4 d.numMaxrgbPercentiles.toNat) := by
  let low : Byte := (d.numMaxrgbPercentiles.setWidth 32 <<< (4 - bits.length % 8)).setWidth 8
  obtain ⟨hholds, hoff, -⟩ := putLoop_holds low (8 - bits.length % 8) (bits.length % 8) 4 s bits
    hs.holds hs.bitOffset (fun _ => rfl) (by omega) (by decide)
  have hlow : low.toNat = d.numMaxrgbPercentiles.toNat * 2 ^ (4 - bits.length % 8) := by
    have hbound : d.numMaxrgbPercentiles.toNat * 2 ^ (4 - bits.length % 8) < 2 ^ 8 := by
      calc d.numMaxrgbPercentiles.toNat * 2 ^ (4 - bits.length % 8)
          < 2 ^ 4 * 2 ^ (4 - bits.length % 8) := Nat.mul_lt_mul_of_pos_right hval (Nat.two_pow_pos _)
        _ = 2 ^ (8 - bits.length % 8) := by rw [← Nat.pow_add]; congr 1; omega
        _ ≤ 2 ^ 8 := Nat.pow_le_pow_right (by decide) (by omega)
    simp only [low, BitVec.toNat_setWidth, BitVec.toNat_shiftLeft, Nat.shiftLeft_eq]
    rw [Nat.mod_eq_of_lt (by omega : d.numMaxrgbPercentiles.toNat < 2 ^ 32),
      Nat.mod_eq_of_lt (by omega : _ < 2 ^ 32), Nat.mod_eq_of_lt hbound]
  have hbits : ((byteBits low).drop (bits.length % 8)).take (min (8 - bits.length % 8) 4) =
      toBits 4 d.numMaxrgbPercentiles.toNat := by
    have hcut := take_drop_toBits (bits.length % 8) 4 (4 - bits.length % 8) low.toNat
    rw [show bits.length % 8 + 4 + (4 - bits.length % 8) = 8 by omega, hlow,
      Nat.mul_div_cancel _ (Nat.two_pow_pos _), ← hlow] at hcut
    rw [Nat.min_eq_right (by omega)]
    exact hcut
  rw [hbits] at hholds
  rw [Nat.min_eq_right (by omega)] at hoff
  simp only [putNumMaxrgbPercentiles, hs.bitOffset, hs.extraBit]
  refine ⟨hholds, ?_, ?_⟩
  · rw [length_append, length_toBits]
    exact hoff
  · rw [length_append, length_toBits]
    exact congrArg (· % 8) hoff

theorem putField_setWidth_writes {w : Nat} (width nBytes : Nat) (value : BitVec w) (hs : Writes s bits)
    (hval : value.toNat < 2 ^ width) (hwidth : 0 < width)
    (hbytes : nBytes ≤ 4) (hlow : 8 * nBytes < bits.length % 8 + width + 8)
    (hhigh : bits.length % 8 + width ≤ 8 * nBytes) :
    Writes (putField width nBytes (value.setWidth 32 <<< (32 - width - s.extraBit)) s)
      (bits ++ toBits width value.toNat) := by
  have hwide : (value.setWidth 32).toNat = value.toNat := by
    rw [BitVec.toNat_setWidth, Nat.mod_eq_of_lt]
    exact hval.trans_le (Nat.pow_le_pow_right (by decide) (by omega))
  rw [← hwide] at hval ⊢
  exact putField_writes width nBytes _ hs hval hwidth hbytes hlow hhigh

theorem putField_extraByte_writes {w width base limit : Nat} {value : BitVec w} (hs : Writes s bits)
    (hval : value.toNat < 2 ^ width) (hwidth : 0 < width) (hfit : limit + width = 8 * base) (hlimit : limit < 8)
    (hbase : base < 4) :
    Writes (putField width (base + if s.extraBit > limit then 1 else 0) (value.setWidth 32 <<<
      (32 - width - s.extraBit)) s) (bits ++ toBits width value.toNat) := by
  have hextra := hs.extraBit
  split_ifs
  · exact putField_setWidth_writes width (base + 1) value hs hval hwidth (by omega) (by omega) (by omega)
  · exact putField_setWidth_writes width base value hs hval hwidth (by omega) (by omega) (by omega)

theorem orFlag_writes {flag : Prop} [Decidable flag] (hs : Writes s bits) : Writes (T35Writer.skip 1 { s with
        pBlob := if flag then orAt s.pBlob (s.bitOffset / 8) (1#8 <<< (7 - s.extraBit)) else s.pBlob })
      (bits ++ [decide flag]) := by
  by_cases hflag : flag
  · have hbit := hs.holds.orBit 0xFF#8
    have hset : ∀ k ≤ 7, (0xFF#8).getLsbD (7 - k) = true ∧ (0xFF#8 &&& 1#8 <<< (7 - k)) = 1#8 <<< (7 - k) := by decide
    obtain ⟨hget, hmask⟩ := hset (bits.length % 8) (by omega)
    rw [hget, hmask, ← hs.extraBit, ← hs.bitOffset] at hbit
    rw [if_pos hflag, decide_eq_true hflag]
    refine ⟨hbit, ?_, ?_⟩
    · rw [length_append, ← hs.bitOffset]
      rfl
    · rw [length_append, ← hs.bitOffset]
      rfl
  · rw [if_neg hflag, decide_eq_false hflag]
    exact Writes.skip hs 1

theorem putMaxrgbPercentage_writes {value : U8} (hs : Writes s bits) (hval : value.toNat < 2 ^ 7) :
    Writes (putMaxrgbPercentage value s) (bits ++ toBits 7 value.toNat) :=
  putField_extraByte_writes hs hval (by decide) (by decide : 1 + 7 = 8 * 1) (by decide) (by decide)

variable {value : U16}

theorem putKneePoint_writes (hs : Writes s bits) (hval : value.toNat < 2 ^ 12) :
    Writes (putKneePoint value s) (bits ++ toBits 12 value.toNat) :=
  putField_extraByte_writes hs hval (by decide) (by decide : 4 + 12 = 8 * 2) (by decide) (by decide)

theorem putNumBezierCurveAnchors_writes (hs : Writes s bits) (hval : value.toNat < 2 ^ 4) :
    Writes (putNumBezierCurveAnchors value s) (bits ++ toBits 4 value.toNat) :=
  putField_extraByte_writes hs hval (by decide) (by decide : 4 + 4 = 8 * 1) (by decide) (by decide)

theorem putBezierCurveAnchor_writes (hs : Writes s bits) (hval : value.toNat < 2 ^ 10) :
    Writes (putBezierCurveAnchor value s) (bits ++ toBits 10 value.toNat) :=
  putField_extraByte_writes hs hval (by decide) (by decide : 6 + 10 = 8 * 2) (by decide) (by decide)

variable {t : ToneMapping}

theorem putToneMappingFlag_writes (hs : Writes s bits) (hflag : t.toneMappingFlag = 0 ∨ t.toneMappingFlag = 1) :
    Writes (putToneMappingFlag t s) (bits ++ toBits 1 t.toneMappingFlag.toNat) := by
  have hbits : toBits 1 t.toneMappingFlag.toNat = [decide (t.toneMappingFlag ≠ 0)] := by
    rcases hflag with hflag | hflag <;> rw [hflag] <;> rfl
  rw [hbits]
  exact orFlag_writes hs

theorem loop_writes (step : Nat → WriterState → WriterState) (field : Nat → List Bool)
    (loop : Nat → Nat → WriterState → WriterState) (hzero : ∀ i s, loop 0 i s = s)
    (hsucc : ∀ count i s, loop (count + 1) i s = loop count (i + 1) (step i s))
    (count first : Nat) (s : WriterState) (bits : List Bool) (hs : Writes s bits)
    (hstep : ∀ i s bits, first ≤ i → i < first + count → Writes s bits → Writes (step i s) (bits ++ field i)) :
    Writes (loop count first s) (bits ++ (List.range' first count).flatMap field) := by
  induction count generalizing first s bits with
  | zero => simpa [hzero] using hs
  | succ count ih =>
    have hnext := ih (first + 1) (step first s) (bits ++ field first) (hstep first s bits le_rfl (by omega) hs)
      (fun i s bits hfst hlast => hstep i s bits (by omega) (by omega))
    rw [hsucc, List.range'_succ, List.flatMap_cons, ← append_assoc]
    exact hnext

theorem putMaxscl_writes (hs : Writes s bits) (hd : InRange d) : Writes (putMaxscl d 3 0 s) (bits ++ maxsclBits d) := by
  have hloop := loop_writes (fun i s => putBits17 (d.maxscl i) s) (fun i => toBits 17 (d.maxscl i).toNat)
    (putMaxscl d) (fun _ _ => rfl) (fun _ _ _ => rfl) 3 0 s bits hs
    (fun i s bits _ hi hs => putBits17_writes hs (hd.maxscl i (by omega)))
  rwa [← List.range_eq_range'] at hloop

theorem putPercentiles_writes (hs : Writes s bits) (hd : InRange d) :
    Writes (putPercentiles d d.numMaxrgbPercentiles.toNat 0 s)
      (bits ++ percentileListBits d d.numMaxrgbPercentiles.toNat) := by
  have hpair : ∀ i s bits, 0 ≤ i → i < 0 + d.numMaxrgbPercentiles.toNat → Writes s bits →
      Writes (putBits17 (d.maxrgbPercentiles i) (putMaxrgbPercentage (d.maxrgbPercentages i) s))
        (bits ++ percentileBits d i) := by
    intro i s bits _ hi hs
    rw [Nat.zero_add] at hi
    have hpercentage := putMaxrgbPercentage_writes hs (hd.percentages i hi)
    have hpct := putBits17_writes hpercentage (hd.percentiles i hi)
    rwa [append_assoc] at hpct
  have hloop := loop_writes _ (percentileBits d) (putPercentiles d) (fun _ _ => rfl) (fun _ _ _ => rfl)
    d.numMaxrgbPercentiles.toNat 0 s bits hs hpair
  rwa [← List.range_eq_range'] at hloop

theorem putAnchors_writes {version : U8} (hs : Writes s bits) (ht : t.InRange version) :
    Writes (putAnchors t t.numBezierCurveAnchors.toNat 0 s)
      (bits ++ anchorListBits t t.numBezierCurveAnchors.toNat) := by
  have hloop := loop_writes (fun i s => putBezierCurveAnchor (t.bezierCurveAnchors i) s)
    (fun i => toBits 10 (t.bezierCurveAnchors i).toNat) (putAnchors t) (fun _ _ => rfl) (fun _ _ _ => rfl)
    t.numBezierCurveAnchors.toNat 0 s bits hs
    (fun i s bits _ hi hs => putBezierCurveAnchor_writes hs (ht.anchors i (by omega)))
  rwa [← List.range_eq_range'] at hloop

theorem putCurve_writes (hs : Writes s (bits ++ toBits 1 d.toneMapping.toneMappingFlag.toNat)) (hd : InRange d) :
    Writes (putCurve d.toneMapping s) (bits ++ toneMappingBits d.toneMapping) := by
  rcases hd.flag with hzero | hone
  · have hne : d.toneMapping.toneMappingFlag ≠ 1 := by rw [hzero]; decide
    rw [putCurve, if_neg (not_not.mpr hzero), toneMappingBits, if_neg hne, List.append_nil]
    exact hs
  · have ht := hd.toneMapping hone
    have hne : d.toneMapping.toneMappingFlag ≠ 0 := by rw [hone]; decide
    have hcnt : d.toneMapping.numBezierCurveAnchors.toNat < 2 ^ 4 := by
      have hle := ht.anchorCount.trans (maxBezierCurveAnchors_le d.applicationVersion)
      omega
    have hx := putKneePoint_writes hs ht.kneePointX
    have hy := putKneePoint_writes hx ht.kneePointY
    have hnum := putNumBezierCurveAnchors_writes hy hcnt
    have hanchors := putAnchors_writes hnum ht
    rw [putCurve, if_pos hne, toneMappingBits, if_pos hone, curveBits]
    simpa only [append_assoc] using hanchors

theorem putT35Header_writes (hs : Writes s []) : Writes (putT35Header d s) (headerBits d) := by
  have hcountry := putHeader8_writes d.countryCode hs (by simp)
  have hprovider := putHeader16_writes d.providerCode hcountry (by simp)
  have horiented := putHeader16_writes d.providerOrientedCode hprovider (by simp)
  have hident := putHeader8_writes d.applicationIdentifier horiented (by simp)
  have hver := putHeader8_writes d.applicationVersion hident (by simp)
  exact hver

def t35Bits (d : ExynosHdrData) : List Bool := headerBits d ++ toBits 2 1 ++ bodyBits 0 0 d

theorem putT35Body_writes (hs : Writes s (headerBits d)) (hd : InRange d) : Writes (putT35Body d s) (t35Bits d) := by
  have hlum := hd.displayMaximumLuminance
  have hpcts := hd.percentileCount
  have h := putNumWindows_writes hs (by simp)
  have h := putDisplayMaximumLuminance_writes (d := d) h (by omega) (by simp)
  have h := Writes.skip h 1
  have h := putMaxscl_writes h hd
  have h := Writes.skip h 17
  have h := putNumMaxrgbPercentiles_writes (d := d) h (by omega) (by simp)
  have h := putPercentiles_writes h hd
  have h := Writes.skip h 10
  have h := Writes.skip h 1
  have h := putToneMappingFlag_writes h hd.flag
  have h := putCurve_writes h hd
  have h := Writes.skip h 1
  simpa only [putT35Body, t35Bits, bodyBits, append_assoc] using h

theorem exynosDynamicMetaToItuTT35_spec (d : ExynosHdrData) (hd : InRange d) :
    (exynosDynamicMetaToItuTT35 d fun _ => 0).1 = ((t35Bits d).length + 7) / 8 ∧
      Holds (exynosDynamicMetaToItuTT35 d fun _ => 0).2 (t35Bits d) := by
  have hstart : Writes { pBlob := fun _ => 0, bitOffset := 0, extraBit := 0 } [] := ⟨holds_zero, rfl, rfl⟩
  have hbody := putT35Body_writes (putT35Header_writes hstart) hd
  refine ⟨?_, hbody.holds⟩
  simp only [exynosDynamicMetaToItuTT35, hbody.bitOffset, hbody.extraBit]
  split <;> omega

end ExynosHal.VideoApi.T35WriterCorrect
