import ExynosHal.VideoApi.FullSeiFields
import ExynosHal.VideoApi.HeaderRoundTrip

/-! # What the full T.35 writer puts

Field by field it is what the SEI writer asks `put_bits` for, but for the overlap option, the saturation weight
and, behind an unlucky phase, the number of percentiles.
-/

namespace ExynosHal.VideoApi.FullT35WriterCorrect
open Library.BitString Library.BitBuffer FullHdr T35Writer T35WriterCorrect T35WriterFrame FullT35Writer PutBitsCorrect
  SeiWrite
open SeiRoundTrip (fieldBits_append)
open HeaderRoundTrip (writes_empty fullHeaderOf Header.bits)
open FullSeiWrite hiding toneMappingFields payloadHeaderFields bodyFields percentileFields plainFields getPayloadSize
  seiWrite2094_40 exynosSeiWrite

def Puts (fields : List Field) (put : WriterState → WriterState) : Prop :=
  ∀ s bits, Writes s bits → Writes (put s) (bits ++ fieldBits fields)

theorem Puts.comp {a b : List Field} {f g : WriterState → WriterState} (hf : Puts a f) (hg : Puts b g) :
    Puts (a ++ b) fun s => g (f s) := by
  intro s bits hs
  rw [fieldBits_append, ← List.append_assoc]
  exact hg _ _ (hf s bits hs)

theorem fieldBits_single {w n : Nat} (value : BitVec w) (hw : w ≤ 32) :
    fieldBits [(n, value.setWidth 32)] = toBits n value.toNat := by
  rw [fieldBits, List.flatMap_cons, List.flatMap_nil, List.append_nil, BitVec.toNat_setWidth_of_le hw]

theorem fieldBits_flatMap {α : Type} (items : List α) (fields : α → List Field) :
    fieldBits (items.flatMap fields) = items.flatMap fun i => fieldBits (fields i) := List.flatMap_assoc

theorem puts_loop (step : Nat → WriterState → WriterState) (fields : Nat → List Field) (loop : Nat → Nat → WriterState →
    WriterState)
    (hzero : ∀ i s, loop 0 i s = s) (hsucc : ∀ count i s, loop (count + 1) i s = loop count (i + 1) (step i s))
    (count : Nat) (hstep : ∀ i < count, Puts (fields i) (step i)) :
    Puts ((List.range count).flatMap fields) (loop count 0) := by
  intro s bits hs
  rw [fieldBits_flatMap, List.range_eq_range']
  exact loop_writes step (fun i => fieldBits (fields i)) loop hzero hsucc count 0 s bits hs
    fun i s bits _ hi hs => hstep i (by omega) s bits hs

theorem putField_puts {w width base limit : Nat} (value : BitVec w) (hw : w ≤ 32) (hval : value.toNat < 2 ^ width)
    (hwidth : 0 < width) (hfit : limit + width = 8 * base) (hlimit : limit < 8) (hbase : base < 4) :
    Puts [(width, value.setWidth 32)] fun s =>
      putField width (base + if s.extraBit > limit then 1 else 0)
        (value.setWidth 32 <<< (32 - width - s.extraBit)) s := by
  intro s bits hs
  rw [fieldBits_single value hw]
  exact putField_extraByte_writes hs hval hwidth hfit hlimit hbase

theorem putBits16_puts (value : U16) : Puts [(16, value.setWidth 32)] (putBits16 value) :=
  putField_puts value (by decide) value.isLt (by decide) (by decide : 0 + 16 = 8 * 2) (by decide) (by decide)

theorem putRotationAngle_puts (value : U8) : Puts [(8, value.setWidth 32)] (putRotationAngle value) :=
  putField_puts value (by decide) value.isLt (by decide) (by decide : 0 + 8 = 8 * 1) (by decide) (by decide)

variable {value : U8}

theorem putBits5_puts (hval : value.toNat < 2 ^ 5) : Puts [(5, value.setWidth 32)] (putBits5 value) :=
  putField_puts value (by decide) hval (by decide) (by decide : 3 + 5 = 8 * 1) (by decide) (by decide)

theorem putBits4_puts (hval : value.toNat < 2 ^ 4) : Puts [(4, value.setWidth 32)] (putBits4 value) :=
  putField_puts value (by decide) hval (by decide) (by decide : 4 + 4 = 8 * 1) (by decide) (by decide)

theorem putMaxrgbPercentage_puts (hval : value.toNat < 2 ^ 7) :
    Puts [(7, value.setWidth 32)] (putMaxrgbPercentage value) :=
  putField_puts value (by decide) hval (by decide) (by decide : 1 + 7 = 8 * 1) (by decide) (by decide)

theorem putKneePoint_puts {value : U16} (hval : value.toNat < 2 ^ 12) :
    Puts [(12, value.setWidth 32)] (putKneePoint value) :=
  putField_puts value (by decide) hval (by decide) (by decide : 4 + 12 = 8 * 2) (by decide) (by decide)

theorem putBezierCurveAnchor_puts {value : U16} (hval : value.toNat < 2 ^ 10) :
    Puts [(10, value.setWidth 32)] (putBezierCurveAnchor value) :=
  putField_puts value (by decide) hval (by decide) (by decide : 6 + 10 = 8 * 2) (by decide) (by decide)

theorem putBits17_puts {value : U32} (hval : value.toNat < 2 ^ 17) : Puts [(17, value)] (putBits17 value) := by
  intro s bits hs
  have hbits : fieldBits [(17, value)] = toBits 17 value.toNat := List.append_nil _
  rw [hbits]
  exact putBits17_writes hs hval

theorem putFlag_puts (hflag : value = 0 ∨ value = 1) : Puts [(1, value.setWidth 32)] (putFlag value) := by
  intro s bits hs
  rw [fieldBits_single value (by decide)]
  have hbits : toBits 1 value.toNat = [decide (value ≠ 0)] := by
    rcases hflag with rfl | rfl <;> rfl
  rw [hbits]
  exact orFlag_writes hs

theorem putGeometry_puts (d : FullHdrData) (w : Nat) : Puts (ellipseFields d w) (putGeometry d w) := by
  have h := (putBits16_puts (d.windowUpperLeftCornerX w)).comp (putBits16_puts (d.windowUpperLeftCornerY w))
  have h := h.comp (putBits16_puts (d.windowLowerRightCornerX w))
  have h := h.comp (putBits16_puts (d.windowLowerRightCornerY w))
  have h := h.comp (putBits16_puts (d.centerOfEllipseX w))
  have h := h.comp (putBits16_puts (d.centerOfEllipseY w))
  have h := h.comp (putRotationAngle_puts (d.rotationAngle w))
  have h := h.comp (putBits16_puts (d.semimajorAxisInternalEllipse w))
  have h := h.comp (putBits16_puts (d.semimajorAxisExternalEllipse w))
  have h := h.comp (putBits16_puts (d.semiminorAxisExternalEllipse w))
  simp only [List.cons_append, List.nil_append] at h
  exact h

theorem putGeometries_puts (d : FullHdrData) (count : Nat) :
    Puts ((List.range count).flatMap (ellipseFields d)) (putGeometries d count 0) :=
  puts_loop (fun w s => putGeometry d w s) _ (putGeometries d) (fun _ _ => rfl) (fun _ _ _ => rfl) count fun w _ =>
    putGeometry_puts d w

theorem putRows_puts {p : PeakLuminance} (hcells : ∀ i < p.numRows.toNat, ∀ j < p.numCols.toNat,
    (p.luminance i j).toNat < 2 ^ 4) : Puts (cellFields p) (putRows p p.numRows.toNat 0) := by
  refine puts_loop (fun i s => putRow p i p.numCols.toNat 0 s) _ (putRows p) (fun _ _ => rfl) (fun _ _ _ => rfl) _ fun i
    hi => ?_
  rw [List.map_eq_flatMap]
  exact puts_loop (fun j s => putBits4 (p.luminance i j) s) _ (putRow p i) (fun _ _ => rfl) (fun _ _ _ => rfl) _
    fun j hj => putBits4_puts (hcells i hi j hj)

theorem putPeakLuminance_puts {p : PeakLuminance} (hp : p.InRange) :
    Puts (peakLuminanceFields p) (putPeakLuminance p) := by
  have hflag := putFlag_puts hp.flag
  rcases hp.flag with hzero | hone
  · intro s bits hs
    have hne : p.flag ≠ 1 := by rw [hzero]; decide
    rw [peakLuminanceFields, if_neg hne, putPeakLuminance, if_neg (not_not.mpr hzero)]
    exact hflag s bits hs
  · intro s bits hs
    have hne : p.flag ≠ 0 := by rw [hone]; decide
    have hrows := hp.numRows hone
    have hcols := hp.numCols hone
    rw [peakLuminanceFields, if_pos hone, putPeakLuminance, if_pos hne]
    have h := hflag.comp (putBits5_puts (by omega : p.numRows.toNat < 2 ^ 5))
    have h := h.comp (putBits5_puts (by omega : p.numCols.toNat < 2 ^ 5))
    exact h.comp (putRows_puts (hp.luminance hone)) s bits hs

variable {d : FullHdrData} {w : Nat}

section
variable (hw : WindowInRange d w)
include hw

theorem putMaxscl_puts : Puts ((List.range 3).map fun i => (17, d.maxscl w i)) (FullT35Writer.putMaxscl d w 3 0) := by
  rw [List.map_eq_flatMap]
  exact puts_loop (fun i s => putBits17 (d.maxscl w i) s) _ (FullT35Writer.putMaxscl d w) (fun _ _ => rfl)
    (fun _ _ _ => rfl) 3
    fun i hi => putBits17_puts (hw.maxscl i hi)

theorem putPercentiles_puts :
    Puts (FullSeiWrite.percentileFields d w) (FullT35Writer.putPercentiles d w (d.numMaxrgbPercentiles w).toNat 0) :=
  puts_loop (fun i s => putBits17 (d.maxrgbPercentiles w i) (putMaxrgbPercentage (d.maxrgbPercentages w i) s)) _
    (FullT35Writer.putPercentiles d w) (fun _ _ => rfl) (fun _ _ _ => rfl) _
    fun i hi => (putMaxrgbPercentage_puts (hw.maxrgbPercentages i hi)).comp (putBits17_puts (hw.maxrgbPercentiles i hi))

theorem putAnchors_puts :
    Puts ((List.range (d.toneMapping.numBezierCurveAnchors w).toNat).map fun i =>
      (10, (d.toneMapping.bezierCurveAnchors w i).setWidth 32))
      (FullT35Writer.putAnchors d.toneMapping w (d.toneMapping.numBezierCurveAnchors w).toNat 0) := by
  rw [List.map_eq_flatMap]
  exact puts_loop (fun i s => putBezierCurveAnchor (d.toneMapping.bezierCurveAnchors w i) s) _
    (FullT35Writer.putAnchors d.toneMapping w)
    (fun _ _ => rfl) (fun _ _ _ => rfl) _ fun i hi => putBezierCurveAnchor_puts (hw.bezierCurveAnchors i hi)

theorem putCurve_puts : Puts (curveFields d.toneMapping w) (FullT35Writer.putCurve d.toneMapping w) := by
  have hflag := putFlag_puts hw.toneMappingFlag
  rcases hw.toneMappingFlag with hzero | hone
  · intro s bits hs
    have hne : d.toneMapping.toneMappingFlag w ≠ 1 := by rw [hzero]; decide
    rw [curveFields, if_neg hne, FullT35Writer.putCurve, if_neg (not_not.mpr hzero)]
    exact hflag s bits hs
  · intro s bits hs
    have hne : d.toneMapping.toneMappingFlag w ≠ 0 := by rw [hone]; decide
    rw [curveFields, if_pos hone, FullT35Writer.putCurve, if_pos hne]
    have h := hflag.comp (putKneePoint_puts hw.kneePointX)
    have h := h.comp (putKneePoint_puts hw.kneePointY)
    have h := h.comp (putBits4_puts hw.numBezierCurveAnchors)
    exact h.comp (putAnchors_puts hw) s bits hs

end

section
variable {s : WriterState} {bits : List Bool} {d : FullHdrData}

theorem putNumWindows_writes (hs : Writes s bits) (hphase : bits.length % 8 = 0) (hwins : d.numWindows.toNat ≤ 3) :
    Writes (FullT35Writer.putNumWindows d s) (bits ++ fieldBits [(2, d.numWindows.setWidth 32)]) := by
  have hextra := hs.extraBit
  rw [hphase] at hextra
  obtain ⟨hholds, hoff, -⟩ :=
    putLoop_holds ((d.numWindows.setWidth 32 <<< (6 - s.extraBit)).setWidth 8) 2 0 2 s bits hs.holds hs.bitOffset
    (fun _ => hphase) (by decide) (by decide)
  have hbyte : ∀ n : U8, n.toNat ≤ 3 →
      ((byteBits ((n.setWidth 32 <<< 6).setWidth 8)).drop 0).take (min 2 2) = toBits 2 n.toNat := by decide
  rw [hextra, hbyte d.numWindows hwins] at hholds
  rw [hextra] at hoff
  rw [fieldBits_single d.numWindows (by decide), FullT35Writer.putNumWindows, hs.bitOffset, hextra]
  refine ⟨hholds, ?_, ?_⟩
  · rw [List.length_append, length_toBits]
    exact hoff
  · rw [List.length_append, length_toBits]
    exact congrArg (· % 8) hoff

theorem putMaximumLuminance_writes (hs : Writes s bits) (hval : d.targetedSystemDisplayMaximumLuminance.toNat < 2 ^ 27)
    (hphase : bits.length % 8 ≤ 5) :
    Writes (putMaximumLuminance d s) (bits ++ fieldBits [(27, d.targetedSystemDisplayMaximumLuminance)]) := by
  have hbits : fieldBits [(27, d.targetedSystemDisplayMaximumLuminance)] =
      toBits 27 d.targetedSystemDisplayMaximumLuminance.toNat :=
    List.append_nil _
  rw [hbits]
  exact putField_writes 27 4 _ hs hval (by decide) le_rfl (by omega) (by omega)

theorem putNumMaxrgbPercentiles_writes {negativeShift : NegativeShift} {w : Nat} (hs : Writes s bits)
    (hval : (d.numMaxrgbPercentiles w).toNat < 2 ^ 4) (hphase : bits.length % 8 ≤ 4) :
    Writes (FullT35Writer.putNumMaxrgbPercentiles negativeShift d w s)
      (bits ++ fieldBits [(4, (d.numMaxrgbPercentiles w).setWidth 32)]) := by
  let d' := { T35Exact.emptyHdrData with numMaxrgbPercentiles := d.numMaxrgbPercentiles w }
  have hsame : FullT35Writer.putNumMaxrgbPercentiles negativeShift d w s = T35Writer.putNumMaxrgbPercentiles d' s := by
    rw [FullT35Writer.putNumMaxrgbPercentiles, if_pos (by rw [hs.extraBit]; exact hphase)]
    rfl
  rw [hsame, fieldBits_single _ (by decide)]
  exact T35WriterCorrect.putNumMaxrgbPercentiles_writes (d := d') hs hval hphase

theorem putFullHeader_writes (d : FullHdrData) :
    Writes (putFullHeader d { pBlob := fun _ => 0, bitOffset := 0, extraBit := 0 })
      (fieldBits (FullSeiWrite.payloadHeaderFields d)) := by
  have hhdr : fieldBits (FullSeiWrite.payloadHeaderFields d) = (fullHeaderOf d).bits := by
    simp only [FullSeiWrite.payloadHeaderFields, fieldBits, List.flatMap_cons, List.flatMap_nil,
      BitVec.toNat_setWidth_of_le (by decide : 8 ≤ 32),
      BitVec.toNat_setWidth_of_le (by decide : 16 ≤ 32), Header.bits, fullHeaderOf, List.append_assoc, List.append_nil]
  rw [hhdr]
  exact HeaderRoundTrip.putFullHeader_writes d writes_empty

end

end ExynosHal.VideoApi.FullT35WriterCorrect
