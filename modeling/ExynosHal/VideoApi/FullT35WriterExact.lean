import ExynosHal.VideoApi.FullT35WriterCorrect

/-! # When the full T.35 writer puts the fields of the SEI writer

For one window without a saturation weight it does, and for more only by chance.
-/

namespace ExynosHal.VideoApi.FullT35WriterExact
open Library.BitString Library.BitBuffer FullHdr T35Writer T35WriterCorrect T35WriterFrame FullT35Writer
  FullT35WriterFrame PutBitsCorrect
open SeiWrite (Field)
open SeiRoundTrip (fieldBits_append fieldWidth fieldWidth_append length_fieldBits)
open HeaderRoundTrip (Grows putStatistics_grows putToneMappings_grows putToneMappings_end putToneMappings_step)
open FullSeiWrite FullSeiFields FullT35WriterCorrect
open List (append_assoc flatMap_cons length_append map_cons map_nil range sum_cons sum_nil)
open Nat (two_pow_pos)

def payloadFields (d : FullHdrData) : List Field := payloadHeaderFields d ++ bodyFields d

/-- `frontFields` without the overlap options. -/
def writtenFrontFields (d : FullHdrData) : List Field :=
  [(2, d.numWindows.setWidth 32)] ++ (range (d.numWindows.toNat - 1)).flatMap (ellipseFields d) ++
    [(27, d.targetedSystemDisplayMaximumLuminance)]

variable {d : FullHdrData} {negativeShift : NegativeShift} {s s' : WriterState} {bits : List Bool}

theorem fieldWidth_payloadHeaderFields (d : FullHdrData) : fieldWidth (payloadHeaderFields d) = 56 := rfl

theorem fieldWidth_ellipseFields (d : FullHdrData) (w : Nat) : fieldWidth (ellipseFields d w) = 152 := by
  have hgeom := fieldWidth_geometryFields d w
  rw [geometryFields, fieldWidth_append] at hgeom
  exact Nat.add_right_cancel hgeom

theorem fieldWidth_writtenFrontFields (d : FullHdrData) :
    fieldWidth (writtenFrontFields d) = 29 + 152 * (d.numWindows.toNat - 1) := by
  rw [writtenFrontFields, fieldWidth_append, fieldWidth_append, fieldWidth_flatMap_range (fieldWidth_ellipseFields d)]
  simp only [fieldWidth, map_cons, map_nil, sum_cons, sum_nil]
  omega

variable {p : PeakLuminance}

theorem tableSize_set (hset : p.flag = 1) : tableSize p = 10 + 4 * (p.numRows.toNat * p.numCols.toNat) := by
  rw [tableSize, if_pos hset, ← Nat.mul_assoc, Nat.mul_comm _ 4]

theorem tableSize_clear (hclear : p.flag ≠ 1) : tableSize p = 0 := if_neg hclear

theorem tableSize_cases (p : PeakLuminance) : tableSize p = 0 ∨ ∃ cells, tableSize p = 10 + 4 * cells := by
  rcases eq_or_ne p.flag 1 with hset | hclear
  · exact .inr ⟨_, tableSize_set hset⟩
  · exact .inl (tableSize_clear hclear)

theorem peakLuminanceWidth_eq (hp : p.InRange) : peakLuminanceWidth p = 1 + tableSize p := by
  rcases hp.flag with hzero | hone
  · rw [peakLuminanceWidth, if_neg (not_not.mpr hzero), tableSize_clear (by rw [hzero]; decide)]
  · rw [peakLuminanceWidth, if_pos (by rw [hone]; decide), tableSize_set hone, Nat.mul_comm p.numRows.toNat,
      Nat.mul_assoc]
    omega

def putLuminanceFront (d : FullHdrData) : WriterState :=
  putMaximumLuminance d (putGeometries d (d.numWindows.toNat - 1) 0
    (putNumWindows d (putFullHeader d { pBlob := fun _ => 0, bitOffset := 0, extraBit := 0 })))

theorem putLuminanceFront_writes (hd : InRange d) :
    Writes (putLuminanceFront d) (fieldBits (payloadHeaderFields d ++ writtenFrontFields d)) := by
  have hhdr : (fieldBits (payloadHeaderFields d)).length = 56 := length_fieldBits _
  have hellipses : (fieldBits ((range (d.numWindows.toNat - 1)).flatMap (ellipseFields d))).length =
      (d.numWindows.toNat - 1) * 152 := by
    rw [length_fieldBits, fieldWidth_flatMap_range (fieldWidth_ellipseFields d)]
  have h := putNumWindows_writes (putFullHeader_writes d) (by rw [hhdr]) hd.numWindows.2
  have h := putGeometries_puts d (d.numWindows.toNat - 1) _ _ h
  have hwins : (fieldBits [(2, d.numWindows.setWidth 32)]).length = 2 := length_fieldBits _
  have h := putMaximumLuminance_writes h hd.maximumLuminance
    (by rw [length_append, length_append, hhdr, hellipses, hwins]; omega)
  rw [writtenFrontFields, fieldBits_append, fieldBits_append, fieldBits_append, ← append_assoc, ← append_assoc]
  exact h

def targetedBits (d : FullHdrData) : List Bool :=
  fieldBits (payloadHeaderFields d ++ writtenFrontFields d ++ peakLuminanceFields d.targetedSystemDisplay)

theorem putTargeted_writes (hd : InRange d) :
    Writes (putPeakLuminance d.targetedSystemDisplay (putLuminanceFront d)) (targetedBits d) := by
  rw [targetedBits, fieldBits_append]
  exact putPeakLuminance_puts hd.targetedSystemDisplay _ _ (putLuminanceFront_writes hd)

theorem length_targeted (d : FullHdrData) :
    (targetedBits d).length = 86 + 152 * (d.numWindows.toNat - 1) + tableSize d.targetedSystemDisplay := by
  rw [targetedBits, length_fieldBits, fieldWidth_append, fieldWidth_append, fieldWidth_payloadHeaderFields,
    fieldWidth_writtenFrontFields, fieldWidth_peakLuminanceFields]
  omega

section
variable {w : Nat}

theorem putAverage_writes (hw : WindowInRange d w) (hs : Writes s bits) :
    Writes (putBits17 (d.averageMaxrgb w) (putMaxscl d w 3 0 s))
      (bits ++ fieldBits (((range 3).map fun i => (17, d.maxscl w i)) ++ [(17, d.averageMaxrgb w)])) :=
  (putMaxscl_puts hw).comp (putBits17_puts hw.averageMaxrgb) s bits hs

theorem length_average (d : FullHdrData) (w : Nat) :
    (fieldBits (((range 3).map fun i => (17, d.maxscl w i)) ++ [(17, d.averageMaxrgb w)])).length = 68 := by
  rw [length_fieldBits, fieldWidth_append, fieldWidth_map_range]
  rfl

theorem putWindowStatistics_writes (hw : WindowInRange d w) (hs : Writes s bits) (hphase : (bits.length + 68) % 8 ≤ 4) :
    Writes (putWindowStatistics negativeShift d w s) (bits ++ fieldBits (statisticsFields d w)) := by
  have havg := putAverage_writes hw hs
  have hcnt := @FullT35WriterCorrect.putNumMaxrgbPercentiles_writes _ _ d negativeShift w havg hw.numMaxrgbPercentiles
    (by rw [length_append, length_average]; exact hphase)
  have hlast := (putPercentiles_puts hw).comp (putBezierCurveAnchor_puts hw.fractionBrightPixels) _ _ hcnt
  rw [append_assoc, append_assoc, ← fieldBits_append, ← fieldBits_append] at hlast
  rw [statisticsFields, append_assoc, append_assoc]
  rw [append_assoc] at hlast
  exact hlast

theorem putWindowStatistics_bit (hw : WindowInRange d w) (hs : Writes s bits) (hphase : (bits.length + 68) % 8 = 6) :
    bitAt (putWindowStatistics negativeShift d w s).pBlob (bits.length + 68) =
      (negativeShift ((d.numMaxrgbPercentiles w).setWidth 32) 2).getLsbD 1 := by
  have havg := putAverage_writes hw hs
  generalize hfront : bits ++ fieldBits (((range 3).map fun i => (17, d.maxscl w i)) ++ [(17, d.averageMaxrgb w)]) =
    front at havg
  have hlen : front.length = bits.length + 68 := by rw [← hfront, length_append, length_average]
  have hextra := havg.extraBit
  rw [hlen, hphase] at hextra
  have hstart : (putBits17 (d.averageMaxrgb w) (putMaxscl d w 3 0 s)).extraBit =
      (putBits17 (d.averageMaxrgb w) (putMaxscl d w 3 0 s)).bitOffset % 8 := by rw [havg.extraBit, havg.bitOffset]
  have hcnt := putFullNumMaxrgbPercentiles_extends negativeShift d w hstart
  have hpcts := putFullPercentiles_extends d w (d.numMaxrgbPercentiles w).toNat 0 hcnt.extraBit
  have hlast := hpcts.trans (putBezierCurveAnchor_extends (d.fractionBrightPixels w) hpcts.extraBit)
  rw [putWindowStatistics, hlast.kept _ (by rw [hcnt.bitOffset, havg.bitOffset, hextra, hlen]; omega)]
  generalize putBits17 (d.averageMaxrgb w) (putMaxscl d w 3 0 s) = s at havg hextra
  obtain ⟨hholds, -, -⟩ :=
    putLoop_holds ((negativeShift ((d.numMaxrgbPercentiles w).setWidth 32) 2).setWidth 8) 2 6 4 s front
    havg.holds havg.bitOffset (fun _ => hlen ▸ hphase) (by decide) (by decide)
  rw [FullT35Writer.putNumMaxrgbPercentiles, hextra, if_neg (by decide), havg.bitOffset, ← hlen, hholds front.length,
    List.getD_append_right _ _ _ _ le_rfl, Nat.sub_self]
  have hfst : ∀ byte : Byte, (((byteBits byte).drop 6).take (min 2 4)).getD 0 false = byte.getLsbD 1 := by decide
  rw [hfst, BitVec.getLsbD_setWidth]
  rfl

end

theorem payloadFields_one (hone : d.numWindows.toNat = 1) (hclear : d.colorSaturationMappingFlag 0 = 0) :
    payloadFields d = payloadHeaderFields d ++ writtenFrontFields d ++ peakLuminanceFields d.targetedSystemDisplay ++
      statisticsFields d 0 ++
      (peakLuminanceFields d.masteringDisplay ++ curveFields d.toneMapping 0 ++
        [(1, (d.colorSaturationMappingFlag 0).setWidth 32)]) := by
  have hne : d.colorSaturationMappingFlag 0 ≠ 1 := by rw [hclear]; decide
  rw [payloadFields, bodyFields, frontFields, writtenFrontFields, hone]
  simp only [Nat.sub_self, List.range_zero, List.flatMap_nil, List.range_one, flatMap_cons, List.append_nil,
    toneMappingFields, colorSaturationFields, if_neg hne, append_assoc]

theorem writes_one (hd : InRange d) (hone : d.numWindows.toNat = 1) (hclear : d.colorSaturationMappingFlag 0 = 0) :
    ∃ s, writeFull negativeShift 2 d (fun _ => 0) = some s ∧ Writes s (fieldBits (payloadFields d)) := by
  have hw := hd.window 0 (by omega)
  have hlen := length_targeted d
  have htable := tableSize_cases d.targetedSystemDisplay
  have htargeted := putTargeted_writes hd
  have hstatistics := @putWindowStatistics_writes _ negativeShift _ _ 0 hw htargeted (by omega)
  have hrest := ((putPeakLuminance_puts hd.masteringDisplay).comp (putCurve_puts hw)).comp
      (putFlag_puts hw.colorSaturationMappingFlag)
  have hall := hrest _ _ hstatistics
  rw [targetedBits, ← fieldBits_append, ← fieldBits_append, ← payloadFields_one hone hclear] at hall
  refine ⟨_, ?_, hall⟩
  have hwins : (0 : Nat) < d.numWindows.toNat := by omega
  rw [writeFull, putFullBody, putToneMappings_step hwins, putColorSaturation_clear _ (not_not.mpr hclear),
    putToneMappings_end (by decide) (by rw [hone])]
  rw [putFullFront, hone]
  rw [putLuminanceFront, hone]
  rfl

theorem statistics_offset (count w : Nat) (hs : s.extraBit = s.bitOffset % 8) :
    (putStatistics negativeShift d count w s).extraBit = (putStatistics negativeShift d count w s).bitOffset % 8 ∧
    (putStatistics negativeShift d count w s).bitOffset ≤ s.bitOffset +
      ((List.range' w count).map (statisticsSize d)).sum := by
  induction count generalizing w s with
  | zero => exact ⟨hs, le_rfl⟩
  | succ count ih =>
    have hwin := putWindowStatistics_extends negativeShift d w hs
    have hoff := hwin.bitOffset
    have hcnt : countWidth (s.bitOffset + 68) ≤ 4 := Nat.min_le_right _ _
    obtain ⟨hextra, hle⟩ := ih (w + 1) hwin.extraBit
    rw [List.range'_succ, map_cons, sum_cons, statisticsSize]
    exact ⟨hextra, hle.trans (by omega)⟩

theorem front_offset (hd : InRange d) :
    let s := putFullFront negativeShift d (putFullHeader d { pBlob := fun _ => 0, bitOffset := 0, extraBit := 0 })
    s.extraBit = s.bitOffset % 8 ∧ s.bitOffset ≤ 87 + 152 * (d.numWindows.toNat - 1) +
      tableSize d.targetedSystemDisplay + ((range d.numWindows.toNat).map (statisticsSize d)).sum +
      tableSize d.masteringDisplay := by
  have htargeted := putTargeted_writes hd
  have hlen := length_targeted d
  obtain ⟨hextra, hle⟩ :=
    @statistics_offset d negativeShift _ d.numWindows.toNat 0 (htargeted.extraBit.trans (by rw [htargeted.bitOffset]))
  have hmast := putPeakLuminance_extends d.masteringDisplay hextra
  have hoff := hmast.bitOffset
  rw [peakLuminanceWidth_eq hd.masteringDisplay] at hoff
  rw [htargeted.bitOffset, hlen, ← List.range_eq_range'] at hle
  exact ⟨hmast.extraBit, hoff.trans_le (by omega)⟩

theorem windowWidth_eq {w : Nat} (hw : WindowInRange d w) :
    curveWidth d.toneMapping w + saturationWidth d w + (if d.colorSaturationMappingFlag w = 1 then 1 else 0) =
      toneMappingSize d w := by
  have hcurve : curveWidth d.toneMapping w = 1 +
      if d.toneMapping.toneMappingFlag w = 1 then (12 + 12 + 4) + (d.toneMapping.numBezierCurveAnchors w).toNat *
        10 else 0 := by
    rw [curveWidth]
    rcases hw.toneMappingFlag with h | h <;> rw [h]
    · rfl
    · rw [if_pos (by decide), if_pos rfl]
      omega
  have hsat : saturationWidth d w + (if d.colorSaturationMappingFlag w = 1 then 1 else 0) =
      1 + if d.colorSaturationMappingFlag w = 1 then 6 else 0 := by
    rw [saturationWidth]
    rcases hw.colorSaturationMappingFlag with h | h <;> rw [h] <;> rfl
  rw [Nat.add_assoc, hsat, hcurve, toneMappingSize]
  omega

theorem lastWindow_offset {fuel i : Nat} (hs : s.extraBit = s.bitOffset % 8) (htwo : d.numWindows.toNat ≤ 2)
    (hlast : i + 1 = d.numWindows.toNat) (h : putToneMappings d fuel i s = some s') :
    s'.bitOffset = s.bitOffset + (curveWidth d.toneMapping i + saturationWidth d i) := by
  have hcurve := putCurve_extends d.toneMapping i hs
  have hwin := hcurve.trans (putColorSaturation_extends d i hcurve.extraBit)
  have hend {fuel i : Nat} {s : WriterState} (hi : d.numWindows.toNat ≤ i) (h : putToneMappings d fuel i s = some s') :
      s = s' := by
    cases fuel with
    | zero => cases h
    | succ fuel => exact Option.some.inj ((putToneMappings_end (by omega) hi).symm.trans h)
  cases fuel with
  | zero => cases h
  | succ fuel =>
    rw [putToneMappings_step (by omega)] at h
    have hnext : d.numWindows.toNat ≤ (putColorSaturation d i (FullT35Writer.putCurve d.toneMapping i s)).1 + 1 := by
      rcases em (d.colorSaturationMappingFlag i ≠ 0) with hset | hclear
      · rw [putColorSaturation_next hset hcurve.extraBit]
        split_ifs <;> omega
      · rw [putColorSaturation_clear _ hclear]
        exact hlast.ge
    rw [← hend hnext h]
    exact hwin.bitOffset

variable {fuel : Nat}

theorem twoWindows_offset (hs : s.extraBit = s.bitOffset % 8) (htwo : d.numWindows.toNat = 2)
    (h : putToneMappings d fuel 0 s = some s') :
    s'.bitOffset ≤ s.bitOffset + (curveWidth d.toneMapping 0 + saturationWidth d 0) +
      (curveWidth d.toneMapping 1 + saturationWidth d 1) := by
  have hcurve := putCurve_extends d.toneMapping 0 hs
  have hwin := hcurve.trans (putColorSaturation_extends d 0 hcurve.extraBit)
  have hoff := hwin.bitOffset
  cases fuel with
  | zero => cases h
  | succ fuel =>
    rw [putToneMappings_step (by omega)] at h
    rcases em (d.colorSaturationMappingFlag 0 ≠ 0) with hset | hclear
    · have hnext : d.numWindows.toNat ≤ (putColorSaturation d 0 (FullT35Writer.putCurve d.toneMapping 0 s)).1 + 1 := by
        rw [putColorSaturation_next hset hcurve.extraBit]
        split_ifs <;> omega
      cases fuel with
      | zero => cases h
      | succ fuel =>
        rw [putToneMappings_end (by omega) hnext] at h
        obtain rfl := Option.some.inj h
        omega
    · have hrest : putToneMappings d fuel 1 (putColorSaturation d 0 (FullT35Writer.putCurve d.toneMapping 0 s)).2 =
          some s' := by
        rw [putColorSaturation_clear _ hclear] at h ⊢
        exact h
      have hlast := lastWindow_offset hwin.extraBit htwo.le htwo.symm hrest
      omega

theorem fieldWidth_payloadFields (d : FullHdrData) :
    fieldWidth (payloadFields d) = 87 + 153 * (d.numWindows.toNat - 1) + tableSize d.targetedSystemDisplay +
      ((range d.numWindows.toNat).map (statisticsSize d)).sum + tableSize d.masteringDisplay +
      ((range d.numWindows.toNat).map (toneMappingSize d)).sum := by
  rw [payloadFields, fieldWidth_append, fieldWidth_payloadHeaderFields, fieldWidth_bodyFields]
  omega

theorem bitOffset_lt (hd : InRange d) (htwo : d.numWindows.toNat ≤ 2)
    (hnot : ¬ (d.numWindows.toNat = 1 ∧ d.colorSaturationMappingFlag 0 = 0))
      (h : writeFull negativeShift fuel d (fun _ => 0) = some s) :
    s.bitOffset < fieldWidth (payloadFields d) := by
  obtain ⟨hextra, hle⟩ := @front_offset d negativeShift hd
  have hfst := windowWidth_eq (hd.window 0 (by have hpos := hd.numWindows.1; omega))
  rw [fieldWidth_payloadFields]
  rcases Nat.lt_or_ge 1 d.numWindows.toNat with hmore | hone
  · have hcnt : d.numWindows.toNat = 2 := by omega
    have hoff := twoWindows_offset hextra hcnt h
    have hsnd := windowWidth_eq (hd.window 1 hmore)
    rw [hcnt] at hle ⊢
    have hrange : range 2 = [0, 1] := rfl
    rw [hrange] at hle ⊢
    simp only [map_cons, map_nil, sum_cons, sum_nil] at hle ⊢
    omega
  · have hcnt : d.numWindows.toNat = 1 := by have hpos := hd.numWindows.1; omega
    have hset : d.colorSaturationMappingFlag 0 = 1 :=
      (hd.window 0 (by omega)).colorSaturationMappingFlag.resolve_left fun hclear => hnot ⟨hcnt, hclear⟩
    have hoff := lastWindow_offset hextra htwo hcnt.symm h
    rw [if_pos hset] at hfst
    rw [hcnt] at hle ⊢
    rw [List.range_one] at hle ⊢
    simp only [map_cons, map_nil, sum_cons, sum_nil] at hle ⊢
    omega

theorem writeFull_eq (negativeShift : NegativeShift) (fuel : Nat) (d : FullHdrData) :
    writeFull negativeShift fuel d (fun _ => 0) = putToneMappings d fuel 0 (putPeakLuminance d.masteringDisplay
      (putStatistics negativeShift d d.numWindows.toNat 0 (putPeakLuminance d.targetedSystemDisplay
        (putLuminanceFront d)))) := rfl

theorem undefined_bit {w count fuel : Nat} (hw : WindowInRange d w) (hs : Writes s bits)
    (hphase : (bits.length + 68) % 8 = 6) (h : putToneMappings d fuel 0
      (putPeakLuminance d.masteringDisplay (putStatistics negativeShift d (count + 1) w s)) = some s') :
    bitAt s'.pBlob (bits.length + 68) = (negativeShift ((d.numMaxrgbPercentiles w).setWidth 32) 2).getLsbD 1 := by
  have hwin := putWindowStatistics_extends negativeShift d w (hs.extraBit.trans (by rw [hs.bitOffset]))
  have hrest := putStatistics_grows negativeShift d count (w + 1) hwin.extraBit
  have hmast := hrest.trans ⟨_, putPeakLuminance_extends d.masteringDisplay hrest.extraBit⟩
  obtain ⟨_, hall⟩ := hmast.trans (putToneMappings_grows hmast.extraBit h)
  rw [hall.kept _ (by rw [hwin.bitOffset, hs.bitOffset]; omega)]
  exact putWindowStatistics_bit hw hs hphase

theorem undefined_shift (hd : InRange d) (hthree : d.numWindows.toNat = 3)
    (htable : tableSize d.targetedSystemDisplay % 8 = 2 ∨ tableSize d.targetedSystemDisplay = 0) :
    ∃ position value, ∀ negativeShift fuel s, writeFull negativeShift fuel d (fun _ => 0) = some s →
      bitAt s.pBlob position = (negativeShift value 2).getLsbD 1 := by
  have htargeted := putTargeted_writes hd
  have hlen := length_targeted d
  rw [hthree] at hlen
  have hwin (w : Nat) : (fieldBits (statisticsFields d w)).length = 82 + (d.numMaxrgbPercentiles w).toNat * 24 := by
    rw [length_fieldBits, fieldWidth_statisticsFields, statisticsSize]
    omega
  have hfst := hwin 0
  have hsnd := hwin 1
  rcases htable with hset | hclear
  · refine ⟨(targetedBits d ++ fieldBits (statisticsFields d 0)).length + 68, (d.numMaxrgbPercentiles 1).setWidth 32,
      fun negativeShift fuel s h => ?_⟩
    rw [writeFull_eq, hthree] at h
    have hone := @putWindowStatistics_writes d negativeShift _ _ 0 (hd.window 0 (by omega)) htargeted (by omega)
    exact @undefined_bit d negativeShift _ _ _ 1 1 fuel (hd.window 1 (by omega)) hone (by rw [length_append]; omega) h
  · refine ⟨(targetedBits d ++ fieldBits (statisticsFields d 0) ++ fieldBits (statisticsFields d 1)).length + 68,
      (d.numMaxrgbPercentiles 2).setWidth 32, fun negativeShift fuel s h => ?_⟩
    rw [writeFull_eq, hthree] at h
    have hone := @putWindowStatistics_writes d negativeShift _ _ 0 (hd.window 0 (by omega)) htargeted (by omega)
    have htwo := @putWindowStatistics_writes d negativeShift _ _ 1 (hd.window 1 (by omega)) hone
      (by rw [length_append]; omega)
    exact @undefined_bit d negativeShift _ _ _ 2 0 fuel (hd.window 2 (by omega)) htwo
      (by rw [length_append, length_append]; omega) h

theorem tenRows (hd : InRange d) (hthree : d.numWindows.toNat = 3) (hset : d.targetedSystemDisplay.flag = 1)
    (h : writeFull negativeShift fuel d (fun _ => 0) = some s) (hs : Writes s (fieldBits (payloadFields d))) :
    d.targetedSystemDisplay.numRows.toNat = 10 := by
  have htable {offset : Nat} (hahead : Ahead s.pBlob offset (fieldBits (peakLuminanceFields d.targetedSystemDisplay))) :
      fieldAt s.pBlob offset 1 = 1 ∧ fieldAt s.pBlob (offset + 1) 5 = d.targetedSystemDisplay.numRows.toNat := by
    have hrows := hd.targetedSystemDisplay.numRows hset
    rw [peakLuminanceFields, if_pos hset, hset, fieldBits, flatMap_cons] at hahead
    obtain ⟨hflag, hahead⟩ := hahead.field (by decide)
    have hwide : (d.targetedSystemDisplay.numRows.setWidth 32).toNat = d.targetedSystemDisplay.numRows.toNat :=
      BitVec.toNat_setWidth_of_le (by decide)
    rw [List.cons_append, flatMap_cons] at hahead
    obtain ⟨hnum, -⟩ := hahead.field (by simp only [hwide]; omega)
    exact ⟨hflag, hnum.trans hwide⟩
  have htargeted := putTargeted_writes hd
  have hrest :=
    putStatistics_grows negativeShift d d.numWindows.toNat 0 (htargeted.extraBit.trans (by rw [htargeted.bitOffset]))
  have hmast := hrest.trans ⟨_, putPeakLuminance_extends d.masteringDisplay hrest.extraBit⟩
  have hwritten := (hmast.trans (putToneMappings_grows hmast.extraBit h)).ahead htargeted
  rw [targetedBits, fieldBits_append] at hwritten
  obtain ⟨hflag, hrows⟩ := htable hwritten.of_append
  have hsplit : payloadFields d = (payloadHeaderFields d ++ frontFields d) ++
    (peakLuminanceFields d.targetedSystemDisplay ++
      ((range d.numWindows.toNat).flatMap (statisticsFields d) ++ (peakLuminanceFields d.masteringDisplay ++
        (range d.numWindows.toNat).flatMap (toneMappingFields d)))) := by
    simp only [payloadFields, bodyFields, append_assoc]
  have href := hs.holds.ahead
  rw [hsplit, fieldBits_append] at href
  have href := href.of_append
  rw [fieldBits_append (peakLuminanceFields d.targetedSystemDisplay)] at href
  obtain ⟨hflag', hrows'⟩ := htable href.left
  rw [length_fieldBits, fieldWidth_append, fieldWidth_payloadHeaderFields, fieldWidth_writtenFrontFields,
    hthree] at hflag hrows
  rw [length_fieldBits, fieldWidth_append, fieldWidth_payloadHeaderFields, fieldWidth_frontFields, hthree]
    at hflag' hrows'
  have hle := (hd.targetedSystemDisplay.numRows hset).2
  have hbit (offset : Nat) : fieldAt s.pBlob offset 1 < 2 ^ 1 := fieldAt_lt _ _ _
  have hfive (offset : Nat) : fieldAt s.pBlob offset 5 = fieldAt s.pBlob offset 1 * 16 +
    (fieldAt s.pBlob (offset + 1) 1 * 8 +
      (fieldAt s.pBlob (offset + 2) 1 * 4 +
        (fieldAt s.pBlob (offset + 3) 1 * 2 + fieldAt s.pBlob (offset + 4) 1))) := by
    rw [fieldAt_add s.pBlob offset 1 4, fieldAt_add s.pBlob (offset + 1) 1 3, fieldAt_add s.pBlob (offset + 1 + 1) 1 2,
      fieldAt_add s.pBlob (offset + 1 + 1 + 1) 1 1]
    simp only [Nat.reducePow, Nat.add_assoc, Nat.reduceAdd]
  have hearly := hfive 390
  have hlate := hfive 392
  have h390 := hbit 390
  have h391 := hbit 391
  have h392 := hbit 392
  have h393 := hbit 393
  have h394 := hbit 394
  have h395 := hbit 395
  have h396 := hbit 396
  simp only [Nat.reduceAdd, Nat.reduceMul, Nat.reduceSub, Nat.zero_add] at hflag hrows hflag' hrows' hearly hlate
  have hfst : fieldAt s.pBlob 390 1 = fieldAt s.pBlob 392 1 := by omega
  have hsnd : fieldAt s.pBlob 393 1 = 1 := by omega
  have hthird : fieldAt s.pBlob 392 1 = fieldAt s.pBlob 394 1 := by omega
  omega

def WritesFields (negativeShift : NegativeShift) (d : FullHdrData) (fields : List Field) : Prop :=
  ∃ fuel s, writeFull negativeShift fuel d (fun _ => 0) = some s ∧ Writes s (fieldBits fields)

theorem not_writes_undefined {position : Nat} {value : U32} {fields : List Field}
    (hbit : ∀ negativeShift fuel s, writeFull negativeShift fuel d (fun _ => 0) = some s →
      bitAt s.pBlob position = (negativeShift value 2).getLsbD 1) : ¬ ∀ negativeShift,
      WritesFields negativeShift d fields := by
  intro hwrites
  obtain ⟨fuel, s, hs, hbits⟩ := hwrites fun _ _ => 0#32
  obtain ⟨fuel', s', hs', hbits'⟩ := hwrites fun _ _ => 2#32
  have hsame := (hbits.holds position).trans (hbits'.holds position).symm
  rw [hbit _ fuel s hs, hbit _ fuel' s' hs'] at hsame
  exact absurd hsame (by decide)

theorem not_writes_three (hd : InRange d) (hthree : d.numWindows.toNat = 3) :
    ¬ ∀ negativeShift, WritesFields negativeShift d (payloadFields d) := by
  intro hwrites
  have htable : tableSize d.targetedSystemDisplay % 8 = 2 ∨ tableSize d.targetedSystemDisplay = 0 := by
    rcases eq_or_ne d.targetedSystemDisplay.flag 1 with hset | hclear
    · obtain ⟨fuel, s, hs, hbits⟩ := hwrites fun _ _ => 0#32
      rw [tableSize_set hset, tenRows hd hthree hset hs hbits]
      exact .inl (by omega)
    · exact .inr (tableSize_clear hclear)
  obtain ⟨position, value, hbit⟩ := undefined_shift hd hthree htable
  exact not_writes_undefined hbit hwrites

theorem not_writes_short (hd : InRange d) (htwo : d.numWindows.toNat ≤ 2)
    (hnot : ¬ (d.numWindows.toNat = 1 ∧ d.colorSaturationMappingFlag 0 = 0)) :
    ¬ WritesFields negativeShift d (payloadFields d) := by
  rintro ⟨fuel, s, hs, hbits⟩
  have hlt := bitOffset_lt hd htwo hnot hs
  rw [hbits.bitOffset, length_fieldBits] at hlt
  exact lt_irrefl _ hlt

/-- Whatever an undefined shift gives, the two writers agree on one window without a saturation weight, and on nothing
else. -/
theorem writes_payloadFields_iff (hd : InRange d) :
    (∀ negativeShift, WritesFields negativeShift d (payloadFields d)) ↔ d.numWindows.toNat = 1 ∧
    d.colorSaturationMappingFlag 0 = 0 := by
  constructor
  · intro hwrites
    by_contra hnot
    rcases Nat.lt_or_ge 2 d.numWindows.toNat with hthree | htwo
    · exact not_writes_three hd (by have hle := hd.numWindows.2; omega) hwrites
    · exact not_writes_short hd htwo hnot (hwrites fun _ _ => 0)
  · rintro ⟨hone, hclear⟩ negativeShift
    obtain ⟨s, hs, hbits⟩ := @writes_one d negativeShift hd hone hclear
    exact ⟨2, s, hs, hbits⟩

theorem noLuminance_inRange : HeaderRoundTrip.noLuminance.InRange where
  flag := .inl rfl
  numRows := fun h => by cases h
  numCols := fun h => by cases h
  luminance := fun h => by cases h

def oneWindow (flag : U8) : FullHdrData := { HeaderRoundTrip.zeroFullData HeaderRoundTrip.standardHeader with
  numWindows := 1
  colorSaturationMappingFlag := fun _ => flag
  colorSaturationWeight := fun _ => 0x3F }

theorem oneWindow_inRange {flag : U8} (h : flag = 0 ∨ flag = 1) : InRange (oneWindow flag) where
  numWindows := ⟨le_rfl, show 1 ≤ 3 by decide⟩
  overlapProcessOption := fun _ _ => .inl rfl
  maximumLuminance := two_pow_pos 27
  targetedSystemDisplay := noLuminance_inRange
  masteringDisplay := noLuminance_inRange
  window := fun _ _ =>
    { maxscl := fun _ _ => two_pow_pos 17
      averageMaxrgb := two_pow_pos 17
      numMaxrgbPercentiles := two_pow_pos 4
      maxrgbPercentages := fun _ _ => two_pow_pos 7
      maxrgbPercentiles := fun _ _ => two_pow_pos 17
      fractionBrightPixels := two_pow_pos 10
      toneMappingFlag := .inl rfl
      kneePointX := two_pow_pos 12
      kneePointY := two_pow_pos 12
      numBezierCurveAnchors := two_pow_pos 4
      bezierCurveAnchors := fun _ _ => two_pow_pos 10
      colorSaturationMappingFlag := h
      colorSaturationWeight := show 0x3F < 2 ^ 6 by decide }

theorem oneWindow_writes : WritesFields (fun _ _ => 0) (oneWindow 0) (payloadFields (oneWindow 0)) :=
  (writes_payloadFields_iff (oneWindow_inRange (.inl rfl))).mpr ⟨rfl, rfl⟩ fun _ _ => 0

/-- A weight is missing: its place takes five bits of the number of rows of a table. -/
theorem saturationWeight_not_writes :
    InRange (oneWindow 1) ∧ ∀ negativeShift, ¬ WritesFields negativeShift (oneWindow 1) (payloadFields (oneWindow 1)) :=
  ⟨oneWindow_inRange (.inr rfl), fun _ => not_writes_short (oneWindow_inRange (.inr rfl)) (by decide) (by decide)⟩

end ExynosHal.VideoApi.FullT35WriterExact
