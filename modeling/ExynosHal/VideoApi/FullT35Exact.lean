import ExynosHal.VideoApi.FullT35Reads
import ExynosHal.VideoApi.HeaderRoundTrip

/-! # When the full T.35 parser stores what a payload says

A window's tone mapping is read where the parser takes the window in front of it to end, which is the right
place until a flag is lost.
-/

namespace ExynosHal.VideoApi.FullT35Exact
open Library.BitString Library.BitBuffer FullHdr T35ParserCorrect T35Exact WindowSyntax FullT35Parser FullSyntax
  FullT35Reads
open Function (update update_of_ne update_self)
open T35Parser (orBits)
open T35Windows (seenFlag seenBits12 seenSaturation seenAfter seenBits12_lt seenFlag_cases LosesFlag seenAfter_eq
  seenFlag_eq_iff seenBits12_eq_iff)
open BitVec (ofNat)
open HeaderRoundTrip (zeroFullData standardHeader)

structure SeesTone (src : Buffer) (offset : Nat) (t : WindowTone) : Prop where
  toneMappingFlag : t.toneMappingFlag.toNat = seenFlag src offset
  kneePointX : seenFlag src offset = 1 → t.kneePointX.toNat = seenBits12 src (offset + 1)
  kneePointY : seenFlag src offset = 1 → t.kneePointY.toNat = seenBits12 src (offset + 1 + 12)
  numBezierCurveAnchors : seenFlag src offset = 1 → t.numBezierCurveAnchors.toNat = fieldAt src (offset + 1 + 12 + 12) 4
  bezierCurveAnchors : seenFlag src offset = 1 → ∀ i < fieldAt src (offset + 1 + 12 + 12) 4,
    (t.bezierCurveAnchors i).toNat = fieldAt src (offset + 1 + 12 + 12 + 4 + 10 * i) 10
  colorSaturationMappingFlag : t.colorSaturationMappingFlag.toNat = fieldAt src (seenSaturation src offset) 1
  colorSaturationWeight : fieldAt src (seenSaturation src offset) 1 = 1 →
    t.colorSaturationWeight.toNat = seenWeight src (seenSaturation src offset + 1)

theorem ofNat_flag_ne_zero_iff {flag : Nat} (h : flag = 0 ∨ flag = 1) : ofNat 8 flag ≠ 0 ↔ flag = 1 := by
  rcases h with rfl | rfl <;> decide

section

attribute [local irreducible] store

variable {src : Buffer} {s s' : FullState} {offset w : Nat} {p : Parts} {t : WindowTone}

theorem parseAnchors_stored (base count i : Nat) (hs : Stored s offset (tonePart.withWindow p w t))
    (hoff : offset = base + 10 * i) :
    Stored (parseAnchors src w count i s) (offset + 10 * count) (tonePart.withWindow p w { t with
      bezierCurveAnchors := overwrite t.bezierCurveAnchors (fun j => .ofNat 16 (fieldAt src (base + 10 * j) 10)) i count
        }) := by
  induction count generalizing i s offset t with
  | zero =>
    rw [overwrite_zero]
    exact hs
  | succ count ih =>
    subst hoff
    have hend : base + 10 * i + 10 * (count + 1) = base + 10 * i + 10 + 10 * count := by omega
    rw [parseAnchors, hend, ← overwrite_update]
    exact ih (i + 1) (hs.tone (f := fun t v => { t with bezierCurveAnchors := update t.bezierCurveAnchors i v })
      (readFull10_sees src (base + 10 * i)) (by decide)) (by omega)

theorem parseCurve_stored (hs : Stored s offset (tonePart.withWindow p w t)) (h : parseCurve src w s = .ok s') :
    Stored s' (offset + 28 + 10 * fieldAt src (offset + 12 + 12) 4) (tonePart.withWindow p w { t with
      kneePointX := .ofNat 16 (seenBits12 src offset)
      kneePointY := .ofNat 16 (seenBits12 src (offset + 12))
      numBezierCurveAnchors := .ofNat 8 (fieldAt src (offset + 12 + 12) 4)
      bezierCurveAnchors :=
        overwrite t.bezierCurveAnchors (fun j => .ofNat 16 (fieldAt src (offset + 12 + 12 + 4 + 10 * j) 10)) 0
        (fieldAt src (offset + 12 + 12) 4) }) := by
  have hx : Stored (store (readFull12 src) (fun d v => { d with toneMapping := { d.toneMapping with
      kneePointX := update d.toneMapping.kneePointX w v } }) s) _ _ :=
    hs.tone (f := fun t v => { t with kneePointX := v }) (readFull12_sees src offset) (by decide)
  have hy : Stored (store (readFull12 src) (fun d v => { d with toneMapping := { d.toneMapping with
      kneePointY := update d.toneMapping.kneePointY w v } }) _) _ _ :=
    hx.tone (f := fun t v => { t with kneePointY := v }) (readFull12_sees src (offset + 12)) (by decide)
  have hcnt : Stored (store (readFull4 src) (fun d v => { d with toneMapping := { d.toneMapping with
      numBezierCurveAnchors := update d.toneMapping.numBezierCurveAnchors w v } }) _) _ _ :=
    hy.tone (f := fun t v => { t with numBezierCurveAnchors := v }) (readFull4_sees src (offset + 12 + 12)) (by decide)
  have hnum := congrArg (fun t => t.numBezierCurveAnchors.toNat) hcnt.get_tone
  have hfour : (ofNat 8 (fieldAt src (offset + 12 + 12) 4)).toNat = fieldAt src (offset + 12 + 12) 4 :=
    toNat_ofNat_fieldAt (by decide)
  have hnum := hnum.trans hfour
  simp only [parseCurve] at h
  split_ifs at h
  cases h
  have hanchors :=
    @parseAnchors_stored src _ _ _ _ _ (offset + 12 + 12 + 4) (fieldAt src (offset + 12 + 12) 4) 0 hcnt rfl
  have hend : offset + 12 + 12 + 4 = offset + 28 := rfl
  rw [hend] at hanchors
  exact hnum ▸ hanchors

theorem parseColorSaturation_stored (hs : Stored s offset (tonePart.withWindow p w t)) :
    ∃ weight, Stored (parseColorSaturation src w s) (offset + saturationWidth src offset)
      (tonePart.withWindow p w { t with
        colorSaturationMappingFlag := .ofNat 8 (fieldAt src offset 1)
        colorSaturationWeight := weight }) ∧
      (fieldAt src offset 1 = 1 → weight.toNat = seenWeight src (offset + 1)) := by
  have hflag : Stored (store (readFullFlag src) (fun d v => { d with
      colorSaturationMappingFlag := update d.colorSaturationMappingFlag w v }) s) _ _ :=
    hs.tone (f := fun t v => { t with colorSaturationMappingFlag := v }) (readFullFlag_sees src offset) (by decide)
  have hset := congrArg WindowTone.colorSaturationMappingFlag hflag.get_tone
  have hmarked := ofNat_flag_ne_zero_iff (fieldAt_one_cases src offset)
  simp only [parseColorSaturation]
  rcases saturationWidth_cases src offset with ⟨hzero, hwidth⟩ | ⟨hone, hwidth⟩
  · split_ifs with hcond
    · exact absurd (hmarked.mp fun h => hcond (hset.trans h)) (by omega)
    rw [hwidth]
    exact ⟨t.colorSaturationWeight, hflag, fun h => absurd (hzero.symm.trans h) (by decide)⟩
  · split_ifs with hcond
    case neg => exact absurd (fun h => hmarked.mpr hone (hset.symm.trans h)) hcond
    rw [hwidth]
    have hweight : Stored (store (readFull6 src) (fun d v => { d with
        colorSaturationWeight := update d.colorSaturationWeight w v }) _) _ _ :=
      hflag.tone (f := fun t v => { t with colorSaturationWeight := v }) (readFull6_sees src (offset + 1)) (by decide)
    have hlt : seenWeight src (offset + 1) < 2 ^ 8 := by
      have hlt := fieldAt_lt src (offset + 1) 6
      rw [seenWeight]
      split_ifs <;> omega
    exact ⟨_, hweight, fun _ => (BitVec.toNat_ofNat _ _).trans (Nat.mod_eq_of_lt hlt)⟩

theorem parseWindowToneMapping_stored (w : Nat) (hs : Stored s offset p) (h : parseWindowToneMapping src w s = .ok s') :
    ∃ t, Stored s' (seenAfter src offset) (tonePart.withWindow p w t) ∧ SeesTone src offset t := by
  have hstart : Stored s offset (tonePart.withWindow p w (p.tone w)) := (tonePart.withWindow_get p w).symm ▸ hs
  have hflag : Stored (store (readFullToneMappingFlag src) (fun d v => { d with toneMapping := { d.toneMapping with
      toneMappingFlag := update d.toneMapping.toneMappingFlag w v } }) s) _ _ :=
    hstart.tone (f := fun t v => { t with toneMappingFlag := v }) (readFullToneMappingFlag_sees src offset) (by decide)
  have hset := congrArg WindowTone.toneMappingFlag hflag.get_tone
  have hmarked := ofNat_flag_ne_zero_iff (seenFlag_cases src offset)
  simp only [parseWindowToneMapping] at h
  rcases seenFlag_cases src offset with hzero | hone
  · split_ifs at h with hcond
    · exact absurd (hmarked.mp fun h => hcond (hset.trans h)) (by omega)
    cases h
    obtain ⟨weight, hstored, hweight⟩ := @parseColorSaturation_stored src _ _ _ _ _ hflag
    have hunset : seenFlag src offset ≠ 1 := by omega
    have hsat : seenSaturation src offset = offset + 1 := by rw [seenSaturation, if_neg hunset, Nat.add_zero]
    rw [seenAfter, hsat]
    refine ⟨_, hstored, ?_⟩
    constructor
    case toneMappingFlag => exact (congrArg (fun n => (ofNat 8 n).toNat) hzero).trans hzero.symm
    case colorSaturationMappingFlag => exact hsat.symm ▸ toNat_ofNat_fieldAt (by decide)
    case colorSaturationWeight => exact hsat.symm ▸ hweight
    all_goals exact fun h => absurd h hunset
  · split_ifs at h with hcond
    case neg => exact absurd (fun h => hmarked.mpr hone (hset.symm.trans h)) hcond
    obtain ⟨sCurve, hcurve, h⟩ := bind_ok h
    cases h
    have hcurve := parseCurve_stored hflag hcurve
    obtain ⟨weight, hstored, hweight⟩ := @parseColorSaturation_stored src _ _ _ _ _ hcurve
    have hsat : seenSaturation src offset = offset + 1 + 28 + 10 * fieldAt src (offset + 1 + 12 + 12) 4 := by
      rw [seenSaturation, if_pos hone, ← Nat.add_assoc]
    rw [seenAfter, hsat]
    have hcoordinate (offset : Nat) : (ofNat 16 (seenBits12 src offset)).toNat = seenBits12 src offset :=
      (BitVec.toNat_ofNat _ _).trans (Nat.mod_eq_of_lt ((seenBits12_lt src offset).trans (by decide)))
    refine ⟨_, hstored, ?_⟩
    constructor
    case toneMappingFlag => exact (congrArg (fun n => (ofNat 8 n).toNat) hone).trans hone.symm
    case kneePointX => exact fun _ => hcoordinate _
    case kneePointY => exact fun _ => hcoordinate _
    case numBezierCurveAnchors => exact fun _ => toNat_ofNat_fieldAt (by decide)
    case bezierCurveAnchors =>
      exact fun _ i hi => (congrArg BitVec.toNat (overwrite_of_lt _ _ _ i hi)).trans (toNat_ofNat_fieldAt (by decide))
    case colorSaturationMappingFlag => exact hsat.symm ▸ toNat_ofNat_fieldAt (by decide)
    case colorSaturationWeight => exact hsat.symm ▸ hweight

theorem parseToneMappings_stored (count w : Nat) (hs : Stored s offset p)
    (h : parseToneMappings src count w s = .ok s') :
    ∃ f, Stored s' ((seenAfter src)^[count] offset) { p with tone := f } ∧ (∀ v < w, f v = p.tone v) ∧
      ∀ k < count, SeesTone src ((seenAfter src)^[k] offset) (f (w + k)) := by
  induction count generalizing w s p offset with
  | zero =>
    cases h
    exact ⟨p.tone, hs, fun _ _ => rfl, fun k hk => absurd hk (Nat.not_lt_zero k)⟩
  | succ count ih =>
    obtain ⟨sFirst, hfst, h⟩ := bind_ok h
    obtain ⟨t, hwin, hsees⟩ := parseWindowToneMapping_stored w hs hfst
    obtain ⟨f, hstored, hfront, hbehind⟩ := ih (w + 1) hwin h
    refine ⟨f, hstored, fun v hv => ?_, fun k hk => ?_⟩
    · rw [hfront v (by omega)]
      exact update_of_ne hv.ne _ _
    · cases k with
      | zero =>
        have hself : f w = t := (hfront w (by omega)).trans (update_self _ _ _)
        exact hself.symm ▸ hsees
      | succ k =>
        have hwin : w + (k + 1) = w + 1 + k := by omega
        rw [hwin, Function.iterate_succ_apply]
        exact hbehind k (by omega)

end

theorem SeesTone.reads_iff {src : Buffer} {offset : Nat} {t : WindowTone} (hs : SeesTone src offset t) :
    ReadsTone src offset t ↔ KeepsCurve src offset ∧ KeepsWeight src (saturationAt src offset) := by
  rcases em (LosesFlag src offset) with hlost | hkept
  · refine iff_of_false (fun h => ?_) fun h => (h.1 hlost.2).1 hlost.1
    exact (seenFlag_eq_iff src offset).mp (hs.toneMappingFlag.symm.trans h.toneMappingFlag) hlost
  · have hflag := (seenFlag_eq_iff src offset).mpr hkept
    have hsat : seenSaturation src offset = saturationAt src offset := by
      rw [seenSaturation, saturationAt, curveWidth, hflag]
    have hsees := hsat ▸ hs.colorSaturationWeight
    have hx : seenBits12 src (offset + 1) = fieldAt src (offset + 1) 12 ↔
        (offset % 8 = 4 → fieldAt src (offset + 1) 12 = 0) := by
      rw [seenBits12_eq_iff]
      omega
    have hy : seenBits12 src (offset + 1 + 12) = fieldAt src (offset + 1 + 12) 12 ↔
        (offset % 8 = 0 → fieldAt src (offset + 1 + 12) 12 = 0) := by
      rw [seenBits12_eq_iff]
      omega
    have hweight : seenWeight src (saturationAt src offset + 1) = fieldAt src (saturationAt src offset + 1) 6 ↔
        (saturationAt src offset % 8 = 2 → fieldAt src (saturationAt src offset + 1) 6 = 0) := by
      rw [seenWeight_eq_iff]
      omega
    constructor
    · intro h
      refine ⟨fun hset => ⟨fun hphase => hkept ⟨hphase, hset⟩, hx.mp ?_, hy.mp ?_⟩, fun hset => hweight.mp ?_⟩
      · rw [← hs.kneePointX (hflag.trans hset), h.kneePointX hset]
      · rw [← hs.kneePointY (hflag.trans hset), h.kneePointY hset]
      · rw [← hsees hset, h.colorSaturationWeight hset]
    · rintro ⟨hcurve, hkeeps⟩
      constructor
      case toneMappingFlag => exact hs.toneMappingFlag.trans hflag
      case kneePointX => exact fun hset => (hs.kneePointX (hflag.trans hset)).trans (hx.mpr (hcurve hset).2.1)
      case kneePointY => exact fun hset => (hs.kneePointY (hflag.trans hset)).trans (hy.mpr (hcurve hset).2.2)
      case numBezierCurveAnchors => exact fun hset => hs.numBezierCurveAnchors (hflag.trans hset)
      case bezierCurveAnchors => exact fun hset => hs.bezierCurveAnchors (hflag.trans hset)
      case colorSaturationMappingFlag => exact hsat ▸ hs.colorSaturationMappingFlag
      case colorSaturationWeight => exact fun hset => (hsees hset).trans (hweight.mpr (hkeeps hset))

theorem reads_windows_iff {src : Buffer} {offset : Nat} {f : Nat → WindowTone} (count : Nat)
    (hsees : ∀ k < count, SeesTone src ((seenAfter src)^[k] offset) (f k)) :
    (∀ k < count, ReadsTone src ((afterToneMapping src)^[k] offset) (f k)) ↔
      ∀ k < count, KeepsCurve src ((afterToneMapping src)^[k] offset) ∧
        KeepsWeight src (saturationAt src ((afterToneMapping src)^[k] offset)) := by
  induction count generalizing offset f with
  | zero => exact iff_of_true (fun k hk => absurd hk (Nat.not_lt_zero k)) fun k hk => absurd hk (Nat.not_lt_zero k)
  | succ count ih =>
    rw [Nat.forall_lt_succ_left, Nat.forall_lt_succ_left]
    have hfst := (hsees 0 (Nat.succ_pos count)).reads_iff
    rcases em (LosesFlag src offset) with hlost | hkept
    · have hnot : ¬ (KeepsCurve src offset ∧ KeepsWeight src (saturationAt src offset)) :=
        fun h => (h.1 hlost.2).1 hlost.1
      exact iff_of_false (fun h => hnot (hfst.mp h.1)) fun h => hnot h.1
    · refine and_congr hfst (ih fun k hk => ?_)
      rw [← seenAfter_eq src hkept]
      exact hsees (k + 1) (Nat.succ_lt_succ hk)

section

attribute [local irreducible] store

variable {src : Buffer} {s s' : FullState} {dest : FullHdrData}

theorem parseNumWindows_stored (hs : At s 56) (h : parseNumWindows src s = .ok s') :
    Stored s' 58 { partsOf s.dest with numWindows := .ofNat 8 (fieldAt src 56 2) } ∧ s'.dest.numWindows.toNat =
      fieldAt src 56 2 ∧
      1 ≤ fieldAt src 56 2 ∧ fieldAt src 56 2 ≤ 3 := by
  have hdata : (orBits (src (s.bitOffset / 8)) 2 0 0).sshiftRight (8 - (skipTo 2 s).extraBit) =
      .ofNat 32 (fieldAt src 56 2) := by
    rw [skipTo, hs.bitOffset]
    exact sshiftRight_orBits src 2 (by decide)
  have hwins : (ofNat 8 (fieldAt src 56 2)).toNat = fieldAt src 56 2 := toNat_ofNat_fieldAt (by decide)
  simp only [parseNumWindows, hdata, ofNat_setWidth_eq (by decide : 8 ≤ 32), hwins] at h
  split_ifs at h with hrange
  cases h
  refine ⟨⟨⟨?_, ?_⟩, rfl⟩, hwins, by omega, by omega⟩
  · rw [skipTo, hs.bitOffset]
  · rw [skipTo, hs.bitOffset]

structure SeesBody (src : Buffer) (p : Parts) : Prop where
  numWindows : p.numWindows.toNat = fieldAt src 56 2
  geometry : ∀ w < fieldAt src 56 2 - 1, p.geometry w = geometryAtOffset src (geometryAt w)
  maximumLuminance : p.maximumLuminance = .ofNat 32 (fieldAt src (luminanceAt (fieldAt src 56 2)) 27)
  targetedSystemDisplay : ReadsTable src (targetedAt (fieldAt src 56 2)) p.targetedSystemDisplay
  statistics : ∀ w < fieldAt src 56 2, ReadsLists src (statisticsAt src (fieldAt src 56 2) w) (p.statistics w) ∧
    (p.statistics w).fractionBrightPixels.toNat =
      seenFraction src (fractionAt src (statisticsAt src (fieldAt src 56 2) w))
  masteringDisplay : ReadsTable src (masteringAt src (fieldAt src 56 2)) p.masteringDisplay
  tone : ∀ w < fieldAt src 56 2, SeesTone src ((seenAfter src)^[w] (toneMappingAt src (fieldAt src 56 2) 0)) (p.tone w)

theorem parseFullPayload_sees (h : parseFullPayload src { dest, bitOffset := 0, extraBit := 0 } = .ok s') :
    SeesBody src (partsOf s'.dest) := by
  have hhdr : At (parseFullHeader src { dest, bitOffset := 0, extraBit := 0 }) 56 := ⟨rfl, rfl⟩
  obtain ⟨sWindows, hnum, h⟩ := bind_ok h
  obtain ⟨hs, hcnt, hone, hthree⟩ := parseNumWindows_stored hhdr hnum
  simp only [hcnt] at h
  obtain ⟨sLuminance, hlum, h⟩ := bind_ok h
  obtain ⟨sTargeted, htargeted, h⟩ := bind_ok h
  obtain ⟨sMastering, hmast, htone⟩ := bind_ok h
  obtain ⟨geometry, hs, -, hgeom⟩ := @parseGeometries_stored src _ _ (fieldAt src 56 2 - 1) 0 (by omega) hs
  rw [Nat.zero_add] at hs
  have hphase : 1 ≤ luminanceAt (fieldAt src 56 2) % 8 ∧ luminanceAt (fieldAt src 56 2) % 8 ≤ 5 := by
    interval_cases fieldAt src 56 2 <;> decide
  have hs := parseMaximumLuminance_stored hs hphase hlum
  obtain ⟨targeted, hs, htargeted⟩ := parsePeakLuminance_stored targetedPart hs rfl htargeted
  obtain ⟨statistics, hs, -, hstatistics⟩ := @parseStatistics_stored src _ _ (fieldAt src 56 2) (fieldAt src 56 2) 0 hs
  rw [Nat.zero_add] at hs
  obtain ⟨mastering, hs, hmast⟩ := parsePeakLuminance_stored masteringPart hs rfl hmast
  obtain ⟨tone, hs, -, htone⟩ := parseToneMappings_stored (fieldAt src 56 2) 0 hs htone
  rw [hs.parts]
  constructor
  case numWindows => exact toNat_ofNat_fieldAt (by decide)
  case geometry => exact fun w hw => hgeom w (Nat.zero_le w) (by omega)
  case maximumLuminance => rfl
  case targetedSystemDisplay => exact htargeted
  case statistics => exact fun w hw => hstatistics w (Nat.zero_le w) (by omega)
  case masteringDisplay => exact hmast
  case tone =>
    intro w hw
    have hwin := htone w hw
    rw [Nat.zero_add] at hwin
    exact hwin

theorem SeesBody.reads_iff {r : FullHdrData} (hs : SeesBody src (partsOf r)) : ReadsBody src r ↔
    (∀ w < fieldAt src 56 2, KeepsFraction src (fractionAt src (statisticsAt src (fieldAt src 56 2) w))) ∧
      ∀ w < fieldAt src 56 2, KeepsCurve src (toneMappingAt src (fieldAt src 56 2) w) ∧
        KeepsWeight src (saturationAt src (toneMappingAt src (fieldAt src 56 2) w)) := by
  have htone := reads_windows_iff (fieldAt src 56 2) hs.tone
  constructor
  · intro h
    refine ⟨fun w hw => (seenFraction_eq_iff src _).mp ?_, htone.mp h.toneMapping⟩
    exact (hs.statistics w hw).2.symm.trans (h.statistics w hw).fractionBrightPixels
  · rintro ⟨hfrac, hkeeps⟩
    constructor
    case numWindows => exact hs.numWindows
    case geometry =>
      intro w hw
      have hwin : geometryOf r w = _ := hs.geometry w hw
      rw [hwin]
      exact geometryAtOffset_reads src (geometryAt w)
    case maximumLuminance => exact (congrArg BitVec.toNat hs.maximumLuminance).trans (toNat_ofNat_fieldAt (by decide))
    case targetedSystemDisplay => exact hs.targetedSystemDisplay
    case statistics =>
      intro w hw
      obtain ⟨hlists, hseen⟩ := hs.statistics w hw
      exact ⟨hlists, hseen.trans ((seenFraction_eq_iff src _).mpr (hfrac w hw))⟩
    case masteringDisplay => exact hs.masteringDisplay
    case toneMapping => exact htone.mpr hkeeps

theorem accepted_sees (hacc : (exynosParsingUserDataRegisteredItuTT35 dest src).1 = 0) :
    SeesBody src (partsOf (exynosParsingUserDataRegisteredItuTT35 dest src).2) := by
  rw [exynosParsingUserDataRegisteredItuTT35] at hacc ⊢
  cases hpayload : parseFullPayload src { dest, bitOffset := 0, extraBit := 0 } with
  | error e =>
    rw [hpayload] at hacc
    exact absurd hacc (by decide : (-1 : Int) ≠ 0)
  | ok s' => exact parseFullPayload_sees hpayload

end

/-- An accepted payload is stored as it reads unless a fraction, a tone mapping flag, a knee point or a weight is
spoilt. -/
theorem readsBody_iff {src : Buffer} {dest : FullHdrData} (hacc : (exynosParsingUserDataRegisteredItuTT35 dest src).1 =
    0) : ReadsBody src (exynosParsingUserDataRegisteredItuTT35 dest src).2 ↔
      (∀ w < fieldAt src 56 2, KeepsFraction src (fractionAt src (statisticsAt src (fieldAt src 56 2) w))) ∧
        ∀ w < fieldAt src 56 2, KeepsCurve src (toneMappingAt src (fieldAt src 56 2) w) ∧
          KeepsWeight src (saturationAt src (toneMappingAt src (fieldAt src 56 2) w)) :=
  (accepted_sees hacc).reads_iff

theorem readsBody_curvePayload : ReadsBody curvePayload
    (exynosParsingUserDataRegisteredItuTT35 (zeroFullData standardHeader) curvePayload).2 :=
  (readsBody_iff (by decide)).mpr (by decide)

def onePixelPayload : Buffer :=
  fun i => [0xB5, 0x00, 0x3C, 0x00, 0x01, 0x04, 0x01, 0x40, 0, 0, 0, 0, 0, 0, 0, 0, 0, 0, 0, 0, 1].getD i 0

theorem not_readsBody_onePixel :
    (exynosParsingUserDataRegisteredItuTT35 (zeroFullData standardHeader) onePixelPayload).1 = 0 ∧
    ¬ ReadsBody onePixelPayload
      (exynosParsingUserDataRegisteredItuTT35 (zeroFullData standardHeader) onePixelPayload).2 := by
  refine ⟨by decide, fun h => ?_⟩
  have hwin : 0 < fieldAt onePixelPayload 56 2 := by decide
  exact absurd (h.statistics 0 hwin).fractionBrightPixels (by decide)

end ExynosHal.VideoApi.FullT35Exact
