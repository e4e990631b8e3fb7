import ExynosHal.VideoApi.T35Windows
import ExynosHal.VideoApi.T35WriterCorrect

/-! # The T.35 parser undoes the T.35 writer

A payload without tables has its tone mapping flag where the parser does not lose it.
-/

namespace ExynosHal.VideoApi.T35RoundTrip
open Library.BitString Library.BitBuffer HdrData T35Parser T35Exact WindowSyntax T35Windows T35Writer T35WriterCorrect
open List (append_assoc)
open BitVec (ofNat)

theorem ofNat_of_eq {n value : Nat} {field : BitVec n} (h : value = field.toNat) : ofNat n value = field := by
  rw [h, BitVec.ofNat_toNat, BitVec.setWidth_eq]

section
variable {src : Buffer} {dest d : ExynosHdrData} {average fraction : Nat} {rest : List Bool}

structure Carries (src : Buffer) (d : ExynosHdrData) : Prop where
  applicationVersion : fieldAt src 48 8 = d.applicationVersion.toNat
  numWindows : fieldAt src 56 2 = 1
  targeted : fieldAt src targetedOffset 1 = 0
  mastering : fieldAt src (masteringOffset src) 1 = 0
  restores : Restores d (reference src)

theorem restoresToneMapping {t : ToneMapping} {version : U8} (hflag : t.toneMappingFlag = 0 ∨ t.toneMappingFlag = 1)
    (ht : t.toneMappingFlag = 1 → t.InRange version)
    (h : Ahead src (toneMappingOffset src) (toneMappingBits t ++ rest)) :
    SameToneMapping t (referenceToneMapping src) := by
  have hlt : t.toneMappingFlag.toNat < 2 ^ 1 := by
    rcases hflag with h | h <;> rw [h] <;> decide
  rw [toneMappingBits, append_assoc] at h
  obtain ⟨hval, h⟩ := h.field hlt
  refine ⟨ofNat_of_eq hval, fun hone => ?_⟩
  have hrange := ht hone
  have hcnt := hrange.anchorCount.trans (maxBezierCurveAnchors_le version)
  rw [if_pos hone, curveBits, append_assoc, append_assoc, append_assoc] at h
  obtain ⟨hx, h⟩ := h.field hrange.kneePointX
  obtain ⟨hy, h⟩ := h.field hrange.kneePointY
  obtain ⟨hnum, h⟩ := h.field (by omega)
  obtain ⟨hanchors, -⟩ := h.flatMap fun _ => length_toBits _ _
  exact ⟨ofNat_of_eq hx, ofNat_of_eq hy, ofNat_of_eq hnum, fun i hi =>
    ofNat_of_eq ((hanchors i hi).fieldAt_toBits (hrange.anchors i hi))⟩

theorem carries (hd : InRange d)
    (h : Ahead src 0 (headerBits d ++ (toBits 2 1 ++ (bodyBits average fraction d ++ rest)))) : Carries src d := by
  have hver : Ahead src 48 (toBits 8 d.applicationVersion.toNat) := by
    have hhdr := h.left
    rw [headerBits] at hhdr
    simpa using hhdr.of_append
  have hpcts := hd.percentileCount
  have hlum := hd.displayMaximumLuminance
  have h := h.of_append
  rw [length_headerBits, Nat.zero_add] at h
  obtain ⟨hwins, h⟩ := h.field (by decide)
  simp only [bodyBits, append_assoc] at h
  obtain ⟨hluminance, h⟩ := h.field (by omega)
  obtain ⟨htargeted, h⟩ := h.field (by decide)
  have hmaxsclAt : 56 + 2 + 27 + 1 = maxsclOffset src := by
    rw [maxsclOffset, tableWidth, if_neg (show fieldAt src targetedOffset 1 ≠ 1 from htargeted ▸ by decide)]
    rfl
  rw [hmaxsclAt] at h
  obtain ⟨hmaxscl, h⟩ := h.flatMap fun _ => length_toBits _ _
  have h := h.of_append
  rw [length_toBits] at h
  obtain ⟨hnum, h⟩ := h.field (by omega)
  obtain ⟨hlist, h⟩ :=
    h.flatMap fun _ => (List.length_append ..).trans (congrArg₂ (· + ·) (length_toBits _ _) (length_toBits _ _))
  have h := h.of_append
  have hmastAt : maxsclOffset src + 17 * 3 + 17 + 4 + (7 + 17) * d.numMaxrgbPercentiles.toNat + 10 =
      masteringOffset src := by
    rw [masteringOffset, percentileCount, percentileCountOffset, hnum]
    rfl
  rw [length_toBits, hmastAt] at h
  obtain ⟨hmast, h⟩ := h.field (by decide)
  have htoneAt : masteringOffset src + 1 = toneMappingOffset src := by
    rw [toneMappingOffset, tableWidth, if_neg (show fieldAt src (masteringOffset src) 1 ≠ 1 from hmast ▸ by decide)]
  rw [htoneAt] at h
  obtain ⟨hflag, hcurve⟩ := restoresToneMapping hd.flag hd.toneMapping h
  refine ⟨hver.fieldAt_toBits d.applicationVersion.isLt, hwins, htargeted, hmast, ?_⟩
  constructor
  case displayMaximumLuminance => exact ofNat_of_eq hluminance
  case maxscl => exact fun i hi => ofNat_of_eq ((hmaxscl i hi).fieldAt_toBits (hd.maxscl i hi))
  case numMaxrgbPercentiles => exact ofNat_of_eq hnum
  case percentages => exact fun i hi => ofNat_of_eq ((hlist i hi).field (hd.percentages i hi)).1
  case percentiles =>
    exact fun i hi => ofNat_of_eq (((hlist i hi).field (hd.percentages i hi)).2.fieldAt_toBits (hd.percentiles i hi))
  case toneMappingFlag => exact hflag
  case kneePoint => exact fun hone => ⟨(hcurve hone).1, (hcurve hone).2.1⟩
  case anchorCount => exact fun hone => (hcurve hone).2.2.1
  case anchors => exact fun hone => (hcurve hone).2.2.2

theorem Carries.accepts (h : Carries src d) (hd : InRange d) : Accepts src 1 := by
  have hclear {offset : Nat} (hzero : fieldAt src offset 1 = 0) : TableFits src offset :=
    fun hone => absurd (hzero.symm.trans hone) (by decide)
  have hmast : masteringAt src 1 = masteringOffset src := masteringAt_one src
  refine ⟨?_, hclear h.targeted, hmast ▸ hclear h.mastering, ?_⟩
  · have hval := congrArg BitVec.toNat h.restores.displayMaximumLuminance
    exact (hval.symm.trans (toNat_ofNat_fieldAt (by decide))).ge.trans hd.displayMaximumLuminance
  · intro hseen
    rw [toneMappingAt_one] at hseen ⊢
    have hset : fieldAt src (toneMappingOffset src) 1 = 1 := by
      rw [seenFlag] at hseen
      split_ifs at hseen
      exact hseen
    have hone : d.toneMapping.toneMappingFlag = 1 := h.restores.toneMappingFlag.symm.trans (congrArg (ofNat 16) hset)
    have hcnt := congrArg BitVec.toNat (h.restores.anchorCount hone)
    have hver : ofNat 8 (fieldAt src 48 8) = d.applicationVersion := ofNat_of_eq h.applicationVersion
    rw [hver]
    exact (hcnt.symm.trans (toNat_ofNat_fieldAt (by decide))).ge.trans (hd.toneMapping hone).anchorCount

theorem parse_oneWindow (dest : ExynosHdrData) (hd : InRange d)
    (hsrc : Ahead src 0 (headerBits d ++ (toBits 2 1 ++ (bodyBits average fraction d ++ rest)))) :
    (exynosParsingUserDataRegisteredItuTT35 dest src).1 = 0 ∧
      Restores d (exynosParsingUserDataRegisteredItuTT35 dest src).2 := by
  have h := carries hd hsrc
  have hacc := (parse_windows dest (by decide) h.numWindows).1.mpr (h.accepts hd)
  refine ⟨hacc, h.restores.trans ((restores_iff_keepsFlag h.numWindows hacc).mpr fun hlost => ?_)⟩
  rcases (toneMappingOffset_mod_iff src).mp hlost.1 with ⟨hone, -⟩ | ⟨-, hone, -⟩
  · exact absurd (h.targeted.symm.trans hone) (by decide)
  · exact absurd (h.mastering.symm.trans hone) (by decide)

end

/-- The writer's blob holds the payload bits and nothing else, its size is their number
rounded up to bytes, and the parser finds the metadata in it again. -/
theorem parse_exynosDynamicMetaToItuTT35 (d dest : ExynosHdrData) (hd : InRange d) :
    let written := exynosDynamicMetaToItuTT35 d fun _ => 0
    let parsed := exynosParsingUserDataRegisteredItuTT35 dest written.2
    parsed.1 = 0 ∧ Restores d parsed.2 ∧ Holds written.2 (t35Bits d) ∧ written.1 = ((t35Bits d).length + 7) / 8 := by
  obtain ⟨hsize, hholds⟩ := exynosDynamicMetaToItuTT35_spec d hd
  have hahead := hholds.ahead
  rw [t35Bits, append_assoc, ← List.append_nil (bodyBits 0 0 d)] at hahead
  obtain ⟨hret, hrestores⟩ := parse_oneWindow dest hd hahead
  exact ⟨hret, hrestores, hholds, hsize⟩

def sampleHdrData : ExynosHdrData where
  countryCode := 0xB5
  providerCode := 0x003C
  providerOrientedCode := 0x0001
  applicationIdentifier := 4
  applicationVersion := 1
  displayMaximumLuminance := 1000
  maxscl := fun i => ofNat 32 (100000 + i)
  numMaxrgbPercentiles := 2
  maxrgbPercentages := fun i => ofNat 8 (50 + i)
  maxrgbPercentiles := fun i => ofNat 32 (70000 + i)
  toneMapping := {
    toneMappingFlag := 1
    kneePointX := 300
    kneePointY := 4095
    numBezierCurveAnchors := 3
    bezierCurveAnchors := fun i => ofNat 16 (1000 + i) }

theorem sampleHdrData_inRange : InRange sampleHdrData := by
  constructor
  case toneMapping =>
    intro _
    constructor <;> decide
  all_goals decide

theorem parse_sampleHdrData : InRange sampleHdrData ∧
      let written := exynosDynamicMetaToItuTT35 sampleHdrData fun _ => 0
      let parsed := exynosParsingUserDataRegisteredItuTT35 sampleHdrData written.2
      parsed.1 = 0 ∧ Restores sampleHdrData parsed.2 ∧ Holds written.2 (t35Bits sampleHdrData) ∧
        written.1 = ((t35Bits sampleHdrData).length + 7) / 8 := by
  refine ⟨sampleHdrData_inRange, ?_⟩
  exact parse_exynosDynamicMetaToItuTT35 sampleHdrData sampleHdrData sampleHdrData_inRange

end ExynosHal.VideoApi.T35RoundTrip
