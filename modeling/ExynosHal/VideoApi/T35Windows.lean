import ExynosHal.VideoApi.T35ParserCorrect
import ExynosHal.VideoApi.T35Exact

/-! # What the T.35 parser stores of a payload

The default build keeps one set of values, which every window overwrites.
-/

namespace ExynosHal.VideoApi.T35Windows
open Library.BitBuffer HdrData T35Parser T35ParserCorrect T35Exact WindowSyntax
open BitVec (eq_of_toNat_eq ofNat toNat_ofNat)
open Function (update)

section
variable (src : Buffer)

def toneMappingOf (offset : Nat) : ToneMapping where
  toneMappingFlag := .ofNat 16 (fieldAt src offset 1)
  kneePointX := .ofNat 16 (fieldAt src (offset + 1) 12)
  kneePointY := .ofNat 16 (fieldAt src (offset + 1 + 12) 12)
  numBezierCurveAnchors := .ofNat 16 (fieldAt src (offset + 1 + 12 + 12) 4)
  bezierCurveAnchors := fun j => .ofNat 16 (fieldAt src (offset + 1 + 12 + 12 + 4 + 10 * j) 10)

def windowOf (windows statistics toneMapping : Nat) : ExynosHdrData where
  countryCode := .ofNat 8 (fieldAt src 0 8)
  providerCode := .ofNat 16 (fieldAt src 8 16)
  providerOrientedCode := .ofNat 16 (fieldAt src 24 16)
  applicationIdentifier := .ofNat 8 (fieldAt src 40 8)
  applicationVersion := .ofNat 8 (fieldAt src 48 8)
  displayMaximumLuminance := .ofNat 32 (fieldAt src (luminanceAt windows) 27)
  maxscl := fun j => .ofNat 32 (fieldAt src (statistics + 17 * j) 17)
  numMaxrgbPercentiles := .ofNat 8 (fieldAt src (statistics + 17 * 3 + 17) 4)
  maxrgbPercentages := fun j => .ofNat 8 (fieldAt src (statistics + 17 * 3 + 17 + 4 + (7 + 17) * j) 7)
  maxrgbPercentiles := fun j => .ofNat 32 (fieldAt src (statistics + 17 * 3 + 17 + 4 + (7 + 17) * j + 7) 17)
  toneMapping := toneMappingOf src toneMapping

def lastWindow (windows : Nat) : ExynosHdrData :=
  windowOf src windows (statisticsAt src windows (windows - 1)) (toneMappingAt src windows (windows - 1))

end

section
variable (src : Buffer)

def seenFlag (offset : Nat) : Nat := if offset % 8 = 7 then 0 else fieldAt src offset 1

def seenBits12 (offset : Nat) : Nat := if offset % 8 = 5 then fieldAt src offset 12 / 2 ^ 8 else fieldAt src offset 12

def seenToneMapping (offset : Nat) (t : ToneMapping) : ToneMapping :=
  if seenFlag src offset = 1 then {
    toneMappingFlag := 1
    kneePointX := .ofNat 16 (seenBits12 src (offset + 1))
    kneePointY := .ofNat 16 (seenBits12 src (offset + 1 + 12))
    numBezierCurveAnchors := .ofNat 16 (fieldAt src (offset + 1 + 12 + 12) 4)
    bezierCurveAnchors := overwrite t.bezierCurveAnchors (toneMappingOf src offset).bezierCurveAnchors 0
      (fieldAt src (offset + 1 + 12 + 12) 4) }
  else { t with toneMappingFlag := 0 }

def seenSaturation (offset : Nat) : Nat :=
  offset + 1 + if seenFlag src offset = 1 then 28 + 10 * fieldAt src (offset + 1 + 12 + 12) 4 else 0

def seenAfter (offset : Nat) : Nat := seenSaturation src offset + saturationWidth src (seenSaturation src offset)

end

section
variable (src : Buffer) (offset : Nat)

theorem alignData_seenBits12 :
    alignData ((offset + 12) % 8) (readBytes src (1 + if offset % 8 > 5 then 2 else 1) (offset / 8) (offset % 8) 0) =
    .ofNat 32 (seenBits12 src offset) := by
  rw [seenBits12]
  rcases eq_or_ne (offset % 8) 5 with hcut | hphase
  · have hbytes := readBytes_toNat src 2 (offset / 8) (offset % 8) 0 0 (by omega) (by decide) rfl (by decide)
    have hlow : 8 * 2 - 5 = 4 + 7 := rfl
    have hwhole : fieldAt src offset 12 / 2 ^ 8 = fieldAt src offset 4 := fieldAt_div src offset 4 8
    rw [Nat.zero_mul, Nat.zero_add, Nat.div_add_mod, hcut, hlow] at hbytes
    have hlt := fieldAt_lt src offset (4 + 7)
    have hnext : (offset + 12) % 8 = 1 := by omega
    apply eq_of_toNat_eq
    rw [if_pos hcut, hwhole, if_neg (by omega), alignData, hnext, if_pos (by decide), hcut,
      sshiftRight_toNat _ _ (by rw [hbytes]; omega), hbytes, fieldAt_div, toNat_ofNat, Nat.mod_eq_of_lt]
    exact (fieldAt_lt src offset 4).trans (by decide)
  · rw [if_neg hphase]
    split_ifs <;> exact alignData_readBytes src (by decide) (by omega) (by omega) (by omega)

theorem readBits12_sees : Sees (readBits12 src) 12 offset (seenBits12 src offset) := by
  intro s hs
  refine Prod.ext ?_ rfl
  simp only [readBits12, readField, skip, hs.bitOffset, hs.extraBit]
  exact alignData_seenBits12 src offset

theorem sshiftRight_seenFlag :
    (orBits (src (offset / 8)) 1 (offset % 8) 0).sshiftRight (8 - (offset + 1) % 8) =
      .ofNat 32 (seenFlag src offset) := by
  have hbits := @orBits_fieldAt src offset 1 (by omega)
  have hflag := fieldAt_lt src offset 1
  rw [seenFlag]
  split_ifs with hlast
  · have hextra : (offset + 1) % 8 = 0 := by omega
    have hplace : 2 ^ (8 - 7 - 1) = 1 := rfl
    rw [hlast, hplace, Nat.mul_one] at hbits
    apply eq_of_toNat_eq
    rw [hextra, hlast, sshiftRight_toNat _ _ (by omega), hbits]
    exact Nat.div_eq_of_lt (by omega)
  · have hshift : 8 - (offset + 1) % 8 = 8 - offset % 8 - 1 := by omega
    rw [hshift]
    exact sshiftRight_orBits src 1 (by omega)

theorem readToneMappingFlag_sees : Sees (readToneMappingFlag src) 1 offset (seenFlag src offset) := by
  intro s hs
  refine Prod.ext ?_ rfl
  simp only [readToneMappingFlag, skip, hs.bitOffset, hs.extraBit]
  exact sshiftRight_seenFlag src offset

end

def Takes (p : Parse) (accepts : Prop) (offset : Nat) (stored : ExynosHdrData → Prop) : Prop :=
  ∃ s, At s offset ∧ stored s.dest ∧ ∀ s', p = .ok s' ↔ accepts ∧ s' = s

section
variable {p : Parse} {accepts accepts' : Prop} {offset offset' : Nat} {stored stored' : ExynosHdrData → Prop}

theorem takes_ok {s : ParserState} (hs : At s offset) (hstored : stored s.dest) : Takes (.ok s) True offset stored :=
  ⟨s, hs, hstored, fun s' => by rw [true_and, Except.ok.injEq, eq_comm]⟩

variable (h : Takes p accepts offset stored)
include h

theorem Takes.guard (c : Prop) [Decidable c] (e : ExynosHdrData) :
    Takes (if c then .error e else p) (¬ c ∧ accepts) offset stored := by
  obtain ⟨s, hs, hstored, htakes⟩ := h
  refine ⟨s, hs, hstored, fun s' => ?_⟩
  split_ifs with hc
  · exact iff_of_false (fun h => by cases h) fun h => h.1.1 hc
  · rw [htakes, and_iff_right hc]

theorem Takes.bind {f : ParserState → Parse}
    (hf : ∀ s, At s offset → stored s.dest → Takes (f s) accepts' offset' stored') :
    Takes (p >>= f) (accepts ∧ accepts') offset' stored' := by
  obtain ⟨s, hs, hstored, htakes⟩ := h
  obtain ⟨sEnd, hend, hstored', htakes'⟩ := hf s hs hstored
  refine ⟨sEnd, hend, hstored', fun s' => ?_⟩
  rw [and_assoc, ← htakes']
  cases hp : p with
  | error e => exact iff_of_false (fun h => by cases h) fun h => by cases hp.symm.trans ((htakes s).mpr ⟨h.1, rfl⟩)
  | ok s₁ =>
    obtain ⟨haccepts, rfl⟩ := (htakes s₁).mp hp
    exact (and_iff_right haccepts).symm

theorem Takes.map {g : ParserState → ParserState}
    (hg : ∀ s, At s offset → stored s.dest → At (g s) offset' ∧ stored' (g s).dest) :
    Takes (p >>= fun s => .ok (g s)) accepts offset' stored' := by
  rw [← and_true accepts]
  exact h.bind fun s hs hstored => takes_ok (hg s hs hstored).1 (hg s hs hstored).2

end

section
variable {src : Buffer} {s : ParserState} {offset : Nat}

theorem skipCells_at (hs : At s offset) (count : Nat) :
    (skipCells count s).dest = s.dest ∧ At (skipCells count s) (offset + 4 * count) := by
  induction count generalizing s offset with
  | zero => exact ⟨rfl, hs⟩
  | succ count ih =>
    obtain ⟨hdest, hnext⟩ := ih (hs.skip 4)
    rw [Nat.mul_succ, Nat.add_comm (4 * count), ← Nat.add_assoc]
    exact ⟨hdest, hnext⟩

theorem skipRows_at (hs : At s offset) (cols rows : Nat) :
    (skipRows cols rows s).dest = s.dest ∧ At (skipRows cols rows s) (offset + 4 * (rows * cols)) := by
  induction rows generalizing s offset with
  | zero =>
    rw [Nat.zero_mul]
    exact ⟨rfl, hs⟩
  | succ rows ih =>
    obtain ⟨hcells, hrow⟩ := skipCells_at hs cols
    obtain ⟨hdest, hnext⟩ := ih hrow
    have hoff : offset + 4 * ((rows + 1) * cols) = offset + 4 * cols + 4 * (rows * cols) := by
      rw [Nat.succ_mul rows cols]
      omega
    rw [hoff]
    exact ⟨hdest.trans hcells, hnext⟩

theorem skipWindows_at (hs : At s offset) (count : Nat) :
    (skipWindows count s).dest = s.dest ∧ At (skipWindows count s) (offset + geometryWidth * count) := by
  induction count generalizing s offset with
  | zero => exact ⟨rfl, hs⟩
  | succ count ih =>
    have hwin : At (skipWindow s) (offset + geometryWidth) := by
      constructor <;> simp only [skipWindow, List.foldl_cons, List.foldl_nil, skip, hs.bitOffset, geometryWidth]
    rw [Nat.mul_succ, Nat.add_comm (geometryWidth * count), ← Nat.add_assoc]
    exact ih hwin

theorem parseDisplayMaximumLuminance_takes (hs : At s offset) (hphase : 1 ≤ offset % 8 ∧ offset % 8 ≤ 5) :
    Takes (parseDisplayMaximumLuminance src s) (fieldAt src offset 27 ≤ 10000) (offset + 27)
      (· = { s.dest with displayMaximumLuminance := .ofNat 32 (fieldAt src offset 27) }) := by
  have hval : (ofNat 32 (fieldAt src offset 27)).toNat = fieldAt src offset 27 := toNat_ofNat_fieldAt (by decide)
  simp only [parseDisplayMaximumLuminance, readBits27_sees src hphase s hs, hval]
  rw [← Nat.not_lt, ← and_true (¬ _)]
  refine .guard ?_ _ _
  exact takes_ok ((hs.skip 27).withDest _) rfl

def TableFits (src : Buffer) (offset : Nat) : Prop := fieldAt src offset 1 = 1 →
  ∀ start ∈ [offset + 1, offset + 1 + 5], 2 ≤ fieldAt src start 5 ∧ fieldAt src start 5 ≤ 25

theorem parsePeakLuminance_takes (hs : At s offset) :
    Takes (parsePeakLuminance src s) (TableFits src offset) (offset + tableWidth src offset) (· = s.dest) := by
  have hval (start : Nat) : (ofNat 32 (fieldAt src start 5)).toNat = fieldAt src start 5 :=
    toNat_ofNat_fieldAt (by decide)
  have hsigned (start : Nat) : (ofNat 32 (fieldAt src start 5)).toInt = fieldAt src start 5 := by
    have hlt := fieldAt_lt src start 5
    rw [BitVec.toInt_eq_toNat_of_lt (by rw [hval]; omega), hval]
  simp only [parsePeakLuminance, readFlag_sees src _ s hs]
  rcases tableWidth_cases src offset with ⟨hzero, hwidth⟩ | ⟨hone, hwidth⟩
  · rw [hwidth, hzero, if_neg (by decide), TableFits, hzero, iff_true_intro (fun h : 0 = 1 => absurd h Nat.zero_ne_one)]
    exact takes_ok (hs.skip 1) rfl
  · obtain ⟨hskip, hend⟩ :=
      skipRows_at (((hs.skip 1).skip 5).skip 5) (fieldAt src (offset + 1 + 5) 5) (fieldAt src (offset + 1) 5)
    have hoff : offset + 1 + 5 + 5 + 4 * (fieldAt src (offset + 1) 5 * fieldAt src (offset + 1 + 5) 5) =
        offset + tableWidth src offset := by
      rw [hwidth, tableCells, ← Nat.add_assoc]
    rw [hoff] at hend
    have hfits : TableFits src offset ↔ ¬ ((fieldAt src (offset + 1) 5 : Int) < 2 ∨ (fieldAt src (offset + 1) 5 : Int) >
      25) ∧
        ¬ ((fieldAt src (offset + 1 + 5) 5 : Int) < 2 ∨ (fieldAt src (offset + 1 + 5) 5 : Int) > 25) ∧ True := by
      rw [TableFits, hone, List.forall_mem_cons, List.forall_mem_singleton, imp_iff_right rfl, and_true]
      omega
    rw [hfits, hone, if_pos (by decide)]
    simp only [readBits5_sees src _ _ (hs.skip 1), readBits5_sees src _ _ ((hs.skip 1).skip 5), hsigned, hval]
    exact .guard (.guard (takes_ok hend hskip) _ _) _ _

end

section
variable (src : Buffer) (offset : Nat)

def statisticsOf : ExynosHdrData :=
  { windowOf src 1 offset 0 with displayMaximumLuminance := 0, toneMapping := ⟨0, 0, 0, 0, fun _ => 0⟩ }

def withStatistics (old dest : ExynosHdrData) : ExynosHdrData := { dest with
    maxscl := overwrite old.maxscl (statisticsOf src offset).maxscl 0 3
    numMaxrgbPercentiles := (statisticsOf src offset).numMaxrgbPercentiles
    maxrgbPercentages :=
      overwrite old.maxrgbPercentages (statisticsOf src offset).maxrgbPercentages 0
        (fieldAt src (offset + 17 * 3 + 17) 4)
    maxrgbPercentiles :=
      overwrite old.maxrgbPercentiles (statisticsOf src offset).maxrgbPercentiles 0
        (fieldAt src (offset + 17 * 3 + 17) 4) }

variable {s : ParserState}

theorem parseMaxscl_at (count first : Nat) (hs : At s (offset + 17 * first)) :
    (parseMaxscl src count first s).dest =
      { s.dest with maxscl := overwrite s.dest.maxscl (statisticsOf src offset).maxscl first count } ∧
      At (parseMaxscl src count first s) (offset + 17 * (first + count)) := by
  induction count generalizing first s with
  | zero =>
    rw [overwrite_zero]
    exact ⟨rfl, hs⟩
  | succ count ih =>
    have hrec := ih (first + 1) ((hs.skip 17).withDest { s.dest with
      maxscl := update s.dest.maxscl first ((statisticsOf src offset).maxscl first) })
    rw [overwrite_update, Nat.add_right_comm first 1] at hrec
    rw [parseMaxscl, readBits17_sees src _ s hs]
    exact hrec

theorem parsePercentiles_at (count first : Nat) (hs : At s (offset + 17 * 3 + 17 + 4 + (7 + 17) * first)) :
    (parsePercentiles src count first s).dest = { s.dest with
        maxrgbPercentages := overwrite s.dest.maxrgbPercentages (statisticsOf src offset).maxrgbPercentages first count
        maxrgbPercentiles :=
          overwrite s.dest.maxrgbPercentiles (statisticsOf src offset).maxrgbPercentiles first count } ∧
      At (parsePercentiles src count first s) (offset + 17 * 3 + 17 + 4 + (7 + 17) * (first + count)) := by
  induction count generalizing first s with
  | zero =>
    rw [overwrite_zero, overwrite_zero]
    exact ⟨rfl, hs⟩
  | succ count ih =>
    have hnarrow : 8 ≤ 32 := by decide
    have hrec := ih (first + 1) (((hs.skip 7).skip 17).withDest { s.dest with
      maxrgbPercentages := update s.dest.maxrgbPercentages first ((statisticsOf src offset).maxrgbPercentages first)
      maxrgbPercentiles := update s.dest.maxrgbPercentiles first ((statisticsOf src offset).maxrgbPercentiles first) })
    simp only [overwrite_update, Nat.add_right_comm first 1] at hrec
    simp only [parsePercentiles, readBits7_sees src _ s hs, readBits17_sees src _ _ ((hs.skip 7).withDest _),
      ofNat_setWidth_eq hnarrow]
    exact hrec

theorem parseWindowStatistics_at (hs : At s offset) :
    (parseWindowStatistics src s).dest = withStatistics src offset s.dest s.dest ∧
      At (parseWindowStatistics src s) (afterStatistics src offset) := by
  have hnarrow : 8 ≤ 32 := by decide
  have hcnt : (ofNat 8 (fieldAt src (offset + 17 * 3 + 17) 4)).toNat = fieldAt src (offset + 17 * 3 + 17) 4 :=
    toNat_ofNat_fieldAt (by decide)
  obtain ⟨hmaxscl, hs⟩ := parseMaxscl_at src offset 3 0 hs
  obtain ⟨hlist, hend⟩ :=
    parsePercentiles_at src offset (fieldAt src (offset + 17 * 3 + 17) 4) 0 (((hs.skip 17).skip 4).withDest
    { (parseMaxscl src 3 0 s).dest with numMaxrgbPercentiles := (statisticsOf src offset).numMaxrgbPercentiles })
  have hoff : offset + 17 * 3 + 17 + 4 + (7 + 17) * (0 + fieldAt src (offset + 17 * 3 + 17) 4) + 10 =
      afterStatistics src offset := by
    rw [afterStatistics, statisticsWidth]
    omega
  simp only [parseWindowStatistics, readBits4_sees src _ _ (hs.skip 17), ofNat_setWidth_eq hnarrow, hcnt]
  rw [← hoff]
  refine ⟨hlist.trans ?_, hend.skip 10⟩
  rw [hmaxscl]
  rfl

theorem parseStatistics_at (windows : Nat) (hs : At s offset) :
    ∃ old, (parseStatistics src (windows + 1) s).dest = withStatistics src ((afterStatistics src)^[windows] offset) old
      s.dest ∧ At (parseStatistics src (windows + 1) s) ((afterStatistics src)^[windows + 1] offset) := by
  induction windows generalizing s offset with
  | zero => exact ⟨s.dest, parseWindowStatistics_at src offset hs⟩
  | succ windows ih =>
    obtain ⟨hdest, hnext⟩ := parseWindowStatistics_at src offset hs
    obtain ⟨old, hlast, hend⟩ := ih _ hnext
    refine ⟨old, hlast.trans ?_, hend⟩
    rw [hdest, Function.iterate_succ_apply]
    rfl

end

section
variable (src : Buffer)

theorem seenFlag_cases (offset : Nat) : seenFlag src offset = 0 ∨ seenFlag src offset = 1 := by
  rw [seenFlag]
  split_ifs
  · exact .inl rfl
  · exact fieldAt_one_cases src offset

variable {s : ParserState} {offset : Nat}

theorem parseAnchors_at (count first : Nat) (hs : At s (offset + 1 + 12 + 12 + 4 + 10 * first)) :
    (parseAnchors src count first s).dest = { s.dest with toneMapping := { s.dest.toneMapping with
        bezierCurveAnchors :=
          overwrite s.dest.toneMapping.bezierCurveAnchors (toneMappingOf src offset).bezierCurveAnchors first count }
            } ∧
      At (parseAnchors src count first s) (offset + 1 + 12 + 12 + 4 + 10 * (first + count)) := by
  induction count generalizing first s with
  | zero =>
    rw [overwrite_zero]
    exact ⟨rfl, hs⟩
  | succ count ih =>
    have hwide : 16 ≤ 32 := by decide
    have hrec := ih (first + 1) ((hs.skip 10).withDest { s.dest with toneMapping := { s.dest.toneMapping with
      bezierCurveAnchors :=
        update s.dest.toneMapping.bezierCurveAnchors first ((toneMappingOf src offset).bezierCurveAnchors first) } })
    simp only [overwrite_update, Nat.add_right_comm first 1] at hrec
    simp only [parseAnchors, readBits10_sees src _ s hs, ofNat_setWidth_eq hwide]
    exact hrec

theorem skipColorSaturation_at (hs : At s offset) :
    (skipColorSaturation src s).dest = s.dest ∧ At (skipColorSaturation src s)
      (offset + saturationWidth src offset) := by
  simp only [skipColorSaturation, readFlag_sees src _ s hs]
  rcases saturationWidth_cases src offset with ⟨hzero, hwidth⟩ | ⟨hone, hwidth⟩
  · rw [hwidth, hzero, if_neg (by decide)]
    exact ⟨rfl, hs.skip 1⟩
  · rw [hwidth, hone, if_pos (by decide)]
    exact ⟨rfl, (hs.skip 1).skip 6⟩

theorem parseCurve_takes (hs : At s (offset + 1)) (hflag : s.dest.toneMapping.toneMappingFlag = 1)
    (hseen : seenFlag src offset = 1) :
    Takes (parseCurve src s) (fieldAt src (offset + 1 + 12 + 12) 4 ≤ maxBezierCurveAnchors s.dest.applicationVersion)
      (seenSaturation src offset)
        (· = { s.dest with toneMapping := seenToneMapping src offset s.dest.toneMapping }) := by
  have hwide : 16 ≤ 32 := by decide
  have hcnt : (ofNat 16 (fieldAt src (offset + 1 + 12 + 12) 4)).toNat = fieldAt src (offset + 1 + 12 + 12) 4 :=
    toNat_ofNat_fieldAt (by decide)
  simp only [parseCurve, readBits12_sees src _ s hs, readBits12_sees src _ _ ((hs.skip 12).withDest _),
    readBits4_sees src _ _ ((((hs.skip 12).withDest _).skip 12).withDest _), ofNat_setWidth_eq hwide, hcnt]
  obtain ⟨hanchors, hend⟩ :=
    parseAnchors_at src (fieldAt src (offset + 1 + 12 + 12) 4) 0 ((((hs.skip 12).skip 12).skip 4).withDest
    { s.dest with toneMapping := { s.dest.toneMapping with
        kneePointX := .ofNat 16 (seenBits12 src (offset + 1)),
          kneePointY := .ofNat 16 (seenBits12 src (offset + 1 + 12)),
        numBezierCurveAnchors := .ofNat 16 (fieldAt src (offset + 1 + 12 + 12) 4) } })
  have hoff : offset + 1 + 12 + 12 + 4 + 10 * (0 + fieldAt src (offset + 1 + 12 + 12) 4) =
      seenSaturation src offset := by
    rw [seenSaturation, if_pos hseen]
    omega
  rw [hoff] at hend
  rw [← Nat.not_lt, ← and_true (¬ _)]
  refine .guard ?_ _ _
  refine takes_ok hend (hanchors.trans ?_)
  rw [seenToneMapping, if_pos hseen, ← hflag]

def CurveFits (version : U8) (offset : Nat) : Prop :=
  seenFlag src offset = 1 → fieldAt src (offset + 1 + 12 + 12) 4 ≤ maxBezierCurveAnchors version

theorem parseWindowToneMapping_takes (hs : At s offset) :
    Takes (parseWindowToneMapping src s) (CurveFits src s.dest.applicationVersion offset) (seenAfter src offset)
      (· = { s.dest with toneMapping := seenToneMapping src offset s.dest.toneMapping }) := by
  have hwide : 16 ≤ 32 := by decide
  simp only [parseWindowToneMapping, readToneMappingFlag_sees src _ s hs, ofNat_setWidth_eq hwide]
  rw [CurveFits, seenToneMapping]
  rcases seenFlag_cases src offset with hzero | hone
  · have hafter : seenAfter src offset = offset + 1 + saturationWidth src (offset + 1) := by
      rw [seenAfter, seenSaturation, if_neg (by omega), Nat.add_zero]
    obtain ⟨hdest, hend⟩ := skipColorSaturation_at src ((hs.skip 1).withDest
      { s.dest with toneMapping := { s.dest.toneMapping with toneMappingFlag := 0 } })
    rw [hafter, hzero, if_neg (by decide), if_neg (by decide),
      iff_true_intro (fun h : 0 = 1 => absurd h Nat.zero_ne_one)]
    exact takes_ok hend hdest
  · have hcurve := parseCurve_takes src ((hs.skip 1).withDest
      { s.dest with toneMapping := { s.dest.toneMapping with toneMappingFlag := 1 } }) rfl hone
    rw [hone, if_pos (by decide), if_pos rfl, imp_iff_right rfl]
    refine hcurve.map fun s' hs' hdest' => ?_
    obtain ⟨hdest, hend⟩ := skipColorSaturation_at src hs'
    refine ⟨hend, hdest.trans (hdest'.trans ?_)⟩
    rw [seenToneMapping, if_pos hone]

def CurvesFit (version : U8) : Nat → Nat → Prop
  | 0, offset => CurveFits src version offset
  | windows + 1, offset => CurveFits src version offset ∧ CurvesFit version windows (seenAfter src offset)

theorem parseToneMapping_takes (windows : Nat) (hs : At s offset) :
    Takes (parseToneMapping src (windows + 1) s) (CurvesFit src s.dest.applicationVersion windows offset)
      ((seenAfter src)^[windows + 1] offset)
      (∃ t, · = { s.dest with toneMapping := seenToneMapping src ((seenAfter src)^[windows] offset) t }) := by
  induction windows generalizing s offset with
  | zero => exact (parseWindowToneMapping_takes src hs).map fun s' hs' hdest => ⟨hs', _, hdest⟩
  | succ windows ih =>
    refine (parseWindowToneMapping_takes src hs).bind fun s' hs' hdest => ?_
    have hrest := ih hs'
    rw [hdest] at hrest
    exact hrest

end

section
variable (src : Buffer) (dest : ExynosHdrData) (windows : Nat)

def seenLast : Nat := (seenAfter src)^[windows - 1] (toneMappingAt src windows 0)

/-- What the parser checks of a payload. -/
def Accepts : Prop := fieldAt src (luminanceAt windows) 27 ≤ 10000 ∧ TableFits src (targetedAt windows) ∧
    TableFits src (masteringAt src windows) ∧
  CurvesFit src (.ofNat 8 (fieldAt src 48 8)) (windows - 1) (toneMappingAt src windows 0)

def StoresWindows (r : ExynosHdrData) : Prop :=
  ∃ old d t, r = { withStatistics src (statisticsAt src windows (windows - 1)) old d with
      toneMapping := seenToneMapping src (seenLast src windows) t } ∧
    d.displayMaximumLuminance = .ofNat 32 (fieldAt src (luminanceAt windows) 27)

variable {src windows}

theorem parsePayload_takes (hcnt : 1 ≤ windows ∧ windows ≤ 3) (hwins : fieldAt src 56 2 = windows) :
    Takes (parsePayload src { dest, bitOffset := 0, extraBit := 0 }) (Accepts src windows)
      ((seenAfter src)^[windows] (toneMappingAt src windows 0)) (StoresWindows src windows) := by
  have hhdr : At (parseHeader src { dest, bitOffset := 0, extraBit := 0 }) 56 := ⟨rfl, rfl⟩
  have hver := parseHeader_applicationVersion src dest
  obtain ⟨count, rfl⟩ : ∃ count, windows = count + 1 := ⟨windows - 1, by omega⟩
  obtain ⟨hskip, hs⟩ := skipWindows_at (hhdr.skip 2) count
  have hphase : 1 ≤ luminanceAt (count + 1) % 8 ∧ luminanceAt (count + 1) % 8 ≤ 5 := by
    obtain rfl | rfl | rfl : count = 0 ∨ count = 1 ∨ count = 2 := by omega
    all_goals decide
  have hbody : parsePayload src { dest, bitOffset := 0, extraBit := 0 } =
      parseBody src (count + 1) (skip 2 (parseHeader src ⟨dest, 0, 0⟩)) := by
    simp only [parsePayload, readNumWindows_sees src 56 rfl _ hhdr, hwins]
    obtain rfl | rfl | rfl : count = 0 ∨ count = 1 ∨ count = 2 := by omega
    all_goals rfl
  rw [hbody]
  refine (parseDisplayMaximumLuminance_takes hs hphase).bind fun sLum hlum hlumDest =>
    (parsePeakLuminance_takes hlum).bind fun sPeak hpeak hpeakDest => ?_
  obtain ⟨old, hstatDest, hstat⟩ := parseStatistics_at src _ count hpeak
  refine (parsePeakLuminance_takes hstat).bind fun sMaster hmaster hmasterDest => ?_
  have htone := parseToneMapping_takes src count hmaster
  have hdest := hmasterDest.trans hstatDest
  have hkept : sMaster.dest.applicationVersion = .ofNat 8 (fieldAt src 48 8) := by
    rw [hdest]
    exact (congrArg ExynosHdrData.applicationVersion (hpeakDest.trans hlumDest)).trans
      ((congrArg ExynosHdrData.applicationVersion hskip).trans hver)
  rw [hkept] at htone
  obtain ⟨sEnd, hend, ⟨t, ht⟩, htakes⟩ := htone
  refine ⟨sEnd, hend, ⟨old, sPeak.dest, t, ?_, ?_⟩, htakes⟩
  · rw [ht, hdest]
    rfl
  · rw [hpeakDest, hlumDest]
    rfl

theorem parse_windows (dest : ExynosHdrData) (hcnt : 1 ≤ windows ∧ windows ≤ 3) (hwins : fieldAt src 56 2 = windows) :
    ((exynosParsingUserDataRegisteredItuTT35 dest src).1 = 0 ↔ Accepts src windows) ∧
      (Accepts src windows → StoresWindows src windows (exynosParsingUserDataRegisteredItuTT35 dest src).2) := by
  obtain ⟨s, -, hstored, htakes⟩ := parsePayload_takes dest hcnt hwins
  rw [exynosParsingUserDataRegisteredItuTT35]
  cases hpayload : parsePayload src { dest, bitOffset := 0, extraBit := 0 } with
  | error e =>
    have hrejects : ¬ Accepts src windows := fun h => by cases hpayload.symm.trans ((htakes s).mpr ⟨h, rfl⟩)
    exact ⟨iff_of_false (by decide : (-1 : Int) ≠ 0) hrejects, fun h => absurd h hrejects⟩
  | ok s' =>
    obtain ⟨haccepts, rfl⟩ := (htakes s').mp hpayload
    exact ⟨iff_of_true rfl haccepts, fun _ => hstored⟩

end

section
variable {src : Buffer} {dest : ExynosHdrData} {windows : Nat}

def SeesWindow (src : Buffer) (seen offset : Nat) : Prop :=
  seenFlag src seen = fieldAt src offset 1 ∧ (fieldAt src offset 1 = 1 →
    seenBits12 src (seen + 1) = fieldAt src (offset + 1) 12 ∧
    seenBits12 src (seen + 1 + 12) = fieldAt src (offset + 1 + 12) 12 ∧
    fieldAt src (seen + 1 + 12 + 12) 4 = fieldAt src (offset + 1 + 12 + 12) 4 ∧
    ∀ j < fieldAt src (offset + 1 + 12 + 12) 4,
      fieldAt src (seen + 1 + 12 + 12 + 4 + 10 * j) 10 = fieldAt src (offset + 1 + 12 + 12 + 4 + 10 * j) 10)

theorem seenBits12_lt (src : Buffer) (offset : Nat) : seenBits12 src offset < 2 ^ 12 := by
  have hlt := fieldAt_lt src offset 12
  rw [seenBits12]
  split_ifs
  · exact (Nat.div_le_self _ _).trans_lt hlt
  · exact hlt

theorem ofNat_inj_of_lt {n a b : Nat} (ha : a < 2 ^ n) (hb : b < 2 ^ n) : ofNat n a = .ofNat n b ↔ a = b := by
  refine ⟨fun h => ?_, fun h => congrArg _ h⟩
  have hnat := congrArg BitVec.toNat h
  rwa [toNat_ofNat, toNat_ofNat, Nat.mod_eq_of_lt ha, Nat.mod_eq_of_lt hb] at hnat

/-- `r` is `t`, as far as a payload for `t` says. -/
def SameToneMapping (t r : ToneMapping) : Prop :=
  r.toneMappingFlag = t.toneMappingFlag ∧ (t.toneMappingFlag = 1 → r.kneePointX = t.kneePointX ∧ r.kneePointY =
    t.kneePointY ∧ r.numBezierCurveAnchors = t.numBezierCurveAnchors ∧
    ∀ j < t.numBezierCurveAnchors.toNat, r.bezierCurveAnchors j = t.bezierCurveAnchors j)

theorem sameToneMapping_seen_iff (src : Buffer) (seen offset : Nat) (t : ToneMapping) :
    SameToneMapping (toneMappingOf src offset) (seenToneMapping src seen t) ↔ SeesWindow src seen offset := by
  have hcnt : (ofNat 16 (fieldAt src (offset + 1 + 12 + 12) 4)).toNat = fieldAt src (offset + 1 + 12 + 12) 4 :=
    toNat_ofNat_fieldAt (by decide)
  have hwide : ∀ at' width, width ≤ 16 → fieldAt src at' width < 2 ^ 16 := fun at' width hwidth =>
    (fieldAt_lt src at' width).trans_le (Nat.pow_le_pow_right (by decide) hwidth)
  have hwide12 : ∀ at', seenBits12 src at' < 2 ^ 16 := fun at' => (seenBits12_lt src at').trans (by decide)
  have hset : ofNat 16 (fieldAt src offset 1) = 1 ↔ fieldAt src offset 1 = 1 :=
    ofNat_inj_of_lt (hwide offset 1 (by decide)) (by decide)
  rw [SameToneMapping, SeesWindow, seenToneMapping]
  rcases seenFlag_cases src seen with hzero | hone
  · -- no curve is stored, so none may be there
    rw [hzero, if_neg (by decide)]
    simp only [toneMappingOf, hset]
    rcases fieldAt_one_cases src offset with hclear | hflag
    · rw [hclear]
      exact ⟨fun _ => ⟨rfl, fun h => by cases h⟩, fun _ => ⟨rfl, fun h => by cases h⟩⟩
    · rw [hflag]
      exact ⟨fun h => absurd h.1 (by decide), fun h => absurd h.1 (by decide)⟩
  · rw [hone, if_pos rfl]
    simp only [toneMappingOf, hset, hcnt, ofNat_inj_of_lt (hwide12 _) (hwide _ 12 (by decide)),
      ofNat_inj_of_lt (hwide _ 4 (by decide)) (hwide _ 4 (by decide))]
    rcases fieldAt_one_cases src offset with hclear | hflag
    · rw [hclear]
      exact ⟨fun h => absurd h.1 (by decide), fun h => absurd h.1 (by decide)⟩
    · rw [hflag]
      refine and_congr (iff_of_true rfl rfl) (imp_congr_right fun _ => and_congr_right fun _ => and_congr_right fun _ =>
        and_congr_right fun hnum => ?_)
      refine forall_congr' fun j => imp_congr_right fun hj => ?_
      rw [hnum, overwrite_of_lt _ _ _ j hj]
      exact ofNat_inj_of_lt (hwide _ 10 (by decide)) (hwide _ 10 (by decide))

theorem restores_lastWindow_iff (hcnt : 1 ≤ windows ∧ windows ≤ 3) (hwins : fieldAt src 56 2 = windows)
    (hacc : (exynosParsingUserDataRegisteredItuTT35 dest src).1 = 0) :
    Restores (lastWindow src windows) (exynosParsingUserDataRegisteredItuTT35 dest src).2 ↔
      SeesWindow src (seenLast src windows) (toneMappingAt src windows (windows - 1)) := by
  obtain ⟨haccepts, hstores⟩ := parse_windows dest hcnt hwins
  obtain ⟨old, d, t, hres, hlum⟩ := hstores (haccepts.mp hacc)
  have hpcts : (lastWindow src windows).numMaxrgbPercentiles.toNat =
      fieldAt src (statisticsAt src windows (windows - 1) + 17 * 3 + 17) 4 :=
    toNat_ofNat_fieldAt (by decide)
  rw [hres, ← sameToneMapping_seen_iff src _ _ t]
  constructor
  · intro h
    exact ⟨h.toneMappingFlag, fun hone => ⟨(h.kneePoint hone).1, (h.kneePoint hone).2, h.anchorCount hone,
      h.anchors hone⟩⟩
  · rintro ⟨hflag, hcurve⟩
    constructor
    case displayMaximumLuminance => exact hlum
    case maxscl => exact fun i hi => overwrite_of_lt _ _ _ i hi
    case numMaxrgbPercentiles => rfl
    case percentages => exact fun i hi => overwrite_of_lt _ _ _ i (hpcts ▸ hi)
    case percentiles => exact fun i hi => overwrite_of_lt _ _ _ i (hpcts ▸ hi)
    case toneMappingFlag => exact hflag
    case kneePoint => exact fun hone => ⟨(hcurve hone).1, (hcurve hone).2.1⟩
    case anchorCount => exact fun hone => (hcurve hone).2.2.1
    case anchors => exact fun hone => (hcurve hone).2.2.2

end

section
variable (src : Buffer)

def LosesFlag (offset : Nat) : Prop := offset % 8 = 7 ∧ fieldAt src offset 1 = 1

instance (offset : Nat) : Decidable (LosesFlag src offset) := inferInstanceAs (Decidable (_ ∧ _))

def CutsKneePoint (offset : Nat) : Prop := fieldAt src offset 1 = 1 ∧
  ((offset % 8 = 4 ∧ fieldAt src (offset + 1) 12 ≠ 0) ∨ (offset % 8 = 0 ∧ fieldAt src (offset + 1 + 12) 12 ≠ 0))

theorem seenFlag_eq_iff (offset : Nat) : seenFlag src offset = fieldAt src offset 1 ↔ ¬ LosesFlag src offset := by
  rw [seenFlag, LosesFlag]
  have hflag := fieldAt_one_cases src offset
  split_ifs with hlast <;> omega

theorem seenBits12_eq_iff (offset : Nat) :
    seenBits12 src offset = fieldAt src offset 12 ↔ ¬ (offset % 8 = 5 ∧ fieldAt src offset 12 ≠ 0) := by
  rw [seenBits12]
  split_ifs with hcut <;> omega

theorem sees_self_iff (offset : Nat) :
    SeesWindow src offset offset ↔ ¬ LosesFlag src offset ∧ ¬ CutsKneePoint src offset := by
  rw [SeesWindow, seenFlag_eq_iff, seenBits12_eq_iff, seenBits12_eq_iff, CutsKneePoint]
  have hx : (offset + 1) % 8 = 5 ↔ offset % 8 = 4 := by omega
  have hy : (offset + 1 + 12) % 8 = 5 ↔ offset % 8 = 0 := by omega
  rw [hx, hy]
  refine and_congr_right fun _ => ⟨?_, ?_⟩
  · rintro hsees ⟨hflag, hcut⟩
    obtain ⟨hcutX, hcutY, -⟩ := hsees hflag
    exact hcut.elim hcutX hcutY
  · exact fun hcut hflag => ⟨fun h => hcut ⟨hflag, .inl h⟩, fun h => hcut ⟨hflag, .inr h⟩, rfl, fun _ _ => rfl⟩

theorem seenAfter_eq {offset : Nat} (h : ¬ LosesFlag src offset) :
    seenAfter src offset = afterToneMapping src offset := by
  have hflag := (seenFlag_eq_iff src offset).mpr h
  have hsat : seenSaturation src offset = saturationAt src offset := by
    rw [seenSaturation, saturationAt, curveWidth, hflag]
  rw [seenAfter, afterToneMapping, hsat]

def StoresLastWindow (windows : Nat) : Prop :=
  if windows = 2 then ¬ CutsKneePoint src (toneMappingAt src windows 1)
  else if LosesFlag src (toneMappingAt src windows 0) ∨ LosesFlag src (toneMappingAt src windows 1) then
    SeesWindow src (seenLast src windows) (toneMappingAt src windows 2)
  else ¬ LosesFlag src (toneMappingAt src windows 2)

theorem toneMappingAt_succ (windows w : Nat) :
    toneMappingAt src windows (w + 1) = afterToneMapping src (toneMappingAt src windows w) :=
  Function.iterate_succ_apply' _ _ _

theorem sees_two_iff : SeesWindow src (seenLast src 2) (toneMappingAt src 2 1) ↔ StoresLastWindow src 2 := by
  have heven (w : Nat) : ¬ LosesFlag src (toneMappingAt src 2 w) := by
    have hparity := toneMappingAt_parity src (by decide : 1 ≤ 2) w
    rw [LosesFlag]
    omega
  have hseen : seenLast src 2 = toneMappingAt src 2 1 :=
    (seenAfter_eq src (heven 0)).trans (toneMappingAt_succ src 2 0).symm
  rw [hseen, sees_self_iff, StoresLastWindow, if_pos rfl]
  exact and_iff_right (heven 1)

theorem sees_three_iff : SeesWindow src (seenLast src 3) (toneMappingAt src 3 2) ↔ StoresLastWindow src 3 := by
  have hwhole : ¬ CutsKneePoint src (toneMappingAt src 3 2) := by
    have hparity := toneMappingAt_parity src (by decide : 1 ≤ 3) 2
    rw [CutsKneePoint]
    omega
  rw [StoresLastWindow, if_neg (by decide)]
  split_ifs with hearlier
  · exact Iff.rfl
  · obtain ⟨hfst, hsnd⟩ := not_or.mp hearlier
    have hseen : seenLast src 3 = toneMappingAt src 3 2 := by
      have hrun : seenLast src 3 = seenAfter src (seenAfter src (toneMappingAt src 3 0)) := rfl
      rw [hrun, seenAfter_eq src hfst, ← toneMappingAt_succ, seenAfter_eq src hsnd, ← toneMappingAt_succ]
    rw [hseen, sees_self_iff]
    exact and_iff_left hwhole

end

/-- The last of two windows is stored as it reads unless a coordinate of its knee point is cut. The last of three is,
unless its flag is lost or, after an earlier flag was, the parser finds other values where it looks. -/
theorem restores_lastWindow_iff_stores {src : Buffer} {dest : ExynosHdrData} {windows : Nat}
    (hcnt : windows = 2 ∨ windows = 3)
    (hwins : fieldAt src 56 2 = windows) (hacc : (exynosParsingUserDataRegisteredItuTT35 dest src).1 = 0) :
    Restores (lastWindow src windows) (exynosParsingUserDataRegisteredItuTT35 dest src).2 ↔
    StoresLastWindow src windows := by
  rw [restores_lastWindow_iff (by omega) hwins hacc]
  rcases hcnt with rfl | rfl
  · exact sees_two_iff src
  · exact sees_three_iff src

/-- Each window has a percentile, a curve of one anchor and a weight, and both tables have four cells. -/
def twoWindowsPayload : Buffer := literal 75
  0xB5003C000104018000000001DFC10DC0F000870B40190032004B20009C42213C4D04E202EE01B5801900DA119400A13880BB806D600640368465002C423456A004000A0126801000280490

theorem restores_twoWindowsPayload :
    Restores (lastWindow twoWindowsPayload 2)
      (exynosParsingUserDataRegisteredItuTT35 emptyHdrData twoWindowsPayload).2 :=
  (restores_lastWindow_iff_stores (.inl rfl) (by decide) (by decide)).mpr (by
    rw [StoresLastWindow, if_pos rfl, CutsKneePoint]
    decide)

def cutPayload : Buffer := fun i =>
  if i = 7 then 0x80 else if i = 50 then 0x04 else if i = 51 then 0x08 else if i = 53 then 0x80 else 0

theorem not_restores_cutPayload : fieldAt cutPayload 56 2 = 2 ∧ fieldAt cutPayload (targetedAt 2) 1 = 0 ∧
    fieldAt cutPayload (masteringAt cutPayload 2) 1 = 0 ∧
    (exynosParsingUserDataRegisteredItuTT35 emptyHdrData cutPayload).1 = 0 ∧
    ¬ Restores (lastWindow cutPayload 2) (exynosParsingUserDataRegisteredItuTT35 emptyHdrData cutPayload).2 := by
  refine ⟨by decide, by decide, by decide, by decide, fun h => ?_⟩
  have hknee := (h.kneePoint (by decide)).1
  exact absurd hknee (by decide)

end ExynosHal.VideoApi.T35Windows

namespace ExynosHal.VideoApi.T35Exact
open Library.BitBuffer HdrData T35Parser WindowSyntax T35Windows

theorem masteringAt_one (src : Buffer) : masteringAt src 1 = masteringOffset src := by
  have hstart : masteringAt src 1 = afterStatistics src (maxsclOffset src) := rfl
  rw [hstart, afterStatistics, statisticsWidth, masteringOffset, percentileOffset, percentileCount,
    percentileCountOffset]
  omega

theorem toneMappingAt_one (src : Buffer) : toneMappingAt src 1 0 = toneMappingOffset src := by
  rw [toneMappingAt_zero, masteringAt_one, toneMappingOffset]

theorem lastWindow_one (src : Buffer) : lastWindow src 1 = reference src := by
  have hlast : lastWindow src 1 = windowOf src 1 (statisticsAt src 1 0) (toneMappingAt src 1 0) := rfl
  rw [hlast, toneMappingAt_one]
  rfl

theorem restores_iff_keepsFlag {src : Buffer} {dest : ExynosHdrData} (hwins : fieldAt src 56 2 = 1)
    (hacc : (exynosParsingUserDataRegisteredItuTT35 dest src).1 = 0) :
    Restores (reference src) (exynosParsingUserDataRegisteredItuTT35 dest src).2 ↔
    ¬ LosesFlag src (toneMappingOffset src) := by
  have hwhole : ¬ CutsKneePoint src (toneMappingOffset src) := by
    have hodd := toneMappingOffset_odd src
    rw [CutsKneePoint]
    omega
  have hseen : seenLast src 1 = toneMappingAt src 1 0 := rfl
  rw [← lastWindow_one, restores_lastWindow_iff (by decide) hwins hacc, hseen, toneMappingAt_one, sees_self_iff,
    and_iff_left hwhole]

/-- A payload for one window that is accepted is stored as it reads, unless exactly one of its tables is there, with an
odd number of cells, and the tone mapping flag is set. -/
theorem restores_reference_iff {src : Buffer} {dest : ExynosHdrData} (hwins : fieldAt src 56 2 = 1)
    (hacc : (exynosParsingUserDataRegisteredItuTT35 dest src).1 = 0) :
    Restores (reference src) (exynosParsingUserDataRegisteredItuTT35 dest src).2 ↔
      ¬ (OneOddTable src ∧ fieldAt src (toneMappingOffset src) 1 = 1) := by
  rw [restores_iff_keepsFlag hwins hacc, LosesFlag, toneMappingOffset_mod_iff]

theorem restores_curvePayload :
    Restores (reference curvePayload) (exynosParsingUserDataRegisteredItuTT35 emptyHdrData curvePayload).2 :=
  (restores_reference_iff (by decide) (by decide)).mpr fun h => absurd h.1 (by unfold OneOddTable; decide)

def oddPayload : Buffer := fun i =>
  if i = 7 then 0x40 else if i = 10 then 0x04 else if i = 11 then 0x63 else if i = 26 then 0x01 else 0

theorem not_restores_oddPayload : fieldAt oddPayload 56 2 = 1 ∧
    (exynosParsingUserDataRegisteredItuTT35 emptyHdrData oddPayload).1 = 0 ∧
    ¬ Restores (reference oddPayload) (exynosParsingUserDataRegisteredItuTT35 emptyHdrData oddPayload).2 := by
  have hwins : fieldAt oddPayload 56 2 = 1 := by decide
  have hacc : (exynosParsingUserDataRegisteredItuTT35 emptyHdrData oddPayload).1 = 0 := by decide
  refine ⟨hwins, hacc, fun h => ?_⟩
  exact absurd h.toneMappingFlag (by decide)

end ExynosHal.VideoApi.T35Exact
