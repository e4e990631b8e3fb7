import ExynosHal.VideoApi.FullSyntax

/-! # What the full T.35 parser stores

Each field is stored with the value its byte loop sees, and the parser moves on by the width of the field.
-/

namespace ExynosHal.VideoApi.FullT35Reads
open Library.BitString Library.BitBuffer FullHdr T35Parser T35Exact WindowSyntax FullT35Parser FullSyntax
open T35ParserCorrect (alignData_readBytes alignData_orBits ofNat_setWidth_eq overwrite overwrite_of_lt overwrite_update
  overwrite_zero
  readBytes_toNat sshiftRight_toNat)
open T35Windows (alignData_seenBits12 seenBits12 seenFlag sshiftRight_seenFlag)
open Function (update update_of_ne update_self)

structure At (s : FullState) (offset : Nat) : Prop where
  bitOffset : s.bitOffset = offset
  extraBit : s.extraBit = offset % 8

def Sees (read : FullState → U32 × FullState) (width offset value : Nat) : Prop :=
  ∀ s, At s offset → (read s).1 = .ofNat 32 value ∧ (read s).2 = skipTo width s

section
variable (src : Buffer)

theorem readLoop_eq {shifts nBytes j : Nat} (i extraBit : Nat) (data : U32) (hj : j + nBytes = shifts + 1) :
    readLoop src shifts nBytes j i extraBit data = readBytes src nBytes i extraBit data := by
  induction nBytes generalizing j i extraBit data with
  | zero => rfl
  | succ nBytes ih =>
    have hlast : j < shifts ↔ nBytes ≠ 0 := by omega
    rw [readLoop, readBytes]
    simp only [hlast]
    exact ih (i + 1) 0 _ (by omega)

theorem readFull_sees {width nBytes shifts offset : Nat} (hshifts : nBytes = shifts + 1)
    (hlow : 8 * nBytes < offset % 8 + width + 8) (hhigh : offset % 8 + width ≤ 8 * nBytes)
      (hint : 8 * nBytes ≤ 31 + offset % 8) :
    Sees (fun s => readFull src width nBytes shifts s) width offset (fieldAt src offset width) := by
  intro s hs
  refine ⟨?_, rfl⟩
  simp only [readFull, skipTo, hs.bitOffset, hs.extraBit, readLoop_eq src _ _ _ (by omega : 0 + nBytes = shifts + 1)]
  exact alignData_readBytes src (by omega) hlow hhigh hint

variable {offset : Nat}

theorem readFull16_sees (hphase : offset % 8 ≠ 0) : Sees (readFull16 src) 16 offset (fieldAt src offset 16) := by
  intro s hs
  have hextra := hs.extraBit
  rw [readFull16, if_pos (by omega)]
  exact readFull_sees src rfl (by omega) (by omega) (by omega) s hs

theorem readFull8_sees (hphase : offset % 8 ≠ 0) : Sees (readFull8 src) 8 offset (fieldAt src offset 8) := by
  intro s hs
  have hextra := hs.extraBit
  rw [readFull8, if_pos (by omega)]
  exact readFull_sees src rfl (by omega) (by omega) (by omega) s hs

theorem readFull27_sees (hphase : 1 ≤ offset % 8 ∧ offset % 8 ≤ 5) :
    Sees (readFull27 src) 27 offset (fieldAt src offset 27) := by
  intro s hs
  have hextra := hs.extraBit
  simp only [readFull27]
  rw [if_neg (by omega)]
  exact readFull_sees src rfl (by omega) (by omega) (by omega) s hs

variable (offset : Nat)

theorem readFull17_sees : Sees (readFull17 src) 17 offset (fieldAt src offset 17) :=
  readFull_sees src rfl (by omega) (by omega) (by omega)

theorem readFullShort_sees {width limit : Nat} (hfit : limit + width = 8) (hwidth : 0 < width) (offset : Nat) :
    Sees (fun s => readFullShort src width limit s) width offset (fieldAt src offset width) := by
  intro s hs
  have hextra := hs.extraBit
  simp only [readFullShort]
  split_ifs <;> exact readFull_sees src rfl (by omega) (by omega) (by omega) s hs

theorem readFull7_sees : Sees (readFull7 src) 7 offset (fieldAt src offset 7) :=
  readFullShort_sees src (by decide : 1 + 7 = 8) (by decide) offset

theorem readFull5_sees : Sees (readFull5 src) 5 offset (fieldAt src offset 5) :=
  readFullShort_sees src (by decide : 3 + 5 = 8) (by decide) offset

theorem readFull4_sees : Sees (readFull4 src) 4 offset (fieldAt src offset 4) :=
  readFullShort_sees src (by decide : 4 + 4 = 8) (by decide) offset

theorem readFull10_sees : Sees (readFull10 src) 10 offset (fieldAt src offset 10) := by
  intro s hs
  have hextra := hs.extraBit
  simp only [readFull10]
  split_ifs <;> exact readFull_sees src rfl (by omega) (by omega) (by omega) s hs

theorem readFull12_sees : Sees (readFull12 src) 12 offset (seenBits12 src offset) := by
  intro s hs
  refine ⟨?_, rfl⟩
  simp only [readFull12, readFull, skipTo, hs.bitOffset, hs.extraBit,
    readLoop_eq src _ _ _ (by omega : 0 + (1 + if offset % 8 > 5 then 2 else 1) =
    (1 + (if offset % 8 > 5 then 2 else 1) - 1) + 1)]
  exact alignData_seenBits12 src offset

theorem readFullFlag_sees : Sees (readFullFlag src) 1 offset (fieldAt src offset 1) := by
  intro s hs
  refine ⟨?_, rfl⟩
  simp only [readFullFlag, skipTo, hs.bitOffset, hs.extraBit]
  exact alignData_orBits src

theorem readFullToneMappingFlag_sees : Sees (readFullToneMappingFlag src) 1 offset (seenFlag src offset) := by
  intro s hs
  refine ⟨?_, rfl⟩
  simp only [readFullToneMappingFlag, skipTo, hs.bitOffset, hs.extraBit]
  exact sshiftRight_seenFlag src offset

theorem readFull6_sees : Sees (readFull6 src) 6 offset (seenWeight src offset) := by
  intro s hs
  have hextra := hs.extraBit
  simp only [readFull6, readFullShort, seenWeight]
  rcases Nat.lt_trichotomy (offset % 8) 3 with hlt | hcut | hgt
  · rw [if_neg (by omega), if_neg (by omega)]
    exact readFull_sees src rfl (by omega) (by omega) (by omega) s hs
  · have hbytes := readBytes_toNat src 1 (offset / 8) (offset % 8) 0 0 (by omega) (by decide) rfl (by decide)
    have hlow : 8 * 1 - 3 = 5 := rfl
    have hlt := fieldAt_lt src offset 5
    have hnext : (offset + 6) % 8 = 1 := by omega
    rw [Nat.zero_mul, Nat.zero_add, Nat.div_add_mod, hcut, hlow] at hbytes
    rw [if_neg (by omega), if_pos hcut]
    refine ⟨?_, rfl⟩
    simp only [readFull, alignData, skipTo, hs.bitOffset, hextra, hnext, hcut,
      readLoop_eq src _ _ _ (by decide : 0 + (1 + 0) = 0 + 1)]
    apply BitVec.eq_of_toNat_eq
    rw [if_pos (by decide), sshiftRight_toNat _ _ (by rw [hbytes]; omega), hbytes]
    exact Nat.div_eq_of_lt (by omega)
  · rw [if_pos (by omega), if_neg (by omega)]
    exact readFull_sees src rfl (by omega) (by omega) (by omega) s hs

def wideFraction (offset : Nat) : Nat :=
  if offset % 8 = 7 then fieldAt src offset 10 else fieldAt src offset (16 - offset % 8) * 2 ^ (2 + offset % 8)

theorem wideFraction_mod : (BitVec.ofNat 16 (wideFraction src offset)).toNat = seenFraction src offset := by
  rw [BitVec.toNat_ofNat, wideFraction, seenFraction]
  split_ifs
  · exact Nat.mod_eq_of_lt ((fieldAt_lt src offset 10).trans (by decide))
  · rfl

theorem readFraction_sees : Sees (readFraction src) 10 offset (wideFraction src offset) := by
  intro s hs
  have hextra := hs.extraBit
  rw [readFraction, wideFraction]
  rcases eq_or_ne (offset % 8) 7 with hlast | hphase
  · rw [if_pos (by omega), if_pos hlast]
    exact readFull_sees src rfl (by omega) (by omega) (by omega) s hs
  · have hbytes := readBytes_toNat src 2 (offset / 8) (offset % 8) 0 0 (by omega) (by decide) rfl (by decide)
    have hlt := fieldAt_lt src offset (16 - offset % 8)
    have hle : 2 ^ (16 - offset % 8) ≤ 2 ^ 16 := Nat.pow_le_pow_right (by decide) (by omega)
    have hloop : readLoop src 2 2 0 (offset / 8) (offset % 8) 0 = readBytes src 2 (offset / 8) (offset % 8) 0 <<< 8 :=
      rfl
    have htwo : 8 * 2 = 16 := rfl
    rw [Nat.zero_mul, Nat.zero_add, Nat.div_add_mod, htwo] at hbytes
    have hshifted : (readBytes src 2 (offset / 8) (offset % 8) 0 <<< 8).toNat = fieldAt src offset (16 - offset % 8) *
        2 ^ 8 := by
      rw [BitVec.toNat_shiftLeft, Nat.shiftLeft_eq, hbytes]
      exact Nat.mod_eq_of_lt (by omega)
    rw [if_neg (by omega), if_neg hphase]
    refine ⟨?_, rfl⟩
    simp only [readFull, alignData, skipTo, hs.bitOffset, hextra, hloop]
    apply BitVec.eq_of_toNat_eq
    split_ifs with hend
    · have hshift : 2 ^ 8 = 2 ^ (2 + offset % 8) * 2 ^ (8 - (offset + 10) % 8) := by
        rw [← Nat.pow_add]
        congr 1
        omega
      rw [sshiftRight_toNat _ _ (by rw [hshifted]; omega), hshifted, hshift, ← Nat.mul_assoc,
        Nat.mul_div_cancel _ (Nat.two_pow_pos _), BitVec.toNat_ofNat]
      refine (Nat.mod_eq_of_lt ?_).symm
      have hle' : 2 ^ (2 + offset % 8) ≤ 2 ^ 8 := Nat.pow_le_pow_right (by decide) (by omega)
      calc fieldAt src offset (16 - offset % 8) * 2 ^ (2 + offset % 8) ≤ 2 ^ 16 * 2 ^ 8 :=
        Nat.mul_le_mul (by omega) hle'
        _ < 2 ^ 32 := by decide
    · have hsix : 2 + offset % 8 = 8 := by omega
      rw [hshifted, hsix, BitVec.toNat_ofNat]
      exact (Nat.mod_eq_of_lt (by omega)).symm

end

structure Parts where
  numWindows : U8
  geometry : Nat → Geometry
  maximumLuminance : U32
  targetedSystemDisplay : PeakLuminance
  statistics : Nat → Statistics
  masteringDisplay : PeakLuminance
  tone : Nat → WindowTone

def partsOf (d : FullHdrData) : Parts where
  numWindows := d.numWindows
  geometry := geometryOf d
  maximumLuminance := d.targetedSystemDisplayMaximumLuminance
  targetedSystemDisplay := d.targetedSystemDisplay
  statistics := statisticsOf d
  masteringDisplay := d.masteringDisplay
  tone := windowToneOf d

structure Stored (s : FullState) (offset : Nat) (p : Parts) : Prop where
  position : At s offset
  parts : partsOf s.dest = p

structure WindowPart (A : Type) where
  get : Parts → Nat → A
  set : Parts → (Nat → A) → Parts
  get_set : ∀ p f, get (set p f) = f
  set_get : ∀ p, set p (get p) = p
  set_set : ∀ p f f', set (set p f) f' = set p f'

section
variable {A : Type} (part : WindowPart A)

def WindowPart.withWindow (p : Parts) (w : Nat) (a : A) : Parts := part.set p (update (part.get p) w a)

variable (p : Parts)

theorem WindowPart.get_withWindow (w : Nat) (a : A) : part.get (part.withWindow p w a) = update (part.get p) w a :=
  part.get_set _ _

theorem WindowPart.withWindow_withWindow (w : Nat) (a a' : A) :
    part.withWindow (part.withWindow p w a) w a' = part.withWindow p w a' := by
  rw [withWindow, get_withWindow, withWindow, part.set_set, Function.update_idem, withWindow]

theorem WindowPart.withWindow_get (w : Nat) : part.withWindow p w (part.get p w) = p := by
  rw [withWindow, Function.update_eq_self, part.set_get]

end

def geometryPart : WindowPart Geometry := ⟨Parts.geometry, fun p f => { p with geometry := f }, fun _ _ => rfl, fun _ =>
    rfl, fun _ _ _ => rfl⟩

def statisticsPart : WindowPart Statistics := ⟨Parts.statistics, fun p f => { p with statistics := f }, fun _ _ => rfl,
    fun _ => rfl, fun _ _ _ => rfl⟩

def tonePart : WindowPart WindowTone := ⟨Parts.tone, fun p f => { p with tone := f }, fun _ _ => rfl, fun _ => rfl,
    fun _ _ _ => rfl⟩

section
variable {n width offset value : Nat} {read : FullState → U32 × FullState} {set : FullHdrData → BitVec n → FullHdrData}
  {s : FullState} {p p' : Parts}

theorem Stored.store (h : Stored s offset p) (hread : Sees read width offset value) (hn : n ≤ 32)
    (hset : ∀ d, partsOf d = p → partsOf (set d (.ofNat n value)) = p') :
    Stored (FullT35Parser.store read set s) (offset + width) p' := by
  obtain ⟨hdata, hnext⟩ := hread s h.position
  simp only [FullT35Parser.store, hdata, hnext, ofNat_setWidth_eq hn]
  refine ⟨⟨?_, ?_⟩, hset _ h.parts⟩
  · rw [skipTo, h.position.bitOffset]
  · rw [skipTo, h.position.bitOffset]

variable {w : Nat}

theorem Stored.window {A : Type} (part : WindowPart A) {f : A → BitVec n → A} {a : A}
    (h : Stored s offset (part.withWindow p w a)) (hread : Sees read width offset value) (hn : n ≤ 32)
    (hset : ∀ d v, partsOf (set d v) = part.set (partsOf d) (part.get (partsOf (set d v))) ∧
      part.get (partsOf (set d v)) w = f (part.get (partsOf d) w) v ∧
      ∀ u ≠ w, part.get (partsOf (set d v)) u = part.get (partsOf d) u) :
    Stored (FullT35Parser.store read set s) (offset + width) (part.withWindow p w (f a (.ofNat n value))) := by
  have hwith (d v) : partsOf (set d v) = part.withWindow (partsOf d) w (f (part.get (partsOf d) w) v) := by
    obtain ⟨hrest, hself, hother⟩ := hset d v
    refine hrest.trans (congrArg (part.set (partsOf d)) (funext fun u => ?_))
    rcases eq_or_ne u w with rfl | hne
    · rw [update_self]
      exact hself
    · rw [update_of_ne hne]
      exact hother u hne
  refine h.store hread hn fun d hd => ?_
  rw [hwith, hd, part.get_withWindow, update_self, part.withWindow_withWindow]

theorem Stored.geometry {f : Geometry → BitVec n → Geometry} {g : Geometry}
    (h : Stored s offset (geometryPart.withWindow p w g)) (hread : Sees read width offset value) (hn : n ≤ 32)
    (hset : ∀ d v, partsOf (set d v) = { partsOf d with geometry := geometryOf (set d v) } ∧ geometryOf (set d v) w =
      f (geometryOf d w) v ∧
      ∀ u ≠ w, geometryOf (set d v) u = geometryOf d u := by
        exact fun d v => ⟨rfl, by simp only [geometryOf, update_self], fun u hu => by
          simp only [geometryOf, update_of_ne hu]⟩) :
    Stored (FullT35Parser.store read set s) (offset + width) (geometryPart.withWindow p w (f g (.ofNat n value))) :=
  h.window geometryPart hread hn hset

theorem Stored.statistics {f : Statistics → BitVec n → Statistics} {st : Statistics}
    (h : Stored s offset (statisticsPart.withWindow p w st)) (hread : Sees read width offset value) (hn : n ≤ 32)
    (hset : ∀ d v, partsOf (set d v) = { partsOf d with statistics := statisticsOf (set d v) } ∧
      statisticsOf (set d v) w = f (statisticsOf d w) v ∧ ∀ u ≠ w, statisticsOf (set d v) u = statisticsOf d u := by
        exact fun d v => ⟨rfl, by simp only [statisticsOf, update2, update_self], fun u hu => by
          simp only [statisticsOf, update2, update_of_ne hu]⟩) :
    Stored (FullT35Parser.store read set s) (offset + width) (statisticsPart.withWindow p w (f st (.ofNat n value))) :=
  h.window statisticsPart hread hn hset

theorem Stored.tone {f : WindowTone → BitVec n → WindowTone} {tone : WindowTone}
    (h : Stored s offset (tonePart.withWindow p w tone)) (hread : Sees read width offset value) (hn : n ≤ 32)
    (hset : ∀ d v, partsOf (set d v) = { partsOf d with tone := windowToneOf (set d v) } ∧
      windowToneOf (set d v) w = f (windowToneOf d w) v ∧ ∀ u ≠ w, windowToneOf (set d v) u = windowToneOf d u := by
        exact fun d v => ⟨rfl, by simp only [windowToneOf, update2, update_self], fun u hu => by
          simp only [windowToneOf, update2, update_of_ne hu]⟩) :
    Stored (FullT35Parser.store read set s) (offset + width) (tonePart.withWindow p w (f tone (.ofNat n value))) :=
  h.window tonePart hread hn hset

theorem Stored.get_statistics {st : Statistics} (h : Stored s offset (statisticsPart.withWindow p w st)) :
    statisticsOf s.dest w = st := by
  have hparts := congrArg statisticsPart.get h.parts
  rw [statisticsPart.get_withWindow] at hparts
  exact (congrFun hparts w).trans (update_self _ _ _)

theorem Stored.get_tone {tone : WindowTone} (h : Stored s offset (tonePart.withWindow p w tone)) :
    windowToneOf s.dest w = tone := by
  have hparts := congrArg tonePart.get h.parts
  rw [tonePart.get_withWindow] at hparts
  exact (congrFun hparts w).trans (update_self _ _ _)

end

attribute [local irreducible] FullT35Parser.store

section
variable {src : Buffer} {s s' : FullState} {offset : Nat} {p : Parts}

def geometryAtOffset (src : Buffer) (offset : Nat) : Geometry where
  windowUpperLeftCornerX := .ofNat 16 (fieldAt src offset 16)
  windowUpperLeftCornerY := .ofNat 16 (fieldAt src (offset + 16) 16)
  windowLowerRightCornerX := .ofNat 16 (fieldAt src (offset + 32) 16)
  windowLowerRightCornerY := .ofNat 16 (fieldAt src (offset + 48) 16)
  centerOfEllipseX := .ofNat 16 (fieldAt src (offset + 64) 16)
  centerOfEllipseY := .ofNat 16 (fieldAt src (offset + 80) 16)
  rotationAngle := .ofNat 8 (fieldAt src (offset + 96) 8)
  semimajorAxisInternalEllipse := .ofNat 16 (fieldAt src (offset + 104) 16)
  semimajorAxisExternalEllipse := .ofNat 16 (fieldAt src (offset + 120) 16)
  semiminorAxisExternalEllipse := .ofNat 16 (fieldAt src (offset + 136) 16)
  overlapProcessOption := .ofNat 8 (fieldAt src (offset + 152) 1)

theorem geometryAtOffset_reads (src : Buffer) (offset : Nat) :
    ReadsGeometry src offset (geometryAtOffset src offset) := by
  have h16 (offset : Nat) : (BitVec.ofNat 16 (fieldAt src offset 16)).toNat = fieldAt src offset 16 :=
    toNat_ofNat_fieldAt le_rfl
  exact ⟨h16 _, h16 _, h16 _, h16 _, h16 _, h16 _, toNat_ofNat_fieldAt le_rfl, h16 _, h16 _, h16 _,
    toNat_ofNat_fieldAt (by decide)⟩

theorem parseGeometry_stored (w : Nat) (hs : Stored s offset p) (hphase : offset % 8 = 2 ∨ offset % 8 = 3) :
    Stored (parseGeometry src w s) (offset + geometryWidth)
      (geometryPart.withWindow p w (geometryAtOffset src offset)) := by
  have h16 {k : Nat} (hk : k % 8 = 2 ∨ k % 8 = 3) : Sees (readFull16 src) 16 k (fieldAt src k 16) :=
    readFull16_sees src (by omega)
  have hangle : Sees (readFull8 src) 8 (offset + 16 + 16 + 16 + 16 + 16 + 16) _ := readFull8_sees src (by omega)
  have hwide : 16 ≤ 32 := by decide
  have hnarrow : 8 ≤ 32 := by decide
  have hstart : Stored s offset (geometryPart.withWindow p w (p.geometry w)) :=
    (geometryPart.withWindow_get p w).symm ▸ hs
  have h : Stored (parseGeometry src w s) _ (geometryPart.withWindow p w _) :=
    (((((((((hstart.geometry (f := fun g v => { g with windowUpperLeftCornerX := v }) (h16 hphase) hwide).geometry
      (f := fun g v => { g with windowUpperLeftCornerY := v }) (h16 (by omega)) hwide).geometry
      (f := fun g v => { g with windowLowerRightCornerX := v }) (h16 (by omega)) hwide).geometry
      (f := fun g v => { g with windowLowerRightCornerY := v }) (h16 (by omega)) hwide).geometry
      (f := fun g v => { g with centerOfEllipseX := v }) (h16 (by omega)) hwide).geometry
      (f := fun g v => { g with centerOfEllipseY := v }) (h16 (by omega)) hwide).geometry
      (f := fun g v => { g with rotationAngle := v }) hangle hnarrow).geometry
      (f := fun g v => { g with semimajorAxisInternalEllipse := v }) (h16 (by omega)) hwide).geometry
      (f := fun g v => { g with semimajorAxisExternalEllipse := v }) (h16 (by omega)) hwide).geometry
      (f := fun g v => { g with semiminorAxisExternalEllipse := v }) (h16 (by omega)) hwide |>.geometry
      (f := fun g v => { g with overlapProcessOption := v }) (readFullFlag_sees src _) hnarrow
  exact h

theorem parseGeometries_stored (count w : Nat) (hcnt : w + count ≤ 2) (hs : Stored s (geometryAt w) p) :
    ∃ f, Stored (parseGeometries src count w s) (geometryAt (w + count)) { p with geometry := f } ∧
      (∀ v < w, f v = p.geometry v) ∧ ∀ v, w ≤ v → v < w + count → f v = geometryAtOffset src (geometryAt v) := by
  induction count generalizing w s p with
  | zero => exact ⟨p.geometry, hs, fun _ _ => rfl, fun v hle hlt => absurd hlt (by omega)⟩
  | succ count ih =>
    have hoff (w : Nat) : geometryAt w = 58 + 153 * w := rfl
    have hphase : geometryAt w % 8 = 2 ∨ geometryAt w % 8 = 3 := by
      have hw : w < 2 := by omega
      interval_cases w <;> decide
    have hwin := @parseGeometry_stored src s _ p w hs hphase
    have hnext : geometryAt w + geometryWidth = geometryAt (w + 1) := by
      rw [hoff, hoff, Nat.mul_succ]
      rfl
    rw [hnext] at hwin
    obtain ⟨f, hstored, hfront, hbehind⟩ := ih (w + 1) (by omega) hwin
    have hlast : w + 1 + count = w + (count + 1) := by omega
    rw [hlast] at hstored
    refine ⟨f, hstored, fun v hv => ?_, fun v hle hlt => ?_⟩
    · rw [hfront v (by omega)]
      exact update_of_ne hv.ne _ _
    · rcases eq_or_lt_of_le hle with rfl | hlt'
      · rw [hfront w (by omega)]
        exact update_self _ _ _
      · exact hbehind v hlt' (by omega)

theorem bind_ok {D S : Type} {x : Except D S} {f : S → Except D S} {s' : S} (h : x >>= f = .ok s') :
    ∃ s, x = .ok s ∧ f s = .ok s' := by
  cases x with
  | error e => cases h
  | ok s => exact ⟨s, rfl, h⟩

theorem parseMaximumLuminance_stored (hs : Stored s offset p) (hphase : 1 ≤ offset % 8 ∧ offset % 8 ≤ 5)
    (h : parseMaximumLuminance src s = .ok s') :
    Stored s' (offset + 27) { p with maximumLuminance := .ofNat 32 (fieldAt src offset 27) } := by
  have hstored : Stored (store (readFull27 src) (fun d v => { d with targetedSystemDisplayMaximumLuminance := v }) s)
    (offset + 27)
      { p with maximumLuminance := .ofNat 32 (fieldAt src offset 27) } :=
    hs.store (readFull27_sees src hphase) le_rfl fun d hd => by rw [← hd]; rfl
  simp only [parseMaximumLuminance] at h
  split_ifs at h
  cases h
  exact hstored

structure TablePart (t : TableField) where
  get : Parts → PeakLuminance
  set : Parts → PeakLuminance → Parts
  get_partsOf : ∀ d, get (partsOf d) = t.get d
  partsOf_set : ∀ d table, partsOf (t.set d table) = set (partsOf d) table
  get_set : ∀ p table, get (set p table) = table
  set_set : ∀ p table table', set (set p table) table' = set p table'

def targetedPart : TablePart targetedField :=
  ⟨Parts.targetedSystemDisplay, fun p table => { p with targetedSystemDisplay := table }, fun _ => rfl, fun _ _ => rfl,
    fun _ _ => rfl, fun _ _ _ => rfl⟩

def masteringPart : TablePart masteringField :=
  ⟨Parts.masteringDisplay, fun p table => { p with masteringDisplay := table }, fun _ => rfl, fun _ _ => rfl, fun _ _ =>
    rfl, fun _ _ _ => rfl⟩

section
variable {t : TableField} (part : TablePart t)

theorem Stored.table {n width value : Nat} {read : FullState → U32 × FullState} {f : PeakLuminance → BitVec n →
    PeakLuminance}
    {table : PeakLuminance} (h : Stored s offset (part.set p table)) (hread : Sees read width offset value)
      (hn : n ≤ 32) :
    Stored (FullT35Parser.store read (fun d v => t.set d (f (t.get d) v)) s) (offset + width)
      (part.set p (f table (.ofNat n value))) := by
  refine h.store hread hn fun d hd => ?_
  rw [part.partsOf_set, ← part.get_partsOf, hd, part.get_set, part.set_set]

variable {table : PeakLuminance}

theorem parseRow_stored (i count j : Nat) (hs : Stored s offset (part.set p table)) :
    ∃ row, Stored (parseRow src t i count j s) (offset + 4 * count)
        (part.set p { table with luminance := update table.luminance i row }) ∧
      (∀ k < j, row k = table.luminance i k) ∧ ∀ k < count, row (j + k) =
        .ofNat 8 (fieldAt src (offset + 4 * k) 4) := by
  induction count generalizing j s offset table with
  | zero =>
    rw [parseRow]
    refine ⟨table.luminance i, ?_, fun _ _ => rfl, fun k hk => absurd hk (Nat.not_lt_zero k)⟩
    rw [Function.update_eq_self]
    exact hs
  | succ count ih =>
    have hcell := hs.table part (f := fun table v => { table with
      luminance := update table.luminance i (update (table.luminance i) j v) }) (readFull4_sees src offset) (by decide)
    obtain ⟨row, hrow, hfront, hbehind⟩ := ih (j + 1) hcell
    have hnext : offset + 4 + 4 * count = offset + 4 * (count + 1) := by omega
    simp only [update_self, Function.update_idem, hnext] at hrow hfront
    refine ⟨row, hrow, fun k hk => ?_, fun k hk => ?_⟩
    · rw [hfront k (by omega), update_of_ne (by omega)]
    · rcases Nat.eq_zero_or_pos k with rfl | hpos
      · rw [Nat.add_zero, hfront j (by omega), update_self]
        rfl
      · have hcell := hbehind (k - 1) (by omega)
        have hcol : j + 1 + (k - 1) = j + k := by omega
        have hoff : offset + 4 + 4 * (k - 1) = offset + 4 * k := by omega
        rwa [hcol, hoff] at hcell

theorem parseRows_stored (cols count i : Nat) (hs : Stored s offset (part.set p table)) :
    ∃ cells, Stored (parseRows src t cols count i s) (offset + 4 * (count * cols))
      (part.set p { table with luminance := cells }) ∧
      (∀ k < i, cells k = table.luminance k) ∧
      ∀ k < count, ∀ j < cols, cells (i + k) j = .ofNat 8 (fieldAt src (offset + 4 * (k * cols + j)) 4) := by
  induction count generalizing i s offset table with
  | zero =>
    rw [parseRows, Nat.zero_mul]
    exact ⟨table.luminance, hs, fun _ _ => rfl, fun k hk => absurd hk (Nat.not_lt_zero k)⟩
  | succ count ih =>
    obtain ⟨row, hrow, -, hcells⟩ := @parseRow_stored src _ _ _ _ part table i cols 0 hs
    obtain ⟨cells, hstored, hfront, hbehind⟩ := ih (i + 1) hrow
    have hend : offset + 4 * cols + 4 * (count * cols) = offset + 4 * ((count + 1) * cols) := by
      rw [Nat.succ_mul count cols]
      omega
    rw [hend] at hstored
    refine ⟨cells, hstored, fun k hk => ?_, fun k hk j hj => ?_⟩
    · rw [hfront k (by omega)]
      exact update_of_ne hk.ne _ _
    · rcases Nat.eq_zero_or_pos k with rfl | hpos
      · have hcell := hcells j hj
        rw [Nat.zero_add] at hcell
        rw [Nat.add_zero, hfront i (by omega), Nat.zero_mul, Nat.zero_add, ← hcell]
        exact congrFun (update_self _ _ _) j
      · have hcell := hbehind (k - 1) (by omega) j hj
        have hrowIdx : i + 1 + (k - 1) = i + k := by omega
        obtain ⟨k, rfl⟩ : ∃ n, k = n + 1 := ⟨k - 1, by omega⟩
        have hoff : offset + 4 * cols + 4 * (k * cols + j) = offset + 4 * ((k + 1) * cols + j) := by
          rw [Nat.succ_mul k cols]
          omega
        rw [hrowIdx, Nat.add_sub_cancel, hoff] at hcell
        exact hcell

theorem Stored.get_table (h : Stored s offset (part.set p table)) : t.get s.dest = table := by
  rw [← part.get_partsOf, h.parts, part.get_set]

theorem parsePeakLuminance_stored (hs : Stored s offset p) (hself : part.set p (part.get p) = p)
    (h : FullT35Parser.parsePeakLuminance src t s = .ok s') :
    ∃ table, Stored s' (offset + tableWidth src offset) (part.set p table) ∧ ReadsTable src offset table := by
  have hstart : Stored s offset (part.set p (part.get p)) := hself.symm ▸ hs
  have hflag := hstart.table part (f := fun table v => { table with flag := v }) (readFullFlag_sees src offset)
    (by decide)
  have hrows := hflag.table part (f := fun table v => { table with numRows := v }) (readFull5_sees src (offset + 1))
    (by decide)
  have hcols := hrows.table part (f := fun table v => { table with numCols := v }) (readFull5_sees src (offset + 1 + 5))
    (by decide)
  have hfive (offset : Nat) : (BitVec.ofNat 8 (fieldAt src offset 5)).toNat = fieldAt src offset 5 :=
    toNat_ofNat_fieldAt (by decide)
  simp only [FullT35Parser.parsePeakLuminance, hflag.get_table part, hrows.get_table part, hcols.get_table part,
    hfive] at h
  have hsingle : (BitVec.ofNat 8 (fieldAt src offset 1)).toNat = fieldAt src offset 1 := toNat_ofNat_fieldAt (by decide)
  rw [tableWidth, tableCells]
  rcases fieldAt_one_cases src offset with hzero | hone
  · have hclear : ¬ (BitVec.ofNat 8 (fieldAt src offset 1)) ≠ 0 := by rw [hzero]; decide
    rw [if_neg hclear] at h
    cases h
    have hunset : fieldAt src offset 1 ≠ 1 := by omega
    rw [if_neg hunset]
    exact ⟨_, hflag, hsingle, fun h => absurd h hunset, fun h => absurd h hunset, fun h => absurd h hunset⟩
  · have hset : (BitVec.ofNat 8 (fieldAt src offset 1)) ≠ 0 := by rw [hone]; decide
    rw [if_pos hset] at h
    split_ifs at h
    cases h
    obtain ⟨cells, hstored, -, hcells⟩ :=
      @parseRows_stored src _ _ _ _ part _ (fieldAt src (offset + 6) 5) (fieldAt src (offset + 1) 5) 0 hcols
    have hend : offset + 1 + 5 + 5 + 4 * (fieldAt src (offset + 1) 5 * fieldAt src (offset + 6) 5) =
        offset + (1 + 5 + 5 + 4 * (fieldAt src (offset + 1) 5 * fieldAt src (offset + 6) 5)) := by omega
    rw [hend] at hstored
    rw [if_pos hone]
    refine ⟨_, hstored, hsingle, fun _ => hfive _, fun _ => hfive _, fun _ i hi j hj => ?_⟩
    have hcell := hcells i hi j hj
    rw [Nat.zero_add] at hcell
    exact (congrArg BitVec.toNat hcell).trans (toNat_ofNat_fieldAt (by decide))

end

section
variable {w : Nat} {st : Statistics}

theorem parseMaxscl_stored (base count i : Nat) (hs : Stored s offset (statisticsPart.withWindow p w st))
    (hoff : offset = base + 17 * i) :
    Stored (FullT35Parser.parseMaxscl src w count i s) (offset + 17 * count) (statisticsPart.withWindow p w { st with
      maxscl := overwrite st.maxscl (fun j => .ofNat 32 (fieldAt src (base + 17 * j) 17)) i count }) := by
  induction count generalizing i s offset st with
  | zero =>
    rw [overwrite_zero]
    exact hs
  | succ count ih =>
    subst hoff
    have hend : base + 17 * i + 17 * (count + 1) = base + 17 * i + 17 + 17 * count := by omega
    rw [FullT35Parser.parseMaxscl, hend, ← overwrite_update]
    exact ih (i + 1) (hs.statistics (f := fun st v => { st with maxscl := update st.maxscl i v })
      (readFull17_sees src (base + 17 * i)) le_rfl) (by omega)

theorem parsePercentiles_stored (base count i : Nat) (hs : Stored s offset (statisticsPart.withWindow p w st))
    (hoff : offset = base + 24 * i) :
    Stored (FullT35Parser.parsePercentiles src w count i s) (offset + 24 * count)
      (statisticsPart.withWindow p w { st with
      maxrgbPercentages := overwrite st.maxrgbPercentages (fun j => .ofNat 8 (fieldAt src (base + 24 * j) 7)) i count
      maxrgbPercentiles := overwrite st.maxrgbPercentiles (fun j => .ofNat 32 (fieldAt src (base + 24 * j + 7) 17)) i
        count }) := by
  induction count generalizing i s offset st with
  | zero =>
    rw [overwrite_zero, overwrite_zero]
    exact hs
  | succ count ih =>
    subst hoff
    have hend : base + 24 * i + 24 * (count + 1) = base + 24 * i + 7 + 17 + 24 * count := by omega
    rw [FullT35Parser.parsePercentiles, hend, ← overwrite_update, ← overwrite_update]
    exact ih (i + 1) ((hs.statistics (f := fun st v => { st with maxrgbPercentages := update st.maxrgbPercentages i v })
      (readFull7_sees src (base + 24 * i)) (by decide)).statistics
        (f := fun st v => { st with maxrgbPercentiles := update st.maxrgbPercentiles i v })
        (readFull17_sees src (base + 24 * i + 7)) le_rfl) (by omega)

theorem parseFraction_stored (hs : Stored s offset (statisticsPart.withWindow p w st)) :
    Stored (store (readFraction src) (fun d v => { d with fractionBrightPixels := update d.fractionBrightPixels w v })
        (FullT35Parser.parsePercentiles src w (s.dest.numMaxrgbPercentiles w).toNat 0 s))
      (offset + 24 * st.numMaxrgbPercentiles.toNat + 10) (statisticsPart.withWindow p w { st with
        maxrgbPercentages :=
          overwrite st.maxrgbPercentages (fun j => .ofNat 8 (fieldAt src (offset + 24 * j) 7)) 0
            st.numMaxrgbPercentiles.toNat
        maxrgbPercentiles :=
          overwrite st.maxrgbPercentiles (fun j => .ofNat 32 (fieldAt src (offset + 24 * j + 7) 17)) 0
          st.numMaxrgbPercentiles.toNat
        fractionBrightPixels := .ofNat 16 (wideFraction src (offset + 24 * st.numMaxrgbPercentiles.toNat)) }) := by
  have hnum : s.dest.numMaxrgbPercentiles w = st.numMaxrgbPercentiles :=
    congrArg Statistics.numMaxrgbPercentiles hs.get_statistics
  rw [hnum]
  exact (parsePercentiles_stored offset st.numMaxrgbPercentiles.toNat 0 hs rfl).statistics
    (f := fun st v => { st with fractionBrightPixels := v }) (readFraction_sees src _) (by decide)

theorem parseWindowStatistics_stored (w : Nat) (hs : Stored s offset p) :
    ∃ st, Stored (FullT35Parser.parseWindowStatistics src w s) (afterStatistics src offset)
      (statisticsPart.withWindow p w st) ∧
      ReadsLists src offset st ∧ st.fractionBrightPixels.toNat = seenFraction src (fractionAt src offset) := by
  have hstart : Stored s offset (statisticsPart.withWindow p w (p.statistics w)) :=
    (statisticsPart.withWindow_get p w).symm ▸ hs
  have hmaxscl := @parseMaxscl_stored src _ _ _ _ _ offset 3 0 hstart rfl
  have havg : Stored (store (readFull17 src) (fun d v => { d with averageMaxrgb := update d.averageMaxrgb w v }) _) _
      _ :=
    hmaxscl.statistics (f := fun st v => { st with averageMaxrgb := v }) (readFull17_sees src _) le_rfl
  have hcnt : Stored
      (store (readFull4 src) (fun d v => { d with numMaxrgbPercentiles := update d.numMaxrgbPercentiles w v }) _) _ _ :=
    havg.statistics (f := fun st v => { st with numMaxrgbPercentiles := v }) (readFull4_sees src _) (by decide)
  have hall := @parseFraction_stored src _ _ _ _ _ hcnt
  have hnum : (BitVec.ofNat 8 (fieldAt src (offset + 17 * 3 + 17) 4)).toNat = percentilesOf src offset :=
    toNat_ofNat_fieldAt (by decide)
  have hend : offset + 17 * 3 + 17 + 4 + 24 * percentilesOf src offset + 10 = afterStatistics src offset := by
    rw [afterStatistics, statisticsWidth, percentilesOf]
    omega
  simp only [hnum, hend] at hall
  refine ⟨_, hall, ⟨fun i hi => ?_, toNat_ofNat_fieldAt (by decide), hnum, fun i hi => ?_, fun i hi => ?_⟩,
    wideFraction_mod src _⟩
  iterate 3 exact (congrArg BitVec.toNat (overwrite_of_lt _ _ _ i hi)).trans (toNat_ofNat_fieldAt (by decide))

theorem parseStatistics_stored (windows count w : Nat) (hs : Stored s (statisticsAt src windows w) p) :
    ∃ f, Stored (FullT35Parser.parseStatistics src count w s) (statisticsAt src windows (w + count))
      { p with statistics := f } ∧
      (∀ v < w, f v = p.statistics v) ∧ ∀ v, w ≤ v → v < w + count → ReadsLists src (statisticsAt src windows v) (f v) ∧
        (f v).fractionBrightPixels.toNat = seenFraction src (fractionAt src (statisticsAt src windows v)) := by
  induction count generalizing w s p with
  | zero => exact ⟨p.statistics, hs, fun _ _ => rfl, fun v hle hlt => absurd hlt (by omega)⟩
  | succ count ih =>
    obtain ⟨st, hwin, hlists, hfrac⟩ := @parseWindowStatistics_stored src _ _ _ w hs
    have hnext : statisticsAt src windows (w + 1) = afterStatistics src (statisticsAt src windows w) :=
      Function.iterate_succ_apply' _ _ _
    rw [← hnext] at hwin
    obtain ⟨f, hstored, hfront, hbehind⟩ := ih (w + 1) hwin
    have hlast : w + 1 + count = w + (count + 1) := by omega
    rw [hlast] at hstored
    refine ⟨f, hstored, fun v hv => ?_, fun v hle hlt => ?_⟩
    · rw [hfront v (by omega)]
      exact update_of_ne hv.ne _ _
    · rcases eq_or_lt_of_le hle with rfl | hlt'
      · have hself : f w = st := (hfront w (by omega)).trans (update_self _ _ _)
        rw [hself]
        exact ⟨hlists, hfrac⟩
      · exact hbehind v hlt' (by omega)

end

end

end ExynosHal.VideoApi.FullT35Reads
