import ExynosHal.VideoApi.FullT35Parser
import ExynosHal.VideoApi.FullT35WriterFrame
import ExynosHal.VideoApi.T35Exact
import ExynosHal.VideoApi.T35ParserCorrect

/-! # The header of a T.35 payload, written and parsed

Both builds write the header alike and parse it alike.
-/

namespace ExynosHal.VideoApi.HeaderRoundTrip
open Library.BitString Library.BitBuffer HdrData FullHdr T35Writer T35WriterCorrect T35WriterFrame T35Parser
  T35ParserCorrect
open FullT35Writer (putNumWindows putCurve exynosDynamicMetaToItuTT35)

structure Header where
  countryCode : U8
  providerCode : U16
  providerOrientedCode : U16
  applicationIdentifier : U8
  applicationVersion : U8

def headerOf (d : ExynosHdrData) : Header :=
  ⟨d.countryCode, d.providerCode, d.providerOrientedCode, d.applicationIdentifier, d.applicationVersion⟩

def fullHeaderOf (d : FullHdrData) : Header :=
  ⟨d.countryCode, d.providerCode, d.providerOrientedCode, d.applicationIdentifier, d.applicationVersion⟩

def Header.bits (h : Header) : List Bool :=
  toBits 8 h.countryCode.toNat ++ toBits 16 h.providerCode.toNat ++ toBits 16 h.providerOrientedCode.toNat ++
    toBits 8 h.applicationIdentifier.toNat ++ toBits 8 h.applicationVersion.toNat

theorem length_bits (h : Header) : h.bits.length = 56 := by simp [Header.bits]

def Grows (s s' : WriterState) : Prop := ∃ count, Extends count s s'

theorem Grows.trans {s s' s'' : WriterState} (h : Grows s s') (h' : Grows s' s'') : Grows s s'' := by
  obtain ⟨_, h⟩ := h
  obtain ⟨_, h'⟩ := h'
  exact ⟨_, h.trans h'⟩

variable {s s' : WriterState}

theorem Grows.extraBit (h : Grows s s') : s'.extraBit = s'.bitOffset % 8 := by
  obtain ⟨_, h⟩ := h
  exact h.extraBit

theorem Grows.ahead {bits : List Bool} (h : Grows s s') (hs : Writes s bits) : Ahead s'.pBlob 0 bits := by
  obtain ⟨_, h⟩ := h
  intro n hn
  rw [Nat.zero_add, h.kept n (by rw [hs.bitOffset]; exact hn)]
  exact hs.holds n

theorem writes_empty : Writes { pBlob := fun _ => 0, bitOffset := 0, extraBit := 0 } [] := ⟨holds_zero, rfl, rfl⟩

section
variable {s : WriterState} (d : ExynosHdrData)

theorem putMaxscl_grows (count i : Nat) (hs : s.extraBit = s.bitOffset % 8) :
    Grows s (T35Writer.putMaxscl d count i s) :=
  ⟨_, loop_extends (fun i s => putBits17 (d.maxscl i) s) 17 (T35Writer.putMaxscl d) (fun _ _ => rfl) (fun _ _ _ => rfl)
    (fun _ _ hs => putBits17_extends _ hs) count i s hs⟩

theorem putPercentiles_grows (count i : Nat) (hs : s.extraBit = s.bitOffset % 8) :
    Grows s (T35Writer.putPercentiles d count i s) :=
  ⟨_, loop_extends (fun i s => putBits17 (d.maxrgbPercentiles i) (putMaxrgbPercentage (d.maxrgbPercentages i) s)) 24
    (T35Writer.putPercentiles d) (fun _ _ => rfl) (fun _ _ _ => rfl)
    (fun _ _ hs => (putMaxrgbPercentage_extends _ hs).trans
      (putBits17_extends _ (putMaxrgbPercentage_extends _ hs).extraBit)) count i s hs⟩

variable (t : ToneMapping)

theorem putAnchors_grows (count i : Nat) (hs : s.extraBit = s.bitOffset % 8) :
    Grows s (T35Writer.putAnchors t count i s) :=
  ⟨_, loop_extends (fun i s => putBezierCurveAnchor (t.bezierCurveAnchors i) s) 10 (T35Writer.putAnchors t)
    (fun _ _ => rfl)
    (fun _ _ _ => rfl) (fun _ _ hs => putBezierCurveAnchor_extends _ hs) count i s hs⟩

theorem putCurve_grows (hs : s.extraBit = s.bitOffset % 8) : Grows s (T35Writer.putCurve t s) := by
  rw [T35Writer.putCurve]
  split_ifs
  · have hx := putKneePoint_extends t.kneePointX hs
    have hy := putKneePoint_extends t.kneePointY hx.extraBit
    have hnum := putNumBezierCurveAnchors_extends t.numBezierCurveAnchors hy.extraBit
    exact Grows.trans ⟨_, (hx.trans hy).trans hnum⟩ (putAnchors_grows t _ 0 hnum.extraBit)
  · exact ⟨0, extends_refl hs⟩

theorem putT35Body_grows (hoff : s.bitOffset % 8 = 0) : Grows s (putT35Body d s) := by
  have hwins : Extends 2 s (T35Writer.putNumWindows s) := putTwoBits_extends 0x40 hoff
  have hnext := hwins.bitOffset
  have hlum : Extends 27 (T35Writer.putNumWindows s) (putDisplayMaximumLuminance d (T35Writer.putNumWindows s)) :=
    putField_extends _ hwins.extraBit (by omega) (by omega) (by decide)
  have h := Grows.trans ⟨_, hwins.trans hlum⟩ ⟨_, skip_extends 1 _⟩
  have h := h.trans (putMaxscl_grows d 3 0 h.extraBit)
  have h := h.trans ⟨_, skip_extends 17 _⟩
  have h := h.trans ⟨_, putNumMaxrgbPercentiles_extends d h.extraBit⟩
  have h := h.trans (putPercentiles_grows d d.numMaxrgbPercentiles.toNat 0 h.extraBit)
  have h := h.trans ⟨_, skip_extends 10 _⟩
  have h := h.trans ⟨_, skip_extends 1 _⟩
  have h := h.trans ⟨_, putToneMappingFlag_extends d.toneMapping h.extraBit⟩
  have h := h.trans (putCurve_grows d.toneMapping h.extraBit)
  exact h.trans ⟨_, skip_extends 1 _⟩

theorem exynosDynamicMetaToItuTT35_ahead : Ahead (exynosDynamicMetaToItuTT35 d fun _ => 0).2 0 (headerOf d).bits := by
  have hhdr := putT35Header_writes (d := d) writes_empty
  have hextra := hhdr.extraBit
  have hoff := hhdr.bitOffset
  rw [← hoff] at hextra
  rw [length_headerBits] at hoff
  exact (putT35Body_grows d (by omega)).ahead hhdr

end

section

open FullT35Writer FullT35WriterFrame

variable {s s' : WriterState} (negativeShift : NegativeShift)

theorem putStatistics_grows (d : FullHdrData) (count w : Nat) (hs : s.extraBit = s.bitOffset % 8) :
    Grows s (putStatistics negativeShift d count w s) := by
  induction count generalizing w s with
  | zero => exact ⟨0, extends_refl hs⟩
  | succ count ih =>
    have hwin := putWindowStatistics_extends negativeShift d w hs
    exact Grows.trans ⟨_, hwin⟩ (ih (w + 1) hwin.extraBit)

variable {d : FullHdrData} {fuel i : Nat}

theorem putToneMappings_grows (hs : s.extraBit = s.bitOffset % 8)
    (h : putToneMappings d fuel i s = some s') : Grows s s' := by
  induction fuel generalizing i s with
  | zero => cases h
  | succ fuel ih =>
    rw [putToneMappings] at h
    split_ifs at h
    · have hcurve := putCurve_extends d.toneMapping i hs
      have hwin := hcurve.trans (putColorSaturation_extends d i hcurve.extraBit)
      exact Grows.trans ⟨_, hwin⟩ (ih hwin.extraBit h)
    · cases h
      exact ⟨0, extends_refl hs⟩

theorem putFullFront_grows (d : FullHdrData) (hoff : s.bitOffset = 56) : Grows s (putFullFront negativeShift d s) := by
  have hwins : Extends 2 s (putNumWindows d s) := putTwoBits_extends _ (by omega)
  have hgeom := hwins.trans (putGeometries_extends d (d.numWindows.toNat - 1) 0 hwins.extraBit)
  have hnext := hgeom.bitOffset
  have hlum : Extends 27 _ (putMaximumLuminance d (putGeometries d (d.numWindows.toNat - 1) 0 (putNumWindows d s))) :=
    putField_extends _ hgeom.extraBit (by omega) (by omega) (by decide)
  have hfront := hgeom.trans hlum
  have htargeted := hfront.trans (putPeakLuminance_extends d.targetedSystemDisplay hfront.extraBit)
  have h := Grows.trans ⟨_, htargeted⟩ (putStatistics_grows negativeShift d d.numWindows.toNat 0 htargeted.extraBit)
  exact h.trans ⟨_, putPeakLuminance_extends d.masteringDisplay h.extraBit⟩

theorem putFullBody_grows {negativeShift : NegativeShift} (hoff : s.bitOffset = 56)
    (h : putFullBody negativeShift fuel d s = some s') : Grows s s' := by
  have hfront := putFullFront_grows negativeShift d hoff
  exact hfront.trans (putToneMappings_grows hfront.extraBit h)

theorem putToneMappings_end (hfuel : 0 < fuel) (hi : d.numWindows.toNat ≤ i) : putToneMappings d fuel i s = some s := by
  obtain ⟨fuel, rfl⟩ : ∃ n, fuel = n + 1 := ⟨fuel - 1, by omega⟩
  rw [putToneMappings, if_neg (by omega)]

theorem putToneMappings_step (hi : i < d.numWindows.toNat) :
    putToneMappings d (fuel + 1) i s = putToneMappings d fuel ((putColorSaturation d i (putCurve d.toneMapping i s)).1 +
      1) (putColorSaturation d i (putCurve d.toneMapping i s)).2 := by
  rw [putToneMappings, if_pos hi]

theorem putToneMappings_third (rounds : Nat) (hs : s.extraBit = s.bitOffset % 8)
    (hphase : (s.bitOffset + curveWidth d.toneMapping 2 + 1 + rounds * (curveWidth d.toneMapping 2 + 6)) % 8 > 3)
    (hfuel : rounds + 2 ≤ fuel) (hwins : d.numWindows.toNat ≤ 3) : ∃ s', putToneMappings d fuel 2 s = some s' := by
  induction rounds generalizing s fuel with
  | zero =>
    obtain ⟨fuel, rfl⟩ : ∃ n, fuel = n + 1 := ⟨fuel - 1, by omega⟩
    rcases Nat.lt_or_ge 2 d.numWindows.toNat with hthird | hend
    · have hcurve := putCurve_extends d.toneMapping 2 hs
      rw [putToneMappings_step hthird]
      refine ⟨_, putToneMappings_end (by omega) ?_⟩
      rcases em (d.colorSaturationMappingFlag 2 ≠ 0) with hset | hclear
      · rw [putColorSaturation_next hset hcurve.extraBit, hcurve.bitOffset, if_pos (by omega)]
        exact hwins
      · rw [putColorSaturation_clear _ hclear]
        exact hwins
    · exact ⟨s, putToneMappings_end (by omega) hend⟩
  | succ rounds ih =>
    obtain ⟨fuel, rfl⟩ : ∃ n, fuel = n + 1 := ⟨fuel - 1, by omega⟩
    rcases Nat.lt_or_ge 2 d.numWindows.toNat with hthird | hend
    · have hcurve := putCurve_extends d.toneMapping 2 hs
      rw [putToneMappings_step hthird]
      rcases em (d.colorSaturationMappingFlag 2 ≠ 0) with hset | hclear
      · have hnext := putColorSaturation_next hset hcurve.extraBit
        have hsat := putColorSaturation_extends d 2 hcurve.extraBit
        have hoff := hsat.bitOffset
        rw [hcurve.bitOffset, saturationWidth, if_pos hset] at hoff
        rw [hnext]
        split_ifs
        · exact ⟨_, putToneMappings_end (by omega) (by omega)⟩
        · refine ih hsat.extraBit ?_ (by omega)
          rw [hoff]
          rw [Nat.succ_mul] at hphase
          convert hphase using 2
          omega
      · rw [putColorSaturation_clear _ hclear]
        exact ⟨_, putToneMappings_end (by omega) hwins⟩
    · exact ⟨s, putToneMappings_end (by omega) hend⟩

theorem curveWidth_odd (t : FullToneMapping) (w : Nat) : curveWidth t w % 2 = 1 := by
  rw [curveWidth]
  split_ifs <;> omega

theorem phase_met (offset step : Nat) (hodd : step % 2 = 1) : ∃ rounds < 8, (offset + rounds * step) % 8 > 3 := by
  have hall : ∀ a < 8, ∀ b < 8, b % 2 = 1 → ∃ rounds < 8, (a + rounds * b) % 8 > 3 := by decide
  obtain ⟨rounds, hrounds, hphase⟩ := hall (offset % 8) (by omega) (step % 8) (by omega) (by omega)
  refine ⟨rounds, hrounds, ?_⟩
  rwa [Nat.add_mod, Nat.mul_mod, Nat.mod_mod, Nat.mod_mod, ← Nat.mul_mod, ← Nat.add_mod] at hphase

theorem putToneMappings_returns_third (hs : s.extraBit = s.bitOffset % 8) (hwins : d.numWindows.toNat ≤ 3)
    (hfuel : 10 ≤ fuel) : ∃ s', putToneMappings d fuel 2 s = some s' := by
  obtain ⟨rounds, hrounds, hphase⟩ :=
    phase_met (s.bitOffset + curveWidth d.toneMapping 2 + 1) (curveWidth d.toneMapping 2 + 6)
    (by have hodd := curveWidth_odd d.toneMapping 2; omega)
  exact putToneMappings_third rounds hs hphase (by omega) hwins

theorem putToneMappings_returns_step (hs : s.extraBit = s.bitOffset % 8) (hwins : d.numWindows.toNat ≤ 3)
    (hfuel : 10 ≤ fuel)
    (hnext : ∀ s : WriterState, s.extraBit = s.bitOffset % 8 → ∃ s', putToneMappings d fuel (i + 1) s = some s') :
    ∃ s', putToneMappings d (fuel + 1) i s = some s' := by
  rcases Nat.lt_or_ge i d.numWindows.toNat with hi | hend
  · have hcurve := putCurve_extends d.toneMapping i hs
    have hsat := putColorSaturation_extends d i hcurve.extraBit
    rw [putToneMappings_step hi]
    rcases em (d.colorSaturationMappingFlag i ≠ 0) with hset | hclear
    · rw [putColorSaturation_next hset hcurve.extraBit]
      split_ifs
      · exact ⟨_, putToneMappings_end (by omega) hwins⟩
      · exact putToneMappings_returns_third hsat.extraBit hwins hfuel
    · rw [putColorSaturation_clear _ hclear] at hsat ⊢
      exact hnext _ hsat.extraBit
  · exact ⟨s, putToneMappings_end (by omega) hend⟩

theorem putFullHeader_writes (d : FullHdrData) (hs : Writes s []) : Writes (putFullHeader d s) (fullHeaderOf d).bits :=
  putT35Header_writes (d := { T35Exact.emptyHdrData with
    countryCode := d.countryCode, providerCode := d.providerCode, providerOrientedCode := d.providerOrientedCode,
    applicationIdentifier := d.applicationIdentifier, applicationVersion := d.applicationVersion }) hs

theorem writeFull_returns (hwins : d.numWindows.toNat ≤ 3) :
    ∃ s, writeFull negativeShift 12 d (fun _ => 0) = some s := by
  have hhdr := putFullHeader_writes d writes_empty
  have hoff := hhdr.bitOffset
  rw [length_bits] at hoff
  have hfront := putFullFront_grows negativeShift d hoff
  rw [writeFull, putFullBody]
  refine putToneMappings_returns_step hfront.extraBit hwins (by decide) fun s hs => ?_
  refine putToneMappings_returns_step hs hwins (by decide) fun s hs => ?_
  exact putToneMappings_returns_third hs hwins (by decide)

theorem writeFull_ahead {negativeShift : NegativeShift} (h : writeFull negativeShift fuel d (fun _ => 0) = some s) :
    Ahead s.pBlob 0 (fullHeaderOf d).bits := by
  have hhdr := putFullHeader_writes d writes_empty
  have hoff := hhdr.bitOffset
  rw [length_bits] at hoff
  exact (putFullBody_grows hoff h).ahead hhdr

end

variable (byte : Byte)

theorem orByte_eq (data : U32) : orByte byte data = data ||| byte.setWidth 32 := by
  have hzero := orByte_zero byte
  apply BitVec.eq_of_getLsbD_eq
  intro i hi
  have hbit := congrArg (fun v => v.getLsbD i) hzero
  simp only [orByte, List.range_succ, List.range_zero, List.nil_append, List.cons_append, List.foldl_cons,
    List.foldl_nil, BitVec.getLsbD_or] at hbit ⊢
  rw [← hbit]
  simp [Bool.or_assoc]

def parsedCode (src : Buffer) (i : Nat) : U16 := ((src i).setWidth 32 ||| (src (i + 1)).setWidth 32).setWidth 16

def parsedHeader (src : Buffer) : Header := ⟨src 0, parsedCode src 1, parsedCode src 3, src 5, src 6⟩

theorem orByte_single : (orByte byte 0).setWidth 8 = byte := by
  rw [orByte_zero, BitVec.setWidth_setWidth_of_le _ (by decide), BitVec.setWidth_eq]

variable (src : Buffer)

theorem orByte_pair (i : Nat) : (orByte (src (i + 1)) (orByte (src i) 0)).setWidth 16 = parsedCode src i := by
  rw [orByte_eq (src (i + 1)), orByte_zero, parsedCode]

theorem headerOf_parseHeader (dest : ExynosHdrData) :
    headerOf (parseHeader src { dest, bitOffset := 0, extraBit := 0 }).dest = parsedHeader src := by
  have hrange : List.range 2 = [0, 1] := rfl
  simp only [headerOf, parseHeader, readHeader, List.range_one, hrange, List.foldl_cons, List.foldl_nil, orByte_single]
  exact congrArg₂ (fun a b => Header.mk (src 0) a b (src 5) (src 6)) (orByte_pair src 1) (orByte_pair src 3)

theorem fullHeaderOf_parseFullHeader (dest : FullHdrData) :
    fullHeaderOf (FullT35Parser.parseFullHeader src { dest, bitOffset := 0, extraBit := 0 }).dest =
      parsedHeader src := by
  have hrange : List.range 2 = [0, 1] := rfl
  simp only [fullHeaderOf, FullT35Parser.parseFullHeader, FullT35Parser.readFullHeader, List.range_one, hrange,
    List.foldl_cons, List.foldl_nil, orByte_single]
  exact congrArg₂ (fun a b => Header.mk (src 0) a b (src 5) (src 6)) (orByte_pair src 1) (orByte_pair src 3)

variable {src : Buffer}

theorem parsedCode_eq_iff {i : Nat} {code : U16} (hhigh : (src i).toNat = code.toNat / 2 ^ 8)
    (hlow : (src (i + 1)).toNat = code.toNat % 2 ^ 8) : parsedCode src i = code ↔ code.toNat < 2 ^ 8 := by
  have hval : (parsedCode src i).toNat = (code.toNat / 2 ^ 8) ||| (code.toNat % 2 ^ 8) := by
    have hor : (code.toNat / 2 ^ 8) ||| (code.toNat % 2 ^ 8) < 2 ^ 8 := Nat.or_lt_two_pow (by omega) (by omega)
    rw [parsedCode, BitVec.toNat_setWidth, BitVec.toNat_or, BitVec.toNat_setWidth, BitVec.toNat_setWidth, hhigh, hlow,
      Nat.mod_eq_of_lt (by omega : code.toNat / 2 ^ 8 < 2 ^ 32),
        Nat.mod_eq_of_lt (by omega : code.toNat % 2 ^ 8 < 2 ^ 32),
      Nat.mod_eq_of_lt (by omega)]
  constructor
  · intro h
    rw [← h, hval]
    exact Nat.or_lt_two_pow (by omega) (by omega)
  · intro hsmall
    apply BitVec.eq_of_toNat_eq
    rw [hval, Nat.div_eq_of_lt hsmall, Nat.mod_eq_of_lt hsmall, Nat.zero_or]

variable {h : Header}

theorem header_bytes (hsrc : Ahead src 0 h.bits) :
    src 0 = h.countryCode ∧ ((src 1).toNat = h.providerCode.toNat / 2 ^ 8 ∧ (src 2).toNat = h.providerCode.toNat % 2 ^
      8) ∧
      ((src 3).toNat = h.providerOrientedCode.toNat / 2 ^ 8 ∧ (src 4).toNat = h.providerOrientedCode.toNat % 2 ^ 8) ∧
      src 5 = h.applicationIdentifier ∧ src 6 = h.applicationVersion := by
  have hbyte (i : Nat) : fieldAt src (8 * i) 8 = (src i).toNat := by
    have h := fieldAt_byte src i 0 (by decide)
    rwa [Nat.mod_eq_of_lt (src i).isLt] at h
  have hpair (i : Nat) : fieldAt src (8 * i) 16 = (src i).toNat * 2 ^ 8 + (src (i + 1)).toNat := by
    rw [← hbyte i, ← hbyte (i + 1), Nat.mul_succ]
    exact fieldAt_add src (8 * i) 8 8
  rw [Header.bits, List.append_assoc, List.append_assoc, List.append_assoc,
    ← List.append_nil (toBits 8 h.applicationVersion.toNat)] at hsrc
  obtain ⟨hcountry, hsrc⟩ := hsrc.field h.countryCode.isLt
  obtain ⟨hprovider, hsrc⟩ := hsrc.field h.providerCode.isLt
  obtain ⟨horiented, hsrc⟩ := hsrc.field h.providerOrientedCode.isLt
  obtain ⟨hident, hsrc⟩ := hsrc.field h.applicationIdentifier.isLt
  obtain ⟨hver, -⟩ := hsrc.field h.applicationVersion.isLt
  have h0 : (src 0).toNat = _ := (hbyte 0).symm.trans hcountry
  have h1 : (src 1).toNat * 2 ^ 8 + (src 2).toNat = _ := (hpair 1).symm.trans hprovider
  have h3 : (src 3).toNat * 2 ^ 8 + (src 4).toNat = _ := (hpair 3).symm.trans horiented
  have h5 : (src 5).toNat = _ := (hbyte 5).symm.trans hident
  have h6 : (src 6).toNat = _ := (hbyte 6).symm.trans hver
  refine ⟨BitVec.eq_of_toNat_eq h0, ⟨by omega, by omega⟩, ⟨by omega, by omega⟩, BitVec.eq_of_toNat_eq h5,
    BitVec.eq_of_toNat_eq h6⟩

theorem parsedHeader_eq_iff (hsrc : Ahead src 0 h.bits) :
    parsedHeader src = h ↔ h.providerCode.toNat < 2 ^ 8 ∧ h.providerOrientedCode.toNat < 2 ^ 8 := by
  obtain ⟨hcountry, ⟨hhigh, hlow⟩, ⟨hhigh', hlow'⟩, hident, hver⟩ := header_bytes hsrc
  rw [← parsedCode_eq_iff hhigh hlow, ← parsedCode_eq_iff hhigh' hlow', parsedHeader, hcountry, hident, hver]
  constructor
  · intro heq
    exact ⟨congrArg Header.providerCode heq, congrArg Header.providerOrientedCode heq⟩
  · rintro ⟨hprovider, horiented⟩
    rw [hprovider, horiented]

def Keeps {D S : Type} (state : S → Header) (failed : D → Header) (h : Header) : Except D S → Prop
  | .ok s => state s = h
  | .error d => failed d = h

theorem Keeps.bind {D S : Type} {state : S → Header} {failed : D → Header} {x : Except D S} {f : S → Except D S}
    (hx : Keeps state failed h x) (hf : ∀ s, state s = h → Keeps state failed h (f s)) :
    Keeps state failed h (x >>= f) := by
  cases x with
  | ok s => exact hf s hx
  | error d => exact hx

section

abbrev KeepsHeader (h : Header) (p : Parse) : Prop := Keeps (fun s : ParserState => headerOf s.dest) headerOf h p

variable {src : Buffer} {s : ParserState} {h : Header} (count : Nat)

theorem skipWindows_header (s : ParserState) : (skipWindows count s).dest = s.dest := by
  induction count generalizing s with
  | zero => rfl
  | succ count ih => exact ih (skipWindow s)

theorem skipCells_header (s : ParserState) : (skipCells count s).dest = s.dest := by
  induction count generalizing s with
  | zero => rfl
  | succ count ih => exact ih (T35Parser.skip 4 s)

theorem skipRows_header (cols rows : Nat) (s : ParserState) : (skipRows cols rows s).dest = s.dest := by
  induction rows generalizing s with
  | zero => rfl
  | succ rows ih => exact (ih (skipCells cols s)).trans (skipCells_header cols s)

theorem parseDisplayMaximumLuminance_keeps (hs : headerOf s.dest = h) :
    KeepsHeader h (parseDisplayMaximumLuminance src s) := by
  simp only [parseDisplayMaximumLuminance]
  split_ifs <;> exact hs

theorem parsePeakLuminance_keeps (hs : headerOf s.dest = h) : KeepsHeader h (T35Parser.parsePeakLuminance src s) := by
  simp only [T35Parser.parsePeakLuminance]
  split_ifs
  · exact hs
  · exact hs
  · exact (congrArg headerOf (skipRows_header _ _ _)).trans hs
  · exact hs

theorem parseMaxscl_header (count j : Nat) (s : ParserState) :
    headerOf (T35Parser.parseMaxscl src count j s).dest = headerOf s.dest := by
  induction count generalizing j s with
  | zero => rfl
  | succ count ih => exact ih (j + 1) _

theorem parsePercentiles_header (count j : Nat) (s : ParserState) :
    headerOf (T35Parser.parsePercentiles src count j s).dest = headerOf s.dest := by
  induction count generalizing j s with
  | zero => rfl
  | succ count ih => exact ih (j + 1) _

theorem parseWindowStatistics_header (s : ParserState) :
    headerOf (T35Parser.parseWindowStatistics src s).dest = headerOf s.dest := by
  have hmaxscl := @parseMaxscl_header src 3 0 s
  rw [T35Parser.parseWindowStatistics]
  generalize T35Parser.parseMaxscl src 3 0 s = s' at hmaxscl ⊢
  have hread : (T35Parser.readBits4 src (T35Parser.skip 17 s')).2.dest = s'.dest := rfl
  generalize T35Parser.readBits4 src (T35Parser.skip 17 s') = read at hread ⊢
  obtain ⟨data, s''⟩ := read
  have hcnt := (congrArg headerOf hread).trans hmaxscl
  exact (parsePercentiles_header _ 0 _).trans hcnt

variable (windows : Nat)

theorem parseStatistics_header (s : ParserState) :
    headerOf (T35Parser.parseStatistics src windows s).dest = headerOf s.dest := by
  induction windows generalizing s with
  | zero => rfl
  | succ windows ih => exact (ih _).trans (parseWindowStatistics_header s)

theorem parseAnchors_header (count j : Nat) (s : ParserState) :
    headerOf (T35Parser.parseAnchors src count j s).dest = headerOf s.dest := by
  induction count generalizing j s with
  | zero => rfl
  | succ count ih => exact ih (j + 1) _

theorem parseCurve_keeps (hs : headerOf s.dest = h) : KeepsHeader h (T35Parser.parseCurve src s) := by
  simp only [T35Parser.parseCurve]
  split_ifs
  · exact hs
  · exact (parseAnchors_header _ _ _).trans hs

theorem parseWindowToneMapping_keeps (hs : headerOf s.dest = h) :
    KeepsHeader h (T35Parser.parseWindowToneMapping src s) := by
  have hlast (s : ParserState) (hs : headerOf s.dest = h) : KeepsHeader h (.ok (skipColorSaturation src s)) := by
    simp only [skipColorSaturation]
    split_ifs <;> exact hs
  simp only [T35Parser.parseWindowToneMapping]
  split_ifs
  · exact Keeps.bind (parseCurve_keeps hs) hlast
  · exact hlast _ hs

theorem parseToneMapping_keeps (hs : headerOf s.dest = h) :
    KeepsHeader h (T35Parser.parseToneMapping src windows s) := by
  induction windows generalizing s with
  | zero => exact hs
  | succ windows ih => exact Keeps.bind (parseWindowToneMapping_keeps hs) fun s hs => ih hs

theorem parsePayload_keeps (src : Buffer) (dest : ExynosHdrData) :
    KeepsHeader (parsedHeader src) (parsePayload src { dest, bitOffset := 0, extraBit := 0 }) := by
  have hhdr := headerOf_parseHeader src dest
  simp only [parsePayload]
  split_ifs
  · exact hhdr
  · refine Keeps.bind (parseDisplayMaximumLuminance_keeps ?_) fun s hs => ?_
    · rw [skipWindows_header]
      exact hhdr
    refine Keeps.bind (parsePeakLuminance_keeps hs) fun s hs => ?_
    refine Keeps.bind (parsePeakLuminance_keeps ((parseStatistics_header _ s).trans hs)) fun s hs => ?_
    exact parseToneMapping_keeps _ hs

theorem headerOf_parse (src : Buffer) (dest : ExynosHdrData) :
    headerOf (exynosParsingUserDataRegisteredItuTT35 dest src).2 = parsedHeader src := by
  have hkeeps := parsePayload_keeps src dest
  rw [exynosParsingUserDataRegisteredItuTT35]
  cases hparse : parsePayload src { dest, bitOffset := 0, extraBit := 0 } with
  | ok s =>
    rw [hparse] at hkeeps
    exact hkeeps
  | error d =>
    rw [hparse] at hkeeps
    exact hkeeps

end

section

open FullT35Parser

abbrev KeepsFullHeader (h : Header) (p : FullParse) : Prop :=
  Keeps (fun s : FullState => fullHeaderOf s.dest) fullHeaderOf h p

variable {src : Buffer} {s : FullState} {h : Header}

def TableField.OutsideHeader (t : TableField) : Prop := ∀ d p, fullHeaderOf (t.set d p) = fullHeaderOf d

/-- Reading leaves `dest` alone. -/
def KeepsDest (read : FullState → U32 × FullState) : Prop := ∀ s, (read s).2.dest = s.dest

theorem store_header {n : Nat} {read : FullState → U32 × FullState} {set : FullHdrData → BitVec n → FullHdrData}
    (hread : KeepsDest read) (hset : ∀ d v, fullHeaderOf (set d v) = fullHeaderOf d) (s : FullState) :
    fullHeaderOf (store read set s).dest = fullHeaderOf s.dest := by
  refine (hset _ _).trans ?_
  rw [hread]

variable (w : Nat)

theorem parseGeometry_header (s : FullState) : fullHeaderOf (parseGeometry src w s).dest = fullHeaderOf s.dest := by
  have h16 : KeepsDest (readFull16 src) := fun _ => rfl
  have h8 : KeepsDest (readFull8 src) := fun _ => rfl
  have hflag : KeepsDest (readFullFlag src) := fun _ => rfl
  simp only [parseGeometry]
  rw [store_header hflag, store_header h16, store_header h16, store_header h16,
    store_header h8, store_header h16, store_header h16, store_header h16,
    store_header h16, store_header h16, store_header h16]
  all_goals exact fun _ _ => rfl

theorem parseGeometries_header (count w : Nat) (s : FullState) :
    fullHeaderOf (parseGeometries src count w s).dest = fullHeaderOf s.dest := by
  induction count generalizing w s with
  | zero => rfl
  | succ count ih => exact (ih (w + 1) _).trans (parseGeometry_header w s)

theorem parseMaximumLuminance_keeps (hs : fullHeaderOf s.dest = h) :
    KeepsFullHeader h (parseMaximumLuminance src s) := by
  simp only [parseMaximumLuminance]
  split_ifs <;> exact hs

section
variable {t : TableField} (ht : TableField.OutsideHeader t)
include ht

theorem parseRow_header (i count j : Nat) (s : FullState) :
    fullHeaderOf (parseRow src t i count j s).dest = fullHeaderOf s.dest := by
  induction count generalizing j s with
  | zero => rfl
  | succ count ih => exact (ih (j + 1) _).trans (ht _ _)

theorem parseRows_header (cols count i : Nat) (s : FullState) :
    fullHeaderOf (parseRows src t cols count i s).dest = fullHeaderOf s.dest := by
  induction count generalizing i s with
  | zero => rfl
  | succ count ih => exact (ih (i + 1) _).trans (parseRow_header ht i cols 0 s)

theorem parseFullPeakLuminance_keeps (hs : fullHeaderOf s.dest = h) :
    KeepsFullHeader h (FullT35Parser.parsePeakLuminance src t s) := by
  have hfive : KeepsDest (readFull5 src) := fun _ => rfl
  have hbit : KeepsDest (readFullFlag src) := fun _ => rfl
  have hflag := (store_header hbit (fun d v => ht d { t.get d with flag := v }) s).trans hs
  have hrows (s : FullState) := store_header hfive (fun d v => ht d { t.get d with numRows := v }) s
  have hcols (s : FullState) := store_header hfive (fun d v => ht d { t.get d with numCols := v }) s
  simp only [FullT35Parser.parsePeakLuminance]
  split_ifs
  · exact (hrows _).trans hflag
  · exact (hcols _).trans ((hrows _).trans hflag)
  · exact (parseRows_header ht _ _ _ _).trans ((hcols _).trans ((hrows _).trans hflag))
  · exact hflag

end

theorem parseFullMaxscl_header (w count i : Nat) (s : FullState) :
    fullHeaderOf (FullT35Parser.parseMaxscl src w count i s).dest = fullHeaderOf s.dest := by
  induction count generalizing i s with
  | zero => rfl
  | succ count ih => exact ih (i + 1) _

theorem parseFullPercentiles_header (w count i : Nat) (s : FullState) :
    fullHeaderOf (FullT35Parser.parsePercentiles src w count i s).dest = fullHeaderOf s.dest := by
  induction count generalizing i s with
  | zero => rfl
  | succ count ih => exact ih (i + 1) _

theorem parseFullWindowStatistics_header (s : FullState) :
    fullHeaderOf (FullT35Parser.parseWindowStatistics src w s).dest = fullHeaderOf s.dest := by
  have hfrac : KeepsDest (readFraction src) := fun _ => rfl
  have hcnt : KeepsDest (readFull4 src) := fun _ => rfl
  have havg : KeepsDest (readFull17 src) := fun _ => rfl
  simp only [FullT35Parser.parseWindowStatistics]
  rw [store_header hfrac, parseFullPercentiles_header, store_header hcnt,
    store_header havg, parseFullMaxscl_header]
  all_goals exact fun _ _ => rfl

theorem parseFullStatistics_header (count w : Nat) (s : FullState) :
    fullHeaderOf (FullT35Parser.parseStatistics src count w s).dest = fullHeaderOf s.dest := by
  induction count generalizing w s with
  | zero => rfl
  | succ count ih => exact (ih (w + 1) _).trans (parseFullWindowStatistics_header w s)

theorem parseFullAnchors_header (w count i : Nat) (s : FullState) :
    fullHeaderOf (FullT35Parser.parseAnchors src w count i s).dest = fullHeaderOf s.dest := by
  induction count generalizing i s with
  | zero => rfl
  | succ count ih => exact ih (i + 1) _

theorem parseFullCurve_keeps (hs : fullHeaderOf s.dest = h) : KeepsFullHeader h (FullT35Parser.parseCurve src w s) := by
  have h12 : KeepsDest (readFull12 src) := fun _ => rfl
  have h4 : KeepsDest (readFull4 src) := fun _ => rfl
  simp only [FullT35Parser.parseCurve]
  split_ifs
  · rw [KeepsFullHeader, Keeps, store_header h4, store_header h12, store_header h12, hs]
    all_goals exact fun _ _ => rfl
  · rw [KeepsFullHeader, Keeps, parseFullAnchors_header, store_header h4, store_header h12, store_header h12, hs]
    all_goals exact fun _ _ => rfl

theorem parseColorSaturation_header (s : FullState) :
    fullHeaderOf (parseColorSaturation src w s).dest = fullHeaderOf s.dest := by
  have h6 : KeepsDest (readFull6 src) := fun _ => rfl
  have hflag : KeepsDest (readFullFlag src) := fun _ => rfl
  simp only [parseColorSaturation]
  split_ifs
  · rw [store_header h6, store_header hflag]
    all_goals exact fun _ _ => rfl
  · rw [store_header hflag]
    exact fun _ _ => rfl

theorem parseFullWindowToneMapping_keeps (hs : fullHeaderOf s.dest = h) :
    KeepsFullHeader h (FullT35Parser.parseWindowToneMapping src w s) := by
  have hlast (s : FullState) (hs : fullHeaderOf s.dest = h) : KeepsFullHeader h (.ok (parseColorSaturation src w s)) :=
    (parseColorSaturation_header w s).trans hs
  have hflag : KeepsDest (readFullToneMappingFlag src) := fun _ => rfl
  have hset := store_header hflag (fun (d : FullHdrData) v =>
    (rfl : fullHeaderOf { d with toneMapping := { d.toneMapping with
    toneMappingFlag := Function.update d.toneMapping.toneMappingFlag w v } } = fullHeaderOf d)) s
  simp only [FullT35Parser.parseWindowToneMapping]
  split_ifs
  · exact Keeps.bind (parseFullCurve_keeps w (hset.trans hs)) hlast
  · exact hlast _ (hset.trans hs)

theorem parseToneMappings_keeps (count w : Nat) (hs : fullHeaderOf s.dest = h) :
    KeepsFullHeader h (parseToneMappings src count w s) := by
  induction count generalizing w s with
  | zero => exact hs
  | succ count ih => exact Keeps.bind (parseFullWindowToneMapping_keeps w hs) fun s hs => ih (w + 1) hs

theorem parseFullPayload_keeps (src : Buffer) (dest : FullHdrData) :
    KeepsFullHeader (parsedHeader src) (parseFullPayload src { dest, bitOffset := 0, extraBit := 0 }) := by
  have hhdr := fullHeaderOf_parseFullHeader src dest
  have hnum : KeepsFullHeader (parsedHeader src)
      (parseNumWindows src (parseFullHeader src { dest, bitOffset := 0, extraBit := 0 })) := by
    rw [parseNumWindows]
    split_ifs <;> exact hhdr
  rw [parseFullPayload]
  refine Keeps.bind hnum fun s hs => ?_
  refine Keeps.bind (parseMaximumLuminance_keeps ((parseGeometries_header _ _ _).trans hs)) fun s' hs => ?_
  refine Keeps.bind (parseFullPeakLuminance_keeps (fun _ _ => rfl) hs) fun s' hs => ?_
  refine Keeps.bind (parseFullPeakLuminance_keeps (fun _ _ => rfl) ((parseFullStatistics_header _ _ _).trans hs)) fun s'
    hs => ?_
  exact parseToneMappings_keeps _ 0 hs

theorem fullHeaderOf_parse (src : Buffer) (dest : FullHdrData) :
    fullHeaderOf (FullT35Parser.exynosParsingUserDataRegisteredItuTT35 dest src).2 = parsedHeader src := by
  have hkeeps := parseFullPayload_keeps src dest
  rw [FullT35Parser.exynosParsingUserDataRegisteredItuTT35]
  cases hparse : parseFullPayload src { dest, bitOffset := 0, extraBit := 0 } with
  | ok s =>
    rw [hparse] at hkeeps
    exact hkeeps
  | error d =>
    rw [hparse] at hkeeps
    exact hkeeps

end

def Header.OneByteCodes (h : Header) : Prop := h.providerCode.toNat < 2 ^ 8 ∧ h.providerOrientedCode.toNat < 2 ^ 8

instance (h : Header) : Decidable h.OneByteCodes := inferInstanceAs (Decidable (_ ∧ _))

theorem headerOf_roundTrip (d dest : ExynosHdrData) :
    headerOf (exynosParsingUserDataRegisteredItuTT35 dest (exynosDynamicMetaToItuTT35 d fun _ => 0).2).2 = headerOf d ↔
      (headerOf d).OneByteCodes := by
  rw [headerOf_parse]
  exact parsedHeader_eq_iff (exynosDynamicMetaToItuTT35_ahead d)

variable {f : FullHdrData}

theorem fullHeaderOf_roundTrip {negativeShift : FullT35Writer.NegativeShift} {fuel : Nat} {written : Nat × Buffer}
    (h : exynosDynamicMetaToItuTT35 negativeShift fuel f (fun _ => 0) = some written) (dest : FullHdrData) :
    fullHeaderOf (FullT35Parser.exynosParsingUserDataRegisteredItuTT35 dest written.2).2 = fullHeaderOf f ↔
    (fullHeaderOf f).OneByteCodes := by
  obtain ⟨s, hs, rfl⟩ := Option.map_eq_some_iff.mp h
  rw [fullHeaderOf_parse]
  exact parsedHeader_eq_iff (writeFull_ahead hs)

theorem full_returns (negativeShift : FullT35Writer.NegativeShift) (hwins : f.numWindows.toNat ≤ 3) :
    ∃ written, exynosDynamicMetaToItuTT35 negativeShift 12 f (fun _ => 0) = some written := by
  obtain ⟨s, hs⟩ := writeFull_returns negativeShift hwins
  exact ⟨_, congrArg (Option.map _) hs⟩

/-- In both builds exactly the headers with codes of one byte come back, whatever the body is. -/
theorem header_restored_iff (d dest : ExynosHdrData) (negativeShift : FullT35Writer.NegativeShift)
    (f fullDest : FullHdrData) :
    (headerOf (exynosParsingUserDataRegisteredItuTT35 dest (exynosDynamicMetaToItuTT35 d fun _ => 0).2).2 = headerOf d ↔
      (headerOf d).OneByteCodes) ∧
    (f.numWindows.toNat ≤ 3 →
      ∃ written, exynosDynamicMetaToItuTT35 negativeShift 12 f (fun _ => 0) = some written) ∧
    ∀ fuel written, exynosDynamicMetaToItuTT35 negativeShift fuel f (fun _ => 0) = some written →
      (fullHeaderOf (FullT35Parser.exynosParsingUserDataRegisteredItuTT35 fullDest written.2).2 = fullHeaderOf f ↔
        (fullHeaderOf f).OneByteCodes) :=
  ⟨headerOf_roundTrip d dest, full_returns negativeShift, fun _ _ h => fullHeaderOf_roundTrip h fullDest⟩

def noLuminance : PeakLuminance := ⟨0, 0, 0, fun _ _ => 0⟩

def zeroFullData (h : Header) : FullHdrData where
  countryCode := h.countryCode
  providerCode := h.providerCode
  providerOrientedCode := h.providerOrientedCode
  applicationIdentifier := h.applicationIdentifier
  applicationVersion := h.applicationVersion
  numWindows := 1
  windowUpperLeftCornerX := fun _ => 0
  windowUpperLeftCornerY := fun _ => 0
  windowLowerRightCornerX := fun _ => 0
  windowLowerRightCornerY := fun _ => 0
  centerOfEllipseX := fun _ => 0
  centerOfEllipseY := fun _ => 0
  rotationAngle := fun _ => 0
  semimajorAxisInternalEllipse := fun _ => 0
  semimajorAxisExternalEllipse := fun _ => 0
  semiminorAxisExternalEllipse := fun _ => 0
  overlapProcessOption := fun _ => 0
  targetedSystemDisplayMaximumLuminance := 0
  targetedSystemDisplay := noLuminance
  maxscl := fun _ _ => 0
  averageMaxrgb := fun _ => 0
  numMaxrgbPercentiles := fun _ => 0
  maxrgbPercentages := fun _ _ => 0
  maxrgbPercentiles := fun _ _ => 0
  fractionBrightPixels := fun _ => 0
  masteringDisplay := noLuminance
  toneMapping := ⟨fun _ => 0, fun _ => 0, fun _ => 0, fun _ => 0, fun _ _ => 0⟩
  colorSaturationMappingFlag := fun _ => 0
  colorSaturationWeight := fun _ => 0

def standardHeader : Header := ⟨0xB5, 0x003C, 0x0001, 4, 1⟩

theorem standardHeader_restored :
    ∃ written, exynosDynamicMetaToItuTT35 (fun _ _ => 0) 12 (zeroFullData standardHeader) (fun _ => 0) = some written ∧
      fullHeaderOf (FullT35Parser.exynosParsingUserDataRegisteredItuTT35 (zeroFullData standardHeader) written.2).2 =
        standardHeader := by
  obtain ⟨-, hreturns, hrestored⟩ :=
    header_restored_iff T35Exact.emptyHdrData T35Exact.emptyHdrData (fun _ _ => 0) (zeroFullData standardHeader)
    (zeroFullData standardHeader)
  obtain ⟨written, hwritten⟩ := hreturns (by decide)
  exact ⟨written, hwritten, (hrestored 12 written hwritten).mpr (by decide)⟩

def wideHeader : Header := ⟨0xB5, 0x1234, 0x5678, 4, 1⟩

def wideHdrData :
    ExynosHdrData :=
  { T35Exact.emptyHdrData with countryCode := 0xB5, providerCode := 0x1234, providerOrientedCode := 0x5678 }

theorem wideHeader_not_restored :
    headerOf (exynosParsingUserDataRegisteredItuTT35 wideHdrData (exynosDynamicMetaToItuTT35 wideHdrData fun _ =>
      0).2).2 ≠ headerOf wideHdrData ∧
    ∃ written, exynosDynamicMetaToItuTT35 (fun _ _ => 0) 12 (zeroFullData wideHeader) (fun _ => 0) = some written ∧
      fullHeaderOf (FullT35Parser.exynosParsingUserDataRegisteredItuTT35 (zeroFullData wideHeader) written.2).2 ≠
        wideHeader := by
  constructor
  · exact fun h => absurd ((headerOf_roundTrip wideHdrData wideHdrData).mp h) (by decide)
  · obtain ⟨written, hwritten⟩ :=
      full_returns (fun _ _ => 0) (by decide : (zeroFullData wideHeader).numWindows.toNat ≤ 3)
    exact ⟨written, hwritten, fun h => absurd ((fullHeaderOf_roundTrip hwritten (zeroFullData wideHeader)).mp h)
      (by decide)⟩

end ExynosHal.VideoApi.HeaderRoundTrip
