import ExynosHal.Gralloc.AlikeBuffers

/-! # Legal sets of AFBC modifiers

Which modifiers may stand together is said of the modifiers as Booleans.
-/

namespace ExynosHal.Gralloc
open BitVec (getLsbD_and twoPow)

structure Modifiers where
  basic : Bool
  splitblk : Bool
  wideblk : Bool
  tiledHeaders : Bool
  doubleBody : Bool
  deriving DecidableEq

def modifiersOf (allocFormat : U64) : Modifiers where
  basic := hasAny allocFormat intfmtAfbcBasic
  splitblk := hasAny allocFormat intfmtAfbcSplitblk
  wideblk := hasAny allocFormat intfmtAfbcWideblk
  tiledHeaders := hasAny allocFormat intfmtAfbcTiledHeaders
  doubleBody := hasAny allocFormat intfmtAfbcDoubleBody

structure Shared where
  basic : Bool
  splitblk : Bool
  wideblk : Bool
  tiledHeaders : Bool
  deriving DecidableEq

def sharedOf (both : U64) : Shared where
  basic := hasAny both capAfbcBasic
  splitblk := hasAny both capAfbcSplitblk
  wideblk := hasAny both capAfbcWideblk
  tiledHeaders := hasAny both capAfbcTiledHeaders

structure Legal (s : Shared) (subsampled rgb565 : Bool) (m : Modifiers) : Prop where
  basic : m.basic → s.basic
  splitblk : m.splitblk → s.splitblk
  wideblk : m.wideblk → s.wideblk
  tiledHeaders : m.tiledHeaders → s.tiledHeaders
  doubleBody : m.doubleBody → m.tiledHeaders ∧ !m.wideblk
  wide_subsampled : m.wideblk → subsampled → !m.splitblk
  wide_split : m.wideblk → !subsampled → !rgb565 → m.splitblk

def Modifiers.repair (s : Shared) (subsampled rgb565 : Bool) (m : Modifiers) : Modifiers :=
  let wide := m.wideblk && !m.doubleBody
  let split := m.splitblk && !(wide && subsampled)
  let lacksSplit := wide && !split && !subsampled && !rgb565
  { basic := m.basic && s.basic
    splitblk := (split || lacksSplit && s.splitblk) && !rgb565 && s.splitblk
    wideblk := wide && !(lacksSplit && !s.splitblk) && s.wideblk
    tiledHeaders := m.tiledHeaders && s.tiledHeaders
    doubleBody := m.doubleBody }

theorem repair_legal {s : Shared} (subsampled rgb565 : Bool) {m : Modifiers}
    (hsplit : m.splitblk → s.splitblk) (htiled : m.tiledHeaders → s.tiledHeaders)
    (hdouble : m.doubleBody → m.tiledHeaders) :
    Legal s subsampled rgb565 (m.repair s subsampled rgb565) := by
  obtain ⟨basic, splitblk, wideblk, tiledHeaders, doubleBody⟩ := m
  obtain ⟨sharedBasic, sharedSplitblk, sharedWideblk, sharedTiledHeaders⟩ := s
  dsimp only at hsplit htiled hdouble
  constructor
  iterate 4
    simp only [Modifiers.repair, Bool.and_eq_true]
    exact fun h => h.2
  · intro h
    have htiledHeaders := hdouble h
    simp only [Modifiers.repair] at h
    simp [Modifiers.repair, h, htiledHeaders, htiled htiledHeaders]
  · intro hwide hsub
    subst hsub
    simp only [Modifiers.repair, Bool.and_eq_true] at hwide
    simp [Modifiers.repair, hwide.1.1.1, hwide.1.1.2]
  · intro hwide hsub h565
    simp only [Bool.not_eq_true'] at hsub h565
    subst hsub h565
    simp only [Modifiers.repair, Bool.and_eq_true] at hwide
    cases splitblk with
    | true => simp [Modifiers.repair, hsplit rfl]
    | false =>
      cases sharedSplitblk with
      | true => simp [Modifiers.repair, hwide.1.1.1, hwide.1.1.2]
      | false => simp [hwide.1.1.1, hwide.1.1.2] at hwide

theorem hasAny_comm (a m : U64) : hasAny a m = hasAny m a := by
  rw [hasAny, hasAny, BitVec.and_comm]

theorem hasAny_or_bits (a bits m : U64) : hasAny (a ||| bits) m = (hasAny a m || hasAny bits m) := by
  rw [hasAny_comm, hasAny_or_mask, hasAny_comm m a, hasAny_comm m bits]

variable (c : Bool)

theorem hasAny_setIf (bits a m : U64) : hasAny (setIf c bits a) m = (hasAny a m || c && hasAny bits m) := by
  cases c with
  | true => exact hasAny_or_bits a bits m
  | false => simp [setIf]

def Modifiers.orIf (m : Modifiers) (c : Bool) (n : Modifiers) : Modifiers where
  basic := m.basic || c && n.basic
  splitblk := m.splitblk || c && n.splitblk
  wideblk := m.wideblk || c && n.wideblk
  tiledHeaders := m.tiledHeaders || c && n.tiledHeaders
  doubleBody := m.doubleBody || c && n.doubleBody

theorem modifiersOf_setIf (bits a : U64) :
    modifiersOf (setIf c bits a) = (modifiersOf a).orIf c (modifiersOf bits) := by
  simp only [modifiersOf, hasAny_setIf, Modifiers.orIf]

theorem modifiersOf_bits : modifiersOf intfmtAfbcBasic = ⟨true, false, false, false, false⟩ ∧
    modifiersOf intfmtAfbcSplitblk = ⟨false, true, false, false, false⟩ ∧
    modifiersOf intfmtAfbcWideblk = ⟨false, false, true, false, false⟩ ∧
    modifiersOf intfmtAfbcTiledHeaders = ⟨false, false, false, true, false⟩ ∧
    modifiersOf intfmtAfbcDoubleBody = ⟨false, false, false, false, true⟩ ∧
    modifiersOf intfmtAfbcSparse = ⟨false, false, false, false, false⟩ := by
  decide

variable {bits m : U64}

theorem hasAny_clearIf_other (a : U64) (h : ~~~bits &&& m = m) : hasAny (clearIf c bits a) m = hasAny a m := by
  cases c with
  | true => rw [hasAny, clearIf, if_pos rfl, BitVec.and_assoc, h, hasAny]
  | false => rfl

theorem hasAny_clearIf_covered (a : U64)
    (h : ~~~bits &&& m = 0#64) : hasAny (clearIf c bits a) m = (!c && hasAny a m) := by
  cases c with
  | true =>
    rw [hasAny, clearIf, if_pos rfl, BitVec.and_assoc, h, BitVec.and_zero]
    rfl
  | false => rfl

theorem baseFormat_setIf (a : U64) (h : bits.setWidth 32 = 0#32) : baseFormat (setIf c bits a) = baseFormat a := by
  cases c with
  | true => rw [setIf, if_pos rfl, baseFormat, BitVec.setWidth_or, h, BitVec.or_zero, baseFormat]
  | false => rfl

theorem repair_wide (c split : Bool) (a : U64) :
    (if c then if split then a ||| intfmtAfbcSplitblk else a &&& ~~~intfmtAfbcWideblk else a) =
      setIf (c && split) intfmtAfbcSplitblk (clearIf (c && !split) intfmtAfbcWideblk a) := by
  cases c <;> cases split <;> rfl

section
variable (base : U32) (both a : U64)

def repairDoubleBody : U64 :=
  clearIf (hasAny a intfmtAfbcDoubleBody) (intfmtAfbcWideblk ||| intfmtAfbcExtrawideblk) a

def repairSubsampled : U64 :=
  clearIf (hasAny a intfmtAfbcWideblk && hasAny a intfmtAfbcSplitblk && isSubsampledYuv base) intfmtAfbcSplitblk a

def repairWide : U64 :=
  if hasAny a intfmtAfbcWideblk && !hasAny a intfmtAfbcSplitblk && !isSubsampledYuv base && base != formatRgb565 then
    if hasAny both capAfbcSplitblk then a ||| intfmtAfbcSplitblk else a &&& ~~~intfmtAfbcWideblk
  else a

def repairRgb565 : U64 := clearIf (base == formatRgb565) intfmtAfbcSplitblk a

def repairMissing (bits cap : U64) : U64 := clearIf (hasAny a bits && !hasAny both cap) bits a

theorem validateAfbcFormat_eq (producerCaps consumerCaps : U64) : validateAfbcFormat a producerCaps consumerCaps =
      let both := producerCaps &&& consumerCaps
      let a' := repairRgb565 (baseFormat a) (repairWide (baseFormat a) both
        (repairSubsampled (baseFormat a) (repairDoubleBody a)))
      let a' := repairMissing both (repairMissing both a' intfmtAfbcBasic capAfbcBasic)
        intfmtAfbcSplitblk capAfbcSplitblk
      let a' := repairMissing both (repairMissing both a' intfmtAfbcWideblk capAfbcWideblk)
        intfmtAfbcTiledHeaders capAfbcTiledHeaders
      setIf (!(hasAny a' intfmtAfbcSparse || hasAny producerCaps capAfbcWriteNonSparse))
        intfmtAfbcSparse a' :=
  rfl

theorem modifiersOf_repairDoubleBody : modifiersOf (repairDoubleBody a) =
      { modifiersOf a with wideblk := (modifiersOf a).wideblk && !(modifiersOf a).doubleBody } := by
  simp (disch := decide) only [modifiersOf, repairDoubleBody, hasAny_clearIf_other,
    hasAny_clearIf_covered, Bool.and_comm]

theorem modifiersOf_repairSubsampled : modifiersOf (repairSubsampled base a) = { modifiersOf a with
        splitblk := (modifiersOf a).splitblk && !((modifiersOf a).wideblk && isSubsampledYuv base) } := by
  simp (disch := decide) only [modifiersOf, repairSubsampled, hasAny_clearIf_other, hasAny_clearIf_covered]
  cases hasAny a intfmtAfbcSplitblk <;> simp

theorem modifiersOf_repairRgb565 : modifiersOf (repairRgb565 base a) =
      { modifiersOf a with splitblk := (modifiersOf a).splitblk && !(base == formatRgb565) } := by
  simp (disch := decide) only [modifiersOf, repairRgb565, hasAny_clearIf_other, hasAny_clearIf_covered, Bool.and_comm]

theorem modifiersOf_repairWide : modifiersOf (repairWide base both a) =
      let lacksSplit := (modifiersOf a).wideblk && !(modifiersOf a).splitblk &&
        !isSubsampledYuv base && !(base == formatRgb565)
      { modifiersOf a with
        splitblk := (modifiersOf a).splitblk || lacksSplit && (sharedOf both).splitblk
        wideblk := (modifiersOf a).wideblk && !(lacksSplit && !(sharedOf both).splitblk) } := by
  rw [repairWide, repair_wide, modifiersOf_setIf, modifiersOf_bits.2.1]
  simp (disch := decide) only [modifiersOf, sharedOf, Modifiers.orIf, hasAny_clearIf_other,
    hasAny_clearIf_covered, Bool.and_true, Bool.and_false, Bool.or_false, bne]
  rw [Bool.and_comm (!_)]

theorem modifiersOf_repairMissing_basic : modifiersOf (repairMissing both a intfmtAfbcBasic capAfbcBasic) =
      { modifiersOf a with basic := (modifiersOf a).basic && (sharedOf both).basic } := by
  simp (disch := decide) only [modifiersOf, sharedOf, repairMissing, hasAny_clearIf_other, hasAny_clearIf_covered]
  cases hasAny a intfmtAfbcBasic <;> simp

theorem modifiersOf_repairMissing_splitblk : modifiersOf (repairMissing both a intfmtAfbcSplitblk capAfbcSplitblk) =
      { modifiersOf a with splitblk := (modifiersOf a).splitblk && (sharedOf both).splitblk } := by
  simp (disch := decide) only [modifiersOf, sharedOf, repairMissing, hasAny_clearIf_other, hasAny_clearIf_covered]
  cases hasAny a intfmtAfbcSplitblk <;> simp

theorem modifiersOf_repairMissing_wideblk : modifiersOf (repairMissing both a intfmtAfbcWideblk capAfbcWideblk) =
      { modifiersOf a with wideblk := (modifiersOf a).wideblk && (sharedOf both).wideblk } := by
  simp (disch := decide) only [modifiersOf, sharedOf, repairMissing, hasAny_clearIf_other, hasAny_clearIf_covered]
  cases hasAny a intfmtAfbcWideblk <;> simp

theorem modifiersOf_repairMissing_tiledHeaders :
    modifiersOf (repairMissing both a intfmtAfbcTiledHeaders capAfbcTiledHeaders) = { modifiersOf a with
        tiledHeaders := (modifiersOf a).tiledHeaders && (sharedOf both).tiledHeaders } := by
  simp (disch := decide) only [modifiersOf, sharedOf, repairMissing, hasAny_clearIf_other, hasAny_clearIf_covered]
  cases hasAny a intfmtAfbcTiledHeaders <;> simp

theorem modifiersOf_setIf_sparse (c : Bool) : modifiersOf (setIf c intfmtAfbcSparse a) = modifiersOf a := by
  rw [modifiersOf_setIf, modifiersOf_bits.2.2.2.2.2]
  simp only [Modifiers.orIf, Bool.and_false, Bool.or_false]

theorem modifiersOf_validate (producerCaps consumerCaps : U64) :
    modifiersOf (validateAfbcFormat a producerCaps consumerCaps) =
      (modifiersOf a).repair (sharedOf (producerCaps &&& consumerCaps))
        (isSubsampledYuv (baseFormat a)) (baseFormat a == formatRgb565) := by
  rw [validateAfbcFormat_eq]
  dsimp only
  rw [modifiersOf_setIf_sparse, modifiersOf_repairMissing_tiledHeaders,
    modifiersOf_repairMissing_wideblk, modifiersOf_repairMissing_splitblk,
    modifiersOf_repairMissing_basic, modifiersOf_repairRgb565, modifiersOf_repairWide,
    modifiersOf_repairSubsampled, modifiersOf_repairDoubleBody]
  simp only [Modifiers.repair]

end

theorem hasAny_bit (a : U64) {k : Nat} (hk : k < 64) : hasAny a (1#64 <<< k) = a.getLsbD k := by
  have hbit : a &&& 1#64 <<< k = if a.getLsbD k then twoPow 64 k else 0#64 := BitVec.and_twoPow a k
  have hne : twoPow 64 k ≠ 0#64 := by
    intro h
    have hself : (twoPow 64 k).getLsbD k := by
      rw [BitVec.getLsbD_twoPow]
      simp [hk]
    rw [h] at hself
    simp at hself
  rw [hasAny, hbit]
  cases a.getLsbD k with
  | true => exact bne_iff_ne.mpr hne
  | false => rfl

theorem hasAny_and_bit (a b : U64) {k : Nat} (hk : k < 64) :
    hasAny (a &&& b) (1#64 <<< k) = (hasAny a (1#64 <<< k) && hasAny b (1#64 <<< k)) := by
  rw [hasAny_bit _ hk, hasAny_bit _ hk, hasAny_bit _ hk, getLsbD_and]

variable (base : U32)

theorem hasAny_base (h : 0xffffffff#64 &&& m = 0#64) : hasAny (base.setWidth 64) m = false := by
  have hlow : base.setWidth 64 &&& 0xffffffff#64 = base.setWidth 64 := by
    apply BitVec.eq_of_getLsbD_eq
    intro i hi
    rcases Nat.lt_or_ge i 32 with hlt | hge
    · have hone : (0xffffffff#64).getLsbD i := by
        revert i
        decide
      rw [getLsbD_and, hone, Bool.and_true]
    · rw [getLsbD_and, BitVec.getLsbD_setWidth, BitVec.getLsbD_of_ge base i hge, Bool.and_false, Bool.false_and]
  rw [hasAny, ← hlow, BitVec.and_assoc, h, BitVec.and_zero]
  rfl

theorem modifiersOf_base : modifiersOf (base.setWidth 64) = ⟨false, false, false, false, false⟩ := by
  simp (disch := decide) only [modifiersOf, hasAny_base]

theorem clearIf_of_clear {bits a : U64} (h : hasAny a bits = false) : clearIf c bits a = a := by
  have hnone : a &&& bits = 0#64 := by simpa [hasAny] using h
  cases c with
  | true =>
    apply BitVec.eq_of_getLsbD_eq
    intro i hi
    have hbit := congrArg (fun x => x.getLsbD i) hnone
    simp only [getLsbD_and, BitVec.getLsbD_zero] at hbit
    simp only [clearIf, if_true, getLsbD_and, BitVec.getLsbD_not, hi, decide_true, Bool.true_and]
    cases ha : a.getLsbD i with
    | true =>
      rw [ha, Bool.true_and] at hbit
      rw [hbit]
      rfl
    | false => rfl
  | false => rfl

theorem validateAfbcFormat_base (producerCaps consumerCaps : U64) :
    validateAfbcFormat (base.setWidth 64) producerCaps consumerCaps =
      setIf (!hasAny producerCaps capAfbcWriteNonSparse) intfmtAfbcSparse (base.setWidth 64) := by
  obtain ⟨hbasic, hsplit, hwide, htiled, hdouble, hsparse⟩ : hasAny (base.setWidth 64) intfmtAfbcBasic = false ∧
      hasAny (base.setWidth 64) intfmtAfbcSplitblk = false ∧
      hasAny (base.setWidth 64) intfmtAfbcWideblk = false ∧
      hasAny (base.setWidth 64) intfmtAfbcTiledHeaders = false ∧
      hasAny (base.setWidth 64) intfmtAfbcDoubleBody = false ∧
      hasAny (base.setWidth 64) intfmtAfbcSparse = false := by
    simp (disch := decide) only [hasAny_base, and_self]
  have hdoubleBody : repairDoubleBody (base.setWidth 64) = base.setWidth 64 := by
    rw [repairDoubleBody, hdouble]
    rfl
  have hsubsampled : ∀ b, repairSubsampled b (base.setWidth 64) = base.setWidth 64 := by
    intro b
    rw [repairSubsampled, hwide]
    rfl
  have hwideblk : ∀ b both, repairWide b both (base.setWidth 64) = base.setWidth 64 := by
    intro b both
    rw [repairWide, hwide]
    rfl
  have hrgb : ∀ b, repairRgb565 b (base.setWidth 64) = base.setWidth 64 :=
    fun _ => clearIf_of_clear _ hsplit
  rw [validateAfbcFormat_eq]
  dsimp only
  rw [hdoubleBody, hsubsampled, hwideblk, hrgb]
  simp only [repairMissing, clearIf_of_clear _ hbasic, clearIf_of_clear _ hsplit,
    clearIf_of_clear _ hwide, clearIf_of_clear _ htiled, hsparse, Bool.false_or]

section
variable {ip : IpCaps} {base : U32} {usage : U64} {producers : Producers}
  {consumers : Consumers} {producerCaps consumerCaps : U64}

theorem getAfbcFormat_unwanted (h : modifiersWanted producers consumers producerCaps consumerCaps = false) :
    getAfbcFormat ip base usage producers consumers producerCaps consumerCaps =
      setIf (!hasAny producerCaps capAfbcWriteNonSparse) intfmtAfbcSparse (base.setWidth 64) := by
  simp only [getAfbcFormat, h, Bool.false_eq_true, if_false]
  exact validateAfbcFormat_base base producerCaps consumerCaps

def wantedFormat (ip : IpCaps) (base : U32) (usage : U64) (producers : Producers)
    (consumers : Consumers) (producerCaps consumerCaps : U64) : U64 :=
  let both (cap : U64) : Bool := hasAny producerCaps cap && hasAny consumerCaps cap
  let gpuToDpu := producers.gpu && consumers.dpu && hasAny ip.dpu capOptionsPresent
  setIf (gpuToDpu && both capAfbcWideblk) intfmtAfbcWideblk (setIf (gpuToDpu && both capAfbcSplitblk) intfmtAfbcSplitblk
      (setIf (both capAfbcTiledHeaders && hasAny usage usageFrontbuffer &&
          hasAny (producerCaps &&& consumerCaps) capAfbcDoubleBody) intfmtAfbcDoubleBody
        (setIf (both capAfbcTiledHeaders) intfmtAfbcTiledHeaders
          (setIf (!hasAny producerCaps capAfbcWriteNonSparse) intfmtAfbcSparse
            (setIf true intfmtAfbcBasic (base.setWidth 64))))))

theorem getAfbcFormat_wanted (h : modifiersWanted producers consumers producerCaps consumerCaps) :
    getAfbcFormat ip base usage producers consumers producerCaps consumerCaps =
      validateAfbcFormat (wantedFormat ip base usage producers consumers producerCaps consumerCaps)
        producerCaps consumerCaps := by
  simp only [getAfbcFormat, h, if_true]
  rfl

theorem baseFormat_wantedFormat :
    baseFormat (wantedFormat ip base usage producers consumers producerCaps consumerCaps) = base := by
  simp (disch := decide) only [wantedFormat, baseFormat_setIf]
  rw [baseFormat, BitVec.setWidth_setWidth_of_le _ (by decide), BitVec.setWidth_eq]

theorem hasAny_both (p c : U64) : hasAny (p &&& c) capAfbcBasic = (hasAny p capAfbcBasic && hasAny c capAfbcBasic) ∧
    hasAny (p &&& c) capAfbcSplitblk = (hasAny p capAfbcSplitblk && hasAny c capAfbcSplitblk) ∧
    hasAny (p &&& c) capAfbcWideblk = (hasAny p capAfbcWideblk && hasAny c capAfbcWideblk) ∧
    hasAny (p &&& c) capAfbcTiledHeaders = (hasAny p capAfbcTiledHeaders && hasAny c capAfbcTiledHeaders) :=
  ⟨hasAny_and_bit p c (by decide), hasAny_and_bit p c (by decide), hasAny_and_bit p c (by decide),
    hasAny_and_bit p c (by decide)⟩

theorem modifiersOf_wantedFormat :
    modifiersOf (wantedFormat ip base usage producers consumers producerCaps consumerCaps) =
      let s := sharedOf (producerCaps &&& consumerCaps)
      let gpuToDpu := producers.gpu && consumers.dpu && hasAny ip.dpu capOptionsPresent
      { basic := true
        splitblk := gpuToDpu && s.splitblk
        wideblk := gpuToDpu && s.wideblk
        tiledHeaders := s.tiledHeaders
        doubleBody := s.tiledHeaders && hasAny usage usageFrontbuffer &&
          hasAny (producerCaps &&& consumerCaps) capAfbcDoubleBody } := by
  obtain ⟨hbasic, hsplit, hwide, htiled⟩ := hasAny_both producerCaps consumerCaps
  simp only [wantedFormat, modifiersOf_setIf, modifiersOf_base, modifiersOf_bits, Modifiers.orIf,
    sharedOf, hsplit, hwide, htiled, Bool.and_true, Bool.and_false, Bool.or_false, Bool.false_or]

end

end ExynosHal.Gralloc
