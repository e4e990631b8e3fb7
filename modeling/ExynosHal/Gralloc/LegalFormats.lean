import ExynosHal.Gralloc.Modifiers

/-!
# Selected formats

A selected format has no modifiers or a legal set of them with AFBC, unless the repairs add the
sparse modifier to a format that AFBC was ruled out for; that format then wins by its grade.
-/

namespace ExynosHal.Gralloc
open BitVec (and_zero zero_and)

section
variable {ip : IpCaps} {base : U32} {usage : U64} {producers : Producers}
  {consumers : Consumers} {producerCaps consumerCaps : U64}

variable (ip base usage) in
theorem getAfbcFormat_legal (h : modifiersWanted producers consumers producerCaps consumerCaps) :
    (modifiersOf (getAfbcFormat ip base usage producers consumers producerCaps consumerCaps)).basic ∧
      Legal (sharedOf (producerCaps &&& consumerCaps)) (isSubsampledYuv base) (base == formatRgb565)
        (modifiersOf (getAfbcFormat ip base usage producers consumers producerCaps consumerCaps)) := by
  rw [getAfbcFormat_wanted h, modifiersOf_validate, baseFormat_wantedFormat, modifiersOf_wantedFormat]
  constructor
  · simp only [modifiersWanted, Bool.and_eq_true] at h
    simp only [Modifiers.repair, sharedOf, (hasAny_both producerCaps consumerCaps).1, h.2, Bool.and_self]
  · apply repair_legal
    · simp only [Bool.and_eq_true]
      exact fun hsplit => hsplit.2
    · exact fun htiled => htiled
    · simp only [Bool.and_eq_true]
      exact fun hdouble => hdouble.1.1

variable {format : FormatInfo} {ipFormat : FormatIpSupport}

theorem keepsAfbc_of_supported
    (h : isFormatSupported format ipFormat usage producers consumers producerCaps consumerCaps &&& fAfbc ≠ 0#8) :
    keepsAfbc format usage producers producerCaps consumerCaps ∧
      ipSupportsBaseFormat producers consumers ipFormat &&& fAfbc ≠ 0#8 := by
  have hlin : fLin &&& fAfbc = 0#8 := by decide
  have hcleared : ∀ flags : SupportFlags, flags &&& ~~~fAfbc &&& fAfbc = 0#8 := by decide
  rw [isFormatSupported] at h
  generalize ipSupportsBaseFormat producers consumers ipFormat = flags at h ⊢
  cases hkeeps : keepsAfbc format usage producers producerCaps consumerCaps with
  | true =>
    simp only [hkeeps, Bool.not_true, Bool.false_eq_true, and_false, if_false] at h
    refine ⟨rfl, ?_⟩
    split_ifs at h
    all_goals first | exact h | exact absurd hlin h
  | false =>
    simp only [hkeeps, Bool.not_false, and_true] at h
    rcases eq_or_ne (flags &&& fAfbc) 0#8 with hzero | hne
    · simp only [hzero, ne_eq, not_true_eq_false, if_false] at h
      split_ifs at h
      all_goals first | exact absurd hzero h | exact absurd hlin h
    · simp only [hne, ne_eq, not_false_eq_true, if_true] at h
      split_ifs at h
      all_goals first | exact absurd (hcleared flags) h | exact absurd hlin h

theorem basic_of_keepsAfbc (h : keepsAfbc format usage producers producerCaps consumerCaps) :
    hasAny producerCaps capAfbcBasic ∧ hasAny consumerCaps capAfbcBasic := by
  simp only [keepsAfbc, Bool.and_eq_true] at h
  have hboth := h.1.1.1.2
  rw [(hasAny_both producerCaps consumerCaps).1, Bool.and_eq_true] at hboth
  exact hboth

theorem getActiveCaps_nodpu (so : SelectOptions) (format : FormatInfo) (consumerCaps : U64) :
    hasAny (getActiveCaps so format producers { consumers with dpu := false } 0#64 consumerCaps
      0).2 capAfbcBasic = false := by
  have hsmall : afbcAllowed so { consumers with dpu := false } 0 = false := by
    simp [afbcAllowed]
  have hmask : ~~~capAfbcEnableMask &&& capAfbcBasic = 0#64 := by decide
  simp only [getActiveCaps, hsmall, Bool.not_false, maskIf, if_true]
  rw [hasAny, BitVec.and_assoc, BitVec.and_assoc, hmask, and_zero, and_zero]
  rfl

variable {so : SelectOptions}

theorem supportFlags_afbc
    (h : supportFlags so ip format ipFormat usage producers consumers producerCaps consumerCaps &&& fAfbc ≠ 0#8) :
    isFormatSupported format ipFormat usage producers consumers producerCaps consumerCaps &&& fAfbc ≠ 0#8 := by
  simp only [supportFlags] at h
  split_ifs at h with hfallback
  · obtain ⟨hkeeps, -⟩ := keepsAfbc_of_supported h
    have hbasic := (basic_of_keepsAfbc hkeeps).2
    rw [getActiveCaps_nodpu] at hbasic
    cases hbasic
  · exact h

variable (ip) in
theorem supportFlags_of_afbc (so : SelectOptions)
    (h : isFormatSupported format ipFormat usage producers consumers producerCaps consumerCaps &&& fAfbc ≠ 0#8) :
    supportFlags so ip format ipFormat usage producers consumers producerCaps consumerCaps =
      isFormatSupported format ipFormat usage producers consumers producerCaps consumerCaps := by
  simp only [supportFlags]
  split_ifs with hfallback
  · rw [hfallback.1] at h
    exact absurd (by decide) h
  · rfl

theorem cpuSupport (o : BuildOptions) :
    ∀ entry ∈ formatsIpSupport o, entry.cpuWr &&& fAfbc = 0#8 ∧ entry.cpuRd &&& fAfbc = 0#8 := by
  have hall : ∀ raw, ∀ entry ∈ formatsIpSupport ⟨false, false, false, raw, false⟩,
      entry.cpuWr &&& fAfbc = 0#8 ∧ entry.cpuRd &&& fAfbc = 0#8 := by decide
  exact hall o.supportRaw10Raw12

theorem flagsIf_and (c : Bool) (flags support : SupportFlags) :
    flagsIf c flags support &&& fAfbc ≠ 0#8 → support &&& fAfbc ≠ 0#8 := by
  cases c with
  | true =>
    intro h hzero
    apply h
    rw [flagsIf, if_pos rfl, BitVec.and_assoc, BitVec.and_comm flags, ← BitVec.and_assoc, hzero, zero_and]
  | false => exact id

theorem flagsIf_true_and {flags : SupportFlags} (support : SupportFlags)
    (h : flags &&& fAfbc = 0#8) : flagsIf true flags support &&& fAfbc = 0#8 := by
  rw [flagsIf, if_pos rfl, BitVec.and_assoc, h, and_zero]

variable {o : BuildOptions}

theorem no_cpu_of_supported (hmem : ipFormat ∈ formatsIpSupport o)
    (h : ipSupportsBaseFormat producers consumers ipFormat &&& fAfbc ≠ 0#8) :
    producers.cpu = false ∧ consumers.cpu = false := by
  obtain ⟨hwr, hrd⟩ := cpuSupport o ipFormat hmem
  have hafterRd := flagsIf_and _ _ _ (flagsIf_and _ _ _ (flagsIf_and _ _ _ h))
  have hafterWr := flagsIf_and _ _ _ (flagsIf_and _ _ _ (flagsIf_and _ _ _ (flagsIf_and _ _ _
    (flagsIf_and _ _ _ hafterRd))))
  constructor
  · cases hcpu : producers.cpu with
    | true =>
      rw [hcpu] at hafterWr
      exact absurd (flagsIf_true_and _ hwr) hafterWr
    | false => rfl
  · cases hcpu : consumers.cpu with
    | true =>
      rw [hcpu] at hafterRd
      exact absurd (flagsIf_true_and _ hrd) hafterRd
    | false => rfl

def KeepsAfbc (o : BuildOptions) (format : FormatInfo) (usage : U64) (producers : Producers)
    (consumers : Consumers) (producerCaps consumerCaps : U64) : Prop :=
  ∃ ipFormat, (formatsIpSupport o).find? (fun entry => entry.id == format.id) = some ipFormat ∧
    isFormatSupported format ipFormat usage producers consumers producerCaps consumerCaps &&& fAfbc ≠ 0#8

variable {fmt : FmtProps}

theorem supported_ext
    (h : getSupportedFormat o so ip format usage producers consumers producerCaps consumerCaps = some fmt) :
    fmt.formatExt = 0#64 ∨ KeepsAfbc o format usage producers consumers producerCaps consumerCaps ∧
      hasAll usage usageNoAfbc = false ∧
      fmt.formatExt = getAfbcFormat ip format.id usage producers consumers producerCaps
        consumerCaps &&& intfmtExtMask := by
  rw [getSupportedFormat] at h
  split at h
  · cases h
  · rename_i ipFormat hfind
    dsimp only at h
    split_ifs at h with hafbc hnone hnone
    · cases h
      simp only [Bool.and_eq_true, bne_iff_ne, Bool.not_eq_true'] at hafbc
      exact .inr ⟨⟨ipFormat, hfind, supportFlags_afbc hafbc.1.1.1⟩, hafbc.1.1.2, rfl⟩
    · cases h
      exact .inl rfl

theorem base_and_extMask (base : U32) : base.setWidth 64 &&& intfmtExtMask = 0#64 := by
  have hnone := hasAny_base base (m := intfmtExtMask) (by decide)
  simpa [hasAny] using hnone

theorem sparse_ext (base : U32) : setIf true intfmtAfbcSparse (base.setWidth 64) &&& intfmtExtMask = intfmtAfbcSparse ∧
      setIf true intfmtAfbcSparse (base.setWidth 64) ≠ base.setWidth 64 := by
  have hext : setIf true intfmtAfbcSparse (base.setWidth 64) &&& intfmtExtMask = intfmtAfbcSparse := by
    rw [setIf, if_pos rfl, BitVec.and_comm, BitVec.and_or_distrib_left, BitVec.and_comm intfmtExtMask,
      base_and_extMask, BitVec.zero_or]
    decide
  refine ⟨hext, ?_⟩
  intro heq
  rw [heq, base_and_extMask] at hext
  exact absurd hext (by decide)

def SparseOnly (producers : Producers) (consumers : Consumers) (producerCaps consumerCaps : U64) :
    Prop :=
  modifiersWanted producers consumers producerCaps consumerCaps = false ∧
    hasAny producerCaps capAfbcWriteNonSparse = false

theorem getAfbcFormat_sparse (h : SparseOnly producers consumers producerCaps consumerCaps) :
    getAfbcFormat ip base usage producers consumers producerCaps consumerCaps =
      setIf true intfmtAfbcSparse (base.setWidth 64) := by
  rw [getAfbcFormat_unwanted h.1, h.2]
  rfl

variable (ip) in
theorem supported_sparse (so : SelectOptions)
    (hsparse : SparseOnly producers consumers producerCaps consumerCaps)
    (husage : hasAll usage usageNoAfbc = false)
    (hkeeps : KeepsAfbc o format usage producers consumers producerCaps consumerCaps) :
    ∃ fmt, getSupportedFormat o so ip format usage producers consumers producerCaps consumerCaps =
      some fmt ∧ fmt.formatExt = intfmtAfbcSparse := by
  obtain ⟨ipFormat, hfind, hflags⟩ := hkeeps
  obtain ⟨hext, hne⟩ := sparse_ext format.id
  have hsupport := supportFlags_of_afbc ip so hflags
  have hmulti : (decide (format.npln > 1) && !isMultiPlane intfmtAfbcSparse format) = false := by
    cases hnpln : decide (format.npln > 1) with
    | true =>
      have hbasic : hasAny intfmtAfbcSparse intfmtAfbcBasic = false := by decide
      rw [isMultiPlane, hnpln, hbasic]
      rfl
    | false => rfl
  have hflagsNe : isFormatSupported format ipFormat usage producers consumers producerCaps consumerCaps ≠ fNone := by
    intro hzero
    rw [hzero] at hflags
    exact hflags (by decide)
  refine ⟨⟨format.id, intfmtAfbcSparse, isFormatSupported format ipFormat usage producers consumers
    producerCaps consumerCaps⟩, ?_, rfl⟩
  have hkept : (isFormatSupported format ipFormat usage producers consumers producerCaps consumerCaps
      &&& fAfbc != 0#8) := bne_iff_ne.mpr hflags
  have hother : (setIf true intfmtAfbcSparse (format.id.setWidth 64) != format.id.setWidth 64) =
      true := bne_iff_ne.mpr hne
  rw [getSupportedFormat, hfind]
  dsimp only
  rw [hsupport, getAfbcFormat_sparse hsparse, hext, hmulti, hkept, hother, husage]
  simp [hflagsNe]

structure LegalFormat (s : Shared) (allocFormat : U64) : Prop where
  afbc : allocFormat &&& intfmtExtMask = 0#64 ∨ hasAny allocFormat intfmtAfbcBasic
  legal : hasAny allocFormat intfmtAfbcBasic →
    Legal s (isSubsampledYuv (baseFormat allocFormat)) (baseFormat allocFormat == formatRgb565)
      (modifiersOf allocFormat)

theorem hasAny_of_ext_eq_zero {allocFormat : U64} (h : allocFormat &&& intfmtExtMask = 0#64) :
    hasAny allocFormat intfmtAfbcBasic = false := by
  have hbit : intfmtAfbcBasic = intfmtExtMask &&& intfmtAfbcBasic := by decide
  rw [hasAny, hbit, ← BitVec.and_assoc, h, zero_and]
  rfl

theorem legalFormat_of_ext_eq_zero (s : Shared) {allocFormat : U64}
    (h : allocFormat &&& intfmtExtMask = 0#64) : LegalFormat s allocFormat := by
  refine ⟨.inl h, ?_⟩
  intro hbasic
  rw [hasAny_of_ext_eq_zero h] at hbasic
  cases hbasic

theorem allocFormat_and_extMask (a : U64)
    (h : fmt.formatExt = a &&& intfmtExtMask) : fmt.allocFormat &&& intfmtExtMask = fmt.formatExt := by
  rw [FmtProps.allocFormat, BitVec.and_comm, BitVec.and_or_distrib_left, BitVec.and_comm intfmtExtMask,
    base_and_extMask, BitVec.zero_or, h, BitVec.and_comm intfmtExtMask, BitVec.and_assoc,
    BitVec.and_self]

theorem hasAny_allocFormat {a m : U64} (h : fmt.formatExt = a &&& intfmtExtMask) (hm : intfmtExtMask &&& m = m)
    (hlow : 0xffffffff#64 &&& m = 0#64) : hasAny fmt.allocFormat m = hasAny a m := by
  rw [FmtProps.allocFormat, hasAny_or_bits, hasAny_base _ hlow, Bool.false_or, h, hasAny, BitVec.and_assoc, hm, hasAny]

theorem modifiersOf_allocFormat {a : U64}
    (h : fmt.formatExt = a &&& intfmtExtMask) : modifiersOf fmt.allocFormat = modifiersOf a := by
  simp only [modifiersOf, hasAny_allocFormat h (m := intfmtAfbcBasic) (by decide) (by decide),
    hasAny_allocFormat h (m := intfmtAfbcSplitblk) (by decide) (by decide),
    hasAny_allocFormat h (m := intfmtAfbcWideblk) (by decide) (by decide),
    hasAny_allocFormat h (m := intfmtAfbcTiledHeaders) (by decide) (by decide),
    hasAny_allocFormat h (m := intfmtAfbcDoubleBody) (by decide) (by decide)]

theorem legalFormat_of_supported
    (h : getSupportedFormat o so ip format usage producers consumers producerCaps consumerCaps = some fmt)
    (hsparse : fmt.formatExt ≠ 0#64 → ¬SparseOnly producers consumers producerCaps consumerCaps) :
    LegalFormat (sharedOf (producerCaps &&& consumerCaps)) fmt.allocFormat := by
  have hbase := baseFormat_of_supported h
  rcases supported_ext h with hzero | ⟨-, -, hext⟩
  · apply legalFormat_of_ext_eq_zero
    rw [allocFormat_and_extMask 0#64 (by rw [hzero, zero_and]), hzero]
  · cases hwanted : modifiersWanted producers consumers producerCaps consumerCaps with
    | true =>
      obtain ⟨hbasic, hlegal⟩ := getAfbcFormat_legal ip format.id usage hwanted
      rw [← modifiersOf_allocFormat hext] at hbasic hlegal
      refine ⟨.inr hbasic, ?_⟩
      intro _
      rwa [hbase]
    | false =>
      rw [getAfbcFormat_unwanted hwanted] at hext
      cases hnonSparse : hasAny producerCaps capAfbcWriteNonSparse with
      | true =>
        apply legalFormat_of_ext_eq_zero
        rw [allocFormat_and_extMask _ hext, hext, hnonSparse]
        exact base_and_extMask format.id
      | false =>
        have hne : fmt.formatExt ≠ 0#64 := by
          rw [hext, hnonSparse]
          rw [Bool.not_false, (sparse_ext format.id).1]
          decide
        exact absurd ⟨hwanted, hnonSparse⟩ (hsparse hne)

theorem not_legalFormat_of_sparse (s : Shared)
    (h : fmt.formatExt = intfmtAfbcSparse) : ¬LegalFormat s fmt.allocFormat := by
  have hext : fmt.formatExt = intfmtAfbcSparse &&& intfmtExtMask := by
    rw [h]
    decide
  rintro ⟨hzero | hbasic, -⟩
  · rw [allocFormat_and_extMask _ hext, h] at hzero
    exact absurd hzero (by decide)
  · rw [hasAny_allocFormat hext (by decide) (by decide)] at hbasic
    exact absurd hbasic (by decide)

theorem gradeFormat_of_plain (h : fmt.formatExt = 0#64) : gradeFormat fmt = 1 := by
  rw [gradeFormat, h]
  decide

theorem gradeFormat_of_sparse (h : fmt.formatExt = intfmtAfbcSparse) : gradeFormat fmt = 2 := by
  rw [gradeFormat, h]
  decide

variable (o : BuildOptions) (so : SelectOptions) (ip : IpCaps) (reqFormat : FormatInfo)
  (usage : U64) (producers : Producers) (consumers : Consumers)
  (producerCaps consumerCaps : U64)

def SparseCandidate : Prop :=
  SparseOnly producers consumers producerCaps consumerCaps ∧ hasAll usage usageNoAfbc = false ∧
    ∃ f ∈ formats, isFormatCompatible reqFormat f ∧
      KeepsAfbc o f usage producers consumers producerCaps consumerCaps

theorem getBestFormat_legal_iff : LegalFormat (sharedOf (producerCaps &&& consumerCaps))
        (getBestFormat o so ip reqFormat usage producers consumers producerCaps consumerCaps) ↔
      ¬SparseCandidate o reqFormat usage producers consumers producerCaps consumerCaps := by
  constructor
  · rintro hlegal ⟨hsparse, husage, f, hf, hcompat, hkeeps⟩
    obtain ⟨ipFormat, hfind, hflags⟩ := id hkeeps
    obtain ⟨hprods, hcons⟩ := no_cpu_of_supported (List.mem_of_find?_eq_some hfind)
      (keepsAfbc_of_supported hflags).2
    obtain ⟨fmt, hfmt, hext⟩ := supported_sparse ip so hsparse husage hkeeps
    have hmem : fmt ∈ candidates o so ip reqFormat usage producers consumers producerCaps
        consumerCaps := (mem_candidates_iff ..).mpr ⟨f, hf, hcompat, hfmt⟩
    obtain ⟨best, hbest, hval, hgrades⟩ := getBestFormat_best o so ip reqFormat usage producers
      consumers producerCaps consumerCaps hprods hcons (List.ne_nil_of_mem hmem)
    obtain ⟨g, -, -, hsupp⟩ := (mem_candidates_iff ..).mp hbest
    have hgrade := hgrades fmt hmem
    rw [gradeFormat_of_sparse hext] at hgrade
    rw [hval] at hlegal
    rcases supported_ext hsupp with hzero | ⟨-, -, hbestExt⟩
    · rw [gradeFormat_of_plain hzero] at hgrade
      exact absurd hgrade (by decide)
    · rw [getAfbcFormat_sparse hsparse, (sparse_ext g.id).1] at hbestExt
      exact not_legalFormat_of_sparse _ hbestExt hlegal
  · intro hnone
    rcases getBestFormat_cases o so ip reqFormat usage producers consumers producerCaps consumerCaps
      with hzero | ⟨fmt, hmem, hval, -⟩
    · rw [hzero]
      exact legalFormat_of_ext_eq_zero _ zero_and
    · obtain ⟨f, hf, hcompat, hsupp⟩ := (mem_candidates_iff ..).mp hmem
      rw [hval]
      apply legalFormat_of_supported hsupp
      intro hne hsparse
      rcases supported_ext hsupp with hzero | ⟨hkeeps, husage, -⟩
      · exact hne hzero
      · exact hnone ⟨hsparse, husage, f, hf, hcompat, hkeeps⟩

end

def requestCaps (so : SelectOptions) (ip : IpCaps) (reqFormat usage : U64) (bufferSize : Int) :
    U64 × U64 :=
  match getFormat (getBaseFormat reqFormat usage true) with
  | none => (0#64, 0#64)
  | some format => activeCaps so ip format usage bufferSize

structure Chooses (reqFormat usage : U64) (format : FormatInfo) : Prop where
  found : getFormat (getBaseFormat reqFormat usage true) = some format
  defined : getBaseFormat reqFormat usage true ≠ 0#32
  internal : (exynosFormat (getBaseFormat reqFormat usage true)).isSome = false
  data : getBaseFormat reqFormat usage true ≠ formatBlob
  used : usage ≠ 0#64
  sides : ¬((getProducers usage).none ∧ (getConsumers usage).none)

def SparseAlone (o : BuildOptions) (so : SelectOptions) (ip : IpCaps) (reqFormat usage : U64)
    (bufferSize : Int) : Prop :=
  let caps := requestCaps so ip reqFormat usage bufferSize
  ∃ format, Chooses reqFormat usage format ∧
    SparseCandidate o format usage (getProducers usage) (getConsumers usage) caps.1 caps.2

section
variable (o : BuildOptions) (so : SelectOptions) (ip : IpCaps) (reqFormat : U64)
  (type : FormatType) (usage : U64) (bufferSize : Int)

variable {format : FormatInfo}

theorem id_of_getFormat {base : U32} (h : getFormat base = some format) : format.id = base := by
  have hid := List.find?_some h
  rwa [beq_iff_eq] at hid

theorem baseFormat_base (base : U32) : baseFormat (base.setWidth 64) = base := by
  rw [baseFormat, BitVec.setWidth_setWidth_of_le _ (by decide), BitVec.setWidth_eq]

theorem requestCaps_of_found {reqFormat usage : U64}
    (h : getFormat (getBaseFormat reqFormat usage true) = some format) :
    requestCaps so ip reqFormat usage bufferSize = activeCaps so ip format usage bufferSize := by
  unfold requestCaps
  generalize getFormat (getBaseFormat reqFormat usage true) = found at h
  subst h
  rfl

theorem maliGrallocSelectFormat_cases : (maliGrallocSelectFormat o so ip reqFormat type usage bufferSize = 0#64 ∨
      maliGrallocSelectFormat o so ip reqFormat type usage bufferSize =
        (getBaseFormat reqFormat usage true).setWidth 64) ∧
      ¬SparseAlone o so ip reqFormat usage bufferSize ∨
    ∃ format, Chooses reqFormat usage format ∧ maliGrallocSelectFormat o so ip reqFormat type usage bufferSize =
        getBestFormat o so ip format usage (getProducers usage) (getConsumers usage)
          (requestCaps so ip reqFormat usage bufferSize).1
          (requestCaps so ip reqFormat usage bufferSize).2 := by
  unfold maliGrallocSelectFormat
  dsimp only
  rw [hasAny_not_validUsage]
  cases hfound : getFormat (getBaseFormat reqFormat usage true) with
  | none =>
    refine .inl ⟨.inl rfl, ?_⟩
    rintro ⟨format, hchooses, -⟩
    rw [hchooses.found] at hfound
    cases hfound
  | some format =>
    dsimp only
    split_ifs with hzero hinvalid hexynos hused hsides hnoAfbc
    · exact .inl ⟨.inl rfl, fun ⟨_, hchooses, _⟩ => hchooses.defined hzero⟩
    · exact hinvalid.2.elim
    · refine .inl ⟨.inr rfl, ?_⟩
      rintro ⟨chosen, hchooses, -⟩
      rcases hexynos with hexynos | hblob
      · rw [hchooses.internal] at hexynos
        cases hexynos
      · exact hchooses.data hblob
    · exact .inl ⟨.inr rfl, fun ⟨_, hchooses, _⟩ => hchooses.used hused⟩
    · exact .inl ⟨.inl rfl, fun ⟨_, hchooses, _⟩ => hchooses.sides hsides⟩
    · refine .inl ⟨.inl rfl, ?_⟩
      rintro ⟨chosen, -, -, husage, -⟩
      rw [hnoAfbc.1] at husage
      cases husage
    · refine .inr ⟨format, ⟨hfound, hzero, ?_, ?_, hused, hsides⟩, ?_⟩
      · cases hsome : (exynosFormat (getBaseFormat reqFormat usage true)).isSome with
        | true => exact absurd (.inl hsome) hexynos
        | false => rfl
      · exact fun hblob => hexynos (.inr hblob)
      · rw [requestCaps_of_found so ip bufferSize hfound]

theorem maliGrallocSelectFormat_cpu (hcpu : (getProducers usage).cpu ∨ (getConsumers usage).cpu)
    (hselected : maliGrallocSelectFormat o so ip reqFormat type usage bufferSize ≠ 0#64) :
    baseFormat (maliGrallocSelectFormat o so ip reqFormat type usage bufferSize) =
      getBaseFormat reqFormat usage true := by
  rcases maliGrallocSelectFormat_cases o so ip reqFormat type usage bufferSize with
    ⟨hzero | hbase, -⟩ | ⟨format, hchooses, hbest⟩
  · exact absurd hzero hselected
  · rw [hbase, baseFormat_base]
  · rw [hbest] at hselected ⊢
    rcases getBestFormat_cases o so ip format usage (getProducers usage) (getConsumers usage) _ _
      with hzero | ⟨fmt, hmem, hval, hrequested⟩
    · exact absurd hzero hselected
    · obtain ⟨f, -, -, hsupp⟩ := (mem_candidates_iff ..).mp hmem
      rw [hval, baseFormat_of_supported hsupp, ← (getSupportedFormat_cases hsupp).1,
        hrequested hcpu, id_of_getFormat hchooses.found]

/-- The selected format is legal, and has the requested base format if the CPU takes part, if and
only if no format is left with the sparse modifier alone. -/
theorem maliGrallocSelectFormat_legal_iff (o : BuildOptions) (so : SelectOptions) (ip : IpCaps)
    (reqFormat : U64) (type : FormatType) (usage : U64) (bufferSize : Int) :
    (let caps := requestCaps so ip reqFormat usage bufferSize
      let selected := maliGrallocSelectFormat o so ip reqFormat type usage bufferSize
      LegalFormat (sharedOf (caps.1 &&& caps.2)) selected ∧
        ((getProducers usage).cpu ∨ (getConsumers usage).cpu → selected ≠ 0#64 →
          baseFormat selected = getBaseFormat reqFormat usage true)) ↔
      ¬SparseAlone o so ip reqFormat usage bufferSize := by
  have hcpu := maliGrallocSelectFormat_cpu o so ip reqFormat type usage bufferSize
  dsimp only
  rw [and_iff_left hcpu]
  rcases maliGrallocSelectFormat_cases o so ip reqFormat type usage bufferSize with
    ⟨hbase, hnone⟩ | ⟨format, hchooses, hbest⟩
  · refine iff_of_true ?_ hnone
    apply legalFormat_of_ext_eq_zero
    rcases hbase with hzero | hbase
    · rw [hzero, zero_and]
    · rw [hbase, base_and_extMask]
  · rw [hbest, getBestFormat_legal_iff]
    apply not_congr
    constructor
    · exact fun hsparse => ⟨format, hchooses, hsparse⟩
    · rintro ⟨chosen, hchosen, hsparse⟩
      have hsame : chosen = format := Option.some.inj (hchosen.found.symm.trans hchooses.found)
      rwa [hsame] at hsparse

end

def sparseVpu : IpCaps where
  cpu := BitVec.allOnes 64
  gpu := BitVec.allOnes 64
  dpu := BitVec.allOnes 64
  cam := BitVec.allOnes 64
  vpu := ~~~capAfbcWriteNonSparse

def transcodeUsage : U64 := usageDecoder ||| usageHwVideoEncoder

theorem transcodeUsage_sparse :
    maliGrallocSelectFormat defaultBuild defaultSelect sparseVpu 0x1006#64 .internal transcodeUsage
        (1920 * 1080) = 0x1006#64 ||| intfmtAfbcSparse ∧
      ∀ s, ¬LegalFormat s (maliGrallocSelectFormat defaultBuild defaultSelect sparseVpu 0x1006#64
        .internal transcodeUsage (1920 * 1080)) := by
  have hselected : maliGrallocSelectFormat defaultBuild defaultSelect sparseVpu 0x1006#64 .internal
      transcodeUsage (1920 * 1080) = 0x1006#64 ||| intfmtAfbcSparse := by decide
  refine ⟨hselected, ?_⟩
  intro s hlegal
  rw [hselected] at hlegal
  exact absurd hlegal.afbc (by decide)

end ExynosHal.Gralloc
