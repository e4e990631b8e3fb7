import ExynosHal.Gralloc.BestFormat
import ExynosHal.Gralloc.ExynosLayout
import ExynosHal.Gralloc.Rederive

/-! # All buffers of one request

`allocate` derives the same descriptor object once for each buffer.
-/

namespace ExynosHal.Gralloc
open Library Library.IntType
open BitVec (and_or_distrib_left or_eq_zero_iff or_zero)

def withBlobDrmWa (d : BufferDescriptor) : BufferDescriptor :=
  if d.halFormat = formatBlob.setWidth 64 ∧ d.usage = usageProtected then
    { d with
      producerUsage := d.producerUsage ||| usageDecoder
      consumerUsage := d.consumerUsage ||| usageVideoExt }
  else d

def maliGrallocBufferAllocate (o : BuildOptions) (so : SelectOptions) (ip : IpCaps)
    (d : BufferDescriptor) : Option BufferDescriptor :=
  (deriveFormatAndSize o (maliGrallocSelectFormat o so ip) (withBlobDrmWa d)).machine

def allocate (call : BufferDescriptor → Option BufferDescriptor) :
    (memory : List Bool) → (stride : Int) → BufferDescriptor → List BufferDescriptor
  | [], _, _ => []
  | allocated :: memory, stride, d =>
    match call d with
    | none => []
    | some e =>
      if !allocated then [e]
      else if stride = 0 then e :: allocate call memory e.pixelStride e
      else if stride ≠ e.pixelStride then [e]
      else e :: allocate call memory stride e

structure SameLayout (d e : BufferDescriptor) : Prop where
  allocFormat : d.allocFormat = e.allocFormat
  fdCount : d.fdCount = e.fdCount
  planeCount : d.planeCount = e.planeCount
  planeInfo : d.planeInfo = e.planeInfo
  allocSizes : d.allocSizes = e.allocSizes

def Alike (descriptors : List BufferDescriptor) : Prop := ∀ d ∈ descriptors, ∀ e ∈ descriptors, SameLayout d e

def ReadsVideoData (d : BufferDescriptor) : Prop :=
  d.halFormat = halFormatImplementationDefined ∧ hasAny d.usage usageHwVideoDecoder ∧
    hasAny d.usage usageHwTexture = false ∧ hasAny d.usage usageHwComposer = false ∧
    hasAny d.usage usageHwVideoEncoder = false ∧ hasAny d.usage usageVideoPrivateData = false ∧
    (hasAny d.usage usageHwCameraRead && hasAny d.usage usageHwCameraWrite) = false

instance (d : BufferDescriptor) : Decidable (ReadsVideoData d) :=
  inferInstanceAs (Decidable (_ ∧ _))

variable (u : U64)

theorem hasAll_or_videoData {m : U64}
    (h : usageVideoPrivateData &&& m = 0#64) : hasAll (u ||| videoData u) m = hasAll u m := by
  rw [hasAll, hasAll, BitVec.and_comm, and_or_distrib_left, BitVec.and_comm m (videoData u),
    videoData_and u h, or_zero, BitVec.and_comm]

theorem public_videoData : (u ||| videoData u) &&& ~~~usagePrivateMask = u &&& ~~~usagePrivateMask := by
  rw [BitVec.and_comm, and_or_distrib_left, BitVec.and_comm _ (videoData u),
    videoData_and u (by decide), or_zero, BitVec.and_comm]

theorem getProducers_videoData : getProducers (u ||| videoData u) = getProducers u := by
  rw [getProducers, public_videoData, getProducers]

theorem getConsumers_videoData : getConsumers (u ||| videoData u) = getConsumers u := by
  rw [getConsumers, public_videoData, getConsumers]

variable (format : FormatInfo)

theorem keepsAfbc_videoData (u : U64) (producers : Producers) (producerCaps consumerCaps : U64) :
    keepsAfbc format (u ||| videoData u) producers producerCaps consumerCaps =
      keepsAfbc format u producers producerCaps consumerCaps := by
  have hfront := hasAny_or_videoData (m := usageFrontbuffer) u (by decide)
  rw [keepsAfbc, hfront, keepsAfbc]

theorem isFormatSupported_videoData (ipFormat : FormatIpSupport)
    (u : U64) (producers : Producers) (consumers : Consumers)
    (producerCaps consumerCaps : U64) :
    isFormatSupported format ipFormat (u ||| videoData u) producers consumers producerCaps consumerCaps =
      isFormatSupported format ipFormat u producers consumers producerCaps consumerCaps := by
  rw [isFormatSupported, keepsAfbc_videoData, isFormatSupported]

theorem getAfbcFormat_videoData (ip : IpCaps) (base : U32) (u : U64)
    (producers : Producers) (consumers : Consumers) (producerCaps consumerCaps : U64) :
    getAfbcFormat ip base (u ||| videoData u) producers consumers producerCaps consumerCaps =
      getAfbcFormat ip base u producers consumers producerCaps consumerCaps := by
  have hfront := hasAny_or_videoData (m := usageFrontbuffer) u (by decide)
  simp only [getAfbcFormat, hfront]

theorem getSupportedFormat_videoData (o : BuildOptions) (so : SelectOptions) (ip : IpCaps)
    (format : FormatInfo) (u : U64) (producers : Producers) (consumers : Consumers)
    (producerCaps consumerCaps : U64) :
    getSupportedFormat o so ip format (u ||| videoData u) producers consumers producerCaps consumerCaps =
      getSupportedFormat o so ip format u producers consumers producerCaps consumerCaps := by
  have hafbc := hasAll_or_videoData (m := usageNoAfbc) u (by decide)
  rw [getSupportedFormat, getSupportedFormat]
  cases (formatsIpSupport o).find? fun entry => entry.id == format.id with
  | none => rfl
  | some ipFormat =>
    simp only [supportFlags, isFormatSupported_videoData, getAfbcFormat_videoData, hafbc]

theorem activeCaps_videoData (so : SelectOptions) (ip : IpCaps) (format : FormatInfo)
    (u : U64) (bufferSize : Int) :
    activeCaps so ip format (u ||| videoData u) bufferSize = activeCaps so ip format u bufferSize := by
  have hfb := hasAny_or_videoData (m := usageHwFb) u (by decide)
  simp only [activeCaps, hfb, getProducers_videoData, getConsumers_videoData]

theorem hasAny_not_validUsage : hasAny u (~~~validUsage) = false := by
  have hnone : ~~~validUsage = 0#64 := BitVec.not_allOnes
  rw [hnone]
  simp [hasAny]

theorem getBestFormat_videoData (o : BuildOptions) (so : SelectOptions) (ip : IpCaps)
    (format : FormatInfo) (u : U64) (producers : Producers) (consumers : Consumers)
    (producerCaps consumerCaps : U64) :
    getBestFormat o so ip format (u ||| videoData u) producers consumers producerCaps consumerCaps =
      getBestFormat o so ip format u producers consumers producerCaps consumerCaps := by
  have hsame : (fun f => getSupportedFormat o so ip f (u ||| videoData u) producers consumers
      producerCaps consumerCaps) =
      fun f => getSupportedFormat o so ip f u producers consumers producerCaps consumerCaps :=
    funext fun f => getSupportedFormat_videoData o so ip f u producers consumers producerCaps consumerCaps
  rw [getBestFormat, hsame, getBestFormat]

variable {o : BuildOptions} {so : SelectOptions} {ip : IpCaps} {reqFormat u : U64}

theorem maliGrallocSelectFormat_of_base (type : FormatType) (bufferSize : Int)
    (hbase : getBaseFormat reqFormat (u ||| videoData u) true = getBaseFormat reqFormat u true) :
    maliGrallocSelectFormat o so ip reqFormat type (u ||| videoData u) bufferSize =
      maliGrallocSelectFormat o so ip reqFormat type u bufferSize := by
  have hafbc := hasAll_or_videoData (m := usageNoAfbc) u (by decide)
  unfold maliGrallocSelectFormat
  dsimp only
  rw [hbase]
  generalize getFormat (getBaseFormat reqFormat u true) = found
  cases found with
  | none => rfl
  | some format =>
    dsimp only
    rw [hasAny_not_validUsage, hasAny_not_validUsage, getProducers_videoData,
      getConsumers_videoData, hafbc, activeCaps_videoData, getBestFormat_videoData]
    simp only [or_videoData_eq_iff (m := 0#64) u (by decide) (by decide)]

theorem videoData_eq_zero {u : U64}
    (h : hasAny u (usageHwVideoEncoder ||| usageHwVideoDecoder) = false) : videoData u = 0#64 := by
  rw [videoData, h]
  rfl

theorem hasAny_or_mask (u m n : U64) : hasAny u (m ||| n) = (hasAny u m || hasAny u n) := by
  rw [Bool.eq_iff_iff, Bool.or_eq_true]
  simp only [hasAny, bne_iff_ne, and_or_distrib_left, ne_eq, or_eq_zero_iff]
  exact Decidable.not_and_iff_or_not

theorem mapFlexFormat_videoData
    (h : ¬(reqFormat = halFormatImplementationDefined ∧ hasAny u usageHwVideoDecoder ∧
      hasAny u usageHwTexture = false ∧ hasAny u usageHwComposer = false ∧
      hasAny u usageHwVideoEncoder = false ∧ hasAny u usageVideoPrivateData = false)) :
    mapFlexFormat reqFormat (u ||| videoData u) = mapFlexFormat reqFormat u := by
  have htexture := hasAny_or_videoData (m := usageHwTexture) u (by decide)
  have hcomposer := hasAny_or_videoData (m := usageHwComposer) u (by decide)
  have hrange := hasAny_or_videoData (m := usageYuvRangeFull) u (by decide)
  have hencoder := hasAny_or_videoData (m := usageHwVideoEncoder) u (by decide)
  have hread := hasAny_or_videoData (m := usageHwCameraRead) u (by decide)
  have hwrite := hasAny_or_videoData (m := usageHwCameraWrite) u (by decide)
  have hvideo := hasAny_or_videoData (m := usageHwVideoEncoder ||| usageHwVideoDecoder) u (by decide)
  have hsbwc := hasAny_or_videoData (m := usageSbwcRequest10bit) u (by decide)
  have hrender := hasAny_or_videoData (m := usageHwRender ||| usageHwTexture) u (by decide)
  have hcamera := or_videoData_eq_iff (m := usageHwCameraWrite ||| usageHwTexture) u (by decide) (by decide)
  simp only [mapFlexFormat, htexture, hcomposer, hrange, hencoder, hread, hwrite, hvideo, hsbwc, hrender, hcamera]
  rcases eq_or_ne reqFormat halFormatImplementationDefined with rfl | hne
  · cases hdecoder : hasAny u usageHwVideoDecoder with
    | false =>
      cases henc : hasAny u usageHwVideoEncoder with
      | false =>
        have hzero : videoData u = 0#64 := videoData_eq_zero (by rw [hasAny_or_mask, henc, hdecoder]; rfl)
        rw [hzero, or_zero]
      | true => rfl
    | true =>
      simp only [hdecoder, true_and] at h
      cases ht : hasAny u usageHwTexture with
      | true => rfl
      | false =>
        cases hc : hasAny u usageHwComposer with
        | true => rfl
        | false =>
          cases henc : hasAny u usageHwVideoEncoder with
          | true => rfl
          | false =>
            cases hp : hasAny u usageVideoPrivateData with
            | true =>
              have hp' : hasAny (u ||| videoData u) usageVideoPrivateData := by
                rw [hasAny, bne_iff_ne] at hp ⊢
                intro hnone
                rw [BitVec.and_comm, and_or_distrib_left, or_eq_zero_iff] at hnone
                exact hp (by rw [BitVec.and_comm]; exact hnone.1)
              rw [hp']
            | false => exact absurd ⟨ht, hc, henc, hp⟩ h
  · rw [if_neg hne, if_neg hne]

theorem exynosFormat_of_compatible : ∀ reqFormat, getFormat 0x1001#32 = some reqFormat →
      ∀ f ∈ formats, isFormatCompatible reqFormat f → exynosFormat f.id = none := by
  rintro _ ⟨⟩
  decide

theorem maliGrallocSelectFormat_ycbcr422 (o : BuildOptions) (so : SelectOptions) (ip : IpCaps)
    (reqFormat u : U64) (type : FormatType) (bufferSize : Int)
    (hbase : getBaseFormat reqFormat u true = 0x1001#32) :
    exynosFormat (baseFormat (maliGrallocSelectFormat o so ip reqFormat type u bufferSize)) =
      none := by
  unfold maliGrallocSelectFormat
  dsimp only
  rw [hbase]
  cases hfmt : getFormat 0x1001#32 with
  | none => rfl
  | some format =>
    dsimp only
    split_ifs
    · rfl
    · rfl
    · rfl
    · rfl
    · rfl
    · rfl
    · generalize activeCaps so ip format u bufferSize = caps
      rcases getBestFormat_cases o so ip format u (getProducers u) (getConsumers u) caps.1 caps.2
        with hnone | ⟨fmt, hmem, hbest, -⟩
      · rw [hnone]
        rfl
      · obtain ⟨f, hf, hcompat, hsupp⟩ := (mem_candidates_iff ..).mp hmem
        rw [hbest, baseFormat_of_supported hsupp]
        exact exynosFormat_of_compatible format hfmt f hf hcompat

variable {d : BufferDescriptor}

theorem select_videoData (h : ¬ReadsVideoData d) (hexynos : (exynosFormat (baseFormat
      (selectFor (maliGrallocSelectFormat o so ip) d d.usage))).isSome) :
    selectFor (maliGrallocSelectFormat o so ip) d (d.usage ||| videoData d.usage) =
      selectFor (maliGrallocSelectFormat o so ip) d d.usage := by
  rw [selectFor] at hexynos
  apply maliGrallocSelectFormat_of_base
  rw [getBaseFormat, getBaseFormat]
  apply congrArg (getInternalFormat · true)
  apply mapFlexFormat_videoData
  rintro ⟨hfmt, hdecoder, htexture, hcomposer, hencoder, hpriv⟩
  have hcamera : (hasAny d.usage usageHwCameraRead && hasAny d.usage usageHwCameraWrite) := by
    rw [← Bool.not_eq_false]
    intro hcamera
    exact h ⟨hfmt, hdecoder, htexture, hcomposer, hencoder, hpriv, hcamera⟩
  have hflex : mapFlexFormat d.halFormat d.usage = halFormatYcbcr422I := by
    simp only [mapFlexFormat, hfmt, if_true, htexture, hcomposer, hencoder, hpriv, hcamera,
      Bool.or_self, Bool.false_eq_true, if_false]
  have hnone := maliGrallocSelectFormat_ycbcr422 o so ip d.halFormat d.usage
    d.formatType (i32.convert (u32.convert (d.width.toNat * d.height.toNat)))
    (by rw [getBaseFormat, hflex]; decide)
  rw [hnone] at hexynos
  cases hexynos

variable {selectFormat : SelectFormat} {d e : BufferDescriptor}

theorem deriveFormatAndSize_usage (he : (deriveFormatAndSize o selectFormat d).machine = some e) :
    e.halFormat = d.halFormat ∧ (e.usage = d.usage ∨ e.usage = d.usage ||| videoData d.usage) := by
  cases hresolve : resolveFormat selectFormat d with
  | none =>
    simp only [deriveFormatAndSize, hresolve] at he
    cases he
  | some resolved =>
    obtain ⟨allocFormat, format, t⟩ := resolved
    cases hf : exynosFormat (baseFormat allocFormat) with
    | some f =>
      rw [deriveFormatAndSize_resolved hresolve (layoutBuffer_exynos format t hf) rfl] at he
      cases he
      exact ⟨rfl, .inr (usage_or _ _ _)⟩
    | none =>
      rw [deriveFormatAndSize_resolved hresolve (layoutBuffer_plain format t hf) rfl] at he
      cases he
      exact ⟨rfl, .inl rfl⟩

theorem withBlobDrmWa_of_hal (h : d.halFormat ≠ formatBlob.setWidth 64) : withBlobDrmWa d = d := by
  rw [withBlobDrmWa, if_neg]
  exact fun hblob => h hblob.1

theorem withBlobDrmWa_of_usage (h : d.usage ≠ usageProtected) : withBlobDrmWa d = d := by
  rw [withBlobDrmWa, if_neg]
  exact fun hblob => h hblob.2

theorem withBlobDrmWa_halFormat (d : BufferDescriptor) : (withBlobDrmWa d).halFormat = d.halFormat := by
  rw [withBlobDrmWa]
  split <;> rfl

theorem withBlobDrmWa_usage (h : d.halFormat = formatBlob.setWidth 64) : (withBlobDrmWa d).usage ≠ usageProtected := by
  rw [withBlobDrmWa]
  split
  · rename_i hblob
    intro heq
    have hvideo : usageVideoExt &&& ((d.producerUsage ||| usageDecoder) |||
        (d.consumerUsage ||| usageVideoExt)) = usageVideoExt := by
      ext i
      simp only [BitVec.getElem_or, BitVec.getElem_and]
      cases usageVideoExt[i] <;> simp
    change (d.producerUsage ||| usageDecoder) ||| (d.consumerUsage ||| usageVideoExt) = usageProtected at heq
    rw [heq] at hvideo
    exact absurd hvideo (by decide)
  · rename_i hblob
    exact fun heq => hblob ⟨h, heq⟩

theorem withBlobDrmWa_again (he : (deriveFormatAndSize o selectFormat (withBlobDrmWa d)).machine = some e) :
    withBlobDrmWa e = e := by
  obtain ⟨hhal, husage⟩ := deriveFormatAndSize_usage he
  rw [withBlobDrmWa_halFormat] at hhal
  rcases eq_or_ne d.halFormat (formatBlob.setWidth 64) with hblob | hblob
  · have hne := withBlobDrmWa_usage hblob
    apply withBlobDrmWa_of_usage
    rcases husage with heq | heq
    · rwa [heq]
    · rwa [heq, ne_eq, or_videoData_eq_iff _ (by decide) (by decide)]
  · exact withBlobDrmWa_of_hal (by rwa [hhal])

theorem readsVideoData_withBlobDrmWa (d : BufferDescriptor) : ReadsVideoData (withBlobDrmWa d) ↔ ReadsVideoData d := by
  rcases eq_or_ne d.halFormat (formatBlob.setWidth 64) with hblob | hblob
  · constructor
    · rintro ⟨hfmt, -⟩
      rw [withBlobDrmWa_halFormat, hblob] at hfmt
      exact absurd hfmt (by decide)
    · rintro ⟨hfmt, -⟩
      rw [hblob] at hfmt
      exact absurd hfmt (by decide)
  · rw [withBlobDrmWa_of_hal hblob]

section
variable {call : BufferDescriptor → Option BufferDescriptor} {d e : BufferDescriptor}

theorem allocate_cons_cases (memory : List Bool) (allocated : Bool) (stride : Int) {x : BufferDescriptor}
    (hx : x ∈ allocate call (allocated :: memory) stride d) :
    ∃ e, call d = some e ∧ (x = e ∨ ∃ stride, x ∈ allocate call memory stride e) := by
  rw [allocate] at hx
  cases he : call d with
  | none =>
    rw [he] at hx
    cases hx
  | some e =>
    rw [he] at hx
    dsimp only at hx
    refine ⟨e, rfl, ?_⟩
    split_ifs at hx
    · exact .inl (List.mem_singleton.mp hx)
    · exact (List.mem_cons.mp hx).imp_right fun hx => ⟨_, hx⟩
    · exact .inl (List.mem_singleton.mp hx)
    · exact (List.mem_cons.mp hx).imp_right fun hx => ⟨_, hx⟩

theorem allocate_of_fixed (he : call e = some e) (memory : List Bool) (stride : Int) :
    ∀ x ∈ allocate call memory stride e, x = e := by
  induction memory generalizing stride with
  | nil =>
    intro x hx
    cases hx
  | cons allocated memory ih =>
    intro x hx
    obtain ⟨e', he', hx⟩ := allocate_cons_cases memory allocated stride hx
    rw [he] at he'
    cases he'
    rcases hx with rfl | ⟨next, hx⟩
    · rfl
    · exact ih next x hx

theorem allocate_of_again (h : ∀ e, call d = some e → call e = some e) (memory : List Bool)
    (stride : Int) : ∀ x ∈ allocate call memory stride d, call d = some x := by
  intro x hx
  cases memory with
  | nil => cases hx
  | cons allocated memory =>
    obtain ⟨e, he, hx⟩ := allocate_cons_cases memory allocated stride hx
    rcases hx with rfl | ⟨next, hx⟩
    · exact he
    · rw [allocate_of_fixed (h e he) memory next x hx, he]

theorem mem_allocate_two {e' : BufferDescriptor} (he : call d = some e) (he' : call e = some e') :
    e ∈ allocate call [true, true] 0 d ∧ e' ∈ allocate call [true, true] 0 d := by
  simp only [allocate, he, he', Bool.not_true, Bool.false_eq_true, if_false, if_true]
  split_ifs <;> simp

end

section
variable {o : BuildOptions} {so : SelectOptions} {ip : IpCaps} {d e : BufferDescriptor}

variable (o so ip) in
theorem maliGrallocBufferAllocate_again (h : ¬ReadsVideoData d) (he : maliGrallocBufferAllocate o so ip d = some e) :
    maliGrallocBufferAllocate o so ip e = some e := by
  rw [maliGrallocBufferAllocate] at he
  rw [maliGrallocBufferAllocate, withBlobDrmWa_again he]
  apply deriveFormatAndSize_twice he
  intro hexynos
  exact select_videoData (fun hreads => h ((readsVideoData_withBlobDrmWa d).mp hreads)) hexynos

theorem alike_of_not_readsVideoData (h : ¬ReadsVideoData d) (memory : List Bool) (stride : Int) :
    Alike (allocate (maliGrallocBufferAllocate o so ip) memory stride d) := by
  have hsame := allocate_of_again (fun e he => maliGrallocBufferAllocate_again o so ip h he) memory stride
  intro x hx y hy
  have hxy : x = y := by
    have hx' := hsame x hx
    rw [hsame y hy] at hx'
    exact (Option.some.inj hx').symm
  subst hxy
  exact ⟨rfl, rfl, rfl, rfl, rfl⟩

theorem hasAny_videoData_private {u : U64} (h : hasAny u usageHwVideoDecoder) :
    hasAny (u ||| videoData u) usageVideoPrivateData := by
  have hvideo : videoData u = usageVideoPrivateData := by
    rw [videoData, hasAny_or_mask, h, Bool.or_true]
    rfl
  rw [hvideo, hasAny, bne_iff_ne, BitVec.and_comm, and_or_distrib_left]
  intro hnone
  exact absurd (or_eq_zero_iff.mp hnone).2 (by decide)

variable {format : U32}

theorem getFormat_decoder (h : format = exynosYcrcb420SpM ∨ format = exynosYcbcr420SpM) :
    ∃ f, getFormat format = some f ∧ f.linear ∧ f.id = format ∧ f.npln = 2 := by
  rcases h with rfl | rfl
  · exact ⟨exynosInfo 0x11d#32 2 ⟨8, 16, 0⟩ 1 1, by decide, rfl, rfl, rfl⟩
  · exact ⟨exynosInfo 0x105#32 2 ⟨8, 16, 0⟩ 1 1, by decide, rfl, rfl, rfl⟩

variable (o so ip) in
theorem deriveFormatAndSize_decoder (hfmt : format = exynosYcrcb420SpM ∨ format = exynosYcbcr420SpM)
    (hflex : mapFlexFormat d.halFormat d.usage = format) :
    ∃ e, (deriveFormatAndSize o (maliGrallocSelectFormat o so ip) d).machine = some e ∧
      e.allocFormat = format.setWidth 64 ∧ e.halFormat = d.halFormat ∧
      e.usage = d.usage ||| videoData d.usage := by
  obtain ⟨info, hinfo, hlin, hid, hnpln⟩ := getFormat_decoder hfmt
  have hbase : getBaseFormat d.halFormat d.usage true = format := by
    rw [getBaseFormat, hflex]
    rcases hfmt with rfl | rfl <;> decide
  have hexynos : (exynosFormat format).isSome := by
    rcases hfmt with rfl | rfl <;> decide
  have hzero : format ≠ 0#32 := by
    rcases hfmt with rfl | rfl <;> decide
  have hselect : ∀ size, maliGrallocSelectFormat o so ip d.halFormat d.formatType d.usage size =
      format.setWidth 64 := by
    intro size
    unfold maliGrallocSelectFormat
    dsimp only
    rw [hbase, hinfo]
    dsimp only
    rw [if_neg hzero, if_neg (by rw [hasAny_not_validUsage]; simp), if_pos (.inl hexynos)]
  have hwide : (format.setWidth 64 : U64) ≠ 0#64 := by
    rcases hfmt with rfl | rfl <;> decide
  have hnarrow : baseFormat (format.setWidth 64) = format := by
    rcases hfmt with rfl | rfl <;> decide
  have hnoExt : hasAny (format.setWidth 64) intfmtAfbcBasic = false := by
    rcases hfmt with rfl | rfl <;> decide
  have hblob : (format == formatBlob) = false := by
    rcases hfmt with rfl | rfl <;> decide
  obtain ⟨t, ht, hvalid⟩ : ∃ t, getAllocType (format.setWidth 64) info d.usage = some t ∧
      validateFormat info t d.height := by
    refine ⟨_, by rw [getAllocType, hnoExt]; rfl, ?_⟩
    simp [validateFormat, AllocType.isAfbc, hlin, hid, hblob]
  have hresolve : resolveFormat (maliGrallocSelectFormat o so ip) d = some (format.setWidth 64, info, t) := by
    simp only [resolveFormat, hselect, hwide, if_false, hnarrow, hinfo, ht, hvalid, if_true]
  obtain ⟨f, hf⟩ := Option.isSome_iff_exists.mp hexynos
  rw [← hnarrow] at hf
  exact ⟨_, deriveFormatAndSize_resolved hresolve (layoutBuffer_exynos info t hf) rfl, rfl, rfl, usage_or _ _ _⟩

theorem mapFlexFormat_decoder (h : ReadsVideoData d) : mapFlexFormat d.halFormat d.usage = exynosYcrcb420SpM ∧
      mapFlexFormat d.halFormat (d.usage ||| videoData d.usage) = exynosYcbcr420SpM := by
  obtain ⟨hfmt, hdecoder, htexture, hcomposer, hencoder, hpriv, hcamera⟩ := h
  have htexture' := hasAny_or_videoData (m := usageHwTexture) d.usage (by decide)
  have hcomposer' := hasAny_or_videoData (m := usageHwComposer) d.usage (by decide)
  have hencoder' := hasAny_or_videoData (m := usageHwVideoEncoder) d.usage (by decide)
  constructor
  · simp [mapFlexFormat, hfmt, htexture, hcomposer, hencoder, hpriv, hcamera]
  · simp [mapFlexFormat, hfmt, htexture', htexture, hcomposer', hcomposer, hencoder', hencoder,
      hasAny_videoData_private hdecoder]

variable (o so ip) in
theorem deriveFormatAndSize_readsVideoData (h : ReadsVideoData d) :
    ∃ e e', (deriveFormatAndSize o (maliGrallocSelectFormat o so ip) d).machine = some e ∧
      (deriveFormatAndSize o (maliGrallocSelectFormat o so ip) e).machine = some e' ∧
      e.halFormat = halFormatImplementationDefined ∧ e.allocFormat ≠ e'.allocFormat := by
  obtain ⟨hfst, hsnd⟩ := mapFlexFormat_decoder h
  obtain ⟨e, he, halloc, hhal, husage⟩ := deriveFormatAndSize_decoder o so ip (.inl rfl) hfst
  rw [← husage, ← hhal] at hsnd
  obtain ⟨e', he', halloc', -, -⟩ := deriveFormatAndSize_decoder o so ip (.inr rfl) hsnd
  refine ⟨e, e', he, he', hhal.trans h.1, ?_⟩
  rw [halloc, halloc']
  decide

theorem not_alike_of_readsVideoData (h : ReadsVideoData d) :
    ¬Alike (allocate (maliGrallocBufferAllocate o so ip) [true, true] 0 d) := by
  obtain ⟨e, e', he, he', hhal, hne⟩ := deriveFormatAndSize_readsVideoData o so ip h
  have hwa : withBlobDrmWa d = d := withBlobDrmWa_of_hal (by rw [h.1]; decide)
  have hwa' : withBlobDrmWa e = e := withBlobDrmWa_of_hal (by rw [hhal]; decide)
  have hcall : maliGrallocBufferAllocate o so ip d = some e := by
    rw [maliGrallocBufferAllocate, hwa, he]
  have hcall' : maliGrallocBufferAllocate o so ip e = some e' := by
    rw [maliGrallocBufferAllocate, hwa', he']
  have hmem := mem_allocate_two hcall hcall'
  intro halike
  exact hne (halike e hmem.1 e' hmem.2).allocFormat

/-- The buffers of a request are alike exactly if no choice of the format reads the video usage
that a derivation sets. -/
theorem allocate_alike_iff (o : BuildOptions) (so : SelectOptions) (ip : IpCaps) (d : BufferDescriptor) :
    ((∀ memory, Alike (allocate (maliGrallocBufferAllocate o so ip) memory 0 d)) ↔ ¬ReadsVideoData d) ∧
    ((∀ e, (deriveFormatAndSize o (maliGrallocSelectFormat o so ip) d).machine = some e →
      ∃ e', (deriveFormatAndSize o (maliGrallocSelectFormat o so ip) e).machine = some e' ∧
        SameLayout e e') ↔ ¬ReadsVideoData d) := by
  constructor
  · constructor
    · intro h hreads
      exact not_alike_of_readsVideoData hreads (h [true, true])
    · intro h memory
      exact alike_of_not_readsVideoData h memory 0
  · constructor
    · intro h hreads
      obtain ⟨e, e', he, he', -, hne⟩ := deriveFormatAndSize_readsVideoData o so ip hreads
      obtain ⟨e'', he'', hsame⟩ := h e he
      rw [he'] at he''
      cases he''
      exact hne hsame.allocFormat
    · intro h e he
      exact ⟨e, deriveFormatAndSize_twice he (select_videoData h), rfl, rfl, rfl, rfl, rfl⟩

end

def decoderRequest : BufferDescriptor := .fresh 64 64 usageHwVideoDecoder 0 halFormatImplementationDefined 1 .usage

def noCaps : IpCaps := ⟨0, 0, 0, 0, 0⟩

theorem decoderRequest_not_alike :
    (allocate (maliGrallocBufferAllocate defaultBuild defaultSelect noCaps) [true, true] 0
        decoderRequest).map (·.allocFormat) = [0x11D#64, 0x105#64] ∧
      ¬Alike (allocate (maliGrallocBufferAllocate defaultBuild defaultSelect noCaps) [true, true] 0 decoderRequest) :=
  ⟨by decide, not_alike_of_readsVideoData (by decide)⟩

end ExynosHal.Gralloc
