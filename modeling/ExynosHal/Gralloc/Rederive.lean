import ExynosHal.Gralloc.BufferAllocation

/-! # Deriving a descriptor twice

A derivation writes the planes, the sizes and two usages of the descriptor it reads.
-/

namespace ExynosHal.Gralloc
open Library Library.IntType
open BitVec (or_zero)

theorem fillSemiPlanar_twice (luma chroma : PlaneDims) (fdCount : Int) (plane : Planes) :
    (fillSemiPlanar luma chroma fdCount (fillSemiPlanar luma chroma fdCount plane).machine).machine
      = (fillSemiPlanar luma chroma fdCount plane).machine := by
  by_cases h : fdCount > 1 <;> simp [fillSemiPlanar, PlaneDims.fill, h]

variable (o : BuildOptions)

theorem setup420P_twice (width height fdCount : Int) (plane : Planes) :
    (setup420P o width height fdCount (setup420P o width height fdCount plane).machine.1).machine
      = (setup420P o width height fdCount plane).machine := by
  by_cases h : fdCount > 1 <;> simp [setup420P, PlaneDims.fill, h]

theorem setup420Sp_twice (width height fdCount padding : Int) (plane : Planes) :
    (setup420Sp o width height fdCount (setup420Sp o width height fdCount plane padding).machine.1
      padding).machine = (setup420Sp o width height fdCount plane padding).machine := by
  simp [setup420Sp, fillSemiPlanar_twice]

theorem setupFormat_twice (format : ExynosFormat) (w h : Int) (plane : Planes) :
    (setupFormat o format w h (setupFormat o format w h plane).machine.1.1).machine =
      (setupFormat o format w h plane).machine := by
  cases format with
  | ycbcr420Spn =>
    by_cases hvendor : o.productVendorT <;> simp [setupFormat, hvendor, setup420Sp_twice]
  | ycrcb420Sp | ycrcb420SpM | ycrcb420SpMFull | ycbcr420SpM =>
    simp [setupFormat, setup420Sp_twice]
  | yv12M | ycbcr420P | ycbcr420PM => simp [setupFormat, setup420P_twice]
  | _ =>
    simp [setupFormat, setupSbwc420Sp, setupSbwc420Sp10bit, setupSbwc420SpLossy, fillSbwcLossy,
      setupSbwc420Sp10bitLossy, setup420SpTiled, setup420SpS10b, setupP010Sp, fillSemiPlanar_twice]

theorem setupFormat_fdCount_pos (format : ExynosFormat) (w h : Int)
    (plane : Planes) : 0 < (setupFormat o format w h plane).machine.2 := by
  cases format with
  | ycbcr420Spn =>
    by_cases hvendor : o.productVendorT <;> simp [setupFormat, hvendor]
  | _ => simp [setupFormat]

variable (plane : Planes)

theorem fillAllocSizes_getElem? (planeCount : Int) (fds : List Nat) (allocSizes : List Int) (i : Nat) :
    (fillAllocSizes plane planeCount fds allocSizes).machine[i]? =
      if i ∈ fds then allocSizes[i]?.map fun _ => (fdAllocSize plane planeCount i).machine
      else allocSizes[i]? := by
  induction fds generalizing allocSizes with
  | nil => rfl
  | cons fd fds ih =>
    simp only [fillAllocSizes, Arith.machine_bind]
    rw [ih, List.getElem?_set]
    by_cases hi : fd = i
    · subst hi
      by_cases hlt : fd < allocSizes.length <;> (by_cases hmem : fd ∈ fds <;> simp [hmem, hlt])
    · simp [hi, Ne.symm hi]

theorem fillAllocSizes_length (planeCount : Int) (fds : List Nat) (allocSizes : List Int) :
    (fillAllocSizes plane planeCount fds allocSizes).machine.length = allocSizes.length := by
  induction fds generalizing allocSizes with
  | nil => rfl
  | cons fd fds ih =>
    simp only [fillAllocSizes, Arith.machine_bind]
    rw [ih, List.length_set]

theorem fillAllocSizes_twice (planeCount : Int) {fds : List Nat} (h : 0 ∈ fds) (allocSizes : List Int) (size : Int) :
    (fillAllocSizes plane planeCount fds
      ((fillAllocSizes plane planeCount fds allocSizes).machine.set 0 size)).machine =
      (fillAllocSizes plane planeCount fds allocSizes).machine := by
  apply List.ext_getElem?
  intro i
  rw [fillAllocSizes_getElem?, fillAllocSizes_getElem?, List.getElem?_set, fillAllocSizes_getElem?,
    fillAllocSizes_length]
  by_cases hi : i ∈ fds
  · rcases Nat.eq_zero_or_pos i with rfl | hpos
    · cases allocSizes <;> simp [h]
    · have hne : 0 ≠ i := by omega
      simp [hi, hne, Function.comp_def]
  · have hne : 0 ≠ i := by
      rintro rfl
      exact hi h
    simp [hi, hne]

theorem prepareDescriptor_twice (format : ExynosFormat) (width height : Int)
    (plane : Planes) (allocSizes : List Int) {layout : ExynosLayout}
    (h : (prepareDescriptorExynosFormats o format width height plane allocSizes).machine = layout)
    (size : Int) :
    (prepareDescriptorExynosFormats o format width height layout.planeInfo
      (layout.allocSizes.set 0 size)).machine = layout := by
  subst h
  have hpos := setupFormat_fdCount_pos o format (i32.convert width) (i32.convert height) plane
  have hmem : 0 ∈ List.range (setupFormat o format (i32.convert width) (i32.convert height) plane).machine.2.toNat :=
    List.mem_range.mpr (by omega)
  simp [prepareDescriptorExynosFormats, setupFormat_twice, fillAllocSizes_twice _ _ hmem]

variable {format : FormatInfo}

theorem npln_of_getFormat {id : U32} (h : getFormat id = some format) :
    format.npln = 1 ∨ format.npln = 2 ∨ format.npln = 3 := by
  have hall : ∀ f ∈ formats, f.npln = 1 ∨ f.npln = 2 ∨ f.npln = 3 := by decide
  exact hall format (List.mem_of_find?_eq_some h)

theorem calcAllocationSize_twice (t : AllocType) (usage : U64) (width height : Int) (planeInfo : Planes)
    (hnpln : format.npln = 1 ∨ format.npln = 2 ∨ format.npln = 3) :
    (calcAllocationSize o format t usage width height
      (calcAllocationSize o format t usage width height planeInfo).machine.2).machine =
      (calcAllocationSize o format t usage width height planeInfo).machine := by
  rcases hnpln with h | h | h
  all_goals simp [calcAllocationSize, h, List.range_succ, placePlanes, Planes.get, Planes.set]

theorem machine_op (ty : IntType) (x : Int) : (ty.op x).machine = ty.convert x := by
  rw [op_machine]

def videoData (usage : U64) : U64 :=
  if hasAny usage (usageHwVideoEncoder ||| usageHwVideoDecoder) then usageVideoPrivateData else 0#64

variable (u : U64)

theorem hasAny_or {m v : U64} (h : v &&& m = 0#64) : hasAny (u ||| v) m = hasAny u m := by
  rw [hasAny, hasAny, BitVec.and_comm, BitVec.and_or_distrib_left, BitVec.and_comm m v, h, or_zero, BitVec.and_comm]

variable {m : U64}

theorem videoData_and (h : usageVideoPrivateData &&& m = 0#64) : videoData u &&& m = 0#64 := by
  rw [videoData]
  split
  · exact h
  · exact BitVec.zero_and

theorem hasAny_or_videoData (h : usageVideoPrivateData &&& m = 0#64) : hasAny (u ||| videoData u) m = hasAny u m :=
  hasAny_or u (videoData_and u h)

theorem videoData_again : videoData (u ||| videoData u) = videoData u := by
  have h := hasAny_or_videoData (m := usageHwVideoEncoder ||| usageHwVideoDecoder) u (by decide)
  rw [videoData, h, videoData]

theorem or_again (u v : U64) : u ||| v ||| v = u ||| v := by
  rw [BitVec.or_assoc, BitVec.or_self]

theorem usage_or (p c v : U64) : (p ||| v) ||| (c ||| v) = (p ||| c) ||| v := by
  rw [BitVec.or_assoc, ← BitVec.or_assoc v, BitVec.or_comm v c, BitVec.or_assoc c, BitVec.or_self, ← BitVec.or_assoc]

theorem getAllocType_videoData (ext : U64) (format : FormatInfo) (u : U64) :
    getAllocType ext format (u ||| videoData u) = getAllocType ext format u := by
  rw [getAllocType, getAllocType, hasAny_or_videoData u (by decide)]

theorem hasAny_not_videoData : hasAny (~~~(u ||| videoData u)) usageHfrMode = hasAny (~~~u) usageHfrMode := by
  have h : ~~~videoData u &&& usageHfrMode = usageHfrMode := by
    rw [videoData]
    split <;> decide
  rw [hasAny, hasAny, BitVec.not_or, BitVec.and_assoc, h]

theorem or_videoData_eq_iff (hvideo : videoData m = 0#64)
    (hpriv : usageVideoPrivateData &&& m = 0#64) : u ||| videoData u = m ↔ u = m := by
  constructor
  · intro h
    have hnone : videoData u &&& m = 0#64 := videoData_and u hpriv
    have hpart : videoData u &&& (u ||| videoData u) = videoData u := by
      ext i
      simp only [BitVec.getElem_or, BitVec.getElem_and]
      cases u[i] <;> cases (videoData u)[i] <;> rfl
    rw [h, hnone] at hpart
    rwa [← hpart, or_zero] at h
  · rintro rfl
    rw [hvideo, or_zero]

theorem layeredSize_videoData (d e : BufferDescriptor) (u : U64) (size : Int)
    (hlayers : e.layerCount = d.layerCount) (hfmt : e.allocFormat = d.allocFormat) :
    layeredSize e (u ||| videoData u) size = layeredSize d u size := by
  rw [layeredSize, layeredSize, hlayers, hfmt, hasAny_not_videoData]

theorem paddedSize_videoData (d e : BufferDescriptor) (u : U64)
    (width height size : Int) (hwidth : e.width = d.width) (hfmt : e.halFormat = d.halFormat) :
    paddedSize o e (u ||| videoData u) width height size = paddedSize o d u width height size := by
  have hcamera := or_videoData_eq_iff (m := usageHwCameraRead ||| usageHwCameraWrite) u (by decide) (by decide)
  simp only [paddedSize, hwidth, hfmt, hcamera]

def selectFor (selectFormat : SelectFormat) (d : BufferDescriptor) (usage : U64) : U64 :=
  selectFormat d.halFormat d.formatType usage (i32.convert (u32.convert (d.width.toNat * d.height.toNat)))

variable {selectFormat : SelectFormat} {d e : BufferDescriptor}

theorem resolveFormat_again {v : U64}
    (hwidth : e.width = d.width) (hheight : e.height = d.height) (hhal : e.halFormat = d.halFormat)
    (htype : e.formatType = d.formatType) (husage : e.usage = d.usage ||| v)
    (hv : v = 0#64 ∨ v = videoData d.usage)
    (hselect : selectFor selectFormat d e.usage = selectFor selectFormat d d.usage) :
    resolveFormat selectFormat e = resolveFormat selectFormat d := by
  have halloc : ∀ ext format, getAllocType ext format e.usage = getAllocType ext format d.usage := by
    intro ext format
    rw [husage]
    rcases hv with rfl | rfl
    · rw [or_zero]
    · exact getAllocType_videoData ext format d.usage
  rw [selectFor, selectFor] at hselect
  simp only [resolveFormat, hwidth, hheight, hhal, htype, hselect, halloc]

def strideOf (allocFormat : U64) (planeInfo : Planes) : Int :=
  i32.convert (if baseFormat allocFormat == formatRaw12 || baseFormat allocFormat == formatRaw10 then
    planeInfo.p0.byteStride else planeInfo.p0.allocWidth)

def finalSize (o : BuildOptions) (laid : BufferDescriptor) (usage : U64) (width height size : Int) : Int :=
  (paddedSize o laid usage width height (layeredSize laid usage size).machine).machine

def finished (o : BuildOptions) (laid : BufferDescriptor) (usage : U64) (width height : Int) :
    BufferDescriptor :=
  { laid with
    pixelStride := strideOf laid.allocFormat laid.planeInfo
    allocSizes := laid.allocSizes.set 0 (finalSize o laid usage width height (laid.allocSizes.getD 0 0)) }

def exynosLaid (d : BufferDescriptor) (allocFormat : U64) (layout : ExynosLayout) :
    BufferDescriptor :=
  { d with
    allocFormat := allocFormat
    producerUsage := d.producerUsage ||| videoData d.usage
    consumerUsage := d.consumerUsage ||| videoData d.usage
    allocSizes := layout.allocSizes
    fdCount := layout.fdCount
    planeCount := layout.planeCount
    planeInfo := layout.planeInfo }

def plainLaid (d : BufferDescriptor) (allocFormat : U64) (size : Int) (planeInfo : Planes) :
    BufferDescriptor :=
  { d with
    allocFormat := allocFormat
    allocSizes := d.allocSizes.set 0 size
    planeInfo := planeInfo }

variable {d : BufferDescriptor} {allocFormat : U64}

theorem layoutBuffer_exynos {o : BuildOptions} {f : ExynosFormat} (format : FormatInfo) (t : AllocType)
    (hf : exynosFormat (baseFormat allocFormat) = some f) :
    (layoutBuffer o d allocFormat format t).machine =
      (exynosLaid d allocFormat (prepareDescriptorExynosFormats o f d.width.toNat d.height.toNat
        d.planeInfo d.allocSizes).machine, i32.convert d.width.toNat, i32.convert d.height.toNat) := by
  simp only [layoutBuffer, hf, Arith.machine_bind, Arith.machine_pure, machine_op, exynosLaid, videoData]

theorem layoutBuffer_plain {o : BuildOptions}
    (format : FormatInfo) (t : AllocType) (hf : exynosFormat (baseFormat allocFormat) = none) :
    (layoutBuffer o d allocFormat format t).machine =
      let dims := (adjustDimensions o allocFormat d.usage (i32.convert d.width.toNat)
        (i32.convert d.height.toNat)).machine
      let sizes := (calcAllocationSize o format t d.usage dims.1 dims.2 d.planeInfo).machine
      (plainLaid d allocFormat sizes.1 sizes.2, dims) := by
  simp only [layoutBuffer, hf, Arith.machine_bind, Arith.machine_pure, machine_op, plainLaid]

theorem deriveFormatAndSize_resolved {o : BuildOptions} {d laid : BufferDescriptor} {t : AllocType}
    {width height : Int} (hresolve : resolveFormat selectFormat d = some (allocFormat, format, t))
    (hlaid : (layoutBuffer o d allocFormat format t).machine = (laid, width, height))
    (hfmt : laid.allocFormat = allocFormat) :
    (deriveFormatAndSize o selectFormat d).machine = some (finished o laid d.usage width height) := by
  simp only [deriveFormatAndSize, hresolve, Arith.machine_bind, hlaid, Arith.machine_pure,
    machine_op, finished, strideOf, finalSize, hfmt]

theorem usage_exynosLaid (d : BufferDescriptor) (allocFormat : U64) (layout : ExynosLayout) :
    (exynosLaid d allocFormat layout).usage = d.usage ||| videoData d.usage :=
  usage_or _ _ _

theorem finished_congr {o : BuildOptions} {laid laid' : BufferDescriptor} {u u' : U64}
    (width height : Int) (h : { laid' with pixelStride := 0 } = { laid with pixelStride := 0 })
    (hu : u' = u ∨ u' = u ||| videoData u) :
    finished o laid' u' width height = finished o laid u width height := by
  obtain ⟨w, ht, p, c, hal, layers, ty, sizes, stride, af, fds, planes, info⟩ := laid
  obtain ⟨w', ht', p', c', hal', layers', ty', sizes', stride', af', fds', planes', info'⟩ := laid'
  cases h
  have hsize : ∀ size, finalSize o ⟨w, ht, p, c, hal, layers, ty, sizes, stride', af, fds, planes, info⟩ u'
      width height size = finalSize o ⟨w, ht, p, c, hal, layers, ty, sizes, stride, af, fds, planes, info⟩ u
      width height size := by
    intro size
    have hlayered : layeredSize ⟨w, ht, p, c, hal, layers, ty, sizes, stride', af, fds, planes, info⟩ u' size =
        layeredSize ⟨w, ht, p, c, hal, layers, ty, sizes, stride, af, fds, planes, info⟩ u size := by
      rcases hu with rfl | rfl
      · simp only [layeredSize]
      · exact layeredSize_videoData _ _ u size rfl rfl
    rw [finalSize, finalSize, hlayered]
    rcases hu with rfl | rfl
    · simp only [paddedSize]
    · exact congrArg Arith.machine (paddedSize_videoData o _ _ u _ _ _ rfl rfl)
  simp only [finished, hsize]

theorem getFormat_of_resolve {t : AllocType} (h : resolveFormat selectFormat d = some (allocFormat, format, t)) :
    getFormat (baseFormat allocFormat) = some format ∧ allocFormat = selectFor selectFormat d d.usage := by
  rw [resolveFormat] at h
  split at h
  · cases h
  · split at h
    · cases h
    · rename_i f hf
      split at h
      · cases h
      · split at h
        · cases h
          exact ⟨hf, rfl⟩
        · cases h

theorem exynosLaid_finished (d : BufferDescriptor) (allocFormat : U64)
    (layout : ExynosLayout) (width height : Int) :
    { exynosLaid (finished o (exynosLaid d allocFormat layout) d.usage width height) allocFormat
        layout with pixelStride := 0 } =
      { exynosLaid d allocFormat layout with pixelStride := 0 } := by
  have husage : (finished o (exynosLaid d allocFormat layout) d.usage width height).usage =
      d.usage ||| videoData d.usage := usage_exynosLaid d allocFormat layout
  rw [exynosLaid, husage, videoData_again]
  simp only [finished, exynosLaid, or_again]

theorem plainLaid_finished (d : BufferDescriptor) (allocFormat usage : U64)
    (size : Int) (planeInfo : Planes) (width height : Int) :
    { plainLaid (finished o (plainLaid d allocFormat size planeInfo) usage width height) allocFormat
        size planeInfo with pixelStride := 0 } =
      { plainLaid d allocFormat size planeInfo with pixelStride := 0 } := by
  simp only [finished, plainLaid, List.set_set]

theorem deriveFormatAndSize_twice {o : BuildOptions}
    (he : (deriveFormatAndSize o selectFormat d).machine = some e)
    (hselect : (exynosFormat (baseFormat (selectFor selectFormat d d.usage))).isSome →
      selectFor selectFormat d (d.usage ||| videoData d.usage) = selectFor selectFormat d d.usage) :
    (deriveFormatAndSize o selectFormat e).machine = some e := by
  cases hresolve : resolveFormat selectFormat d with
  | none =>
    simp only [deriveFormatAndSize, hresolve] at he
    cases he
  | some resolved =>
    obtain ⟨allocFormat, format, t⟩ := resolved
    obtain ⟨hfmt, hselected⟩ := getFormat_of_resolve hresolve
    cases hf : exynosFormat (baseFormat allocFormat) with
    | some f =>
      rw [← hselected, hf] at hselect
      have hlaid := layoutBuffer_exynos (o := o) (d := d) format t hf
      generalize hlayout : (prepareDescriptorExynosFormats o f d.width.toNat d.height.toNat
        d.planeInfo d.allocSizes).machine = layout at hlaid
      rw [deriveFormatAndSize_resolved hresolve hlaid rfl, Option.some.injEq] at he
      have husage : e.usage = d.usage ||| videoData d.usage := by
        rw [← he]
        exact usage_exynosLaid d allocFormat layout
      have hagain : resolveFormat selectFormat e = some (allocFormat, format, t) := by
        rw [← hresolve]
        subst he
        refine resolveFormat_again rfl rfl rfl rfl husage (.inr rfl) ?_
        rw [husage, hselect rfl, hselected]
      have hlaidAgain := layoutBuffer_exynos (o := o) (d := e) format t hf
      have hsame : (prepareDescriptorExynosFormats o f e.width.toNat e.height.toNat e.planeInfo
          e.allocSizes).machine = layout := by
        subst he
        exact prepareDescriptor_twice o f d.width.toNat d.height.toNat d.planeInfo d.allocSizes hlayout _
      rw [deriveFormatAndSize_resolved hagain hlaidAgain rfl, hsame, husage]
      subst he
      exact congrArg some (finished_congr _ _ (exynosLaid_finished o d allocFormat layout _ _) (.inr rfl))
    | none =>
      have hlaid := layoutBuffer_plain (o := o) (d := d) format t hf
      dsimp only at hlaid
      generalize hdims : (adjustDimensions o allocFormat d.usage (i32.convert d.width.toNat)
        (i32.convert d.height.toNat)).machine = dims at hlaid
      have hcalc := calcAllocationSize_twice o t d.usage dims.1 dims.2 d.planeInfo (npln_of_getFormat hfmt)
      generalize hsizes : (calcAllocationSize o format t d.usage dims.1 dims.2 d.planeInfo).machine =
        sizes at hlaid hcalc
      rw [deriveFormatAndSize_resolved hresolve hlaid rfl, Option.some.injEq] at he
      have husage : e.usage = d.usage := by rw [← he]; rfl
      have hagain : resolveFormat selectFormat e = some (allocFormat, format, t) := by
        rw [← hresolve]
        subst he
        exact resolveFormat_again rfl rfl rfl rfl (or_zero).symm (.inl rfl) rfl
      have hlaidAgain := layoutBuffer_plain (o := o) (d := e) format t hf
      have hw : e.width = d.width := by rw [← he]; rfl
      have hh : e.height = d.height := by rw [← he]; rfl
      have hinfo : e.planeInfo = sizes.2 := by rw [← he]; rfl
      rw [husage, hw, hh, hdims, hinfo] at hlaidAgain
      dsimp only at hlaidAgain
      rw [hcalc] at hlaidAgain
      rw [deriveFormatAndSize_resolved hagain hlaidAgain rfl, husage]
      subst he
      exact congrArg some (finished_congr _ _ (plainLaid_finished o d allocFormat _ _ _ _ _) (.inl rfl))

end ExynosHal.Gralloc
