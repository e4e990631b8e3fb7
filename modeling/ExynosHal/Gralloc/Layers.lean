import ExynosHal.Gralloc.ExynosLayout
import ExynosHal.Gralloc.Rederive

/-! # Buffers of several layers

The layers are counted into the size of the first fd only.
-/

namespace ExynosHal.Gralloc
open Library Library.IntType
open Arith (exact_bind exact_pure fits_bind)

section

def planesBytes (body : Nat → Arith PlaneBody) (planes : List Nat) : Int :=
  (planes.map fun plane => (body plane).exact.bodySize + (body plane).exact.headerSize).sum

theorem placePlanes_exact_fst (body : Nat → Arith PlaneBody) (planes : List Nat) (size : Int) (planeInfo : Planes) :
    (placePlanes body planes size planeInfo).exact.1 = size + planesBytes body planes := by
  induction planes generalizing size planeInfo with
  | nil => simp [placePlanes, planesBytes]
  | cons plane planes ih =>
    simp only [placePlanes, exact_bind, op_exact, ih, planesBytes, List.map_cons, List.sum_cons]
    omega

variable {size : Int}

theorem placePlanes_nonneg {body : Nat → Arith PlaneBody} {planes : List Nat}
    {planeInfo : Planes} (h : (placePlanes body planes size planeInfo).Fits) :
    0 ≤ planesBytes body planes := by
  induction planes generalizing size planeInfo with
  | nil => exact le_rfl
  | cons plane planes ih =>
    simp only [placePlanes, fits_bind, op_fits, op_exact, inRange_u64] at h
    obtain ⟨-, -, -, hsum, -, hrest⟩ := h
    have hplanes := ih hrest
    simp only [planesBytes, List.map_cons, List.sum_cons] at hplanes ⊢
    omega

variable {width height : Int} {o : BuildOptions} {d : BufferDescriptor} {usage : U64}

theorem le_addPixels (h : (addPixels width height size).Fits) : size ≤ (addPixels width height size).exact := by
  simp only [addPixels, fits_bind, op_fits, op_exact, inRange_u64] at h
  simp only [addPixels, exact_bind, op_exact]
  omega

theorem le_paddedSize (h : (paddedSize o d usage width height size).Fits) :
    size ≤ (paddedSize o d usage width height size).exact := by
  simp only [paddedSize, fits_bind, op_exact] at h
  obtain ⟨-, -, hpixels, -⟩ := h
  have hmscl : size ≤ (if d.width.toNat % msclAlign ≠ 0 then u64.op (size + extSize + msclExtSize)
      else pure (size + extSize) : Arith Int).exact := by
    split <;> simp only [op_exact, exact_pure, extSize, msclExtSize] <;> omega
  simp only [paddedSize, exact_bind, op_exact]
  generalize (if d.width.toNat % msclAlign ≠ 0 then u64.op (size + extSize + msclExtSize)
      else pure (size + extSize) : Arith Int).exact = padded at hmscl hpixels ⊢
  have hcamera : padded ≤ (if usage = usageHwCameraRead ||| usageHwCameraWrite then
      addPixels width height padded else pure padded : Arith Int).exact := by
    split
    · rename_i husage
      rw [if_pos husage] at hpixels
      exact le_addPixels hpixels
    · exact le_rfl
  refine (hmscl.trans hcamera).trans ?_
  generalize (if usage = usageHwCameraRead ||| usageHwCameraWrite then
      addPixels width height padded else pure padded : Arith Int).exact = withPixels
  split
  · rw [op_exact, size1K]
    omega
  · exact le_rfl

end

def alignTo (x a : Int) : Int := (x + a - 1) / a * a

theorem grallocAlign_exact {v b : Int} (ty : IntType) (hv : 0 ≤ v) (hb : 0 < b) :
    (grallocAlign ty v b).exact = alignTo v b := by
  simp only [grallocAlign, exact_bind, op_exact, alignTo]
  rw [tdiv_eq_ediv (by omega)]

theorem alignUp_exact (x a : Int) : (alignUp x a).exact = alignTo x a := by
  have hdiv := Int.mul_ediv_add_emod (x + (a - 1)) a
  simp only [alignUp, exact_bind, op_exact, exact_pure, alignTo]
  rw [← Int.add_sub_assoc] at hdiv ⊢
  rw [mul_comm ((x + a - 1) / a)]
  omega

theorem le_alignTo (x : Int) {a : Int} (ha : 0 < a) : x ≤ alignTo x a := by
  rw [← alignUp_exact x a]
  exact le_alignUp_exact x ha

theorem alignTo_nonneg {x a : Int} (hx : 0 ≤ x) (ha : 0 < a) : 0 ≤ alignTo x a := hx.trans (le_alignTo x ha)

theorem dvd_alignTo (x a : Int) : a ∣ alignTo x a := Dvd.intro_left _ rfl

theorem alignTo_of_dvd {x a : Int} (ha : 0 < a) (h : a ∣ x) : alignTo x a = x := by
  obtain ⟨k, rfl⟩ := h
  rw [alignTo, Int.add_sub_assoc, Int.mul_add_ediv_left _ _ ha.ne',
    Int.ediv_eq_zero_of_lt (by omega) (by omega), add_zero, mul_comm]

def chromaRows (o : BuildOptions) (height : Int) : Int :=
  if o.exynosChromaVstrideAlign then alignTo (height / 2) chromaValign else height / 2

def sbwcChromaBlocks (h : Int) : Int := (alignTo h 16 / 2 + 3) / 4

def ExynosFormat.fds : ExynosFormat → Nat
  | .yv12M | .ycbcr420PM => 3
  | .ycbcr420SpMTiled | .ycrcb420SpM | .ycrcb420SpMFull | .ycbcr420SpM | .ycbcr420SpMS10b
  | .ycbcrP010M | .ycbcr420SpMSbwc | .ycrcb420SpMSbwc | .ycbcr420SpM10bSbwc
  | .ycrcb420SpM10bSbwc | .ycbcr420SpMSbwcL50 | .ycbcr420SpMSbwcL75 | .ycbcr420SpM10bSbwcL40
  | .ycbcr420SpM10bSbwcL60 | .ycbcr420SpM10bSbwcL80 => 2
  | _ => 1

def chromaBytes (o : BuildOptions) (format : ExynosFormat) (w h : Int) : Int :=
  match format with
  | .yv12M | .ycbcr420PM => alignTo (alignTo w 32 / 2) 16 * chromaRows o (alignTo h 16)
  | .ycbcr420SpMTiled => alignTo w 16 * alignTo (alignTo h 32 / 2) 32
  | .ycrcb420SpM | .ycrcb420SpMFull | .ycbcr420SpM => alignTo w 16 * chromaRows o (alignTo h 16)
  | .ycbcr420SpMS10b =>
    alignTo w 64 * (alignTo h 16 / 2) + alignTo (alignTo w 64 / 4) 16 * alignTo (alignTo h 16 / 2) 16 + 256
  | .ycbcrP010M => alignTo w 16 * 2 * (alignTo h 16 / 2)
  | .ycbcr420SpMSbwc | .ycrcb420SpMSbwc =>
    (128 * ((w + 31) / 32) * sbwcChromaBlocks h + 64) + (((w + 63) / 64 + 15) / 16 * 16 * sbwcChromaBlocks h + 128)
  | .ycbcr420SpM10bSbwc | .ycrcb420SpM10bSbwc => alignTo w 32 * alignTo h 16 + 256
  | .ycbcr420SpMSbwcL50 | .ycbcr420SpM10bSbwcL40 =>
    64 * ((w + 31) / 32) * sbwcChromaBlocks h + 64
  | .ycbcr420SpMSbwcL75 | .ycbcr420SpM10bSbwcL60 =>
    96 * ((w + 31) / 32) * sbwcChromaBlocks h + 64
  | .ycbcr420SpM10bSbwcL80 => 128 * ((w + 31) / 32) * sbwcChromaBlocks h + 64
  | _ => 0

theorem chromaHeight_exact (o : BuildOptions) {height : Int} (h : 0 ≤ height) :
    (chromaHeight o height).exact = chromaRows o height := by
  rw [chromaHeight, chromaRows, tdiv_eq_ediv h]
  split
  · exact grallocAlign_exact i32 (by omega) (by decide)
  · rfl

variable {w : Int}

theorem sbwcBlockStride_exact (blockBytes : Int) (hw : 0 ≤ w) :
    (sbwcBlockStride blockBytes w).exact = blockBytes * ((w + 31) / 32) := by
  simp only [sbwcBlockStride, exact_bind, op_exact]
  rw [tdiv_eq_ediv (by omega)]

variable {h : Int}

theorem sbwcCbcrVstrideBlocks_exact (hh : 0 ≤ h) : (sbwcCbcrVstrideBlocks h).exact = sbwcChromaBlocks h := by
  have hpos := alignTo_nonneg hh (a := 16) (by decide)
  simp only [sbwcCbcrVstrideBlocks, exact_bind, op_exact, exact_pure, sbwcChromaBlocks]
  rw [alignUp_exact, tdiv_eq_ediv hpos, tdiv_eq_ediv (by omega)]

theorem sbwcHeaderStride_exact (hw : 0 ≤ w) : (sbwcHeaderStride w).exact = ((w + 63) / 64 + 15) / 16 * 16 := by
  simp only [sbwcHeaderStride, exact_bind, op_exact]
  have hinner : (w + 63).tdiv 64 = (w + 63) / 64 := tdiv_eq_ediv (by omega) 64
  rw [hinner, tdiv_eq_ediv (by omega)]

theorem sizeOnFd_semiPlanar (luma chroma : PlaneDims) {planeCount : Int} (h : planeCount = 2 ∨ planeCount = 3) :
    sizeOnFd (semiPlanar luma chroma 2) planeCount 1 = chroma.size := by
  rcases h with rfl | rfl <;>
    simp [sizeOnFd, semiPlanar, Planes.toList, PlaneDims.onFd, PlaneInfo.zero]

theorem sizeOnFd_planar (luma chroma : PlaneDims) {fd : Int} (h : fd = 1 ∨ fd = 2) :
    sizeOnFd (planar luma chroma 3) 3 fd = chroma.size := by
  rcases h with rfl | rfl <;> simp [sizeOnFd, planar, Planes.toList, PlaneDims.onFd]

def FdsHold (o : BuildOptions) (format : ExynosFormat) (w h : Int) (result : (Planes × Int) × Int) :
    Prop :=
  result.2 = format.fds ∧ ∀ fd : Int, 0 < fd → fd < format.fds →
    sizeOnFd result.1.1 result.1.2 fd = chromaBytes o format w h

variable {o : BuildOptions} {format : ExynosFormat}

theorem fdsHold_single {result : (Planes × Int) × Int} (hfds : format.fds = 1) (hcnt : result.2 = 1) :
    FdsHold o format w h result := by
  constructor
  · rw [hcnt, hfds]
    rfl
  · intro fd hpos hlt
    rw [hfds] at hlt
    omega

variable {luma chroma : PlaneDims}

theorem fdsHold_semiPlanar {w h planeCount : Int}
    (hfds : format.fds = 2) (hcnt : planeCount = 2 ∨ planeCount = 3)
    (hsize : chroma.size = chromaBytes o format w h) :
    FdsHold o format w h ((semiPlanar luma chroma 2, planeCount), 2) := by
  constructor
  · rw [hfds]
    rfl
  · intro fd hpos hlt
    rw [hfds] at hlt
    obtain rfl : fd = 1 := by omega
    rw [← hsize]
    exact sizeOnFd_semiPlanar luma chroma hcnt

theorem fdsHold_planar (hfds : format.fds = 3) (hsize : chroma.size = chromaBytes o format w h) :
    FdsHold o format w h ((planar luma chroma 3, 3), 3) := by
  constructor
  · rw [hfds]
    rfl
  · intro fd hpos hlt
    rw [hfds] at hlt
    rw [← hsize]
    apply sizeOnFd_planar
    omega

theorem fillSemiPlanar_two (luma chroma : PlaneDims) :
    (fillSemiPlanar luma chroma 2 .zero).exact = semiPlanar luma chroma 2 :=
  fillSemiPlanar_exact luma chroma (.inr rfl)

theorem alignTo_alignTo (x : Int) {a b : Int} (hb : 0 < b) (h : b ∣ a) : alignTo (alignTo x a) b = alignTo x a :=
  alignTo_of_dvd hb (h.trans (dvd_alignTo x a))

theorem setup420Sp_fdsHold (hh : 0 ≤ h) (hfds : format.fds = 2)
    (hsize : chromaBytes o format w h = alignTo w 16 * chromaRows o (alignTo h 16)) :
    FdsHold o format w h ((setup420Sp o (alignTo w 16) (alignTo h 16) 2 .zero 0).exact, 2) := by
  have hh16 : 0 ≤ alignTo h 16 := alignTo_nonneg hh (by decide)
  have heven : (grallocAlign i32 (alignTo h 16) 2).exact = alignTo h 16 := by
    rw [grallocAlign_exact i32 hh16 (by decide), alignTo_alignTo h (by decide) (by decide)]
  simp only [setup420Sp, exact_bind, exact_pure, op_exact, planeSize, fillSemiPlanar_two, heven]
  refine fdsHold_semiPlanar hfds (.inl rfl) ?_
  dsimp only
  rw [hsize, chromaHeight_exact o hh16, add_zero]

theorem fillSbwcLossy_fdsHold {w h stride : Int} (hh : 0 ≤ h) (hfds : format.fds = 2)
    (hsize : chromaBytes o format w h = stride * sbwcChromaBlocks h + 64) :
    FdsHold o format w h ((fillSbwcLossy stride w h 2 .zero).exact, 2) := by
  simp only [fillSbwcLossy, sbwcSize, exact_bind, exact_pure, op_exact,
    fillSemiPlanar_two, sbwcCbcrVstrideBlocks_exact hh]
  exact fdsHold_semiPlanar hfds (.inl rfl) hsize.symm

theorem setup420P_fdsHold (hw : 0 ≤ w) (hh : 0 ≤ h) (hfds : format.fds = 3) (hsize : chromaBytes o format w h =
      alignTo (alignTo w 32 / 2) 16 * chromaRows o (alignTo h 16)) :
    FdsHold o format w h ((setup420P o (alignTo w 32) (alignTo h 16) 3 .zero).exact, 3) := by
  have hw32 : 0 ≤ alignTo w 32 := alignTo_nonneg hw (by decide)
  have hh16 : 0 ≤ alignTo h 16 := alignTo_nonneg hh (by decide)
  have hwidth : (grallocAlign i32 (alignTo w 32) 2).exact = alignTo w 32 := by
    rw [grallocAlign_exact i32 hw32 (by decide), alignTo_alignTo w (by decide) (by decide)]
  have hheight : (grallocAlign i32 (alignTo h 16) 2).exact = alignTo h 16 := by
    rw [grallocAlign_exact i32 hh16 (by decide), alignTo_alignTo h (by decide) (by decide)]
  have hchroma : (grallocAlign i32 ((alignTo w 32).tdiv 2) 16).exact = alignTo (alignTo w 32 / 2) 16 := by
    rw [tdiv_eq_ediv hw32, grallocAlign_exact i32 (by omega) (by decide)]
  have hplanar : (setup420P o (alignTo w 32) (alignTo h 16) 3 .zero).exact =
      (planar ⟨alignTo w 32 * alignTo h 16, alignTo w 32, alignTo h 16, alignTo w 32⟩
        ⟨alignTo (alignTo w 32 / 2) 16 * chromaRows o (alignTo h 16), alignTo (alignTo w 32 / 2) 16,
          chromaRows o (alignTo h 16), alignTo (alignTo w 32 / 2) 16⟩ 3, 3) := by
    simp only [setup420P, exact_bind, op_exact, planeSize, Planes.zero, fill_zero_exact,
      hwidth, hheight, hchroma, chromaHeight_exact o hh16]
    rfl
  rw [hplanar]
  exact fdsHold_planar hfds hsize.symm

theorem setupFormat_fdsHold (o : BuildOptions) (format : ExynosFormat) (hw : 0 ≤ w)
    (hh : 0 ≤ h) : FdsHold o format w h (setupFormat o format w h .zero).exact := by
  have hw16 : (grallocAlign i32 w 16).exact = alignTo w 16 := grallocAlign_exact i32 hw (by decide)
  have hh16 : (grallocAlign i32 h 16).exact = alignTo h 16 := grallocAlign_exact i32 hh (by decide)
  have hhpos : 0 ≤ alignTo h 16 := alignTo_nonneg hh (by decide)
  have heven : (grallocAlign i32 (alignTo h 16) 2).exact = alignTo h 16 := by
    rw [grallocAlign_exact i32 hhpos (by decide), alignTo_alignTo h (by decide) (by decide)]
  cases format with
  | yv12M | ycbcr420PM =>
    have hw32 : (grallocAlign i32 w 32).exact = alignTo w 32 := grallocAlign_exact i32 hw (by decide)
    simp only [setupFormat, exact_bind, exact_pure, hw32, hh16]
    exact setup420P_fdsHold hw hh rfl rfl
  | ycbcr420SpMTiled =>
    have hwpos : 0 ≤ alignTo w 16 := alignTo_nonneg hw (by decide)
    have hh32 : (grallocAlign i32 h 32).exact = alignTo h 32 := grallocAlign_exact i32 hh (by decide)
    have hhpos : 0 ≤ alignTo h 32 := alignTo_nonneg hh (by decide)
    have hwidth : (grallocAlign i32 (alignTo w 16) 2).exact = alignTo w 16 := by
      rw [grallocAlign_exact i32 hwpos (by decide), alignTo_alignTo w (by decide) (by decide)]
    have hheight : (grallocAlign i32 (alignTo h 32) 2).exact = alignTo h 32 := by
      rw [grallocAlign_exact i32 hhpos (by decide), alignTo_alignTo h (by decide) (by decide)]
    have hchroma : (grallocAlign i32 ((alignTo h 32).tdiv 2) 32).exact = alignTo (alignTo h 32 / 2) 32 := by
      rw [tdiv_eq_ediv hhpos, grallocAlign_exact i32 (by omega) (by decide)]
    simp only [setupFormat, setup420SpTiled, exact_bind, exact_pure, op_exact,
      planeSize, hw16, hh32, hwidth, hheight, hchroma, fillSemiPlanar_two]
    exact fdsHold_semiPlanar rfl (.inr rfl) rfl
  | ycrcb420SpM | ycrcb420SpMFull | ycbcr420SpM =>
    simp only [setupFormat, exact_bind, exact_pure, hw16, hh16]
    exact setup420Sp_fdsHold hh rfl rfl
  | ycbcr420SpMS10b =>
    have hw64 : (grallocAlign i32 w boardExynosS10bFormatAlign).exact = alignTo w 64 :=
      grallocAlign_exact i32 hw (by decide)
    have hwpos : 0 ≤ alignTo w 64 := alignTo_nonneg hw (by decide)
    have hs2b : (s2bPlaneSize (alignTo w 64) (alignTo h 16 / 2)).exact =
        alignTo (alignTo w 64 / 4) 16 * alignTo (alignTo h 16 / 2) 16 := by
      simp only [s2bPlaneSize, exact_bind, op_exact]
      rw [tdiv_eq_ediv hwpos, grallocAlign_exact i32 (by omega) (by decide),
        grallocAlign_exact i32 (by omega) (by decide)]
    simp only [setupFormat, setup420SpS10b, exact_bind, exact_pure, op_exact,
      planeSize, hw64, hh16, heven, tdiv_eq_ediv hhpos, hs2b, fillSemiPlanar_two]
    exact fdsHold_semiPlanar rfl (.inl rfl) rfl
  | ycbcrP010M =>
    simp only [setupFormat, setupP010Sp, exact_bind, exact_pure, op_exact, planeSize,
      hw16, hh16, heven, tdiv_eq_ediv hhpos, fillSemiPlanar_two]
    exact fdsHold_semiPlanar rfl (.inl rfl) rfl
  | ycbcr420SpMSbwc | ycrcb420SpMSbwc =>
    simp only [setupFormat, setupSbwc420Sp, sbwc8bStride, sbwcSize, exact_bind,
      exact_pure, op_exact, fillSemiPlanar_two, sbwcBlockStride_exact 128 hw,
      sbwcCbcrVstrideBlocks_exact hh, sbwcHeaderStride_exact hw]
    exact fdsHold_semiPlanar rfl (.inl rfl) rfl
  | ycbcr420SpM10bSbwc | ycrcb420SpM10bSbwc =>
    simp only [setupFormat, setupSbwc420Sp10bit, exact_bind, exact_pure, op_exact, fillSemiPlanar_two, alignUp_exact]
    refine fdsHold_semiPlanar rfl (.inl rfl) ?_
    simp only [chromaBytes]
    omega
  | ycbcr420SpMSbwcL50 | ycbcr420SpMSbwcL75 =>
    simp only [setupFormat, setupSbwc420SpLossy, sbwcl8bStride, exact_bind, exact_pure, sbwcBlockStride_exact _ hw]
    exact fillSbwcLossy_fdsHold hh rfl rfl
  | ycbcr420SpM10bSbwcL40 | ycbcr420SpM10bSbwcL60 | ycbcr420SpM10bSbwcL80 =>
    simp only [setupFormat, setupSbwc420Sp10bitLossy, sbwcl10bStride, exact_bind,
      exact_pure, sbwcBlockStride_exact _ hw]
    exact fillSbwcLossy_fdsHold hh rfl rfl
  | ycrcb420Sp | ycbcr420P =>
    apply fdsHold_single rfl
    simp only [setupFormat, exact_bind, exact_pure]
  | ycbcr420Spn =>
    apply fdsHold_single rfl
    simp only [setupFormat, exact_bind]
    split <;> simp only [exact_bind, exact_pure]
  | _ => exact fdsHold_single rfl rfl

theorem fdAllocSize_exact (plane : Planes) (planeCount fd : Int) :
    (fdAllocSize plane planeCount fd).exact = max (sizeOnFd plane planeCount fd + 1024) 4096 := by
  simp only [fdAllocSize, exact_bind, sumPlaneSizes_exact, op_exact, exact_pure, zero_add]
  change (if sizeOnFd plane planeCount fd + 1024 < sz4K then sz4K else sizeOnFd plane planeCount fd + 1024) = _
  split <;> simp only [sz4K] at * <;> omega

def layerAligned (allocFormat : U64) (size : Int) : Int :=
  if hasAny allocFormat intfmtAfbcBasic then
    alignTo size (if hasAny allocFormat intfmtAfbcTiledHeaders then 4096 else 128)
  else size

theorem le_layerAligned (allocFormat : U64) (size : Int) : size ≤ layerAligned allocFormat size := by
  rw [layerAligned]
  split
  · exact le_alignTo size (by split <;> decide)
  · exact le_rfl

theorem hasAny_not_hfrMode {u : U64} (h : hasAny u usageHfrMode = false) : hasAny (~~~u) usageHfrMode := by
  have hnone : usageHfrMode &&& u = 0#64 := by
    rw [BitVec.and_comm]
    simpa [hasAny] using h
  have hpart : ~~~u &&& usageHfrMode = usageHfrMode := by
    apply BitVec.eq_of_getElem_eq
    intro i hi
    have hbit := congrArg (fun x => x[i]) hnone
    simp only [BitVec.getElem_and, BitVec.getElem_zero] at hbit
    simp only [BitVec.getElem_and, BitVec.getElem_not]
    cases hu : u[i] <;> cases hm : usageHfrMode[i] <;> simp_all
  rw [hasAny, hpart]
  decide

theorem layeredSize_exact {d : BufferDescriptor} {usage : U64} {size : Int}
    (hsize : 0 ≤ size) (hlayers : 1 < d.layerCount.toNat) (husage : hasAny usage usageHfrMode = false) :
    (layeredSize d usage size).exact = layerAligned d.allocFormat size * d.layerCount.toNat := by
  have haligned : (if hasAny d.allocFormat intfmtAfbcBasic then
      grallocAlign u64 size (if hasAny d.allocFormat intfmtAfbcTiledHeaders then 4096 else 128)
      else pure size : Arith Int).exact = layerAligned d.allocFormat size := by
    rw [layerAligned]
    split
    · exact grallocAlign_exact u64 hsize (by split <;> decide)
    · rfl
  simp only [layeredSize, hlayers, hasAny_not_hfrMode husage, and_self, if_true, exact_bind, op_exact, haligned]

def layerBytes (o : BuildOptions) (selectFormat : SelectFormat) (d : BufferDescriptor) (fd : Nat) :
    Int :=
  match resolveFormat selectFormat d with
  | none => 0
  | some (allocFormat, format, t) =>
    match exynosFormat (baseFormat allocFormat) with
    | some f =>
      let layout := (prepareDescriptorExynosFormats o f d.width.toNat d.height.toNat d.planeInfo d.allocSizes).exact
      sizeOnFd layout.planeInfo layout.planeCount fd
    | none =>
      let (width, height) := (adjustDimensions o allocFormat d.usage d.width.toNat d.height.toNat).exact
      if fd = 0 then layerAligned allocFormat
        (planesBytes (planeBody o format t d.usage width height) (List.range format.npln))
      else 0

def ChromaFits (o : BuildOptions) (selectFormat : SelectFormat) (d : BufferDescriptor) : Prop :=
  ∀ f, exynosFormat (baseFormat (selectFor selectFormat d d.usage)) = some f → 1 < f.fds →
    d.layerCount.toNat * chromaBytes o f d.width.toNat d.height.toNat ≤ 4096

section
variable {o : BuildOptions} {selectFormat : SelectFormat} {d e : BufferDescriptor}

theorem layers_le_paddedSize (laid : BufferDescriptor) {usage : U64} {n : Nat}
    {width height size bytes : Int} (hn : laid.layerCount.toNat = n) (hsize : 0 ≤ size)
    (hlayers : 1 < n) (husage : hasAny usage usageHfrMode = false)
    (hbytes : bytes ≤ layerAligned laid.allocFormat size)
    (hfits : (paddedSize o laid usage width height (layeredSize laid usage size).exact).Fits) :
    n * bytes ≤ (paddedSize o laid usage width height (layeredSize laid usage size).exact).exact := by
  subst hn
  have hexact := layeredSize_exact hsize hlayers husage
  calc
    laid.layerCount.toNat * bytes ≤ laid.layerCount.toNat * layerAligned laid.allocFormat size :=
      mul_le_mul_of_nonneg_left hbytes (Int.natCast_nonneg _)
    _ = (layeredSize laid usage size).exact := by rw [hexact, mul_comm]
    _ ≤ _ := le_paddedSize hfits

theorem layers_le_fdAllocSize_iff {n size : Int} (hn : 2 ≤ n) (hsize : 0 ≤ size) :
    n * size ≤ max (size + 1024) 4096 ↔ n * size ≤ 4096 := by
  constructor
  · intro h
    rcases le_max_iff.mp h with hsmall | hsmall
    · have hdouble : 2 * size ≤ n * size := mul_le_mul_of_nonneg_right hn hsize
      omega
    · exact hsmall
  · intro h
    exact h.trans (le_max_right _ _)

theorem getD_set_zero {xs : List Int} (x : Int) (h : 0 < xs.getD 0 0) : (xs.set 0 x).getD 0 0 = x := by
  cases xs with
  | nil => exact absurd h (by decide)
  | cons y ys => rfl

theorem chromaRows_nonneg (o : BuildOptions) {height : Int} (h : 0 ≤ height) : 0 ≤ chromaRows o height := by
  rw [chromaRows]
  split
  · exact alignTo_nonneg (by omega) (by decide)
  · omega

theorem chromaBytes_nonneg (o : BuildOptions) (f : ExynosFormat) {w h : Int} (hw : 0 ≤ w)
    (hh : 0 ≤ h) : 0 ≤ chromaBytes o f w h := by
  have halign : ∀ {x : Int} (a : Int), 0 ≤ x → 0 < a → 0 ≤ alignTo x a := fun _ => alignTo_nonneg
  have hrows := chromaRows_nonneg o (halign 16 hh (by decide))
  have hhalf : 0 ≤ alignTo h 16 / 2 := Int.ediv_nonneg (halign 16 hh (by decide)) (by decide)
  have hblocks : 0 ≤ sbwcChromaBlocks h := Int.ediv_nonneg (by omega) (by decide)
  have hstride : 0 ≤ (w + 31) / 32 := Int.ediv_nonneg (by omega) (by decide)
  have hsbwc : ∀ blockBytes : Int, 0 ≤ blockBytes →
      0 ≤ blockBytes * ((w + 31) / 32) * sbwcChromaBlocks h + 64 := fun _ hbytes =>
    add_nonneg (mul_nonneg (mul_nonneg hbytes hstride) hblocks) (by decide)
  cases f with
  | yv12M | ycbcr420PM =>
    have hwidth : 0 ≤ alignTo w 32 / 2 := Int.ediv_nonneg (halign 32 hw (by decide)) (by decide)
    exact mul_nonneg (halign 16 hwidth (by decide)) hrows
  | ycbcr420SpMTiled =>
    have hheight : 0 ≤ alignTo h 32 / 2 := Int.ediv_nonneg (halign 32 hh (by decide)) (by decide)
    exact mul_nonneg (halign 16 hw (by decide)) (halign 32 hheight (by decide))
  | ycrcb420SpM | ycrcb420SpMFull | ycbcr420SpM => exact mul_nonneg (halign 16 hw (by decide)) hrows
  | ycbcr420SpMS10b =>
    have hwidth := halign 64 hw (by decide)
    have hquarter : 0 ≤ alignTo w 64 / 4 := Int.ediv_nonneg hwidth (by decide)
    exact add_nonneg (add_nonneg (mul_nonneg hwidth hhalf)
      (mul_nonneg (halign 16 hquarter (by decide)) (halign 16 hhalf (by decide)))) (by decide)
  | ycbcrP010M =>
    exact mul_nonneg (mul_nonneg (halign 16 hw (by decide)) (by decide)) hhalf
  | ycbcr420SpMSbwc | ycrcb420SpMSbwc =>
    have hhdr : 0 ≤ ((w + 63) / 64 + 15) / 16 * 16 := by omega
    exact add_nonneg (hsbwc 128 (by decide)) (add_nonneg (mul_nonneg hhdr hblocks) (by decide))
  | ycbcr420SpM10bSbwc | ycrcb420SpM10bSbwc =>
    exact add_nonneg (mul_nonneg (halign 32 hw (by decide)) (halign 16 hh (by decide))) (by decide)
  | ycbcr420SpMSbwcL50 | ycbcr420SpM10bSbwcL40 => exact hsbwc 64 (by decide)
  | ycbcr420SpMSbwcL75 | ycbcr420SpM10bSbwcL60 => exact hsbwc 96 (by decide)
  | ycbcr420SpM10bSbwcL80 => exact hsbwc 128 (by decide)
  | _ => exact le_rfl

variable {allocFormat : U64} {f : ExynosFormat}

theorem layoutBuffer_exynos_exact (format : FormatInfo)
    (t : AllocType) (hf : exynosFormat (baseFormat allocFormat) = some f) :
    (layoutBuffer o d allocFormat format t).exact =
      (exynosLaid d allocFormat (prepareDescriptorExynosFormats o f d.width.toNat d.height.toNat
        d.planeInfo d.allocSizes).exact, (d.width.toNat : Int), (d.height.toNat : Int)) := by
  simp only [layoutBuffer, hf, exact_bind, exact_pure, op_exact, exynosLaid, videoData]

theorem layoutBuffer_plain_exact (format : FormatInfo) (t : AllocType)
    (hf : exynosFormat (baseFormat allocFormat) = none) :
    (layoutBuffer o d allocFormat format t).exact =
      let dims := (adjustDimensions o allocFormat d.usage d.width.toNat d.height.toNat).exact
      let sizes := (calcAllocationSize o format t d.usage dims.1 dims.2 d.planeInfo).exact
      (plainLaid d allocFormat sizes.1 sizes.2, dims) := by
  simp only [layoutBuffer, hf, exact_bind, exact_pure, op_exact, plainLaid]

theorem freshLayout_chroma (o : BuildOptions) (f : ExynosFormat) {w h : Int} (hw : 0 ≤ w) (hh : 0 ≤ h) :
    ∃ plane planeCount, (freshLayout o f w h).exact = layoutOf plane planeCount f.fds ∧
      ∀ fd : Int, 0 < fd → fd < f.fds → sizeOnFd plane planeCount fd = chromaBytes o f w h := by
  obtain ⟨hcnt, hsize⟩ := setupFormat_fdsHold o f hw hh
  exact ⟨_, _, freshLayout_exact o f w h (Prod.ext rfl hcnt), hsize⟩

theorem fds_le (f : ExynosFormat) : f.fds ≤ 3 := by
  cases f <;> decide

theorem fds_pos (f : ExynosFormat) : 0 < f.fds := by
  cases f <;> decide

theorem exynos_layers_iff {plane : Planes} {planeCount n chroma size : Int} (hn : 2 ≤ n) (hchroma : 0 ≤ chroma)
    (hfst : n * sizeOnFd plane planeCount 0 ≤ size)
    (hsize : ∀ fd : Int, 0 < fd → fd < f.fds → sizeOnFd plane planeCount fd = chroma) :
    (∀ fd : Nat, (fd : Int) < (f.fds : Int) → n * sizeOnFd plane planeCount fd ≤
      ((layoutOf plane planeCount f.fds).allocSizes.set 0 size).getD fd 0) ↔
    (1 < f.fds → n * chroma ≤ 4096) := by
  have hfurther : ∀ fd : Nat, 0 < fd → fd < f.fds → (n * sizeOnFd plane planeCount fd ≤
      ((layoutOf plane planeCount f.fds).allocSizes.set 0 size).getD fd 0 ↔ n * chroma ≤ 4096) := by
    intro fd hpos hlt
    rw [List.getD_eq_getElem?_getD, List.getElem?_set_ne hpos.ne, ← List.getD_eq_getElem?_getD,
      layoutOf_allocSizes_getD plane planeCount hlt (fds_le f), fdAllocSize_exact,
      hsize fd (by omega) (by omega)]
    exact layers_le_fdAllocSize_iff hn hchroma
  constructor
  · intro h hfds
    exact (hfurther 1 Nat.one_pos hfds).mp (h 1 (by exact_mod_cast hfds))
  · intro h fd hfd
    rcases Nat.eq_zero_or_pos fd with rfl | hpos
    · have hfilled : 0 < (layoutOf plane planeCount f.fds).allocSizes.getD 0 0 := by
        rw [layoutOf_allocSizes_getD plane planeCount (fds_pos f) (fds_le f)]
        exact lt_of_lt_of_le (by decide) (sz4K_le_fdAllocSize plane planeCount _)
      rw [getD_set_zero size hfilled]
      exact hfst
    · have hlt : fd < f.fds := by exact_mod_cast hfd
      exact (hfurther fd hpos hlt).mpr (h (by omega))

def finishedExact (o : BuildOptions) (laid : BufferDescriptor) (usage : U64)
    (width height : Int) : BufferDescriptor :=
  { laid with
    pixelStride := if baseFormat laid.allocFormat == formatRaw12 ||
        baseFormat laid.allocFormat == formatRaw10 then laid.planeInfo.p0.byteStride
      else laid.planeInfo.p0.allocWidth
    allocSizes := laid.allocSizes.set 0 (paddedSize o laid usage width height
      (layeredSize laid usage (laid.allocSizes.getD 0 0)).exact).exact }

variable {t : AllocType} {format : FormatInfo}

theorem deriveFormatAndSize_exact {laid : BufferDescriptor} {width height : Int}
    (hresolve : resolveFormat selectFormat d = some (allocFormat, format, t))
    (hlaid : (layoutBuffer o d allocFormat format t).exact = (laid, width, height))
    (hfmt : laid.allocFormat = allocFormat)
    (hfits : (deriveFormatAndSize o selectFormat d).Fits) :
    (deriveFormatAndSize o selectFormat d).exact = some (finishedExact o laid d.usage width height) ∧
      (layoutBuffer o d allocFormat format t).Fits ∧
      (paddedSize o laid d.usage width height (layeredSize laid d.usage (laid.allocSizes.getD 0 0)).exact).Fits := by
  subst hfmt
  simp only [deriveFormatAndSize, hresolve, Arith.fits_bind, hlaid] at hfits
  obtain ⟨hlayout, -, -, hpadded, -⟩ := hfits
  refine ⟨?_, hlayout, hpadded⟩
  simp only [deriveFormatAndSize, hresolve, exact_bind, exact_pure, hlaid, op_exact, finishedExact]

structure Fresh (d : BufferDescriptor) : Prop where
  planeInfo : d.planeInfo = .zero
  allocSizes : d.allocSizes = [0, 0, 0]
  fdCount : d.fdCount = 1

theorem exynos_layers (hfresh : Fresh d) (hlayers : 1 < d.layerCount.toNat)
    (husage : hasAny d.usage usageHfrMode = false)
    (hfits : (deriveFormatAndSize o selectFormat d).Fits)
    (he : (deriveFormatAndSize o selectFormat d).exact = some e)
    (hresolve : resolveFormat selectFormat d = some (allocFormat, format, t))
    (hf : exynosFormat (baseFormat allocFormat) = some f) :
    (∀ fd : Nat, (fd : Int) < e.fdCount →
      d.layerCount.toNat * layerBytes o selectFormat d fd ≤ e.allocSizes.getD fd 0) ↔
    (1 < f.fds → d.layerCount.toNat * chromaBytes o f d.width.toNat d.height.toNat ≤ 4096) := by
  have hlaid := layoutBuffer_exynos_exact (o := o) (d := d) format t hf
  obtain ⟨plane, planeCount, hlayout, hchroma⟩ := freshLayout_chroma o f
    (Int.natCast_nonneg d.width.toNat) (Int.natCast_nonneg d.height.toNat)
  have hprepared : (prepareDescriptorExynosFormats o f d.width.toNat d.height.toNat d.planeInfo
      d.allocSizes).exact = layoutOf plane planeCount f.fds := by
    rw [← hlayout, hfresh.planeInfo, hfresh.allocSizes]
    rfl
  rw [hprepared] at hlaid
  obtain ⟨hderived, -, hpadded⟩ := deriveFormatAndSize_exact hresolve hlaid rfl hfits
  have hfst : (layoutOf plane planeCount f.fds).allocSizes.getD 0 0 =
      max (sizeOnFd plane planeCount 0 + 1024) 4096 := by
    rw [layoutOf_allocSizes_getD plane planeCount (fds_pos f) (fds_le f), fdAllocSize_exact]
    rfl
  have hstart : 0 ≤ (exynosLaid d allocFormat (layoutOf plane planeCount f.fds)).allocSizes.getD 0 0 := by
    change 0 ≤ (layoutOf plane planeCount f.fds).allocSizes.getD 0 0
    omega
  have hneeded : sizeOnFd plane planeCount 0 ≤
      (exynosLaid d allocFormat (layoutOf plane planeCount f.fds)).allocSizes.getD 0 0 := by
    change _ ≤ (layoutOf plane planeCount f.fds).allocSizes.getD 0 0
    omega
  have hroom := layers_le_paddedSize (exynosLaid d allocFormat (layoutOf plane planeCount f.fds))
    rfl hstart hlayers husage (hneeded.trans (le_layerAligned _ _)) hpadded
  have hbytes : ∀ fd : Nat, layerBytes o selectFormat d fd = sizeOnFd plane planeCount fd := by
    intro fd
    simp only [layerBytes, hresolve, hf, hprepared]
    rfl
  have hiff := exynos_layers_iff (n := d.layerCount.toNat) (by exact_mod_cast hlayers)
    (chromaBytes_nonneg o f (Int.natCast_nonneg d.width.toNat) (Int.natCast_nonneg d.height.toNat)) hroom hchroma
  rw [hderived] at he
  cases he
  simp only [hbytes]
  exact hiff

theorem plain_layers (hfresh : Fresh d) (hlayers : 1 < d.layerCount.toNat)
    (husage : hasAny d.usage usageHfrMode = false)
    (hfits : (deriveFormatAndSize o selectFormat d).Fits)
    (he : (deriveFormatAndSize o selectFormat d).exact = some e)
    (hresolve : resolveFormat selectFormat d = some (allocFormat, format, t))
    (hf : exynosFormat (baseFormat allocFormat) = none) {fd : Nat} (hfd : (fd : Int) < e.fdCount) :
    d.layerCount.toNat * layerBytes o selectFormat d fd ≤ e.allocSizes.getD fd 0 := by
  have hlaid := layoutBuffer_plain_exact (o := o) (d := d) format t hf
  have hbytes : layerBytes o selectFormat d 0 = layerAligned allocFormat (planesBytes (planeBody o format t d.usage
        (adjustDimensions o allocFormat d.usage d.width.toNat d.height.toNat).exact.1
        (adjustDimensions o allocFormat d.usage d.width.toNat d.height.toNat).exact.2)
      (List.range format.npln)) := by
    simp only [layerBytes, hresolve, hf, if_true]
  have hcalc : (layoutBuffer o d allocFormat format t).Fits → (calcAllocationSize o format t d.usage
      (adjustDimensions o allocFormat d.usage d.width.toNat d.height.toNat).exact.1
      (adjustDimensions o allocFormat d.usage d.width.toNat d.height.toNat).exact.2
      d.planeInfo).Fits := by
    intro hlayout
    simp only [layoutBuffer, hf, Arith.fits_bind, op_fits, op_exact] at hlayout
    exact hlayout.2.2.2.1
  dsimp only at hlaid
  generalize (adjustDimensions o allocFormat d.usage d.width.toNat d.height.toNat).exact = dims at hlaid hbytes hcalc
  obtain ⟨hderived, hlayout, hpadded⟩ := deriveFormatAndSize_exact hresolve hlaid rfl hfits
  have hnonneg := placePlanes_nonneg (hcalc hlayout)
  have htotal : (calcAllocationSize o format t d.usage dims.1 dims.2 d.planeInfo).exact.1 =
      planesBytes (planeBody o format t d.usage dims.1 dims.2) (List.range format.npln) := by
    rw [calcAllocationSize, placePlanes_exact_fst, zero_add]
  generalize (calcAllocationSize o format t d.usage dims.1 dims.2 d.planeInfo).exact = sizes at hderived hpadded htotal
  have hstart : (plainLaid d allocFormat sizes.1 sizes.2).allocSizes.getD 0 0 = sizes.1 := by
    rw [plainLaid, hfresh.allocSizes]
    rfl
  have hle : layerBytes o selectFormat d 0 ≤
      layerAligned allocFormat ((plainLaid d allocFormat sizes.1 sizes.2).allocSizes.getD 0 0) := by
    rw [hbytes, hstart, htotal]
  have hroom := layers_le_paddedSize (plainLaid d allocFormat sizes.1 sizes.2) rfl
    (by rw [hstart, htotal]; exact hnonneg) hlayers husage hle hpadded
  rw [hderived] at he
  cases he
  have hlt : (fd : Int) < d.fdCount := hfd
  rw [hfresh.fdCount] at hlt
  obtain rfl : fd = 0 := by omega
  have hsizes : (finishedExact o (plainLaid d allocFormat sizes.1 sizes.2) d.usage dims.1
      dims.2).allocSizes.getD 0 0 = (paddedSize o (plainLaid d allocFormat sizes.1 sizes.2) d.usage
      dims.1 dims.2 (layeredSize (plainLaid d allocFormat sizes.1 sizes.2) d.usage
        ((plainLaid d allocFormat sizes.1 sizes.2).allocSizes.getD 0 0)).exact).exact := by
    rw [finishedExact, plainLaid, hfresh.allocSizes]
    rfl
  rw [hsizes]
  exact hroom

/-- Every fd holds every layer exactly if the selected format keeps its planes on one fd or has
tiny chroma planes. -/
theorem deriveFormatAndSize_layers_iff (o : BuildOptions) (selectFormat : SelectFormat)
    (width height layerCount : U32) (producerUsage consumerUsage halFormat : U64)
    (formatType : FormatType) (d e : BufferDescriptor)
    (hd : d = .fresh width height producerUsage consumerUsage halFormat layerCount formatType)
    (hlayers : 1 < layerCount.toNat) (husage : hasAny d.usage usageHfrMode = false)
    (hfits : (deriveFormatAndSize o selectFormat d).Fits)
    (he : (deriveFormatAndSize o selectFormat d).machine = some e) :
    (∀ fd : Nat, (fd : Int) < e.fdCount → layerCount.toNat * layerBytes o selectFormat d fd ≤ e.allocSizes.getD fd 0) ↔
    ChromaFits o selectFormat d := by
  have hfresh : Fresh d := by
    rw [hd]
    exact ⟨rfl, rfl, rfl⟩
  have hcnt : layerCount = d.layerCount := by
    rw [hd]
    rfl
  rw [hcnt] at hlayers ⊢
  rw [Arith.machine_eq_exact hfits] at he
  cases hresolve : resolveFormat selectFormat d with
  | none =>
    simp only [deriveFormatAndSize, hresolve, exact_pure] at he
    cases he
  | some resolved =>
    obtain ⟨allocFormat, format, t⟩ := resolved
    obtain ⟨-, hselected⟩ := getFormat_of_resolve hresolve
    rw [ChromaFits, ← hselected]
    cases hf : exynosFormat (baseFormat allocFormat) with
    | some f =>
      simp only [Option.some.injEq, forall_eq']
      exact exynos_layers hfresh hlayers husage hfits he hresolve hf
    | none =>
      refine iff_of_true (fun fd hfd => plain_layers hfresh hlayers husage hfits he hresolve hf hfd) ?_
      intro f hnone
      cases hnone

end

def twoLayers (width height : U32) : BufferDescriptor := .fresh width height 0 usageHwTexture 0x11D#64 2 .usage

def selectAsRequested : SelectFormat := fun reqFormat _ _ _ => reqFormat &&& 0xffffffff#64

theorem deriveFormatAndSize_layers_small :
    ∃ e, (deriveFormatAndSize defaultBuild selectAsRequested (twoLayers 8 8)).machine = some e ∧
      ((∀ fd : Nat, (fd : Int) < e.fdCount →
        (2#32).toNat * layerBytes defaultBuild selectAsRequested (twoLayers 8 8) fd ≤ e.allocSizes.getD fd 0) ↔
      ChromaFits defaultBuild selectAsRequested (twoLayers 8 8)) := by
  obtain ⟨e, he⟩ : ∃ e, (deriveFormatAndSize defaultBuild selectAsRequested
      (twoLayers 8 8)).machine = some e := Option.isSome_iff_exists.mp (by decide)
  exact ⟨e, he, deriveFormatAndSize_layers_iff defaultBuild selectAsRequested 8 8 2 0 usageHwTexture
    0x11D#64 .usage (twoLayers 8 8) e rfl (by decide) (by decide) (by decide) he⟩

/-- Two layers of 1920x1080 pixels have 2 * 1044480 bytes of chroma; the second fd has 1045504. -/
theorem deriveFormatAndSize_layers_missing : validateDescriptorInfo (twoLayers 1920 1080) ∧
      hasAny (twoLayers 1920 1080).usage usageHfrMode = false ∧
      (deriveFormatAndSize defaultBuild selectAsRequested (twoLayers 1920 1080)).Fits ∧
      ∃ e, (deriveFormatAndSize defaultBuild selectAsRequested (twoLayers 1920 1080)).machine =
        some e ∧ ¬∀ fd : Nat, (fd : Int) < e.fdCount →
          2 * layerBytes defaultBuild selectAsRequested (twoLayers 1920 1080) fd ≤
            e.allocSizes.getD fd 0 := by
  obtain ⟨e, he⟩ : ∃ e, (deriveFormatAndSize defaultBuild selectAsRequested
      (twoLayers 1920 1080)).machine = some e := Option.isSome_iff_exists.mp (by decide)
  have hsizes : ((deriveFormatAndSize defaultBuild selectAsRequested
      (twoLayers 1920 1080)).machine.map fun e => (e.fdCount, e.allocSizes.getD 1 0)) =
      some (2, 1045504) := by decide
  have hneeded : layerBytes defaultBuild selectAsRequested (twoLayers 1920 1080) 1 = 1044480 := by
    decide
  rw [he] at hsizes
  obtain ⟨hfds, hsnd⟩ : e.fdCount = 2 ∧ e.allocSizes.getD 1 0 = 1045504 := Prod.ext_iff.mp (Option.some.inj hsizes)
  refine ⟨by decide, by decide, by decide, e, he, ?_⟩
  intro hall
  have hone := hall 1 (by rw [hfds]; decide)
  rw [hneeded, hsnd] at hone
  exact absurd hone (by decide)

end ExynosHal.Gralloc
