import ExynosHal.Gralloc.ExynosFormats
import Mathlib.Order.CompletePartialOrder

/-! # Well-formed plane layouts

Without overflow the planes of every format lie inside their fds, apart from each other, and cover the
picture.
-/

namespace ExynosHal.Gralloc
open Library Library.IntType
open Arith (exact_bind exact_pure fits_bind fits_of_bind)

namespace ExynosLayout

def filled (d : ExynosLayout) : List PlaneInfo := d.planeInfo.toList.filter fun p => p ≠ .zero

def counted (d : ExynosLayout) : List PlaneInfo := d.planeInfo.toList.take d.planeCount.toNat

end ExynosLayout

def PlaneInfo.range (p : PlaneInfo) : Set Int := Set.Ico p.offset (p.offset + p.size)

def ExynosFormat.isLinear : ExynosFormat → Bool
  | .ycrcb420Sp | .yv12M | .ycbcr420P | .ycbcr420PM | .ycrcb420SpM | .ycrcb420SpMFull
  | .ycbcr420SpM | .ycbcr420Spn | .ycbcr420SpMS10b | .ycbcr420SpnS10b | .ycbcrP010M => true
  | _ => false

structure WellFormed (isLinear : Bool) (width height : Int) (d : ExynosLayout) : Prop where
  planeCount_eq : d.planeCount = d.filled.length
  fdCount_eq : d.fdCount = (d.filled.map (·.fdIdx)).dedup.length
  inside : ∀ p ∈ d.counted, p.range ⊆ Set.Ico 0 (d.allocSizes.getD p.fdIdx.toNat 0)
  disjoint : d.counted.Pairwise fun p q => p.fdIdx = q.fdIdx → Disjoint p.range q.range
  rows_le_size : isLinear → ∀ p ∈ d.counted, p.byteStride * p.allocHeight ≤ p.size
  luma_width : width ≤ d.planeInfo.p0.allocWidth
  luma_height : height ≤ d.planeInfo.p0.allocHeight
  chroma_height : ∀ p ∈ d.filled.tail, (height + 1) / 2 ≤ p.allocHeight

theorem tdiv_eq_ediv {x : Int} (hx : 0 ≤ x) (b : Int) : x.tdiv b = x / b := Int.tdiv_eq_ediv_of_nonneg hx

variable (ty : IntType)

theorem le_grallocAlign_exact {v b : Int} (hv : 0 ≤ v) (hb : 0 < b) : v ≤ (grallocAlign ty v b).exact := by
  have hs : 0 ≤ v + b - 1 := by omega
  have hmod := Int.emod_lt_of_pos (v + b - 1) hb
  have hdiv := Int.mul_ediv_add_emod (v + b - 1) b
  simp only [grallocAlign, exact_bind, op_exact, tdiv_eq_ediv hs]
  rw [mul_comm]
  omega

variable {a : Int}

theorem le_alignUp_exact (x : Int) (ha : 0 < a) : x ≤ (alignUp x a).exact := by
  have hmod := Int.emod_lt_of_pos (x + (a - 1)) ha
  simp only [alignUp, exact_bind, op_exact, exact_pure]
  omega

theorem alignUp_exact_even (x b : Int) (ha : a = 2 * b) : (alignUp x a).exact % 2 = 0 := by
  simp only [alignUp, exact_bind, op_exact, exact_pure]
  have hdiv := Int.mul_ediv_add_emod (x + (a - 1)) a
  have hsub : x + (a - 1) - (x + (a - 1)) % a = 2 * (b * ((x + (a - 1)) / a)) := by
    rw [← mul_assoc, ← ha]
    omega
  rw [hsub]
  exact Int.mul_emod_right 2 _

theorem grallocAlign_exact_even (v b : Int) (ha : a = 2 * b) : (grallocAlign ty v a).exact % 2 = 0 := by
  simp only [grallocAlign, exact_bind, op_exact]
  rw [ha, mul_left_comm]
  exact Int.mul_emod_right 2 _

theorem half_of_even {x h : Int} (hx : x % 2 = 0) (hle : h ≤ x) (hpos : 0 ≤ h) : (h + 1) / 2 ≤ x.tdiv 2 := by
  rw [tdiv_eq_ediv (by omega)]
  omega

structure DimsOk (isLinear : Bool) (width height : Int) (luma chroma : PlaneDims) : Prop where
  luma_width : width ≤ luma.width
  luma_height : height ≤ luma.height
  chroma_height : (height + 1) / 2 ≤ chroma.height
  luma_rows : isLinear → luma.stride * luma.height ≤ luma.size
  chroma_rows : isLinear → chroma.stride * chroma.height ≤ chroma.size

def PlaneDims.onFd (d : PlaneDims) (fdIdx offset : Int) : PlaneInfo :=
  ⟨offset, fdIdx, d.size, d.stride, d.width, d.height⟩

theorem fill_zero_exact (d : PlaneDims) : (d.fill .zero).exact = d.onFd 0 0 := rfl

variable {d : PlaneDims}

theorem fill_fits {p : PlaneInfo} (h : (d.fill p).Fits) : 0 ≤ d.size := by
  simp only [PlaneDims.fill, fits_bind, op_fits, inRange_u64] at h
  exact h.1.1

theorem onFd_ne_zero {fdIdx offset : Int} (h : 0 < d.height) : d.onFd fdIdx offset ≠ .zero := by
  intro heq
  have : d.height = 0 := congrArg PlaneInfo.allocHeight heq
  omega

theorem sumPlaneSizes_exact (fd : Int) (ps : List PlaneInfo) (size : Int) : (sumPlaneSizes fd ps size).exact =
      size + ((ps.filter fun p => p.fdIdx = fd).map (·.size)).sum := by
  induction ps generalizing size with
  | nil => simp [sumPlaneSizes]
  | cons p ps ih =>
    by_cases hp : p.fdIdx = fd
    · simp [sumPlaneSizes, hp, ih, add_assoc]
    · simp [sumPlaneSizes, hp, ih]

def sizeOnFd (plane : Planes) (planeCount fd : Int) : Int :=
  (((plane.toList.take planeCount.toNat).filter fun p => p.fdIdx = fd).map (·.size)).sum

variable (plane : Planes)

theorem sizeOnFd_le_fdAllocSize (planeCount fd : Int) :
    sizeOnFd plane planeCount fd ≤ (fdAllocSize plane planeCount fd).exact := by
  simp only [fdAllocSize, exact_bind, sumPlaneSizes_exact, op_exact, exact_pure, zero_add]
  change sizeOnFd plane planeCount fd ≤ if sizeOnFd plane planeCount fd + 1024 < sz4K then sz4K
    else sizeOnFd plane planeCount fd + 1024
  split <;> simp only [sz4K] at * <;> omega

theorem sz4K_le_fdAllocSize (planeCount fd : Int) : sz4K ≤ (fdAllocSize plane planeCount fd).exact := by
  simp only [fdAllocSize, exact_bind, exact_pure]
  split
  · exact le_rfl
  · omega

def layoutOf (plane : Planes) (planeCount : Int) (fdCount : Nat) : ExynosLayout where
  planeInfo := plane
  planeCount := planeCount
  fdCount := fdCount
  allocSizes := (fillAllocSizes plane planeCount (List.range fdCount) [0, 0, 0]).exact

variable (planeCount : Int) (fds : List Nat) {fd : Nat}

theorem fillAllocSizes_exact_getD_of_notMem (allocSizes : List Int) (hfd : fd ∉ fds) :
    (fillAllocSizes plane planeCount fds allocSizes).exact.getD fd 0 = allocSizes.getD fd 0 := by
  induction fds generalizing allocSizes with
  | nil => rfl
  | cons fd' fds ih =>
    obtain ⟨hne, hmem⟩ := not_or.mp (mt List.mem_cons.mpr hfd)
    simp only [fillAllocSizes, exact_bind]
    rw [ih _ hmem, List.getD_eq_getElem?_getD, List.getElem?_set_ne (Ne.symm hne), ← List.getD_eq_getElem?_getD]

theorem fillAllocSizes_exact_getD
    (allocSizes : List Int) (hnodup : fds.Nodup) (hlt : ∀ fd ∈ fds, fd < allocSizes.length) (hfd : fd ∈ fds) :
    (fillAllocSizes plane planeCount fds allocSizes).exact.getD fd 0 = (fdAllocSize plane planeCount fd).exact := by
  induction fds generalizing allocSizes with
  | nil => exact absurd hfd List.not_mem_nil
  | cons fd' fds ih =>
    obtain ⟨hnotMem, hnodup⟩ := List.nodup_cons.mp hnodup
    simp only [fillAllocSizes, exact_bind]
    rcases List.mem_cons.mp hfd with rfl | hmem
    · rw [fillAllocSizes_exact_getD_of_notMem _ _ _ _ hnotMem, List.getD_eq_getElem?_getD,
        List.getElem?_set_self (hlt fd List.mem_cons_self)]
      rfl
    · apply ih _ hnodup _ hmem
      intro i hi
      rw [List.length_set]
      exact hlt i (List.mem_cons_of_mem _ hi)

theorem layoutOf_allocSizes_getD {fdCount fd : Nat} (hfd : fd < fdCount) (hcnt : fdCount ≤ 3) :
    (layoutOf plane planeCount fdCount).allocSizes.getD fd 0 = (fdAllocSize plane planeCount fd).exact := by
  apply fillAllocSizes_exact_getD plane planeCount _ _ List.nodup_range _ (List.mem_range.mpr hfd)
  intro i hi
  have hlt := List.mem_range.mp hi
  simp only [List.length_cons, List.length_nil]
  omega

theorem sizeOnFd_le_allocSizes {fdCount fd : Nat} (hfd : fd < fdCount) (hcnt : fdCount ≤ 3) :
    sizeOnFd plane planeCount fd ≤ (layoutOf plane planeCount fdCount).allocSizes.getD fd 0 := by
  rw [layoutOf_allocSizes_getD plane planeCount hfd hcnt]
  exact sizeOnFd_le_fdAllocSize plane planeCount fd

def semiPlanar (luma chroma : PlaneDims) (fdCount : Nat) : Planes :=
  ⟨luma.onFd 0 0, if fdCount = 1 then chroma.onFd 0 luma.size else chroma.onFd 1 0, .zero⟩

variable {fdCount : Nat}

theorem fillSemiPlanar_exact (luma chroma : PlaneDims) (hcnt : fdCount = 1 ∨ fdCount = 2) :
    (fillSemiPlanar luma chroma fdCount .zero).exact = semiPlanar luma chroma fdCount := by
  rcases hcnt with rfl | rfl <;> rfl

def PlanesInside (plane : Planes) (planeCount : Int) (fdCount : Nat) : Prop :=
  ∀ p ∈ plane.toList.take planeCount.toNat, 0 ≤ p.offset ∧ 0 ≤ p.fdIdx ∧ p.fdIdx < fdCount ∧
    p.offset + p.size ≤ sizeOnFd plane planeCount p.fdIdx

variable {planeCount : Int} {plane : Planes}

theorem PlanesInside.range_subset (h : PlanesInside plane planeCount fdCount) (hcnt : fdCount ≤ 3) :
    ∀ p ∈ (layoutOf plane planeCount fdCount).counted, p.range ⊆ Set.Ico 0
        ((layoutOf plane planeCount fdCount).allocSizes.getD p.fdIdx.toNat 0) := by
  intro p hp
  obtain ⟨hoff, hidx, hfd, hend⟩ := h p hp
  have hlt : p.fdIdx.toNat < fdCount := by omega
  have hsize := sizeOnFd_le_allocSizes plane planeCount hlt hcnt
  rw [Int.toNat_of_nonneg hidx] at hsize
  exact Set.Ico_subset_Ico hoff (hend.trans hsize)

theorem disjoint_range_of_le {p q : PlaneInfo} (h : p.offset + p.size ≤ q.offset) : Disjoint p.range q.range := by
  rw [Set.disjoint_left]
  rintro x ⟨-, hx⟩ ⟨hx', -⟩
  omega

variable {luma chroma : PlaneDims}

theorem planesInside_semiPlanar (hcnt : fdCount = 1 ∨ fdCount = 2) (hplanes : planeCount = 2 ∨ planeCount = 3)
    (hluma : 0 ≤ luma.size) (hchroma : 0 ≤ chroma.size) :
    PlanesInside (semiPlanar luma chroma fdCount) planeCount fdCount := by
  rcases hcnt with rfl | rfl <;> rcases hplanes with rfl | rfl <;>
    simp [PlanesInside, semiPlanar, sizeOnFd, Planes.toList, PlaneDims.onFd, PlaneInfo.zero] <;>
    try omega

variable {isLinear : Bool} {width height : Int}

theorem wellFormed_semiPlanar (hcnt : fdCount = 1 ∨ fdCount = 2) (hheight : 0 < height)
    (hok : DimsOk isLinear width height luma chroma) (hluma : 0 ≤ luma.size)
    (hchroma : 0 ≤ chroma.size) :
    WellFormed isLinear width height (layoutOf (semiPlanar luma chroma fdCount) 2 fdCount) := by
  have hl : ∀ fdIdx offset, luma.onFd fdIdx offset ≠ .zero := fun _ _ =>
    onFd_ne_zero (lt_of_lt_of_le hheight hok.luma_height)
  have hc : ∀ fdIdx offset, chroma.onFd fdIdx offset ≠ .zero := fun _ _ =>
    onFd_ne_zero (lt_of_lt_of_le (by omega) hok.chroma_height)
  have hfilled : (layoutOf (semiPlanar luma chroma fdCount) 2 fdCount).filled =
      [(semiPlanar luma chroma fdCount).p0, (semiPlanar luma chroma fdCount).p1] := by
    rcases hcnt with rfl | rfl <;>
      simp [ExynosLayout.filled, layoutOf, Planes.toList, semiPlanar, hl, hc]
  have hcounted : (layoutOf (semiPlanar luma chroma fdCount) 2 fdCount).counted =
      [(semiPlanar luma chroma fdCount).p0, (semiPlanar luma chroma fdCount).p1] := rfl
  refine ⟨?_, ?_, ?_, ?_, ?_, hok.luma_width, hok.luma_height, ?_⟩
  · rw [hfilled]
    rfl
  · rw [hfilled]
    rcases hcnt with rfl | rfl <;> simp [layoutOf, semiPlanar, PlaneDims.onFd]
  · exact (planesInside_semiPlanar hcnt (.inl rfl) hluma hchroma).range_subset (by omega)
  · rw [hcounted, List.pairwise_pair]
    rcases hcnt with rfl | rfl
    · intro _
      apply disjoint_range_of_le
      simp [semiPlanar, PlaneDims.onFd]
    · intro h
      simp [semiPlanar, PlaneDims.onFd] at h
  · intro hlin
    rw [hcounted]
    rcases hcnt with rfl | rfl <;>
      simpa [semiPlanar, PlaneDims.onFd] using ⟨hok.luma_rows hlin, hok.chroma_rows hlin⟩
  · rw [hfilled]
    rcases hcnt with rfl | rfl <;> simpa [semiPlanar, PlaneDims.onFd] using hok.chroma_height

theorem fillSemiPlanar_fits {fdCount : Int}
    (h : (fillSemiPlanar luma chroma fdCount plane).Fits) : 0 ≤ luma.size ∧ 0 ≤ chroma.size := by
  simp only [fillSemiPlanar, fits_bind] at h
  exact ⟨fill_fits h.1, fill_fits h.2.1⟩

def IsSemiPlanar (isLinear : Bool) (width height : Int) (fdCount : Nat) (planeCount : Int)
    (result : Planes × Int) : Prop :=
  ∃ luma chroma, result = (semiPlanar luma chroma fdCount, planeCount) ∧
    DimsOk isLinear width height luma chroma ∧ 0 ≤ luma.size ∧ 0 ≤ chroma.size

theorem DimsOk.mono {width height width' height' : Int} (hok : DimsOk isLinear width' height' luma chroma)
    (hwidth : width ≤ width') (hheight : height ≤ height') :
    DimsOk isLinear width height luma chroma where
  luma_width := hwidth.trans hok.luma_width
  luma_height := hheight.trans hok.luma_height
  chroma_height := le_trans (by omega) hok.chroma_height
  luma_rows := hok.luma_rows
  chroma_rows := hok.chroma_rows

variable {result : Planes × Int}

theorem IsSemiPlanar.mono {width height width' height' planeCount : Int}
    (hres : IsSemiPlanar isLinear width' height' fdCount planeCount result)
    (hwidth : width ≤ width') (hheight : height ≤ height') :
    IsSemiPlanar isLinear width height fdCount planeCount result := by
  obtain ⟨luma, chroma, heq, hok, hsizes⟩ := hres
  exact ⟨luma, chroma, heq, hok.mono hwidth hheight, hsizes⟩

variable {w h : Int}

theorem dimsOk_sbwc (size0 size1 stride : Int) (hh : 0 ≤ h)
    (hwidth : w ≤ width) (hheight : h ≤ height) (heven : height % 2 = 0) :
    DimsOk false w h ⟨size0, width, height, stride⟩ ⟨size1, width, height.tdiv 2, stride⟩ where
  luma_width := hwidth
  luma_height := hheight
  chroma_height := half_of_even heven hheight hh
  luma_rows := by simp
  chroma_rows := by simp

variable (o : BuildOptions)

theorem half_le_chromaHeight (hh : 0 ≤ h) (hle : h ≤ height)
    (heven : height % 2 = 0) : (h + 1) / 2 ≤ (chromaHeight o height).exact := by
  have hhalf := half_of_even heven hle hh
  cases halign : o.exynosChromaVstrideAlign with
  | false => simpa [chromaHeight, halign] using hhalf
  | true =>
    have hle' := le_grallocAlign_exact i32 (v := height.tdiv 2) (b := chromaValign) (by omega)
      (by decide)
    simpa [chromaHeight, halign] using hhalf.trans hle'

theorem s2bPlaneSize_nonneg (hw : 0 ≤ w) (hh : 0 ≤ h) : 0 ≤ (s2bPlaneSize w h).exact := by
  have hw4 : 0 ≤ w.tdiv 4 := Int.tdiv_nonneg hw (by decide)
  have hwidth := le_grallocAlign_exact i32 (b := 16) hw4 (by decide)
  have hheight := le_grallocAlign_exact i32 (b := 16) hh (by decide)
  simp only [s2bPlaneSize, exact_bind, op_exact]
  exact mul_nonneg (hw4.trans hwidth) (hh.trans hheight)

section
variable {w h : Int} {fdCount : Nat} (hcnt : fdCount = 1 ∨ fdCount = 2) (hw : 0 ≤ w) (hh : 0 ≤ h)

include hcnt hw hh

theorem setupSbwc420Sp_exact (hfits : (setupSbwc420Sp w h fdCount .zero).Fits) :
    IsSemiPlanar false w h fdCount 2 (setupSbwc420Sp w h fdCount .zero).exact := by
  simp only [setupSbwc420Sp, fits_bind] at hfits
  obtain ⟨-, -, -, -, -, -, -, -, -, -, -, -, -, hfill, -⟩ := hfits
  simp only [setupSbwc420Sp, exact_bind, exact_pure, fillSemiPlanar_exact _ _ hcnt]
  refine ⟨_, _, rfl, ?_, fillSemiPlanar_fits hfill⟩
  exact dimsOk_sbwc _ _ _ hh (le_grallocAlign_exact i32 hw (by decide))
    (le_alignUp_exact h (by decide)) (alignUp_exact_even h 8 rfl)

theorem setupSbwc420Sp10bit_exact (hfits : (setupSbwc420Sp10bit w h fdCount .zero).Fits) :
    IsSemiPlanar false w h fdCount 2 (setupSbwc420Sp10bit w h fdCount .zero).exact := by
  simp only [setupSbwc420Sp10bit, fits_bind] at hfits
  obtain ⟨-, -, -, -, -, -, -, -, -, -, -, -, -, -, -, -, -, hfill, -⟩ := hfits
  simp only [setupSbwc420Sp10bit, exact_bind, exact_pure, fillSemiPlanar_exact _ _ hcnt]
  refine ⟨_, _, rfl, ?_, fillSemiPlanar_fits hfill⟩
  exact dimsOk_sbwc _ _ _ hh (le_grallocAlign_exact i32 hw (by decide))
    (le_alignUp_exact h (by decide)) (alignUp_exact_even h 8 rfl)

theorem fillSbwcLossy_exact {stride : Int} (hfits : (fillSbwcLossy stride w h fdCount .zero).Fits) :
    IsSemiPlanar false w h fdCount 2 (fillSbwcLossy stride w h fdCount .zero).exact := by
  simp only [fillSbwcLossy, fits_bind] at hfits
  obtain ⟨-, -, -, -, -, -, hfill, -⟩ := hfits
  simp only [fillSbwcLossy, exact_bind, exact_pure, fillSemiPlanar_exact _ _ hcnt]
  refine ⟨_, _, rfl, ?_, fillSemiPlanar_fits hfill⟩
  exact dimsOk_sbwc _ _ _ hh (le_grallocAlign_exact i32 hw (by decide))
    (le_alignUp_exact h (by decide)) (alignUp_exact_even h 4 rfl)

variable {rate : Int}

theorem setupSbwc420SpLossy_exact (hfits : (setupSbwc420SpLossy w h rate fdCount .zero).Fits) :
    IsSemiPlanar false w h fdCount 2 (setupSbwc420SpLossy w h rate fdCount .zero).exact := by
  simp only [setupSbwc420SpLossy, fits_bind] at hfits
  simp only [setupSbwc420SpLossy, exact_bind]
  exact fillSbwcLossy_exact hcnt hw hh hfits.2

theorem setupSbwc420Sp10bitLossy_exact (hfits : (setupSbwc420Sp10bitLossy w h rate fdCount .zero).Fits) :
    IsSemiPlanar false w h fdCount 2 (setupSbwc420Sp10bitLossy w h rate fdCount .zero).exact := by
  simp only [setupSbwc420Sp10bitLossy, fits_bind] at hfits
  simp only [setupSbwc420Sp10bitLossy, exact_bind]
  exact fillSbwcLossy_exact hcnt hw hh hfits.2

omit hw in
theorem setup420Sp_exact {o : BuildOptions} {padding : Int} (hpadding : 0 ≤ padding)
    (hfits : (setup420Sp o w h fdCount .zero padding).Fits) :
    IsSemiPlanar true w h fdCount 2 (setup420Sp o w h fdCount .zero padding).exact := by
  simp only [setup420Sp, fits_bind] at hfits
  obtain ⟨-, -, -, -, -, -, hfill, -⟩ := hfits
  have hle : h ≤ (grallocAlign i32 h 2).exact := le_grallocAlign_exact i32 hh (by decide)
  simp only [setup420Sp, exact_bind, exact_pure, fillSemiPlanar_exact _ _ hcnt, planeSize, op_exact]
  refine ⟨_, _, rfl, ⟨le_rfl, hle, ?_, ?_, ?_⟩, fillSemiPlanar_fits hfill⟩
  · exact half_le_chromaHeight o hh hle (grallocAlign_exact_even i32 h 1 rfl)
  iterate 2
    intro _
    exact le_add_of_nonneg_right hpadding

theorem setup420SpS10b_exact (hfits : (setup420SpS10b w h fdCount .zero).Fits) :
    IsSemiPlanar true w h fdCount 2 (setup420SpS10b w h fdCount .zero).exact := by
  simp only [setup420SpS10b, fits_bind] at hfits
  obtain ⟨-, -, -, -, -, -, -, -, -, hfill, -⟩ := hfits
  have hle : h ≤ (grallocAlign i32 h 2).exact := le_grallocAlign_exact i32 hh (by decide)
  have heven : (grallocAlign i32 h 2).exact % 2 = 0 := grallocAlign_exact_even i32 h 1 rfl
  have hhalf := half_of_even heven hle hh
  simp only [setup420SpS10b, exact_bind, exact_pure, fillSemiPlanar_exact _ _ hcnt, planeSize, op_exact]
  have hext : (0 : Int) ≤ if (fdCount : Int) = 1 then 256 + 64 else 256 := by split <;> decide
  refine ⟨_, _, rfl, ⟨le_rfl, hle, hhalf, ?_, ?_⟩, fillSemiPlanar_fits hfill⟩
  · intro _
    have hs2b := s2bPlaneSize_nonneg hw (hh.trans hle)
    dsimp only
    omega
  · intro _
    have hs2b := s2bPlaneSize_nonneg hw (le_trans (by omega) hhalf)
    dsimp only
    omega

omit hw in
theorem setupP010Sp_exact (hfits : (setupP010Sp w h fdCount .zero).Fits) :
    IsSemiPlanar true w h fdCount 2 (setupP010Sp w h fdCount .zero).exact := by
  simp only [setupP010Sp, fits_bind] at hfits
  obtain ⟨-, -, -, -, hfill, -⟩ := hfits
  have hle : h ≤ (grallocAlign i32 h 2).exact := le_grallocAlign_exact i32 hh (by decide)
  simp only [setupP010Sp, exact_bind, exact_pure, fillSemiPlanar_exact _ _ hcnt, planeSize, op_exact]
  refine ⟨_, _, rfl, ⟨le_rfl, hle, ?_, fun _ => le_rfl, fun _ => le_rfl⟩, fillSemiPlanar_fits hfill⟩
  exact half_of_even (grallocAlign_exact_even i32 h 1 rfl) hle hh

theorem setup420SpTiled_exact (hfits : (setup420SpTiled w h fdCount .zero).Fits) :
    IsSemiPlanar false w h fdCount 3 (setup420SpTiled w h fdCount .zero).exact := by
  simp only [setup420SpTiled, fits_bind] at hfits
  obtain ⟨-, -, -, -, -, -, hfill, -⟩ := hfits
  have hle : h ≤ (grallocAlign i32 h 2).exact := le_grallocAlign_exact i32 hh (by decide)
  have heven : (grallocAlign i32 h 2).exact % 2 = 0 := grallocAlign_exact_even i32 h 1 rfl
  have hhalf := half_of_even heven hle hh
  have hchroma := le_grallocAlign_exact i32 (b := 32) (le_trans (by omega) hhalf) (by decide)
  simp only [setup420SpTiled, exact_bind, exact_pure, fillSemiPlanar_exact _ _ hcnt]
  refine ⟨_, _, rfl, ⟨?_, hle, hhalf.trans hchroma, by simp, by simp⟩, fillSemiPlanar_fits hfill⟩
  exact le_grallocAlign_exact i32 hw (by decide)

end

def planar (luma chroma : PlaneDims) (fdCount : Nat) : Planes :=
  if fdCount = 1 then
    ⟨luma.onFd 0 0, chroma.onFd 0 luma.size, chroma.onFd 0 (luma.size + chroma.size)⟩
  else
    ⟨luma.onFd 0 0, chroma.onFd 1 0, chroma.onFd 2 0⟩

theorem planesInside_planar (hcnt : fdCount = 1 ∨ fdCount = 3) (hluma : 0 ≤ luma.size) (hchroma : 0 ≤ chroma.size) :
    PlanesInside (planar luma chroma fdCount) 3 fdCount := by
  rcases hcnt with rfl | rfl
  · simp [PlanesInside, planar, sizeOnFd, Planes.toList, PlaneDims.onFd]
    omega
  · simp [PlanesInside, planar, sizeOnFd, Planes.toList, PlaneDims.onFd]

theorem wellFormed_planar (hcnt : fdCount = 1 ∨ fdCount = 3) (hheight : 0 < height)
    (hok : DimsOk isLinear width height luma chroma) (hluma : 0 ≤ luma.size)
    (hchroma : 0 ≤ chroma.size) :
    WellFormed isLinear width height (layoutOf (planar luma chroma fdCount) 3 fdCount) := by
  have hl : ∀ fdIdx offset, luma.onFd fdIdx offset ≠ .zero := fun _ _ =>
    onFd_ne_zero (lt_of_lt_of_le hheight hok.luma_height)
  have hc : ∀ fdIdx offset, chroma.onFd fdIdx offset ≠ .zero := fun _ _ =>
    onFd_ne_zero (lt_of_lt_of_le (by omega) hok.chroma_height)
  have hfilled : (layoutOf (planar luma chroma fdCount) 3 fdCount).filled = (planar luma chroma fdCount).toList := by
    rcases hcnt with rfl | rfl <;>
      simp [ExynosLayout.filled, layoutOf, Planes.toList, planar, hl, hc]
  have hcounted : (layoutOf (planar luma chroma fdCount) 3 fdCount).counted = (planar luma chroma fdCount).toList := rfl
  have hp0 : (planar luma chroma fdCount).p0 = luma.onFd 0 0 := by
    rcases hcnt with rfl | rfl <;> rfl
  refine ⟨?_, ?_, ?_, ?_, ?_, ?_, ?_, ?_⟩
  · rw [hfilled]
    rfl
  · rw [hfilled]
    rcases hcnt with rfl | rfl <;> simp [layoutOf, planar, Planes.toList, PlaneDims.onFd]
  · exact (planesInside_planar hcnt hluma hchroma).range_subset (by omega)
  · rw [hcounted]
    rcases hcnt with rfl | rfl
    · simp only [Planes.toList, List.pairwise_cons, List.forall_mem_cons, List.not_mem_nil,
        false_imp_iff, implies_true, and_true, List.Pairwise.nil]
      refine ⟨⟨?_, ?_⟩, ?_⟩
      · intro _
        apply disjoint_range_of_le
        simp [planar, PlaneDims.onFd]
      · intro _
        apply disjoint_range_of_le
        simpa [planar, PlaneDims.onFd] using hchroma
      · intro _
        apply disjoint_range_of_le
        simp [planar, PlaneDims.onFd]
    · simp [planar, Planes.toList, PlaneDims.onFd]
  · intro hlin
    rw [hcounted]
    rcases hcnt with rfl | rfl <;> simpa [planar, Planes.toList, PlaneDims.onFd] using
        ⟨hok.luma_rows hlin, hok.chroma_rows hlin⟩
  · simpa [layoutOf, hp0, PlaneDims.onFd] using hok.luma_width
  · simpa [layoutOf, hp0, PlaneDims.onFd] using hok.luma_height
  · rw [hfilled]
    rcases hcnt with rfl | rfl <;> simpa [planar, Planes.toList, PlaneDims.onFd] using hok.chroma_height

theorem setup420P_exact {o : BuildOptions} (hcnt : fdCount = 1 ∨ fdCount = 3) (hw : 0 ≤ w) (hh : 0 ≤ h)
    (hfits : (setup420P o w h fdCount .zero).Fits) :
    ∃ luma chroma, (setup420P o w h fdCount .zero).exact = (planar luma chroma fdCount, 3) ∧
      DimsOk true w h luma chroma ∧ 0 ≤ luma.size ∧ 0 ≤ chroma.size := by
  simp only [setup420P, fits_bind] at hfits
  obtain ⟨-, -, -, -, -, -, hluma, hchroma, -⟩ := hfits
  have hle : h ≤ (grallocAlign i32 h 2).exact := le_grallocAlign_exact i32 hh (by decide)
  have heven : (grallocAlign i32 h 2).exact % 2 = 0 := grallocAlign_exact_even i32 h 1 rfl
  have hhalf := half_le_chromaHeight o hh hle heven
  refine ⟨_, _, ?_, ⟨?_, hle, hhalf, ?_, ?_⟩, fill_fits hluma, fill_fits hchroma⟩
  · simp only [setup420P, exact_bind, Planes.zero, fill_zero_exact]
    rcases hcnt with rfl | rfl <;> rfl
  · exact le_grallocAlign_exact i32 hw (by decide)
  · intro _
    exact le_rfl
  · intro _
    exact le_rfl

def semiPlanarCount (format : ExynosFormat) : Int :=
  if format = .ycbcr420SpMTiled then 3 else 2

def SetupOk (format : ExynosFormat) (width height : Int) (result : (Planes × Int) × Int) : Prop :=
  ∃ fdCount : Nat, result.2 = fdCount ∧ ((fdCount = 1 ∨ fdCount = 2) ∧
        IsSemiPlanar format.isLinear width height fdCount (semiPlanarCount format) result.1 ∨
      format ≠ .ycbcr420SpMTiled ∧ (fdCount = 1 ∨ fdCount = 3) ∧ ∃ luma chroma,
        result.1 = (planar luma chroma fdCount, 3) ∧
          DimsOk format.isLinear width height luma chroma ∧ 0 ≤ luma.size ∧ 0 ≤ chroma.size)

variable {format : ExynosFormat}

theorem setupOk_semiPlanar (fdCount : Nat) (hcnt : fdCount = 1 ∨ fdCount = 2)
    (h : IsSemiPlanar format.isLinear width height fdCount (semiPlanarCount format) result) :
    SetupOk format width height (result, (fdCount : Int)) :=
  ⟨fdCount, rfl, .inl ⟨hcnt, h⟩⟩

theorem setupOk_planar {o : BuildOptions}
    (fdCount : Nat) (hcnt : fdCount = 1 ∨ fdCount = 3) (hlin : format.isLinear)
    (hwidth : width ≤ w) (hheight : height ≤ h)
    (hw : 0 ≤ w) (hh : 0 ≤ h) (hfits : (setup420P o w h fdCount .zero).Fits) :
    SetupOk format width height ((setup420P o w h fdCount .zero).exact, (fdCount : Int)) := by
  obtain ⟨luma, chroma, heq, hok, hsizes⟩ := setup420P_exact hcnt hw hh hfits
  have hfmt : format ≠ .ycbcr420SpMTiled := by
    rintro rfl
    cases hlin
  rw [← hlin] at hok
  exact ⟨fdCount, rfl, .inr ⟨hfmt, hcnt, luma, chroma, heq, hok.mono hwidth hheight, hsizes⟩⟩

theorem setupFormat_exact (hw : 0 ≤ w) (hh : 0 ≤ h) (hfits : (setupFormat o format w h .zero).Fits) :
    SetupOk format w h (setupFormat o format w h .zero).exact := by
  have hw16 : w ≤ (grallocAlign i32 w 16).exact := le_grallocAlign_exact i32 hw (by decide)
  have hw32 : w ≤ (grallocAlign i32 w 32).exact := le_grallocAlign_exact i32 hw (by decide)
  have hw64 : w ≤ (grallocAlign i32 w boardExynosS10bFormatAlign).exact := le_grallocAlign_exact i32 hw (by decide)
  have hh2 : h ≤ (grallocAlign i32 h 2).exact := le_grallocAlign_exact i32 hh (by decide)
  have hh16 : h ≤ (grallocAlign i32 h 16).exact := le_grallocAlign_exact i32 hh (by decide)
  cases format with
  | ycbcr420SpMTiled =>
    have hh32 : h ≤ (grallocAlign i32 h 32).exact := le_grallocAlign_exact i32 hh (by decide)
    simp only [setupFormat, fits_bind] at hfits
    obtain ⟨-, -, hsetup, -⟩ := hfits
    simp only [setupFormat, exact_bind, exact_pure]
    exact setupOk_semiPlanar 2 (.inr rfl)
      ((setup420SpTiled_exact (.inr rfl) (hw.trans hw16) (hh.trans hh32) hsetup).mono hw16 hh32)
  | ycbcr420SpMSbwc | ycrcb420SpMSbwc =>
    exact setupOk_semiPlanar 2 (.inr rfl) (setupSbwc420Sp_exact (.inr rfl) hw hh (fits_of_bind hfits))
  | ycbcr420SpnSbwc =>
    exact setupOk_semiPlanar 1 (.inl rfl) (setupSbwc420Sp_exact (.inl rfl) hw hh (fits_of_bind hfits))
  | ycbcr420SpM10bSbwc | ycrcb420SpM10bSbwc =>
    exact setupOk_semiPlanar 2 (.inr rfl) (setupSbwc420Sp10bit_exact (.inr rfl) hw hh (fits_of_bind hfits))
  | ycbcr420Spn10bSbwc =>
    exact setupOk_semiPlanar 1 (.inl rfl) (setupSbwc420Sp10bit_exact (.inl rfl) hw hh (fits_of_bind hfits))
  | ycbcr420SpMSbwcL50 | ycbcr420SpMSbwcL75 =>
    exact setupOk_semiPlanar 2 (.inr rfl) (setupSbwc420SpLossy_exact (.inr rfl) hw hh (fits_of_bind hfits))
  | ycbcr420SpnSbwcL50 | ycbcr420SpnSbwcL75 =>
    exact setupOk_semiPlanar 1 (.inl rfl) (setupSbwc420SpLossy_exact (.inl rfl) hw hh (fits_of_bind hfits))
  | ycbcr420SpM10bSbwcL40 | ycbcr420SpM10bSbwcL60 | ycbcr420SpM10bSbwcL80 =>
    exact setupOk_semiPlanar 2 (.inr rfl) (setupSbwc420Sp10bitLossy_exact (.inr rfl) hw hh (fits_of_bind hfits))
  | ycbcr420Spn10bSbwcL40 | ycbcr420Spn10bSbwcL60 | ycbcr420Spn10bSbwcL80 =>
    exact setupOk_semiPlanar 1 (.inl rfl) (setupSbwc420Sp10bitLossy_exact (.inl rfl) hw hh (fits_of_bind hfits))
  | ycrcb420Sp =>
    simp only [setupFormat, fits_bind] at hfits
    obtain ⟨-, -, hsetup, -⟩ := hfits
    have hwidth : w ≤ (ycrcb420SpWidth o w).exact := by
      rw [ycrcb420SpWidth]
      split
      · exact hw16
      · exact le_rfl
    simp only [setupFormat, exact_bind, exact_pure]
    exact setupOk_semiPlanar 1 (.inl rfl) ((setup420Sp_exact (.inl rfl) (hh.trans hh2) le_rfl hsetup).mono hwidth hh2)
  | yv12M | ycbcr420PM =>
    simp only [setupFormat, fits_bind] at hfits
    obtain ⟨-, -, hsetup, -⟩ := hfits
    simp only [setupFormat, exact_bind, exact_pure]
    exact setupOk_planar 3 (.inr rfl) rfl hw32 hh16 (hw.trans hw32) (hh.trans hh16) hsetup
  | ycbcr420P =>
    simp only [setupFormat, fits_bind] at hfits
    obtain ⟨-, hsetup, -⟩ := hfits
    simp only [setupFormat, exact_bind, exact_pure]
    exact setupOk_planar 1 (.inl rfl) rfl hw16 le_rfl (hw.trans hw16) hh hsetup
  | ycrcb420SpM | ycrcb420SpMFull | ycbcr420SpM =>
    simp only [setupFormat, fits_bind] at hfits
    obtain ⟨-, -, hsetup, -⟩ := hfits
    simp only [setupFormat, exact_bind, exact_pure]
    exact setupOk_semiPlanar 2 (.inr rfl) ((setup420Sp_exact (.inr rfl) (hh.trans hh16) le_rfl hsetup).mono hw16 hh16)
  | ycbcr420Spn =>
    have hw16' : (grallocAlign i32 w 16).exact ≤ (grallocAlign i32 (grallocAlign i32 w 16).exact 64).exact :=
      le_grallocAlign_exact i32 (hw.trans hw16) (by decide)
    simp only [setupFormat, fits_bind] at hfits
    obtain ⟨-, -, hrest⟩ := hfits
    simp only [setupFormat, exact_bind]
    cases hvendor : o.productVendorT with
    | true =>
      rw [hvendor] at hrest
      simp only [if_true, fits_bind] at hrest
      obtain ⟨-, hsetup, -⟩ := hrest
      simp only [if_true, exact_bind, exact_pure]
      exact setupOk_semiPlanar 1 (.inl rfl)
        ((setup420Sp_exact (.inl rfl) (hh.trans hh16) le_rfl hsetup).mono (hw16.trans hw16') hh16)
    | false =>
      rw [hvendor] at hrest
      simp only [Bool.false_eq_true, if_false, fits_bind] at hrest
      simp only [Bool.false_eq_true, if_false, exact_bind, exact_pure]
      exact setupOk_semiPlanar 1 (.inl rfl)
        ((setup420Sp_exact (.inl rfl) (hh.trans hh16) (by decide) hrest.1).mono hw16 hh16)
  | ycbcr420SpMS10b =>
    simp only [setupFormat, fits_bind] at hfits
    obtain ⟨-, -, hsetup, -⟩ := hfits
    simp only [setupFormat, exact_bind, exact_pure]
    exact setupOk_semiPlanar 2 (.inr rfl)
      ((setup420SpS10b_exact (.inr rfl) (hw.trans hw64) (hh.trans hh16) hsetup).mono hw64 hh16)
  | ycbcr420SpnS10b =>
    simp only [setupFormat, fits_bind] at hfits
    obtain ⟨-, -, hsetup, -⟩ := hfits
    simp only [setupFormat, exact_bind, exact_pure]
    exact setupOk_semiPlanar 1 (.inl rfl)
      ((setup420SpS10b_exact (.inl rfl) (hw.trans hw64) (hh.trans hh16) hsetup).mono hw64 hh16)
  | ycbcrP010M =>
    simp only [setupFormat, fits_bind] at hfits
    obtain ⟨-, -, hsetup, -⟩ := hfits
    simp only [setupFormat, exact_bind, exact_pure]
    exact setupOk_semiPlanar 2 (.inr rfl) ((setupP010Sp_exact (.inr rfl) (hh.trans hh16) hsetup).mono hw16 hh16)

def freshLayout (o : BuildOptions) (format : ExynosFormat) (width height : Int) :
    Arith ExynosLayout :=
  prepareDescriptorExynosFormats o format width height .zero [0, 0, 0]

theorem freshLayout_exact (format : ExynosFormat) (width height : Int)
    (h : (setupFormat o format width height .zero).exact = ((plane, planeCount), (fdCount : Int))) :
    (freshLayout o format width height).exact = layoutOf plane planeCount fdCount := by
  simp only [freshLayout, prepareDescriptorExynosFormats, exact_bind, op_exact, h]
  rfl

theorem not_wellFormed_tiled :
    ¬ WellFormed isLinear width height (layoutOf (semiPlanar luma chroma fdCount) 3 fdCount) := by
  intro hwf
  have hcnt := hwf.planeCount_eq
  have hfilled : (layoutOf (semiPlanar luma chroma fdCount) 3 fdCount).filled.length ≤ 2 := by
    have htwo : (layoutOf (semiPlanar luma chroma fdCount) 3 fdCount).filled =
        [(semiPlanar luma chroma fdCount).p0, (semiPlanar luma chroma fdCount).p1].filter
          fun p => p ≠ .zero := by
      simp [ExynosLayout.filled, layoutOf, Planes.toList, semiPlanar, List.filter_cons]
    rw [htwo]
    exact List.length_filter_le _ _
  change (3 : Int) = _ at hcnt
  omega

theorem setupFormat_fits {o : BuildOptions} (h : (freshLayout o format width height).Fits) :
    (setupFormat o format width height .zero).Fits := by
  simp only [freshLayout, prepareDescriptorExynosFormats, fits_bind, op_exact] at h
  exact h.2.2.1

/-- A fresh layout without overflow is well formed exactly for the formats whose setup function
counts the planes it fills in. -/
theorem freshLayout_wellFormed_iff (o : BuildOptions) (format : ExynosFormat) (width height : Int)
    (hwidth : 1 ≤ width) (hheight : 1 ≤ height) (hfits : (freshLayout o format width height).Fits) :
    WellFormed format.isLinear width height (freshLayout o format width height).machine ↔
      format ≠ .ycbcr420SpMTiled := by
  rw [Arith.machine_eq_exact hfits]
  obtain ⟨fdCount, hfd, hsemi | hplanar⟩ := setupFormat_exact o (by omega) (by omega) (setupFormat_fits hfits)
  · obtain ⟨hcnt, luma, chroma, heq, hok, hluma, hchroma⟩ := hsemi
    rw [freshLayout_exact o format width height (Prod.ext heq hfd)]
    constructor
    · rintro hwf rfl
      exact not_wellFormed_tiled hwf
    · intro hfmt
      rw [semiPlanarCount, if_neg hfmt]
      exact wellFormed_semiPlanar hcnt (by omega) hok hluma hchroma
  · obtain ⟨hfmt, hcnt, luma, chroma, heq, hok, hluma, hchroma⟩ := hplanar
    rw [freshLayout_exact o format width height (Prod.ext heq hfd)]
    exact iff_of_true (wellFormed_planar hcnt (by omega) hok hluma hchroma) hfmt

def defaultBuild : BuildOptions := ⟨false, false, false, false, false⟩

theorem freshLayout_wellFormed_iff_420P : (freshLayout defaultBuild .ycbcr420P 642 481).Fits ∧
      WellFormed true 642 481 (freshLayout defaultBuild .ycbcr420P 642 481).machine :=
  ⟨by decide, (freshLayout_wellFormed_iff defaultBuild .ycbcr420P 642 481 (by decide)
    (by decide) (by decide)).mpr (by decide)⟩

theorem freshLayout_tiled_not_wellFormed : (freshLayout defaultBuild .ycbcr420SpMTiled 16 32).Fits ∧
      ¬ WellFormed false 16 32 (freshLayout defaultBuild .ycbcr420SpMTiled 16 32).machine :=
  ⟨by decide, fun hwf => absurd hwf.planeCount_eq (by decide)⟩

end ExynosHal.Gralloc
