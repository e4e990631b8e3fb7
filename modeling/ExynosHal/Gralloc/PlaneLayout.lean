import ExynosHal.Gralloc.Layers

/-! # The planes of `calc_allocation_size`

Planes lie one behind the other.
-/

namespace ExynosHal.Gralloc
open Library Library.IntType
open Arith (exact_bind exact_pure)
open List (range)

def activeAlign (hwAlign cpuAlign : Int) : Int :=
  if hwAlign ≠ 0 ∧ cpuAlign ≠ 0 then Int.lcm hwAlign cpuAlign else max hwAlign cpuAlign

variable {a b : Int}

theorem lcm_exact (ha : 0 ≤ a) (hb : 0 ≤ b) : (lcm a b).exact = activeAlign a b := by
  rw [lcm, activeAlign]
  split
  · rename_i hne
    have hprod : (Int.gcd a b : Int) * Int.lcm a b = a * b := by
      rw [← Int.natCast_mul, Int.gcd_mul_lcm, Int.natCast_mul, Int.natAbs_of_nonneg ha, Int.natAbs_of_nonneg hb]
    have hgcd : (Int.gcd a b : Int) ≠ 0 := by
      exact_mod_cast Int.gcd_ne_zero_left hne.1
    simp only [exact_bind, op_exact, exact_pure]
    rw [← hprod, Int.mul_tdiv_cancel_left _ hgcd]
  · rfl

theorem activeAlign_nonneg (ha : 0 ≤ a) : 0 ≤ activeAlign a b := by
  rw [activeAlign]
  split
  · exact Int.natCast_nonneg _
  · exact ha.trans (le_max_left _ _)

theorem allocAlignStride_pos (id : U32) (usage : U64) : 0 < allocAlignStride id usage := by
  simp only [allocAlignStride]
  split_ifs <;> omega

variable (o : BuildOptions)

theorem hwAlign_nonneg (format : FormatInfo) (usage : U64) : 0 ≤ hwAlign o format usage := by
  have hstride := allocAlignStride_pos format.id usage
  simp only [hwAlign]
  split_ifs <;> omega

def strideAlignment (o : BuildOptions) (format : FormatInfo) (plane : Nat) (usage : U64) :
    Int :=
  if o.supportRaw10Raw12 && (format.id == formatRaw10 || format.id == formatRaw12) then 16
  else activeAlign (hwAlign o format usage) (format.bpp.get plane * format.alignWCpu / 8)

theorem strideAlign_exact {format : FormatInfo} (plane : Nat) (usage : U64)
    (hbpp : 0 ≤ format.bpp.get plane) (hcpu : 0 ≤ format.alignWCpu) :
    (strideAlign o format plane usage).exact = strideAlignment o format plane usage := by
  have hpos : 0 ≤ format.bpp.get plane * format.alignWCpu := mul_nonneg hbpp hcpu
  simp only [strideAlign, exact_bind, strideAlignment, tdiv_eq_ediv hpos]
  rw [lcm_exact (hwAlign_nonneg o format usage) (by omega)]
  split <;> rfl

theorem strideAlignment_nonneg (format : FormatInfo) (plane : Nat)
    (usage : U64) : 0 ≤ strideAlignment o format plane usage := by
  rw [strideAlignment]
  split
  · decide
  · exact activeAlign_nonneg (hwAlign_nonneg o format usage)

structure Contiguous (planes : Planes) (npln : Nat) (size : Int) (bytes : Nat → Int) : Prop where
  first : (planes.get 0).offset = 0
  ends : ∀ i < npln, (planes.get i).size = (planes.get i).offset + bytes i
  next : ∀ i, i + 1 < npln → (planes.get (i + 1)).offset = (planes.get i).offset + bytes i
  last : size = (planes.get (npln - 1)).offset + bytes (npln - 1)

theorem planesBytes_succ (body : Nat → Arith PlaneBody) (i : Nat) : planesBytes body (range (i + 1)) =
      planesBytes body (range i) + ((body i).exact.bodySize + (body i).exact.headerSize) := by
  simp [planesBytes, List.range_succ]

section
variable {o : BuildOptions} {format : FormatInfo} {t : AllocType} {usage : U64}
  {width height : Int}

variable (planeInfo : Planes)

theorem calcAllocationSize_exact_get
    (hnpln : format.npln = 1 ∨ format.npln = 2 ∨ format.npln = 3) {i : Nat} (hi : i < format.npln) :
    (calcAllocationSize o format t usage width height planeInfo).exact.2.get i = { (planeInfo.get i) with
        offset := planesBytes (planeBody o format t usage width height) (range i)
        size := planesBytes (planeBody o format t usage width height) (range (i + 1))
        byteStride := (planeBody o format t usage width height i).exact.byteStride
        allocWidth := (planeBody o format t usage width height i).exact.allocWidth
        allocHeight := (planeBody o format t usage width height i).exact.allocHeight } := by
  rcases hnpln with h | h | h
  all_goals
    rw [h] at hi
    interval_cases i
  all_goals simp [calcAllocationSize, h, List.range_succ, placePlanes, planesBytes, Planes.get,
    Planes.set, add_assoc]

theorem calcAllocationSize_contiguous (hnpln : format.npln = 1 ∨ format.npln = 2 ∨ format.npln = 3) :
    Contiguous (calcAllocationSize o format t usage width height planeInfo).exact.2 format.npln
      (calcAllocationSize o format t usage width height planeInfo).exact.1 fun i =>
        (planeBody o format t usage width height i).exact.bodySize +
          (planeBody o format t usage width height i).exact.headerSize := by
  constructor
  · rw [calcAllocationSize_exact_get planeInfo hnpln (by omega)]
    rfl
  · intro i hi
    rw [calcAllocationSize_exact_get planeInfo hnpln hi]
    exact planesBytes_succ _ i
  · intro i hi
    rw [calcAllocationSize_exact_get planeInfo hnpln hi, calcAllocationSize_exact_get planeInfo hnpln (by omega)]
    exact planesBytes_succ _ i
  · rw [calcAllocationSize_exact_get planeInfo hnpln (by omega)]
    rw [← planesBytes_succ, calcAllocationSize, placePlanes_exact_fst, zero_add]
    congr 2
    omega

end

def onPlane (plane : Nat) (sub x : Int) : Int :=
  if plane > 0 then x / sub else x

def samplesOnPlane (plane : Nat) (sub x : Int) : Int :=
  if plane > 0 then (x + sub - 1) / sub else x

structure FormatOk (o : BuildOptions) (format : FormatInfo) (usage : U64) : Prop where
  npln : format.npln = 1 ∨ format.npln = 2 ∨ format.npln = 3
  bpp : ∀ plane, 0 ≤ format.bpp.get plane
  alignWCpu : 0 ≤ format.alignWCpu
  alignW : 0 < format.alignW
  alignH : 0 < format.alignH
  sampled : 1 < format.npln → 0 < format.hsub ∧ format.hsub ∣ format.alignW ∧ 0 < format.vsub ∧
    format.vsub ∣ format.alignH
  tileSize : 0 < format.tileSize
  tile_dvd : ∀ plane < format.npln, format.tileSize ∣ strideAlignment o format plane usage

def lastAlign (align tileSize : Int) : Int := max 1 (max align tileSize)

theorem lastAlign_pos (align tileSize : Int) : 0 < lastAlign align tileSize :=
  lt_of_lt_of_le Int.one_pos (le_max_left _ _)

section
variable {o : BuildOptions} {format : FormatInfo} {usage : U64} {plane : Nat} {sub x : Int}

theorem onPlane_nonneg (hsub : 0 < plane → 0 < sub) (hx : 0 ≤ x) : 0 ≤ onPlane plane sub x := by
  rw [onPlane]
  split
  · rename_i hplane
    exact Int.ediv_nonneg hx (hsub hplane).le
  · exact hx

variable {width height : Int}

theorem getPixelWH_exact (hok : FormatOk o format usage) (t : AllocType) (hasCpuUsage : Bool)
    (hplane : plane < format.npln) (hwidth : 0 ≤ width) (hheight : 0 ≤ height) :
    (getPixelWH format t plane hasCpuUsage width height).exact =
      (alignTo (onPlane plane format.hsub (alignTo width format.alignW))
          (lastAlign (pixelAlign format t plane hasCpuUsage).1 format.tileSize),
        alignTo (onPlane plane format.vsub (alignTo height format.alignH))
          (lastAlign (pixelAlign format t plane hasCpuUsage).2 format.tileSize)) := by
  have hw := alignTo_nonneg hwidth hok.alignW
  have hh := alignTo_nonneg hheight hok.alignH
  have hsub : 0 < plane → 0 < format.hsub := fun h => (hok.sampled (by omega)).1
  have hvsub : 0 < plane → 0 < format.vsub := fun h => (hok.sampled (by omega)).2.2.1
  simp only [getPixelWH, exact_bind, exact_pure,
    grallocAlign_exact u32 hwidth hok.alignW, grallocAlign_exact u32 hheight hok.alignH,
    tdiv_eq_ediv hw, tdiv_eq_ediv hh]
  have honW := onPlane_nonneg hsub hw
  have honH := onPlane_nonneg hvsub hh
  exact Prod.ext (grallocAlign_exact u32 honW (lastAlign_pos _ _)) (grallocAlign_exact u32 honH (lastAlign_pos _ _))

theorem samplesOnPlane_le {sub align x : Int} (hsub : 0 < plane → 0 < sub ∧ sub ∣ align)
    (halign : 0 < align) : samplesOnPlane plane sub x ≤ onPlane plane sub (alignTo x align) := by
  have hle := le_alignTo x halign
  rw [samplesOnPlane, onPlane]
  split
  · rename_i hplane
    obtain ⟨hpos, hdvd⟩ := hsub hplane
    obtain ⟨k, hk⟩ := hdvd.trans (dvd_alignTo x align)
    rw [hk] at hle ⊢
    rw [Int.mul_ediv_cancel_left _ hpos.ne']
    apply Int.lt_add_one_iff.mp
    apply Int.ediv_lt_of_lt_mul hpos
    rw [add_mul, one_mul, mul_comm k]
    omega
  · exact hle

structure LinearPlane (o : BuildOptions) (format : FormatInfo) (usage : U64) (width : Int)
    (plane : Nat) (p : PlaneInfo) (bytes : Int) : Prop where
  stride_dvd : strideAlignment o format plane usage ≠ 0 →
    strideAlignment o format plane usage / format.tileSize ∣ p.byteStride
  row : format.bpp.get plane * samplesOnPlane plane format.hsub width ≤ p.byteStride * 8
  bytes : bytes = p.byteStride * p.allocHeight

theorem linearStride_exact (hok : FormatOk o format usage) (hplane : plane < format.npln)
    {allocWidth : Int} (hwidth : 0 ≤ allocWidth)
    (hwhole : allocWidth * format.bpp.get plane % 8 = 0) :
    (strideAlignment o format plane usage ≠ 0 → strideAlignment o format plane usage / format.tileSize ∣
        (linearStride o format plane usage allocWidth).exact.1) ∧
    allocWidth * format.bpp.get plane ≤ (linearStride o format plane usage allocWidth).exact.1 * 8 := by
  have hbits : 0 ≤ allocWidth * format.bpp.get plane := mul_nonneg hwidth (hok.bpp plane)
  simp only [linearStride, exact_bind, op_exact, tdiv_eq_ediv hbits,
    strideAlign_exact o plane usage (hok.bpp plane) hok.alignWCpu]
  generalize hstride : allocWidth * format.bpp.get plane / 8 = stride
  generalize halign : strideAlignment o format plane usage = align
  have htile : format.tileSize ∣ align := by
    rw [← halign]
    exact hok.tile_dvd plane hplane
  have hnonneg : 0 ≤ align := by
    rw [← halign]
    exact strideAlignment_nonneg o format plane usage
  split
  · rename_i hne
    have hpos : 0 < align := lt_of_le_of_ne hnonneg (Ne.symm hne)
    have htiled : 0 ≤ stride * format.tileSize := mul_nonneg (by omega) hok.tileSize.le
    have hle := le_alignTo (stride * format.tileSize) hpos
    obtain ⟨k, hk⟩ := dvd_alignTo (stride * format.tileSize) align
    obtain ⟨m, rfl⟩ := htile
    simp only [exact_bind, op_exact, exact_pure, grallocAlign_exact u32 htiled hpos]
    rw [hk, mul_assoc] at hle ⊢
    rw [Int.mul_tdiv_cancel_left _ hok.tileSize.ne']
    rw [Int.mul_ediv_cancel_left _ hok.tileSize.ne']
    constructor
    · intro _
      exact Dvd.intro k rfl
    · have hstrides : stride ≤ m * k := by
        apply le_of_mul_le_mul_left _ hok.tileSize
        rwa [mul_comm format.tileSize stride]
      omega
  · rename_i hzero
    constructor
    · intro hne
      exact absurd hne hzero
    · simp only [exact_pure]
      omega

def RowsWhole (format : FormatInfo) (t : AllocType) (usage : U64) (width height : Int) (plane : Nat) : Prop :=
  (getPixelWH format t plane (hasAny usage (usageSwReadMask ||| usageSwWriteMask)) width
    height).exact.1 * (if t.isAfbc then format.bppAfbc.get plane else format.bpp.get plane) % 8 = 0

variable {t : AllocType} {p : PlaneInfo}

theorem planeBody_linear (hok : FormatOk o format usage)
    (hplane : plane < format.npln) (hlin : t.isAfbc = false) (hwidth : 0 ≤ width)
    (hheight : 0 ≤ height) (hwhole : RowsWhole format t usage width height plane)
    (hp : p.byteStride = (planeBody o format t usage width height plane).exact.byteStride)
    (hh : p.allocHeight = (planeBody o format t usage width height plane).exact.allocHeight) :
    LinearPlane o format usage width plane p ((planeBody o format t usage width height plane).exact.bodySize +
        (planeBody o format t usage width height plane).exact.headerSize) := by
  have hsub : 0 < plane → 0 < format.hsub ∧ format.hsub ∣ format.alignW := by
    intro h
    obtain ⟨hpos, hdvd, -⟩ := hok.sampled (by omega)
    exact ⟨hpos, hdvd⟩
  have hdims := getPixelWH_exact hok t (hasAny usage (usageSwReadMask ||| usageSwWriteMask)) hplane hwidth hheight
  rw [RowsWhole, hlin, hdims] at hwhole
  simp only [planeBody, hlin, exact_bind, op_exact, hdims, exact_pure,
    Bool.false_eq_true, if_false] at hp hh hwhole ⊢
  have hsamples := samplesOnPlane_le (x := width) hsub hok.alignW
  generalize onPlane plane format.hsub (alignTo width format.alignW) = onW at *
  have hround := le_alignTo onW (lastAlign_pos
    (pixelAlign format t plane (hasAny usage (usageSwReadMask ||| usageSwWriteMask))).1
    format.tileSize)
  generalize alignTo onW (lastAlign _ format.tileSize) = allocWidth at *
  have hsamplesNonneg : 0 ≤ samplesOnPlane plane format.hsub width := by
    rw [samplesOnPlane]
    split
    · rename_i h
      exact Int.ediv_nonneg (by have := (hsub h).1; omega) (hsub h).1.le
    · exact hwidth
  obtain ⟨hdvd, hrow⟩ := linearStride_exact hok hplane (hsamplesNonneg.trans (hsamples.trans hround)) hwhole
  constructor
  · rw [hp]
    exact hdvd
  · rw [hp]
    refine le_trans ?_ hrow
    rw [mul_comm]
    exact mul_le_mul_of_nonneg_right (hsamples.trans hround) (hok.bpp plane)
  · rw [hp, hh, add_zero]

def bufferAlign (isTiled : Bool) : Int := if isTiled then 4 * 1024 else 1024

def afbcUnit (format : FormatInfo) (t : AllocType) (plane : Nat) : Int × Int :=
  let scale : Int := if t.isTiled then (if format.bppAfbc.get plane > 32 then 4 else 8) else 1
  (scale * (afbcPlaneSbSize t plane).1, scale * (afbcPlaneSbSize t plane).2)

def TileFits (format : FormatInfo) (t : AllocType) (plane : Nat) : Prop :=
  (format.tileSize ≤ (pixelAlign format t plane false).1 ∨ (afbcUnit format t plane).1 ∣ format.tileSize) ∧
    (format.tileSize ≤ (pixelAlign format t plane false).2 ∨ (afbcUnit format t plane).2 ∣ format.tileSize)

structure AfbcPlane (format : FormatInfo) (t : AllocType) (plane : Nat) (p : PlaneInfo)
    (headerSize : Int) : Prop where
  width : (afbcUnit format t plane).1 ∣ p.allocWidth
  height : (afbcUnit format t plane).2 ∣ p.allocHeight
  header : headerSize = alignTo (16 * (p.allocWidth / (afbcPlaneSbSize t plane).1 *
    (p.allocHeight / (afbcPlaneSbSize t plane).2))) (bufferAlign t.isTiled)
  start : bufferAlign t.isTiled ∣ p.offset
  body : bufferAlign t.isTiled ∣ p.offset + headerSize

theorem afbcPlaneSbSize_cases (hafbc : t.isAfbc) (plane : Nat) :
    afbcPlaneSbSize t plane = (16, 16) ∨ afbcPlaneSbSize t plane = (32, 8) ∨ afbcPlaneSbSize t plane = (64, 4) := by
  rw [afbcPlaneSbSize]
  split
  · exact .inr (.inr rfl)
  · cases h : t.primaryType with
    | uncompressed =>
      rw [AllocType.isAfbc, h] at hafbc
      cases hafbc
    | afbc => exact .inl rfl
    | afbcWideblk => exact .inr (.inl rfl)
    | afbcExtrawideblk => exact .inr (.inr rfl)

theorem afbcUnit_dvd_pixelAlign (format : FormatInfo) (hafbc : t.isAfbc) (plane : Nat) :
    (afbcUnit format t plane).1 ∣ (pixelAlign format t plane false).1 ∧
      (afbcUnit format t plane).2 ∣ (pixelAlign format t plane false).2 ∧
      0 < (pixelAlign format t plane false).1 ∧ 0 < (pixelAlign format t plane false).2 := by
  rcases afbcPlaneSbSize_cases hafbc plane with h | h | h
  all_goals
    simp only [afbcUnit, pixelAlign, h, hafbc, Bool.false_eq_true, if_false, if_true]
    split_ifs <;> decide

theorem unit_dvd_alignTo {unit align tileSize : Int} (x : Int) (halign : unit ∣ align)
    (hpos : 0 < align) (htile : tileSize ≤ align ∨ unit ∣ tileSize) :
    unit ∣ alignTo x (lastAlign align tileSize) := by
  refine dvd_trans ?_ (dvd_alignTo x _)
  rw [lastAlign]
  rcases htile with hle | hdvd
  · rw [max_eq_left hle, max_eq_right (by omega)]
    exact halign
  · rcases le_total align tileSize with hle | hle
    · rw [max_eq_right hle, max_eq_right (by omega)]
      exact hdvd
    · rw [max_eq_left hle, max_eq_right (by omega)]
      exact halign

theorem superblocks {sb : Int × Int} {w h : Int}
    (hsb : sb = (16, 16) ∨ sb = (32, 8) ∨ sb = (64, 4)) (hw : sb.1 ∣ w) (hh : sb.2 ∣ h) :
    w * h / afbcPixelsPerBlock = w / sb.1 * (h / sb.2) := by
  obtain ⟨a, rfl⟩ := hw
  obtain ⟨b, rfl⟩ := hh
  have harea : sb.1 * sb.2 = afbcPixelsPerBlock := by
    rcases hsb with rfl | rfl | rfl <;> rfl
  have hpos : sb.1 ≠ 0 ∧ sb.2 ≠ 0 := by
    rcases hsb with rfl | rfl | rfl <;> decide
  rw [mul_mul_mul_comm, harea, Int.mul_ediv_cancel_left _ (by decide),
    Int.mul_ediv_cancel_left _ hpos.1, Int.mul_ediv_cancel_left _ hpos.2]

variable (isTiled : Bool)

theorem bufferAlign_pos : 0 < bufferAlign isTiled := by
  cases isTiled <;> decide

theorem afbcBufferAlign_dvd (size : Int) : bufferAlign isTiled ∣ (afbcBufferAlign isTiled size).exact := by
  simp only [afbcBufferAlign, grallocAlign, exact_bind, op_exact]
  exact Dvd.intro_left _ rfl

theorem afbcBodySize_dvd (t : AllocType) {plane : Nat} (sbNum : Int) (hplane : plane + 1 < format.npln)
    (hnpln : format.npln ≤ 3) :
    bufferAlign t.isTiled ∣ (afbcBodySize format t plane sbNum).exact := by
  have hmore : format.npln > 1 ∧ plane < 2 := by omega
  simp only [afbcBodySize, exact_bind, op_exact, hmore, and_self, if_true]
  split
  · simp only [exact_bind, op_exact]
    exact dvd_add (afbcBufferAlign_dvd _ _) (afbcBufferAlign_dvd _ _)
  · exact afbcBufferAlign_dvd _ _

theorem planeBody_afbc_exact (hafbc : t.isAfbc = true) (plane : Nat) :
    (planeBody o format t usage width height plane).exact =
      let dims := (getPixelWH format t plane (hasAny usage (usageSwReadMask ||| usageSwWriteMask)) width height).exact
      let sbNum := (dims.1 * dims.2).tdiv afbcPixelsPerBlock
      ⟨dims.1, dims.2, (dims.1 * format.bppAfbc.get plane).tdiv 8, (afbcBodySize format t plane sbNum).exact,
        (afbcBufferAlign t.isTiled (sbNum * afbcHeaderBytesPerBlock)).exact⟩ := by
  simp only [planeBody, hafbc, exact_bind, op_exact, exact_pure, if_true]

theorem afbc_start_dvd (hafbc : t.isAfbc)
    (hnpln : format.npln ≤ 3) {plane : Nat} (hplane : plane < format.npln) :
    bufferAlign t.isTiled ∣ planesBytes (planeBody o format t usage width height) (range plane) := by
  induction plane with
  | zero => exact dvd_zero _
  | succ plane ih =>
    rw [planesBytes_succ, planeBody_afbc_exact hafbc]
    exact dvd_add (ih (by omega)) (dvd_add (afbcBodySize_dvd t _ hplane hnpln)
      (afbcBufferAlign_dvd _ _))

theorem planeBody_afbc (hok : FormatOk o format usage) (hplane : plane < format.npln) (hafbc : t.isAfbc)
    (hcpu : hasAny usage (usageSwReadMask ||| usageSwWriteMask) = false) (hwidth : 0 ≤ width)
    (hheight : 0 ≤ height) (htile : TileFits format t plane)
    (hstart : p.offset = planesBytes (planeBody o format t usage width height) (range plane))
    (hw : p.allocWidth = (planeBody o format t usage width height plane).exact.allocWidth)
    (hh : p.allocHeight = (planeBody o format t usage width height plane).exact.allocHeight) :
    AfbcPlane format t plane p (planeBody o format t usage width height plane).exact.headerSize := by
  have hdims := getPixelWH_exact hok t false hplane hwidth hheight
  obtain ⟨hunitW, hunitH, hposW, hposH⟩ := afbcUnit_dvd_pixelAlign format hafbc plane
  have hnpln : format.npln ≤ 3 := by
    have := hok.npln
    omega
  have hdvd : bufferAlign t.isTiled ∣ planesBytes (planeBody o format t usage width height) (range plane) :=
    afbc_start_dvd hafbc hnpln hplane
  rw [planeBody_afbc_exact hafbc, hcpu, hdims] at hw hh ⊢
  dsimp only at hw hh ⊢
  have hwUnit : (afbcUnit format t plane).1 ∣ p.allocWidth := by
    rw [hw]
    exact unit_dvd_alignTo _ hunitW hposW htile.1
  have hhUnit : (afbcUnit format t plane).2 ∣ p.allocHeight := by
    rw [hh]
    exact unit_dvd_alignTo _ hunitH hposH htile.2
  have hsub : 0 < plane → 0 < format.hsub := fun h => (hok.sampled (by omega)).1
  have hvsub : 0 < plane → 0 < format.vsub := fun h => (hok.sampled (by omega)).2.2.1
  have hwNonneg : 0 ≤ p.allocWidth := by
    rw [hw]
    exact alignTo_nonneg (onPlane_nonneg hsub (alignTo_nonneg hwidth hok.alignW)) (lastAlign_pos _ _)
  have hhNonneg : 0 ≤ p.allocHeight := by
    rw [hh]
    exact alignTo_nonneg (onPlane_nonneg hvsub (alignTo_nonneg hheight hok.alignH)) (lastAlign_pos _ _)
  rw [← hw, ← hh]
  have hblocks := superblocks (afbcPlaneSbSize_cases hafbc plane)
    ((Dvd.intro_left _ rfl).trans hwUnit) ((Dvd.intro_left _ rfl).trans hhUnit)
  have hcnt : 0 ≤ p.allocWidth * p.allocHeight := mul_nonneg hwNonneg hhNonneg
  refine ⟨hwUnit, hhUnit, ?_, ?_, ?_⟩
  · rw [tdiv_eq_ediv hcnt, hblocks, mul_comm 16]
    refine grallocAlign_exact i32 ?_ (bufferAlign_pos _)
    rw [← hblocks]
    exact mul_nonneg (Int.ediv_nonneg hcnt (by decide)) (by decide)
  · rw [hstart]
    exact hdvd
  · rw [hstart]
    exact dvd_add hdvd (afbcBufferAlign_dvd _ _)

variable {size : Int}

theorem fits_of_placePlanes {body : Nat → Arith PlaneBody} {planes : List Nat}
    {planeInfo : Planes} (h : (placePlanes body planes size planeInfo).Fits) :
    ∀ plane ∈ planes, (body plane).Fits := by
  induction planes generalizing size planeInfo with
  | nil =>
    intro plane hplane
    cases hplane
  | cons first planes ih =>
    simp only [placePlanes, Arith.fits_bind] at h
    obtain ⟨hfst, -, -, -, -, hrest⟩ := h
    intro plane hplane
    rcases List.mem_cons.mp hplane with rfl | hplane
    · exact hfst
    · exact ih hrest plane hplane

theorem dims_nonneg_of_fits (h : (planeBody o format t usage width height plane).Fits) : 0 ≤ width ∧ 0 ≤ height := by
  simp only [planeBody, Arith.fits_bind, op_fits, inRange_u32] at h
  exact ⟨h.1.1, h.2.1.1⟩

theorem Contiguous.congr {planes : Planes} {npln : Nat} {bytes bytes' : Nat → Int}
    (h : Contiguous planes npln size bytes) (hpos : 0 < npln)
    (hbytes : ∀ i < npln, bytes i = bytes' i) : Contiguous planes npln size bytes' where
  first := h.first
  ends := by
    intro i hi
    rw [← hbytes i hi]
    exact h.ends i hi
  next := by
    intro i hi
    rw [← hbytes i (by omega)]
    exact h.next i hi
  last := by
    rw [← hbytes _ (by omega)]
    exact h.last

end

/-- The planes of a buffer lie one behind the other; uncompressed ones have aligned rows, and AFBC
planes that the CPU does not access whole superblocks. -/
theorem calcAllocationSize_planes (o : BuildOptions) (format : FormatInfo) (t : AllocType)
    (usage : U64) (width height : Int) (planeInfo : Planes) (hok : FormatOk o format usage)
    (hwhole : ∀ plane < format.npln, RowsWhole format t usage width height plane)
    (hfits : (calcAllocationSize o format t usage width height planeInfo).Fits) (size : Int)
    (planes : Planes) (hres : (calcAllocationSize o format t usage width height planeInfo).machine
      = (size, planes)) :
    Contiguous planes format.npln size (fun i =>
      (planeBody o format t usage width height i).machine.bodySize +
        (planeBody o format t usage width height i).machine.headerSize) ∧
    ∀ plane < format.npln, (t.isAfbc = false → LinearPlane o format usage width plane (planes.get plane)
        ((planeBody o format t usage width height plane).machine.bodySize +
          (planeBody o format t usage width height plane).machine.headerSize)) ∧
      (t.isAfbc → hasAny usage (usageSwReadMask ||| usageSwWriteMask) = false →
        TileFits format t plane → AfbcPlane format t plane (planes.get plane)
          (planeBody o format t usage width height plane).machine.headerSize) := by
  rw [Arith.machine_eq_exact hfits] at hres
  have hbody : ∀ i < format.npln, (planeBody o format t usage width height i).Fits :=
    fun i hi => fits_of_placePlanes hfits i (List.mem_range.mpr hi)
  have hmachine : ∀ i < format.npln, (planeBody o format t usage width height i).machine =
      (planeBody o format t usage width height i).exact :=
    fun i hi => Arith.machine_eq_exact (hbody i hi)
  have hpos : 0 < format.npln := by
    have := hok.npln
    omega
  obtain ⟨hwidth, hheight⟩ := dims_nonneg_of_fits (hbody 0 hpos)
  have hplanes : (calcAllocationSize o format t usage width height planeInfo).exact.2 = planes := by
    rw [hres]
  constructor
  · have hcontiguous := @calcAllocationSize_contiguous o format t usage width height planeInfo hok.npln
    rw [hres] at hcontiguous
    apply hcontiguous.congr hpos
    intro i hi
    rw [hmachine i hi]
  · intro plane hplane
    have hget := @calcAllocationSize_exact_get o format t usage width height planeInfo hok.npln plane hplane
    rw [hplanes] at hget
    rw [hmachine plane hplane]
    constructor
    · intro hlin
      exact planeBody_linear hok hplane hlin hwidth hheight (hwhole plane hplane) (by rw [hget]) (by rw [hget])
    · intro hafbc hcpu htile
      exact planeBody_afbc hok hplane hafbc hcpu hwidth hheight htile (by rw [hget]) (by rw [hget])
        (by rw [hget])

def yv12 : FormatInfo := ⟨0x32315659#32, 3, ⟨8, 8, 8⟩, ⟨8, 8, 8⟩, 2, 2, 2, 2, 16, 1, false, true, true, true⟩

def rgba8888 : FormatInfo := ⟨0x1#32, 1, ⟨32, 0, 0⟩, ⟨32, 0, 0⟩, 0, 0, 16, 16, 16, 1, true, false, true, true⟩

def uncompressedPlanar : AllocType := ⟨.uncompressed, true, false, false, false⟩
def afbcBasic : AllocType := ⟨.afbc, false, false, false, false⟩

theorem formatOk_sample {format : FormatInfo} (h : format = yv12 ∨ format = rgba8888) :
    FormatOk defaultBuild format usageHwTexture where
  npln := by rcases h with rfl | rfl <;> decide
  bpp plane := by rcases h with rfl | rfl <;> (unfold PerPlane.get; split <;> decide)
  alignWCpu := by rcases h with rfl | rfl <;> decide
  alignW := by rcases h with rfl | rfl <;> decide
  alignH := by rcases h with rfl | rfl <;> decide
  sampled := by rcases h with rfl | rfl <;> decide
  tileSize := by rcases h with rfl | rfl <;> decide
  tile_dvd plane _ := by rcases h with rfl | rfl <;> exact one_dvd _

def sampleLayout (format : FormatInfo) (t : AllocType) : Int × Planes :=
  (calcAllocationSize defaultBuild format t usageHwTexture 642 481 .zero).machine

def sampleBody (format : FormatInfo) (t : AllocType) (plane : Nat) : PlaneBody :=
  (planeBody defaultBuild format t usageHwTexture 642 481 plane).machine

theorem calcAllocationSize_planes_samples :
    (Contiguous (sampleLayout yv12 uncompressedPlanar).2 3 (sampleLayout yv12 uncompressedPlanar).1 (fun i =>
        (sampleBody yv12 uncompressedPlanar i).bodySize + (sampleBody yv12 uncompressedPlanar i).headerSize) ∧
      ∀ plane < 3, LinearPlane defaultBuild yv12 usageHwTexture 642 plane
        ((sampleLayout yv12 uncompressedPlanar).2.get plane)
        ((sampleBody yv12 uncompressedPlanar plane).bodySize + (sampleBody yv12 uncompressedPlanar plane).headerSize)) ∧
    AfbcPlane rgba8888 afbcBasic 0 ((sampleLayout rgba8888 afbcBasic).2.get 0)
      (sampleBody rgba8888 afbcBasic 0).headerSize := by
  obtain ⟨hcontiguous, hlinear⟩ :=
    calcAllocationSize_planes defaultBuild yv12 uncompressedPlanar usageHwTexture 642 481 .zero
    (formatOk_sample (.inl rfl)) (by unfold RowsWhole; decide) (by decide) _ _ rfl
  obtain ⟨-, hafbc⟩ := calcAllocationSize_planes defaultBuild rgba8888 afbcBasic usageHwTexture 642 481 .zero
    (formatOk_sample (.inr rfl)) (by unfold RowsWhole; decide) (by decide) _ _ rfl
  exact ⟨⟨hcontiguous, fun plane hplane => (hlinear plane hplane).1 rfl⟩,
    (hafbc 0 (by decide)).2 rfl (by decide) (by unfold TileFits; decide)⟩

def rgbTiles : FormatInfo := ⟨0x3#32, 1, ⟨24, 0, 0⟩, ⟨24, 0, 0⟩, 1, 1, 16, 16, 16, 24, true, false, true, true⟩

def raw10 : FormatInfo := ⟨formatRaw10, 1, ⟨0, 0, 0⟩, ⟨10, 0, 0⟩, 1, 1, 4, 2, 4, 1, false, false, false, true⟩

def uncompressed : AllocType := ⟨.uncompressed, false, false, false, false⟩

/-- Tiles of 24 pixels leave a plane of one and a half superblocks; the stride of `RAW10` is 16
where the build asks for it, and the CPU alignment of the format is 5. -/
theorem calcAllocationSize_exceptions : (rgbTiles.tileSize ∣ strideAlignment defaultBuild rgbTiles 0 0 ∧
      (calcAllocationSize defaultBuild rgbTiles afbcBasic 0 16 16 .zero).Fits ∧
      ¬(afbcUnit rgbTiles afbcBasic 0).1 ∣
        ((calcAllocationSize defaultBuild rgbTiles afbcBasic 0 16 16 .zero).machine.2.get 0).allocWidth) ∧
    ((calcAllocationSize { defaultBuild with supportRaw10Raw12 := true } raw10 uncompressed 0 4 2 .zero).Fits ∧
      activeAlign (hwAlign { defaultBuild with supportRaw10Raw12 := true } raw10 0)
        (raw10.bpp.get 0 * raw10.alignWCpu / 8) = 5 ∧
      ((calcAllocationSize { defaultBuild with supportRaw10Raw12 := true } raw10 uncompressed 0 4 2
        .zero).machine.2.get 0).byteStride = 16) := by
  decide

end ExynosHal.Gralloc
