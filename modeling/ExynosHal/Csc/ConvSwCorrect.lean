import ExynosHal.Csc.ConvSw
import ExynosHal.SwConverter.Tiled16Correct

/-! # Software conversion keeps the samples

A format of 8-bit 4:2:0 pictures is a way to find the Y, Cb and Cr sample of a pixel in the planes.
-/

namespace ExynosHal.Csc
open Library SwConverter

inductive Layout where
  | planar
  | planarCrCb
  | semiPlanar
  | semiPlanarCrCb
  | tiled

def PixelFormat.layout : PixelFormat → Option Layout
  | .ycbcr420P | .ycbcr420PM | .ycbcr420Pn => some .planar
  | .yv12 | .yv12M => some .planarCrCb
  | .ycbcr420Sp | .ycbcr420SpM | .ycbcr420SpMPriv | .ycbcr420Spn => some .semiPlanar
  | .ycrcb420Sp | .ycrcb420SpM => some .semiPlanarCrCb
  | .ycbcr420SpMTiled | .ycbcr420SpnTiled => some .tiled
  | _ => none

def lumaAt (planes : PlaneBuffers) (width height x y : Nat) : Layout → Byte
  | .tiled => planes.y (tile2DToLinear width height x y false)
  | _ => planes.y (y * width + x)

def chromaAt (planes : PlaneBuffers) (width height x y : Nat) : Layout → Byte × Byte
  | .planar => (planes.u (y * (width / 2) + x), planes.v (y * (width / 2) + x))
  | .planarCrCb => (planes.v (y * (width / 2) + x), planes.u (y * (width / 2) + x))
  | .semiPlanar => (planes.uv (y * width + x * 2), planes.uv (y * width + (x * 2 + 1)))
  | .semiPlanarCrCb => (planes.uv (y * width + (x * 2 + 1)), planes.uv (y * width + x * 2))
  | .tiled =>
    (planes.uv (tile2DToLinear width (height / 2) (x * 2) y true),
      planes.uv (tile2DToLinear width (height / 2) (x * 2 + 1) y true))

def SameSamples (width height : Nat) (src : Layout) (srcPlanes : PlaneBuffers) (dst : Layout)
    (dstPlanes : PlaneBuffers) : Prop :=
  ∀ x < width, ∀ y < height, lumaAt dstPlanes width height x y dst = lumaAt srcPlanes width height x y src ∧
      chromaAt dstPlanes width height (x / 2) (y / 2) dst = chromaAt srcPlanes width height (x / 2) (y / 2) src

structure PlanesMatch (width height : Nat) (src : Layout) (srcPlanes : PlaneBuffers) (dst : Layout)
    (dstPlanes : PlaneBuffers) : Prop where
  luma : ∀ x < width, ∀ y < height, lumaAt dstPlanes width height x y dst = lumaAt srcPlanes width height x y src
  chroma : ∀ x < width / 2, ∀ y < height / 2,
    chromaAt dstPlanes width height x y dst = chromaAt srcPlanes width height x y src

variable {width height : Nat} {src dst : Layout}

theorem PlanesMatch.sameSamples {srcPlanes dstPlanes : PlaneBuffers}
    (hwidth : 2 ∣ width) (hheight : 2 ∣ height) (h : PlanesMatch width height src srcPlanes dst dstPlanes) :
    SameSamples width height src srcPlanes dst dstPlanes := by
  intro x hx y hy
  exact ⟨h.luma x hx y hy, h.chroma (x / 2) (by omega) (y / 2) (by omega)⟩

theorem memcpy_apply (dst src : Buffer) {size n : Nat} (hn : n < size) : memcpy dst 0 src 0 size n = src n := by
  rw [memcpy, copy, if_pos ⟨Nat.zero_le n, by omega⟩, Nat.sub_zero, Nat.zero_add]

theorem mul_div_four (hwidth : 2 ∣ width) (hheight : 2 ∣ height) :
    (width * height) >>> 2 = width / 2 * (height / 2) := by
  obtain ⟨a, rfl⟩ := hwidth
  obtain ⟨b, rfl⟩ := hheight
  rw [Nat.shiftRight_eq_div_pow, Nat.mul_div_cancel_left a two_pos, Nat.mul_div_cancel_left b two_pos,
    show 2 * a * (2 * b) = 2 ^ 2 * (a * b) by ring, Nat.mul_div_cancel_left _ (by decide)]

theorem mul_div_two (hheight : 2 ∣ height) : (width * height) >>> 1 = width * (height / 2) := by
  rw [Nat.shiftRight_eq_div_pow, pow_one, Nat.mul_div_assoc _ hheight]

theorem copyRows_isPlane (dst src : Buffer) {width srcPitch rows : Nat} (hpitch : width ≤ srcPitch)
    (hrows : rows < 2 ^ 31) (hwidth : width < 2 ^ 32) (hsize : srcPitch * rows < 2 ^ 32) :
    IsPlane width rows (fun x y => src (srcPitch * y + x)) dst (copyRows dst width src srcPitch width rows) := by
  have hdst : width * rows < 2 ^ 32 := Nat.lt_of_le_of_lt (Nat.mul_le_mul_right rows hpitch) hsize
  have hplane := forLoop_rows_isPlane dst width rows hdst (fun i t => src (uint (srcPitch * i) + t))
  refine ⟨fun x hx y hy => ?_, fun n hn => ?_⟩
  · have hsample := hplane.sample_eq x hx y hy
    rw [uint_row hsize hy] at hsample
    simpa only [copyRows, if_pos hrows, uint_eq hwidth, memcpy] using hsample
  · simpa only [copyRows, if_pos hrows, uint_eq hwidth, memcpy] using hplane.outside n hn

/-- The pixels of the source as far as its planes reach, so in whole tiles. -/
def pictureSize (f : Format) : Nat :=
  match f.colorFormat with
  | .ycbcr420SpMTiled | .ycbcr420SpnTiled => alignMfc f.width * alignMfc f.height
  | _ => f.width * f.height

structure WholeEven (h : Handle) : Prop where
  memType : h.srcMemType ≠ .mfc
  cropWidth : h.srcFormat.cropWidth = h.srcFormat.width
  cropHeight : h.srcFormat.cropHeight = h.srcFormat.height
  width : 2 ∣ h.srcFormat.width
  height : 2 ∣ h.srcFormat.height
  size : pictureSize h.srcFormat < 2 ^ 32

section
variable {h : Handle}

theorem WholeEven.uint_size (he : WholeEven h) :
    uint (h.srcFormat.width * h.srcFormat.height) = h.srcFormat.width * h.srcFormat.height := by
  have hround : ∀ n, n ≤ alignMfc n := fun n => by rw [alignMfc]; omega
  have hsize := he.size
  rw [pictureSize] at hsize
  split at hsize
  iterate 2 exact uint_eq (Nat.lt_of_le_of_lt (Nat.mul_le_mul (hround _) (hround _)) hsize)
  · exact uint_eq hsize

theorem bypassPlanar_planes (he : WholeEven h) :
    (∀ n < h.srcFormat.width * h.srcFormat.height, (bypassPlanar h).2.y n = h.srcPlanes.y n) ∧
    ∀ n < h.srcFormat.width / 2 * (h.srcFormat.height / 2),
      (bypassPlanar h).2.u n = h.srcPlanes.u n ∧ (bypassPlanar h).2.v n = h.srcPlanes.v n := by
  rw [bypassPlanar, if_neg he.memType]
  dsimp only
  rw [he.uint_size, mul_div_four he.width he.height]
  exact ⟨fun n hn => memcpy_apply _ _ hn, fun n hn => ⟨memcpy_apply _ _ hn, memcpy_apply _ _ hn⟩⟩

theorem bypassSemiPlanar_planes (he : WholeEven h) :
    (∀ n < h.srcFormat.width * h.srcFormat.height, (bypassSemiPlanar h).2.y n = h.srcPlanes.y n) ∧
    ∀ n < h.srcFormat.width * (h.srcFormat.height / 2), (bypassSemiPlanar h).2.uv n = h.srcPlanes.uv n := by
  rw [bypassSemiPlanar, if_neg he.memType]
  dsimp only [PlaneBuffers.uv]
  rw [he.uint_size, mul_div_two he.height]
  exact ⟨fun n hn => memcpy_apply _ _ hn, fun n hn => memcpy_apply _ _ hn⟩

theorem interleavePlanes_planes (he : WholeEven h) (first second : Buffer) :
    (∀ n < h.srcFormat.width * h.srcFormat.height, (interleavePlanes h first second).2.y n = h.srcPlanes.y n) ∧
    ∀ x < h.srcFormat.width / 2, ∀ y < h.srcFormat.height / 2,
      (interleavePlanes h first second).2.uv (y * h.srcFormat.width + x * 2) = first (y * (h.srcFormat.width / 2) + x) ∧
        (interleavePlanes h first second).2.uv (y * h.srcFormat.width + (x * 2 + 1)) =
          second (y * (h.srcFormat.width / 2) + x) := by
  simp only [interleavePlanes, he.uint_size]
  refine ⟨fun n hn => memcpy_apply _ _ hn, ?_⟩
  intro x hx y hy
  have hlt := rowMajor_lt hx hy
  have hpair : y * h.srcFormat.width + x * 2 = (y * (h.srcFormat.width / 2) + x) * 2 := by
    rw [Nat.add_mul, Nat.mul_assoc, Nat.div_mul_cancel he.width]
  have hodd : (y * (h.srcFormat.width / 2) + x) * 2 + 1 < h.srcFormat.width / 2 * (h.srcFormat.height / 2) * 2 := by
    omega
  simp only [PlaneBuffers.uv, mul_div_four he.width he.height, cscInterleaveMemcpy_eq,
    ← Nat.add_assoc, hpair, copy]
  generalize y * (h.srcFormat.width / 2) + x = n at *
  constructor
  · rw [if_pos ⟨Nat.zero_le _, by omega⟩, if_pos (by omega)]
    simp
  · rw [if_pos ⟨Nat.zero_le _, by omega⟩, if_neg (by omega)]
    congr 1
    omega

theorem splitPlanes_planes (he : WholeEven h) (u v : Nat) : (∀ x < h.srcFormat.width, ∀ y < h.srcFormat.height,
      (splitPlanes h u v).2.y (y * h.srcFormat.width + x) = h.srcPlanes.y (y * h.srcFormat.width + x)) ∧
    ∀ x < h.srcFormat.width / 2, ∀ y < h.srcFormat.height / 2,
      (splitPlanes h u v).2.u (y * (h.srcFormat.width / 2) + x) = h.srcPlanes.uv (y * h.srcFormat.width + x * 2 + u) ∧
        (splitPlanes h u v).2.v (y * (h.srcFormat.width / 2) + x) =
          h.srcPlanes.uv (y * h.srcFormat.width + x * 2 + v) := by
  have hhalf : ∀ n : Nat, n >>> 1 = n / 2 := fun n => by rw [Nat.shiftRight_eq_div_pow, pow_one]
  have hsize : h.srcFormat.width * h.srcFormat.height < 2 ^ 32 := by
    rw [← he.uint_size]
    exact Nat.mod_lt _ (by decide)
  have hsides : ∀ x < h.srcFormat.width, ∀ y < h.srcFormat.height,
      h.srcFormat.width < 2 ^ 32 ∧ h.srcFormat.height < 2 ^ 31 := by
    intro x hx y hy
    have hcols := Nat.mul_le_mul_left h.srcFormat.width (show 1 ≤ h.srcFormat.height by omega)
    have hrows := Nat.mul_le_mul_right h.srcFormat.height (show 2 ≤ h.srcFormat.width by have := he.width; omega)
    omega
  constructor
  · intro x hx y hy
    obtain ⟨hwidth, hheight⟩ := hsides x hx y hy
    have hplane := copyRows_isPlane h.dstPlanes.y h.srcPlanes.y le_rfl hheight hwidth hsize
    simpa only [splitPlanes, he.cropWidth, he.cropHeight, Nat.mul_comm y] using hplane.sample_eq x hx y hy
  · intro x hx y hy
    have hpixel := rowMajor_lt (show x * 2 < h.srcFormat.width by omega) (show y < h.srcFormat.height by omega)
    have hchroma : h.srcFormat.width / 2 * (h.srcFormat.height / 2) < 2 ^ 32 :=
      Nat.lt_of_le_of_lt (Nat.mul_le_mul (Nat.div_le_self _ _) (Nat.div_le_self _ _)) hsize
    have hplane := fun (dst : Buffer) (k : Nat) => forLoop_rows_isPlane dst (h.srcFormat.width / 2)
      (h.srcFormat.height / 2) hchroma (fun i t => h.srcPlanes.uv (uint (i * h.srcFormat.width + t * 2) + k))
    simp only [splitPlanes, he.cropWidth, he.cropHeight, hhalf, forLoop_update_pair,
      Nat.mul_comm _ (h.srcFormat.width / 2)]
    rw [forLoop_prod (fun i (dst : Buffer) => copy dst (uint (h.srcFormat.width / 2 * i))
        (fun t => h.srcPlanes.uv (uint (i * h.srcFormat.width + t * 2) + u)) (h.srcFormat.width / 2))
      (fun i (dst : Buffer) => copy dst (uint (h.srcFormat.width / 2 * i))
        (fun t => h.srcPlanes.uv (uint (i * h.srcFormat.width + t * 2) + v)) (h.srcFormat.width / 2))]
    have hu := (hplane h.dstPlanes.u u).sample_eq x hx y hy
    have hv := (hplane h.dstPlanes.v v).sample_eq x hx y hy
    rw [uint_eq (show y * h.srcFormat.width + x * 2 < 2 ^ 32 by omega), Nat.mul_comm y (_ / 2)] at hu hv
    exact ⟨hu, hv⟩

variable {l : Layout}

theorem bypassPlanar_match (he : WholeEven h) (hl : l = .planar ∨ l = .planarCrCb) :
    PlanesMatch h.srcFormat.width h.srcFormat.height l h.srcPlanes l (bypassPlanar h).2 := by
  obtain ⟨hy, huv⟩ := bypassPlanar_planes he
  constructor
  · intro x hx y hy'
    have hluma := hy _ (rowMajor_lt hx hy')
    obtain rfl | rfl := hl <;> exact hluma
  · intro x hx y hy'
    obtain ⟨hu, hv⟩ := huv _ (rowMajor_lt hx hy')
    obtain rfl | rfl := hl
    · exact Prod.ext hu hv
    · exact Prod.ext hv hu

theorem bypassSemiPlanar_match (he : WholeEven h) (hl : l = .semiPlanar ∨ l = .semiPlanarCrCb) :
    PlanesMatch h.srcFormat.width h.srcFormat.height l h.srcPlanes l (bypassSemiPlanar h).2 := by
  obtain ⟨hy, huv⟩ := bypassSemiPlanar_planes he
  have hwidth := he.width
  constructor
  · intro x hx y hy'
    have hluma := hy _ (rowMajor_lt hx hy')
    obtain rfl | rfl := hl <;> exact hluma
  · intro x hx y hy'
    have hfst := huv _ (rowMajor_lt (show x * 2 < h.srcFormat.width by omega) hy')
    have hsnd := huv _ (rowMajor_lt (show x * 2 + 1 < h.srcFormat.width by omega) hy')
    obtain rfl | rfl := hl
    · exact Prod.ext hfst hsnd
    · exact Prod.ext hsnd hfst

theorem interleavePlanes_match (he : WholeEven h) {first second : Buffer}
    (hl : (l = .planar ∧ first = h.srcPlanes.u ∧ second = h.srcPlanes.v) ∨
      (l = .planarCrCb ∧ first = h.srcPlanes.v ∧ second = h.srcPlanes.u)) :
    PlanesMatch h.srcFormat.width h.srcFormat.height l h.srcPlanes .semiPlanar (interleavePlanes h first second).2 := by
  obtain ⟨hy, huv⟩ := interleavePlanes_planes he first second
  constructor
  · intro x hx y hy'
    have hluma := hy _ (rowMajor_lt hx hy')
    obtain ⟨rfl, -⟩ | ⟨rfl, -⟩ := hl <;> exact hluma
  · intro x hx y hy'
    obtain ⟨hfst, hsnd⟩ := huv x hx y hy'
    obtain ⟨rfl, rfl, rfl⟩ | ⟨rfl, rfl, rfl⟩ := hl <;> exact Prod.ext hfst hsnd

theorem splitPlanes_match (he : WholeEven h) {u v : Nat}
    (hl : (src = .semiPlanar ∧ (dst = .planar ∧ u = 0 ∧ v = 1 ∨ dst = .planarCrCb ∧ u = 1 ∧ v = 0)) ∨
      (src = .semiPlanarCrCb ∧ (dst = .planar ∧ u = 1 ∧ v = 0 ∨ dst = .planarCrCb ∧ u = 0 ∧ v = 1))) :
    PlanesMatch h.srcFormat.width h.srcFormat.height src h.srcPlanes dst (splitPlanes h u v).2 := by
  obtain ⟨hy, huv⟩ := splitPlanes_planes he u v
  constructor
  · intro x hx y hy'
    have hluma := hy x hx y hy'
    obtain ⟨rfl, ⟨rfl, -⟩ | ⟨rfl, -⟩⟩ | ⟨rfl, ⟨rfl, -⟩ | ⟨rfl, -⟩⟩ := hl
    all_goals exact hluma
  · intro x hx y hy'
    obtain ⟨hu, hv⟩ := huv x hx y hy'
    obtain ⟨rfl, ⟨rfl, rfl, rfl⟩ | ⟨rfl, rfl, rfl⟩⟩ | ⟨rfl, ⟨rfl, rfl, rfl⟩ | ⟨rfl, rfl, rfl⟩⟩ := hl
    · exact Prod.ext hu hv
    · exact Prod.ext hv hu
    · exact Prod.ext hu hv
    · exact Prod.ext hv hu

end

section
variable {h : Handle} {dst : Layout}

variable (he : WholeEven h)
include he

section
variable (hdst : h.dstFormat.colorFormat.layout = some dst)
include hdst

theorem convSwSrcNv12t_match (hret : (convSwSrcNv12t h).1 = .none) :
    PlanesMatch h.srcFormat.width h.srcFormat.height .tiled h.srcPlanes dst (convSwSrcNv12t h).2 := by
  have hwidth := he.width
  have hy := cscTiledToLinearY_isPlane h.dstPlanes.y h.srcPlanes.y he.width he.height
  obtain ⟨hu, hv⟩ := cscTiledToLinearUvDeinterleave_isPlane h.dstPlanes.u h.dstPlanes.v h.srcPlanes.uv
    (h.srcFormat.height / 2) he.width
  have huv := cscTiledToLinearUv_isPlane h.dstPlanes.uv h.srcPlanes.uv (h.srcFormat.height / 2) he.width
  cases hfmt : h.dstFormat.colorFormat with
  | ycbcr420P | ycbcr420PM | ycbcr420Pn =>
    rw [hfmt] at hdst
    cases hdst
    simp only [convSwSrcNv12t, hfmt, he.cropWidth, he.cropHeight]
    exact ⟨hy.sample_eq, fun x hx y hy' => Prod.ext (hu.sample_eq x hx y hy') (hv.sample_eq x hx y hy')⟩
  | ycbcr420Sp | ycbcr420SpM | ycbcr420SpMPriv | ycbcr420Spn =>
    rw [hfmt] at hdst
    cases hdst
    simp only [convSwSrcNv12t, hfmt, he.cropWidth, he.cropHeight]
    refine ⟨hy.sample_eq, fun x hx y hy' => Prod.ext ?_ ?_⟩
    · exact huv.sample_eq (x * 2) (by omega) y hy'
    · exact huv.sample_eq (x * 2 + 1) (by omega) y hy'
  | _ =>
    simp only [convSwSrcNv12t, hfmt, Handle.unsupported] at hret
    cases hret

theorem convSwSrcYuv420p_match (hret : (convSwSrcYuv420p h).1 = .none) :
    PlanesMatch h.srcFormat.width h.srcFormat.height .planar h.srcPlanes dst (convSwSrcYuv420p h).2 := by
  cases hfmt : h.dstFormat.colorFormat with
  | ycbcr420P | ycbcr420PM | ycbcr420Pn =>
    rw [hfmt] at hdst
    cases hdst
    simp only [convSwSrcYuv420p, hfmt]
    exact bypassPlanar_match he (.inl rfl)
  | ycbcr420Sp | ycbcr420SpM | ycbcr420SpMPriv | ycbcr420Spn =>
    rw [hfmt] at hdst
    cases hdst
    simp only [convSwSrcYuv420p, hfmt]
    exact interleavePlanes_match he (.inl ⟨rfl, rfl, rfl⟩)
  | _ =>
    simp only [convSwSrcYuv420p, hfmt, Handle.unsupported] at hret
    cases hret

theorem convSwSrcYvu420p_match (hret : (convSwSrcYvu420p h).1 = .none) :
    PlanesMatch h.srcFormat.width h.srcFormat.height .planarCrCb h.srcPlanes dst (convSwSrcYvu420p h).2 := by
  cases hfmt : h.dstFormat.colorFormat with
  | yv12 | yv12M =>
    rw [hfmt] at hdst
    cases hdst
    simp only [convSwSrcYvu420p, hfmt]
    exact bypassPlanar_match he (.inr rfl)
  | ycbcr420Sp | ycbcr420SpM | ycbcr420SpMPriv | ycbcr420Spn =>
    rw [hfmt] at hdst
    cases hdst
    simp only [convSwSrcYvu420p, hfmt]
    exact interleavePlanes_match he (.inr ⟨rfl, rfl, rfl⟩)
  | _ =>
    simp only [convSwSrcYvu420p, hfmt, Handle.unsupported] at hret
    cases hret

theorem convSwSrcYuv420sp_match (hret : (convSwSrcYuv420sp h).1 = .none) :
    PlanesMatch h.srcFormat.width h.srcFormat.height .semiPlanar h.srcPlanes dst (convSwSrcYuv420sp h).2 := by
  cases hfmt : h.dstFormat.colorFormat with
  | ycbcr420Sp | ycbcr420SpM | ycbcr420SpMPriv | ycbcr420Spn =>
    rw [hfmt] at hdst
    cases hdst
    simp only [convSwSrcYuv420sp, hfmt]
    exact bypassSemiPlanar_match he (.inl rfl)
  | ycbcr420P | ycbcr420PM | ycbcr420Pn =>
    rw [hfmt] at hdst
    cases hdst
    simp only [convSwSrcYuv420sp, hfmt]
    exact splitPlanes_match he (.inl ⟨rfl, .inl ⟨rfl, rfl, rfl⟩⟩)
  | yv12 | yv12M =>
    rw [hfmt] at hdst
    cases hdst
    simp only [convSwSrcYuv420sp, hfmt]
    exact splitPlanes_match he (.inl ⟨rfl, .inr ⟨rfl, rfl, rfl⟩⟩)
  | _ =>
    simp only [convSwSrcYuv420sp, hfmt, Handle.unsupported] at hret
    cases hret

theorem convSwSrcYvu420sp_match (hret : (convSwSrcYvu420sp h).1 = .none)
    (hpriv : h.dstFormat.colorFormat ≠ .ycbcr420SpMPriv) :
    PlanesMatch h.srcFormat.width h.srcFormat.height .semiPlanarCrCb h.srcPlanes dst (convSwSrcYvu420sp h).2 := by
  cases hfmt : h.dstFormat.colorFormat with
  | ycrcb420Sp | ycrcb420SpM =>
    rw [hfmt] at hdst
    cases hdst
    simp only [convSwSrcYvu420sp, hfmt]
    exact bypassSemiPlanar_match he (.inr rfl)
  | ycbcr420SpMPriv => exact absurd hfmt hpriv
  | ycbcr420P | ycbcr420PM | ycbcr420Pn =>
    rw [hfmt] at hdst
    cases hdst
    simp only [convSwSrcYvu420sp, hfmt]
    exact splitPlanes_match he (.inr ⟨rfl, .inl ⟨rfl, rfl, rfl⟩⟩)
  | yv12 | yv12M =>
    rw [hfmt] at hdst
    cases hdst
    simp only [convSwSrcYvu420sp, hfmt]
    exact splitPlanes_match he (.inr ⟨rfl, .inr ⟨rfl, rfl, rfl⟩⟩)
  | _ =>
    simp only [convSwSrcYvu420sp, hfmt, Handle.unsupported] at hret
    cases hret

end

theorem convSwSrcYvu420sp_priv (hpriv : h.dstFormat.colorFormat = .ycbcr420SpMPriv) :
    (∀ x < h.srcFormat.width, ∀ y < h.srcFormat.height,
      lumaAt (convSwSrcYvu420sp h).2 h.srcFormat.width h.srcFormat.height x y .semiPlanar =
        lumaAt h.srcPlanes h.srcFormat.width h.srcFormat.height x y .semiPlanarCrCb) ∧
    ∀ x < h.srcFormat.width / 2, ∀ y < h.srcFormat.height / 2,
      chromaAt (convSwSrcYvu420sp h).2 h.srcFormat.width h.srcFormat.height x y .semiPlanar =
        (chromaAt h.srcPlanes h.srcFormat.width h.srcFormat.height x y .semiPlanarCrCb).swap := by
  have hmatch := bypassSemiPlanar_match he (.inl rfl)
  simp only [convSwSrcYvu420sp, hpriv]
  exact ⟨hmatch.luma, hmatch.chroma⟩

end

def SwapsChroma (h : Handle) : Prop :=
  h.srcFormat.colorFormat.layout = some .semiPlanarCrCb ∧ h.dstFormat.colorFormat = .ycbcr420SpMPriv

def GreyChroma (h : Handle) (src : Layout) : Prop := ∀ x < h.srcFormat.width, ∀ y < h.srcFormat.height,
    (chromaAt h.srcPlanes h.srcFormat.width h.srcFormat.height (x / 2) (y / 2) src).1 =
      (chromaAt h.srcPlanes h.srcFormat.width h.srcFormat.height (x / 2) (y / 2) src).2

section
variable (convSwSrcArgb888 convSwSrcRgba888 : Handle → Conversion) {h : Handle} {src dst : Layout}

theorem convSw_match (he : WholeEven h) (hsrc : h.srcFormat.colorFormat.layout = some src)
    (hdst : h.dstFormat.colorFormat.layout = some dst)
    (hret : (convSw convSwSrcArgb888 convSwSrcRgba888 h).1 = .none) (hswap : ¬ SwapsChroma h) :
    PlanesMatch h.srcFormat.width h.srcFormat.height src h.srcPlanes dst
      (convSw convSwSrcArgb888 convSwSrcRgba888 h).2 := by
  cases hfmt : h.srcFormat.colorFormat with
  | ycbcr420SpMTiled | ycbcr420SpnTiled =>
    simp only [convSw, hfmt] at hret ⊢
    rw [hfmt] at hsrc
    cases hsrc
    exact convSwSrcNv12t_match he hdst hret
  | ycbcr420P | ycbcr420PM | ycbcr420Pn =>
    simp only [convSw, hfmt] at hret ⊢
    rw [hfmt] at hsrc
    cases hsrc
    exact convSwSrcYuv420p_match he hdst hret
  | yv12 | yv12M =>
    simp only [convSw, hfmt] at hret ⊢
    rw [hfmt] at hsrc
    cases hsrc
    exact convSwSrcYvu420p_match he hdst hret
  | ycbcr420Sp | ycbcr420SpM | ycbcr420SpMPriv | ycbcr420Spn =>
    simp only [convSw, hfmt] at hret ⊢
    rw [hfmt] at hsrc
    cases hsrc
    exact convSwSrcYuv420sp_match he hdst hret
  | ycrcb420Sp | ycrcb420SpM =>
    simp only [convSw, hfmt] at hret ⊢
    have hpriv : h.dstFormat.colorFormat ≠ .ycbcr420SpMPriv := fun heq => hswap ⟨by rw [hfmt]; rfl, heq⟩
    rw [hfmt] at hsrc
    cases hsrc
    exact convSwSrcYvu420sp_match he hdst hret hpriv
  | _ =>
    rw [hfmt] at hsrc
    cases hsrc

theorem convSw_of_swapsChroma (hswap : SwapsChroma h) :
    convSw convSwSrcArgb888 convSwSrcRgba888 h = convSwSrcYvu420sp h := by
  have hsrc := hswap.1
  cases hfmt : h.srcFormat.colorFormat with
  | ycrcb420Sp | ycrcb420SpM => simp only [convSw, hfmt]
  | _ =>
    rw [hfmt] at hsrc
    cases hsrc

/-- A picture of fewer than 2^32 pixels keeps its samples, unless Cr,Cb pairs are taken for Cb,Cr pairs. -/
theorem convSw_sameSamples_iff (he : WholeEven h) (hsrc : h.srcFormat.colorFormat.layout = some src)
    (hdst : h.dstFormat.colorFormat.layout = some dst)
    (hret : (convSw convSwSrcArgb888 convSwSrcRgba888 h).1 = .none) :
    SameSamples h.srcFormat.width h.srcFormat.height src h.srcPlanes dst
        (convSw convSwSrcArgb888 convSwSrcRgba888 h).2 ↔
      ¬ SwapsChroma h ∨ GreyChroma h src := by
  by_cases hswap : SwapsChroma h
  · have hwidth := he.width
    have hheight := he.height
    obtain ⟨hluma, hchroma⟩ := convSwSrcYvu420sp_priv he hswap.2
    have hsrc' : src = .semiPlanarCrCb := Option.some.inj (hsrc.symm.trans hswap.1)
    have hdst' : dst = .semiPlanar := by
      rw [hswap.2] at hdst
      exact (Option.some.inj hdst).symm
    subst hsrc' hdst'
    rw [convSw_of_swapsChroma _ _ hswap]
    constructor
    · intro hsame
      right
      intro x hx y hy
      have hpixel := (hsame x hx y hy).2
      rw [hchroma (x / 2) (by omega) (y / 2) (by omega)] at hpixel
      exact (congrArg Prod.snd hpixel)
    · rintro (hno | hgrey)
      · exact absurd hswap hno
      · intro x hx y hy
        refine ⟨hluma x hx y hy, ?_⟩
        rw [hchroma (x / 2) (by omega) (y / 2) (by omega)]
        exact Prod.ext (hgrey x hx y hy).symm (hgrey x hx y hy)
  · refine ⟨fun _ => .inl hswap, fun _ => ?_⟩
    exact (convSw_match _ _ he hsrc hdst hret hswap).sameSamples he.width he.height

end

def smallHandle (srcFormat dstFormat : PixelFormat) : Handle where
  dstFormat := ⟨2, 2, 2, 2, dstFormat⟩
  srcFormat := ⟨2, 2, 2, 2, srcFormat⟩
  dstPlanes := ⟨fun _ => 0, fun _ => 0, fun _ => 0⟩
  srcPlanes := ⟨BitVec.ofNat 8, BitVec.ofNat 8, BitVec.ofNat 8⟩
  srcMemType := .userptr

theorem wholeEven_smallHandle (srcFormat dstFormat : PixelFormat) : WholeEven (smallHandle srcFormat dstFormat) :=
  ⟨fun h => MemoryType.noConfusion h, rfl, rfl, dvd_refl 2, dvd_refl 2, by
    dsimp only [pictureSize, smallHandle]
    split <;> decide⟩

theorem convSw_sameSamples_iff_nv21_yuv420p :
    SameSamples 2 2 .semiPlanarCrCb (smallHandle .ycrcb420Sp .ycbcr420P).srcPlanes .planar
      (convSw Handle.unsupported Handle.unsupported (smallHandle .ycrcb420Sp .ycbcr420P)).2 :=
  (convSw_sameSamples_iff Handle.unsupported Handle.unsupported (wholeEven_smallHandle .ycrcb420Sp .ycbcr420P)
    rfl rfl rfl).mpr (.inl fun hswap => PixelFormat.noConfusion hswap.2)

theorem convSw_nv21_priv_not_sameSamples : WholeEven (smallHandle .ycrcb420Sp .ycbcr420SpMPriv) ∧
    (convSw Handle.unsupported Handle.unsupported (smallHandle .ycrcb420Sp .ycbcr420SpMPriv)).1 = .none ∧
    ¬ SameSamples 2 2 .semiPlanarCrCb (smallHandle .ycrcb420Sp .ycbcr420SpMPriv).srcPlanes .semiPlanar
      (convSw Handle.unsupported Handle.unsupported (smallHandle .ycrcb420Sp .ycbcr420SpMPriv)).2 := by
  refine ⟨wholeEven_smallHandle _ _, rfl, ?_⟩
  intro hsame
  have hchroma := (hsame 0 (by decide) 0 (by decide)).2
  exact absurd hchroma (by decide)

end ExynosHal.Csc
