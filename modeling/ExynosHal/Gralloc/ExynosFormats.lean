import ExynosHal.Library.Arith

/-! # Plane layouts of the Exynos formats

The `setup_*` functions of `exynos_format_allocation.h` and `prepare_descriptor_exynos_formats`, which picks
one of them from the format.
-/

namespace ExynosHal.Gralloc

open Library Library.IntType

structure PlaneInfo where
  offset : Int
  fdIdx : Int
  size : Int
  byteStride : Int
  allocWidth : Int
  allocHeight : Int
  deriving DecidableEq

def PlaneInfo.zero : PlaneInfo := ⟨0, 0, 0, 0, 0, 0⟩

structure Planes where
  p0 : PlaneInfo
  p1 : PlaneInfo
  p2 : PlaneInfo
  deriving DecidableEq

def Planes.zero : Planes := ⟨.zero, .zero, .zero⟩

def Planes.toList (plane : Planes) : List PlaneInfo := [plane.p0, plane.p1, plane.p2]

/-- The switches of `core/Android.bp` that change a layout. -/
structure BuildOptions where
  exynosChromaVstrideAlign : Bool
  productVendorT : Bool
  supportYcrcb420SpAlign16 : Bool
  supportRaw10Raw12 : Bool
  jpegWaEnabled : Bool
  deriving DecidableEq

def chromaValign : Int := 32
def extSize : Int := 256
def sz4K : Int := 0x1000
def boardExynosS10bFormatAlign : Int := 64

inductive ExynosFormat where
  | ycrcb420Sp | yv12M | ycbcr420P | ycbcr420PM | ycbcr420SpMTiled
  | ycrcb420SpM | ycrcb420SpMFull | ycbcr420SpM | ycbcr420Spn
  | ycbcr420SpMS10b | ycbcr420SpnS10b | ycbcrP010M
  | ycbcr420SpnSbwc | ycbcr420Spn10bSbwc
  | ycbcr420SpMSbwc | ycrcb420SpMSbwc | ycbcr420SpM10bSbwc | ycrcb420SpM10bSbwc
  | ycbcr420SpMSbwcL50 | ycbcr420SpMSbwcL75 | ycbcr420SpnSbwcL50 | ycbcr420SpnSbwcL75
  | ycbcr420SpM10bSbwcL40 | ycbcr420SpM10bSbwcL60 | ycbcr420SpM10bSbwcL80
  | ycbcr420Spn10bSbwcL40 | ycbcr420Spn10bSbwcL60 | ycbcr420Spn10bSbwcL80
  deriving DecidableEq

/-- `GRALLOC_ALIGN` at a C type. -/
def grallocAlign (ty : IntType) (value base : Int) : Arith Int := do
  let s ← ty.op (value + base)
  let t ← ty.op (s - 1)
  ty.op (t.tdiv base * base)

/-- `__ALIGN_UP` on `int`; `a` is a power of two, so clearing the low bits takes the
remainder away. -/
def alignUp (x a : Int) : Arith Int := do
  let y ← i32.op (x + (a - 1))
  return y - y % a

def planeSize (w h : Int) : Arith Int := i32.op (w * h)

def s2bPlaneSize (w h : Int) : Arith Int := do
  let aw ← grallocAlign i32 (w.tdiv 4) 16
  let ah ← grallocAlign i32 h 16
  i32.op (aw * ah)

/-- `SBWC_8B_STRIDE`, `SBWC_10B_STRIDE` and their lossy variants, which differ in the bytes of
one block of 32 pixels. -/
def sbwcBlockStride (blockBytes w : Int) : Arith Int := do
  let s ← i32.op (w + 31)
  i32.op (blockBytes * s.tdiv 32)

def sbwc8bStride (w : Int) : Arith Int := sbwcBlockStride 128 w
def sbwc10bStride (w : Int) : Arith Int := sbwcBlockStride 160 w
def sbwcl8bStride (w r : Int) : Arith Int := sbwcBlockStride ((128 * r).tdiv 100) w
def sbwcl10bStride (w r : Int) : Arith Int := sbwcBlockStride ((160 * r).tdiv 100) w

def sbwcHeaderStride (w : Int) : Arith Int := do
  let s ← i32.op (w + 63)
  let t ← i32.op (s.tdiv 64 + 15)
  i32.op (t.tdiv 16 * 16)

def sbwcYVstrideBlocks (h : Int) : Arith Int := do
  let a ← alignUp h 16
  let s ← i32.op (a + 3)
  return s.tdiv 4

def sbwcCbcrVstrideBlocks (h : Int) : Arith Int := do
  let a ← alignUp h 16
  let s ← i32.op (a.tdiv 2 + 3)
  return s.tdiv 4

def sbwcSize (stride blocks extra : Int) : Arith Int := do
  let p ← i32.op (stride * blocks)
  i32.op (p + extra)

/-- The raw `int` values a setup function gives one plane. -/
structure PlaneDims where
  size : Int
  width : Int
  height : Int
  stride : Int

def PlaneDims.fill (d : PlaneDims) (plane : PlaneInfo) : Arith PlaneInfo := do
  let size ← u64.op d.size
  let allocWidth ← u32.op d.width
  let allocHeight ← u32.op d.height
  let byteStride ← u32.op d.stride
  return { plane with
    size := size, allocWidth := allocWidth, allocHeight := allocHeight, byteStride := byteStride }

/-- The common body of the two-plane setup functions: chroma goes to the second fd, or behind
luma on the only one. -/
def fillSemiPlanar (luma chroma : PlaneDims) (fdCount : Int) (plane : Planes) : Arith Planes := do
  let p0 ← luma.fill plane.p0
  let p1 ← chroma.fill plane.p1
  let p0 := { p0 with fdIdx := 0 }
  if fdCount > 1 then
    return { plane with p0 := p0, p1 := { p1 with fdIdx := 1 } }
  else
    let offset ← i64.op p0.size
    return { plane with p0 := p0, p1 := { p1 with fdIdx := 0, offset := offset } }

def setupSbwc420Sp (w h fdCount : Int) (plane : Planes) : Arith (Planes × Int) := do
  let stride ← sbwc8bStride w
  let headerStride ← sbwcHeaderStride w
  let yBlocks ← sbwcYVstrideBlocks h
  let cbcrBlocks ← sbwcCbcrVstrideBlocks h
  let ySize ← sbwcSize stride yBlocks 64
  let yHeader ← sbwcSize headerStride yBlocks 256
  let yHeader ← alignUp yHeader 32
  let cbcrSize ← sbwcSize stride cbcrBlocks 64
  let cbcrHeader ← sbwcSize headerStride cbcrBlocks 128
  let size0 ← i32.op (ySize + yHeader)
  let size1 ← i32.op (cbcrSize + cbcrHeader)
  let width ← grallocAlign i32 w 32
  let height ← alignUp h 16
  let plane ← fillSemiPlanar ⟨size0, width, height, stride⟩ ⟨size1, width, height.tdiv 2, stride⟩ fdCount plane
  return (plane, 2)

def setupSbwc420Sp10bit (w h fdCount : Int) (plane : Planes) : Arith (Planes × Int) := do
  let stride ← sbwc10bStride w
  let yBlocks ← sbwcYVstrideBlocks h
  let cbcrBlocks ← sbwcCbcrVstrideBlocks h
  let ySize ← sbwcSize stride yBlocks 64
  let cbcrSize ← sbwcSize stride cbcrBlocks 64
  let w32 ← alignUp w 32
  let h16 ← alignUp h 16
  let pixels ← i32.op (w32 * h16)
  -- the headers take what is left of the uncompressed planes
  let doubled ← i32.op (pixels * 2)
  let yTotal ← i32.op (doubled + 256)
  let yHeader ← i32.op (yTotal - ySize)
  let yHeader ← alignUp yHeader 32
  let cbcrTotal ← i32.op (pixels + 256)
  let cbcrHeader ← i32.op (cbcrTotal - cbcrSize)
  let size0 ← i32.op (ySize + yHeader)
  let size1 ← i32.op (cbcrSize + cbcrHeader)
  let width ← grallocAlign i32 w 32
  let plane ← fillSemiPlanar ⟨size0, width, h16, stride⟩ ⟨size1, width, h16.tdiv 2, stride⟩ fdCount plane
  return (plane, 2)

def fillSbwcLossy (stride width height fdCount : Int) (plane : Planes) : Arith (Planes × Int) := do
  let yBlocks ← sbwcYVstrideBlocks height
  let cbcrBlocks ← sbwcCbcrVstrideBlocks height
  let size0 ← sbwcSize stride yBlocks 64
  let size1 ← sbwcSize stride cbcrBlocks 64
  let allocWidth ← grallocAlign i32 width 32
  let allocHeight ← alignUp height 8
  let plane ← fillSemiPlanar ⟨size0, allocWidth, allocHeight, stride⟩
    ⟨size1, allocWidth, allocHeight.tdiv 2, stride⟩ fdCount plane
  return (plane, 2)

def setupSbwc420SpLossy (width height rate fdCount : Int) (plane : Planes) : Arith (Planes × Int) := do
  let stride ← sbwcl8bStride width rate
  fillSbwcLossy stride width height fdCount plane

def setupSbwc420Sp10bitLossy (width height rate fdCount : Int) (plane : Planes) : Arith (Planes × Int) := do
  let stride ← sbwcl10bStride width rate
  fillSbwcLossy stride width height fdCount plane

/-- `height / 2`, aligned when the build asks for it. -/
def chromaHeight (o : BuildOptions) (height : Int) : Arith Int :=
  if o.exynosChromaVstrideAlign then grallocAlign i32 (height.tdiv 2) chromaValign
  else pure (height.tdiv 2)

def setup420Sp (o : BuildOptions) (width height fdCount : Int) (plane : Planes) (padding : Int) :
    Arith (Planes × Int) := do
  let height ← grallocAlign i32 height 2
  let luma ← planeSize width height
  let size0 ← i32.op (luma + padding)
  let chromaHeight ← chromaHeight o height
  let chroma ← planeSize width chromaHeight
  let size1 ← i32.op (chroma + padding)
  let plane ← fillSemiPlanar ⟨size0, width, height, width⟩ ⟨size1, width, chromaHeight, width⟩ fdCount plane
  return (plane, 2)

def setup420SpS10b (width height fdCount : Int) (plane : Planes) : Arith (Planes × Int) := do
  let height ← grallocAlign i32 height 2
  let msclExt := if fdCount = 1 then 256 + 64 else 256
  let luma ← planeSize width height
  let luma2 ← s2bPlaneSize width height
  let lumaSum ← i32.op (luma + luma2)
  let size0 ← i32.op (lumaSum + msclExt)
  let chromaHeight := height.tdiv 2
  let chroma ← planeSize width chromaHeight
  let chroma2 ← s2bPlaneSize width chromaHeight
  let chromaSum ← i32.op (chroma + chroma2)
  let size1 ← i32.op (chromaSum + msclExt)
  let plane ← fillSemiPlanar ⟨size0, width, height, width⟩ ⟨size1, width, chromaHeight, width⟩ fdCount plane
  return (plane, 2)

def setupP010Sp (width height fdCount : Int) (plane : Planes) : Arith (Planes × Int) := do
  let height ← grallocAlign i32 height 2
  let stride ← i32.op (width * 2)
  let size0 ← planeSize stride height
  let chromaHeight := height.tdiv 2
  let size1 ← planeSize stride chromaHeight
  let plane ← fillSemiPlanar ⟨size0, width, height, stride⟩ ⟨size1, width, chromaHeight, stride⟩ fdCount plane
  return (plane, 2)

def setup420P (o : BuildOptions) (width height fdCount : Int) (plane : Planes) : Arith (Planes × Int) := do
  let width ← grallocAlign i32 width 2
  let height ← grallocAlign i32 height 2
  let size0 ← planeSize width height
  let chromaWidth ← grallocAlign i32 (width.tdiv 2) 16
  let chromaHeight ← chromaHeight o height
  let size1 ← planeSize chromaWidth chromaHeight
  let luma : PlaneDims := ⟨size0, width, height, width⟩
  let chroma : PlaneDims := ⟨size1, chromaWidth, chromaHeight, chromaWidth⟩
  let p0 ← luma.fill plane.p0
  let p0 := { p0 with fdIdx := 0 }
  let p1 ← chroma.fill plane.p1
  let p2 ← chroma.fill plane.p2
  if fdCount > 1 then
    return (⟨p0, { p1 with fdIdx := 1 }, { p2 with fdIdx := 2 }⟩, 3)
  else
    let offset1 ← i64.op p0.size
    let sum ← u64.op (p0.size + p1.size)
    let offset2 ← i64.op sum
    return (⟨p0, { p1 with fdIdx := 0, offset := offset1 }, { p2 with fdIdx := 0, offset := offset2 }⟩, 3)

def setup420SpTiled (width height fdCount : Int) (plane : Planes) : Arith (Planes × Int) := do
  let width ← grallocAlign i32 width 2
  let height ← grallocAlign i32 height 2
  let size0 ← planeSize width height
  let stride ← i32.op (width * 16)
  let chromaHeight ← grallocAlign i32 (height.tdiv 2) 32
  let size1 ← planeSize width chromaHeight
  let plane ← fillSemiPlanar ⟨size0, width, height, stride⟩ ⟨size1, width, chromaHeight, stride⟩ fdCount plane
  return (plane, 3)

/-- What `prepare_descriptor_exynos_formats` stores in the descriptor. -/
structure ExynosLayout where
  planeInfo : Planes
  planeCount : Int
  fdCount : Int
  allocSizes : List Int

def ycrcb420SpWidth (o : BuildOptions) (w : Int) : Arith Int :=
  if o.supportYcrcb420SpAlign16 then grallocAlign i32 w 16 else pure w

/-- The switch over the format: the planes, `plane_count` and `fd_count`. -/
def setupFormat (o : BuildOptions) (format : ExynosFormat) (w h : Int) (plane : Planes) :
    Arith ((Planes × Int) × Int) := do
  match format with
  | .ycbcr420SpMSbwc | .ycrcb420SpMSbwc =>
    return (← setupSbwc420Sp w h 2 plane, 2)
  | .ycbcr420SpnSbwc =>
    return (← setupSbwc420Sp w h 1 plane, 1)
  | .ycbcr420SpM10bSbwc | .ycrcb420SpM10bSbwc =>
    return (← setupSbwc420Sp10bit w h 2 plane, 2)
  | .ycbcr420Spn10bSbwc =>
    return (← setupSbwc420Sp10bit w h 1 plane, 1)
  | .ycbcr420SpMSbwcL50 => return (← setupSbwc420SpLossy w h 50 2 plane, 2)
  | .ycbcr420SpnSbwcL50 => return (← setupSbwc420SpLossy w h 50 1 plane, 1)
  | .ycbcr420SpMSbwcL75 => return (← setupSbwc420SpLossy w h 75 2 plane, 2)
  | .ycbcr420SpnSbwcL75 => return (← setupSbwc420SpLossy w h 75 1 plane, 1)
  | .ycbcr420SpM10bSbwcL40 => return (← setupSbwc420Sp10bitLossy w h 40 2 plane, 2)
  | .ycbcr420Spn10bSbwcL40 => return (← setupSbwc420Sp10bitLossy w h 40 1 plane, 1)
  | .ycbcr420SpM10bSbwcL60 => return (← setupSbwc420Sp10bitLossy w h 60 2 plane, 2)
  | .ycbcr420Spn10bSbwcL60 => return (← setupSbwc420Sp10bitLossy w h 60 1 plane, 1)
  | .ycbcr420SpM10bSbwcL80 => return (← setupSbwc420Sp10bitLossy w h 80 2 plane, 2)
  | .ycbcr420Spn10bSbwcL80 => return (← setupSbwc420Sp10bitLossy w h 80 1 plane, 1)
  | .ycrcb420Sp =>
    let w ← ycrcb420SpWidth o w
    let h ← grallocAlign i32 h 2
    return (← setup420Sp o w h 1 plane 0, 1)
  | .yv12M | .ycbcr420PM =>
    let w ← grallocAlign i32 w 32
    let h ← grallocAlign i32 h 16
    return (← setup420P o w h 3 plane, 3)
  | .ycbcr420SpMTiled =>
    let w ← grallocAlign i32 w 16
    let h ← grallocAlign i32 h 32
    return (← setup420SpTiled w h 2 plane, 2)
  | .ycbcr420P =>
    let w ← grallocAlign i32 w 16
    return (← setup420P o w h 1 plane, 1)
  | .ycrcb420SpM | .ycrcb420SpMFull | .ycbcr420SpM =>
    let w ← grallocAlign i32 w 16
    let h ← grallocAlign i32 h 16
    return (← setup420Sp o w h 2 plane 0, 2)
  | .ycbcr420Spn =>
    let w ← grallocAlign i32 w 16
    let h ← grallocAlign i32 h 16
    if o.productVendorT then
      let w ← grallocAlign i32 w 64
      return (← setup420Sp o w h 1 plane 0, 1)
    else
      return (← setup420Sp o w h 1 plane extSize, 1)
  | .ycbcr420SpMS10b =>
    let w ← grallocAlign i32 w boardExynosS10bFormatAlign
    let h ← grallocAlign i32 h 16
    return (← setup420SpS10b w h 2 plane, 2)
  | .ycbcr420SpnS10b =>
    let w ← grallocAlign i32 w boardExynosS10bFormatAlign
    let h ← grallocAlign i32 h 16
    return (← setup420SpS10b w h 1 plane, 1)
  | .ycbcrP010M =>
    let w ← grallocAlign i32 w 16
    let h ← grallocAlign i32 h 16
    return (← setupP010Sp w h 2 plane, 2)

def sumPlaneSizes (fd : Int) : List PlaneInfo → Int → Arith Int
  | [], size => return size
  | p :: ps, size => do
    if p.fdIdx = fd then
      let size ← u64.op (size + p.size)
      sumPlaneSizes fd ps size
    else
      sumPlaneSizes fd ps size

def fdAllocSize (plane : Planes) (planeCount fd : Int) : Arith Int := do
  let size ← sumPlaneSizes fd (plane.toList.take planeCount.toNat) 0
  let size ← u64.op (size + 1024)
  return if size < sz4K then sz4K else size

/-- The outer loop over the fds; `alloc_sizes` keeps its value beyond `fd_count`. -/
def fillAllocSizes (plane : Planes) (planeCount : Int) : (fds : List Nat) → List Int → Arith (List Int)
  | [], allocSizes => return allocSizes
  | fd :: fds, allocSizes => do
    let size ← fdAllocSize plane planeCount fd
    fillAllocSizes plane planeCount fds (allocSizes.set fd size)

def prepareDescriptorExynosFormats (o : BuildOptions) (format : ExynosFormat)
    (width height : Int) (plane : Planes) (allocSizes : List Int) : Arith ExynosLayout := do
  let w ← i32.op width
  let h ← i32.op height
  let ((plane, planeCount), fdCount) ← setupFormat o format w h plane
  let allocSizes ← fillAllocSizes plane planeCount (List.range fdCount.toNat) allocSizes
  return { planeInfo := plane, planeCount := planeCount, fdCount := fdCount,
           allocSizes := allocSizes }

end ExynosHal.Gralloc
