import ExynosHal.Gralloc.FormatInfo

/-!
# Sizes of graphics buffers

`calc_allocation_size` and `mali_gralloc_derive_format_and_size`. The choice of the internal
format, `mali_gralloc_select_format`, depends on the capabilities of the other IPs and is a
parameter.
-/

namespace ExynosHal.Gralloc

open Library Library.IntType

inductive FormatType where
  | usage
  | internal
  deriving DecidableEq

/-- `mali_gralloc_select_format`: requested format, type, usage and `width * height`. -/
abbrev SelectFormat := U64 → FormatType → U64 → Int → U64

structure BufferDescriptor where
  width : U32
  height : U32
  producerUsage : U64
  consumerUsage : U64
  halFormat : U64
  layerCount : U32
  formatType : FormatType
  allocSizes : List Int
  pixelStride : Int
  allocFormat : U64
  fdCount : Int
  planeCount : Int
  planeInfo : Planes
  deriving DecidableEq

/-- The descriptor of a request, with the values of the constructor in the calculated fields. -/
def BufferDescriptor.fresh (width height : U32) (producerUsage consumerUsage : U64)
    (halFormat : U64) (layerCount : U32) (formatType : FormatType) :
    BufferDescriptor where
  width := width
  height := height
  producerUsage := producerUsage
  consumerUsage := consumerUsage
  halFormat := halFormat
  layerCount := layerCount
  formatType := formatType
  allocSizes := [0, 0, 0]
  pixelStride := 0
  allocFormat := 0
  fdCount := 1
  planeCount := 1
  planeInfo := .zero

def BufferDescriptor.usage (d : BufferDescriptor) : U64 := d.producerUsage ||| d.consumerUsage

/-- `validateDescriptorInfo`, on the fields it reads. -/
def validateDescriptorInfo (d : BufferDescriptor) : Bool :=
  d.width != 0#32 && d.height != 0#32 && d.layerCount != 0#32 && d.halFormat.setWidth 32 != 0#32

def msclAlign : Nat := 128
def msclExtSize : Int := 512
def afbcPixelsPerBlock : Int := 256
def afbcHeaderBytesPerBlock : Int := 16
def size1K : Int := 1024

def afbcBufferAlign (isTiled : Bool) (size : Int) : Arith Int :=
  grallocAlign i32 size (if isTiled then 4 * 1024 else 1024)

def afbcSbSize : AllocBaseType → Int × Int
  | .uncompressed => (0, 0)
  | .afbc => (16, 16)
  | .afbcWideblk => (32, 8)
  | .afbcExtrawideblk => (64, 4)

def afbcPlaneSbSize (t : AllocType) (plane : Nat) : Int × Int :=
  if plane > 0 && t.isAfbc && t.isMultiPlane then afbcSbSize .afbcExtrawideblk
  else afbcSbSize t.primaryType

def pixelAlign (format : FormatInfo) (t : AllocType) (plane : Nat) (hasCpuUsage : Bool) : Int × Int :=
  if hasCpuUsage then (format.alignWCpu, 1)
  else if t.isAfbc then
    let sb := afbcPlaneSbSize t plane
    let numSbAlign : Int := if t.isPadded && !format.isYuv then 4 else 0
    let scale : Int :=
      if t.isTiled then (if format.bppAfbc.get plane > 32 then 4 else 8) else 1
    let w := max (max 0 numSbAlign * sb.1) (scale * sb.1)
    let h := max 1 (scale * sb.2)
    (w, if t.primaryType == .afbcWideblk && !t.isTiled then max h 16 else h)
  else (1, 1)

def getPixelWH (format : FormatInfo) (t : AllocType) (plane : Nat) (hasCpuUsage : Bool)
    (width height : Int) : Arith (Int × Int) := do
  let width ← grallocAlign u32 width format.alignW
  let height ← grallocAlign u32 height format.alignH
  let width := if plane > 0 then width.tdiv format.hsub else width
  let height := if plane > 0 then height.tdiv format.vsub else height
  let align := pixelAlign format t plane hasCpuUsage
  let width ← grallocAlign u32 width (max 1 (max align.1 format.tileSize))
  let height ← grallocAlign u32 height (max 1 (max align.2 format.tileSize))
  return (width, height)

/-- `lcm` on `uint32_t`; its `gcd` is Euclid's algorithm. -/
def lcm (a b : Int) : Arith Int := do
  if a ≠ 0 ∧ b ≠ 0 then
    let p ← u32.op (a * b)
    return p.tdiv (Int.gcd a b)
  else
    return max a b

def hwAlign (o : BuildOptions) (format : FormatInfo) (usage : U64) : Int :=
  let hasHwUsage := hasAny usage (~~~(usagePrivateMask ||| usageSwReadMask ||| usageSwWriteMask))
  if !hasHwUsage then 0
  else if o.productVendorT then
    if format.isRgb then 64
    else if format.isYuv then allocAlignStride format.id usage
    else if format.id == formatRaw10 || format.id == formatRaw12 then 16
    else 0
  else if format.isYuv then 16
  else if format.isRgb then 64
  else 0

def strideAlign (o : BuildOptions) (format : FormatInfo) (plane : Nat) (usage : U64) : Arith Int := do
  let cpuAlign := (format.bpp.get plane * format.alignWCpu).tdiv 8
  let align ← lcm (hwAlign o format usage) cpuAlign
  if o.supportRaw10Raw12 && (format.id == formatRaw10 || format.id == formatRaw12) then
    return 16
  else
    return align

/-- What the loop of `calc_allocation_size` computes for one plane before it is placed. -/
structure PlaneBody where
  allocWidth : Int
  allocHeight : Int
  byteStride : Int
  bodySize : Int
  headerSize : Int
  deriving DecidableEq

def afbcBodySize (format : FormatInfo) (t : AllocType) (plane : Nat) (sbNum : Int) : Arith Int := do
  let sb := afbcPlaneSbSize t plane
  let sbBytes ← grallocAlign i32 ((format.bppAfbc.get plane * sb.1 * sb.2).tdiv 8) 128
  let product ← u32.op (sbNum * sbBytes)
  let bodySize ← i32.op product
  let bodySize ← (if format.npln > 1 ∧ plane < 2 then afbcBufferAlign t.isTiled bodySize else pure bodySize)
  if t.isFrontbufferSafe then
    let backBufferSize ← afbcBufferAlign t.isTiled bodySize
    i32.op (bodySize + backBufferSize)
  else
    return bodySize

def linearStride (o : BuildOptions) (format : FormatInfo) (plane : Nat) (usage : U64)
    (allocWidth : Int) : Arith (Int × Int) := do
  let bits ← u32.op (allocWidth * format.bpp.get plane)
  let byteStride := bits.tdiv 8
  let align ← strideAlign o format plane usage
  if align ≠ 0 then
    let tiled ← u32.op (byteStride * format.tileSize)
    let aligned ← grallocAlign u32 tiled align
    let byteStride := aligned.tdiv format.tileSize
    let strideBits ← u32.op (byteStride * 8)
    return (byteStride, strideBits.tdiv (format.bpp.get plane))
  else
    return (byteStride, allocWidth)

def planeBody (o : BuildOptions) (format : FormatInfo) (t : AllocType) (usage : U64)
    (width height : Int) (plane : Nat) : Arith PlaneBody := do
  let hasCpuUsage := hasAny usage (usageSwReadMask ||| usageSwWriteMask)
  let allocWidth ← u32.op width
  let allocHeight ← u32.op height
  let (allocWidth, allocHeight) ← getPixelWH format t plane hasCpuUsage allocWidth allocHeight
  if t.isAfbc then
    let bits ← u32.op (allocWidth * format.bppAfbc.get plane)
    let pixels ← u32.op (allocWidth * allocHeight)
    let sbNum := pixels.tdiv afbcPixelsPerBlock
    let bodySize ← afbcBodySize format t plane sbNum
    let headers ← u32.op (sbNum * afbcHeaderBytesPerBlock)
    let headerSize ← i32.op headers
    let headerSize ← afbcBufferAlign t.isTiled headerSize
    return ⟨allocWidth, allocHeight, bits.tdiv 8, bodySize, headerSize⟩
  else
    let (byteStride, allocWidth) ← linearStride o format plane usage allocWidth
    let product ← u32.op (byteStride * allocHeight)
    let bodySize ← i32.op product
    return ⟨allocWidth, allocHeight, byteStride, bodySize, 0⟩

def Planes.get (planes : Planes) : Nat → PlaneInfo
  | 0 => planes.p0
  | 1 => planes.p1
  | _ => planes.p2

def Planes.set (planes : Planes) (plane : Nat) (p : PlaneInfo) : Planes :=
  match plane with
  | 0 => { planes with p0 := p }
  | 1 => { planes with p1 := p }
  | _ => { planes with p2 := p }

def placePlanes (body : Nat → Arith PlaneBody) : (planes : List Nat) → Int → Planes → Arith (Int × Planes)
  | [], size, planeInfo => return (size, planeInfo)
  | plane :: planes, size, planeInfo => do
    let b ← body plane
    let offset ← (if plane > 0 then i64.op size else pure (planeInfo.get plane).offset)
    let sum ← i32.op (b.bodySize + b.headerSize)
    let sum ← u64.op sum
    let size ← u64.op (size + sum)
    placePlanes body planes size (planeInfo.set plane { (planeInfo.get plane) with
        offset := offset, size := size, byteStride := b.byteStride,
        allocWidth := b.allocWidth, allocHeight := b.allocHeight })

def calcAllocationSize (o : BuildOptions) (format : FormatInfo) (t : AllocType)
    (usage : U64) (width height : Int) (planeInfo : Planes) : Arith (Int × Planes) :=
  placePlanes (planeBody o format t usage width height) (List.range format.npln) 0
    { planeInfo with p0 := { planeInfo.p0 with offset := 0 } }

def align16 (width height : Int) : Arith (Int × Int) := do
  let width ← grallocAlign i32 width 16
  let height ← grallocAlign i32 height 16
  return (width, height)

def adjustDimensions (o : BuildOptions) (allocFormat usage : U64) (width height : Int) : Arith (Int × Int) := do
  let producers := getProducers usage
  let consumers := getConsumers usage
  let isYuv420 := (getFormat (baseFormat allocFormat)).any fun f =>
    f.isYuv && f.hsub == 2 && f.vsub == 2
  let height ← (if producers.vpu && hasAny allocFormat intfmtAfbcBasic && isYuv420 then
      i32.op (height + if hasAny allocFormat intfmtAfbcTiledHeaders then 16 else 32)
    else pure height)
  let (width, height) ← (if producers.gpu && hasAny allocFormat intfmtAfbcBasic then align16 width height
    else pure (width, height))
  if o.productVendorT && (producers.vpu || consumers.vpu) && hasAll allocFormat formatP010 then
    align16 width height
  else
    return (width, height)

/-- The checks before any size is calculated; `none` is `-EINVAL`. -/
def resolveFormat (selectFormat : SelectFormat) (d : BufferDescriptor) : Option (U64 × FormatInfo × AllocType) :=
  let bufferSize := i32.convert (u32.convert (d.width.toNat * d.height.toNat))
  let allocFormat := selectFormat d.halFormat d.formatType d.usage bufferSize
  if allocFormat = 0#64 then none
  else
    match getFormat (baseFormat allocFormat) with
    | none => none
    | some format =>
      match getAllocType allocFormat format d.usage with
      | none => none
      | some t => if validateFormat format t d.height then some (allocFormat, format, t) else none

def layoutBuffer (o : BuildOptions) (d : BufferDescriptor) (allocFormat : U64)
    (format : FormatInfo) (t : AllocType) : Arith (BufferDescriptor × Int × Int) := do
  let width ← i32.op d.width.toNat
  let height ← i32.op d.height.toNat
  match exynosFormat (baseFormat allocFormat) with
  | some f =>
    let layout ← prepareDescriptorExynosFormats o f d.width.toNat d.height.toNat d.planeInfo d.allocSizes
    let videoData := if hasAny d.usage (usageHwVideoEncoder ||| usageHwVideoDecoder) then
      usageVideoPrivateData else 0#64
    return ({ d with
      allocFormat := allocFormat
      producerUsage := d.producerUsage ||| videoData
      consumerUsage := d.consumerUsage ||| videoData
      allocSizes := layout.allocSizes
      fdCount := layout.fdCount
      planeCount := layout.planeCount
      planeInfo := layout.planeInfo }, width, height)
  | none =>
    let (width, height) ← adjustDimensions o allocFormat d.usage width height
    let (size, planeInfo) ← calcAllocationSize o format t d.usage width height d.planeInfo
    return ({ d with
      allocFormat := allocFormat
      allocSizes := d.allocSizes.set 0 size
      planeInfo := planeInfo }, width, height)

def layeredSize (d : BufferDescriptor) (usage : U64) (size : Int) : Arith Int := do
  if d.layerCount.toNat > 1 ∧ hasAny (~~~usage) usageHfrMode then
    let size ← (if hasAny d.allocFormat intfmtAfbcBasic then
        grallocAlign u64 size (if hasAny d.allocFormat intfmtAfbcTiledHeaders then 4096 else 128)
      else pure size)
    u64.op (size * d.layerCount.toNat)
  else
    return size

def addPixels (width height size : Int) : Arith Int := do
  let pixels ← i32.op (width * height)
  let pixels ← u64.op pixels
  u64.op (size + pixels)

def paddedSize (o : BuildOptions) (d : BufferDescriptor) (usage : U64) (width height size : Int) : Arith Int := do
  let size ← u64.op (size + extSize)
  let size ← (if d.width.toNat % msclAlign ≠ 0 then u64.op (size + msclExtSize) else pure size)
  let size ← (if usage = usageHwCameraRead ||| usageHwCameraWrite then addPixels width height size else pure size)
  if o.jpegWaEnabled ∧ d.halFormat = formatBlob.setWidth 64 then
    u64.op (size + 300 * size1K)
  else
    return size

def deriveFormatAndSize (o : BuildOptions) (selectFormat : SelectFormat) (d : BufferDescriptor) :
    Arith (Option BufferDescriptor) := do
  match resolveFormat selectFormat d with
  | none => return none
  | some (allocFormat, format, t) =>
    let (e, width, height) ← layoutBuffer o d allocFormat format t
    let isRaw := baseFormat allocFormat == formatRaw12 || baseFormat allocFormat == formatRaw10
    let pixelStride ← i32.op (if isRaw then e.planeInfo.p0.byteStride else e.planeInfo.p0.allocWidth)
    let size ← layeredSize e d.usage (e.allocSizes.getD 0 0)
    let size ← paddedSize o e d.usage width height size
    return some { e with pixelStride := pixelStride, allocSizes := e.allocSizes.set 0 size }

end ExynosHal.Gralloc
