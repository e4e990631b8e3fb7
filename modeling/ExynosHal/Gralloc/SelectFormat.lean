import ExynosHal.Gralloc.BufferAllocation

/-!
# Choosing the internal format

`mali_gralloc_select_format`: the base format of a request, the capabilities that its producers
and consumers share, and the best of the compatible formats with the AFBC modifiers they allow.
-/

namespace ExynosHal.Gralloc

open Library.IntType

/-- What the comparison of two base formats reads besides a `FormatInfo`. -/
structure Samples where
  id : U32
  totalComponents : Nat
  bps : Nat
  hasAlpha : Bool
  deriving DecidableEq

def formatSamples : List Samples :=
  [⟨0x4#32, 3, 6, false⟩, ⟨0x3#32, 3, 8, false⟩, ⟨0x1#32, 4, 8, true⟩, ⟨0x5#32, 4, 8, true⟩,
   ⟨0x2#32, 3, 8, false⟩, ⟨0x2b#32, 4, 10, true⟩, ⟨0x16#32, 4, 16, true⟩,
   ⟨0x20203859#32, 1, 8, false⟩, ⟨0x20363159#32, 1, 16, false⟩, ⟨0x1006#32, 3, 8, false⟩,
   ⟨0x1000#32, 3, 8, false⟩, ⟨0x11#32, 3, 8, false⟩, ⟨0x32315659#32, 3, 8, false⟩,
   ⟨0x1001#32, 3, 8, false⟩, ⟨0x10#32, 3, 8, false⟩, ⟨0x1007#32, 3, 10, false⟩,
   ⟨0x1002#32, 4, 10, true⟩, ⟨0x36#32, 3, 10, false⟩, ⟨0x1004#32, 3, 10, false⟩,
   ⟨0x1003#32, 3, 10, false⟩, ⟨0x1008#32, 3, 10, false⟩, ⟨0x1005#32, 4, 10, true⟩,
   ⟨0x20#32, 1, 16, false⟩, ⟨0x26#32, 1, 12, false⟩, ⟨0x25#32, 1, 10, false⟩,
   ⟨0x21#32, 1, 8, false⟩, ⟨0x30#32, 1, 16, false⟩, ⟨0x31#32, 1, 24, false⟩,
   ⟨0x32#32, 2, 24, false⟩, ⟨0x33#32, 1, 32, false⟩, ⟨0x34#32, 2, 32, false⟩,
   ⟨0x35#32, 1, 8, false⟩, ⟨0x38#32, 1, 8, false⟩, ⟨0x11d#32, 3, 8, false⟩,
   ⟨0x11e#32, 3, 8, false⟩, ⟨0x105#32, 3, 8, false⟩, ⟨0x125#32, 3, 10, false⟩,
   ⟨0x107#32, 3, 8, false⟩, ⟨0x11c#32, 3, 8, false⟩, ⟨0x101#32, 3, 8, false⟩,
   ⟨0x123#32, 3, 8, false⟩, ⟨0x126#32, 3, 10, false⟩, ⟨0x127#32, 3, 10, false⟩,
   ⟨0x11f#32, 3, 8, false⟩, ⟨0x11#32, 3, 8, false⟩, ⟨0x131#32, 3, 8, false⟩,
   ⟨0x133#32, 3, 10, false⟩, ⟨0x130#32, 3, 8, false⟩, ⟨0x132#32, 3, 10, false⟩,
   ⟨0x134#32, 3, 8, false⟩, ⟨0x135#32, 3, 10, false⟩, ⟨0x140#32, 3, 8, false⟩,
   ⟨0x141#32, 3, 8, false⟩, ⟨0x150#32, 3, 8, false⟩, ⟨0x151#32, 3, 8, false⟩,
   ⟨0x160#32, 3, 10, false⟩, ⟨0x161#32, 3, 10, false⟩, ⟨0x162#32, 3, 10, false⟩,
   ⟨0x170#32, 3, 10, false⟩, ⟨0x171#32, 3, 10, false⟩, ⟨0x172#32, 3, 10, false⟩]
def samplesOf (f : FormatInfo) : Samples := (formatSamples.find? fun s => s.id == f.id).getD ⟨f.id, 0, 0, false⟩

abbrev SupportFlags := U8

def fNone : SupportFlags := 0#8
def fLin : SupportFlags := 1#8
def fAfbc : SupportFlags := 2#8

structure FormatIpSupport where
  id : U32
  cpuWr : SupportFlags
  cpuRd : SupportFlags
  gpuWr : SupportFlags
  gpuRd : SupportFlags
  dpuWr : SupportFlags
  dpuRd : SupportFlags
  vpuWr : SupportFlags
  vpuRd : SupportFlags
  camWr : SupportFlags
  deriving DecidableEq

def exynosSupport (id : U32) : FormatIpSupport := ⟨id, fLin, fLin, fLin, fLin, fNone, fLin, fLin, fLin, fNone⟩

def formatsIpSupport (o : BuildOptions) : List FormatIpSupport :=
  let rawCamWr := if o.supportRaw10Raw12 then fLin else fNone
  let linAfbc := fLin ||| fAfbc
  [⟨0x4#32, fLin, fLin, linAfbc, linAfbc, fNone, linAfbc, fLin, fLin, fNone⟩,
   ⟨0x3#32, fLin, fLin, linAfbc, linAfbc, fLin, linAfbc, fLin, fLin, fNone⟩,
   ⟨0x1#32, fLin, fLin, linAfbc, linAfbc, fLin, linAfbc, fLin, fLin, fNone⟩,
   ⟨0x5#32, fLin, fLin, fLin, fLin, fLin, fLin, fLin, fLin, fNone⟩,
   ⟨0x2#32, fLin, fLin, linAfbc, linAfbc, fLin, linAfbc, fLin, fLin, fNone⟩,
   ⟨0x2b#32, fLin, fLin, linAfbc, linAfbc, fLin, linAfbc, fLin, fLin, fNone⟩,
   ⟨0x16#32, fLin, fLin, linAfbc, linAfbc, fNone, fNone, fLin, fLin, fNone⟩,
   ⟨0x20203859#32, fLin, fLin, fNone, fNone, fNone, fNone, fLin, fLin, fNone⟩,
   ⟨0x20363159#32, fLin, fLin, fNone, fNone, fNone, fNone, fLin, fLin, fNone⟩,
   ⟨0x1006#32, fNone, fNone, fAfbc, fAfbc, fNone, fAfbc, fAfbc, fAfbc, fNone⟩,
   ⟨0x1000#32, fLin, fLin, fLin, linAfbc, fLin, fLin, fLin, fLin, fNone⟩,
   ⟨0x11#32, fLin, fLin, fLin, fLin, fNone, fNone, fLin, fLin, fLin⟩,
   ⟨0x32315659#32, fLin, fLin, fLin, fLin, fNone, fLin, fLin, fLin, fNone⟩,
   ⟨0x1001#32, fLin, fLin, linAfbc, linAfbc, fNone, linAfbc, fLin, fLin, fLin⟩,
   ⟨0x10#32, fLin, fLin, fLin, linAfbc, fNone, fNone, fLin, fLin, fNone⟩,
   ⟨0x1007#32, fNone, fNone, fAfbc, fAfbc, fNone, fAfbc, fAfbc, fAfbc, fNone⟩,
   exynosSupport 0x1002#32, ⟨0x36#32, fLin, fLin, fLin, fLin, fLin, fLin, fLin, fLin, fLin⟩,
   ⟨0x1004#32, fLin, fLin, linAfbc, linAfbc, fNone, fNone, fLin, fLin, fNone⟩,
   ⟨0x1003#32, fLin, fLin, fLin, fLin, fNone, fNone, fLin, fLin, fNone⟩,
   ⟨0x1008#32, fNone, fNone, fNone, fNone, fNone, fNone, fLin, fLin, fNone⟩,
   ⟨0x1005#32, fLin, fLin, linAfbc, fLin, fNone, fNone, fLin, fLin, fNone⟩,
   ⟨0x20#32, fLin, fLin, fNone, fLin, fNone, fNone, fLin, fLin, fLin⟩,
   ⟨0x26#32, fLin, fLin, fNone, fNone, fNone, fNone, fLin, fLin, rawCamWr⟩,
   ⟨0x25#32, fLin, fLin, fNone, fNone, fNone, fNone, fLin, fLin, rawCamWr⟩,
   ⟨0x21#32, fLin, fLin, fLin, fLin, fNone, fNone, fLin, fLin, fNone⟩,
   ⟨0x30#32, fLin, fLin, fNone, fNone, fNone, fNone, fLin, fLin, fNone⟩,
   ⟨0x31#32, fLin, fLin, fNone, fNone, fNone, fNone, fLin, fLin, fNone⟩,
   ⟨0x32#32, fLin, fLin, fNone, fNone, fNone, fNone, fLin, fLin, fNone⟩,
   ⟨0x33#32, fLin, fLin, fNone, fNone, fNone, fNone, fLin, fLin, fNone⟩,
   ⟨0x34#32, fLin, fLin, fNone, fNone, fNone, fNone, fLin, fLin, fNone⟩,
   ⟨0x35#32, fLin, fLin, fNone, fNone, fNone, fNone, fLin, fLin, fNone⟩,
   ⟨0x38#32, fLin, fLin, linAfbc, linAfbc, fNone, fNone, fNone, fNone, fLin⟩,
   exynosSupport 0x11d#32, exynosSupport 0x11e#32, exynosSupport 0x105#32, exynosSupport 0x11c#32,
   exynosSupport 0x101#32, exynosSupport 0x125#32, exynosSupport 0x107#32, exynosSupport 0x123#32,
   exynosSupport 0x126#32, exynosSupport 0x127#32, exynosSupport 0x11f#32,
   ⟨0x11#32, fLin, fLin, fLin, fLin, fNone, fNone, fLin, fLin, fNone⟩, exynosSupport 0x131#32,
   exynosSupport 0x133#32, exynosSupport 0x130#32, exynosSupport 0x132#32, exynosSupport 0x134#32,
   exynosSupport 0x135#32, exynosSupport 0x140#32, exynosSupport 0x141#32, exynosSupport 0x150#32,
   exynosSupport 0x151#32, exynosSupport 0x160#32, exynosSupport 0x161#32, exynosSupport 0x162#32,
   exynosSupport 0x170#32, exynosSupport 0x171#32, exynosSupport 0x172#32]
structure HalIntFmt where
  halFormat : U32
  isFlex : Bool
  internalFormat : U32

def exynosItself (id : U32) : HalIntFmt := ⟨id, false, id⟩

def halToInternalFormat : List HalIntFmt := [⟨0x1#32, false, 0x1#32⟩, ⟨0x2#32, false, 0x2#32⟩, ⟨0x3#32, false, 0x3#32⟩,
   ⟨0x4#32, false, 0x4#32⟩, ⟨0x5#32, false, 0x5#32⟩, ⟨0x10#32, false, 0x10#32⟩,
   ⟨0x11#32, false, 0x11#32⟩, ⟨0x14#32, false, 0x1001#32⟩, ⟨0x16#32, false, 0x16#32⟩,
   ⟨0x20#32, false, 0x20#32⟩, ⟨0x21#32, false, 0x21#32⟩, ⟨0x22#32, true, 0x1000#32⟩,
   ⟨0x23#32, true, 0x1000#32⟩, ⟨0x24#32, false, 0x0#32⟩, ⟨0x25#32, false, 0x25#32⟩,
   ⟨0x26#32, false, 0x26#32⟩, ⟨0x27#32, true, 0x1001#32⟩, ⟨0x28#32, true, 0x0#32⟩,
   ⟨0x29#32, true, 0x0#32⟩, ⟨0x2a#32, true, 0x0#32⟩, ⟨0x2b#32, false, 0x2b#32⟩,
   ⟨0x30#32, false, 0x30#32⟩, ⟨0x31#32, false, 0x31#32⟩, ⟨0x32#32, false, 0x32#32⟩,
   ⟨0x33#32, false, 0x33#32⟩, ⟨0x34#32, false, 0x34#32⟩, ⟨0x35#32, false, 0x35#32⟩,
   ⟨0x36#32, false, 0x36#32⟩, ⟨0x20203859#32, false, 0x20203859#32⟩,
   ⟨0x20363159#32, false, 0x20363159#32⟩, ⟨0x32315659#32, false, 0x32315659#32⟩,
   ⟨0x120#32, true, 0x1000#32⟩, exynosItself 0x11d#32, exynosItself 0x11e#32,
   exynosItself 0x105#32, exynosItself 0x11c#32, exynosItself 0x101#32, exynosItself 0x125#32,
   exynosItself 0x107#32, exynosItself 0x123#32, exynosItself 0x126#32, exynosItself 0x127#32,
   exynosItself 0x11f#32, exynosItself 0x131#32, exynosItself 0x133#32, exynosItself 0x130#32,
   exynosItself 0x132#32, exynosItself 0x134#32, exynosItself 0x135#32, exynosItself 0x140#32,
   exynosItself 0x141#32, exynosItself 0x150#32, exynosItself 0x151#32, exynosItself 0x160#32,
   exynosItself 0x161#32, exynosItself 0x162#32, exynosItself 0x170#32, exynosItself 0x171#32,
   exynosItself 0x172#32]
def halFormatImplementationDefined : U64 := 0x22#64
def halFormatYcbcr420888 : U64 := 0x23#64
def halFormatYcrcb420Sp : U32 := 0x11#32
def halFormatYcbcr422I : U32 := 0x14#32
def exynosYcbcr420SpM : U32 := 0x105#32
def exynosYcrcb420SpM : U32 := 0x11D#32
def exynosYcrcb420SpMFull : U32 := 0x11E#32
def exynosYcbcrP010M : U32 := 0x127#32

def formatRgb565 : U32 := 0x4#32
def formatRgba1010102 : U32 := 0x2B#32
def formatRgba16161616 : U32 := 0x16#32

def usageNoAfbc : U64 := 1#64 <<< 29
def usageFrontbuffer : U64 := 1#64 <<< 55
def usageSbwcRequest10bit : U64 := 1#64 <<< 56
def usageVideoExt : U64 := 1#64 <<< 61
def usageYuvRangeFull : U64 := 1#64 <<< 63

/-- `VALID_USAGE` ends in `| -1`. -/
def validUsage : U64 := BitVec.allOnes 64

def intfmtExtMask : U64 := 0xffffffff00000000#64
def intfmtAfbcSplitblk : U64 := 1#64 <<< 34
def intfmtAfbcBch : U64 := 1#64 <<< 39
def intfmtAfbcYuvTransform : U64 := 1#64 <<< 40
def intfmtAfbcSparse : U64 := 1#64 <<< 41

def capOptionsPresent : U64 := 1#64 <<< 0
def capAfbcBasic : U64 := 1#64 <<< 1
def capAfbcSplitblk : U64 := 1#64 <<< 2
def capAfbcWideblk : U64 := 1#64 <<< 3
def capAfbcWriteNonSparse : U64 := 1#64 <<< 4
def capAfbcTiledHeaders : U64 := 1#64 <<< 7
def capAfbcExtrawideblk : U64 := 1#64 <<< 8
def capAfbcMultiplaneRead : U64 := 1#64 <<< 9
def capAfbcDoubleBody : U64 := 1#64 <<< 10
def capAfbcYuvRead : U64 := 1#64 <<< 11
def capAfbcYuvWrite : U64 := 1#64 <<< 12
def capAfbcRgba16161616 : U64 := 1#64 <<< 13
def capPixfmtRgba1010102 : U64 := 1#64 <<< 32
def capPixfmtRgba16161616 : U64 := 1#64 <<< 33
def capAfbcEnableMask : U64 := capAfbcBasic ||| capAfbcSplitblk ||| capAfbcWideblk ||| capAfbcTiledHeaders

def getInternalFormat (baseFormat : U32) (mapToInternal : Bool) : U32 :=
  let internalFormat :=
    match halToInternalFormat.find? fun entry => entry.halFormat == baseFormat with
    | some entry => if entry.isFlex || mapToInternal then entry.internalFormat else baseFormat
    | none => baseFormat
  if mapToInternal && (getFormat internalFormat).isNone then 0#32 else internalFormat

/-- The first half of `get_base_format`: the flexible formats. -/
def mapFlexFormat (reqFormat usage : U64) : U32 :=
  if reqFormat = halFormatImplementationDefined then
    if hasAny usage usageHwTexture || hasAny usage usageHwComposer then
      if hasAny usage usageYuvRangeFull then exynosYcrcb420SpMFull else exynosYcrcb420SpM
    else if hasAny usage usageHwVideoEncoder then exynosYcrcb420SpM
    else if hasAny usage usageVideoPrivateData then exynosYcbcr420SpM
    else if hasAny usage usageHwCameraRead && hasAny usage usageHwCameraWrite then
      halFormatYcbcr422I
    else exynosYcrcb420SpM
  else if reqFormat = halFormatYcbcr420888 then
    if hasAny usage (usageHwVideoEncoder ||| usageHwVideoDecoder) then
      if hasAny usage usageSbwcRequest10bit then exynosYcbcrP010M else exynosYcbcr420SpM
    else if usage = usageHwCameraWrite ||| usageHwTexture then halFormatYcrcb420Sp
    else if hasAny usage (usageHwRender ||| usageHwTexture) then exynosYcbcr420SpM
    else halFormatYcrcb420Sp
  else reqFormat.setWidth 32

def getBaseFormat (reqFormat usage : U64) (mapToInternal : Bool) : U32 :=
  getInternalFormat (mapFlexFormat reqFormat usage) mapToInternal

/-- The `caps_mask` of each IP. -/
structure IpCaps where
  cpu : U64
  gpu : U64
  dpu : U64
  cam : U64
  vpu : U64

def maskIf (condition : Bool) (mask caps : U64) : U64 :=
  if condition then caps &&& mask else caps

def getConsumerCaps (ip : IpCaps) (consumers : Consumers) : U64 :=
  let caps := ~~~capAfbcYuvWrite
  let caps := maskIf consumers.cpu ip.cpu caps
  let caps := maskIf (consumers.gpu && hasAny ip.gpu capOptionsPresent) ip.gpu caps
  let caps := maskIf (consumers.dpu && hasAny ip.dpu capOptionsPresent) ip.dpu caps
  maskIf (consumers.vpu && hasAny ip.vpu capOptionsPresent) ip.vpu caps

def Producers.none (p : Producers) : Bool := !p.cpu && !p.dpu && !p.gpu && !p.cam && !p.vpu

def Consumers.none (c : Consumers) : Bool := !c.cpu && !c.dpu && !c.vpu && !c.gpu

def getProducerCaps (ip : IpCaps) (producers : Producers) : U64 :=
  if producers.none then 0#64
  else
    let caps := ~~~capAfbcYuvRead
    let caps := maskIf producers.cpu ip.cpu caps
    let caps := maskIf (producers.gpu && hasAny ip.gpu capOptionsPresent) ip.gpu caps
    let caps := maskIf (producers.dpu && hasAny ip.dpu capOptionsPresent) ip.dpu caps
    let caps := maskIf (producers.cam && hasAny ip.cam capOptionsPresent) ip.cam caps
    maskIf (producers.vpu && hasAny ip.vpu capOptionsPresent) ip.vpu caps

/-- The display of `core/Android.bp`, and the switch that keeps AFBC from framebuffers. -/
structure SelectOptions where
  dispW : Int
  dispH : Int
  hwcFbDisableAfbc : Bool

def defaultSelect : SelectOptions := ⟨1920, 1080, false⟩

def afbcMinSize : Int := 40

def afbcAllowed (so : SelectOptions) (consumers : Consumers) (bufferSize : Int) : Bool :=
  if consumers.dpu && so.dispW != 0 && so.dispH != 0 then
    decide (afbcMinSize ≤ (i32.convert (bufferSize * 100)).tdiv (i32.convert (so.dispW * so.dispH)))
  else decide (192 * 192 < bufferSize)

def getActiveCaps (so : SelectOptions) (format : FormatInfo) (producers : Producers)
    (consumers : Consumers) (producerCaps consumerCaps : U64) (bufferSize : Int) :
    U64 × U64 :=
  let producerMask := BitVec.allOnes 64
  let consumerMask := BitVec.allOnes 64
  let producerMask := maskIf format.isYuv (~~~capAfbcWideblk) producerMask
  let consumerMask := maskIf format.isYuv (~~~capAfbcWideblk) consumerMask
  let producerMask :=
    if format.isYuv then
      if !hasAny producerCaps capAfbcYuvWrite then producerMask &&& ~~~capAfbcEnableMask
      else maskIf producers.gpu (~~~(capAfbcSplitblk ||| capAfbcWideblk)) producerMask
    else producerMask
  let consumerMask := maskIf (format.isYuv && !hasAny consumerCaps capAfbcYuvRead) (~~~capAfbcEnableMask) consumerMask
  let consumerMask := maskIf (consumers.dpu && (!format.isRgb || decide (format.bpp.p0 < 24))) (~~~capAfbcSplitblk)
      consumerMask
  let consumerMask := maskIf (!afbcAllowed so consumers bufferSize) (~~~capAfbcEnableMask) consumerMask
  (producerCaps &&& producerMask, consumerCaps &&& consumerMask)

def flagsIf (condition : Bool) (flags support : SupportFlags) : SupportFlags :=
  if condition then support &&& flags else support

def ipSupportsBaseFormat (producers : Producers) (consumers : Consumers) (format : FormatIpSupport) : SupportFlags :=
  let support := BitVec.allOnes 8
  let support := flagsIf producers.cpu format.cpuWr support
  let support := flagsIf producers.gpu format.gpuWr support
  let support := flagsIf producers.dpu format.dpuWr support
  let support := flagsIf producers.cam format.camWr support
  let support := flagsIf producers.vpu format.vpuWr support
  let support := flagsIf consumers.cpu format.cpuRd support
  let support := flagsIf consumers.gpu format.gpuRd support
  let support := flagsIf consumers.dpu format.dpuRd support
  flagsIf consumers.vpu format.vpuRd support

def isSubsampledYuv (baseFormat : U32) : Bool := formats.any fun f =>
    f.id == baseFormat && f.isYuv && (decide (f.hsub > 1) || decide (f.vsub > 1))

def isAfbcMultiplaneSupported (producers : Producers) (producerCaps consumerCaps : U64) :
    Bool :=
  hasAny (producerCaps &&& consumerCaps) capAfbcBasic && hasAny (producerCaps &&& consumerCaps) capAfbcTiledHeaders &&
    hasAny (producerCaps &&& consumerCaps) capAfbcExtrawideblk &&
    hasAny consumerCaps capAfbcMultiplaneRead && producers.none

/-- The AFBC checks of `is_format_supported`: whether `F_AFBC` stays. -/
def keepsAfbc (format : FormatInfo) (usage : U64) (producers : Producers)
    (producerCaps consumerCaps : U64) : Bool :=
  let both := producerCaps &&& consumerCaps
  format.afbc && hasAny both capAfbcBasic &&
    (!decide (format.npln > 1) || isAfbcMultiplaneSupported producers producerCaps consumerCaps) &&
    (!format.isYuv || (hasAny producerCaps capAfbcYuvWrite && hasAny consumerCaps capAfbcYuvRead)) &&
    (!hasAny usage usageFrontbuffer || hasAny both capAfbcDoubleBody)

def isFormatSupported (format : FormatInfo) (ipFormat : FormatIpSupport) (usage : U64)
    (producers : Producers) (consumers : Consumers) (producerCaps consumerCaps : U64) :
    SupportFlags :=
  let both := producerCaps &&& consumerCaps
  let flags := ipSupportsBaseFormat producers consumers ipFormat
  let flags :=
    if flags &&& fAfbc ≠ 0#8 ∧ !keepsAfbc format usage producers producerCaps consumerCaps then
      flags &&& ~~~fAfbc
    else flags
  if flags ≠ fNone then
    if format.id = formatRgba1010102 ∧ !hasAny both capPixfmtRgba1010102 then fLin
    else if format.id = formatRgba16161616 then
      if !hasAny both capPixfmtRgba16161616 then fLin
      else if !hasAny both capAfbcRgba16161616 then fLin
      else flags
    else flags
  else flags

def clearIf (condition : Bool) (bits allocFormat : U64) : U64 :=
  if condition then allocFormat &&& ~~~bits else allocFormat

def setIf (condition : Bool) (bits allocFormat : U64) : U64 :=
  if condition then allocFormat ||| bits else allocFormat

def validateAfbcFormat (allocFormat producerCaps consumerCaps : U64) : U64 :=
  let both := producerCaps &&& consumerCaps
  let base := baseFormat allocFormat
  let a := allocFormat
  let a := clearIf (hasAny a intfmtAfbcDoubleBody) (intfmtAfbcWideblk ||| intfmtAfbcExtrawideblk) a
  let a := clearIf (hasAny a intfmtAfbcWideblk && hasAny a intfmtAfbcSplitblk &&
    isSubsampledYuv base) intfmtAfbcSplitblk a
  let a :=
    if hasAny a intfmtAfbcWideblk && !hasAny a intfmtAfbcSplitblk && !isSubsampledYuv base && base != formatRgb565 then
      if hasAny both capAfbcSplitblk then a ||| intfmtAfbcSplitblk else a &&& ~~~intfmtAfbcWideblk
    else a
  let a := clearIf (base == formatRgb565) intfmtAfbcSplitblk a
  let a := clearIf (hasAny a intfmtAfbcBasic && !hasAny both capAfbcBasic) intfmtAfbcBasic a
  let a := clearIf (hasAny a intfmtAfbcSplitblk && !hasAny both capAfbcSplitblk) intfmtAfbcSplitblk a
  let a := clearIf (hasAny a intfmtAfbcWideblk && !hasAny both capAfbcWideblk) intfmtAfbcWideblk a
  let a := clearIf (hasAny a intfmtAfbcTiledHeaders && !hasAny both capAfbcTiledHeaders) intfmtAfbcTiledHeaders a
  setIf (!(hasAny a intfmtAfbcSparse || hasAny producerCaps capAfbcWriteNonSparse)) intfmtAfbcSparse a

/-- The modifiers are wanted: both sides define capabilities, and it is no video transcode. -/
def modifiersWanted (producers : Producers) (consumers : Consumers) (producerCaps consumerCaps : U64) : Bool :=
  hasAny (producerCaps &&& consumerCaps) capOptionsPresent && (!producers.vpu || !consumers.vpu) &&
    (hasAny producerCaps capAfbcBasic && hasAny consumerCaps capAfbcBasic)

def getAfbcFormat (ip : IpCaps) (baseFormat : U32) (usage : U64) (producers : Producers)
    (consumers : Consumers) (producerCaps consumerCaps : U64) : U64 :=
  let both (cap : U64) : Bool := hasAny producerCaps cap && hasAny consumerCaps cap
  let a := baseFormat.setWidth 64
  let a :=
    if modifiersWanted producers consumers producerCaps consumerCaps then
      let a := a ||| intfmtAfbcBasic
      let a := setIf (!hasAny producerCaps capAfbcWriteNonSparse) intfmtAfbcSparse a
      let a := setIf (both capAfbcTiledHeaders) intfmtAfbcTiledHeaders a
      let a := setIf (both capAfbcTiledHeaders && hasAny usage usageFrontbuffer &&
        hasAny (producerCaps &&& consumerCaps) capAfbcDoubleBody) intfmtAfbcDoubleBody a
      let gpuToDpu := producers.gpu && consumers.dpu && hasAny ip.dpu capOptionsPresent
      let a := setIf (gpuToDpu && both capAfbcSplitblk) intfmtAfbcSplitblk a
      setIf (gpuToDpu && both capAfbcWideblk) intfmtAfbcWideblk a
    else a
  validateAfbcFormat a producerCaps consumerCaps

def isMultiPlane (formatExt : U64) (format : FormatInfo) : Bool :=
  decide (format.npln > 1) && (!hasAny formatExt intfmtAfbcBasic ||
    (hasAny formatExt intfmtAfbcTiledHeaders && hasAny formatExt intfmtAfbcExtrawideblk))

structure FmtProps where
  baseFormat : U32
  formatExt : U64
  flags : SupportFlags

def FmtProps.allocFormat (fmt : FmtProps) : U64 := fmt.baseFormat.setWidth 64 ||| fmt.formatExt

/-- The flags of `get_supported_format`, with the second try without the display. -/
def supportFlags (so : SelectOptions) (ip : IpCaps) (format : FormatInfo)
    (ipFormat : FormatIpSupport) (usage : U64) (producers : Producers) (consumers : Consumers)
    (producerCaps consumerCaps : U64) : SupportFlags :=
  let flags := isFormatSupported format ipFormat usage producers consumers producerCaps consumerCaps
  if flags = fNone ∧ consumers.gpu ∧ consumers.dpu then
    let nodpu := { consumers with dpu := false }
    let nodpuCaps := (getActiveCaps so format producers nodpu 0#64 (getConsumerCaps ip nodpu) 0).2
    isFormatSupported format ipFormat usage producers nodpu producerCaps nodpuCaps
  else flags

/-- `get_supported_format`; `none` where it returns false. -/
def getSupportedFormat (o : BuildOptions) (so : SelectOptions) (ip : IpCaps) (format : FormatInfo)
    (usage : U64) (producers : Producers) (consumers : Consumers)
    (producerCaps consumerCaps : U64) : Option FmtProps :=
  match (formatsIpSupport o).find? fun entry => entry.id == format.id with
  | none => none
  | some ipFormat =>
    let flags := supportFlags so ip format ipFormat usage producers consumers producerCaps consumerCaps
    let afbcFormat := getAfbcFormat ip format.id usage producers consumers producerCaps consumerCaps
    let ext := afbcFormat &&& intfmtExtMask
    let afbc := flags &&& fAfbc != 0#8 && !hasAll usage usageNoAfbc && afbcFormat != format.id.setWidth 64 &&
      !(decide (format.npln > 1) && !isMultiPlane ext format)
    let flags := if afbc then flags else flags &&& ~~~fAfbc
    if flags = fNone then none
    else some ⟨format.id, if afbc then ext else 0#64, flags⟩

def comparableComponents (old new : FormatInfo) : Bool :=
  let sOld := samplesOf old
  let sNew := samplesOf new
  if old.isYuv && sNew.bps == sOld.bps then
    sNew.totalComponents == sOld.totalComponents ||
      (sOld.hasAlpha && sNew.totalComponents == 3 && new.isYuv && !sNew.hasAlpha)
  else if old.isRgb then
    sNew.totalComponents == sOld.totalComponents && new.bpp.p0 == old.bpp.p0 && sNew.bps == sOld.bps
  else new.id == old.id

def isFormatCompatible (old new : FormatInfo) : Bool :=
  new.hsub == old.hsub && new.vsub == old.vsub && new.isRgb == old.isRgb &&
    new.isYuv == old.isYuv && comparableComponents old new

def gradedModifiers : List U64 :=
  [intfmtAfbcBasic, intfmtAfbcSplitblk, intfmtAfbcWideblk, intfmtAfbcTiledHeaders,
    intfmtAfbcExtrawideblk, intfmtAfbcDoubleBody, intfmtAfbcBch, intfmtAfbcYuvTransform,
    intfmtAfbcSparse]

def gradeFormat (fmt : FmtProps) : Nat := 1 + gradedModifiers.countP fun ext => hasAny fmt.formatExt ext

structure Selection where
  numSupportedFormats : Nat
  reqFormatGrade : Nat
  bestFmtGrade : Nat
  firstOfBestFormats : U64
  reqFormat : U64

def Selection.add (reqBaseFormat : U32) (s : Selection) (fmt : FmtProps) : Selection :=
  let grade := gradeFormat fmt
  let s := { s with numSupportedFormats := s.numSupportedFormats + 1 }
  let s := if s.bestFmtGrade < grade then
      { s with bestFmtGrade := grade, firstOfBestFormats := fmt.allocFormat }
    else s
  if fmt.baseFormat = reqBaseFormat then
    { s with reqFormatGrade := grade, reqFormat := fmt.allocFormat }
  else s

def getBestFormat (o : BuildOptions) (so : SelectOptions) (ip : IpCaps) (reqFormat : FormatInfo)
    (usage : U64) (producers : Producers) (consumers : Consumers)
    (producerCaps consumerCaps : U64) : U64 :=
  let compatible := formats.filter fun f => isFormatCompatible reqFormat f
  let supported := compatible.filterMap fun f =>
    getSupportedFormat o so ip f usage producers consumers producerCaps consumerCaps
  let s := supported.foldl (Selection.add reqFormat.id) ⟨0, 0, 0, 0#64, 0#64⟩
  if s.numSupportedFormats > 0 then
    if s.reqFormatGrade ≠ s.bestFmtGrade ∧ !producers.cpu ∧ !consumers.cpu then
      s.firstOfBestFormats
    else if s.reqFormatGrade ≠ 0 then s.reqFormat
    else 0#64
  else 0#64

def activeCaps (so : SelectOptions) (ip : IpCaps) (format : FormatInfo) (usage : U64)
    (bufferSize : Int) : U64 × U64 :=
  let consumerCaps :=
    if so.hwcFbDisableAfbc && hasAny usage usageHwFb then capOptionsPresent
    else getConsumerCaps ip (getConsumers usage)
  getActiveCaps so format (getProducers usage) (getConsumers usage)
    (getProducerCaps ip (getProducers usage)) consumerCaps bufferSize

def maliGrallocSelectFormat (o : BuildOptions) (so : SelectOptions) (ip : IpCaps) : SelectFormat :=
  fun reqFormat type usage bufferSize =>
    let reqBaseFormat := getBaseFormat reqFormat usage true
    match getFormat reqBaseFormat with
    | none => 0#64
    | some format =>
      if reqBaseFormat = 0#32 then 0#64
      else if type ≠ .internal ∧ hasAny usage (~~~validUsage) then 0#64
      else if (exynosFormat reqBaseFormat).isSome ∨ reqBaseFormat = formatBlob then
        reqBaseFormat.setWidth 64
      else if usage = 0#64 then reqBaseFormat.setWidth 64
      else if (getProducers usage).none ∧ (getConsumers usage).none then 0#64
      else if hasAll usage usageNoAfbc ∧ format.isYuv then 0#64
      else
        let caps := activeCaps so ip format usage bufferSize
        getBestFormat o so ip format usage (getProducers usage) (getConsumers usage) caps.1 caps.2

end ExynosHal.Gralloc
