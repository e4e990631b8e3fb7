import ExynosHal.Library.Words
import ExynosHal.Gralloc.ExynosFormats

/-!
# Formats and usages

The format table of `format_info.cpp`, the modifier bits of a 64-bit internal format, the
usage bits, and what is derived from them before any size is calculated.
-/

namespace ExynosHal.Gralloc

structure PerPlane where
  p0 : Int
  p1 : Int
  p2 : Int
  deriving DecidableEq

def PerPlane.get (x : PerPlane) : Nat → Int
  | 0 => x.p0
  | 1 => x.p1
  | _ => x.p2

structure FormatInfo where
  id : U32
  npln : Nat
  bppAfbc : PerPlane
  bpp : PerPlane
  hsub : Int
  vsub : Int
  alignW : Int
  alignH : Int
  alignWCpu : Int
  tileSize : Int
  isRgb : Bool
  isYuv : Bool
  afbc : Bool
  linear : Bool
  deriving DecidableEq

def exynosInfo (id : U32) (npln : Nat) (bpp : PerPlane) (alignWCpu tileSize : Int) :
    FormatInfo :=
  ⟨id, npln, ⟨0, 0, 0⟩, bpp, 2, 2, 2, 2, alignWCpu, tileSize, false, true, false, true⟩

def formats : List FormatInfo :=
  [⟨0x4#32, 1, ⟨16, 0, 0⟩, ⟨16, 0, 0⟩, 0, 0, 16, 16, 16, 1, true, false, true, true⟩,  -- RGB_565
   ⟨0x3#32, 1, ⟨24, 0, 0⟩, ⟨24, 0, 0⟩, 0, 0, 16, 16, 16, 1, true, false, true, true⟩,  -- RGB_888
   ⟨0x1#32, 1, ⟨32, 0, 0⟩, ⟨32, 0, 0⟩, 0, 0, 16, 16, 16, 1, true, false, true, true⟩,  -- RGBA_8888
   ⟨0x5#32, 1, ⟨32, 0, 0⟩, ⟨32, 0, 0⟩, 0, 0, 16, 16, 16, 1, true, false, true, true⟩,  -- BGRA_8888
   ⟨0x2#32, 1, ⟨32, 0, 0⟩, ⟨32, 0, 0⟩, 0, 0, 16, 16, 16, 1, true, false, true, true⟩,  -- RGBX_8888
   ⟨0x2b#32, 1, ⟨32, 0, 0⟩, ⟨32, 0, 0⟩, 0, 0, 16, 16, 16, 1, true, false, true, true⟩,  -- RGBA_1010102
   ⟨0x16#32, 1, ⟨64, 0, 0⟩, ⟨64, 0, 0⟩, 0, 0, 16, 16, 16, 1, true, false, true, true⟩,  -- RGBA_16161616
   ⟨0x20203859#32, 1, ⟨8, 0, 0⟩, ⟨8, 0, 0⟩, 1, 1, 2, 2, 16, 1, false, true, true, true⟩,  -- Y8
   ⟨0x20363159#32, 1, ⟨16, 0, 0⟩, ⟨16, 0, 0⟩, 1, 1, 2, 2, 16, 1, false, true, true, true⟩,  -- Y16
   ⟨0x1006#32, 1, ⟨12, 0, 0⟩, ⟨0, 0, 0⟩, 2, 2, 2, 2, 1, 1, false, true, true, false⟩,  -- YUV420_8BIT_I
   ⟨0x1000#32, 2, ⟨8, 16, 0⟩, ⟨8, 16, 0⟩, 2, 2, 2, 2, 1, 1, false, true, true, true⟩,  -- NV12
   ⟨0x11#32, 2, ⟨8, 16, 0⟩, ⟨8, 16, 0⟩, 2, 2, 2, 2, 1, 1, false, true, true, true⟩,  -- NV21
   ⟨0x32315659#32, 3, ⟨8, 8, 8⟩, ⟨8, 8, 8⟩, 2, 2, 2, 2, 16, 1, false, true, true, true⟩,  -- YV12
   ⟨0x1001#32, 1, ⟨16, 0, 0⟩, ⟨16, 0, 0⟩, 2, 1, 2, 1, 1, 1, false, true, true, true⟩,  -- YUV422_8BIT
   ⟨0x10#32, 2, ⟨8, 16, 0⟩, ⟨8, 16, 0⟩, 2, 1, 2, 1, 1, 1, false, true, true, true⟩,  -- NV16
   ⟨0x1007#32, 1, ⟨15, 0, 0⟩, ⟨0, 0, 0⟩, 2, 2, 2, 2, 1, 1, false, true, true, false⟩,  -- YUV420_10BIT_I
   ⟨0x1002#32, 1, ⟨0, 0, 0⟩, ⟨16, 0, 0⟩, 2, 2, 2, 2, 1, 2, false, true, false, true⟩,  -- Y0L2
   ⟨0x36#32, 2, ⟨10, 20, 0⟩, ⟨16, 32, 0⟩, 2, 2, 2, 2, 1, 1, false, true, true, true⟩,  -- P010
   ⟨0x1004#32, 1, ⟨20, 0, 0⟩, ⟨32, 0, 0⟩, 2, 1, 2, 1, 1, 1, false, true, true, true⟩,  -- Y210
   ⟨0x1003#32, 2, ⟨10, 20, 0⟩, ⟨16, 32, 0⟩, 2, 1, 2, 1, 1, 1, false, true, true, true⟩,  -- P210
   ⟨0x1008#32, 1, ⟨30, 0, 0⟩, ⟨0, 0, 0⟩, 1, 1, 1, 1, 1, 1, false, true, true, false⟩,  -- YUV444_10BIT_I
   ⟨0x1005#32, 1, ⟨0, 0, 0⟩, ⟨32, 0, 0⟩, 1, 1, 1, 1, 1, 1, false, true, false, true⟩,  -- Y410
   ⟨0x20#32, 1, ⟨0, 0, 0⟩, ⟨16, 0, 0⟩, 0, 0, 2, 2, 16, 1, false, false, false, true⟩,  -- RAW16
   ⟨0x26#32, 1, ⟨0, 0, 0⟩, ⟨12, 0, 0⟩, 0, 0, 4, 2, 4, 1, false, false, false, true⟩,  -- RAW12
   ⟨0x25#32, 1, ⟨0, 0, 0⟩, ⟨10, 0, 0⟩, 0, 0, 4, 2, 4, 1, false, false, false, true⟩,  -- RAW10
   ⟨0x21#32, 1, ⟨0, 0, 0⟩, ⟨8, 0, 0⟩, 0, 0, 1, 1, 1, 1, false, false, false, true⟩,  -- BLOB
   ⟨0x30#32, 1, ⟨0, 0, 0⟩, ⟨16, 0, 0⟩, 0, 0, 1, 1, 1, 1, false, false, false, true⟩,  -- DEPTH_16
   ⟨0x31#32, 1, ⟨0, 0, 0⟩, ⟨24, 0, 0⟩, 0, 0, 1, 1, 1, 1, false, false, false, true⟩,  -- DEPTH_24
   ⟨0x32#32, 1, ⟨0, 0, 0⟩, ⟨32, 0, 0⟩, 0, 0, 1, 1, 1, 1, false, false, false, true⟩,  -- DEPTH_24_STENCIL_8
   ⟨0x33#32, 1, ⟨0, 0, 0⟩, ⟨32, 0, 0⟩, 0, 0, 1, 1, 1, 1, false, false, false, true⟩,  -- DEPTH_32F
   ⟨0x34#32, 1, ⟨0, 0, 0⟩, ⟨40, 0, 0⟩, 0, 0, 1, 1, 1, 1, false, false, false, true⟩,  -- DEPTH_32F_STENCIL_8
   ⟨0x35#32, 1, ⟨0, 0, 0⟩, ⟨8, 0, 0⟩, 0, 0, 1, 1, 1, 1, false, false, false, true⟩,  -- STENCIL_8
   ⟨0x38#32, 1, ⟨8, 0, 0⟩, ⟨8, 0, 0⟩, 0, 0, 16, 16, 16, 1, true, false, true, true⟩,  -- R8
   exynosInfo 0x11d#32 2 ⟨8, 16, 0⟩ 1 1,  -- YCrCb_420_SP_M
   exynosInfo 0x11e#32 2 ⟨8, 16, 0⟩ 1 1,  -- YCrCb_420_SP_M_FULL
   exynosInfo 0x105#32 2 ⟨8, 16, 0⟩ 1 1,  -- YCbCr_420_SP_M
   exynosInfo 0x125#32 2 ⟨16, 32, 0⟩ 1 1,  -- YCbCr_420_SP_M_S10B
   exynosInfo 0x107#32 2 ⟨8, 16, 0⟩ 1 16,  -- YCbCr_420_SP_M_TILED
   exynosInfo 0x11c#32 3 ⟨8, 8, 8⟩ 1 1,  -- YV12_M
   exynosInfo 0x101#32 3 ⟨8, 8, 8⟩ 1 1,  -- YCbCr_420_P_M
   exynosInfo 0x123#32 2 ⟨8, 16, 0⟩ 1 1,  -- YCbCr_420_SPN
   exynosInfo 0x126#32 2 ⟨16, 32, 0⟩ 1 1,  -- YCbCr_420_SPN_S10B
   exynosInfo 0x127#32 2 ⟨16, 32, 0⟩ 1 1,  -- YCbCr_P010_M
   exynosInfo 0x11f#32 3 ⟨8, 8, 8⟩ 16 1,  -- YCbCr_420_P
   exynosInfo 0x11#32 2 ⟨8, 16, 0⟩ 1 1,  -- YCrCb_420_SP
   exynosInfo 0x131#32 2 ⟨8, 16, 0⟩ 1 1,  -- YCbCr_420_SPN_SBWC
   exynosInfo 0x133#32 2 ⟨16, 32, 0⟩ 1 1,  -- YCbCr_420_SPN_10B_SBWC
   exynosInfo 0x130#32 2 ⟨8, 16, 0⟩ 1 1,  -- YCbCr_420_SP_M_SBWC
   exynosInfo 0x132#32 2 ⟨16, 32, 0⟩ 1 1,  -- YCbCr_420_SP_M_10B_SBWC
   exynosInfo 0x134#32 2 ⟨8, 16, 0⟩ 1 1,  -- YCrCb_420_SP_M_SBWC
   exynosInfo 0x135#32 2 ⟨16, 32, 0⟩ 1 1,  -- YCrCb_420_SP_M_10B_SBWC
   exynosInfo 0x140#32 2 ⟨8, 16, 0⟩ 1 1,  -- YCbCr_420_SP_M_SBWC_L50
   exynosInfo 0x141#32 2 ⟨8, 16, 0⟩ 1 1,  -- YCbCr_420_SP_M_SBWC_L75
   exynosInfo 0x150#32 2 ⟨8, 16, 0⟩ 1 1,  -- YCbCr_420_SPN_SBWC_L50
   exynosInfo 0x151#32 2 ⟨8, 16, 0⟩ 1 1,  -- YCbCr_420_SPN_SBWC_L75
   exynosInfo 0x160#32 2 ⟨16, 32, 0⟩ 1 1,  -- YCbCr_420_SP_M_10B_SBWC_L40
   exynosInfo 0x161#32 2 ⟨16, 32, 0⟩ 1 1,  -- YCbCr_420_SP_M_10B_SBWC_L60
   exynosInfo 0x162#32 2 ⟨16, 32, 0⟩ 1 1,  -- YCbCr_420_SP_M_10B_SBWC_L80
   exynosInfo 0x170#32 2 ⟨16, 32, 0⟩ 1 1,  -- YCbCr_420_SPN_10B_SBWC_L40
   exynosInfo 0x171#32 2 ⟨16, 32, 0⟩ 1 1,  -- YCbCr_420_SPN_10B_SBWC_L60
   exynosInfo 0x172#32 2 ⟨16, 32, 0⟩ 1 1]  -- YCbCr_420_SPN_10B_SBWC_L80

def getFormat (baseFormat : U32) : Option FormatInfo := formats.find? fun f => f.id == baseFormat

/-- `is_exynos_format`, together with the case it stands for. -/
def exynosFormat (baseFormat : U32) : Option ExynosFormat :=
  [(0x11#32, ExynosFormat.ycrcb420Sp), (0x11C#32, .yv12M), (0x11F#32, .ycbcr420P),
   (0x101#32, .ycbcr420PM), (0x107#32, .ycbcr420SpMTiled), (0x11D#32, .ycrcb420SpM),
   (0x11E#32, .ycrcb420SpMFull), (0x105#32, .ycbcr420SpM), (0x123#32, .ycbcr420Spn),
   (0x125#32, .ycbcr420SpMS10b), (0x126#32, .ycbcr420SpnS10b), (0x127#32, .ycbcrP010M),
   (0x131#32, .ycbcr420SpnSbwc), (0x133#32, .ycbcr420Spn10bSbwc), (0x130#32, .ycbcr420SpMSbwc),
   (0x134#32, .ycrcb420SpMSbwc), (0x132#32, .ycbcr420SpM10bSbwc),
   (0x135#32, .ycrcb420SpM10bSbwc), (0x140#32, .ycbcr420SpMSbwcL50),
   (0x141#32, .ycbcr420SpMSbwcL75), (0x150#32, .ycbcr420SpnSbwcL50),
   (0x151#32, .ycbcr420SpnSbwcL75), (0x160#32, .ycbcr420SpM10bSbwcL40),
   (0x161#32, .ycbcr420SpM10bSbwcL60), (0x162#32, .ycbcr420SpM10bSbwcL80),
   (0x170#32, .ycbcr420Spn10bSbwcL40), (0x171#32, .ycbcr420Spn10bSbwcL60),
   (0x172#32, .ycbcr420Spn10bSbwcL80)].lookup baseFormat

def formatRaw12 : U32 := 0x26#32
def formatRaw10 : U32 := 0x25#32
def formatBlob : U32 := 0x21#32
def formatP010 : U64 := 0x36#64

/-- The base format: `MALI_GRALLOC_INTFMT_FMT_MASK` and the truncation to 32 bits. -/
def baseFormat (allocFormat : U64) : U32 := allocFormat.setWidth 32

def hasAny (bits mask : U64) : Bool := (bits &&& mask) != 0#64

def hasAll (bits mask : U64) : Bool := (bits &&& mask) == mask

def intfmtAfbcBasic : U64 := 1#64 <<< 32
def intfmtAfbcWideblk : U64 := 1#64 <<< 35
def intfmtAfbcTiledHeaders : U64 := 1#64 <<< 36
def intfmtAfbcExtrawideblk : U64 := 1#64 <<< 37
def intfmtAfbcDoubleBody : U64 := 1#64 <<< 38

def usagePrivateMask : U64 := 0xffff0000f0000000#64
def usageSwReadMask : U64 := 0xf#64
def usageSwWriteMask : U64 := 0xf0#64
def usageHwTexture : U64 := 1#64 <<< 8
def usageHwRender : U64 := 1#64 <<< 9
def usageHwComposer : U64 := 1#64 <<< 11
def usageHwFb : U64 := 1#64 <<< 12
def usageExternalDisp : U64 := 1#64 <<< 13
def usageProtected : U64 := 1#64 <<< 14
def usageHwVideoEncoder : U64 := 1#64 <<< 16
def usageHwCameraWrite : U64 := 1#64 <<< 17
def usageHwCameraRead : U64 := 1#64 <<< 18
def usageHwVideoDecoder : U64 := 1#64 <<< 22
def usageGpuDataBuffer : U64 := 1#64 <<< 24
def usageAfbcPadding : U64 := 1#64 <<< 53
def usageHfrMode : U64 := 1#64 <<< 57
def usageVideoPrivateData : U64 := 1#64 <<< 60

def usageDecoder : U64 := usageHwTexture ||| usageHwComposer ||| usageExternalDisp

structure Producers where
  cpu : Bool
  dpu : Bool
  gpu : Bool
  cam : Bool
  vpu : Bool
  deriving DecidableEq

def getProducers (usage : U64) : Producers :=
  let usage := usage &&& ~~~usagePrivateMask &&& ~~~usageProtected
  { cpu := hasAny usage usageSwWriteMask
    dpu := !hasAll usage usageDecoder && hasAll usage (usageHwComposer ||| usageHwVideoEncoder)
    gpu := hasAny usage (usageHwRender ||| usageGpuDataBuffer)
    cam := hasAny usage usageHwCameraWrite
    vpu := hasAll usage usageDecoder }

structure Consumers where
  cpu : Bool
  dpu : Bool
  vpu : Bool
  gpu : Bool
  deriving DecidableEq

def getConsumers (usage : U64) : Consumers :=
  let usage := usage &&& ~~~usagePrivateMask &&& ~~~usageProtected
  if usage == usageHwComposer then { cpu := false, dpu := true, vpu := false, gpu := false }
  else
    { cpu := hasAny usage usageSwReadMask
      dpu := hasAny usage usageHwFb || hasAll usage (usageHwTexture ||| usageHwComposer)
      vpu := hasAny usage usageHwVideoEncoder
      gpu := hasAny usage (usageHwTexture ||| usageGpuDataBuffer) }

/-- `stride_in_bytes` of `FormatManager::get_alloc_align`: the largest alignment of the IPs
the usage names. -/
def allocAlignStride (id : U32) (usage : U64) : Int :=
  let cpu := hasAny usage (usageSwReadMask ||| usageSwWriteMask) || usage == 0#64
  let gpu := hasAny usage (usageHwTexture ||| usageHwRender ||| usageGpuDataBuffer)
  let camera := hasAny usage (usageHwCameraWrite ||| usageHwCameraRead)
  let video := hasAny usage (usageHwVideoEncoder ||| usageHwVideoDecoder)
  -- Y8, YV12, RAW16, Y16
  let cpuAlign : Int :=
    if id == 0x20203859#32 || id == 0x32315659#32 then 16
    else if id == 0x20#32 || id == 0x20363159#32 then 32
    else 1
  let videoAlign : Int := if id == 0x36#32 then 128 else 16
  -- the composer asks for 1, the value the maximum starts with
  let align : Int := 1
  let align := if cpu then max cpuAlign align else align
  let align := if gpu then max 16 align else align
  let align := if camera then max 16 align else align
  if video then max videoAlign align else align

inductive AllocBaseType where
  | uncompressed
  | afbc
  | afbcWideblk
  | afbcExtrawideblk
  deriving DecidableEq

structure AllocType where
  primaryType : AllocBaseType
  isMultiPlane : Bool
  isTiled : Bool
  isPadded : Bool
  isFrontbufferSafe : Bool
  deriving DecidableEq

def AllocType.isAfbc (t : AllocType) : Bool := t.primaryType != .uncompressed

def getAllocType (formatExt : U64) (format : FormatInfo) (usage : U64) :
    Option AllocType :=
  let multi := decide (format.npln > 1)
  if hasAny formatExt intfmtAfbcBasic then
    let primaryType : AllocBaseType :=
      if hasAny formatExt intfmtAfbcWideblk then .afbcWideblk
      else if hasAny formatExt intfmtAfbcExtrawideblk then .afbcExtrawideblk
      else .afbc
    let isTiled := hasAny formatExt intfmtAfbcTiledHeaders
    if hasAny formatExt intfmtAfbcExtrawideblk && !isTiled then none
    else if format.npln == 1 && hasAny formatExt intfmtAfbcWideblk && hasAny formatExt intfmtAfbcExtrawideblk then none
    else some {
        primaryType := primaryType
        -- separate planes need tiled headers and extra-wide blocks
        isMultiPlane := multi && isTiled && hasAny formatExt intfmtAfbcExtrawideblk
        isTiled := isTiled
        isPadded := hasAny usage usageAfbcPadding
        isFrontbufferSafe := isTiled && hasAny formatExt intfmtAfbcDoubleBody }
  else some {
      primaryType := .uncompressed, isMultiPlane := multi, isTiled := false, isPadded := false,
      isFrontbufferSafe := false }

/-- `validate_format`, for a buffer of the given height. -/
def validateFormat (format : FormatInfo) (t : AllocType) (height : U32) : Bool :=
  let supported :=
    if t.isAfbc then
      format.afbc && !(format.npln == 1 && t.isMultiPlane) && !(decide (format.npln > 1) && !t.isMultiPlane)
    else format.linear
  supported && !(format.id == formatBlob && height != 1#32)

end ExynosHal.Gralloc
