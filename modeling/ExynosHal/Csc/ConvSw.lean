import ExynosHal.SwConverter.Tiled16

/-! # Software colour conversion

`conv_sw` and the functions it dispatches to, one for each family of source formats. The conversions from RGB
are a parameter. Sizes are `unsigned int`s, and so are the lengths and offsets computed from them.
-/

namespace ExynosHal.Csc
open Library SwConverter

/-- The formats that `conv_sw` tells apart, `HAL_PIXEL_FORMAT_` and `EXYNOS_` dropped. -/
inductive PixelFormat where
  | ycbcr420SpMTiled | ycbcr420SpnTiled
  | ycbcr420P | ycbcr420PM | ycbcr420Pn
  | yv12 | yv12M
  | ycbcr420Sp | ycbcr420SpM | ycbcr420SpMPriv | ycbcr420Spn
  | ycbcr420SpMS10b
  | ycbcrP010 | ycbcrP010M
  | ycrcb420Sp | ycrcb420SpM
  | bgra8888 | rgba8888 | argb8888
  | other (code : Nat)
  deriving DecidableEq

inductive MemoryType where
  | mmap | userptr | overlay | dmabuf | mfc
  deriving DecidableEq

inductive ErrorCode where
  | none | error | notInit | invalidAddress | unsupportFormat | notImplemented
  deriving DecidableEq

structure Format where
  width : Nat
  height : Nat
  cropWidth : Nat
  cropHeight : Nat
  colorFormat : PixelFormat

/-- `planes[CSC_MAX_PLANES]`. `CSC_UV_PLANE` is `CSC_U_PLANE`. -/
structure PlaneBuffers where
  y : Buffer
  u : Buffer
  v : Buffer

def PlaneBuffers.uv (planes : PlaneBuffers) : Buffer := planes.u

structure Handle where
  dstFormat : Format
  srcFormat : Format
  dstPlanes : PlaneBuffers
  srcPlanes : PlaneBuffers
  srcMemType : MemoryType

abbrev Conversion := ErrorCode × PlaneBuffers

def Handle.unsupported (h : Handle) : Conversion := (.unsupportFormat, h.dstPlanes)

def alignMfc (x : Nat) : Nat := (x + 15) / 16 * 16

def copyRows (dst : Buffer) (dstPitch : Nat) (src : Buffer) (srcPitch len rows : Nat) : Buffer :=
  -- `(int)rows` is negative from 2^31 on
  (forLoop (if rows < 2 ^ 31 then rows else 0) 1
    (fun i dst => memcpy dst (uint (dstPitch * i)) src (uint (srcPitch * i)) (uint len)) 0 dst).2

def copyMfcData (h : Handle) : Conversion :=
  let src := h.srcFormat
  let dst := h.dstFormat
  match src.colorFormat with
  -- Multi FD to Single FD: decoder
  | .ycbcr420PM | .ycbcr420Pn | .yv12M =>
    let halfWidth := src.cropWidth >>> 1
    let chroma (d s : Buffer) := copyRows d halfWidth s (alignMfc halfWidth) halfWidth (src.cropHeight >>> 1)
    (.none, {
        y := copyRows h.dstPlanes.y src.cropWidth h.srcPlanes.y src.width src.cropWidth src.cropHeight
        u := chroma h.dstPlanes.u h.srcPlanes.u
        v := chroma h.dstPlanes.v h.srcPlanes.v })
  | .ycbcr420SpM | .ycbcr420SpMPriv | .ycbcr420SpMS10b | .ycbcr420Spn | .ycrcb420SpM =>
    (.none, { h.dstPlanes with
        y := copyRows h.dstPlanes.y src.cropWidth h.srcPlanes.y src.width src.cropWidth src.cropHeight
        u := copyRows h.dstPlanes.uv src.cropWidth h.srcPlanes.uv src.width src.cropWidth (src.cropHeight >>> 1) })
  | .ycbcrP010M =>
    let copy (d s : Buffer) (rows : Nat) := copyRows d (src.cropWidth * 2) s (src.width * 2) (src.cropWidth * 2) rows
    (.none, { h.dstPlanes with
        y := copy h.dstPlanes.y h.srcPlanes.y src.cropHeight
        u := copy h.dstPlanes.uv h.srcPlanes.uv (src.cropHeight >>> 1) })
  -- Single FD to Multi FD: encoder
  | .ycbcr420P | .yv12 =>
    let halfWidth := src.cropWidth >>> 1
    let chroma (d s : Buffer) := copyRows d (alignMfc (dst.width >>> 1)) s halfWidth halfWidth (src.height >>> 1)
    (.none, {
        y := if src.width = dst.width ∧ src.cropWidth = dst.cropWidth
          then memcpy h.dstPlanes.y 0 h.srcPlanes.y 0 (uint (src.width * src.height))
          else copyRows h.dstPlanes.y dst.width h.srcPlanes.y src.cropWidth src.cropWidth src.height
        u := chroma h.dstPlanes.u h.srcPlanes.u
        v := chroma h.dstPlanes.v h.srcPlanes.v })
  | .ycbcr420Sp | .ycrcb420Sp =>
    if src.width = dst.width ∧ src.cropWidth = dst.cropWidth then
      (.none, { h.dstPlanes with
          y := memcpy h.dstPlanes.y 0 h.srcPlanes.y 0 (uint (src.width * src.height))
          u := memcpy h.dstPlanes.uv 0 h.srcPlanes.uv 0 (uint (src.width * (src.height >>> 1))) })
    else
      (.none, { h.dstPlanes with
          y := copyRows h.dstPlanes.y dst.width h.srcPlanes.y src.cropWidth src.cropWidth src.height
          u := copyRows h.dstPlanes.uv dst.width h.srcPlanes.uv src.cropWidth src.cropWidth (src.height >>> 1) })
  | .ycbcrP010 =>
    if src.width = dst.width ∧ src.cropWidth = dst.cropWidth then
      (.none, { h.dstPlanes with
          y := memcpy h.dstPlanes.y 0 h.srcPlanes.y 0 (uint (src.width * 2 * src.height))
          u := memcpy h.dstPlanes.uv 0 h.srcPlanes.uv 0 (uint (src.width * 2 * (src.height >>> 1))) })
    else
      let copy (d s : Buffer) (rows : Nat) := copyRows d (dst.width * 2) s (src.cropWidth * 2) (src.cropWidth * 2) rows
      (.none, { h.dstPlanes with
          y := copy h.dstPlanes.y h.srcPlanes.y src.height
          u := copy h.dstPlanes.uv h.srcPlanes.uv (src.height >>> 1) })
  | .bgra8888 | .rgba8888 | .argb8888 =>
    (.none, { h.dstPlanes with y := memcpy h.dstPlanes.y 0 h.srcPlanes.y 0 (uint (src.width * src.height * 4)) })
  | _ => h.unsupported

def convSwSrcNv12t (h : Handle) : Conversion :=
  let width := h.srcFormat.cropWidth
  let height := h.srcFormat.cropHeight
  match h.dstFormat.colorFormat with
  | .ycbcr420P | .ycbcr420PM | .ycbcr420Pn =>
    let uv := cscTiledToLinearUvDeinterleave h.dstPlanes.u h.dstPlanes.v h.srcPlanes.uv width (height / 2)
    (.none, ⟨cscTiledToLinearY h.dstPlanes.y h.srcPlanes.y width height, uv.1, uv.2⟩)
  | .ycbcr420Sp | .ycbcr420SpM | .ycbcr420SpMPriv | .ycbcr420Spn =>
    (.none, { h.dstPlanes with
        y := cscTiledToLinearY h.dstPlanes.y h.srcPlanes.y width height
        u := cscTiledToLinearUv h.dstPlanes.uv h.srcPlanes.uv width (height / 2) })
  | _ => h.unsupported

def bypassPlanar (h : Handle) : Conversion :=
  if h.srcMemType = .mfc then copyMfcData h
  else
    let size := uint (h.srcFormat.width * h.srcFormat.height)
    (.none, {
        y := memcpy h.dstPlanes.y 0 h.srcPlanes.y 0 size
        u := memcpy h.dstPlanes.u 0 h.srcPlanes.u 0 (size >>> 2)
        v := memcpy h.dstPlanes.v 0 h.srcPlanes.v 0 (size >>> 2) })

def bypassSemiPlanar (h : Handle) : Conversion :=
  if h.srcMemType = .mfc then copyMfcData h
  else
    let size := uint (h.srcFormat.width * h.srcFormat.height)
    (.none, { h.dstPlanes with
        y := memcpy h.dstPlanes.y 0 h.srcPlanes.y 0 size
        u := memcpy h.dstPlanes.uv 0 h.srcPlanes.uv 0 (size >>> 1) })

/-- Planar to semi-planar; `first` and `second` are the planes in the order of a chroma pair. -/
def interleavePlanes (h : Handle) (first second : Buffer) : Conversion :=
  let size := uint (h.srcFormat.width * h.srcFormat.height)
  (.none, { h.dstPlanes with
      y := memcpy h.dstPlanes.y 0 h.srcPlanes.y 0 size
      u := cscInterleaveMemcpy h.dstPlanes.uv 0 first 0 second 0 (size >>> 2) })

/-- Semi-planar to planar; `u` and `v` are the positions of the two samples in a chroma pair. The offsets are `int`s,
which are negative from 2^31 on: not in a picture of fewer than 2^32 pixels. -/
def splitPlanes (h : Handle) (u v : Nat) : Conversion :=
  let f := h.srcFormat
  let y := copyRows h.dstPlanes.y f.cropWidth h.srcPlanes.y f.width f.cropWidth f.cropHeight
  let uv := (forLoop (f.cropHeight >>> 1) 1 (fun i dst =>
    (forLoop (f.cropWidth >>> 1) 1 (fun j dst =>
      let srcOffset := uint (i * f.width + j * 2)
      let dstOffset := uint (i * (f.cropWidth >>> 1))
      (Function.update dst.1 (dstOffset + j) (h.srcPlanes.uv (srcOffset + u)),
        Function.update dst.2 (dstOffset + j) (h.srcPlanes.uv (srcOffset + v)))) 0 dst).2)
    0 (h.dstPlanes.u, h.dstPlanes.v)).2
  (.none, ⟨y, uv.1, uv.2⟩)

def convSwSrcYuv420p (h : Handle) : Conversion :=
  match h.dstFormat.colorFormat with
  | .ycbcr420P | .ycbcr420PM | .ycbcr420Pn => bypassPlanar h
  | .ycbcr420Sp | .ycbcr420SpM | .ycbcr420SpMPriv | .ycbcr420Spn =>
    interleavePlanes h h.srcPlanes.u h.srcPlanes.v
  | _ => h.unsupported

def convSwSrcYvu420p (h : Handle) : Conversion :=
  match h.dstFormat.colorFormat with
  | .yv12 | .yv12M => bypassPlanar h
  | .ycbcr420Sp | .ycbcr420SpM | .ycbcr420SpMPriv | .ycbcr420Spn =>
    interleavePlanes h h.srcPlanes.v h.srcPlanes.u
  | _ => h.unsupported

def convSwSrcYuv420sp (h : Handle) : Conversion :=
  match h.dstFormat.colorFormat with
  | .ycbcr420Sp | .ycbcr420SpM | .ycbcr420SpMPriv | .ycbcr420Spn => bypassSemiPlanar h
  | .ycbcr420P | .ycbcr420PM | .ycbcr420Pn => splitPlanes h 0 1
  | .yv12 | .yv12M => splitPlanes h 1 0
  | _ => h.unsupported

def convSwSrcYvu420sp (h : Handle) : Conversion :=
  match h.dstFormat.colorFormat with
  -- `SP_M_PRIV` is a YCbCr format
  | .ycrcb420Sp | .ycrcb420SpM | .ycbcr420SpMPriv => bypassSemiPlanar h
  | .ycbcr420P | .ycbcr420PM | .ycbcr420Pn => splitPlanes h 1 0
  | .yv12 | .yv12M => splitPlanes h 0 1
  | _ => h.unsupported

def convSwSrcYuvP010 (h : Handle) : Conversion :=
  match h.dstFormat.colorFormat with
  | .ycbcrP010 | .ycbcrP010M =>
    if h.srcMemType = .mfc then copyMfcData h
    else
      let size := uint (h.srcFormat.width * 2 * h.srcFormat.height)
      (.none, { h.dstPlanes with
          y := memcpy h.dstPlanes.y 0 h.srcPlanes.y 0 size
          u := memcpy h.dstPlanes.uv 0 h.srcPlanes.uv 0 (size >>> 1) })
  | _ => h.unsupported

/-- `convSwSrcArgb888` and `convSwSrcRgba888` convert from RGB. -/
def convSw (convSwSrcArgb888 convSwSrcRgba888 : Handle → Conversion) (h : Handle) : Conversion :=
  match h.srcFormat.colorFormat with
  | .ycbcr420SpMTiled | .ycbcr420SpnTiled => convSwSrcNv12t h
  | .ycbcr420P | .ycbcr420PM | .ycbcr420Pn => convSwSrcYuv420p h
  | .yv12 | .yv12M => convSwSrcYvu420p h
  | .ycbcr420Sp | .ycbcr420SpM | .ycbcr420SpMPriv | .ycbcr420SpMS10b | .ycbcr420Spn => convSwSrcYuv420sp h
  | .ycbcrP010 | .ycbcrP010M => convSwSrcYuvP010 h
  | .ycrcb420Sp | .ycrcb420SpM => convSwSrcYvu420sp h
  | .bgra8888 => convSwSrcArgb888 h
  | .rgba8888 => convSwSrcRgba888 h
  | .argb8888 => copyMfcData h
  | .other _ => h.unsupported

end ExynosHal.Csc
