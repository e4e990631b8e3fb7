import ExynosHal.Library.Arith
import ExynosHal.SwConverter.Plane

/-! # RGB to YUV 4:2:0

The six conversions in C. The channels are 32 bits wide and unsigned, so the chroma sums wrap below zero, and
the destination indices are unsigned ints.
-/

namespace ExynosHal.SwConverter
open Library
open Function (update)

structure Rgb where
  r : U32
  g : U32
  b : U32

namespace Rgb

def y (p : Rgb) : U32 := ((66#32 * p.r + 129#32 * p.g + 25#32 * p.b + 128#32) >>> 8) + 16#32

def u (p : Rgb) : U32 := ((-38#32 * p.r - 74#32 * p.g + 112#32 * p.b + 128#32) >>> 8) + 128#32

def v (p : Rgb) : U32 := ((112#32 * p.r - 94#32 * p.g - 18#32 * p.b + 128#32) >>> 8) + 128#32

end Rgb

def increment (index : Nat) : Nat := (index + 1) % 4294967296

structure Planar where
  y : Buffer
  u : Buffer
  v : Buffer
  yIndex : Nat
  uIndex : Nat
  vIndex : Nat

structure SemiPlanar where
  y : Buffer
  uv : Buffer
  yIndex : Nat
  uvIndex : Nat

def Planar.pixel (p : Rgb) (j i : Nat) (s : Planar) : Planar :=
  let s := { s with y := update s.y s.yIndex (p.y.setWidth 8), yIndex := increment s.yIndex }
  if j % 2 = 0 ∧ i % 2 = 0 then
    { s with
      u := update s.u s.uIndex (p.u.setWidth 8)
      v := update s.v s.vIndex (p.v.setWidth 8)
      uIndex := increment s.uIndex
      vIndex := increment s.vIndex }
  else s

def SemiPlanar.pixel (p : Rgb) (j i : Nat) (s : SemiPlanar) : SemiPlanar :=
  let s := { s with y := update s.y s.yIndex (p.y.setWidth 8), yIndex := increment s.yIndex }
  if j % 2 = 0 ∧ i % 2 = 0 then
    let s := { s with uv := update s.uv s.uvIndex (p.u.setWidth 8), uvIndex := increment s.uvIndex }
    { s with uv := update s.uv s.uvIndex (p.v.setWidth 8), uvIndex := increment s.uvIndex }
  else s

def overPixels {σ : Type} (width height : Nat) (pixel : Nat → Nat → σ → σ) (s : σ) : σ :=
  (forLoop height 1 (fun j s => (forLoop width 1 (fun i s => pixel j i s) 0 s).2) 0 s).2

def toPlanar (pixel : Nat → Nat → Rgb) (width height : Nat) (y u v : Buffer) : Planar :=
  overPixels width height (fun j i => Planar.pixel (pixel j i) j i) ⟨y, u, v, 0, 0, 0⟩

def toSemiPlanar (pixel : Nat → Nat → Rgb) (width height : Nat) (y uv : Buffer) : SemiPlanar :=
  overPixels width height (fun j i => SemiPlanar.pixel (pixel j i) j i) ⟨y, uv, 0, 0⟩

/-- Pixels of `pSrc[j * width + i]` with an index of type `int`, which is below zero once it wraps. -/
def loadShort (src : Int → U16) (width j i : Nat) : U32 :=
  (src (IntType.i32.convert (j * width + i))).setWidth 32

/-- The same with an index of type `unsigned int`. -/
def loadWord (src : Nat → U32) (width j i : Nat) : U32 := src (IntType.u32.convert (j * width + i)).toNat

def cscRGB565ToYUV420P (y u v : Buffer) (src : Int → U16) (width height : Nat) : Planar := toPlanar (fun j i =>
    let tmp := loadShort src width j i
    { r := (tmp &&& 0x0000F800#32) >>> 8
      g := (tmp &&& 0x000007E0#32) >>> 3
      b := (tmp &&& 0x0000001F#32) <<< 3 }) width height y u v

def cscRGB565ToYUV420SP (y uv : Buffer) (src : Int → U16) (width height : Nat) : SemiPlanar :=
  toSemiPlanar (fun j i =>
    let tmp := loadShort src width j i
    { r := ((tmp &&& 0x0000F800#32) >>> 11) * 8#32
      g := ((tmp &&& 0x000007E0#32) >>> 5) * 4#32
      b := (tmp &&& 0x0000001F#32) * 8#32 }) width height y uv

def splitBGRA (tmp : U32) : Rgb where
  r := (tmp &&& 0x00FF0000#32) >>> 16
  g := (tmp &&& 0x0000FF00#32) >>> 8
  b := tmp &&& 0x000000FF#32

def splitRGBA (tmp : U32) : Rgb where
  b := (tmp &&& 0x00FF0000#32) >>> 16
  g := (tmp &&& 0x0000FF00#32) >>> 8
  r := tmp &&& 0x000000FF#32

def cscBGRA8888ToYUV420P (y u v : Buffer) (src : Nat → U32) (width height : Nat) : Planar :=
  toPlanar (fun j i => splitBGRA (loadWord src width j i)) width height y u v

def cscRGBA8888ToYUV420P (y u v : Buffer) (src : Nat → U32) (width height : Nat) : Planar :=
  toPlanar (fun j i => splitRGBA (loadWord src width j i)) width height y u v

def cscBGRA8888ToYUV420SP (y uv : Buffer) (src : Nat → U32) (width height : Nat) : SemiPlanar :=
  toSemiPlanar (fun j i => splitBGRA (loadWord src width j i)) width height y uv

def cscRGBA8888ToYUV420SP (y uv : Buffer) (src : Nat → U32) (width height : Nat) : SemiPlanar :=
  toSemiPlanar (fun j i => splitRGBA (loadWord src width j i)) width height y uv

end ExynosHal.SwConverter
