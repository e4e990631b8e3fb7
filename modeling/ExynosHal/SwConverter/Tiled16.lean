import ExynosHal.SwConverter.Plane

/-! # NV12 in tiles of 16x16

The C code of the default build: neither `NEON_SUPPORT` nor `USE_NV12T_128X64` is
defined.
-/

namespace ExynosHal.SwConverter
open Library

/-- `crFlag` is false for the Y plane and true for the CbCr plane. -/
def tile2DToLinear (width _height xpos ypos : Nat) (crFlag : Bool) : Nat :=
  let width := (width + 15) / 16 * 16
  let tileNumX := width / 16
  if crFlag = false then
    let tileX := xpos / 16
    let tileY := ypos / 16
    let tileAddr := tileY * tileNumX + tileX
    let offset := (ypos &&& 15) * 16 + (xpos &&& 15)
    tileAddr <<< 8 ||| offset
  else
    let tileX := xpos / 16
    let tileY := ypos / 8
    let tileAddr := tileY * tileNumX + tileX
    let offset := (ypos &&& 7) * 16 + (xpos &&& 15)
    tileAddr <<< 7 ||| offset

def readWord (memory : Buffer) (address : Nat) : U32 :=
  memory (address + 3) ++ memory (address + 2) ++ memory (address + 1) ++ memory address

def byteOf (data : U32) (shift : Nat) : Byte := (data >>> shift &&& 0xff#32).setWidth 8

def actualWidth (width x : Nat) : Nat :=
  let outOfWidth := width < x + 16
  if outOfWidth then (if width % 4 ≠ 0 then width % 16 / 4 + 1 else width % 16 / 4) else 4

structure Planes where
  y : Buffer
  cb : Buffer
  cr : Buffer

/-- The loops of both halves of `Tile2D_To_YUV420`. The loop over `k` has the further condition
`y + k < height`. -/
def eachWord {σ : Type} (tileRows width height : Nat) (word : Nat → Nat → Nat → Nat → σ → σ) (s : σ) : σ :=
  (forLoop height tileRows (fun y s =>
    (forLoop width 16 (fun x s =>
      (forLoop (min tileRows (height - y)) 1 (fun k s =>
        (forLoop (actualWidth width x) 1 (fun l s => word x y k l s) 0 s).2) 0 s).2) 0 s).2) 0 s).2

/-- The pixels of one luma word. The loop has the further condition `x + l * 4 + j < width`. -/
def lumaWord (memory : Buffer) (yAddr width height x y k l : Nat) (plane : Buffer) : Buffer :=
  let baseAddr := yAddr + tile2DToLinear width height x y false
  let data := readWord memory (baseAddr + 16 * k + l * 4)
  (forLoop (min 4 (width - (x + l * 4))) 1 (fun j plane =>
    Function.update plane ((y + k) * width + x + l * 4 + j) (byteOf data (8 * j))) 0 plane).2

/-- The pixels of one chroma word. The loop has the further condition `x / 2 + l * 2 + j < width / 2`;
`height` is that of the chroma plane. -/
def chromaWord (memory : Buffer) (cAddr width height x y k l : Nat) (planes : Buffer × Buffer) : Buffer × Buffer :=
  let baseAddr := cAddr + tile2DToLinear width height x y true
  let data := readWord memory (baseAddr + 16 * k + l * 4)
  (forLoop (min 2 (width / 2 - (x / 2 + l * 2))) 1 (fun j planes =>
    (Function.update planes.1 ((y + k) * width / 2 + x / 2 + l * 2 + j) (byteOf data (8 * 2 * j)),
      Function.update planes.2 ((y + k) * width / 2 + x / 2 + l * 2 + j) (byteOf data (8 * 2 * j + 8)))) 0 planes).2

def tile2DToYUV420 (memory : Buffer) (yAddr cAddr width height : Nat) (planes : Planes) : Planes :=
  let y := eachWord 16 width height (lumaWord memory yAddr width height) planes.y
  let (cb, cr) := eachWord 8 width (height / 2) (chromaWord memory cAddr width (height / 2)) (planes.cb, planes.cr)
  ⟨y, cb, cr⟩

structure Cursor (σ : Type) where
  srcOffset : Nat
  dstOffset : Nat
  dst : σ

/-- What the three functions do not share. `copyRow` copies a number of source bytes at a source
offset to a destination offset; `edgeRows` copies the rows of the lowest, partial tiles. -/
structure PlaneCopy (σ : Type) where
  rowBits : Nat
  dstOffset : Nat → Nat → Nat
  pitch : Nat
  copyRow : Nat → Nat → Nat → σ → σ
  edgeRows : Nat → (Cursor σ → Cursor σ) → Cursor σ → Cursor σ

namespace PlaneCopy

variable {σ : Type} (p : PlaneCopy σ)

def nextRow (len : Nat) (c : Cursor σ) : Cursor σ where
  srcOffset := c.srcOffset + 16
  dstOffset := c.dstOffset + p.pitch
  dst := p.copyRow c.dstOffset c.srcOffset len c.dst

def fullRows (row : Cursor σ → Cursor σ) (c : Cursor σ) : Cursor σ :=
  (forLoop (2 ^ p.rowBits / 2) 1 (fun _ c => row (row c)) 0 c).2

def tile (width : Nat) (rows : (Cursor σ → Cursor σ) → Cursor σ → Cursor σ) (i j len : Nat) (dst : σ) : σ :=
  let tiledWidth := (width + 15) >>> 4 <<< 4
  (rows (p.nextRow len) ⟨tiledWidth * i + j <<< p.rowBits, p.dstOffset i j, dst⟩).dst

def tileRow (width : Nat) (rows : (Cursor σ → Cursor σ) → Cursor σ → Cursor σ) (i : Nat) (dst : σ) : σ :=
  let alignedWidth := width >>> 4 <<< 4
  let (j, dst) := forLoop alignedWidth 16 (fun j dst => p.tile width rows i j 16 dst) 0 dst
  if alignedWidth ≠ width then p.tile width rows i j (width - j) dst else dst

def tiledToLinear (width height : Nat) (dst : σ) : σ :=
  let alignedHeight := height >>> p.rowBits <<< p.rowBits
  let (i, dst) := forLoop alignedHeight (2 ^ p.rowBits) (fun i dst => p.tileRow width p.fullRows i dst) 0 dst
  if alignedHeight ≠ height then p.tileRow width (p.edgeRows (height - alignedHeight)) i dst else dst

end PlaneCopy

def cscTiledToLinearY (yDst ySrc : Buffer) (width height : Nat) : Buffer := PlaneCopy.tiledToLinear {
      rowBits := 4
      dstOffset := fun i j => width * i + j
      pitch := width
      copyRow := fun d s len dst => memcpy dst d ySrc s len
      edgeRows := fun count row c => (forLoop count 2 (fun _ c => row (row c)) 0 c).2 }
    width height yDst

def cscTiledToLinearUv (uvDst uvSrc : Buffer) (width height : Nat) : Buffer := PlaneCopy.tiledToLinear {
      rowBits := 3
      dstOffset := fun i j => width * i + j
      pitch := width
      copyRow := fun d s len dst => memcpy dst d uvSrc s len
      edgeRows := fun count row c => (forLoop count 1 (fun _ c => row c) 0 c).2 }
    width height uvDst

def cscTiledToLinearUvDeinterleave (uDst vDst uvSrc : Buffer) (width height : Nat) : Buffer × Buffer :=
  PlaneCopy.tiledToLinear {
      rowBits := 3
      dstOffset := fun i j => (width >>> 1) * i + j >>> 1
      pitch := width >>> 1
      copyRow := fun d s len dst => cscDeinterleaveMemcpy dst.1 d dst.2 d uvSrc s len
      edgeRows := fun count row c => (forLoop count 1 (fun _ c => row c) 0 c).2 }
    width height (uDst, vDst)

end ExynosHal.SwConverter
