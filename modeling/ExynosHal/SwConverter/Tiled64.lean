import ExynosHal.SwConverter.Plane

/-! # NV12 in tiles of 64x32

The C code of the build with `USE_NV12T_128X64` and without `NEON_SUPPORT`. Tiles are numbered in Z-order over
pairs of tile rows. An offset is an `unsigned int` and wraps where it is stored; what is added to it in a pointer is
not.
-/

namespace ExynosHal.SwConverter
open Library

/-- The sizes and positions are `int`s; the address wraps as an offset that it is stored in. -/
def tile4x2Read (xSize ySize xPos yPos : Nat) : Nat :=
  let pixelXM1 := xSize - 1
  let pixelYM1 := ySize - 1
  let roundupX := (pixelXM1 >>> 7) + 1
  let xAddr := xPos >>> 2
  let bankAddr :=
    if (xAddr >>> 5) &&& 0x1 = (yPos >>> 5) &&& 0x1 then (xAddr >>> 4) &&& 0x1
    else 0x2 ||| ((xAddr >>> 4) &&& 0x1)
  let linearAddr0 := ((yPos &&& 0x1f) <<< 4) ||| (xAddr &&& 0xf)
  let linearAddr1 :=
    if ySize ≤ yPos + 32 ∧ yPos < ySize ∧ (pixelYM1 >>> 5) &&& 0x1 = 0 ∧ (yPos >>> 5) &&& 0x1 = 0 then
      ((yPos >>> 6) &&& 0xff) * roundupX + ((xAddr >>> 6) &&& 0x3f)
    else ((yPos >>> 6) &&& 0xff) * roundupX + ((xAddr >>> 5) &&& 0x7f)
  uint ((linearAddr1 <<< 13) ||| (bankAddr <<< 11) ||| (linearAddr0 <<< 2))

/-- The offsets of the first and third tile of a group of four, and the number of tiles from
one group to the next. `x` is the tile column of the first tile, a multiple of four. -/
def groupOffsets (width height i x : Nat) : Nat × Nat × Nat :=
  let y := i >>> 5
  let temp1 := (uint (width + 127) >>> 7) <<< 7
  if y &&& 0x1 ≠ 0 then
    -- odd formula: 2+x+(x>>2)<<2+x_block_num*(y-1)
    let tiledOffset := uint (((y - 1) * (temp1 >>> 6) + x + 2 + ((x >>> 2) <<< 2)) <<< 11)
    (tiledOffset, uint (tiledOffset + 2048 * 2), 8)
  else
    let temp2 := ((height + 31) >>> 5) <<< 5
    if i + 32 < temp2 then
      -- even1 formula: x+((x+2)>>2)<<2+x_block_num*y
      let tiledOffset := uint ((x + (((x + 2) >>> 2) <<< 2) + y * (temp1 >>> 6)) <<< 11)
      (tiledOffset, uint (tiledOffset + 2048 * 6), 8)
    else
      -- even2 formula: x+x_block_num*y
      let tiledOffset := uint ((y * (temp1 >>> 6) + x) <<< 11)
      (tiledOffset, uint (tiledOffset + 2048 * 2), 4)

structure WideCursor where
  linearOffset : Nat
  tiledOffset : Nat
  tiledOffset1 : Nat
  dest : Buffer

def readFirstGroup (src : Buffer) (left : Nat) (c : WideCursor) : WideCursor :=
  let temp3 := ((left + 256) >>> 8) <<< 8 - left
  let temp1 := left &&& 0x3F
  let linear := c.linearOffset
  if temp3 > 192 then
    let dest := memcpy c.dest linear src (c.tiledOffset + temp1) (64 - temp1)
    let dest := memcpy dest (linear + 64 - temp1) src (c.tiledOffset + 2048) 64
    let dest := memcpy dest (linear + 128 - temp1) src c.tiledOffset1 64
    let dest := memcpy dest (linear + 192 - temp1) src (c.tiledOffset1 + 2048) 64
    { c with linearOffset := uint (linear + 256 - temp1), dest := dest }
  else if temp3 > 128 then
    let dest := memcpy c.dest linear src (c.tiledOffset + 2048 + temp1) (64 - temp1)
    let dest := memcpy dest (linear + 64 - temp1) src c.tiledOffset1 64
    let dest := memcpy dest (linear + 128 - temp1) src (c.tiledOffset1 + 2048) 64
    { c with linearOffset := uint (linear + 192 - temp1), dest := dest }
  else if temp3 > 64 then
    let dest := memcpy c.dest linear src (c.tiledOffset1 + temp1) (64 - temp1)
    let dest := memcpy dest (linear + 64 - temp1) src (c.tiledOffset1 + 2048) 64
    { c with linearOffset := uint (linear + 128 - temp1), dest := dest }
  else if temp3 > 0 then
    let dest := memcpy c.dest linear src (c.tiledOffset1 + 2048 + temp1) (64 - temp1)
    { c with linearOffset := uint (linear + 64 - temp1), dest := dest }
  else c

def readGroup (src : Buffer) (temp4 : Nat) (c : WideCursor) : WideCursor :=
  let dest := memcpy c.dest c.linearOffset src c.tiledOffset 64
  let tiledOffset1 := uint (c.tiledOffset1 + temp4 * 2048)
  let dest := memcpy dest (c.linearOffset + 64) src (c.tiledOffset + 2048) 64
  let dest := memcpy dest (c.linearOffset + 128) src tiledOffset1 64
  let tiledOffset := uint (c.tiledOffset + temp4 * 2048)
  let dest := memcpy dest (c.linearOffset + 192) src (tiledOffset1 + 2048) 64
  ⟨uint (c.linearOffset + 256), tiledOffset, tiledOffset1, dest⟩

/-- The last `temp2 < 256` bytes of a row. -/
def readLastGroup (src : Buffer) (temp2 : Nat) (c : WideCursor) : Buffer :=
  let linear := c.linearOffset
  if temp2 > 192 then
    let dest := memcpy c.dest linear src c.tiledOffset 64
    let dest := memcpy dest (linear + 64) src (c.tiledOffset + 2048) 64
    let dest := memcpy dest (linear + 128) src c.tiledOffset1 64
    memcpy dest (linear + 192) src (c.tiledOffset1 + 2048) (temp2 - 192)
  else if temp2 > 128 then
    let dest := memcpy c.dest linear src c.tiledOffset 64
    let dest := memcpy dest (linear + 64) src (c.tiledOffset + 2048) 64
    memcpy dest (linear + 128) src c.tiledOffset1 (temp2 - 128)
  else if temp2 > 64 then
    let dest := memcpy c.dest linear src c.tiledOffset 64
    memcpy dest (linear + 64) src (c.tiledOffset + 2048) (temp2 - 64)
  else memcpy c.dest linear src c.tiledOffset temp2

def readWideRow (src : Buffer) (width height left top right i : Nat) (dest : Buffer) : Buffer :=
  let (tiledOffset, tiledOffset1, temp4) := groupOffsets width height i (((left >>> 8) <<< 8) >>> 6)
  let temp1 := i &&& 0x1F
  let c := readFirstGroup src left
    ⟨uint ((width - left - right) * (i - top)), uint (tiledOffset + 64 * temp1), uint (tiledOffset1 + 64 * temp1), dest⟩
  let c := { c with tiledOffset := uint (c.tiledOffset + temp4 * 2048) }
  -- j <= yuv420_width - right - 256
  let (j, c) := forLoop (width - right - 256 + 1) 256 (fun _ c => readGroup src temp4 c) ((left >>> 8) <<< 8 + 256) c
  let c := { c with tiledOffset1 := uint (c.tiledOffset1 + temp4 * 2048) }
  readLastGroup src (width - right - j) c

structure TileCursor where
  j : Nat
  linearOffset : Nat
  dest : Buffer

/-- `if ((j+64) <= temp3)`: one more whole tile. -/
def readTile (src : Buffer) (width height i temp3 : Nat) (c : TileCursor) : TileCursor :=
  if c.j + 64 ≤ temp3 then
    ⟨c.j + 64, uint (c.linearOffset + 64), memcpy c.dest c.linearOffset src (tile4x2Read width height c.j i) 64⟩
  else c

def readMiddleRow (src : Buffer) (width height left top right i : Nat) (dest : Buffer) : Buffer :=
  let temp3 := width - right
  let temp1 := temp3 - left
  let temp2 := ((left + 64) >>> 6) <<< 6 - left
  let linear := uint (temp1 * (i - top))
  let dest := memcpy dest linear src (uint (tile4x2Read width height left i + (left &&& 0x3))) temp2
  let c := readTile src width height i temp3 ⟨left + temp2, uint (linear + temp2), dest⟩
  let c := readTile src width height i temp3 c
  if c.j < temp3 then memcpy c.dest c.linearOffset src (tile4x2Read width height c.j i) (temp3 - c.j) else c.dest

def readNarrowRow (src : Buffer) (width height left top right i : Nat) (dest : Buffer) : Buffer :=
  let linear := uint ((width - right - left) * (i - top))
  (forLoop (width - right) 2 (fun j s =>
    let (linear, dest) := s
    (uint (linear + 2), memcpy dest linear src (uint (tile4x2Read width height j i + (j &&& 0x3))) 2)) left
      (linear, dest)).2.2

def cscTiledToLinearCrop (dest src : Buffer) (width height left top right buttom : Nat) : Buffer :=
  let temp1 := width - right - left
  let row :=
    if temp1 ≥ 256 then readWideRow src width height left top right
    else if temp1 ≥ 64 then readMiddleRow src width height left top right
    else readNarrowRow src width height left top right
  (forLoop (height - buttom) 1 row top dest).2

def tileStart (width height i j : Nat) : Nat :=
  let tiledXIndex := j >>> 6
  let tiledYIndex := i >>> 5
  let temp1 := (uint (width + 127) >>> 7) <<< 7
  if tiledYIndex &&& 0x1 ≠ 0 then
    -- odd formula: 2+x+(x>>2)<<2+x_block_num*(y-1)
    uint (((tiledYIndex - 1) * (temp1 >>> 6) + tiledXIndex + 2 + ((tiledXIndex >>> 2) <<< 2)) <<< 11)
  else
    let temp2 := ((height + 31) >>> 5) <<< 5
    if i + 32 < temp2 then
      -- even1 formula: x+((x+2)>>2)<<2+x_block_num*y
      uint ((tiledXIndex + (((tiledXIndex + 2) >>> 2) <<< 2) + tiledYIndex * (temp1 >>> 6)) <<< 11)
    else
      -- even2 formula: x+x_block_num*y
      uint ((tiledYIndex * (temp1 >>> 6) + tiledXIndex) <<< 11)

/-- The loops of the two writers. `put d x y len` copies `len` bytes from column `x` of row `y`
to offset `d`; the rows outside full tiles are taken `rowsAtOnce` at a time. -/
def linearToTiled (put : Nat → Nat → Nat → Nat → Buffer → Buffer) (rowsAtOnce width height : Nat)
    (dest : Buffer) : Buffer :=
  let alignedYSize := (height >>> 5) <<< 5
  let alignedXSize := (width >>> 6) <<< 6
  let dest := (forLoop alignedYSize 32 (fun i dest =>
    (forLoop alignedXSize 64 (fun j dest =>
      -- 32 copies, written out in the source
      (forLoop 32 1 (fun k dest => put (tileStart width height i j + 64 * k) j (i + k) 64 dest) 0 dest).2)
      0 dest).2) 0 dest).2
  let dest := (forLoop height rowsAtOnce (fun i dest =>
    (forLoop alignedXSize 64 (fun j dest =>
      (forLoop rowsAtOnce 1 (fun k dest =>
        put (tileStart width height i j + 64 * ((i &&& 0x1F) + k)) j (i + k) 64 dest) 0 dest).2)
      0 dest).2) alignedYSize dest).2
  (forLoop height rowsAtOnce (fun i dest =>
    (forLoop width 2 (fun j dest =>
      (forLoop rowsAtOnce 1 (fun k dest =>
        put (tileStart width height i j + (j &&& 0x3F) + 64 * ((i &&& 0x1F) + k)) j (i + k) 2 dest) 0 dest).2)
      alignedXSize dest).2) 0 dest).2

def cscLinearToTiledCrop (dest src : Buffer) (width height left top right buttom : Nat) : Buffer :=
  linearToTiled (fun d x y len dest => memcpy dest d src (left + x + uint (width * (y + top))) len) 2
    (width - left - right) (height - top - buttom) dest

def cscLinearToTiledInterleaveCrop (dest uSrc vSrc : Buffer) (width height left top right buttom : Nat) : Buffer :=
  linearToTiled (fun d x y len dest =>
      cscInterleaveMemcpy dest d uSrc (left / 2 + x / 2 + uint (width / 2 * (y + top))) vSrc
        (left / 2 + x / 2 + uint (width / 2 * (y + top))) (len / 2)) 1
    (width - left - right) (height - top - buttom) dest

namespace Nv12t128x64

def cscTiledToLinearY (yDst ySrc : Buffer) (width height : Nat) : Buffer :=
  cscTiledToLinearCrop yDst ySrc width height 0 0 0 0

def cscTiledToLinearUv (uvDst uvSrc : Buffer) (width height : Nat) : Buffer :=
  cscTiledToLinearCrop uvDst uvSrc width height 0 0 0 0

def cscLinearToTiledY (yDst ySrc : Buffer) (width height : Nat) : Buffer :=
  cscLinearToTiledCrop yDst ySrc width height 0 0 0 0

def cscLinearToTiledUv (uvDst uSrc vSrc : Buffer) (width height : Nat) : Buffer :=
  cscLinearToTiledInterleaveCrop uvDst uSrc vSrc width height 0 0 0 0

end Nv12t128x64

end ExynosHal.SwConverter
