import ExynosHal.SwConverter.Tiled64RoundTrip
import ExynosHal.SwConverter.Tiled16Correct

/-! # Chroma planes from tiles of 64x32

`csc_tiled_to_linear_deinterleave_crop` writes to the two planes what the reader of one plane writes to its
even and odd bytes.
-/

namespace ExynosHal.SwConverter
open Library
open BitVec (ofNat)

def deinterleave (dest : Buffer × Buffer) (d : Nat) (src : Buffer) (s srcSize : Nat) : Buffer × Buffer :=
  cscDeinterleaveMemcpy dest.1 d dest.2 d src s srcSize

structure SplitCursor where
  linearOffset : Nat
  tiledOffset : Nat
  tiledOffset1 : Nat
  dest : Buffer × Buffer

def splitFirstGroup (src : Buffer) (left : Nat) (c : SplitCursor) : SplitCursor :=
  let temp3 := ((left + 256) >>> 8) <<< 8 - left
  let temp1 := left &&& 0x3F
  let linear := c.linearOffset
  if temp3 > 192 then
    let dest := deinterleave c.dest linear src (c.tiledOffset + temp1) (64 - temp1)
    let dest := deinterleave dest (linear + (32 - temp1 / 2)) src (c.tiledOffset + 2048) 64
    let dest := deinterleave dest (linear + (64 - temp1 / 2)) src c.tiledOffset1 64
    let dest := deinterleave dest (linear + (96 - temp1 / 2)) src (c.tiledOffset1 + 2048) 64
    { c with linearOffset := uint (linear + 128 - temp1 / 2), dest := dest }
  else if temp3 > 128 then
    let dest := deinterleave c.dest linear src (c.tiledOffset + 2048 + temp1) (64 - temp1)
    let dest := deinterleave dest (linear + (32 - temp1 / 2)) src c.tiledOffset1 64
    let dest := deinterleave dest (linear + (64 - temp1 / 2)) src (c.tiledOffset1 + 2048) 64
    { c with linearOffset := uint (linear + 96 - temp1 / 2), dest := dest }
  else if temp3 > 64 then
    let dest := deinterleave c.dest linear src (c.tiledOffset1 + temp1) (64 - temp1)
    let dest := deinterleave dest (linear + (32 - temp1 / 2)) src (c.tiledOffset1 + 2048) 64
    { c with linearOffset := uint (linear + 64 - temp1 / 2), dest := dest }
  else if temp3 > 0 then
    let dest := deinterleave c.dest linear src (c.tiledOffset1 + 2048 + temp1) (64 - temp1)
    { c with linearOffset := uint (linear + 32 - temp1 / 2), dest := dest }
  else c

def splitGroup (src : Buffer) (temp4 : Nat) (c : SplitCursor) : SplitCursor :=
  let dest := deinterleave c.dest c.linearOffset src c.tiledOffset 64
  let tiledOffset1 := uint (c.tiledOffset1 + temp4 * 2048)
  let dest := deinterleave dest (c.linearOffset + 32) src (c.tiledOffset + 2048) 64
  let dest := deinterleave dest (c.linearOffset + 64) src tiledOffset1 64
  let tiledOffset := uint (c.tiledOffset + temp4 * 2048)
  let dest := deinterleave dest (c.linearOffset + 96) src (tiledOffset1 + 2048) 64
  ⟨uint (c.linearOffset + 128), tiledOffset, tiledOffset1, dest⟩

def splitLastGroup (src : Buffer) (temp2 : Nat) (c : SplitCursor) : Buffer × Buffer :=
  let linear := c.linearOffset
  if temp2 > 192 then
    let dest := deinterleave c.dest linear src c.tiledOffset 64
    let dest := deinterleave dest (linear + 32) src (c.tiledOffset + 2048) 64
    let dest := deinterleave dest (linear + 64) src c.tiledOffset1 64
    deinterleave dest (linear + 96) src (c.tiledOffset1 + 2048) (temp2 - 192)
  else if temp2 > 128 then
    let dest := deinterleave c.dest linear src c.tiledOffset 64
    let dest := deinterleave dest (linear + 32) src (c.tiledOffset + 2048) 64
    deinterleave dest (linear + 64) src c.tiledOffset1 (temp2 - 128)
  else if temp2 > 64 then
    let dest := deinterleave c.dest linear src c.tiledOffset 64
    deinterleave dest (linear + 32) src (c.tiledOffset + 2048) (temp2 - 64)
  else deinterleave c.dest linear src c.tiledOffset temp2

def splitWideRow (src : Buffer) (width height left top right i : Nat) (dest : Buffer × Buffer) : Buffer × Buffer :=
  let (tiledOffset, tiledOffset1, temp4) := groupOffsets width height i (((left >>> 8) <<< 8) >>> 6)
  let temp1 := i &&& 0x1F
  let c := splitFirstGroup src left
    ⟨uint ((width - left - right) * (i - top)) / 2, uint (tiledOffset + 64 * temp1), uint (tiledOffset1 + 64 * temp1),
      dest⟩
  let c := { c with tiledOffset := uint (c.tiledOffset + temp4 * 2048) }
  -- j <= yuv420_width - right - 256
  let (j, c) := forLoop (width - right - 256 + 1) 256 (fun _ c => splitGroup src temp4 c) ((left >>> 8) <<< 8 + 256) c
  let c := { c with tiledOffset1 := uint (c.tiledOffset1 + temp4 * 2048) }
  splitLastGroup src (width - right - j) c

structure SplitTileCursor where
  j : Nat
  linearOffset : Nat
  dest : Buffer × Buffer

def splitTile (src : Buffer) (width height i temp3 : Nat) (c : SplitTileCursor) : SplitTileCursor :=
  if c.j + 64 ≤ temp3 then
    ⟨c.j + 64, uint (c.linearOffset + 32), deinterleave c.dest c.linearOffset src (tile4x2Read width height c.j i) 64⟩
  else c

def splitMiddleRow (src : Buffer) (width height left top right i : Nat) (dest : Buffer × Buffer) : Buffer × Buffer :=
  let temp2 := ((left + 64) >>> 6) <<< 6 - left
  let temp3 := width - right
  let linear := uint ((temp3 - left) * (i - top)) / 2
  let dest := deinterleave dest linear src (uint (tile4x2Read width height left i + (left &&& 0x3))) temp2
  let c := splitTile src width height i temp3 ⟨left + temp2, uint (linear + temp2 / 2), dest⟩
  let c := splitTile src width height i temp3 c
  if c.j < temp3 then deinterleave c.dest c.linearOffset src (tile4x2Read width height c.j i) (temp3 - c.j) else c.dest

def splitNarrowRow (src : Buffer) (width height left top right i : Nat) (dest : Buffer × Buffer) : Buffer × Buffer :=
  let linear := uint ((width - right - left) * (i - top)) / 2
  (forLoop (width - right) 2 (fun j s =>
    let (linear, dest) := s
    (uint (linear + 1), deinterleave dest linear src (uint (tile4x2Read width height j i + (j &&& 0x3))) 2)) left
    (linear, dest)).2.2

def cscTiledToLinearDeinterleaveCrop (dest : Buffer × Buffer) (src : Buffer)
    (width height left top right buttom : Nat) : Buffer × Buffer :=
  let temp1 := width - right - left
  let row :=
    if temp1 ≥ 256 then splitWideRow src width height left top right
    else if temp1 ≥ 64 then splitMiddleRow src width height left top right
    else splitNarrowRow src width height left top right
  (forLoop (height - buttom) 1 row top dest).2

namespace Nv12t128x64

/-- `USE_NV12T_128X64` does not decide here. -/
def cscTiledToLinearUvDeinterleave (useNv12128x64 : Bool) (uDst vDst uvSrc : Buffer) (width height : Nat) :
    Buffer × Buffer :=
  if useNv12128x64 then cscTiledToLinearDeinterleaveCrop (uDst, vDst) uvSrc width height 0 0 0 0
  else SwConverter.cscTiledToLinearUvDeinterleave uDst vDst uvSrc width height

end Nv12t128x64

structure Halves (dest : Buffer) (split : Buffer × Buffer) : Prop where
  even : ∀ n, split.1 n = dest (2 * n)
  odd : ∀ n, split.2 n = dest (2 * n + 1)

section
variable {dest : Buffer} {split : Buffer × Buffer}

theorem Halves.memcpy (h : Halves dest split) (src : Buffer) {d e : Nat} (hd : d = 2 * e) (s : Nat) {len : Nat}
    (hlen : 2 ∣ len) : Halves (SwConverter.memcpy dest d src s len) (deinterleave split e src s len) := by
  rw [SwConverter.memcpy, deinterleave, cscDeinterleaveMemcpy_eq]
  constructor
  · intro n
    dsimp only [copy]
    split_ifs with hsplit hone hone
    · rw [show s + (n - e) * 2 = s + (2 * n - d) by omega]
    · omega
    · omega
    · exact h.even n
  · intro n
    dsimp only [copy]
    split_ifs with hsplit hone hone
    · rw [show s + (n - e) * 2 + 1 = s + (2 * n + 1 - d) by omega]
    · omega
    · omega
    · exact h.odd n

/-- `half` is the offset into the two planes as it is without a wrap. -/
structure SameWide (half : Nat) (c : WideCursor) (c' : SplitCursor) : Prop where
  linear : c.linearOffset = uint (2 * half) ∧ c'.linearOffset = uint half
  tiled : c.tiledOffset = c'.tiledOffset
  tiled1 : c.tiledOffset1 = c'.tiledOffset1
  dest : Halves c.dest c'.dest

variable (src : Buffer) {half : Nat} {c : WideCursor} {c' : SplitCursor}

theorem SameWide.linear_eq (h : SameWide half c c') (hhalf : 2 * half < 2 ^ 32) :
    c.linearOffset = 2 * c'.linearOffset ∧ c'.linearOffset = half := by
  rw [h.linear.1, h.linear.2, uint, uint]
  omega

theorem SameWide.firstGroup (h : SameWide half c c') (hhalf : 2 * half < 2 ^ 32) {left : Nat} (hleft : 2 ∣ left) :
    SameWide (half + (128 - left % 256 / 2)) (readFirstGroup src left c) (splitFirstGroup src left c') := by
  obtain ⟨hlin, hhalf'⟩ := h.linear_eq hhalf
  obtain ⟨linear, tiled, tiled1, dest⟩ := c
  obtain ⟨linear', tiled', tiled1', split⟩ := c'
  obtain ⟨-, rfl, rfl, hdest⟩ := h
  dsimp only at hlin hhalf' hdest
  subst hhalf'
  have hchunk : 2 ∣ 64 - left % 64 := by omega
  simp only [readFirstGroup, splitFirstGroup, groups_round, and_63]
  split_ifs
  · have hone := hdest.memcpy src hlin (tiled + left % 64) hchunk
    have htwo := hone.memcpy src (show linear + 64 - left % 64 = 2 * (linear' + (32 - left % 64 / 2)) by omega)
      (tiled + 2048) (show 2 ∣ 64 by decide)
    have hthree := htwo.memcpy src (show linear + 128 - left % 64 = 2 * (linear' + (64 - left % 64 / 2)) by omega)
      tiled1 (show 2 ∣ 64 by decide)
    exact ⟨⟨congrArg uint (by omega), congrArg uint (by omega)⟩, rfl, rfl, hthree.memcpy src
      (show linear + 192 - left % 64 = 2 * (linear' + (96 - left % 64 / 2)) by omega) (tiled1 + 2048) (by decide)⟩
  · have hone := hdest.memcpy src hlin (tiled + 2048 + left % 64) hchunk
    have htwo := hone.memcpy src (show linear + 64 - left % 64 = 2 * (linear' + (32 - left % 64 / 2)) by omega)
      tiled1 (show 2 ∣ 64 by decide)
    exact ⟨⟨congrArg uint (by omega), congrArg uint (by omega)⟩, rfl, rfl, htwo.memcpy src
      (show linear + 128 - left % 64 = 2 * (linear' + (64 - left % 64 / 2)) by omega) (tiled1 + 2048) (by decide)⟩
  · have hone := hdest.memcpy src hlin (tiled1 + left % 64) hchunk
    exact ⟨⟨congrArg uint (by omega), congrArg uint (by omega)⟩, rfl, rfl, hone.memcpy src
      (show linear + 64 - left % 64 = 2 * (linear' + (32 - left % 64 / 2)) by omega) (tiled1 + 2048) (by decide)⟩
  · exact ⟨⟨congrArg uint (by omega), congrArg uint (by omega)⟩, rfl, rfl,
      hdest.memcpy src hlin (tiled1 + 2048 + left % 64) hchunk⟩
  · omega

theorem SameWide.group (h : SameWide half c c') (hhalf : 2 * half < 2 ^ 32) (temp4 : Nat) :
    SameWide (half + 128) (readGroup src temp4 c) (splitGroup src temp4 c') := by
  obtain ⟨hlin, hhalf'⟩ := h.linear_eq hhalf
  obtain ⟨linear, tiled, tiled1, dest⟩ := c
  obtain ⟨linear', tiled', tiled1', split⟩ := c'
  obtain ⟨-, rfl, rfl, hdest⟩ := h
  dsimp only at hlin hhalf' hdest
  have hone := hdest.memcpy src hlin tiled (show 2 ∣ 64 by decide)
  have htwo := hone.memcpy src (show linear + 64 = 2 * (linear' + 32) by omega) (tiled + 2048) (show 2 ∣ 64 by decide)
  have hthree := htwo.memcpy src (show linear + 128 = 2 * (linear' + 64) by omega) (uint (tiled1 + temp4 * 2048))
    (show 2 ∣ 64 by decide)
  have hfour := hthree.memcpy src (show linear + 192 = 2 * (linear' + 96) by omega)
    (uint (tiled1 + temp4 * 2048) + 2048) (show 2 ∣ 64 by decide)
  exact ⟨⟨congrArg uint (by dsimp only; omega), congrArg uint (by dsimp only; omega)⟩, rfl, rfl, hfour⟩

theorem SameWide.lastGroup (h : SameWide half c c') {temp2 : Nat} (hhalf : 0 < temp2 → 2 * half < 2 ^ 32)
    (htemp : 2 ∣ temp2) : Halves (readLastGroup src temp2 c) (splitLastGroup src temp2 c') := by
  rcases Nat.eq_zero_or_pos temp2 with rfl | hpos
  · simpa [readLastGroup, splitLastGroup, SwConverter.memcpy, deinterleave, cscDeinterleaveMemcpy_eq,
      copy_zero] using h.dest
  obtain ⟨hlin, -⟩ := h.linear_eq (hhalf hpos)
  obtain ⟨linear, tiled, tiled1, dest⟩ := c
  obtain ⟨linear', tiled', tiled1', split⟩ := c'
  obtain ⟨-, rfl, rfl, hdest⟩ := h
  dsimp only at hlin hdest
  have hone := hdest.memcpy src hlin tiled (show 2 ∣ 64 by decide)
  have htwo := hone.memcpy src (show linear + 64 = 2 * (linear' + 32) by omega) (tiled + 2048) (show 2 ∣ 64 by decide)
  have hthree := htwo.memcpy src (show linear + 128 = 2 * (linear' + 64) by omega) tiled1 (show 2 ∣ 64 by decide)
  simp only [readLastGroup, splitLastGroup]
  split_ifs
  · exact hthree.memcpy src (by omega) (tiled1 + 2048) (by omega)
  · exact htwo.memcpy src (by omega) tiled1 (by omega)
  · exact hone.memcpy src (by omega) (tiled + 2048) (by omega)
  · exact hdest.memcpy src hlin tiled htemp

structure SameTile (temp3 : Nat) (c : TileCursor) (c' : SplitTileCursor) : Prop where
  column : c.j = c'.j ∧ 2 ∣ c'.j
  linear : c.linearOffset = 2 * c'.linearOffset ∧ c.linearOffset + (temp3 - c.j) < 2 ^ 32
  dest : Halves c.dest c'.dest

theorem SameTile.tile {temp3 : Nat} {c : TileCursor} {c' : SplitTileCursor} (h : SameTile temp3 c c')
    (width height i : Nat) :
    SameTile temp3 (readTile src width height i temp3 c) (splitTile src width height i temp3 c') := by
  obtain ⟨⟨hj, heven⟩, ⟨hlin, hrow⟩, hdest⟩ := h
  rw [hj] at hrow
  rw [readTile, splitTile, hj]
  split_ifs
  · exact ⟨⟨rfl, by dsimp only; omega⟩, ⟨by dsimp only [uint]; omega, by dsimp only [uint]; omega⟩,
      hdest.memcpy src hlin _ (by decide)⟩
  · exact ⟨⟨hj, heven⟩, ⟨hlin, by rwa [hj]⟩, hdest⟩

variable {left right w width y : Nat} (hleft : 2 ∣ left) (hright : 2 ∣ left + w) (h : Halves dest split)
include hleft hright h

omit hleft h in
theorem even_row (hleft : 2 ∣ left) (y : Nat) : w * y = 2 * (w * y / 2) :=
  (Nat.mul_div_cancel' (Dvd.dvd.mul_right (by omega) _)).symm

theorem Halves.wideRow (hwidth : left + w + right = width) (hw : 256 ≤ w) (hfits : RowFits w left y)
    (height top : Nat) : Halves (readWideRow src width height left top right (top + y) dest)
      (splitWideRow src width height left top right (top + y) split) := by
  have hwide : width - left - right = w := by omega
  have hbound : width - right = left + w := by omega
  have heven := even_row hright hleft y
  have hstart : (left >>> 8) <<< 8 + 256 = left / 256 * 256 + 256 := by
    rw [Nat.shiftRight_eq_div_pow, Nat.shiftLeft_eq]
  rw [RowFits, Nat.mul_comm] at hfits
  simp only [readWideRow, splitWideRow, hwide, hbound, Nat.add_sub_cancel_left, hstart]
  generalize groupOffsets width height (top + y) (((left >>> 8) <<< 8) >>> 6) = offsets
  obtain ⟨tiledOffset, tiledOffset1, temp4⟩ := offsets
  generalize w * y = row at heven hfits
  have hfst := @SameWide.firstGroup src (row / 2)
    ⟨uint row, uint (tiledOffset + 64 * ((top + y) &&& 0x1F)), uint (tiledOffset1 + 64 * ((top + y) &&& 0x1F)), dest⟩
    ⟨uint row / 2, uint (tiledOffset + 64 * ((top + y) &&& 0x1F)), uint (tiledOffset1 + 64 * ((top + y) &&& 0x1F)),
      split⟩
    ⟨⟨congrArg uint heven, by dsimp only [uint]; omega⟩, rfl, rfl, h⟩ (by omega) left hleft
  dsimp only
  generalize readFirstGroup src left _ = c at hfst ⊢
  generalize splitFirstGroup src left _ = c' at hfst ⊢
  obtain ⟨hexit, hsame, hj, hcol, hle⟩ := @forLoop_related _ (left + w - 256 + 1) 256
    (fun _ c => readGroup src temp4 c) _ (fun _ c => splitGroup src temp4 c)
    (fun j c c' => SameWide (row / 2 + (j - left) / 2) c c' ∧ 256 ∣ j ∧ left ≤ j ∧ j ≤ left + w)
    (fun j c c' hlt hc => by
      have hgroup := hc.1.group src (by omega) temp4
      rw [show row / 2 + (j - left) / 2 + 128 = row / 2 + (j + 256 - left) / 2 by omega] at hgroup
      exact ⟨hgroup, by omega, by omega, by omega⟩)
    (left / 256 * 256 + 256) { c with tiledOffset := uint (c.tiledOffset + temp4 * 2048) }
    { c' with tiledOffset := uint (c'.tiledOffset + temp4 * 2048) }
    ⟨⟨⟨hfst.linear.1.trans (congrArg uint (by omega)), hfst.linear.2.trans (congrArg uint (by omega))⟩,
      congrArg (fun n => uint (n + temp4 * 2048)) hfst.tiled, hfst.tiled1, hfst.dest⟩, by omega, by omega, by omega⟩
  generalize forLoop (left + w - 256 + 1) 256 (fun _ c => readGroup src temp4 c) _ _ = exit at *
  generalize forLoop (left + w - 256 + 1) 256 (fun _ c => splitGroup src temp4 c) _ _ = exit' at *
  obtain ⟨j, d⟩ := exit
  obtain ⟨j', d'⟩ := exit'
  obtain rfl : j = j' := hexit
  have hlast : SameWide (row / 2 + (j - left) / 2) { d with tiledOffset1 := uint (d.tiledOffset1 + temp4 * 2048) }
      { d' with tiledOffset1 := uint (d'.tiledOffset1 + temp4 * 2048) } :=
    ⟨hsame.linear, hsame.tiled, congrArg (fun n => uint (n + temp4 * 2048)) hsame.tiled1, hsame.dest⟩
  dsimp only at hj hcol hle ⊢
  exact hlast.lastGroup src (fun _ => by omega) (by omega)

theorem Halves.middleRow (hwidth : left + w + right = width) (hlow : 64 ≤ w) (hrow : w * y + w < 2 ^ 32)
    (height top : Nat) : Halves (readMiddleRow src width height left top right (top + y) dest)
      (splitMiddleRow src width height left top right (top + y) split) := by
  have htemp3 : width - right = left + w := by omega
  have hround : ((left + 64) >>> 6) <<< 6 - left = 64 - left % 64 := by
    rw [Nat.shiftRight_eq_div_pow, Nat.shiftLeft_eq]
    omega
  have hlin := even_row hright hleft y
  simp only [readMiddleRow, splitMiddleRow, htemp3, hround, Nat.add_sub_cancel_left]
  generalize w * y = row at hlin hrow
  have hstart : uint row = row := Nat.mod_eq_of_lt (by omega)
  rw [hstart]
  have hfst := h.memcpy src hlin (uint (tile4x2Read width height left (top + y) + (left &&& 0x3)))
    (show 2 ∣ 64 - left % 64 by omega)
  generalize SwConverter.memcpy dest row src _ _ = one at hfst ⊢
  generalize deinterleave split (row / 2) src _ _ = two at hfst ⊢
  have htile : SameTile (left + w) ⟨left + (64 - left % 64), uint (row + (64 - left % 64)), one⟩
      ⟨left + (64 - left % 64), uint (row / 2 + (64 - left % 64) / 2), two⟩ :=
    ⟨⟨rfl, by dsimp only; omega⟩, ⟨by dsimp only [uint]; omega, by dsimp only [uint]; omega⟩, hfst⟩
  obtain ⟨⟨hj, heven⟩, ⟨hlin', -⟩, hdest⟩ := (htile.tile src width height (top + y)).tile src width height (top + y)
  rw [hj]
  split_ifs
  · exact hdest.memcpy src hlin' _ (by omega)
  · exact hdest

theorem Halves.narrowRow (hwidth : left + w + right = width) (hrow : w * y + w < 2 ^ 32) (height top : Nat) :
    Halves (readNarrowRow src width height left top right (top + y) dest)
      (splitNarrowRow src width height left top right (top + y) split) := by
  have htemp3 : width - right = left + w := by omega
  have hlin := even_row hright hleft y
  simp only [readNarrowRow, splitNarrowRow, htemp3, Nat.add_sub_cancel_left]
  generalize w * y = row at hlin hrow
  have hstart : uint row = row := Nat.mod_eq_of_lt (by omega)
  rw [hstart]
  refine (@forLoop_related (Nat × Buffer) (left + w) 2
    (fun j s => (uint (s.1 + 2),
      SwConverter.memcpy s.2 s.1 src (uint (tile4x2Read width height j (top + y) + (j &&& 0x3))) 2))
    (Nat × Buffer × Buffer)
    (fun j s => (uint (s.1 + 1),
      deinterleave s.2 s.1 src (uint (tile4x2Read width height j (top + y) + (j &&& 0x3))) 2))
    (fun j s t => s.1 = 2 * t.1 ∧ s.1 + (left + w - j) < 2 ^ 32 ∧ 2 ∣ j ∧ Halves s.2 t.2) ?_ left _ _
    ⟨hlin, by dsimp only; omega, hleft, h⟩).2.2.2.2
  rintro j ⟨linear, dest⟩ ⟨linear', split⟩ hlt ⟨hlin, hrow, heven, hdest⟩
  dsimp only [uint] at hlin hrow ⊢
  exact ⟨by omega, by omega, by omega, hdest.memcpy src hlin _ (by decide)⟩

theorem Halves.deinterleaveCrop {height top rows buttom : Nat} (hwidth : left + w + right = width)
    (hheight : top + rows + buttom = height) (hmax : height ≤ 16384) (hfits : 256 ≤ w → RowFits w left (rows - 1)) :
    Halves (cscTiledToLinearCrop dest src width height left top right buttom)
      (cscTiledToLinearDeinterleaveCrop split src width height left top right buttom) := by
  rw [cscTiledToLinearCrop, cscTiledToLinearDeinterleaveCrop]
  refine (@forLoop_related _ (height - buttom) 1 _ _ _ (fun i dest split => top ≤ i ∧ Halves dest split) ?_ top dest
    split ⟨le_rfl, h⟩).2.2
  rintro i dest split hlt ⟨hi, hdest⟩
  obtain ⟨y, rfl⟩ := Nat.exists_eq_add_of_le hi
  refine ⟨by omega, ?_⟩
  have hsmall : w < 256 → w * y + w < 2 ^ 32 := by
    intro hw
    have hle := Nat.mul_le_mul hw.le (show y ≤ 16384 by omega)
    omega
  split_ifs
  · exact hdest.wideRow src hleft hright hwidth (by omega) ((hfits (by omega)).mono (by omega)) height top
  · exact hdest.middleRow src hleft hright hwidth (by omega) (hsmall (by omega)) height top
  · exact hdest.narrowRow src hleft hright hwidth (hsmall (by omega)) height top

end

def merged (split : Buffer × Buffer) : Buffer := fun n => if n % 2 = 0 then split.1 (n / 2) else split.2 (n / 2)

theorem halves_merged (split : Buffer × Buffer) : Halves (merged split) split := by
  constructor
  · intro n
    rw [merged, if_pos (by omega), Nat.mul_div_cancel_left n two_pos]
  · intro n
    rw [merged, if_neg (by omega), show (2 * n + 1) / 2 = n by omega]

variable {width height : Nat}

theorem Halves.isPlane {sample : Nat → Nat → Byte} {init dest : Buffer}
    {initSplit split : Buffer × Buffer} (hinit : Halves init initSplit) (h : Halves dest split) (heven : 2 ∣ width)
    (hplane : IsPlane width height sample init dest) :
    IsPlane (width / 2) height (fun x y => sample (2 * x) y) initSplit.1 split.1 ∧
      IsPlane (width / 2) height (fun x y => sample (2 * x + 1) y) initSplit.2 split.2 := by
  obtain ⟨half, rfl⟩ := heven
  rw [Nat.mul_div_cancel_left half two_pos]
  have hidx : ∀ x y, 2 * (y * half + x) = y * (2 * half) + 2 * x := by
    intro x y
    ring
  have houtside : ∀ n, half * height ≤ n → 2 * half * height ≤ 2 * n := by
    intro n hn
    rw [Nat.mul_assoc]
    exact Nat.mul_le_mul_left 2 hn
  constructor
  · constructor
    · intro x hx y hy
      rw [h.even, hidx, hplane.sample_eq (2 * x) (by omega) y hy]
    · intro n hn
      rw [h.even, hinit.even, hplane.outside _ (houtside n hn)]
  · constructor
    · intro x hx y hy
      rw [h.odd, hidx, Nat.add_assoc, hplane.sample_eq (2 * x + 1) (by omega) y hy]
    · intro n hn
      rw [h.odd, hinit.odd, hplane.outside _ ((houtside n hn).trans (Nat.le_succ _))]

theorem cscTiledToLinearDeinterleaveCrop_isPlane (uDst vDst src : Buffer) (heven : 2 ∣ width)
    (hheight : height ≤ 16384) (hfits : TiledFits width height) :
    IsPlane (width / 2) height (fun x y => src (pixelAddr width height (2 * x, y))) uDst
        (cscTiledToLinearDeinterleaveCrop (uDst, vDst) src width height 0 0 0 0).1 ∧
      IsPlane (width / 2) height (fun x y => src (pixelAddr width height (2 * x + 1, y))) vDst
        (cscTiledToLinearDeinterleaveCrop (uDst, vDst) src width height 0 0 0 0).2 := by
  have hsplit := halves_merged (uDst, vDst)
  rcases Nat.eq_zero_or_pos height with rfl | hpos
  · constructor
    · refine ⟨fun x _ y hy => absurd hy (Nat.not_lt_zero y), fun n _ => ?_⟩
      rw [cscTiledToLinearDeinterleaveCrop, forLoop, if_neg (by omega)]
    · refine ⟨fun x _ y hy => absurd hy (Nat.not_lt_zero y), fun n _ => ?_⟩
      rw [cscTiledToLinearDeinterleaveCrop, forLoop, if_neg (by omega)]
  have hwidth := hfits.width_le hpos
  have hcrop := Halves.deinterleaveCrop (w := width) src (dvd_zero 2) (by rwa [Nat.zero_add]) hsplit
    (by rw [Nat.zero_add, Nat.add_zero]) (show 0 + height + 0 = height by rw [Nat.zero_add, Nat.add_zero]) hheight
    (fun hw => rowFits_whole hw (by omega) hfits.plane_le)
  exact hsplit.isPlane hcrop heven
    (cscTiledToLinearCrop_isPlane (merged (uDst, vDst)) src (fun _ => by omega) heven hheight hfits.plane_le)

theorem interleaved_even (uSrc vSrc : Buffer) (width x y : Nat) :
    interleaved uSrc vSrc width (2 * x, y) = uSrc (y * (width / 2) + x) := by
  rw [interleaved, if_pos (Nat.mul_mod_right 2 x), Nat.mul_div_cancel_left x two_pos]

theorem interleaved_odd (uSrc vSrc : Buffer) (width x y : Nat) :
    interleaved uSrc vSrc width (2 * x + 1, y) = vSrc (y * (width / 2) + x) := by
  rw [interleaved, if_neg (by dsimp only; omega), show (2 * x + 1, y).1 / 2 = x by dsimp only; omega]

theorem IsPlane.congr {sample sample' : Nat → Nat → Byte} {init dst : Buffer}
    (h : IsPlane width height sample init dst) (heq : ∀ x < width, ∀ y < height, sample x y = sample' x y) :
    IsPlane width height sample' init dst :=
  ⟨fun x hx y hy => (h.sample_eq x hx y hy).trans (heq x hx y hy), h.outside⟩

namespace Nv12t128x64

structure Restored (uSrc vSrc : Buffer) (width height : Nat) (init out : Buffer × Buffer) : Prop where
  u : IsPlane (width / 2) height (fun x y => uSrc (y * (width / 2) + x)) init.1 out.1
  v : IsPlane (width / 2) height (fun x y => vSrc (y * (width / 2) + x)) init.2 out.2

section
variable {width height : Nat} (heven : 2 ∣ width) (hfits : TiledFits width height) (init uSrc vSrc : Buffer)
include heven hfits

theorem tiled_cscLinearToTiledUv : Tiled (interleaved uSrc vSrc width) init width height (block 0 width 0 height)
      (cscLinearToTiledUv init uSrc vSrc width height) :=
  (puts_interleave uSrc vSrc init hfits).linearToTiled hfits Nat.one_pos (one_dvd 32) (one_dvd height) heven

theorem stored_cscLinearToTiledUv {x y : Nat} (hx : x < width) (hy : y < height) :
    cscLinearToTiledUv init uSrc vSrc width height (pixelAddr width height (x, y)) =
      interleaved uSrc vSrc width (x, y) :=
  (tiled_cscLinearToTiledUv heven hfits init uSrc vSrc).1.value (x, y)
    (mem_block.mpr ⟨⟨Nat.zero_le x, by omega⟩, Nat.zero_le y, by omega⟩)

theorem restored_of_addr {read : Nat → Nat → Nat} {initSplit out : Buffer × Buffer}
    (hread : ∀ x < width, ∀ y < height, read x y = pixelAddr width height (x, y))
    (hu : IsPlane (width / 2) height (fun x y => cscLinearToTiledUv init uSrc vSrc width height (read (2 * x) y))
      initSplit.1 out.1)
    (hv : IsPlane (width / 2) height (fun x y => cscLinearToTiledUv init uSrc vSrc width height (read (2 * x + 1) y))
      initSplit.2 out.2) : Restored uSrc vSrc width height initSplit out := by
  constructor
  · refine hu.congr fun x hx y hy => ?_
    rw [hread (2 * x) (by omega) y hy, stored_cscLinearToTiledUv heven hfits init uSrc vSrc (by omega) hy,
      interleaved_even]
  · refine hv.congr fun x hx y hy => ?_
    rw [hread (2 * x + 1) (by omega) y hy, stored_cscLinearToTiledUv heven hfits init uSrc vSrc (by omega) hy,
      interleaved_odd]

theorem cscLinearToTiledUv_byte {n : Nat} (hpixels : ∀ x < width, ∀ y < height, pixelAddr width height (x, y) = n →
      interleaved uSrc vSrc width (x, y) = init n) :
    cscLinearToTiledUv init uSrc vSrc width height n = init n := by
  have htiled := @tiled_cscLinearToTiledUv width height heven hfits init uSrc vSrc
  rcases Classical.em (∃ q ∈ block 0 width 0 height, pixelAddr width height q = n) with ⟨⟨x, y⟩, hq, hn⟩ | hnone
  · obtain ⟨hx, hy⟩ := htiled.2 _ hq
    have hval := htiled.1.value _ hq
    rw [hn] at hval
    exact hval.trans (hpixels x hx y hy hn)
  · exact htiled.1.frame n fun q hq hn => hnone ⟨q, hq, hn⟩

theorem not_restored_of_byte (uDst vDst : Buffer) {x y : Nat} (n : Nat) (hx : x < width / 2) (hy : y < height)
    (hn : tileOffset 3 width (x * 2) y = n) (hval : uSrc (y * (width / 2) + x) = init n + 1)
    (hpixels : ∀ x < width, ∀ y < height, pixelAddr width height (x, y) = n →
      interleaved uSrc vSrc width (x, y) = init n) :
    ¬Restored uSrc vSrc width height (uDst, vDst)
      (SwConverter.cscTiledToLinearUvDeinterleave uDst vDst (cscLinearToTiledUv init uSrc vSrc width height)
        width height) := by
  have hne : ∀ b : Byte, b ≠ b + 1 := by decide
  intro h
  have hread := (SwConverter.cscTiledToLinearUvDeinterleave_isPlane uDst vDst
    (cscLinearToTiledUv init uSrc vSrc width height) height heven).1.sample_eq x hx y hy
  rw [h.u.sample_eq x hx y hy, hval, tile2DToLinear_chroma, hn,
    cscLinearToTiledUv_byte heven hfits init uSrc vSrc hpixels] at hread
  exact hne (init n) hread.symm

theorem not_restored_rows (uDst vDst : Buffer) (hwidth : width ≠ 0) (hheight : 1 < height) :
    ∃ uSrc vSrc, ¬Restored uSrc vSrc width height (uDst, vDst)
      (SwConverter.cscTiledToLinearUvDeinterleave uDst vDst (cscLinearToTiledUv init uSrc vSrc width height)
        width height) := by
  refine ⟨fun n => if n < width / 2 then init 16 else init 16 + 1, fun _ => init 16,
    not_restored_of_byte heven hfits init _ _ uDst vDst 16 (show 0 < width / 2 by omega) hheight ?_ ?_ ?_⟩
  · rw [tileOffset]
    omega
  · exact if_neg (by omega)
  · intro x hx y hy hn
    have hrow := @pixelAddr_inj width height hfits (x, y) (16, 0) hx (by simp only [pixelAddr] at hn; omega) hy
      (by omega)
      (hn.trans (by simp [pixelAddr, tileNumber]))
    obtain rfl : y = 0 := congrArg Prod.snd hrow
    rw [interleaved]
    split_ifs
    · rfl
    · omega
    · rfl

omit hfits in
theorem not_restored_columns (hfits : TiledFits width 1) (uDst vDst : Buffer) (hwidth : 16 < width) :
    ∃ uSrc vSrc, ¬Restored uSrc vSrc width 1 (uDst, vDst)
      (SwConverter.cscTiledToLinearUvDeinterleave uDst vDst (cscLinearToTiledUv init uSrc vSrc width 1) width 1) := by
  refine ⟨fun _ => init 128 + 1, fun _ => init 128,
    not_restored_of_byte heven hfits init _ _ uDst vDst 128 (show 8 < width / 2 by omega) Nat.one_pos ?_ rfl ?_⟩
  · rw [tileOffset]
    omega
  · intro x _ y hy hn
    simp only [pixelAddr] at hn
    omega

theorem restored_small (uDst vDst : Buffer) (hsmall : width = 0 ∨ height = 0 ∨ width ≤ 16 ∧ height ≤ 1) :
    Restored uSrc vSrc width height (uDst, vDst)
      (SwConverter.cscTiledToLinearUvDeinterleave uDst vDst (cscLinearToTiledUv init uSrc vSrc width height)
        width height) := by
  obtain ⟨hu, hv⟩ := SwConverter.cscTiledToLinearUvDeinterleave_isPlane uDst vDst
    (cscLinearToTiledUv init uSrc vSrc width height) height heven
  have hread : ∀ x < width, ∀ y < height, tile2DToLinear width height x y true = pixelAddr width height (x, y) := by
    intro x hx y hy
    obtain rfl : y = 0 := by omega
    rw [tile2DToLinear_chroma, tileOffset, pixelAddr, show (x, 0).1 / 64 = 0 by dsimp only; omega]
    simp [tileNumber]
    omega
  simp only [Nat.mul_comm _ 2] at hu hv
  exact restored_of_addr heven hfits init uSrc vSrc hread hu hv

end

theorem cscTiledToLinearUvDeinterleave_false (uDst vDst uvSrc : Buffer) (width height : Nat) :
    cscTiledToLinearUvDeinterleave false uDst vDst uvSrc width height =
      SwConverter.cscTiledToLinearUvDeinterleave uDst vDst uvSrc width height :=
  if_neg Bool.false_ne_true

/-- The chroma planes of a tiled plane of at most 2^32 bytes come back, whatever they hold, exactly if the reader of
64x32 tiles is compiled or the picture fits in one row of a 16x8 tile. -/
theorem uvDeinterleave_restores_iff (useNv12128x64 : Bool) {width height : Nat} (heven : 2 ∣ width)
    (hheight : height ≤ 16384) (hfits : TiledFits width height) (init uDst vDst : Buffer) :
    (∀ uSrc vSrc, Restored uSrc vSrc width height (uDst, vDst)
      (cscTiledToLinearUvDeinterleave useNv12128x64 uDst vDst (cscLinearToTiledUv init uSrc vSrc width height)
        width height)) ↔
      useNv12128x64 ∨ width = 0 ∨ height = 0 ∨ width ≤ 16 ∧ height ≤ 1 := by
  cases useNv12128x64 with
  | true =>
    refine iff_of_true (fun uSrc vSrc => ?_) (.inl rfl)
    obtain ⟨hu, hv⟩ := cscTiledToLinearDeinterleaveCrop_isPlane uDst vDst
      (cscLinearToTiledUv init uSrc vSrc width height) heven hheight hfits
    exact restored_of_addr heven hfits init uSrc vSrc (fun _ _ _ _ => rfl) hu hv
  | false =>
    simp only [cscTiledToLinearUvDeinterleave_false]
    constructor
    · intro h
      by_contra hlarge
      rcases Nat.lt_or_ge 1 height with hrows | hrow
      · obtain ⟨uSrc, vSrc, hnot⟩ := not_restored_rows heven hfits init uDst vDst (by omega) hrows
        exact hnot (h uSrc vSrc)
      · obtain rfl : height = 1 := by omega
        obtain ⟨uSrc, vSrc, hnot⟩ := not_restored_columns heven init hfits uDst vDst (by omega)
        exact hnot (h uSrc vSrc)
    · intro hsmall uSrc vSrc
      exact restored_small heven hfits init uSrc vSrc uDst vDst (hsmall.resolve_left Bool.false_ne_true)

theorem uvDeinterleave_restores_wide : Restored (ofNat 8) (ofNat 8) 320 120 (fun _ => 0, fun _ => 0)
      (cscTiledToLinearUvDeinterleave true (fun _ => 0) (fun _ => 0)
        (cscLinearToTiledUv (fun _ => 0) (ofNat 8) (ofNat 8) 320 120) 320 120) :=
  (uvDeinterleave_restores_iff true (by decide) (by decide) (by decide) _ _ _).mpr (.inl rfl) (ofNat 8) (ofNat 8)

theorem uvDeinterleave_lost : ¬∀ uSrc vSrc, Restored uSrc vSrc 320 120 (fun _ => 0, fun _ => 0)
      (cscTiledToLinearUvDeinterleave false (fun _ => 0) (fun _ => 0)
        (cscLinearToTiledUv (fun _ => 0) uSrc vSrc 320 120) 320 120) := by
  intro h
  obtain ⟨uSrc, vSrc, hnot⟩ :=
    @not_restored_rows 320 120 (by decide) (by decide) (fun _ => 0) (fun _ => 0) (fun _ => 0) (by decide)
    (by decide)
  have hrestored := h uSrc vSrc
  rw [cscTiledToLinearUvDeinterleave_false] at hrestored
  exact hnot hrestored

end Nv12t128x64

end ExynosHal.SwConverter
