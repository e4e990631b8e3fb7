import ExynosHal.SwConverter.Tiled64Address

/-! # Reading a crop from tiles of 64x32

Every row is put together from chunks of tile rows.
-/

namespace ExynosHal.SwConverter
open Library

variable (x : Nat)

theorem and_63 : x &&& 0x3F = x % 64 := Nat.and_two_pow_sub_one_eq_mod x 6

theorem and_31 : x &&& 0x1F = x % 32 := Nat.and_two_pow_sub_one_eq_mod x 5

theorem and_3 : x &&& 0x3 = x % 4 := Nat.and_two_pow_sub_one_eq_mod x 2

section
variable {src init dest : Buffer} {addr : Nat → Nat → Nat} {w left top y : Nat}

def CropDone (src init : Buffer) (addr : Nat → Nat → Nat) (w left top y x : Nat) (dest : Buffer) : Prop :=
  Filled (rowMajor w) (fun q => src (addr (left + q.1) (top + q.2))) (block 0 w 0 y ∪ rowPart 0 (x - left) y) init dest

variable {x d s : Nat}

theorem CropDone.memcpy (h : CropDone src init addr w left top y x dest) (len : Nat) (hx : left ≤ x)
    (hlen : x + len ≤ left + w) (hd : 0 < len → d + left = y * w + x)
    (hs : ∀ t < len, addr (x + t) (top + y) = s + t) :
    CropDone src init addr w left top y (x + len) (SwConverter.memcpy dest d src s len) := by
  have hin : ∀ q ∈ block 0 w 0 y ∪ rowPart 0 (x - left) y, q.1 < w := by
    rintro q (⟨⟨-, hq⟩, -⟩ | ⟨⟨-, hq⟩, -⟩)
    · omega
    · omega
  rcases Nat.eq_zero_or_pos len with rfl | hpos
  · rwa [SwConverter.memcpy, copy_zero]
  have hd' := hd hpos
  have hparts := rowPart_union 0 (x - left) len y
  rw [Nat.zero_add, ← Nat.sub_add_comm hx] at hparts
  rw [CropDone, ← hparts, ← Set.union_assoc]
  refine filled_copyRowPart h hin (by omega) (show d = y * w + (x - left) by omega) ?_
  intro t ht
  rw [← Nat.add_assoc, Nat.add_sub_cancel' hx, hs t ht]

theorem cropDone_start (h : Filled (rowMajor w) (fun q => src (addr (left + q.1) (top + q.2))) (block 0 w 0 y) init
    dest) : CropDone src init addr w left top y left dest := by
  rwa [CropDone, Nat.sub_self, rowPart_none, Set.union_empty]

theorem CropDone.finish (h : CropDone src init addr w left top y (left + w) dest) :
    Filled (rowMajor w) (fun q => src (addr (left + q.1) (top + q.2))) (block 0 w 0 (y + 1)) init dest := by
  have hparts := block_union_rowPart 0 w 0 y
  rw [Nat.zero_add] at hparts
  rwa [CropDone, Nat.add_sub_cancel_left, hparts] at h

variable {width height : Nat}

def tileRowAddr (width height i x : Nat) : Nat :=
  2048 * (tileNumber width height x (i / 32) % 2 ^ 21) + 64 * (i % 32)

theorem uint_tileRowAddr (width height i x : Nat) :
    uint (2048 * (tileNumber width height x (i / 32) % 2 ^ 21) + 64 * (i % 32)) = tileRowAddr width height i x :=
  Nat.mod_eq_of_lt (by omega)

theorem pixelAddr_row_add (width height i : Nat) {x X t : Nat} (hx : x / 64 = X) (ht : x % 64 + t < 64) :
    pixelAddr width height (x + t, i) = tileRowAddr width height i X + x % 64 + t := by
  rw [pixelAddr, tileRowAddr, show (x + t) / 64 =
    X by omega, show (x + t) % 64 = x % 64 + t by omega, Nat.add_assoc _ (x % 64)]

theorem tileNumber_even (width height : Nat) {x : Nat} (y : Nat) (hx : 2 ∣ x) : 2 ∣ tileNumber width height x y := by
  have hrows : 2 ∣ y / 2 * (2 * xBlockNum width) := Dvd.dvd.mul_left (Nat.dvd_mul_right 2 _) _
  rw [tileNumber_eq, tileInPair]
  split_ifs <;> omega

theorem tileRowAddr_group (width height i : Nat) (hx : 4 ∣ x) :
    tileRowAddr width height i (x + 1) = tileRowAddr width height i x + 2048 ∧
      tileRowAddr width height i (x + 3) = tileRowAddr width height i (x + 2) + 2048 ∧
      tileRowAddr width height i (x + 4) = uint (tileRowAddr width height i x + groupStep height (i / 32) * 2048) ∧
      tileRowAddr width height i (x + 6) =
        uint (tileRowAddr width height i (x + 2) + groupStep height (i / 32) * 2048) := by
  obtain ⟨h1, h3, h4, h6⟩ := tileNumber_group width height (i / 32) hx
  have heven := tileNumber_even width height (i / 32) (show 2 ∣ x by omega)
  have heven' := tileNumber_even width height (i / 32) (show 2 ∣ x + 2 by omega)
  simp only [tileRowAddr, uint, h1, h3, h4, h6]
  omega

def WideDone (src init : Buffer) (width height w left top y x : Nat) (dest : Buffer) : Prop :=
  CropDone src init (fun x y => pixelAddr width height (x, y)) w left top y x dest

theorem WideDone.tile {x len : Nat} (h : WideDone src init width height w left top y (x * 64) dest)
    (hx : left ≤ x * 64) (hlen : len ≤ 64) (hw : x * 64 + len ≤ left + w) (hd : 0 < len → d + left = y * w + x * 64)
    (hs : s = tileRowAddr width height (top + y) x) :
    WideDone src init width height w left top y (x * 64 + len) (SwConverter.memcpy dest d src s len) := by
  refine CropDone.memcpy h len hx hw hd ?_
  intro t ht
  rw [pixelAddr_row_add width height (top + y) (Nat.mul_div_cancel x (by decide)) (by omega), Nat.mul_mod_left,
    Nat.add_zero, hs]

theorem WideDone.fullTile (h : WideDone src init width height w left top y (x * 64) dest) (hx : left ≤ x * 64)
    (next : Nat) (hnext : next = x + 1) (hw : next * 64 ≤ left + w) (hd : d + left = y * w + x * 64)
    (hs : s = tileRowAddr width height (top + y) x) :
    WideDone src init width height w left top y (next * 64) (SwConverter.memcpy dest d src s 64) := by
  have hend := h.tile hx le_rfl (show x * 64 + 64 ≤ left + w by omega) (fun _ => hd) hs
  rwa [show x * 64 + 64 = next * 64 by omega] at hend

theorem WideDone.edgeTile (h : WideDone src init width height w left top y left dest) (hw : 64 ≤ w)
    (hx : left / 64 = x) (hd : d = y * w) (hs : s = tileRowAddr width height (top + y) x + left % 64) :
    WideDone src init width height w left top y ((x + 1) * 64) (SwConverter.memcpy dest d src s (64 - left % 64)) := by
  have hedge := @CropDone.memcpy src init dest (fun x y => pixelAddr width height (x, y)) w left top y left d s h
    (64 - left % 64) le_rfl (by omega) (fun _ => by omega) ?_
  · rwa [show left + (64 - left % 64) = (x + 1) * 64 by omega] at hedge
  · intro t ht
    rw [hs]
    exact pixelAddr_row_add width height (top + y) hx (by omega)

/-- Where the last group of row `y` starts, the offset has not wrapped. -/
def RowFits (w left y : Nat) : Prop := y * w + ((left + w - 1) / 256 * 256 - left) < 2 ^ 32

structure AtGroup (width height w left top y x : Nat) (c : WideCursor) : Prop where
  linear : c.linearOffset = uint (y * w + (x * 64 - left))
  tiled : c.tiledOffset = tileRowAddr width height (top + y) x
  tiled1 : c.tiledOffset1 = tileRowAddr width height (top + y) (x + 2)

theorem groups_round (left : Nat) : ((left + 256) >>> 8) <<< 8 - left = 256 - left % 256 := by
  rw [Nat.shiftRight_eq_div_pow, Nat.shiftLeft_eq]
  omega

theorem readFirstGroup_linear (src : Buffer) (left : Nat) (c : WideCursor) :
    (readFirstGroup src left c).linearOffset = uint (c.linearOffset + (256 - left % 256)) := by
  simp only [readFirstGroup, groups_round, and_63]
  split_ifs
  iterate 4 exact congrArg uint (by omega)
  · omega

theorem readFirstGroup_offsets (src : Buffer) (left : Nat) (c : WideCursor) :
    (readFirstGroup src left c).tiledOffset = c.tiledOffset ∧
      (readFirstGroup src left c).tiledOffset1 = c.tiledOffset1 := by
  simp only [readFirstGroup]
  split_ifs <;> exact ⟨rfl, rfl⟩

variable {c : WideCursor}

theorem AtGroup.linear_eq (h : AtGroup width height w left top y x c) (hfits : RowFits w left y) (hx : 4 ∣ x)
    (hleft : left ≤ x * 64) (hw : x * 64 < left + w) : c.linearOffset + left = y * w + x * 64 := by
  rw [RowFits] at hfits
  rw [h.linear, uint, Nat.mod_eq_of_lt (by omega)]
  omega

theorem WideDone.firstGroup (h : WideDone src init width height w left top y left c.dest)
    (hw : 256 ≤ w) (hx : left / 256 * 4 = x) (hlin : c.linearOffset = y * w)
    (htiled : c.tiledOffset = tileRowAddr width height (top + y) x)
    (htiled1 : c.tiledOffset1 = tileRowAddr width height (top + y) (x + 2)) :
    WideDone src init width height w left top y ((x + 4) * 64) (readFirstGroup src left c).dest := by
  have hfour : 4 ∣ x := by omega
  obtain ⟨h1, h3, -, -⟩ := tileRowAddr_group width height (top + y) hfour
  simp only [readFirstGroup, groups_round, and_63]
  split_ifs with hfst hsnd hthird hfourth
  · have hedge := h.edgeTile (by omega) (show left / 64 = x by omega) hlin
      (show c.tiledOffset + left % 64 = _ by rw [htiled])
    have htwo := hedge.fullTile (by omega) (x + 2) rfl (by omega) (show c.linearOffset + 64 - left % 64 + left =
      _ by omega)
      (show c.tiledOffset + 2048 = _ by omega)
    have hthree := htwo.fullTile (by omega) (x + 3) rfl (by omega)
      (show c.linearOffset + 128 - left % 64 + left = _ by omega) htiled1
    exact hthree.fullTile (by omega) (x + 4) rfl (by omega) (show c.linearOffset + 192 - left % 64 + left = _ by omega)
      (show c.tiledOffset1 + 2048 = _ by omega)
  · have hedge := h.edgeTile (by omega) (show left / 64 = x + 1 by omega) hlin
      (show c.tiledOffset + 2048 + left % 64 = _ by rw [htiled, h1])
    have hthree := hedge.fullTile (by omega) (x + 3) rfl (by omega)
      (show c.linearOffset + 64 - left % 64 + left = _ by omega) htiled1
    exact hthree.fullTile (by omega) (x + 4) rfl (by omega) (show c.linearOffset + 128 - left % 64 + left = _ by omega)
      (show c.tiledOffset1 + 2048 = _ by omega)
  · have hedge := h.edgeTile (by omega) (show left / 64 = x + 2 by omega) hlin
      (show c.tiledOffset1 + left % 64 = _ by rw [htiled1])
    exact hedge.fullTile (by omega) (x + 4) rfl (by omega) (show c.linearOffset + 64 - left % 64 + left = _ by omega)
      (show c.tiledOffset1 + 2048 = tileRowAddr width height (top + y) (x + 3) by omega)
  · exact h.edgeTile (by omega) (show left / 64 = x + 3 by omega) hlin
      (show c.tiledOffset1 + 2048 + left % 64 = _ by rw [htiled1, h3])
  · omega

theorem WideDone.fourTiles (hfits : RowFits w left y) (hx : 4 ∣ x) (hc : AtGroup width height w left top y x c)
    (h : WideDone src init width height w left top y (x * 64) c.dest) (hleft : left ≤ x * 64)
    (hw : (x + 4) * 64 ≤ left + w) :
    WideDone src init width height w left top y ((x + 4) * 64)
      (SwConverter.memcpy (SwConverter.memcpy (SwConverter.memcpy (SwConverter.memcpy c.dest c.linearOffset src
        c.tiledOffset 64) (c.linearOffset + 64) src (c.tiledOffset + 2048) 64)
        (c.linearOffset + 128) src c.tiledOffset1 64) (c.linearOffset + 192) src (c.tiledOffset1 + 2048) 64) := by
  have hlin := hc.linear_eq hfits hx hleft (by omega)
  obtain ⟨-, htiled, htiled1⟩ := hc
  obtain ⟨h1, h3, -, -⟩ := tileRowAddr_group width height (top + y) hx
  have hfst := h.fullTile hleft (x + 1) rfl (by omega) hlin htiled
  have hsnd := hfst.fullTile (by omega) (x + 2) rfl (by omega) (show c.linearOffset + 64 + left = _ by omega)
    (show c.tiledOffset + 2048 = _ by omega)
  have hthird := hsnd.fullTile (by omega) (x + 3) rfl (by omega) (show c.linearOffset + 128 + left = _ by omega)
    htiled1
  exact hthird.fullTile (by omega) (x + 4) rfl (by omega) (show c.linearOffset + 192 + left = _ by omega)
    (show c.tiledOffset1 + 2048 = _ by omega)

theorem WideDone.lastGroup {x temp2 : Nat} (hfits : RowFits w left y) (hx : 4 ∣ x)
    (hc : AtGroup width height w left top y x c)
    (h : WideDone src init width height w left top y (x * 64) c.dest) (hleft : left ≤ x * 64) (htemp : temp2 ≤ 256)
    (hw : x * 64 + temp2 = left + w) :
    WideDone src init width height w left top y (left + w) (readLastGroup src temp2 c) := by
  have hlin : 0 < temp2 → c.linearOffset + left = y * w + x * 64 := fun _ =>
    hc.linear_eq hfits hx hleft (by omega)
  obtain ⟨-, htiled, htiled1⟩ := hc
  obtain ⟨h1, h3, -, -⟩ := tileRowAddr_group width height (top + y) hx
  have hlast : ∀ k len dest s, temp2 = k * 64 + len → len ≤ 64 →
      WideDone src init width height w left top y ((x + k) * 64) dest →
      s = tileRowAddr width height (top + y) (x + k) →
      WideDone src init width height w left top y (left + w)
        (SwConverter.memcpy dest (c.linearOffset + k * 64) src s len) := by
    intro k len dest s hsplit hlen hdone hs
    have hend := hdone.tile (d := c.linearOffset + k * 64) (by omega) hlen (by omega) (fun _ => by omega) hs
    rwa [show (x + k) * 64 + len = left + w by omega] at hend
  simp only [readLastGroup]
  split_ifs with hfour hthree htwo
  · have hfst := h.fullTile hleft (x + 1) rfl (by omega) (hlin (by omega)) htiled
    have hsnd := hfst.fullTile (by omega) (x + 2) rfl (by omega) (show c.linearOffset + 64 + left = _ by omega)
      (show c.tiledOffset + 2048 = _ by omega)
    have hthird := hsnd.fullTile (by omega) (x + 3) rfl (by omega) (show c.linearOffset + 128 + left = _ by omega)
      htiled1
    exact hlast 3 _ _ _ (by omega) (by omega) hthird (by omega)
  · have hfst := h.fullTile hleft (x + 1) rfl (by omega) (hlin (by omega)) htiled
    have hsnd := hfst.fullTile (by omega) (x + 2) rfl (by omega) (show c.linearOffset + 64 + left = _ by omega)
      (show c.tiledOffset + 2048 = _ by omega)
    exact hlast 2 _ _ _ (by omega) (by omega) hsnd htiled1
  · have hfst := h.fullTile hleft (x + 1) rfl (by omega) (hlin (by omega)) htiled
    exact hlast 1 _ _ _ (by omega) (by omega) hfst (by omega)
  · exact hlast 0 _ _ _ (by omega) (by omega) h htiled

structure BeforeGroup (src init : Buffer) (width height w left top y j : Nat) (c : WideCursor) : Prop where
  column : 256 ∣ j ∧ left ≤ j ∧ j ≤ left + w
  atGroup : AtGroup width height w left top y (j / 64)
    { c with tiledOffset1 := uint (c.tiledOffset1 + groupStep height ((top + y) / 32) * 2048) }
  done : WideDone src init width height w left top y j c.dest

theorem BeforeGroup.next {j : Nat} (hfits : RowFits w left y) (h : BeforeGroup src init width height w left top y j c)
    (hw : j + 256 ≤ left + w) : BeforeGroup src init width height w left top y (j + 256)
      (readGroup src (groupStep height ((top + y) / 32)) c) := by
  obtain ⟨⟨hj, hleft, -⟩, hc, hdone⟩ := h
  have hx : 4 ∣ j / 64 := by omega
  obtain ⟨-, -, h4, h6⟩ := tileRowAddr_group width height (top + y) hx
  have hcol : j = j / 64 * 64 := by omega
  rw [hcol] at hdone
  have hfour := WideDone.fourTiles hfits hx hc hdone (by omega) (by omega)
  obtain ⟨hlin, htiled, htiled1⟩ := hc
  dsimp only at hlin htiled htiled1
  have hnext : (j + 256) / 64 = j / 64 + 4 := by omega
  refine ⟨⟨by omega, by omega, hw⟩, ?_, ?_⟩
  · rw [hnext]
    refine ⟨?_, ?_, ?_⟩
    · dsimp only [readGroup]
      rw [hlin, uint, uint, uint]
      omega
    · dsimp only [readGroup]
      rw [h4, htiled]
    · dsimp only [readGroup]
      rw [htiled1]
      exact h6.symm
  · rw [show j + 256 = (j / 64 + 4) * 64 by omega]
    exact hfour

variable {right : Nat}

theorem WideDone.wideRow (hint : width < 2 ^ 31) (hfits : RowFits w left y)
    (h : WideDone src init width height w left top y left dest) (hw : 256 ≤ w) (hwidth : left + w + right = width) :
    WideDone src init width height w left top y (left + w)
      (readWideRow src width height left top right (top + y) dest) := by
  have hx : ((left >>> 8) <<< 8) >>> 6 = left / 256 * 4 := by
    omega
  have hstart : (left >>> 8) <<< 8 + 256 = left / 256 * 256 + 256 := by
    rw [Nat.shiftRight_eq_div_pow, Nat.shiftLeft_eq]
  have hgroups := groupOffsets_eq height (top + y) hint (Nat.dvd_mul_left 4 (left / 256))
  have hlin : uint ((width - left - right) * (top + y - top)) = y * w := by
    rw [Nat.add_sub_cancel_left, show width - left - right = w by omega, Nat.mul_comm]
    exact Nat.mod_eq_of_lt (Nat.lt_of_le_of_lt (Nat.le_add_right _ _) hfits)
  simp only [readWideRow, hx, hstart, hgroups, and_31, hlin, uint_tileRowAddr]
  have hfst := WideDone.firstGroup (c := ⟨y * w, tileRowAddr width height (top + y) (left / 256 * 4),
    tileRowAddr width height (top + y) (left / 256 * 4 + 2), dest⟩) h hw rfl rfl rfl rfl
  have hfstLin := readFirstGroup_linear src left
    ⟨y * w, tileRowAddr width height (top + y) (left / 256 * 4), tileRowAddr width height (top + y)
      (left / 256 * 4 + 2), dest⟩
  obtain ⟨htiled, htiled1⟩ := readFirstGroup_offsets src left
    ⟨y * w, tileRowAddr width height (top + y) (left / 256 * 4), tileRowAddr width height (top + y)
      (left / 256 * 4 + 2), dest⟩
  obtain ⟨-, -, h4, h6⟩ := tileRowAddr_group width height (top + y) (Nat.dvd_mul_left 4 (left / 256))
  generalize readFirstGroup src left _ = c at hfst hfstLin htiled htiled1 ⊢
  have hbefore : BeforeGroup src init width height w left top y (left / 256 * 256 + 256)
      { c with tiledOffset := uint (c.tiledOffset + groupStep height ((top + y) / 32) * 2048) } := by
    have hcol : (left / 256 * 256 + 256) / 64 = left / 256 * 4 + 4 := by omega
    refine ⟨⟨by omega, by omega, by omega⟩, ?_, ?_⟩
    · rw [hcol]
      refine ⟨hfstLin.trans (congrArg uint (by dsimp only; omega)), ?_, ?_⟩
      · rw [htiled]
        exact h4.symm
      · rw [htiled1]
        exact h6.symm
    · rw [show left / 256 * 256 + 256 = (left / 256 * 4 + 4) * 64 by omega]
      exact hfst
  obtain ⟨hloop, hexit⟩ := @forLoop_rule _ (width - right - 256 + 1) 256
    (fun _ c => readGroup src (groupStep height ((top + y) / 32)) c) (BeforeGroup src init width height w left top y)
    (by decide) (fun j c hj hc => hc.next hfits (by omega)) _ _ hbefore
  obtain ⟨⟨hj, hleft, hle⟩, hc, hdone⟩ := hloop
  generalize forLoop (width - right - 256 + 1) 256 (fun _ c => readGroup src (groupStep height ((top + y) / 32)) c) _
    _ = exit at *
  obtain ⟨j, c⟩ := exit
  dsimp only at *
  have hcol : j = j / 64 * 64 := by omega
  rw [hcol] at hdone
  exact hdone.lastGroup hfits (by omega) hc (by omega) (by omega) (by omega)

def middleAddr (width height left x y : Nat) : Nat :=
  let last := left / 64 * 64 + 192
  if x < last then readAddr width height x y else readAddr width height last y + (x - last)

theorem uint_add_mask (width height x y : Nat) :
    uint (tile4x2Read width height x y + (x &&& 0x3)) = readAddr width height x y := by
  rw [and_3, ← readAddr, uint, readAddr_eq]
  omega

theorem tile4x2Read_tile (width height x y : Nat) :
    tile4x2Read width height (x * 64) y = readAddr width height (x * 64) y := by
  rw [readAddr, show x * 64 % 4 = 0 by omega, Nat.add_zero]

def MiddleDone (src init : Buffer) (width height w left top y x : Nat) (dest : Buffer) : Prop :=
  CropDone src init (middleAddr width height left) w left top y x dest

structure AfterTiles (src init : Buffer) (width height w left top y k : Nat) (c : TileCursor) : Prop where
  column : c.j = k * 64 ∧ left ≤ k * 64 ∧ k * 64 ≤ left + w
  linear : c.linearOffset + left = y * w + k * 64
  done : MiddleDone src init width height w left top y (k * 64) c.dest

theorem AfterTiles.readTile {k : Nat} {c : TileCursor} (hrow : y * w + w < 2 ^ 32)
    (h : AfterTiles src init width height w left top y k c) (hk : k < left / 64 + 3) :
    ∃ k', AfterTiles src init width height w left top y k'
        (SwConverter.readTile src width height (top + y) (left + w) c) ∧
      (k' = k + 1 ∨ k' = k ∧ left + w < k * 64 + 64) := by
  obtain ⟨⟨hj, hleft, hle⟩, hlin, hdone⟩ := h
  rw [SwConverter.readTile, hj]
  split_ifs with hwhole
  · have hnext := CropDone.memcpy hdone 64 hleft hwhole (fun _ => hlin)
        (s := tile4x2Read width height (k * 64) (top + y)) ?_
    · rw [show k * 64 + 64 = (k + 1) * 64 by omega] at hnext ⊢
      exact ⟨k + 1, ⟨⟨rfl, by omega, by omega⟩, by dsimp only [uint]; omega, hnext⟩, .inl rfl⟩
    · intro t ht
      rw [middleAddr, if_pos (by omega), tile4x2Read_tile, readAddr_add _ _ (by omega)]
  · exact ⟨k, ⟨⟨hj, hleft, hle⟩, hlin, hdone⟩, .inr ⟨rfl, by omega⟩⟩

theorem MiddleDone.middleRow (hrow : y * w + w < 2 ^ 32) (h : MiddleDone src init width height w left top y left dest)
    (hlow : 64 ≤ w) (hwidth : left + w + right = width) :
    MiddleDone src init width height w left top y (left + w)
      (readMiddleRow src width height left top right (top + y) dest) := by
  have hround : ((left + 64) >>> 6) <<< 6 - left = 64 - left % 64 := by
    rw [Nat.shiftRight_eq_div_pow, Nat.shiftLeft_eq]
    omega
  have htemp3 : width - right = left + w := by omega
  have hstart : uint (w * y) = w * y := Nat.mod_eq_of_lt (by rw [Nat.mul_comm]; omega)
  have hstart' : uint (w * y + (64 - left % 64)) = w * y + (64 - left % 64) :=
    Nat.mod_eq_of_lt (by rw [Nat.mul_comm]; omega)
  simp only [readMiddleRow, hround, htemp3, Nat.add_sub_cancel_left, uint_add_mask, hstart, hstart']
  have hfst := CropDone.memcpy h (64 - left % 64) le_rfl (by omega) (d := w * y)
    (s := readAddr width height left (top + y)) (fun _ => by rw [Nat.mul_comm]) ?_
  · have hstart : AfterTiles src init width height w left top y (left / 64 + 1)
        ⟨left + (64 - left % 64), w * y + (64 - left % 64),
          SwConverter.memcpy dest (w * y) src (readAddr width height left (top + y)) (64 - left % 64)⟩ := by
      rw [show left + (64 - left % 64) = (left / 64 + 1) * 64 by omega] at hfst ⊢
      exact ⟨⟨rfl, by omega, by omega⟩, by dsimp only; rw [Nat.mul_comm w]; omega, hfst⟩
    obtain ⟨k, hone, hk⟩ := hstart.readTile hrow (by omega)
    obtain ⟨m, htwo, hm⟩ := hone.readTile hrow (by omega)
    generalize SwConverter.readTile src width height (top + y) (left + w)
      (SwConverter.readTile src width height (top + y) (left + w) _) = c at htwo ⊢
    obtain ⟨⟨hj, hleft, hle⟩, hlin, hdone⟩ := htwo
    split_ifs with hlt
    · have hlast := CropDone.memcpy hdone (left + w - c.j) hleft (by omega) (fun _ => hlin)
        (s := tile4x2Read width height c.j (top + y)) ?_
      · rwa [show m * 64 + (left + w - c.j) = left + w by omega] at hlast
      · intro t ht
        rw [hj, middleAddr, tile4x2Read_tile]
        split_ifs with hbefore
        · exact readAddr_add _ _ (by omega)
        · have hcol : left / 64 * 64 + 192 = m * 64 := by omega
          rw [hcol, Nat.add_sub_cancel_left]
    · rwa [show m * 64 = left + w by omega] at hdone
  · intro t ht
    rw [middleAddr, if_pos (by omega), readAddr_add _ _ (by omega)]

theorem CropDone.narrowRow (hrow : y * w + w < 2 ^ 32)
    (h : CropDone src init (readAddr width height) w left top y left dest) (hleft : 2 ∣ left)
    (hright : 2 ∣ left + w) (hwidth : left + w + right = width) :
    CropDone src init (readAddr width height) w left top y (left + w)
      (readNarrowRow src width height left top right (top + y) dest) := by
  have htemp3 : width - right = left + w := by omega
  have hlin : uint (w * (top + y - top)) = y * w := by
    rw [Nat.add_sub_cancel_left, Nat.mul_comm]
    exact Nat.mod_eq_of_lt (by omega)
  simp only [readNarrowRow, htemp3, uint_add_mask]
  rw [Nat.add_sub_cancel_left, hlin]
  have hloop := @forLoop_dvd_from (Nat × Buffer) (left + w) 2
    (fun j s => (uint (s.1 + 2), SwConverter.memcpy s.2 s.1 src (readAddr width height j (top + y)) 2))
    (fun j s => s.1 + left = y * w + j ∧ CropDone src init (readAddr width height) w left top y j s.2)
      (by decide) hright
    left hleft (by omega) ?_ (y * w, dest) ⟨rfl, h⟩
  · exact hloop.2.2
  · rintro j ⟨linear, dest⟩ hj hdvd hlt ⟨hlin, hdone⟩
    refine ⟨by rw [uint]; omega, CropDone.memcpy hdone 2 hj (by omega) (fun _ => hlin) fun t ht => ?_⟩
    exact readAddr_add _ _ (by omega)

def cropAddr (width height left right x y : Nat) : Nat :=
  let temp1 := width - right - left
  if temp1 ≥ 256 then pixelAddr width height (x, y)
  else if temp1 ≥ 64 then middleAddr width height left x y
  else readAddr width height x y

theorem cropAddr_wide (hw : width - right - left ≥ 256) :
    cropAddr width height left right = fun x y => pixelAddr width height (x, y) := by
  funext x y
  rw [cropAddr, if_pos hw]

theorem cropAddr_middle (hlow : width - right - left ≥ 64) (hhigh : ¬width - right - left ≥ 256) :
    cropAddr width height left right = middleAddr width height left := by
  funext x y
  rw [cropAddr, if_neg hhigh, if_pos hlow]

theorem cropAddr_narrow (hw : ¬width - right - left ≥ 64) :
    cropAddr width height left right = readAddr width height := by
  funext x y
  rw [cropAddr, if_neg (by omega), if_neg hw]

theorem cropRow_done (hint : width < 2 ^ 31) (hleft : 2 ∣ left) (hright : 2 ∣ left + w)
    (hwidth : left + w + right = width) (hrow : y < 16384) (hfits : 256 ≤ w → RowFits w left y)
    (h : CropDone src init (cropAddr width height left right) w left top y left dest) :
    CropDone src init (cropAddr width height left right) w left top y (left + w)
      ((if w ≥ 256 then readWideRow src width height left top right
        else if w ≥ 64 then readMiddleRow src width height left top right
        else readNarrowRow src width height left top right) (top + y) dest) := by
  have htemp1 : width - right - left = w := by omega
  have hsmall : w < 256 → y * w + w < 2 ^ 32 := by
    intro hw
    have hle := Nat.mul_le_mul hrow.le hw.le
    omega
  split_ifs with hw hw'
  · rw [cropAddr_wide (by rwa [htemp1])] at h ⊢
    exact WideDone.wideRow hint (hfits hw) h hw hwidth
  · rw [cropAddr_middle (by rwa [htemp1]) (by rwa [htemp1])] at h ⊢
    exact MiddleDone.middleRow (hsmall (by omega)) h hw' hwidth
  · rw [cropAddr_narrow (by rwa [htemp1])] at h ⊢
    exact CropDone.narrowRow (hsmall (by omega)) h hleft hright hwidth

end

theorem RowFits.mono {w left y y' : Nat} (h : RowFits w left y) (hy : y' ≤ y) : RowFits w left y' :=
  Nat.lt_of_le_of_lt (Nat.add_le_add_right (Nat.mul_le_mul_right w hy) _) h

theorem cscTiledToLinearCrop_filled (dest src : Buffer) {width height left top right buttom w rows : Nat}
    (hint : width < 2 ^ 31) (hmax : height ≤ 16384) (hfits : 256 ≤ w → RowFits w left (rows - 1)) (hleft : 2 ∣ left)
      (hright : 2 ∣ left + w) (hwidth : left + w + right = width)
    (hheight : top + rows + buttom = height) :
    Filled (rowMajor w) (fun q => src (cropAddr width height left right (left + q.1) (top + q.2))) (block 0 w 0 rows)
      dest (cscTiledToLinearCrop dest src width height left top right buttom) := by
  have htemp1 : width - right - left = w := by omega
  have hbound : height - buttom = top + rows := by omega
  rw [cscTiledToLinearCrop, htemp1, hbound]
  have hloop := @forLoop_dvd_from _ (top + rows) 1 (if w ≥ 256 then readWideRow src width height left top right
      else if w ≥ 64 then readMiddleRow src width height left top right
      else readNarrowRow src width height left top right)
    (fun i mem => Filled (rowMajor w)
      (fun q => src (cropAddr width height left right (left + q.1) (top + q.2))) (block 0 w 0 (i - top)) dest mem)
    Nat.one_pos (one_dvd _) top (one_dvd _) (by omega) ?_ dest ?_
  · rw [Nat.add_sub_cancel_left] at hloop
    exact hloop.2
  · intro i mem hi _ hlt hmem
    obtain ⟨y, rfl⟩ := Nat.exists_eq_add_of_le hi
    rw [Nat.add_sub_cancel_left] at hmem
    rw [Nat.add_assoc, Nat.add_sub_cancel_left]
    exact (cropRow_done hint hleft hright hwidth (by omega) (fun hw => (hfits hw).mono (by omega))
      (cropDone_start hmem)).finish
  · rw [Nat.sub_self, block_no_rows]
    exact Filled.start _ _ _

structure CropRead (width height left top right buttom : Nat) (src dest out : Buffer) : Prop where
  value : ∀ i j, top ≤ i → i < height - buttom → left ≤ j → j < width - right →
    out ((i - top) * (width - left - right) + (j - left)) = src (tile4x2Read width height j i + j % 4)
  outside : ∀ n, (∀ i j, top ≤ i → i < height - buttom → left ≤ j → j < width - right →
    (i - top) * (width - left - right) + (j - left) ≠ n) → out n = dest n

/-- What the chunks of a row need: the four of the middle path reach its end, the wide path computes the tiles that
`tile4x2Read` names, and no offset into the output wraps. -/
structure ChunksFit (width height left top right buttom : Nat) : Prop where
  middle : 64 ≤ width - left - right → width - left - right < 256 → width - left - right + left % 64 ≤ 256
  columns : 256 ≤ width - left - right → left / 16384 = (width - right - 1) / 16384 ∧
    left / 16384 % (if UnpairedRow height (height - buttom - 1) then 8192 else 4096) = 0
  output : 256 ≤ width - left - right → RowFits (width - left - right) left (height - top - buttom - 1)

section
variable {src dest : Buffer} {w left top right y n width height : Nat}

theorem memcpy_frame {d s len : Nat} (h : n < d ∨ d + len ≤ n) : memcpy dest d src s len n = dest n := by
  rw [memcpy, copy, if_neg (by omega)]

variable {c : WideCursor}

theorem readFirstGroup_frame (h : n < c.linearOffset ∨ c.linearOffset + (256 - left % 256) ≤ n) :
    (readFirstGroup src left c).dest n = c.dest n := by
  simp only [readFirstGroup, groups_round, and_63]
  split_ifs
  · dsimp only
    rw [memcpy_frame (by omega), memcpy_frame (by omega), memcpy_frame (by omega), memcpy_frame (by omega)]
  · dsimp only
    rw [memcpy_frame (by omega), memcpy_frame (by omega), memcpy_frame (by omega)]
  · dsimp only
    rw [memcpy_frame (by omega), memcpy_frame (by omega)]
  · dsimp only
    rw [memcpy_frame (by omega)]
  · rfl

theorem readGroup_frame (temp4 : Nat) (h : n < c.linearOffset ∨ c.linearOffset + 256 ≤ n) :
    (readGroup src temp4 c).dest n = c.dest n := by
  dsimp only [readGroup]
  rw [memcpy_frame (by omega), memcpy_frame (by omega), memcpy_frame (by omega), memcpy_frame (by omega)]

theorem readLastGroup_frame {temp2 : Nat} (h : n < c.linearOffset ∨ c.linearOffset + temp2 ≤ n) :
    readLastGroup src temp2 c n = c.dest n := by
  simp only [readLastGroup]
  split_ifs
  · rw [memcpy_frame (by omega), memcpy_frame (by omega), memcpy_frame (by omega), memcpy_frame (by omega)]
  · rw [memcpy_frame (by omega), memcpy_frame (by omega), memcpy_frame (by omega)]
  · rw [memcpy_frame (by omega), memcpy_frame (by omega)]
  · rw [memcpy_frame (by omega)]

structure GroupFrame (row left w n : Nat) (dest : Buffer) (j : Nat) (c : WideCursor) : Prop where
  column : 256 ∣ j ∧ left ≤ j ∧ j ≤ left + w
  linear : c.linearOffset = uint (row + (j - left))
  frame : c.dest n = dest n

theorem GroupFrame.next {row j : Nat} (temp4 : Nat) (hn : 2 ^ 32 ≤ n)
    (hrow : row + w ≤ n ∨ n = row + ((left + w - 1) / 256 * 256 - left)) (h : GroupFrame row left w n dest j c)
    (hw : j + 256 ≤ left + w) : GroupFrame row left w n dest (j + 256) (readGroup src temp4 c) := by
  obtain ⟨⟨hj, hleft, -⟩, hlin, hframe⟩ := h
  refine ⟨⟨by omega, by omega, hw⟩, ?_, ?_⟩
  · simp only [readGroup, hlin, uint]
    omega
  · rw [readGroup_frame, hframe]
    rw [hlin, uint]
    omega

/-- A byte from 2^32 on is not written by the rows before, nor by the row whose last group starts there. -/
theorem readWideRow_frame (hw : 256 ≤ w) (hwidth : left + w + right = width) (hn : 2 ^ 32 ≤ n)
    (hrow : y * w + w ≤ n ∨ n = y * w + ((left + w - 1) / 256 * 256 - left)) :
    readWideRow src width height left top right (top + y) dest n = dest n := by
  have hlin : (width - left - right) * (top + y - top) = y * w := by
    rw [Nat.add_sub_cancel_left, show width - left - right = w by omega, Nat.mul_comm]
  have hstart : (left >>> 8) <<< 8 + 256 = left / 256 * 256 + 256 := by
    rw [Nat.shiftRight_eq_div_pow, Nat.shiftLeft_eq]
  simp only [readWideRow, hlin, hstart]
  generalize groupOffsets width height (top + y) _ = offsets
  generalize y * w = row at hrow
  obtain ⟨tiledOffset, tiledOffset1, temp4⟩ := offsets
  have hfst := @readFirstGroup_frame src left n
    ⟨uint row, uint (tiledOffset + 64 * ((top + y) &&& 0x1F)), uint (tiledOffset1 + 64 * ((top + y) &&& 0x1F)), dest⟩
    (by dsimp only [uint]; omega)
  have hfstLin := readFirstGroup_linear src left
    ⟨uint row, uint (tiledOffset + 64 * ((top + y) &&& 0x1F)), uint (tiledOffset1 + 64 * ((top + y) &&& 0x1F)), dest⟩
  dsimp only at hfst hfstLin ⊢
  generalize readFirstGroup src left _ = c at hfst hfstLin ⊢
  obtain ⟨⟨⟨hj, hleft, hle⟩, hoff, hframe⟩, hexit⟩ := @forLoop_rule _ (width - right - 256 + 1) 256
    (fun _ c => readGroup src temp4 c)
    (GroupFrame row left w n dest) (by decide) (fun j c hlt h => h.next temp4 hn hrow (by omega))
      (left / 256 * 256 + 256) { c with tiledOffset := uint (c.tiledOffset + temp4 * 2048) }
    ⟨⟨by omega, by omega, by omega⟩, by dsimp only; rw [hfstLin]; simp only [uint]; omega, hfst⟩
  rw [readLastGroup_frame, hframe]
  rw [hoff, uint]
  omega

theorem cscTiledToLinearCrop_frame {buttom rows : Nat} (hw : 256 ≤ w) (hwidth : left + w + right = width)
    (hheight : top + rows + buttom = height) (hfits : ¬RowFits w left (rows - 1)) :
    cscTiledToLinearCrop dest src width height left top right buttom
      ((rows - 1) * w + ((left + w - 1) / 256 * 256 - left)) =
        dest ((rows - 1) * w + ((left + w - 1) / 256 * 256 - left)) := by
  rw [RowFits, not_lt] at hfits
  rw [cscTiledToLinearCrop, show width - right - left = w by omega, show height - buttom = top + rows by omega]
  simp only [if_pos hw]
  refine (@forLoop_rule _ (top + rows) 1 (readWideRow src width height left top right)
    (fun i mem => top ≤ i ∧ mem ((rows - 1) * w + ((left + w - 1) / 256 * 256 - left)) =
      dest ((rows - 1) * w + ((left + w - 1) / 256 * 256 - left))) Nat.one_pos ?_ top dest ⟨le_rfl, rfl⟩).1.2
  rintro i mem hlt ⟨hi, hmem⟩
  obtain ⟨y, rfl⟩ := Nat.exists_eq_add_of_le hi
  refine ⟨by omega, ?_⟩
  rw [readWideRow_frame hw hwidth hfits, hmem]
  rcases Nat.lt_or_ge y (rows - 1) with hbefore | hlast
  · have hrows := Nat.mul_le_mul_right w (show y + 1 ≤ rows - 1 by omega)
    rw [Nat.succ_mul] at hrows
    omega
  · obtain rfl : y = rows - 1 := by omega
    exact .inr rfl

end

section
variable {width height left top right buttom : Nat}

theorem middleAddr_eq_iff {w x y : Nat} (hlow : 64 ≤ w) (hhigh : w < 256) (hx : left ≤ x) (hx' : x < left + w) :
    middleAddr width height left x y = readAddr width height x y ↔ x < left / 64 * 64 + 256 := by
  rw [middleAddr]
  split_ifs with hbefore
  · exact iff_of_true rfl (by omega)
  · rw [readAddr_eq, readAddr_eq]
    constructor
    · intro heq
      by_contra hafter
      omega
    · intro hin
      rw [show (left / 64 * 64 + 192) / 64 = x / 64 by omega]
      omega

theorem cropAddr_eq_iff (hheight : height ≤ 16384) (hcols : left + right < width) (hrows : top + buttom < height)
    (houtput : 256 ≤ width - left - right → RowFits (width - left - right) left (height - top - buttom - 1)) :
    (∀ i j, top ≤ i → i < height - buttom → left ≤ j → j < width - right →
      cropAddr width height left right j i = readAddr width height j i) ↔
        ChunksFit width height left top right buttom := by
  have htemp1 : width - right - left = width - left - right := Nat.sub_right_comm _ _ _
  rcases Nat.lt_or_ge (width - right - left) 64 with hnarrow | hlow
  · rw [cropAddr_narrow (by omega)]
    exact iff_of_true (fun _ _ _ _ _ _ => rfl)
      ⟨fun h => absurd h (by omega), fun h => absurd h (by omega), fun h => absurd h (by omega)⟩
  rcases Nat.lt_or_ge (width - right - left) 256 with hmiddle | hwide
  · rw [cropAddr_middle hlow (by omega)]
    constructor
    · intro h
      refine ⟨fun _ _ => ?_, fun h => absurd h (by omega), fun h => absurd h (by omega)⟩
      have hlast := (middleAddr_eq_iff hlow hmiddle (by omega) (by omega)).mp
        (h top (width - right - 1) le_rfl (by omega) (by omega) (by omega))
      omega
    · rintro ⟨hfit, -, -⟩ i j _ _ hj hj'
      have hw := hfit (by omega) (by omega)
      exact (middleAddr_eq_iff hlow hmiddle hj (by omega)).mpr (by omega)
  · rw [cropAddr_wide hwide]
    constructor
    · intro h
      refine ⟨fun _ h => absurd h (by omega), fun _ => ?_, houtput⟩
      have hblock : ∀ j, left ≤ j → j < width - right →
          j / 16384 % (if UnpairedRow height (height - buttom - 1) then 8192 else 4096) = 0 := fun j hj hj' =>
        (readAddr_eq_pixelAddr_iff (by omega) (by omega) (by omega)).mp
          (h (height - buttom - 1) j (by omega) (by omega) hj hj').symm
      refine ⟨?_, hblock left le_rfl (by omega)⟩
      -- of two neighbouring blocks one is read wrong
      by_contra hne
      have hone := hblock left le_rfl (by omega)
      have htwo := hblock ((left / 16384 + 1) * 16384) (by omega) (by omega)
      rw [Nat.mul_div_cancel _ (by decide)] at htwo
      split_ifs at hone htwo <;> omega
    · rintro ⟨-, hfit, -⟩ i j _ hi hj hj'
      obtain ⟨hblock, hzero⟩ := hfit (by omega)
      refine ((readAddr_eq_pixelAddr_iff (by omega) (by omega) (by omega)).mpr ?_).symm
      rw [show j / 16384 = left / 16384 by omega]
      have hlater : UnpairedRow height i → UnpairedRow height (height - buttom - 1) := by
        rintro ⟨heven, hnext⟩
        exact ⟨by omega, by omega⟩
      by_cases hunpaired : UnpairedRow height i
      · rw [if_pos (hlater hunpaired)] at hzero
        rwa [if_pos hunpaired]
      · rw [if_neg hunpaired]
        split_ifs at hzero
        · omega
        · exact hzero

/-- A crop of even columns is read right, whatever the picture holds, exactly if its chunks fit. -/
theorem cscTiledToLinearCrop_iff (hint : width < 2 ^ 31) (hwidth : 2 ∣ width) (hheight : height ≤ 16384)
    (hleft : 2 ∣ left) (hright : 2 ∣ right) (hcols : left + right < width) (hrows : top + buttom < height) :
    (∀ src dest, CropRead width height left top right buttom src dest
      (cscTiledToLinearCrop dest src width height left top right buttom)) ↔
        ChunksFit width height left top right buttom := by
  by_cases houtput : 256 ≤ width - left - right → RowFits (width - left - right) left (height - top - buttom - 1)
  · have hfilled := fun dest src => @cscTiledToLinearCrop_filled dest src width height left top right buttom
      (width - left - right) (height - top - buttom) hint hheight houtput hleft (by omega) (by omega) (by omega)
    rw [← cropAddr_eq_iff hheight hcols hrows houtput]
    constructor
    · intro h i j hi hi' hj hj'
      -- a picture that is 1 at the address that is read and 0 elsewhere
      have hread :=
        (h (fun n => if n = cropAddr width height left right j i then 1 else 0) (fun _ => 0)).value i j hi hi' hj hj'
      have hval := (hfilled (fun _ => 0) (fun n => if n = cropAddr width height left right j i then 1 else 0)).value
        (j - left, i - top) (mem_block.mpr ⟨⟨Nat.zero_le _, by dsimp only; omega⟩, Nat.zero_le _, by dsimp only; omega⟩)
      dsimp only [rowMajor] at hval
      rw [hval, Nat.add_sub_cancel' hi, Nat.add_sub_cancel' hj, if_pos rfl] at hread
      rw [readAddr]
      by_contra hne
      rw [if_neg (Ne.symm hne)] at hread
      exact absurd hread (by decide)
    · intro haddr src dest
      constructor
      · intro i j hi hi' hj hj'
        have hval := (hfilled dest src).value (j - left, i - top)
          (mem_block.mpr ⟨⟨Nat.zero_le _, by dsimp only; omega⟩, Nat.zero_le _, by dsimp only; omega⟩)
        dsimp only [rowMajor] at hval
        rw [hval, Nat.add_sub_cancel' hi, Nat.add_sub_cancel' hj, haddr i j hi hi' hj hj', readAddr]
      · intro n hn
        refine (hfilled dest src).frame n ?_
        rintro ⟨x, y⟩ hq
        obtain ⟨⟨-, hx⟩, -, hy⟩ := mem_block.mp hq
        have hcell := hn (top + y) (left + x) (by omega) (by omega) (by omega) (by omega)
        rwa [Nat.add_sub_cancel_left, Nat.add_sub_cancel_left] at hcell
  · refine iff_of_false (fun h => ?_) fun hfit => houtput hfit.output
    obtain ⟨hw, hfits⟩ := Classical.not_imp.mp houtput
    have hframe := @cscTiledToLinearCrop_frame (fun _ => 1) (fun _ => 0) (width - left - right) left top right width
      height buttom (height - top - buttom) hw (by omega) (by omega) hfits
    have hread := (h (fun _ => 1) fun _ => 0).value (height - buttom - 1) ((width - right - 1) / 256 * 256) (by omega)
      (by omega) (by omega) (by omega)
    rw [show left + (width - left - right) - 1 = width - right - 1 by omega] at hframe
    rw [show height - buttom - 1 - top = height - top - buttom - 1 by omega] at hread
    exact absurd (hframe.symm.trans hread) (by decide)

def tileRows : Buffer := fun n => BitVec.ofNat 8 (n / 64)

theorem crop62_read :
    CropRead 256 64 62 2 66 2 tileRows (fun _ => 0) (cscTiledToLinearCrop (fun _ => 0) tileRows 256 64 62 2 66 2) :=
  (cscTiledToLinearCrop_iff (by decide) (by decide) (by decide) (by decide) (by decide) (by decide) (by decide)).mpr
    ⟨fun _ _ => by decide, fun h => absurd h (by decide), fun h => absurd h (by decide)⟩ tileRows fun _ => 0

theorem crop62_wrong : cscTiledToLinearCrop (fun _ => 0) tileRows 316 2 62 0 0 0 194 = 97#8 ∧
      tileRows (tile4x2Read 316 2 256 0 + 256 % 4) = 128#8 ∧
      ¬∀ src dest, CropRead 316 2 62 0 0 0 src dest (cscTiledToLinearCrop dest src 316 2 62 0 0 0) := by
  have hread : cscTiledToLinearCrop (fun _ => 0) tileRows 316 2 62 0 0 0 194 = 97#8 := by
    have hval := (@cscTiledToLinearCrop_filled (fun _ => 0) tileRows 316 2 62 0 0 0 254 2 (by decide) (by decide)
      (fun h => absurd h (by decide)) (by decide) (by decide) rfl rfl).value
      (194, 0) (mem_block.mpr (by decide))
    exact hval.trans (by decide)
  refine ⟨hread, by decide, ?_⟩
  intro h
  have hval := (h tileRows fun _ => 0).value 0 256 (by decide) (by decide) (by decide) (by decide)
  have hsame : (97#8 : Byte) = 128#8 := hread.symm.trans (hval.trans (by decide))
  exact absurd hsame (by decide)

end

end ExynosHal.SwConverter
