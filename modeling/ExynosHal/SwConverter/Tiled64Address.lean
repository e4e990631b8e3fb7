import ExynosHal.SwConverter.Tiled64

/-! # Addresses in tiles of 64x32

`pixelAddr` is the address of a pixel in the tiled buffer. Offsets have 32 bits, so it is injective if the tiled
plane has at most 2^32 bytes.
-/

namespace ExynosHal.SwConverter
open Library
open Nat (and_one_is_mod shiftLeft_eq shiftRight_eq_div_pow)

def xBlockNum (width : Nat) : Nat := (width + 127) / 128 * 2

def tileNumber (width height x y : Nat) : Nat :=
  if y % 2 = 1 then (y - 1) * xBlockNum width + (x + 2 + x / 4 * 4)
  else if y + 1 < (height + 31) / 32 then y * xBlockNum width + (x + (x + 2) / 4 * 4)
  else y * xBlockNum width + x

def pixelAddr (width height : Nat) (q : Nat × Nat) : Nat :=
  2048 * (tileNumber width height (q.1 / 64) (q.2 / 32) % 2 ^ 21) + 64 * (q.2 % 32) + q.1 % 64

/-- The tiled plane has at most 2^32 bytes. -/
def TiledFits (width height : Nat) : Prop := xBlockNum width * ((height + 31) / 32) * 2048 ≤ 2 ^ 32

instance (width height : Nat) : Decidable (TiledFits width height) := Nat.decLe _ _

def tileInPair (height x y : Nat) : Nat :=
  if y % 2 = 1 then x + 2 + x / 4 * 4
  else if y + 1 < (height + 31) / 32 then x + (x + 2) / 4 * 4
  else x

theorem tileNumber_eq (width height x y : Nat) :
    tileNumber width height x y = tileInPair height x y + y / 2 * (2 * xBlockNum width) := by
  have hpair : ∀ z, z % 2 = 0 → z * xBlockNum width = z / 2 * (2 * xBlockNum width) := by
    intro z hz
    rw [← Nat.mul_assoc, Nat.div_mul_cancel (Nat.dvd_of_mod_eq_zero hz)]
  rw [tileNumber, tileInPair]
  split
  · rw [hpair (y - 1) (by omega), show (y - 1) / 2 = y / 2 by omega, Nat.add_comm]
  · split <;> rw [hpair y (by omega), Nat.add_comm]

variable {width height x y : Nat}

theorem tileInPair_lt (hx : x < xBlockNum width) : tileInPair height x y < 2 * xBlockNum width := by
  rw [tileInPair]
  rw [xBlockNum] at *
  split
  · omega
  · split <;> omega

theorem tileNumber_inj {width height x y x' y' : Nat} (hx : x < xBlockNum width) (hx' : x' < xBlockNum width)
    (hy : y < (height + 31) / 32) (hy' : y' < (height + 31) / 32)
    (h : tileNumber width height x y = tileNumber width height x' y') : x = x' ∧ y = y' := by
  have hlt := @tileInPair_lt width height x y hx
  have hlt' := @tileInPair_lt width height x' y' hx'
  rw [tileNumber_eq, tileNumber_eq] at h
  have hpos : 0 < 2 * xBlockNum width := by omega
  have hpair : y / 2 = y' / 2 := by
    have hdiv := congrArg (· / (2 * xBlockNum width)) h
    simpa only [Nat.add_mul_div_right _ _ hpos, Nat.div_eq_of_lt hlt, Nat.div_eq_of_lt hlt', Nat.zero_add] using hdiv
  rw [hpair] at h
  have hin := Nat.add_right_cancel h
  -- the tile rows of a pair use different residues modulo 8
  rw [tileInPair, tileInPair] at hin
  split at hin <;> split at hin <;> (try split at hin) <;> (try split at hin) <;> omega

theorem tileNumber_lt (hx : x < xBlockNum width) (hy : y < (height + 31) / 32) :
    tileNumber width height x y < xBlockNum width * ((height + 31) / 32) := by
  have hlt := @tileInPair_lt width height x y hx
  rw [tileNumber_eq, Nat.mul_comm (xBlockNum width)]
  by_cases hlast : y % 2 = 1 ∨ y + 1 < (height + 31) / 32
  · have hpairs : (y / 2 + 1) * (2 * xBlockNum width) ≤ (height + 31) / 32 * xBlockNum width := by
      rw [← Nat.mul_assoc]
      exact Nat.mul_le_mul_right _ (by omega)
    rw [Nat.succ_mul] at hpairs
    omega
  · have hin : tileInPair height x y = x := by
      rw [tileInPair, if_neg (by omega), if_neg (by omega)]
    have hrows : (y / 2 * 2 + 1) * xBlockNum width ≤ (height + 31) / 32 * xBlockNum width :=
      Nat.mul_le_mul_right _ (by omega)
    rw [Nat.succ_mul, Nat.mul_assoc] at hrows
    omega

theorem blockColumn_lt (hx : x < width) : x / 64 < xBlockNum width := by
  rw [xBlockNum]
  omega

theorem pixelAddr_inj (hfits : TiledFits width height) {q q' : Nat × Nat} (hx : q.1 < width) (hx' : q'.1 < width)
    (hy : q.2 < height) (hy' : q'.2 < height) (h : pixelAddr width height q = pixelAddr width height q') :
    q = q' := by
  have hnum := @tileNumber_lt width height _ (q.2 / 32) (blockColumn_lt hx) (by omega)
  have hnum' := @tileNumber_lt width height _ (q'.2 / 32) (blockColumn_lt hx') (by omega)
  rw [TiledFits] at hfits
  simp only [pixelAddr] at h
  have htile : tileNumber width height (q.1 / 64) (q.2 / 32) = tileNumber width height (q'.1 / 64) (q'.2 / 32) := by
    omega
  obtain ⟨hX, hY⟩ := tileNumber_inj (blockColumn_lt hx) (blockColumn_lt hx') (by omega) (by omega) htile
  rw [htile] at h
  exact Prod.ext (by omega) (by omega)

theorem TiledFits.width_le (hfits : TiledFits width height) (hy : y < height) : width ≤ 2 ^ 27 := by
  have hone := Nat.mul_le_mul_left (xBlockNum width) (show 1 ≤ (height + 31) / 32 by omega)
  rw [TiledFits] at hfits
  rw [xBlockNum] at *
  omega

theorem TiledFits.plane_le (hfits : TiledFits width height) : width * height ≤ 2 ^ 32 := by
  have hplane : width * height ≤ xBlockNum width * 64 * ((height + 31) / 32 * 32) :=
    Nat.mul_le_mul (by rw [xBlockNum]; omega) (by omega)
  rw [TiledFits] at hfits
  calc width * height ≤ xBlockNum width * 64 * ((height + 31) / 32 * 32) := hplane
    _ = xBlockNum width * ((height + 31) / 32) * 2048 := by ring
    _ ≤ 2 ^ 32 := hfits

theorem pixelAddr_add (width height : Nat) {x y t : Nat} (ht : x % 64 + t < 64) :
    pixelAddr width height (x + t, y) = pixelAddr width height (x, y) + t := by
  simp only [pixelAddr, show (x + t) / 64 = x / 64 by omega, show (x + t) % 64 = x % 64 + t by omega]
  omega

theorem uint_shiftLeft (n : Nat) : uint (n <<< 11) = 2048 * (n % 2 ^ 21) := by
  rw [uint, shiftLeft_eq]
  omega

theorem uint_blocks (hwidth : width < 2 ^ 31) : (uint (width + 127) >>> 7) <<< 7 >>> 6 = xBlockNum width := by
  rw [uint, Nat.mod_eq_of_lt (by omega), xBlockNum]
  simp only [shiftRight_eq_div_pow, shiftLeft_eq]
  omega

theorem last_tileRow (height i : Nat) : i + 32 < ((height + 31) >>> 5) <<< 5 ↔ i / 32 + 1 < (height + 31) / 32 := by
  simp only [shiftRight_eq_div_pow, shiftLeft_eq]
  omega

theorem tileStart_eq (height i j : Nat) (hwidth : width < 2 ^ 31) :
    tileStart width height i j = 2048 * (tileNumber width height (j / 64) (i / 32) % 2 ^ 21) := by
  simp only [tileStart, uint_blocks hwidth, last_tileRow, and_one_is_mod, uint_shiftLeft]
  simp only [shiftRight_eq_div_pow, shiftLeft_eq, tileNumber]
  norm_num
  split_ifs <;> omega

def groupStep (height y : Nat) : Nat :=
  if y % 2 = 1 ∨ y + 1 < (height + 31) / 32 then 8 else 4

theorem tileNumber_group (width height y : Nat) (hx : 4 ∣ x) :
    tileNumber width height (x + 1) y = tileNumber width height x y + 1 ∧
      tileNumber width height (x + 3) y = tileNumber width height (x + 2) y + 1 ∧
      tileNumber width height (x + 4) y = tileNumber width height x y + groupStep height y ∧
      tileNumber width height (x + 6) y = tileNumber width height (x + 2) y + groupStep height y := by
  simp only [tileNumber, groupStep]
  by_cases hodd : y % 2 = 1
  · simp only [hodd, true_or, if_true]
    omega
  · by_cases hnext : y + 1 < (height + 31) / 32
    · simp only [hodd, hnext, or_true, if_true, if_false]
      omega
    · simp only [hodd, hnext, or_self, if_false]
      omega

theorem groupOffsets_eq (height i : Nat) (hwidth : width < 2 ^ 31) (hx : 4 ∣ x) :
    groupOffsets width height i x = (2048 * (tileNumber width height x (i / 32) % 2 ^ 21),
      2048 * (tileNumber width height (x + 2) (i / 32) % 2 ^ 21), groupStep height (i / 32)) := by
  simp only [groupOffsets, uint_blocks hwidth, last_tileRow, and_one_is_mod, uint_shiftLeft, tileNumber, groupStep]
  simp only [shiftRight_eq_div_pow, shiftLeft_eq, uint]
  norm_num
  by_cases hodd : i / 32 % 2 = 1
  · simp only [hodd, true_or, if_true, Prod.mk.injEq, and_true]
    omega
  · by_cases hnext : i / 32 + 1 < (height + 31) / 32
    · simp only [hodd, hnext, or_true, if_true, if_false, Prod.mk.injEq, and_true]
      omega
    · simp only [hodd, hnext, or_self, if_false, Prod.mk.injEq, and_true, true_and]
      omega

theorem or_of_banks (tile : Nat) {bank low : Nat} (hbank : bank < 4) (hlow : low < 512) :
    (tile <<< 13) ||| (bank <<< 11) ||| (low <<< 2) = 2048 * (4 * tile + bank) + 4 * low := by
  have hhigh : (tile <<< 13) ||| (bank <<< 11) = (4 * tile + bank) <<< 11 := by
    rw [← Nat.shiftLeft_add_eq_or_of_lt (by rw [shiftLeft_eq]; omega)]
    simp only [shiftLeft_eq]
    ring
  rw [hhigh, ← Nat.shiftLeft_add_eq_or_of_lt (by rw [shiftLeft_eq]; omega)]
  simp only [shiftLeft_eq]
  ring

def bankNumber (width height x y : Nat) : Nat := 4 * (y / 64 % 256 * ((width - 1) / 128 + 1) +
      if y / 32 % 2 = 0 ∧ y < height ∧ (height - 1) / 32 = y / 32 then x / 4 % 64 else x / 2 % 128) +
    if x / 2 % 2 = y / 32 % 2 then x % 2 else 2 + x % 2

def readAddr (width height x y : Nat) : Nat := tile4x2Read width height x y + x % 4

theorem readAddr_eq (width height x y : Nat) :
    readAddr width height x y = 2048 * (bankNumber width height (x / 64) y % 2 ^ 21) + 64 * (y % 32) + x % 64 := by
  have hlow : ((y &&& 0x1f) <<< 4) ||| ((x >>> 2) &&& 0xf) = y % 32 * 16 + x / 4 % 16 := by
    rw [Nat.and_two_pow_sub_one_eq_mod y 5, Nat.and_two_pow_sub_one_eq_mod _ 4,
      ← Nat.shiftLeft_add_eq_or_of_lt (Nat.mod_lt _ (by decide)), shiftLeft_eq, shiftRight_eq_div_pow]
  have hbank : (if (x >>> 2 >>> 5) &&& 0x1 = (y >>> 5) &&& 0x1 then (x >>> 2 >>> 4) &&& 0x1
      else 0x2 ||| ((x >>> 2 >>> 4) &&& 0x1)) =
      if x / 64 / 2 % 2 = y / 32 % 2 then x / 64 % 2 else 2 + x / 64 % 2 := by
    have hor : ∀ b < 2, 0x2 ||| b = 2 + b := by decide
    simp only [and_one_is_mod, shiftRight_eq_div_pow, Nat.div_div_eq_div_mul]
    rw [hor _ (Nat.mod_lt _ two_pos)]
  have hlast : (height ≤ y + 32 ∧ y < height ∧ ((height - 1) >>> 5) &&& 0x1 = 0 ∧ (y >>> 5) &&& 0x1 = 0) ↔
      y / 32 % 2 = 0 ∧ y < height ∧ (height - 1) / 32 = y / 32 := by
    simp only [and_one_is_mod, shiftRight_eq_div_pow]
    omega
  have hrow : (y >>> 6) &&& 0xff = y / 64 % 256 := by
    rw [Nat.and_two_pow_sub_one_eq_mod _ 8, shiftRight_eq_div_pow]
  have hcol : (x >>> 2 >>> 6) &&& 0x3f = x / 64 / 4 % 64 ∧ (x >>> 2 >>> 5) &&& 0x7f = x / 64 / 2 % 128 := by
    rw [Nat.and_two_pow_sub_one_eq_mod _ 6, Nat.and_two_pow_sub_one_eq_mod _ 7]
    simp only [shiftRight_eq_div_pow]
    omega
  have hseven : (width - 1) >>> 7 = (width - 1) / 128 := shiftRight_eq_div_pow _ 7
  have hb : (if x / 64 / 2 % 2 = y / 32 % 2 then x / 64 % 2 else 2 + x / 64 % 2) < 4 := by
    split <;> omega
  simp only [readAddr, tile4x2Read, hlow, hbank, hlast, hrow, hcol, hseven, bankNumber]
  rw [or_of_banks _ hb (by omega), ← add_ite, uint]
  omega

theorem readAddr_add (width height : Nat) {x y t : Nat} (ht : x % 64 + t < 64) :
    readAddr width height (x + t) y = readAddr width height x y + t := by
  rw [readAddr_eq, readAddr_eq, show (x + t) / 64 = x / 64 by omega, show (x + t) % 64 = x % 64 + t by omega]
  omega

/-- The last tile row has no tile row to pair with. -/
def UnpairedRow (height y : Nat) : Prop := y / 32 % 2 = 0 ∧ ¬y / 32 + 1 < (height + 31) / 32

instance (height y : Nat) : Decidable (UnpairedRow height y) := inferInstanceAs (Decidable (_ ∧ _))

theorem bankNumber_add (hx : x * 64 < width) (hy : y < height) (hy' : y < 16384) :
    bankNumber width height x y + 4 * (if UnpairedRow height y
      then x / 4 - x / 4 % 64 else x / 2 - x / 2 % 128) = tileNumber width height x (y / 32) := by
  have hround : (width - 1) / 128 + 1 = (width + 127) / 128 := by omega
  have hrows : y / 32 / 2 * (2 * xBlockNum width) = 4 * (y / 64 % 256 * ((width + 127) / 128)) := by
    rw [xBlockNum, Nat.div_div_eq_div_mul, Nat.mod_eq_of_lt (show y / 64 < 256 by omega)]
    ring
  have hlast : (y / 32 % 2 = 0 ∧ y < height ∧ (height - 1) / 32 = y / 32) ↔
      y / 32 % 2 = 0 ∧ ¬ y / 32 + 1 < (height + 31) / 32 := by
    omega
  rw [tileNumber_eq, hrows, bankNumber, hround, tileInPair]
  simp only [UnpairedRow, hlast]
  generalize y / 64 % 256 * ((width + 127) / 128) = rows
  by_cases hodd : y / 32 % 2 = 1
  · simp only [hodd, if_true, Nat.one_ne_zero, false_and, if_false]
    split <;> omega
  · have heven : y / 32 % 2 = 0 := by omega
    by_cases hnext : y / 32 + 1 < (height + 31) / 32
    · simp only [heven, hnext, not_true_eq_false, and_false, if_true, if_false, Nat.zero_ne_one]
      split <;> omega
    · simp only [heven, hnext, not_false_eq_true, and_self, if_true, if_false, Nat.zero_ne_one]
      split <;> omega

/-- `tile4x2Read` keeps some bits of the column only; what it drops may also be lost in 32 bits. -/
theorem readAddr_eq_pixelAddr_iff (hx : x < width) (hy : y < height) (hy' : y < 16384) :
    readAddr width height x y = pixelAddr width height (x, y) ↔
      x / 16384 % (if UnpairedRow height y then 8192 else 4096) = 0 := by
  have hnum := @bankNumber_add width height (x / 64) y (by omega) hy hy'
  rw [readAddr_eq, pixelAddr, ← hnum]
  dsimp only
  split_ifs <;> omega

end ExynosHal.SwConverter
