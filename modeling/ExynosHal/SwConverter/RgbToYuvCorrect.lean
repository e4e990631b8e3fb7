import ExynosHal.SwConverter.RgbToYuv

/-! # RGB to YUV 4:2:0 is exact

Each sample is computed modulo 2^32, shifted and cut to a byte, and is still the exact one.
-/

namespace ExynosHal.SwConverter
open Library
open BitVec (ofInt ofInt_add ofInt_mul toNat_mul toNat_ofNat toNat_setWidth toNat_ushiftRight)

theorem sample_toNat (z : Int) (c : Nat) :
    ((((ofInt 32 z >>> 8) + BitVec.ofNat 32 c).setWidth 8).toNat : Int) = (z / 256 + c) % 256 := by
  simp only [toNat_setWidth, BitVec.toNat_add, toNat_ushiftRight, BitVec.toNat_ofInt,
    toNat_ofNat, Nat.shiftRight_eq_div_pow]
  push_cast
  omega

structure Channels where
  r : Nat
  g : Nat
  b : Nat
  r_le : r ≤ 255
  g_le : g ≤ 255
  b_le : b ≤ 255

namespace Channels

def y (c : Channels) : Int := (66 * c.r + 129 * c.g + 25 * c.b + 128) / 256 + 16

def u (c : Channels) : Int := (-38 * c.r - 74 * c.g + 112 * c.b + 128) / 256 + 128

def v (c : Channels) : Int := (112 * c.r - 94 * c.g - 18 * c.b + 128) / 256 + 128

end Channels

structure IsSample (low high : Int) (x : Int) (byte : Byte) : Prop where
  eq : (byte.toNat : Int) = x
  low_le : low ≤ x
  le_high : x ≤ high

theorem IsSample.of_word {z x low high : Int} {c : Nat} {word : U32}
    (hword : word = (ofInt 32 z >>> 8) + BitVec.ofNat 32 c) (hx : x = z / 256 + c) (hlow : low ≤ x)
    (hhigh : x ≤ high) (hbyte : 0 ≤ low ∧ high ≤ 255) : IsSample low high x (word.setWidth 8) := by
  refine ⟨?_, hlow, hhigh⟩
  rw [hword, sample_toNat, ← hx]
  omega

structure Rgb.Reads (p : Rgb) (c : Channels) : Prop where
  r : p.r.toNat = c.r
  g : p.g.toNat = c.g
  b : p.b.toNat = c.b

namespace Rgb.Reads

variable {p : Rgb} {c : Channels}

theorem weighted (h : p.Reads c) (kr kg kb k : Int) :
    ofInt 32 kr * p.r + ofInt 32 kg * p.g + ofInt 32 kb * p.b + ofInt 32 k =
      ofInt 32 (kr * c.r + kg * c.g + kb * c.b + k) := by
  have hchannel (x : U32) : ofInt 32 x.toNat = x := by
    rw [BitVec.ofInt_natCast, BitVec.ofNat_toNat, BitVec.setWidth_eq]
  rw [← h.r, ← h.g, ← h.b, ofInt_add, ofInt_add, ofInt_add, ofInt_mul, ofInt_mul,
    ofInt_mul, hchannel, hchannel, hchannel]

theorem y_isSample (h : p.Reads c) : IsSample 16 235 c.y (p.y.setWidth 8) := by
  obtain ⟨r, g, b, hr, hg, hb⟩ := c
  have hword := congrArg (fun w : U32 => (w >>> 8) + 16#32) (h.weighted 66 129 25 128)
  refine .of_word hword rfl ?_ ?_ (by decide) <;> simp only [Channels.y] <;> omega

theorem u_isSample (h : p.Reads c) : IsSample 16 240 c.u (p.u.setWidth 8) := by
  obtain ⟨r, g, b, hr, hg, hb⟩ := c
  have hword := congrArg (fun w : U32 => (w >>> 8) + 128#32) (h.weighted (-38) (-74) 112 128)
  have hsub : p.u = ((-38#32 * p.r + -74#32 * p.g + 112#32 * p.b + 128#32) >>> 8) + 128#32 := by
    rw [Rgb.u, BitVec.sub_eq_add_neg, ← BitVec.neg_mul]
  rw [hsub]
  refine .of_word hword ?_ ?_ ?_ (by decide) <;> simp only [Channels.u] <;> omega

theorem v_isSample (h : p.Reads c) : IsSample 16 240 c.v (p.v.setWidth 8) := by
  obtain ⟨r, g, b, hr, hg, hb⟩ := c
  have hword := congrArg (fun w : U32 => (w >>> 8) + 128#32) (h.weighted 112 (-94) (-18) 128)
  have hsub : p.v = ((112#32 * p.r + -94#32 * p.g + -18#32 * p.b + 128#32) >>> 8) + 128#32 := by
    rw [Rgb.v, BitVec.sub_eq_add_neg, BitVec.sub_eq_add_neg, ← BitVec.neg_mul, ← BitVec.neg_mul]
  rw [hsub]
  refine .of_word hword ?_ ?_ ?_ (by decide) <;> simp only [Channels.v] <;> omega

end Rgb.Reads

theorem and_field (x k n : Nat) : x &&& ((2 ^ n - 1) <<< k) = x / 2 ^ k % 2 ^ n * 2 ^ k := by
  have hfield : x &&& ((2 ^ n - 1) <<< k) = ((x >>> k) &&& (2 ^ n - 1)) <<< k := by
    apply Nat.eq_of_testBit_eq
    intro i
    simp only [Nat.testBit_and, Nat.testBit_shiftLeft, Nat.testBit_shiftRight]
    by_cases hi : k ≤ i
    · simp [hi, Nat.add_sub_cancel' hi]
    · simp [hi]
  rw [hfield, Nat.and_two_pow_sub_one_eq_mod, Nat.shiftRight_eq_div_pow, Nat.shiftLeft_eq]

variable (t : U32)

theorem and_mask_toNat {mask : U32} (k n : Nat) (hmask : mask.toNat = (2 ^ n - 1) <<< k) :
    (t &&& mask).toNat = t.toNat / 2 ^ k % 2 ^ n * 2 ^ k := by
  rw [BitVec.toNat_and, hmask, and_field]

variable (n : Nat)

theorem field5_le : n % 32 * 8 ≤ 255 := by omega

theorem field6_le : n % 64 * 4 ≤ 255 := by omega

theorem field8_le : n % 256 ≤ 255 := by omega

def channelsRGB565 (p : U16) : Channels where
  r := p.toNat / 2048 % 32 * 8
  g := p.toNat / 32 % 64 * 4
  b := p.toNat % 32 * 8
  r_le := field5_le _
  g_le := field6_le _
  b_le := field5_le _

def channelsBGRA (p : U32) : Channels where
  r := p.toNat / 65536 % 256
  g := p.toNat / 256 % 256
  b := p.toNat % 256
  r_le := field8_le _
  g_le := field8_le _
  b_le := field8_le _

def channelsRGBA (p : U32) : Channels where
  r := p.toNat % 256
  g := p.toNat / 256 % 256
  b := p.toNat / 65536 % 256
  r_le := field8_le _
  g_le := field8_le _
  b_le := field8_le _

theorem byte_fields : ((t &&& 0x00FF0000#32) >>> 16).toNat = t.toNat / 65536 % 256 ∧
      ((t &&& 0x0000FF00#32) >>> 8).toNat = t.toNat / 256 % 256 ∧ (t &&& 0x000000FF#32).toNat = t.toNat % 256 := by
  have hhigh : (t &&& 0x00FF0000#32).toNat = _ := and_mask_toNat t 16 8 rfl
  have hmiddle : (t &&& 0x0000FF00#32).toNat = _ := and_mask_toNat t 8 8 rfl
  have hlow : (t &&& 0x000000FF#32).toNat = _ := and_mask_toNat t 0 8 rfl
  rw [toNat_ushiftRight, toNat_ushiftRight, hhigh, hmiddle, hlow, Nat.shiftRight_eq_div_pow, Nat.shiftRight_eq_div_pow]
  omega

theorem splitBGRA_reads : (splitBGRA t).Reads (channelsBGRA t) := by
  obtain ⟨hr, hg, hb⟩ := byte_fields t
  exact ⟨hr, hg, hb⟩

theorem splitRGBA_reads : (splitRGBA t).Reads (channelsRGBA t) := by
  obtain ⟨hb, hg, hr⟩ := byte_fields t
  exact ⟨hr, hg, hb⟩

variable (p : U16)

theorem short_fields : (p.setWidth 32 &&& 0x0000F800#32).toNat = p.toNat / 2048 % 32 * 2048 ∧
    (p.setWidth 32 &&& 0x000007E0#32).toNat = p.toNat / 32 % 64 * 32 ∧
      (p.setWidth 32 &&& 0x0000001F#32).toNat = p.toNat % 32 := by
  have hwide : (p.setWidth 32).toNat = p.toNat := by
    rw [toNat_setWidth]
    omega
  rw [and_mask_toNat _ 11 5 rfl, and_mask_toNat _ 5 6 rfl, and_mask_toNat _ 0 5 rfl, hwide]
  omega

theorem split565_reads : Rgb.Reads {
        r := (p.setWidth 32 &&& 0x0000F800#32) >>> 8
        g := (p.setWidth 32 &&& 0x000007E0#32) >>> 3
        b := (p.setWidth 32 &&& 0x0000001F#32) <<< 3 } (channelsRGB565 p) := by
  obtain ⟨hr, hg, hb⟩ := short_fields p
  constructor <;> simp only [toNat_ushiftRight, BitVec.toNat_shiftLeft, hr, hg, hb, Nat.shiftRight_eq_div_pow,
    Nat.shiftLeft_eq, channelsRGB565] <;> omega

theorem split565Mul_reads : Rgb.Reads {
        r := ((p.setWidth 32 &&& 0x0000F800#32) >>> 11) * 8#32
        g := ((p.setWidth 32 &&& 0x000007E0#32) >>> 5) * 4#32
        b := (p.setWidth 32 &&& 0x0000001F#32) * 8#32 } (channelsRGB565 p) := by
  obtain ⟨hr, hg, hb⟩ := short_fields p
  constructor <;> simp only [toNat_mul, toNat_ushiftRight, hr, hg, hb, Nat.shiftRight_eq_div_pow, toNat_ofNat,
    channelsRGB565] <;> omega

section
variable {σ : Type} {width height : Nat}

theorem overPixels_rule {pixel : Nat → Nat → σ → σ} {I : Nat → Nat → σ → Prop}
    (hpixel : ∀ j i s, j < height → i < width → I j i s → I j (i + 1) (pixel j i s))
    (hrow : ∀ j s, I j width s → I (j + 1) 0 s) {s : σ} (hs : I 0 0 s) :
    I height 0 (overPixels width height pixel s) := by
  refine @forLoop_one _ height _ (fun j s => I j 0 s) ?_ s hs
  intro j s hj hI
  exact hrow j _ (@forLoop_one _ width _ (fun i s => I j i s) (fun i s hi => hpixel j i s hj hi) s hI)

def chromaCount (width j i : Nat) : Nat := (j + 1) / 2 * (width / 2) + if j % 2 = 0 then (i + 1) / 2 else 0

variable {j i : Nat}

theorem chromaCount_even (hj : j % 2 = 0) (hi : i % 2 = 0) :
    chromaCount width j i = j / 2 * (width / 2) + i / 2 ∧ chromaCount width j (i + 1) = chromaCount width j i + 1 := by
  have hrow : (j + 1) / 2 = j / 2 := by omega
  rw [chromaCount, chromaCount, if_pos hj, if_pos hj, hrow]
  omega

theorem chromaCount_skip (h : ¬ (j % 2 = 0 ∧ i % 2 = 0)) : chromaCount width j (i + 1) = chromaCount width j i := by
  rw [chromaCount, chromaCount]
  split
  · omega
  · rfl

theorem chromaCount_row (hwidth : 2 ∣ width) (j : Nat) : chromaCount width (j + 1) 0 = chromaCount width j width := by
  rw [chromaCount, chromaCount]
  by_cases hj : j % 2 = 0
  · have hnext : (j + 1 + 1) / 2 = (j + 1) / 2 + 1 := by omega
    have hodd : (j + 1) % 2 ≠ 0 := by omega
    have hhalf : (width + 1) / 2 = width / 2 := by omega
    rw [if_pos hj, if_neg hodd, hnext, hhalf, Nat.add_mul, Nat.one_mul, Nat.add_zero]
  · have hnext : (j + 1 + 1) / 2 = (j + 1) / 2 := by omega
    rw [if_neg hj, hnext]
    split <;> rfl

theorem chromaCount_lt (hj : j < height) (hi : i < width) (hheight : 2 ∣ height) (hwidth : 2 ∣ width)
    (hj0 : j % 2 = 0) (hi0 : i % 2 = 0) : 2 * (2 * chromaCount width j i) < width * height := by
  obtain ⟨w, rfl⟩ := hwidth
  obtain ⟨h, rfl⟩ := hheight
  rw [(chromaCount_even hj0 hi0).1, Nat.mul_div_cancel_left w two_pos]
  have hlt := rowMajor_lt (show i / 2 < w by omega) (show j / 2 < h by omega)
  calc
    2 * (2 * (j / 2 * w + i / 2)) < 2 * (2 * (w * h)) := by omega
    _ = 2 * w * (2 * h) := by ring

theorem append_sample (init : Buffer) (f : Nat → Byte) {n index : Nat} (hidx : index = n % 4294967296)
    (hn : n < 4294967296) {b : Byte} (hb : b = f n) :
    Function.update (copy init 0 f n) index b = copy init 0 f (n + 1) ∧ increment index = (n + 1) % 4294967296 := by
  have hsame : index = 0 + n := by
    rw [hidx, Nat.mod_eq_of_lt hn, Nat.zero_add]
  constructor
  · rw [hsame, hb]
    exact copy_succ init 0 f n
  · rw [increment, hidx, Nat.mod_add_mod]

/-- The planes after `luma` and `chroma` samples. -/
structure Planar.Wrote (init : Planar) (f g h : Nat → Byte) (luma chroma : Nat) (s : Planar) : Prop where
  y : s.y = copy init.y 0 f luma
  u : s.u = copy init.u 0 g chroma
  v : s.v = copy init.v 0 h chroma
  yIndex : s.yIndex = luma % 4294967296
  uIndex : s.uIndex = chroma % 4294967296
  vIndex : s.vIndex = chroma % 4294967296

variable {luma chroma chroma' : Nat} {p : Rgb}

theorem Planar.Wrote.pixel {init s : Planar} {f g h : Nat → Byte}
    (hs : Wrote init f g h luma chroma s) (hluma : luma < 4294967296) (hf : p.y.setWidth 8 = f luma)
    (hchroma : j % 2 = 0 ∧ i % 2 = 0 → chroma < 4294967296 ∧ p.u.setWidth 8 = g chroma ∧ p.v.setWidth 8 = h chroma ∧
      chroma' = chroma + 1)
    (hskip : ¬ (j % 2 = 0 ∧ i % 2 = 0) → chroma' = chroma) :
    Wrote init f g h (luma + 1) chroma' (s.pixel p j i) := by
  obtain ⟨hy, hyIdx⟩ := append_sample init.y f hs.yIndex hluma hf
  rw [Planar.pixel]
  by_cases hcond : j % 2 = 0 ∧ i % 2 = 0
  · obtain ⟨hlt, hg, hh, rfl⟩ := hchroma hcond
    obtain ⟨hu, huIdx⟩ := append_sample init.u g hs.uIndex hlt hg
    obtain ⟨hv, hvIdx⟩ := append_sample init.v h hs.vIndex hlt hh
    rw [if_pos hcond, hs.y, hs.u, hs.v]
    exact ⟨hy, hu, hv, hyIdx, huIdx, hvIdx⟩
  · obtain rfl := hskip hcond
    rw [if_neg hcond, hs.y]
    exact ⟨hy, hs.u, hs.v, hyIdx, hs.uIndex, hs.vIndex⟩

structure SemiPlanar.Wrote (init : SemiPlanar) (f g : Nat → Byte) (luma chroma : Nat) (s : SemiPlanar) : Prop where
  y : s.y = copy init.y 0 f luma
  uv : s.uv = copy init.uv 0 g (2 * chroma)
  yIndex : s.yIndex = luma % 4294967296
  uvIndex : s.uvIndex = 2 * chroma % 4294967296

theorem SemiPlanar.Wrote.pixel {init s : SemiPlanar} {f g : Nat → Byte}
    (hs : Wrote init f g luma chroma s) (hluma : luma < 4294967296) (hf : p.y.setWidth 8 = f luma)
    (hchroma : j % 2 = 0 ∧ i % 2 = 0 → 2 * chroma + 1 < 4294967296 ∧ p.u.setWidth 8 = g (2 * chroma) ∧
      p.v.setWidth 8 = g (2 * chroma + 1) ∧ chroma' = chroma + 1)
    (hskip : ¬ (j % 2 = 0 ∧ i % 2 = 0) → chroma' = chroma) :
    Wrote init f g (luma + 1) chroma' (s.pixel p j i) := by
  obtain ⟨hy, hyIdx⟩ := append_sample init.y f hs.yIndex hluma hf
  rw [SemiPlanar.pixel]
  by_cases hcond : j % 2 = 0 ∧ i % 2 = 0
  · obtain ⟨hlt, hg, hh, rfl⟩ := hchroma hcond
    obtain ⟨hu, huIdx⟩ := append_sample init.uv g hs.uvIndex (by omega) hg
    obtain ⟨hv, hvIdx⟩ := append_sample init.uv g huIdx hlt hh
    rw [if_pos hcond, hs.y]
    dsimp only
    rw [hs.uv, hu]
    exact ⟨hy, hv, hyIdx, hvIdx⟩
  · obtain rfl := hskip hcond
    rw [if_neg hcond, hs.y]
    exact ⟨hy, hs.uv, hyIdx, hs.uvIndex⟩

theorem cell_div_mod {w i : Nat} (hi : i < w) (j : Nat) : (j * w + i) / w = j ∧ (j * w + i) % w = i := by
  have hpos : 0 < w := by omega
  constructor
  · rw [Nat.add_comm, Nat.add_mul_div_right i j hpos, Nat.div_eq_of_lt hi, Nat.zero_add]
  · rw [Nat.add_comm, Nat.add_mul_mod_self_right, Nat.mod_eq_of_lt hi]

def lumaOf (pixel : Nat → Nat → Rgb) (width n : Nat) : Byte := (pixel (n / width) (n % width)).y.setWidth 8

def cbOf (pixel : Nat → Nat → Rgb) (width n : Nat) : Byte :=
  (pixel (2 * (n / (width / 2))) (2 * (n % (width / 2)))).u.setWidth 8

def crOf (pixel : Nat → Nat → Rgb) (width n : Nat) : Byte :=
  (pixel (2 * (n / (width / 2))) (2 * (n % (width / 2)))).v.setWidth 8

def pairOf (pixel : Nat → Nat → Rgb) (width n : Nat) : Byte :=
  if n % 2 = 0 then cbOf pixel width (n / 2) else crOf pixel width (n / 2)

variable (pixel : Nat → Nat → Rgb)

theorem lumaOf_cell (hi : i < width) (j : Nat) : lumaOf pixel width (j * width + i) = (pixel j i).y.setWidth 8 := by
  obtain ⟨hdiv, hmod⟩ := cell_div_mod hi j
  rw [lumaOf, hdiv, hmod]

theorem chromaOf_cell (hi : i < width / 2) (j : Nat) :
    cbOf pixel width (j * (width / 2) + i) = (pixel (2 * j) (2 * i)).u.setWidth 8 ∧
      crOf pixel width (j * (width / 2) + i) = (pixel (2 * j) (2 * i)).v.setWidth 8 := by
  obtain ⟨hdiv, hmod⟩ := cell_div_mod hi j
  rw [cbOf, crOf, hdiv, hmod]
  exact ⟨rfl, rfl⟩

theorem pairOf_cell (n : Nat) :
    pairOf pixel width (2 * n) = cbOf pixel width n ∧ pairOf pixel width (2 * n + 1) = crOf pixel width n := by
  have heven : 2 * n % 2 = 0 := by omega
  have hodd : (2 * n + 1) % 2 ≠ 0 := by omega
  have hhalf : 2 * n / 2 = n ∧ (2 * n + 1) / 2 = n := by omega
  rw [pairOf, pairOf, if_pos heven, if_neg hodd, hhalf.1, hhalf.2]
  exact ⟨rfl, rfl⟩

theorem chroma_at_pixel (hwidth : 2 ∣ width) (hi : i < width) (heven : j % 2 = 0 ∧ i % 2 = 0) :
    (pixel j i).u.setWidth 8 = cbOf pixel width (chromaCount width j i) ∧
      (pixel j i).v.setWidth 8 = crOf pixel width (chromaCount width j i) := by
  have hcell := chromaOf_cell pixel (show i / 2 < width / 2 by omega) (j / 2)
  have hj : 2 * (j / 2) = j := by omega
  have hi : 2 * (i / 2) = i := by omega
  rw [hj, hi] at hcell
  rw [(chromaCount_even heven.1 heven.2).1, hcell.1, hcell.2]
  exact ⟨rfl, rfl⟩

theorem counts_at_end (hheight : 2 ∣ height) :
    height * width + 0 = width * height ∧ chromaCount width height 0 = width / 2 * (height / 2) := by
  have hhalf : (height + 1) / 2 = height / 2 := by omega
  rw [chromaCount, hhalf, ite_self, Nat.add_zero, Nat.add_zero, Nat.mul_comm height, Nat.mul_comm (height / 2)]
  exact ⟨rfl, rfl⟩

theorem toPlanar_wrote (hwidth : 2 ∣ width) (hheight : 2 ∣ height)
    (hsize : width * height ≤ 4294967296) (y u v : Buffer) :
    Planar.Wrote ⟨y, u, v, 0, 0, 0⟩ (lumaOf pixel width) (cbOf pixel width) (crOf pixel width) (width * height)
      (width / 2 * (height / 2)) (toPlanar pixel width height y u v) := by
  obtain ⟨hluma, hchroma⟩ := @counts_at_end width height hheight
  rw [← hluma, ← hchroma]
  apply overPixels_rule (I := fun j i s => Planar.Wrote ⟨y, u, v, 0, 0, 0⟩ (lumaOf pixel width) (cbOf pixel width)
    (crOf pixel width) (j * width + i) (chromaCount width j i) s)
  · intro j i s hj hi hs
    have hlt := rowMajor_lt hi hj
    refine hs.pixel (by omega) (lumaOf_cell pixel hi j).symm ?_ (fun hskip => chromaCount_skip hskip)
    intro heven
    have hcnt := chromaCount_lt hj hi hheight hwidth heven.1 heven.2
    obtain ⟨hu, hv⟩ := chroma_at_pixel pixel hwidth hi heven
    exact ⟨by omega, hu, hv, (chromaCount_even heven.1 heven.2).2⟩
  · intro j s hs
    rwa [Nat.add_mul, Nat.one_mul, chromaCount_row hwidth]
  · have hstart : chromaCount width 0 0 = 0 := by simp [chromaCount]
    rw [hstart, Nat.zero_mul]
    constructor <;> simp [copy_zero]

theorem toSemiPlanar_wrote (hwidth : 2 ∣ width) (hheight : 2 ∣ height)
    (hsize : width * height ≤ 4294967296) (y uv : Buffer) :
    SemiPlanar.Wrote ⟨y, uv, 0, 0⟩ (lumaOf pixel width) (pairOf pixel width) (width * height)
      (width / 2 * (height / 2)) (toSemiPlanar pixel width height y uv) := by
  obtain ⟨hluma, hchroma⟩ := @counts_at_end width height hheight
  rw [← hluma, ← hchroma]
  apply overPixels_rule (I := fun j i s => SemiPlanar.Wrote ⟨y, uv, 0, 0⟩ (lumaOf pixel width) (pairOf pixel width)
    (j * width + i) (chromaCount width j i) s)
  · intro j i s hj hi hs
    have hlt := rowMajor_lt hi hj
    refine hs.pixel (by omega) (lumaOf_cell pixel hi j).symm ?_ (fun hskip => chromaCount_skip hskip)
    intro heven
    have hcnt := chromaCount_lt hj hi hheight hwidth heven.1 heven.2
    obtain ⟨hu, hv⟩ := chroma_at_pixel pixel hwidth hi heven
    obtain ⟨hfst, hsnd⟩ := @pairOf_cell width pixel (chromaCount width j i)
    exact ⟨by omega, hu.trans hfst.symm, hv.trans hsnd.symm, (chromaCount_even heven.1 heven.2).2⟩
  · intro j s hs
    rwa [Nat.add_mul, Nat.one_mul, chromaCount_row hwidth]
  · have hstart : chromaCount width 0 0 = 0 := by simp [chromaCount]
    rw [hstart, Nat.zero_mul]
    constructor <;> simp [copy_zero]

end

structure IsPlanarPicture (width height : Nat) (picture : Nat → Nat → Channels) (y u v : Buffer) (s : Planar) :
    Prop where
  luma : ∀ i < width, ∀ j < height, IsSample 16 235 (picture j i).y (s.y (j * width + i))
  luma_outside : ∀ n, width * height ≤ n → s.y n = y n
  cb : ∀ i < width / 2, ∀ j < height / 2, IsSample 16 240 (picture (2 * j) (2 * i)).u (s.u (j * (width / 2) + i))
  cb_outside : ∀ n, width / 2 * (height / 2) ≤ n → s.u n = u n
  cr : ∀ i < width / 2, ∀ j < height / 2, IsSample 16 240 (picture (2 * j) (2 * i)).v (s.v (j * (width / 2) + i))
  cr_outside : ∀ n, width / 2 * (height / 2) ≤ n → s.v n = v n

structure IsSemiPlanarPicture (width height : Nat) (picture : Nat → Nat → Channels) (y uv : Buffer) (s : SemiPlanar) :
    Prop where
  luma : ∀ i < width, ∀ j < height, IsSample 16 235 (picture j i).y (s.y (j * width + i))
  luma_outside : ∀ n, width * height ≤ n → s.y n = y n
  cb : ∀ i < width / 2, ∀ j < height / 2, IsSample 16 240 (picture (2 * j) (2 * i)).u (s.uv (2 * (j * (width / 2) + i)))
  cr : ∀ i < width / 2, ∀ j < height / 2,
    IsSample 16 240 (picture (2 * j) (2 * i)).v (s.uv (2 * (j * (width / 2) + i) + 1))
  chroma_outside : ∀ n, 2 * (width / 2 * (height / 2)) ≤ n → s.uv n = uv n

structure Interleaves (width height : Nat) (planar : Planar) (semiPlanar : SemiPlanar) : Prop where
  luma : ∀ n < width * height, semiPlanar.y n = planar.y n
  cb : ∀ n < width / 2 * (height / 2), semiPlanar.uv (2 * n) = planar.u n
  cr : ∀ n < width / 2 * (height / 2), semiPlanar.uv (2 * n + 1) = planar.v n

variable {mem : Buffer} {f : Nat → Byte}

theorem copy_inside {len n : Nat} (hn : n < len) : copy mem 0 f len n = f n := by
  rw [copy, if_pos ⟨Nat.zero_le n, by omega⟩, Nat.sub_zero]

theorem copy_outside {len n : Nat} (hn : len ≤ n) : copy mem 0 f len n = mem n := by
  rw [copy, if_neg (by omega)]

section
variable {pixel : Nat → Nat → Rgb} {picture : Nat → Nat → Channels} {width height : Nat}

theorem toPlanar_isPicture (hwidth : 2 ∣ width) (hheight : 2 ∣ height) (hsize : width * height ≤ 4294967296)
    (hreads : ∀ j < height, ∀ i < width, (pixel j i).Reads (picture j i)) (y u v : Buffer) :
    IsPlanarPicture width height picture y u v (toPlanar pixel width height y u v) := by
  have hwrote := toPlanar_wrote pixel hwidth hheight hsize y u v
  constructor
  · intro i hi j hj
    rw [hwrote.y, copy_inside (rowMajor_lt hi hj), lumaOf_cell pixel hi j]
    exact (hreads j hj i hi).y_isSample
  · intro n hn
    rw [hwrote.y, copy_outside hn]
  · intro i hi j hj
    rw [hwrote.u, copy_inside (rowMajor_lt hi hj), (chromaOf_cell pixel hi j).1]
    exact (hreads _ (by omega) _ (by omega)).u_isSample
  · intro n hn
    rw [hwrote.u, copy_outside hn]
  · intro i hi j hj
    rw [hwrote.v, copy_inside (rowMajor_lt hi hj), (chromaOf_cell pixel hi j).2]
    exact (hreads _ (by omega) _ (by omega)).v_isSample
  · intro n hn
    rw [hwrote.v, copy_outside hn]

theorem toSemiPlanar_isPicture (hwidth : 2 ∣ width) (hheight : 2 ∣ height) (hsize : width * height ≤ 4294967296)
    (hreads : ∀ j < height, ∀ i < width, (pixel j i).Reads (picture j i)) (y uv : Buffer) :
    IsSemiPlanarPicture width height picture y uv (toSemiPlanar pixel width height y uv) := by
  have hwrote := toSemiPlanar_wrote pixel hwidth hheight hsize y uv
  constructor
  · intro i hi j hj
    rw [hwrote.y, copy_inside (rowMajor_lt hi hj), lumaOf_cell pixel hi j]
    exact (hreads j hj i hi).y_isSample
  · intro n hn
    rw [hwrote.y, copy_outside hn]
  · intro i hi j hj
    have hlt := rowMajor_lt hi hj
    rw [hwrote.uv, copy_inside (by omega), (pairOf_cell pixel _).1, (chromaOf_cell pixel hi j).1]
    exact (hreads _ (by omega) _ (by omega)).u_isSample
  · intro i hi j hj
    have hlt := rowMajor_lt hi hj
    rw [hwrote.uv, copy_inside (by omega), (pairOf_cell pixel _).2, (chromaOf_cell pixel hi j).2]
    exact (hreads _ (by omega) _ (by omega)).v_isSample
  · intro n hn
    rw [hwrote.uv, copy_outside hn]

theorem IsSample.unique {low high x : Int} {b b' : Byte} (h : IsSample low high x b) (h' : IsSample low high x b') :
    b = b' := by
  apply BitVec.eq_of_toNat_eq
  have heq := h.eq.trans h'.eq.symm
  omega

theorem IsSemiPlanarPicture.interleaves {y u v y' uv : Buffer} {planar : Planar} {semiPlanar : SemiPlanar}
    (hsemi : IsSemiPlanarPicture width height picture y' uv semiPlanar)
    (hplanar : IsPlanarPicture width height picture y u v planar) : Interleaves width height planar semiPlanar := by
  have hcell {w h n : Nat} (hn : n < w * h) : n % w < w ∧ n / w < h ∧ n / w * w + n % w = n := by
    have hpos : 0 < w := Nat.pos_of_mul_pos_right (by omega : 0 < w * h)
    exact ⟨Nat.mod_lt n hpos, Nat.div_lt_of_lt_mul hn, Nat.div_add_mod' n w⟩
  constructor
  · intro n hn
    obtain ⟨hi, hj, heq⟩ := hcell hn
    rw [← heq]
    exact (hsemi.luma _ hi _ hj).unique (hplanar.luma _ hi _ hj)
  · intro n hn
    obtain ⟨hi, hj, heq⟩ := hcell hn
    rw [← heq]
    exact (hsemi.cb _ hi _ hj).unique (hplanar.cb _ hi _ hj)
  · intro n hn
    obtain ⟨hi, hj, heq⟩ := hcell hn
    rw [← heq]
    exact (hsemi.cr _ hi _ hj).unique (hplanar.cr _ hi _ hj)

end

def swapRB (p : U32) : U32 :=
  (p &&& 0xFF00FF00#32) ||| ((p &&& 0x000000FF#32) <<< 16) ||| ((p &&& 0x00FF0000#32) >>> 16)

theorem splitRGBA_swapRB (p : U32) : splitRGBA (swapRB p) = splitBGRA p := by
  have hr : swapRB p &&& 0x000000FF#32 = (p &&& 0x00FF0000#32) >>> 16 := by
    rw [swapRB]
    ext i hi
    interval_cases i <;> simp
  have hg : (swapRB p &&& 0x0000FF00#32) >>> 8 = (p &&& 0x0000FF00#32) >>> 8 := by
    rw [swapRB]
    ext i hi
    interval_cases i <;> simp
  have hb : (swapRB p &&& 0x00FF0000#32) >>> 16 = p &&& 0x000000FF#32 := by
    rw [swapRB]
    ext i hi
    interval_cases i <;> simp
  rw [splitRGBA, splitBGRA, hr, hg, hb]

def pictureRGB565 (src : Int → U16) (width j i : Nat) : Channels := channelsRGB565 (src (j * width + i : Nat))

def pictureBGRA (src : Nat → U32) (width j i : Nat) : Channels := channelsBGRA (src (j * width + i))

def pictureRGBA (src : Nat → U32) (width j i : Nat) : Channels := channelsRGBA (src (j * width + i))

structure ConvertsRGB565 (width height : Nat) : Prop where
  planar : ∀ y u v src, IsPlanarPicture width height (pictureRGB565 src width) y u v
    (cscRGB565ToYUV420P y u v src width height)
  semiPlanar : ∀ y uv src, IsSemiPlanarPicture width height (pictureRGB565 src width) y uv
    (cscRGB565ToYUV420SP y uv src width height)
  interleaves : ∀ y u v y' uv src, Interleaves width height (cscRGB565ToYUV420P y u v src width height)
    (cscRGB565ToYUV420SP y' uv src width height)

structure ConvertsRGB8888 (width height : Nat) : Prop where
  bgraPlanar : ∀ y u v src, IsPlanarPicture width height (pictureBGRA src width) y u v
    (cscBGRA8888ToYUV420P y u v src width height)
  rgbaPlanar : ∀ y u v src, IsPlanarPicture width height (pictureRGBA src width) y u v
    (cscRGBA8888ToYUV420P y u v src width height)
  bgraSemiPlanar : ∀ y uv src, IsSemiPlanarPicture width height (pictureBGRA src width) y uv
    (cscBGRA8888ToYUV420SP y uv src width height)
  rgbaSemiPlanar : ∀ y uv src, IsSemiPlanarPicture width height (pictureRGBA src width) y uv
    (cscRGBA8888ToYUV420SP y uv src width height)
  bgraInterleaves : ∀ y u v y' uv src, Interleaves width height (cscBGRA8888ToYUV420P y u v src width height)
    (cscBGRA8888ToYUV420SP y' uv src width height)
  rgbaInterleaves : ∀ y u v y' uv src, Interleaves width height (cscRGBA8888ToYUV420P y u v src width height)
    (cscRGBA8888ToYUV420SP y' uv src width height)
  swappedPlanar : ∀ y u v src, cscBGRA8888ToYUV420P y u v src width height =
    cscRGBA8888ToYUV420P y u v (swapRB ∘ src) width height
  swappedSemiPlanar : ∀ y uv src, cscBGRA8888ToYUV420SP y uv src width height =
    cscRGBA8888ToYUV420SP y uv (swapRB ∘ src) width height

section
variable {width height : Nat} {j i : Nat}

theorem loadShort_eq (src : Int → U16) (hi : i < width) (hj : j < height)
    (hsize : width * height < 2147483648) : loadShort src width j i = (src (j * width + i : Nat)).setWidth 32 := by
  have hlt := rowMajor_lt hi hj
  have hfits : IntType.i32.InRange ((j * width + i : Nat) : Int) := by
    rw [IntType.inRange_i32]
    omega
  rw [loadShort, ← IntType.convert_of_inRange hfits]
  push_cast
  rfl

theorem loadWord_eq (src : Nat → U32) (hi : i < width) (hj : j < height)
    (hsize : width * height ≤ 4294967296) : loadWord src width j i = src (j * width + i) := by
  have hlt := rowMajor_lt hi hj
  have hfits : IntType.u32.InRange ((j * width + i : Nat) : Int) := by
    rw [IntType.inRange_u32]
    omega
  have hidx : (IntType.u32.convert (j * width + i)).toNat = j * width + i := by
    have hconvert := IntType.convert_of_inRange hfits
    push_cast at hconvert
    rw [hconvert]
    omega
  rw [loadWord, hidx]

theorem convertsRGB565 (hwidth : 2 ∣ width) (hheight : 2 ∣ height) (hsize : width * height < 2147483648) :
    ConvertsRGB565 width height := by
  have hplanar (y u v : Buffer) (src : Int → U16) : IsPlanarPicture width height (pictureRGB565 src width) y u v
      (cscRGB565ToYUV420P y u v src width height) := by
    apply toPlanar_isPicture hwidth hheight (by omega)
    intro j hj i hi
    rw [loadShort_eq src hi hj hsize]
    exact split565_reads _
  have hsemi (y uv : Buffer) (src : Int → U16) : IsSemiPlanarPicture width height (pictureRGB565 src width) y uv
      (cscRGB565ToYUV420SP y uv src width height) := by
    apply toSemiPlanar_isPicture hwidth hheight (by omega)
    intro j hj i hi
    rw [loadShort_eq src hi hj hsize]
    exact split565Mul_reads _
  exact ⟨hplanar, hsemi, fun y u v y' uv src => (hsemi y' uv src).interleaves (hplanar y u v src)⟩

theorem convertsRGB8888 (hwidth : 2 ∣ width) (hheight : 2 ∣ height) (hsize : width * height ≤ 4294967296) :
    ConvertsRGB8888 width height := by
  have hbgra (src : Nat → U32) : ∀ j < height, ∀ i < width,
      (splitBGRA (loadWord src width j i)).Reads (pictureBGRA src width j i) := by
    intro j hj i hi
    rw [loadWord_eq src hi hj hsize]
    exact splitBGRA_reads _
  have hrgba (src : Nat → U32) : ∀ j < height, ∀ i < width,
      (splitRGBA (loadWord src width j i)).Reads (pictureRGBA src width j i) := by
    intro j hj i hi
    rw [loadWord_eq src hi hj hsize]
    exact splitRGBA_reads _
  have hswap (src : Nat → U32) (j i : Nat) :
      splitRGBA (loadWord (swapRB ∘ src) width j i) = splitBGRA (loadWord src width j i) := splitRGBA_swapRB _
  constructor
  · exact fun y u v src => toPlanar_isPicture hwidth hheight hsize (hbgra src) y u v
  · exact fun y u v src => toPlanar_isPicture hwidth hheight hsize (hrgba src) y u v
  · exact fun y uv src => toSemiPlanar_isPicture hwidth hheight hsize (hbgra src) y uv
  · exact fun y uv src => toSemiPlanar_isPicture hwidth hheight hsize (hrgba src) y uv
  · intro y u v y' uv src
    exact (toSemiPlanar_isPicture hwidth hheight hsize (hbgra src) y' uv).interleaves
      (toPlanar_isPicture hwidth hheight hsize (hbgra src) y u v)
  · intro y u v y' uv src
    exact (toSemiPlanar_isPicture hwidth hheight hsize (hrgba src) y' uv).interleaves
      (toPlanar_isPicture hwidth hheight hsize (hrgba src) y u v)
  · intro y u v src
    rw [cscBGRA8888ToYUV420P, cscRGBA8888ToYUV420P]
    simp only [hswap]
  · intro y uv src
    rw [cscBGRA8888ToYUV420SP, cscRGBA8888ToYUV420SP]
    simp only [hswap]

/-- Up to the sizes at which an index would overflow, every conversion writes the exact samples and nothing else. -/
theorem rgbConversions_exact (hwidth : 2 ∣ width) (hheight : 2 ∣ height) :
    (width * height < 2147483648 → ConvertsRGB565 width height) ∧
      (width * height ≤ 4294967296 → ConvertsRGB8888 width height) :=
  ⟨convertsRGB565 hwidth hheight, convertsRGB8888 hwidth hheight⟩

theorem rgbConversions_exact_largest : ConvertsRGB565 32768 65534 ∧ ConvertsRGB8888 65536 65536 := by
  have hshort := (rgbConversions_exact (show 2 ∣ 32768 by decide) (show 2 ∣ 65534 by decide)).1
  have hword := (rgbConversions_exact (show 2 ∣ 65536 by decide) (show 2 ∣ 65536 by decide)).2
  exact ⟨hshort (by decide), hword (by decide)⟩

theorem toPlanar_frame (pixel : Nat → Nat → Rgb) (y u v : Buffer) {n : Nat} (hn : 4294967296 ≤ n) :
    (toPlanar pixel width height y u v).y n = y n := by
  have hrun : (toPlanar pixel width height y u v).yIndex < 4294967296 ∧ (toPlanar pixel width height y u v).y n =
      y n := by
    apply overPixels_rule (I := fun _ _ (s : Planar) => s.yIndex < 4294967296 ∧ s.y n = y n)
    · rintro j i s - - ⟨hidx, hy⟩
      have hnext : increment s.yIndex < 4294967296 := Nat.mod_lt _ (by decide)
      have hkept : Function.update s.y s.yIndex ((pixel j i).y.setWidth 8) n = y n := by
        rw [Function.update_of_ne (by omega), hy]
      rw [Planar.pixel]
      split <;> exact ⟨hnext, hkept⟩
    · rintro j s hs
      exact hs
    · exact ⟨Nat.zero_lt_succ _, rfl⟩
  exact hrun.2

theorem tall_picture_not_converted : 2 ∣ 65536 ∧ 2 ∣ 65538 ∧ ¬ ConvertsRGB8888 65536 65538 := by
  refine ⟨by decide, by decide, fun h => ?_⟩
  have hluma :=
    ((h.bgraPlanar (fun _ => 0) (fun _ => 0) (fun _ => 0) (fun _ => 0)).luma 0 (by decide) 65536 (by decide)).eq
  rw [cscBGRA8888ToYUV420P, toPlanar_frame _ _ _ _ (by decide)] at hluma
  exact absurd hluma (by decide)

end

end ExynosHal.SwConverter
