import ExynosHal.SwConverter.Tiled64Crop

/-! # Round trip through tiles of 64x32

The writers put every pixel at its address, and the readers of a whole picture take it from
there.
-/

namespace ExynosHal.SwConverter
open Library

theorem cropAddr_whole {width height x y : Nat} (hx : x < width) (hy : y < height) (hheight : height ≤ 16384) :
    cropAddr width height 0 0 x y = pixelAddr width height (x, y) := by
  have hread : x < 256 → readAddr width height x y = pixelAddr width height (x, y) := fun hx' =>
    (readAddr_eq_pixelAddr_iff hx hy (by omega)).mpr (by rw [Nat.div_eq_of_lt (by omega), Nat.zero_mod])
  rcases Nat.lt_or_ge width 64 with hnarrow | hlow
  · rw [cropAddr_narrow (by omega), hread (by omega)]
  rcases Nat.lt_or_ge width 256 with hmiddle | hwide
  · rw [cropAddr_middle (by omega) (by omega), ← hread (by omega)]
    exact (middleAddr_eq_iff hlow hmiddle (Nat.zero_le x) (by omega)).mpr (by omega)
  · rw [cropAddr_wide (by omega)]

variable {width height : Nat}

theorem rowFits_whole (hw : 256 ≤ width) (hint : width < 2 ^ 31) (hplane : width * height ≤ 2 ^ 32) :
    RowFits width 0 (height - 1) := by
  rw [RowFits]
  rcases Nat.eq_zero_or_pos height with rfl | hpos
  · omega
  · rw [show height = height - 1 + 1 by omega, Nat.mul_succ, Nat.mul_comm] at hplane
    omega

theorem cscTiledToLinearCrop_isPlane (dest src : Buffer) (hint : 0 < height → width < 2 ^ 31)
    (heven : 2 ∣ width) (hheight : height ≤ 16384) (hplane : width * height ≤ 2 ^ 32) :
    IsPlane width height (fun x y => src (pixelAddr width height (x, y))) dest
      (cscTiledToLinearCrop dest src width height 0 0 0 0) := by
  rcases Nat.eq_zero_or_pos height with rfl | hpos
  · refine ⟨fun x _ y hy => absurd hy (Nat.not_lt_zero y), fun n _ => ?_⟩
    rw [cscTiledToLinearCrop, forLoop, if_neg (by omega)]
  have hfilled := @cscTiledToLinearCrop_filled dest src width height 0 0 0 0 width height (hint hpos) hheight
    (fun hw => rowFits_whole hw (hint hpos) hplane) (dvd_zero 2) (by rwa [Nat.zero_add])
      (by rw [Nat.zero_add, Nat.add_zero])
    (by rw [Nat.zero_add, Nat.add_zero])
  simp only [Nat.zero_add] at hfilled
  have hplane := isPlane_of_filled hfilled
  refine ⟨?_, hplane.outside⟩
  intro x hx y hy
  rw [hplane.sample_eq x hx y hy, cropAddr_whole hx hy hheight]

section
variable {put : Nat → Nat → Nat → Nat → Buffer → Buffer} {value : Nat × Nat → Byte} {init dest : Buffer}
  {width height : Nat} {D : Set (Nat × Nat)}

def Tiled (value : Nat × Nat → Byte) (init : Buffer) (width height : Nat) (D : Set (Nat × Nat)) (dest : Buffer) :
    Prop :=
  Filled (pixelAddr width height) value D init dest ∧ ∀ q ∈ D, q.1 < width ∧ q.2 < height

def Puts (put : Nat → Nat → Nat → Nat → Buffer → Buffer) (value : Nat × Nat → Byte) (init : Buffer)
    (width height : Nat) : Prop :=
  ∀ D x y len dest, 2 ∣ x → 2 ∣ len → x % 64 + len ≤ 64 → x + len ≤ width → y < height →
    Tiled value init width height D dest →
    Tiled value init width height (D ∪ rowPart x len y) (put (pixelAddr width height (x, y)) x y len dest)

theorem tiled_copyRun (hfits : TiledFits width height) {x y len : Nat} (h : Tiled value init width height D dest)
    (hx : x % 64 + len ≤ 64)
    (hwidth : x + len ≤ width) (hy : y < height) {f : Nat → Byte} (hf : ∀ t < len, f t = value (x + t, y)) :
    Tiled value init width height (D ∪ rowPart x len y) (copy dest (pixelAddr width height (x, y)) f len) := by
  obtain ⟨hfilled, hin⟩ := h
  constructor
  · rw [rowPart_eq]
    refine hfilled.copy ?_ hf ?_
    · intro t ht
      exact pixelAddr_add width height (by omega)
    · intro q hq t ht heq
      exact pixelAddr_inj hfits (hin q hq).1 (by dsimp only; omega) (hin q hq).2 hy heq
  · rintro q (hq | ⟨⟨-, hq⟩, hq'⟩)
    · exact hin q hq
    · omega

theorem pixelAddr_row (hfits : TiledFits width height) {i j k : Nat} (hi : i < height) (hk : i % 32 + k < 32) :
    pixelAddr width height (j, i + k) = tileStart width height i j + j % 64 + 64 * (i % 32 + k) := by
  have hwidth := hfits.width_le hi
  rw [pixelAddr, tileStart_eq _ _ _ (by omega)]
  dsimp only
  rw [show (i + k) / 32 = i / 32 by omega, show (i + k) % 32 = i % 32 + k by omega]
  omega

theorem Puts.rows (h : Puts put value init width height) {x len y rows : Nat} (hx : 2 ∣ x) (hlen : 2 ∣ len)
    (hfit : x % 64 + len ≤ 64) (hwidth : x + len ≤ width) (hrows : y + rows ≤ height) {addr : Nat → Nat}
    (haddr : ∀ k < rows, addr k = pixelAddr width height (x, y + k))
    (hD : Tiled value init width height D dest) :
    Tiled value init width height (D ∪ block x len y rows)
      (forLoop rows 1 (fun k dest => put (addr k) x (y + k) len dest) 0 dest).2 := by
  refine @forLoop_one _ rows _ (fun k dest => Tiled value init width height (D ∪ block x len y k) dest) ?_ dest ?_
  · intro k dest hk hdest
    have hnext := h _ x (y + k) len dest hx hlen hfit hwidth (by omega) hdest
    rwa [Set.union_assoc, block_union_rowPart, ← haddr k hk] at hnext
  · rwa [block_no_rows, Set.union_empty]

theorem Puts.columns (h : Puts put value init width height) {start bound len y rows : Nat} (hlen : 2 ∣ len)
    (hpos : 0 < len) (hsixty : len ∣ 64) (hstart : len ∣ start) (hbound : len ∣ bound) (hle : start ≤ bound)
    (hwidth : bound ≤ width) (hrows : y + rows ≤ height) {addr : Nat → Nat → Nat}
    (haddr : ∀ j k, len ∣ j → k < rows → addr j k = pixelAddr width height (j, y + k))
    (hD : Tiled value init width height D dest) :
    Tiled value init width height (D ∪ block start (bound - start) y rows) (forLoop bound len (fun j dest =>
        (forLoop rows 1 (fun k dest => put (addr j k) j (y + k) len dest) 0 dest).2) start dest).2 := by
  refine (@forLoop_dvd_from _ bound len _
    (fun j dest => Tiled value init width height (D ∪ block start (j - start) y rows) dest) hpos hbound start
    hstart hle ?_ dest ?_).2
  · intro j dest hj hdvd hlt hdest
    have hend : j + len ≤ bound :=
      Nat.add_le_of_le_sub' hlt.le (Nat.le_of_dvd (Nat.sub_pos_of_lt hlt) (Nat.dvd_sub hbound hdvd))
    have hfit : j % 64 + len ≤ 64 := by
      have hmod : len ∣ 64 - j % 64 := Nat.dvd_sub hsixty ((Nat.dvd_mod_iff hsixty).mpr hdvd)
      have := Nat.le_of_dvd (by omega) hmod
      omega
    have hnext := h.rows (hlen.trans hdvd) hlen hfit (by omega) hrows (haddr j · hdvd) hdest
    have hcols := block_union_columns start (j - start) len y rows
    rw [Nat.add_sub_cancel' hj, show j - start + len = j + len - start by omega] at hcols
    rwa [Set.union_assoc, hcols] at hnext
  · rwa [Nat.sub_self, block_no_columns, Set.union_empty]

theorem tiled_rowLoop {start bound x len rows : Nat} {body : Nat → Buffer → Buffer} (hpos : 0 < rows)
    (hstart : rows ∣ start) (hbound : rows ∣ bound) (hle : start ≤ bound)
    (hbody : ∀ i D dest, rows ∣ i → i + rows ≤ bound → Tiled value init width height D dest →
      Tiled value init width height (D ∪ block x len i rows) (body i dest))
    (hD : Tiled value init width height D dest) :
    Tiled value init width height (D ∪ block x len start (bound - start)) (forLoop bound rows body start dest).2 := by
  refine (@forLoop_dvd_from _ bound rows _
    (fun i dest => Tiled value init width height (D ∪ block x len start (i - start)) dest) hpos hbound start
    hstart hle ?_ dest ?_).2
  · intro i dest hi hdvd hlt hdest
    have hend : i + rows ≤ bound :=
      Nat.add_le_of_le_sub' hlt.le (Nat.le_of_dvd (Nat.sub_pos_of_lt hlt) (Nat.dvd_sub hbound hdvd))
    have hnext := hbody i _ dest hdvd hend hdest
    have hparts := block_union_rows x len start (i - start) rows
    rw [Nat.add_sub_cancel' hi, show i - start + rows = i + rows - start by omega] at hparts
    rwa [Set.union_assoc, hparts] at hnext
  · rwa [Nat.sub_self, block_no_rows, Set.union_empty]

theorem Puts.linearToTiled (hfits : TiledFits width height) (h : Puts put value init width height) {rowsAtOnce : Nat}
    (hpos : 0 < rowsAtOnce) (hrows : rowsAtOnce ∣ 32) (hheight : rowsAtOnce ∣ height) (heven : 2 ∣ width) :
    Tiled value init width height (block 0 width 0 height)
      (SwConverter.linearToTiled put rowsAtOnce width height init) := by
  have hX : (width >>> 6) <<< 6 = width / 64 * 64 := by
    rw [Nat.shiftRight_eq_div_pow, Nat.shiftLeft_eq]
  have hY : (height >>> 5) <<< 5 = height / 32 * 32 := by
    rw [Nat.shiftRight_eq_div_pow, Nat.shiftLeft_eq]
  have hmaskY : ∀ i, i &&& 0x1F = i % 32 := fun i => Nat.and_two_pow_sub_one_eq_mod i 5
  have hmaskX : ∀ j, j &&& 0x3F = j % 64 := fun j => Nat.and_two_pow_sub_one_eq_mod j 6
  have hfit : ∀ i k, rowsAtOnce ∣ i → k < rowsAtOnce → i % 32 + k < 32 := by
    intro i k hi hk
    have hmod : rowsAtOnce ∣ 32 - i % 32 := Nat.dvd_sub hrows ((Nat.dvd_mod_iff hrows).mpr hi)
    have := Nat.le_of_dvd (by omega) hmod
    omega
  have hempty : Tiled value init width height ∅ init := ⟨Filled.start _ _ _, fun q hq => absurd hq (Set.notMem_empty q)⟩
  simp only [SwConverter.linearToTiled, hX, hY, hmaskX, hmaskY]
  have hfull := @tiled_rowLoop value init init width height ∅ 0 (height / 32 * 32) 0 (width / 64 * 64) 32
    (fun i dest => (forLoop (width / 64 * 64) 64 (fun j dest =>
      (forLoop 32 1 (fun k dest => put (tileStart width height i j + 64 * k) j (i + k) 64 dest) 0 dest).2) 0 dest).2)
    (by decide) (dvd_zero 32) (Nat.dvd_mul_left 32 _) (Nat.zero_le _) ?_ hempty
  · have hedge := @tiled_rowLoop value init _ width height _ (height / 32 * 32) height 0 (width / 64 * 64) rowsAtOnce
      (fun i dest => (forLoop (width / 64 * 64) 64 (fun j dest =>
        (forLoop rowsAtOnce 1 (fun k dest =>
          put (tileStart width height i j + 64 * (i % 32 + k)) j (i + k) 64 dest) 0 dest).2) 0 dest).2)
      hpos (hrows.trans (Nat.dvd_mul_left 32 _)) hheight (Nat.div_mul_le_self _ _) ?_ hfull
    · have hright := @tiled_rowLoop value init _ width height _ 0 height (width / 64 * 64) (width - width / 64 * 64)
        rowsAtOnce
        (fun i dest => (forLoop width 2 (fun j dest =>
          (forLoop rowsAtOnce 1 (fun k dest =>
            put (tileStart width height i j + j % 64 + 64 * (i % 32 + k)) j (i + k) 2 dest) 0 dest).2)
          (width / 64 * 64) dest).2)
        hpos (dvd_zero _) hheight (Nat.zero_le _) ?_ hedge
      · have hset : ∅ ∪ block 0 (width / 64 * 64) 0 (height / 32 * 32 - 0) ∪
            block 0 (width / 64 * 64) (height / 32 * 32) (height - height / 32 * 32) ∪
            block (width / 64 * 64) (width - width / 64 * 64) 0 (height - 0) = block 0 width 0 height := by
          ext q
          simp only [Set.empty_union, Set.mem_union, mem_block]
          omega
        rwa [hset] at hright
      · intro i D dest hi hend hdest
        exact h.columns dvd_rfl two_pos (by decide) (by omega) heven (Nat.div_mul_le_self _ _) le_rfl hend
          (fun j k _ hk => (pixelAddr_row hfits (by omega) (hfit i k hi hk)).symm) hdest
    · intro i D dest hi hend hdest
      refine h.columns (by decide) (by decide) dvd_rfl (dvd_zero 64) (Nat.dvd_mul_left 64 _) (Nat.zero_le _)
        (Nat.div_mul_le_self _ _) hend ?_ hdest
      intro j k hj hk
      rw [pixelAddr_row hfits (by omega) (hfit i k hi hk), Nat.mod_eq_zero_of_dvd hj, Nat.add_zero]
  · intro i D dest hi hend hdest
    have hle := Nat.div_mul_le_self height 32
    refine h.columns (by decide) (by decide) dvd_rfl (dvd_zero 64) (Nat.dvd_mul_left 64 _) (Nat.zero_le _)
      (Nat.div_mul_le_self _ _) (by omega) ?_ hdest
    intro j k hj hk
    rw [pixelAddr_row hfits (by omega) (by omega), Nat.mod_eq_zero_of_dvd hj, Nat.mod_eq_zero_of_dvd hi,
      Nat.add_zero, Nat.zero_add]

end

theorem TiledFits.uint_row {width height y w : Nat} (hfits : TiledFits width height) (hy : y < height)
    (hw : w ≤ width) : uint (w * (y + 0)) = w * y := by
  refine Nat.mod_eq_of_lt ?_
  have hwidth := hfits.width_le hy
  have hrow := (Nat.mul_le_mul hw (show y + 1 ≤ height by omega)).trans hfits.plane_le
  rw [Nat.mul_succ] at hrow
  rcases Nat.eq_zero_or_pos w with rfl | hpos
  · omega
  · rw [Nat.add_zero]
    omega

theorem puts_memcpy (src init : Buffer) (hfits : TiledFits width height) :
    Puts (fun d x y len dest => memcpy dest d src (0 + x + uint (width * (y + 0))) len)
      (fun q => src (q.2 * width + q.1)) init width height := by
  intro D x y len dest _ _ hx hwidth hy hdest
  dsimp only
  rw [hfits.uint_row hy le_rfl]
  refine tiled_copyRun hfits hdest hx hwidth hy ?_
  intro t _
  exact congrArg src (by ring)

def interleaved (uSrc vSrc : Buffer) (width : Nat) (q : Nat × Nat) : Byte :=
  if q.1 % 2 = 0 then uSrc (q.2 * (width / 2) + q.1 / 2) else vSrc (q.2 * (width / 2) + q.1 / 2)

theorem puts_interleave (uSrc vSrc init : Buffer) (hfits : TiledFits width height) :
    Puts (fun d x y len dest => cscInterleaveMemcpy dest d uSrc (0 / 2 + x / 2 + uint (width / 2 * (y + 0))) vSrc
        (0 / 2 + x / 2 + uint (width / 2 * (y + 0))) (len / 2))
      (interleaved uSrc vSrc width) init width height := by
  intro D x y len dest heven hlen hx hwidth hy hdest
  dsimp only
  rw [cscInterleaveMemcpy_eq, Nat.div_mul_cancel hlen, hfits.uint_row hy (Nat.div_le_self _ _)]
  refine tiled_copyRun hfits hdest hx hwidth hy ?_
  intro t _
  have hmod : (x + t) % 2 = t % 2 := by omega
  have hidx : 0 / 2 + x / 2 + width / 2 * y + t / 2 = y * (width / 2) + (x + t) / 2 := by
    rw [Nat.mul_comm]
    omega
  rw [interleaved, hmod, hidx]

namespace Nv12t128x64

structure RoundTrip (width height : Nat) (value : Nat × Nat → Byte) (tiled linear init : Buffer) : Prop where
  distinct : Set.InjOn (pixelAddr width height) {q | q.1 < width ∧ q.2 < height}
  stored : ∀ x < width, ∀ y < height, tiled (pixelAddr width height (x, y)) = value (x, y)
  restored : IsPlane width height (fun x y => value (x, y)) init linear

theorem roundTrip_of_tiled {value : Nat × Nat → Byte} {init tiled dst : Buffer}
    (hfits : TiledFits width height) (heven : 2 ∣ width) (hheight : height ≤ 16384)
    (h : Tiled value init width height (block 0 width 0 height) tiled) :
    RoundTrip width height value tiled (cscTiledToLinearCrop dst tiled width height 0 0 0 0) dst := by
  have hstored : ∀ x < width, ∀ y < height, tiled (pixelAddr width height (x, y)) = value (x, y) := by
    intro x hx y hy
    exact h.1.value (x, y) (mem_block.mpr ⟨⟨Nat.zero_le x, by omega⟩, Nat.zero_le y, by omega⟩)
  have hint : 0 < height → width < 2 ^ 31 := fun hpos => by
    have hwidth := hfits.width_le hpos
    omega
  have hplane := cscTiledToLinearCrop_isPlane dst tiled hint heven hheight hfits.plane_le
  refine ⟨?_, hstored, ?_, hplane.outside⟩
  · rintro q ⟨hx, hy⟩ q' ⟨hx', hy'⟩ heq
    exact pixelAddr_inj hfits hx hx' hy hy' heq
  · intro x hx y hy
    rw [hplane.sample_eq x hx y hy]
    exact hstored x hx y hy

/-- Both planes come back whatever they hold, and no two pixels share a byte, as long as the tiled plane has at most
2^32 bytes. -/
theorem linearToTiled_tiledToLinear {width height : Nat} (heven : 2 ∣ width) (heven' : 2 ∣ height)
    (hheight : height ≤ 16384) (hfits : TiledFits width height) (init dst : Buffer) :
    (∀ ySrc : Buffer, RoundTrip width height (fun q => ySrc (q.2 * width + q.1))
      (cscLinearToTiledY init ySrc width height)
      (cscTiledToLinearY dst (cscLinearToTiledY init ySrc width height) width height) dst) ∧
    ∀ uSrc vSrc : Buffer, RoundTrip width height (interleaved uSrc vSrc width)
      (cscLinearToTiledUv init uSrc vSrc width height)
      (cscTiledToLinearUv dst (cscLinearToTiledUv init uSrc vSrc width height) width height) dst := by
  constructor
  · intro ySrc
    have htiled := (puts_memcpy ySrc init hfits).linearToTiled hfits two_pos (by decide) heven' heven
    exact roundTrip_of_tiled hfits heven hheight htiled
  · intro uSrc vSrc
    have htiled := (puts_interleave uSrc vSrc init hfits).linearToTiled hfits Nat.one_pos (one_dvd 32)
      (one_dvd height) heven
    exact roundTrip_of_tiled hfits heven hheight htiled

theorem linearToTiled_tiledToLinear_small : (2 ∣ 66 ∧ 2 ∣ 34 ∧ 34 ≤ 16384 ∧ TiledFits 66 34) ∧
      cscTiledToLinearY (fun _ => 0) (cscLinearToTiledY (fun _ => 0) (BitVec.ofNat 8) 66 34) 66 34 (33 * 66 + 65) =
        BitVec.ofNat 8 (33 * 66 + 65) := by
  have hwidth : 2 ∣ 66 := by decide
  have hheight : 2 ∣ 34 := by decide
  have hmax : 34 ≤ 16384 := by decide
  have hfits : TiledFits 66 34 := by decide
  have htrip := (linearToTiled_tiledToLinear hwidth hheight hmax hfits (fun _ => 0) (fun _ => 0)).1 (BitVec.ofNat 8)
  exact ⟨⟨hwidth, hheight, hmax, hfits⟩, htrip.restored.sample_eq 65 (by decide) 33 (by decide)⟩

/-- The tile of column 524288 in the last row is number 2^21 + 510, and 510 is the tile of column 16256 in the first. -/
theorem linearToTiled_shared : pixelAddr 524290 8162 (16256, 0) = pixelAddr 524290 8162 (524288, 8160) ∧
      ¬∀ width height, 2 ∣ width → 2 ∣ height → height ≤ 16384 → ∀ init dst ySrc : Buffer,
        IsPlane width height (fun x y => ySrc (y * width + x)) dst
          (cscTiledToLinearY dst (cscLinearToTiledY init ySrc width height) width height) := by
  have hshared : pixelAddr 524290 8162 (16256, 0) = pixelAddr 524290 8162 (524288, 8160) := by decide
  refine ⟨hshared, fun h => ?_⟩
  let ySrc : Buffer := fun n => if n = 16256 then 0 else 1
  have hplane := h 524290 8162 (by decide) (by decide) (by decide) (fun _ => 0) (fun _ => 0) ySrc
  have hread := cscTiledToLinearCrop_isPlane (fun _ => 0) (cscLinearToTiledY (fun _ => 0) ySrc 524290 8162)
    (show 0 < 8162 → 524290 < 2 ^ 31 by decide) (by decide) (by decide) (by decide)
  have hfst := (hplane.sample_eq 16256 (by decide) 0 (by decide)).symm.trans
    (hread.sample_eq 16256 (by decide) 0 (by decide))
  have hsnd := (hplane.sample_eq 524288 (by decide) 8160 (by decide)).symm.trans
    (hread.sample_eq 524288 (by decide) 8160 (by decide))
  rw [hshared, ← hsnd] at hfst
  exact absurd hfst (by decide)

end Nv12t128x64

end ExynosHal.SwConverter
