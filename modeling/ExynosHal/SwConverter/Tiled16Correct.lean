import ExynosHal.SwConverter.Tiled16

/-! # The 16x16 tile map

The fast path visits full tiles, a right edge, a lower edge and a corner.
-/

namespace ExynosHal.SwConverter
open Library

def tileOffset (rowBits width x y : Nat) : Nat :=
  (width + 15) / 16 * 16 * (y / 2 ^ rowBits * 2 ^ rowBits) + x / 16 * 16 * 2 ^ rowBits + 16 * (y % 2 ^ rowBits) + x % 16

theorem tile2DToLinear_luma (width height x y : Nat) :
    tile2DToLinear width height x y false = tileOffset 4 width x y := by
  have hoff : (y &&& 15) * 16 + (x &&& 15) = y % 16 * 16 + x % 16 := by
    rw [Nat.and_two_pow_sub_one_eq_mod y 4, Nat.and_two_pow_sub_one_eq_mod x 4]
  have hwidth : (width + 15) / 16 * 16 / 16 = (width + 15) / 16 := Nat.mul_div_cancel _ (by decide)
  simp only [tile2DToLinear, if_true, hoff, hwidth]
  rw [← Nat.shiftLeft_add_eq_or_of_lt (by omega), Nat.shiftLeft_eq, tileOffset, show 2 ^ 4 = 16 from rfl]
  ring

theorem tile2DToLinear_chroma (width height x y : Nat) :
    tile2DToLinear width height x y true = tileOffset 3 width x y := by
  have hoff : (y &&& 7) * 16 + (x &&& 15) = y % 8 * 16 + x % 16 := by
    rw [Nat.and_two_pow_sub_one_eq_mod y 3, Nat.and_two_pow_sub_one_eq_mod x 4]
  have hwidth : (width + 15) / 16 * 16 / 16 = (width + 15) / 16 := Nat.mul_div_cancel _ (by decide)
  simp only [tile2DToLinear, Bool.true_eq_false, if_false, hoff, hwidth]
  rw [← Nat.shiftLeft_add_eq_or_of_lt (by omega), Nat.shiftLeft_eq, tileOffset, show 2 ^ 3 = 8 from rfl]
  ring

theorem tileOffset_row {rowBits i j : Nat} (hi : 2 ^ rowBits ∣ i) (hj : 16 ∣ j) (width : Nat) {k : Nat}
    (hk : k < 2 ^ rowBits) :
    tileOffset rowBits width j (i + k) = (width + 15) >>> 4 <<< 4 * i + j <<< rowBits + 16 * k := by
  obtain ⟨m, rfl⟩ := hi
  obtain ⟨n, rfl⟩ := hj
  have hpos : 0 < 2 ^ rowBits := Nat.two_pow_pos rowBits
  have hdiv : (2 ^ rowBits * m + k) / 2 ^ rowBits = m := by
    rw [Nat.mul_add_div hpos, Nat.div_eq_of_lt hk, Nat.add_zero]
  have hmod : (2 ^ rowBits * m + k) % 2 ^ rowBits = k := by
    rw [Nat.mul_add_mod, Nat.mod_eq_of_lt hk]
  rw [tileOffset, hdiv, hmod, Nat.mul_mod_right, Nat.mul_div_cancel_left n (by decide)]
  simp only [Nat.shiftLeft_eq, Nat.shiftRight_eq_div_pow]
  ring

variable {t : Nat}

theorem tileOffset_add {rowBits x : Nat} (hx : 16 ∣ x) (width y : Nat) (ht : t < 16) :
    tileOffset rowBits width (x + t) y = tileOffset rowBits width x y + t := by
  have hdiv : (x + t) / 16 = x / 16 := by omega
  have hmod : (x + t) % 16 = x % 16 + t := by omega
  rw [tileOffset, tileOffset, hdiv, hmod, ← Nat.add_assoc]

theorem tileOffset_word {rowBits x y k n : Nat} (hx : 16 ∣ x) (hy : 2 ^ rowBits ∣ y) (hk : k < 2 ^ rowBits)
    (hn : n < 16) (width : Nat) :
    tileOffset rowBits width (x + n) (y + k) = tileOffset rowBits width x y + 16 * k + n := by
  have hfst := tileOffset_row hy hx width (Nat.two_pow_pos rowBits)
  rw [Nat.add_zero, Nat.mul_zero, Nat.add_zero] at hfst
  rw [tileOffset_add hx width (y + k) hn, tileOffset_row hy hx width hk, hfst]

section
variable {σ : Type} {p : PlaneCopy σ} {width : Nat} {Done : Set (Nat × Nat) → σ → Prop}

/-- `copyRow` does the pixels of a row of a tile. -/
structure Copies (p : PlaneCopy σ) (width : Nat) (Done : Set (Nat × Nat) → σ → Prop) : Prop where
  next : ∀ i j, p.dstOffset (i + 1) j = p.dstOffset i j + p.pitch
  row : ∀ D x y len s, 16 ∣ x → 2 ∣ len → len ≤ 16 → x + len ≤ width → (∀ q ∈ D, q.1 < width) → Done D s →
    Done (D ∪ rowPart x len y) (p.copyRow (p.dstOffset y x) (tileOffset p.rowBits width x y) len s)

variable {D : Set (Nat × Nat)} {s : σ} {i j len : Nat}

theorem Copies.rows (h : Copies p width Done)
    (hi : 2 ^ p.rowBits ∣ i) (hj : 16 ∣ j) (heven : 2 ∣ len) (hlen : len ≤ 16) (hwidth : j + len ≤ width)
    (hD : ∀ q ∈ D, q.1 < width) (hs : Done D s) (k : Nat) (hk : k ≤ 2 ^ p.rowBits) :
    ∃ s', (p.nextRow len)^[k] ⟨(width + 15) >>> 4 <<< 4 * i + j <<< p.rowBits, p.dstOffset i j, s⟩ =
        ⟨(width + 15) >>> 4 <<< 4 * i + j <<< p.rowBits + 16 * k, p.dstOffset (i + k) j, s'⟩ ∧
      Done (D ∪ block j len i k) s' := by
  induction k with
  | zero =>
    refine ⟨s, rfl, ?_⟩
    rwa [block_no_rows, Set.union_empty]
  | succ k ih =>
    obtain ⟨s', hcursor, hs'⟩ := ih (by omega)
    have hD' : ∀ q ∈ D ∪ block j len i k, q.1 < width := by
      rintro q (hq | ⟨⟨-, hx⟩, -⟩)
      · exact hD q hq
      · omega
    have hnext := h.row _ j (i + k) len s' hj heven hlen hwidth hD' hs'
    rw [tileOffset_row hi hj width (by omega)] at hnext
    rw [Set.union_assoc, block_union_rowPart] at hnext
    refine ⟨_, ?_, hnext⟩
    rw [Function.iterate_succ_apply', hcursor, PlaneCopy.nextRow, ← Nat.add_assoc i k 1, h.next]
    rfl

variable {rows : (Cursor σ → Cursor σ) → Cursor σ → Cursor σ} {count : Nat}

theorem Copies.tile (h : Copies p width Done)
    (hrows : ∀ row c, rows row c = row^[count] c) (hcnt : count ≤ 2 ^ p.rowBits) (hi : 2 ^ p.rowBits ∣ i) (hj : 16 ∣ j)
      (heven : 2 ∣ len)
    (hlen : len ≤ 16) (hwidth : j + len ≤ width) (hD : ∀ q ∈ D, q.1 < width) (hs : Done D s) :
    Done (D ∪ block j len i count) (p.tile width rows i j len s) := by
  obtain ⟨s', hcursor, hs'⟩ := h.rows hi hj heven hlen hwidth hD hs count hcnt
  rw [PlaneCopy.tile, hrows, hcursor]
  exact hs'

theorem Copies.tileRow (h : Copies p width Done)
    (hrows : ∀ row c, rows row c = row^[count] c) (hcnt : count ≤ 2 ^ p.rowBits) (hwidth : 2 ∣ width)
      (hi : 2 ^ p.rowBits ∣ i) (hD : ∀ q ∈ D, q.1 < width)
    (hs : Done D s) : Done (D ∪ block 0 width i count) (p.tileRow width rows i s) := by
  have halign : width >>> 4 <<< 4 = width / 16 * 16 := by
    rw [Nat.shiftLeft_eq, Nat.shiftRight_eq_div_pow]
  have hD' : ∀ j ≤ width, ∀ q ∈ D ∪ block 0 j i count, q.1 < width := by
    rintro j hj q (hq | ⟨⟨-, hx⟩, -⟩)
    · exact hD q hq
    · omega
  have hloop := @forLoop_dvd σ (width / 16 * 16) 16 (fun j dst => p.tile width rows i j 16 dst)
    (fun j s => Done (D ∪ block 0 j i count) s) (by decide) (Nat.dvd_mul_left _ _) ?_ s ?_
  · obtain ⟨hexit, hdone⟩ := hloop
    rw [PlaneCopy.tileRow, halign]
    dsimp only
    rw [hexit]
    split
    · have hlast := h.tile hrows hcnt hi (Nat.dvd_mul_left 16 (width / 16)) (show 2 ∣ width - width / 16 * 16 by omega)
        (by omega) (by omega) (hD' (width / 16 * 16) (by omega)) hdone
      have hcols := block_union_columns 0 (width / 16 * 16) (width - width / 16 * 16) i count
      rw [Nat.zero_add, Nat.add_sub_cancel' (Nat.div_mul_le_self width 16)] at hcols
      rwa [Set.union_assoc, hcols] at hlast
    · rename_i hfull
      rw [ne_eq, not_not] at hfull
      rwa [hfull] at hdone ⊢
  · intro j s hj hlt hdone
    have hnext := h.tile hrows hcnt hi hj (by decide) le_rfl (by omega) (hD' j (by omega)) hdone
    have hcols := block_union_columns 0 j 16 i count
    rw [Nat.zero_add] at hcols
    rwa [Set.union_assoc, hcols] at hnext
  · rwa [block_no_columns, Set.union_empty]

theorem Copies.tiledToLinear (h : Copies p width Done) {height : Nat} (hbits : 0 < p.rowBits)
    (hedge : ∀ row c, p.edgeRows (height % 2 ^ p.rowBits) row c = row^[height % 2 ^ p.rowBits] c)
    (hwidth : 2 ∣ width) (hs : Done ∅ s) :
    Done (block 0 width 0 height) (p.tiledToLinear width height s) := by
  have halign : height >>> p.rowBits <<< p.rowBits = height / 2 ^ p.rowBits * 2 ^ p.rowBits := by
    rw [Nat.shiftLeft_eq, Nat.shiftRight_eq_div_pow]
  have hfull : ∀ row c, p.fullRows row c = row^[2 ^ p.rowBits] c := by
    intro row c
    have hpairs : 2 * (2 ^ p.rowBits / 2) = 2 ^ p.rowBits :=
      Nat.mul_div_cancel' (dvd_pow_self 2 (Nat.pos_iff_ne_zero.mp hbits))
    rw [← hpairs, Function.iterate_mul]
    exact @forLoop_iterate _ (2 ^ p.rowBits / 2) 1 row^[2] Nat.one_pos (one_dvd _) c
  have hin : ∀ rows, ∀ q ∈ block 0 width 0 rows, q.1 < width := by
    intro rows q hq
    have := (mem_block.mp hq).1.2
    omega
  have hloop := @forLoop_dvd σ (height / 2 ^ p.rowBits * 2 ^ p.rowBits) (2 ^ p.rowBits)
    (fun i dst => p.tileRow width p.fullRows i dst)
    (fun i s => Done (block 0 width 0 i) s) (Nat.two_pow_pos _) (Nat.dvd_mul_left _ _) ?_ s ?_
  · obtain ⟨hexit, hdone⟩ := hloop
    rw [PlaneCopy.tiledToLinear, halign]
    dsimp only
    rw [hexit]
    have hrest : height - height / 2 ^ p.rowBits * 2 ^ p.rowBits = height % 2 ^ p.rowBits := by
      rw [Nat.mul_comm, ← Nat.mod_eq_sub]
    split
    · rw [hrest]
      have hlast := h.tileRow hedge (Nat.mod_lt _ (Nat.two_pow_pos _)).le hwidth
        (Nat.dvd_mul_left _ (height / 2 ^ p.rowBits)) (hin _) hdone
      have hrows := block_union_rows 0 width 0 (height / 2 ^ p.rowBits * 2 ^ p.rowBits) (height % 2 ^ p.rowBits)
      rw [Nat.zero_add, Nat.div_add_mod'] at hrows
      rwa [hrows] at hlast
    · rename_i hfull
      rw [ne_eq, not_not] at hfull
      rwa [hfull] at hdone ⊢
  · intro i s hi _ hdone
    have hnext := h.tileRow hfull le_rfl hwidth hi (hin i) hdone
    have hrows := block_union_rows 0 width 0 i (2 ^ p.rowBits)
    rw [Nat.zero_add] at hrows
    rwa [hrows] at hnext
  · rwa [block_no_rows]

end

theorem copies_memcpy (init src : Buffer) (rowBits width : Nat)
    (edgeRows : Nat → (Cursor Buffer → Cursor Buffer) → Cursor Buffer → Cursor Buffer) :
    Copies {
        rowBits := rowBits
        dstOffset := fun i j => width * i + j
        pitch := width
        copyRow := fun d s len dst => memcpy dst d src s len
        edgeRows := edgeRows }
      width
      (fun D dst => Filled (rowMajor width) (fun q => src (tileOffset rowBits width q.1 q.2)) D init dst) where
  next i j := by ring
  row D x y len dst hx _ hlen hwidth hD h := by
    dsimp only
    have hd : width * y + x = y * width + x := by ring
    rw [memcpy]
    refine filled_copyRowPart h hD hwidth hd ?_
    intro t ht
    simp only [tileOffset_add hx width y (show t < 16 by omega)]

variable {width height : Nat}

theorem cscTiledToLinearY_isPlane (yDst ySrc : Buffer) (hwidth : 2 ∣ width) (hheight : 2 ∣ height) :
    IsPlane width height (fun x y => ySrc (tile2DToLinear width height x y false)) yDst
      (cscTiledToLinearY yDst ySrc width height) := by
  simp only [tile2DToLinear_luma]
  refine isPlane_of_filled ((copies_memcpy yDst ySrc 4 width _).tiledToLinear (Nat.succ_pos _) ?_ hwidth
    (Filled.start _ _ _))
  intro row c
  exact @forLoop_iterate _ (height % 2 ^ 4) 2 row (by decide) (by omega) c

variable {width : Nat}

theorem cscTiledToLinearUv_isPlane (uvDst uvSrc : Buffer) (height : Nat) (hwidth : 2 ∣ width) :
    IsPlane width height (fun x y => uvSrc (tile2DToLinear width height x y true)) uvDst
      (cscTiledToLinearUv uvDst uvSrc width height) := by
  simp only [tile2DToLinear_chroma]
  refine isPlane_of_filled ((copies_memcpy uvDst uvSrc 3 width _).tiledToLinear (Nat.succ_pos _) ?_ hwidth
    (Filled.start _ _ _))
  intro row c
  exact @forLoop_iterate _ (height % 2 ^ 3) 1 row (by decide) (one_dvd _) c

def halfColumns (D : Set (Nat × Nat)) : Set (Nat × Nat) := {q | (q.1 * 2, q.2) ∈ D}

theorem halfColumns_union (D E : Set (Nat × Nat)) : halfColumns (D ∪ E) = halfColumns D ∪ halfColumns E := rfl

theorem halfColumns_rowPart {x len : Nat} (hx : 2 ∣ x) (hlen : 2 ∣ len) (y : Nat) :
    halfColumns (rowPart x len y) = rowPart (x / 2) (len / 2) y := by
  ext q
  change (q.1 * 2, q.2) ∈ rowPart x len y ↔ q ∈ rowPart (x / 2) (len / 2) y
  simp only [mem_rowPart]
  omega

theorem halfColumns_block (hwidth : 2 ∣ width) (height : Nat) :
    halfColumns (block 0 width 0 height) = block 0 (width / 2) 0 height := by
  ext q
  change (q.1 * 2, q.2) ∈ block 0 width 0 height ↔ q ∈ block 0 (width / 2) 0 height
  simp only [mem_block]
  omega

def SplitFilled (width : Nat) (u v : Nat × Nat → Byte) (init : Buffer × Buffer) (D : Set (Nat × Nat))
    (dst : Buffer × Buffer) : Prop :=
  Filled (rowMajor (width / 2)) u (halfColumns D) init.1 dst.1 ∧
    Filled (rowMajor (width / 2)) v (halfColumns D) init.2 dst.2

theorem splitFilled_start (width : Nat) (u v : Nat × Nat → Byte) (init : Buffer × Buffer) :
    SplitFilled width u v init ∅ init :=
  ⟨Filled.start _ _ _, Filled.start _ _ _⟩

variable {u v : Nat × Nat → Byte} {init dst : Buffer × Buffer}

theorem SplitFilled.isPlane (hwidth : 2 ∣ width) (h : SplitFilled width u v init (block 0 width 0 height) dst) :
    IsPlane (width / 2) height (fun x y => u (x, y)) init.1 dst.1 ∧
      IsPlane (width / 2) height (fun x y => v (x, y)) init.2 dst.2 := by
  rw [SplitFilled, halfColumns_block hwidth] at h
  exact ⟨isPlane_of_filled h.1, isPlane_of_filled h.2⟩

theorem SplitFilled.copyRowPart {width x len y : Nat}
    {D : Set (Nat × Nat)} (h : SplitFilled width u v init D dst) (hwidth : 2 ∣ width) (hx : 2 ∣ x) (heven : 2 ∣ len)
    (hD : ∀ q ∈ D, q.1 < width) (hlen : x + len ≤ width) {d : Nat} (hd : d = y * (width / 2) + x / 2)
    {f g : Nat → Byte} (hf : ∀ t < len / 2, f t = u (x / 2 + t, y)) (hg : ∀ t < len / 2, g t = v (x / 2 + t, y)) :
    SplitFilled width u v init (D ∪ rowPart x len y) (copy dst.1 d f (len / 2), copy dst.2 d g (len / 2)) := by
  have hhalf : ∀ q ∈ halfColumns D, q.1 < width / 2 := by
    intro q hq
    have := hD _ hq
    dsimp only at this
    omega
  rw [SplitFilled, halfColumns_union, halfColumns_rowPart hx heven]
  exact ⟨filled_copyRowPart h.1 hhalf (by omega) hd hf, filled_copyRowPart h.2 hhalf (by omega) hd hg⟩

theorem copies_deinterleave (init : Buffer × Buffer) (src : Buffer) (hwidth : 2 ∣ width)
    (edgeRows : Nat → (Cursor (Buffer × Buffer) → Cursor (Buffer × Buffer)) → Cursor (Buffer × Buffer) →
      Cursor (Buffer × Buffer)) :
    Copies {
        rowBits := 3
        dstOffset := fun i j => (width >>> 1) * i + j >>> 1
        pitch := width >>> 1
        copyRow := fun d s len dst => cscDeinterleaveMemcpy dst.1 d dst.2 d src s len
        edgeRows := edgeRows }
      width
      (SplitFilled width (fun q => src (tileOffset 3 width (q.1 * 2) q.2))
        (fun q => src (tileOffset 3 width (q.1 * 2 + 1) q.2)) init) where
  next i j := by ring
  row D x y len dst hx heven hlen hlenw hD h := by
    have hd : (width >>> 1) * y + x >>> 1 = y * (width / 2) + x / 2 := by
      rw [Nat.shiftRight_eq_div_pow, Nat.shiftRight_eq_div_pow]
      ring
    have hx2 : 2 ∣ x := Dvd.dvd.trans (by decide) hx
    dsimp only
    rw [cscDeinterleaveMemcpy_eq]
    refine h.copyRowPart hwidth hx2 heven hD hlenw hd ?_ ?_
    · intro t ht
      rw [show (x / 2 + t) * 2 = x + t * 2 by omega, tileOffset_add hx width y (by omega)]
    · intro t ht
      rw [show (x / 2 + t) * 2 + 1 = x + (t * 2 + 1) by omega, tileOffset_add hx width y (by omega)]
      rfl

theorem cscTiledToLinearUvDeinterleave_isPlane (uDst vDst uvSrc : Buffer) (height : Nat) (hwidth : 2 ∣ width) :
    IsPlane (width / 2) height (fun x y => uvSrc (tile2DToLinear width height (x * 2) y true)) uDst
        (cscTiledToLinearUvDeinterleave uDst vDst uvSrc width height).1 ∧
      IsPlane (width / 2) height (fun x y => uvSrc (tile2DToLinear width height (x * 2 + 1) y true)) vDst
        (cscTiledToLinearUvDeinterleave uDst vDst uvSrc width height).2 := by
  simp only [tile2DToLinear_chroma]
  refine SplitFilled.isPlane hwidth ((copies_deinterleave (uDst, vDst) uvSrc hwidth _).tiledToLinear
    (Nat.succ_pos _) ?_ hwidth (splitFilled_start _ _ _ _))
  intro row c
  exact @forLoop_iterate _ (height % 2 ^ 3) 1 row (by decide) (one_dvd _) c

theorem actualWidth_spec {width x : Nat} (hwidth : 2 ∣ width) (hx : 16 ∣ x) (hlt : x < width) :
    min 16 (width - x) ≤ 4 * actualWidth width x ∧ actualWidth width x ≤ 4 ∧
      ∀ l < actualWidth width x, x + l * 4 < width := by
  rw [actualWidth]
  split
  · split <;> refine ⟨by omega, by omega, fun l hl => by omega⟩
  · refine ⟨by omega, by omega, fun l hl => by omega⟩

section
variable {σ : Type} {tileRows width height : Nat} {word : Nat → Nat → Nat → Nat → σ → σ}
  {Done : Set (Nat × Nat) → σ → Prop}

def WordCopies (tileRows width height : Nat) (word : Nat → Nat → Nat → Nat → σ → σ)
    (Done : Set (Nat × Nat) → σ → Prop) : Prop :=
  ∀ D x y k l s, 16 ∣ x → tileRows ∣ y → k < tileRows → y + k < height → l < 4 → x + l * 4 < width →
    (∀ q ∈ D, q.1 < width) → Done D s →
    Done (D ∪ rowPart (x + l * 4) (min 4 (width - (x + l * 4))) (y + k)) (word x y k l s)

variable {D : Set (Nat × Nat)} {s : σ}

theorem WordCopies.words (h : WordCopies tileRows width height word Done) (hwidth : 2 ∣ width) {x y k : Nat}
    (hx : 16 ∣ x) (hlt : x < width) (hy : tileRows ∣ y)
    (hk : k < tileRows) (hheight : y + k < height) (hD : ∀ q ∈ D, q.1 < width) (hs : Done D s) :
    Done (D ∪ rowPart x (min 16 (width - x)) (y + k))
      (forLoop (actualWidth width x) 1 (fun l s => word x y k l s) 0 s).2 := by
  obtain ⟨hend, hfour, hin⟩ := actualWidth_spec hwidth hx hlt
  have hloop : Done (D ∪ rowPart x (min (actualWidth width x * 4) (width - x)) (y + k))
      (forLoop (actualWidth width x) 1 (fun l s => word x y k l s) 0 s).2 := by
    refine @forLoop_one σ _ _ (fun l s => Done (D ∪ rowPart x (min (l * 4) (width - x)) (y + k)) s) ?_ s ?_
    · intro l s hl hdone
      have hl' := hin l hl
      have hbefore : min (l * 4) (width - x) = l * 4 := by omega
      have hafter : min ((l + 1) * 4) (width - x) = l * 4 + min 4 (width - (x + l * 4)) := by omega
      have hD' : ∀ q ∈ D ∪ rowPart x (l * 4) (y + k), q.1 < width := by
        rintro q (hq | ⟨⟨-, hx⟩, -⟩)
        · exact hD q hq
        · omega
      rw [hbefore] at hdone
      have hnext := h _ x y k l s hx hy hk hheight (by omega) hl' hD' hdone
      rw [Set.union_assoc, rowPart_union] at hnext
      rwa [hafter]
    · rwa [Nat.zero_mul, Nat.zero_min, rowPart_none, Set.union_empty]
  rwa [show min (actualWidth width x * 4) (width - x) = min 16 (width - x) by omega] at hloop

theorem WordCopies.rows (h : WordCopies tileRows width height word Done) (hwidth : 2 ∣ width) {x y : Nat} (hx : 16 ∣ x)
    (hlt : x < width) (hy : tileRows ∣ y) (hD : ∀ q ∈ D, q.1 < width) (hs : Done D s) :
    Done (D ∪ block x (min 16 (width - x)) y (min tileRows (height - y)))
      (forLoop (min tileRows (height - y)) 1 (fun k s =>
        (forLoop (actualWidth width x) 1 (fun l s => word x y k l s) 0 s).2) 0 s).2 := by
  refine @forLoop_one σ _ _ (fun k s => Done (D ∪ block x (min 16 (width - x)) y k) s) ?_ s ?_
  · intro k s hk hdone
    have hD' : ∀ q ∈ D ∪ block x (min 16 (width - x)) y k, q.1 < width := by
      rintro q (hq | ⟨⟨-, hx⟩, -⟩)
      · exact hD q hq
      · omega
    have hk' : k < tileRows ∧ y + k < height := by omega
    have hnext := h.words hwidth hx hlt hy hk'.1 hk'.2 hD' hdone
    rwa [Set.union_assoc, block_union_rowPart] at hnext
  · rwa [block_no_rows, Set.union_empty]

variable {y : Nat}

theorem WordCopies.tiles (h : WordCopies tileRows width height word Done) (hwidth : 2 ∣ width) (hy : tileRows ∣ y)
    (hD : ∀ q ∈ D, q.1 < width) (hs : Done D s) : Done (D ∪ block 0 width y (min tileRows (height - y)))
      (forLoop width 16 (fun x s => (forLoop (min tileRows (height - y)) 1 (fun k s =>
        (forLoop (actualWidth width x) 1 (fun l s => word x y k l s) 0 s).2) 0 s).2) 0 s).2 := by
  have hloop := @forLoop_rule σ width 16 (fun x s =>
    (forLoop (min tileRows (height - y)) 1 (fun k s =>
      (forLoop (actualWidth width x) 1 (fun l s => word x y k l s) 0 s).2) 0 s).2)
    (fun x s => 16 ∣ x ∧ Done (D ∪ block 0 (min x width) y (min tileRows (height - y))) s) (by decide) ?_ 0 s ?_
  · obtain ⟨⟨-, hdone⟩, hexit⟩ := hloop
    rwa [Nat.min_eq_right hexit] at hdone
  · rintro x s hlt ⟨hx, hdone⟩
    refine ⟨(Nat.dvd_add_right hx).mpr dvd_rfl, ?_⟩
    have hD' : ∀ q ∈ D ∪ block 0 x y (min tileRows (height - y)), q.1 < width := by
      rintro q (hq | ⟨⟨-, hx⟩, -⟩)
      · exact hD q hq
      · omega
    rw [Nat.min_eq_left hlt.le] at hdone
    have hnext := h.rows hwidth hx hlt hy hD' hdone
    have hcols := block_union_columns 0 x (min 16 (width - x)) y (min tileRows (height - y))
    rw [Nat.zero_add, show x + min 16 (width - x) = min (x + 16) width by omega] at hcols
    rwa [Set.union_assoc, hcols] at hnext
  · refine ⟨dvd_zero 16, ?_⟩
    rwa [Nat.zero_min, block_no_columns, Set.union_empty]

theorem WordCopies.eachWord (h : WordCopies tileRows width height word Done) (hpos : 0 < tileRows)
    (hwidth : 2 ∣ width) (hs : Done ∅ s) :
    Done (block 0 width 0 height) (SwConverter.eachWord tileRows width height word s) := by
  have hloop := @forLoop_rule σ height tileRows (fun y s =>
    (forLoop width 16 (fun x s => (forLoop (min tileRows (height - y)) 1 (fun k s =>
      (forLoop (actualWidth width x) 1 (fun l s => word x y k l s) 0 s).2) 0 s).2) 0 s).2)
    (fun y s => tileRows ∣ y ∧ Done (block 0 width 0 (min y height)) s) hpos ?_ 0 s ?_
  · obtain ⟨⟨-, hdone⟩, hexit⟩ := hloop
    rwa [Nat.min_eq_right hexit] at hdone
  · rintro y s hlt ⟨hy, hdone⟩
    refine ⟨(Nat.dvd_add_right hy).mpr dvd_rfl, ?_⟩
    have hin : ∀ q ∈ block 0 width 0 y, q.1 < width := by
      intro q hq
      have := (mem_block.mp hq).1.2
      omega
    rw [Nat.min_eq_left hlt.le] at hdone
    have hnext := h.tiles hwidth hy hin hdone
    have hrows := block_union_rows 0 width 0 y (min tileRows (height - y))
    rw [Nat.zero_add, show y + min tileRows (height - y) = min (y + tileRows) height by omega] at hrows
    rwa [hrows] at hnext
  · refine ⟨dvd_zero tileRows, ?_⟩
    rwa [Nat.zero_min, block_no_rows]

end

theorem setWidth_and_ff (data : U32) : (data &&& 0xff#32).setWidth 8 = data.setWidth 8 := by
  ext i hi
  have hbit : (0xff#32).getLsbD i := by
    interval_cases i <;> rfl
  simp only [BitVec.getElem_setWidth, BitVec.getLsbD_and, hbit, Bool.and_true]

variable (memory : Buffer)

theorem byteOf_readWord (address : Nat) (ht : t < 4) :
    byteOf (readWord memory address) (8 * t) = memory (address + t) := by
  rw [byteOf, setWidth_and_ff, readWord]
  ext i hi
  interval_cases t
  all_goals
    simp
    try grind

theorem wordCopies_luma (memory init : Buffer) (yAddr width height : Nat) :
    WordCopies 16 width height (lumaWord memory yAddr width height)
      (fun D plane => Filled (rowMajor width) (fun q => memory (yAddr + tileOffset 4 width q.1 q.2)) D init plane) := by
  intro D x y k l plane hx hy hk hheight hl hlt hD h
  dsimp only [lumaWord]
  rw [forLoop_update]
  refine filled_copyRowPart h hD (by omega) (Nat.add_assoc _ _ _) ?_
  intro t ht
  have hoff := @tileOffset_word 4 x y k (l * 4 + t) hx hy hk (by omega) width
  rw [byteOf_readWord _ _ (by omega), tile2DToLinear_luma]
  simp only [Nat.add_assoc] at hoff ⊢
  rw [hoff]

theorem wordCopies_chroma (init : Buffer × Buffer) (cAddr height : Nat) (hwidth : 2 ∣ width) :
    WordCopies 8 width height (chromaWord memory cAddr width height)
      (SplitFilled width (fun q => memory (cAddr + tileOffset 3 width (q.1 * 2) q.2))
        (fun q => memory (cAddr + tileOffset 3 width (q.1 * 2 + 1) q.2)) init) := by
  intro D x y k l planes hx hy hk hheight hl hlt hD h
  dsimp only [chromaWord]
  have hlen : min 2 (width / 2 - (x / 2 + l * 2)) = min 4 (width - (x + l * 4)) / 2 := by omega
  have hd : (y + k) * width / 2 + x / 2 + l * 2 = (y + k) * (width / 2) + (x + l * 4) / 2 := by
    rw [Nat.mul_div_assoc _ hwidth]
    omega
  rw [forLoop_update_pair, hlen]
  refine h.copyRowPart hwidth (by omega) (by omega) hD (by omega) hd ?_ ?_
  · intro t ht
    have hoff := @tileOffset_word 3 x y k (l * 4 + t * 2) hx hy hk (by omega) width
    rw [show 8 * 2 * t = 8 * (2 * t) by omega, byteOf_readWord _ _ (by omega), tile2DToLinear_chroma,
      show ((x + l * 4) / 2 + t) * 2 = x + (l * 4 + t * 2) by omega, hoff]
    simp only [Nat.add_assoc, Nat.mul_comm 2 t]
  · intro t ht
    have hoff := @tileOffset_word 3 x y k (l * 4 + t * 2 + 1) hx hy hk (by omega) width
    rw [show 8 * 2 * t + 8 = 8 * (2 * t + 1) by omega, byteOf_readWord _ _ (by omega), tile2DToLinear_chroma,
      show ((x + l * 4) / 2 + t) * 2 + 1 = x + (l * 4 + t * 2 + 1) by omega, hoff]
    simp only [Nat.add_assoc, Nat.mul_comm 2 t]

theorem tile2DToYUV420_isPlane (yAddr cAddr : Nat) (height : Nat) (hwidth : 2 ∣ width) (planes : Planes) :
    IsPlane width height (fun x y => memory (yAddr + tile2DToLinear width height x y false)) planes.y
        (tile2DToYUV420 memory yAddr cAddr width height planes).y ∧
      IsPlane (width / 2) (height / 2)
        (fun x y => memory (cAddr + tile2DToLinear width (height / 2) (x * 2) y true)) planes.cb
        (tile2DToYUV420 memory yAddr cAddr width height planes).cb ∧
      IsPlane (width / 2) (height / 2)
        (fun x y => memory (cAddr + tile2DToLinear width (height / 2) (x * 2 + 1) y true)) planes.cr
        (tile2DToYUV420 memory yAddr cAddr width height planes).cr := by
  simp only [tile2DToLinear_luma, tile2DToLinear_chroma]
  have hluma := (wordCopies_luma memory planes.y yAddr width height).eachWord (by decide) hwidth
    (Filled.start _ _ _)
  have hchroma := (wordCopies_chroma memory (planes.cb, planes.cr) cAddr (height / 2) hwidth).eachWord
    (by decide) hwidth (splitFilled_start _ _ _ _)
  exact ⟨isPlane_of_filled hluma, hchroma.isPlane hwidth⟩

/-- For even sizes the readers of 16x16 tiles write every pixel from its place in the tile map, and nothing else. -/
theorem cscTiledToLinear_tileMap {width height : Nat} (hwidth : 2 ∣ width) (hheight : 2 ∣ height)
    (yDst uvDst uDst vDst : Buffer) :
    (∀ ySrc : Buffer, IsPlane width height (fun x y => ySrc (tile2DToLinear width height x y false)) yDst
      (cscTiledToLinearY yDst ySrc width height)) ∧
    (∀ (uvSrc : Buffer) (h : Nat), IsPlane width h (fun x y => uvSrc (tile2DToLinear width h x y true)) uvDst
        (cscTiledToLinearUv uvDst uvSrc width h) ∧
      IsPlane (width / 2) h (fun x y => uvSrc (tile2DToLinear width h (x * 2) y true)) uDst
        (cscTiledToLinearUvDeinterleave uDst vDst uvSrc width h).1 ∧
      IsPlane (width / 2) h (fun x y => uvSrc (tile2DToLinear width h (x * 2 + 1) y true)) vDst
        (cscTiledToLinearUvDeinterleave uDst vDst uvSrc width h).2) ∧
    ∀ (memory : Buffer) (yAddr cAddr : Nat),
      let reference := tile2DToYUV420 memory yAddr cAddr width height ⟨yDst, uDst, vDst⟩
      let uv := cscTiledToLinearUv uvDst (fun k => memory (cAddr + k)) width (height / 2)
      reference.y = cscTiledToLinearY yDst (fun k => memory (yAddr + k)) width height ∧
      (reference.cb, reference.cr) =
        cscTiledToLinearUvDeinterleave uDst vDst (fun k => memory (cAddr + k)) width (height / 2) ∧
      ∀ x < width / 2, ∀ y < height / 2, uv (y * width + x * 2) = reference.cb (y * (width / 2) + x) ∧
          uv (y * width + (x * 2 + 1)) = reference.cr (y * (width / 2) + x) := by
  have hy := fun ySrc => cscTiledToLinearY_isPlane yDst ySrc hwidth hheight
  have huv := fun uvSrc h => cscTiledToLinearUv_isPlane uvDst uvSrc h hwidth
  have hsplit := fun uvSrc h => cscTiledToLinearUvDeinterleave_isPlane uDst vDst uvSrc h hwidth
  refine ⟨hy, fun uvSrc h => ⟨huv uvSrc h, hsplit uvSrc h⟩, ?_⟩
  intro memory yAddr cAddr
  obtain ⟨hluma, hcb, hcr⟩ := tile2DToYUV420_isPlane memory yAddr cAddr height hwidth ⟨yDst, uDst, vDst⟩
  refine ⟨hluma.unique (hy fun k => memory (yAddr + k)), ?_, ?_⟩
  · obtain ⟨hu, hv⟩ := hsplit (fun k => memory (cAddr + k)) (height / 2)
    exact Prod.ext (hcb.unique hu) (hcr.unique hv)
  · intro x hx y hy'
    constructor
    · rw [(huv _ _).sample_eq (x * 2) (by omega) y hy', hcb.sample_eq x hx y hy']
    · rw [(huv _ _).sample_eq (x * 2 + 1) (by omega) y hy', hcr.sample_eq x hx y hy']

theorem cscTiledToLinearY_rightEdge : (2 ∣ 18 ∧ 2 ∣ 2) ∧
      cscTiledToLinearY (fun _ => 0) (BitVec.ofNat 8) 18 2 (1 * 18 + 17) = 0x11#8 := by
  have hwidth : 2 ∣ 18 := by decide
  have hheight : 2 ∣ 2 := by decide
  have hplane := (cscTiledToLinear_tileMap hwidth hheight (fun _ => 0) (fun _ => 0) (fun _ => 0) fun _ => 0).1
    (BitVec.ofNat 8)
  exact ⟨⟨hwidth, hheight⟩, hplane.sample_eq 17 (by decide) 1 (by decide)⟩

end ExynosHal.SwConverter
