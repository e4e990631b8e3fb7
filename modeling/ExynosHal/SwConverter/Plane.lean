import ExynosHal.Library.Words
import ExynosHal.Library.BufferFill

/-! # Planes of a picture

Buffers, the copying functions and the pixels of a plane. A pointer argument is a buffer with an offset.
-/

namespace ExynosHal.SwConverter
open Library
open Function (update)

abbrev Buffer := Nat → Byte

/-- A value stored in an `unsigned int`. -/
def uint (n : Nat) : Nat := n % 2 ^ 32

theorem uint_eq {n : Nat} (hn : n < 2 ^ 32) : uint n = n := Nat.mod_eq_of_lt hn

def memcpy (dest : Buffer) (d : Nat) (src : Buffer) (s len : Nat) : Buffer := copy dest d (fun t => src (s + t)) len

def cscDeinterleaveMemcpy (dest1 : Buffer) (d1 : Nat) (dest2 : Buffer) (d2 : Nat) (src : Buffer)
    (s srcSize : Nat) : Buffer × Buffer :=
  (forLoop (srcSize / 2) 1 (fun i dest =>
    (update dest.1 (d1 + i) (src (s + i * 2)),
      update dest.2 (d2 + i) (src (s + i * 2 + 1)))) 0 (dest1, dest2)).2

theorem cscDeinterleaveMemcpy_eq (dest1 : Buffer) (d1 : Nat) (dest2 : Buffer) (d2 : Nat) (src : Buffer)
    (s srcSize : Nat) :
    cscDeinterleaveMemcpy dest1 d1 dest2 d2 src s srcSize = (copy dest1 d1 (fun t => src (s + t * 2)) (srcSize / 2),
        copy dest2 d2 (fun t => src (s + t * 2 + 1)) (srcSize / 2)) :=
  forLoop_update_pair (dest1, dest2) d1 d2 _ _ (srcSize / 2)

def cscInterleaveMemcpy (dest : Buffer) (d : Nat) (src1 : Buffer) (s1 : Nat) (src2 : Buffer) (s2 : Nat)
    (srcSize : Nat) : Buffer :=
  (forLoop srcSize 1 (fun i dest =>
    update (update dest (d + i * 2) (src1 (s1 + i))) (d + (i * 2 + 1)) (src2 (s2 + i))) 0 dest).2

theorem cscInterleaveMemcpy_eq (dest : Buffer) (d : Nat) (src1 : Buffer) (s1 : Nat) (src2 : Buffer) (s2 srcSize : Nat) :
    cscInterleaveMemcpy dest d src1 s1 src2 s2 srcSize =
      copy dest d (fun t => if t % 2 = 0 then src1 (s1 + t / 2) else src2 (s2 + t / 2)) (srcSize * 2) := by
  refine @forLoop_one _ srcSize _ (fun i out => out =
    copy dest d (fun t => if t % 2 = 0 then src1 (s1 + t / 2) else src2 (s2 + t / 2)) (i * 2)) ?_ _ ?_
  · rintro i out - rfl
    have heven : i * 2 % 2 = 0 := by omega
    have hodd : (i * 2 + 1) % 2 ≠ 0 := by omega
    have hhalf : (i * 2 + 1) / 2 = i := by omega
    rw [Nat.add_mul, ← copy_succ, ← copy_succ]
    simp only [heven, hodd, hhalf, if_true, if_false, Nat.mul_div_cancel i two_pos]
  · rw [Nat.zero_mul, copy_zero]

def rowPart (x len y : Nat) : Set (Nat × Nat) := {q | (x ≤ q.1 ∧ q.1 < x + len) ∧ q.2 = y}

def block (x len y rows : Nat) : Set (Nat × Nat) := {q | (x ≤ q.1 ∧ q.1 < x + len) ∧ y ≤ q.2 ∧ q.2 < y + rows}

theorem mem_block {x len y rows : Nat} {q : Nat × Nat} :
    q ∈ block x len y rows ↔ (x ≤ q.1 ∧ q.1 < x + len) ∧ y ≤ q.2 ∧ q.2 < y + rows :=
  Iff.rfl

theorem mem_rowPart {x len y : Nat} {q : Nat × Nat} : q ∈ rowPart x len y ↔ (x ≤ q.1 ∧ q.1 < x + len) ∧ q.2 = y :=
  Iff.rfl

theorem block_no_columns (x y rows : Nat) : block x 0 y rows = ∅ := by
  ext q
  refine iff_of_false ?_ (Set.notMem_empty q)
  rw [mem_block]
  omega

theorem block_no_rows (x len y : Nat) : block x len y 0 = ∅ := by
  ext q
  refine iff_of_false ?_ (Set.notMem_empty q)
  rw [mem_block]
  omega

theorem rowPart_none (x y : Nat) : rowPart x 0 y = ∅ := by
  ext q
  refine iff_of_false ?_ (Set.notMem_empty q)
  rw [mem_rowPart]
  omega

theorem rowPart_union (x len len' y : Nat) : rowPart x len y ∪ rowPart (x + len) len' y = rowPart x (len + len') y := by
  ext q
  simp only [Set.mem_union, mem_rowPart]
  omega

theorem block_union_rowPart (x len y rows : Nat) :
    block x len y rows ∪ rowPart x len (y + rows) = block x len y (rows + 1) := by
  ext q
  simp only [Set.mem_union, mem_block, mem_rowPart]
  omega

theorem block_union_columns (x len len' y rows : Nat) :
    block x len y rows ∪ block (x + len) len' y rows = block x (len + len') y rows := by
  ext q
  simp only [Set.mem_union, mem_block]
  omega

theorem block_union_rows (x len y rows rows' : Nat) :
    block x len y rows ∪ block x len (y + rows) rows' = block x len y (rows + rows') := by
  ext q
  simp only [Set.mem_union, mem_block]
  omega

theorem rowPart_eq (x len y : Nat) : rowPart x len y = {q | ∃ t < len, q = (x + t, y)} := by
  ext ⟨x', y'⟩
  constructor
  · rintro ⟨⟨hle, hlt⟩, hy⟩
    dsimp only at hle hlt hy
    exact ⟨x' - x, by omega, Prod.ext (by simp only; omega) hy⟩
  · rintro ⟨t, ht, heq⟩
    cases heq
    exact ⟨⟨by simp only; omega, by simp only; omega⟩, rfl⟩

structure IsPlane (width height : Nat) (sample : Nat → Nat → Byte) (init dst : Buffer) : Prop where
  sample_eq : ∀ x < width, ∀ y < height, dst (y * width + x) = sample x y
  outside : ∀ n, width * height ≤ n → dst n = init n

def rowMajor (width : Nat) (q : Nat × Nat) : Nat := q.2 * width + q.1

theorem rowMajor_inj {width : Nat} {q q' : Nat × Nat} (hq : q.1 < width) (hq' : q'.1 < width)
    (h : rowMajor width q = rowMajor width q') : q = q' := by
  have hpos : 0 < width := by omega
  have hrow : q.2 = q'.2 := by
    have hdiv := congrArg (· / width) h
    simpa [rowMajor, Nat.add_comm (_ * _), Nat.add_mul_div_right, hpos, Nat.div_eq_of_lt, hq, hq'] using hdiv
  have hcol : q.1 = q'.1 := by
    rw [rowMajor, rowMajor, hrow] at h
    exact Nat.add_left_cancel h
  exact Prod.ext hcol hrow

theorem rowMajor_lt {width height x y : Nat} (hx : x < width) (hy : y < height) : y * width + x < width * height := by
  calc
    y * width + x < y * width + width := by omega
    _ = width * (y + 1) := by ring
    _ ≤ width * height := Nat.mul_le_mul_left width hy

variable {width height : Nat}

theorem isPlane_of_filled {sample : Nat × Nat → Byte} {init dst : Buffer}
    (h : Filled (rowMajor width) sample (block 0 width 0 height) init dst) :
    IsPlane width height (fun x y => sample (x, y)) init dst := by
  constructor
  · intro x hx y hy
    exact h.value (x, y) (mem_block.mpr ⟨⟨Nat.zero_le x, by omega⟩, Nat.zero_le y, by omega⟩)
  · intro n hn
    refine h.frame n ?_
    rintro ⟨x, y⟩ hq rfl
    obtain ⟨⟨-, hx⟩, -, hy⟩ := mem_block.mp hq
    rw [Nat.zero_add] at hx hy
    exact absurd hn (not_le.mpr (rowMajor_lt hx hy))

theorem IsPlane.unique {sample : Nat → Nat → Byte} {init dst dst' : Buffer}
    (h : IsPlane width height sample init dst) (h' : IsPlane width height sample init dst') : dst = dst' := by
  funext n
  by_cases hn : n < width * height
  · have hpos : 0 < width := Nat.pos_of_mul_pos_right (by omega : 0 < width * height)
    have hx : n % width < width := Nat.mod_lt n hpos
    have hy : n / width < height := Nat.div_lt_of_lt_mul hn
    have hsample := (h.sample_eq _ hx _ hy).trans (h'.sample_eq _ hx _ hy).symm
    rwa [Nat.div_add_mod'] at hsample
  · rw [h.outside n (by omega), h'.outside n (by omega)]

theorem filled_copyRowPart {width x len y : Nat} {sample : Nat × Nat → Byte} {D : Set (Nat × Nat)}
    {init dst : Buffer} (h : Filled (rowMajor width) sample D init dst) (hD : ∀ q ∈ D, q.1 < width)
    (hlen : x + len ≤ width) {d : Nat} (hd : d = y * width + x) {f : Nat → Byte}
    (hf : ∀ t < len, f t = sample (x + t, y)) :
    Filled (rowMajor width) sample (D ∪ rowPart x len y) init (copy dst d f len) := by
  rw [rowPart_eq]
  refine h.copy ?_ hf ?_
  · intro t _
    rw [rowMajor, hd, Nat.add_assoc]
  · intro q hq t ht heq
    exact rowMajor_inj (hD q hq) (by simp only; omega) heq

theorem uint_row {width rows y : Nat} (hsize : width * rows < 2 ^ 32) (hy : y < rows) : uint (width * y) = width * y :=
  uint_eq (Nat.lt_of_le_of_lt (Nat.mul_le_mul_left width hy.le) hsize)

theorem forLoop_rows_isPlane (dst : Buffer) (width rows : Nat) (hsize : width * rows < 2 ^ 32) (f : Nat → Nat → Byte) :
    IsPlane width rows (fun x y => f y x) dst
      (forLoop rows 1 (fun i dst => copy dst (uint (width * i)) (f i) width) 0 dst).2 := by
  have hfilled : Filled (rowMajor width) (fun q => f q.2 q.1) (block 0 width 0 rows) dst
      (forLoop rows 1 (fun i dst => copy dst (uint (width * i)) (f i) width) 0 dst).2 := by
    refine @forLoop_one _ rows _
      (fun i mem => Filled (rowMajor width) (fun q => f q.2 q.1) (block 0 width 0 i) dst mem) ?_ _ ?_
    · intro i mem hi h
      have hin : ∀ q ∈ block 0 width 0 i, q.1 < width := by
        intro q hq
        have := (mem_block.mp hq).1.2
        omega
      have hoff : uint (width * i) = i * width + 0 := by
        rw [uint_row hsize hi, Nat.mul_comm, Nat.add_zero]
      have hnext := @filled_copyRowPart width 0 width i _ _ dst mem h hin (by omega) (uint (width * i)) hoff (f i)
        (fun t _ => by rw [Nat.zero_add])
      have hrow := block_union_rowPart 0 width 0 i
      rw [Nat.zero_add] at hrow
      rwa [hrow] at hnext
    · rw [block_no_rows]
      exact Filled.start _ _ _
  exact isPlane_of_filled hfilled

end ExynosHal.SwConverter
