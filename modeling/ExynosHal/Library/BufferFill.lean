import Mathlib.Data.Set.Function
import Mathlib.Tactic

/-! # Loops that fill a buffer

A buffer is a function of the offset. A loop that writes a buffer is followed with `Filled` over the indices
done so far.
-/

namespace ExynosHal.Library
open Function (update)

section
variable {σ : Type} {bound step : Nat} {body : Nat → σ → σ}

def forLoop (bound step : Nat) (body : Nat → σ → σ) (i : Nat) (s : σ) : Nat × σ :=
  if i < bound ∧ 0 < step then forLoop bound step body (i + step) (body i s) else (i, s)
termination_by bound - i

variable {I : Nat → σ → Prop}

theorem forLoop_rule (hstep : 0 < step)
    (hbody : ∀ i s, i < bound → I i s → I (i + step) (body i s)) {i : Nat} {s : σ} (hs : I i s) :
    I (forLoop bound step body i s).1 (forLoop bound step body i s).2 ∧ bound ≤ (forLoop bound step body i s).1 := by
  fun_induction forLoop bound step body i s with
  | case1 i s h ih => exact ih (hbody i s h.1 hs)
  | case2 i s h =>
    refine ⟨hs, ?_⟩
    by_contra hlt
    exact h ⟨by omega, hstep⟩

theorem forLoop_dvd_from (hstep : 0 < step) (hdvd : step ∣ bound) {start : Nat}
    (hstart : step ∣ start) (hle : start ≤ bound)
    (hbody : ∀ i s, start ≤ i → step ∣ i → i < bound → I i s → I (i + step) (body i s)) {s : σ} (hs : I start s) :
    (forLoop bound step body start s).1 = bound ∧ I bound (forLoop bound step body start s).2 := by
  have hrule : (start ≤ (forLoop bound step body start s).1 ∧ step ∣ (forLoop bound step body start s).1 ∧
      (forLoop bound step body start s).1 ≤ bound ∧
      I (forLoop bound step body start s).1 (forLoop bound step body start s).2) ∧
      bound ≤ (forLoop bound step body start s).1 := by
    refine @forLoop_rule σ bound step body (fun i s => start ≤ i ∧ step ∣ i ∧ i ≤ bound ∧ I i s) hstep ?_ start s
      ⟨le_rfl, hstart, hle, hs⟩
    rintro i s hlt ⟨hi, hdvd', -, hI⟩
    refine ⟨by omega, (Nat.dvd_add_right hdvd').mpr dvd_rfl, ?_, hbody i s hi hdvd' hlt hI⟩
    exact Nat.add_le_of_le_sub' hlt.le (Nat.le_of_dvd (Nat.sub_pos_of_lt hlt) (Nat.dvd_sub hdvd hdvd'))
  obtain ⟨⟨-, -, hle', hI⟩, hge⟩ := hrule
  have heq := Nat.le_antisymm hle' hge
  rw [heq] at hI
  exact ⟨heq, hI⟩

theorem forLoop_dvd (hstep : 0 < step) (hdvd : step ∣ bound)
    (hbody : ∀ i s, step ∣ i → i < bound → I i s → I (i + step) (body i s)) {s : σ} (hs : I 0 s) :
    (forLoop bound step body 0 s).1 = bound ∧ I bound (forLoop bound step body 0 s).2 :=
  forLoop_dvd_from hstep hdvd (dvd_zero step) (Nat.zero_le bound) (fun i s _ => hbody i s) hs

theorem forLoop_one (hbody : ∀ i s, i < bound → I i s → I (i + 1) (body i s))
    {s : σ} (hs : I 0 s) : I bound (forLoop bound 1 body 0 s).2 :=
  (forLoop_dvd Nat.one_pos (one_dvd bound) (fun i s _ => hbody i s) hs).2

theorem forLoop_iterate {f : σ → σ} (hstep : 0 < step) (hdvd : step ∣ bound) (s : σ) :
    (forLoop bound step (fun _ s => f^[step] s) 0 s).2 = f^[bound] s := by
  refine (@forLoop_dvd σ bound step (fun _ s => f^[step] s) (fun i s' => s' = f^[i] s) hstep hdvd ?_ s rfl).2
  rintro i s' - - rfl
  rw [← Function.iterate_add_apply, Nat.add_comm]

theorem forLoop_of_lt (hstep : 0 < step) {i : Nat} (hi : i < bound) (s : σ) :
    forLoop bound step body i s = forLoop bound step body (i + step) (body i s) := by
  rw [forLoop, if_pos ⟨hi, hstep⟩]

theorem forLoop_prod {τ : Type} (f : Nat → σ → σ) (g : Nat → τ → τ) (i : Nat) (s : σ × τ) :
    (forLoop bound step (fun i s => (f i s.1, g i s.2)) i s).2 =
      ((forLoop bound step f i s.1).2, (forLoop bound step g i s.2).2) := by
  fun_induction forLoop bound step (fun i s => (f i s.1, g i s.2)) i s with
  | case1 i s h ih => rw [ih, forLoop_of_lt h.2 h.1 s.1, forLoop_of_lt h.2 h.1 s.2]
  | case2 i s h =>
    have hexit : forLoop bound step f i s.1 = (i, s.1) ∧ forLoop bound step g i s.2 = (i, s.2) :=
      ⟨by rw [forLoop, if_neg h], by rw [forLoop, if_neg h]⟩
    rw [hexit.1, hexit.2]

theorem forLoop_related {τ : Type} {body' : Nat → τ → τ} {R : Nat → σ → τ → Prop}
    (hbody : ∀ i s t, i < bound → R i s t → R (i + step) (body i s) (body' i t)) {i : Nat} {s : σ} {t : τ}
      (h : R i s t) :
    (forLoop bound step body i s).1 = (forLoop bound step body' i t).1 ∧
      R (forLoop bound step body i s).1 (forLoop bound step body i s).2 (forLoop bound step body' i t).2 := by
  fun_induction forLoop bound step body i s generalizing t with
  | case1 i s hnext ih =>
    rw [forLoop_of_lt hnext.2 hnext.1 t]
    exact ih (hbody i s t hnext.1 h)
  | case2 i s hexit =>
    rw [forLoop, if_neg hexit]
    exact ⟨rfl, h⟩

end

section
variable {ι α : Type} {addr : ι → Nat} {value : ι → α} {done : Set ι} {init mem : Nat → α}

def copy (mem : Nat → α) (d : Nat) (f : Nat → α) (len : Nat) : Nat → α :=
  fun n => if d ≤ n ∧ n < d + len then f (n - d) else mem n

theorem copy_zero (mem : Nat → α) (d : Nat) (f : Nat → α) : copy mem d f 0 = mem := by
  funext n
  rw [copy, if_neg (by omega)]

theorem copy_succ (mem : Nat → α) (d : Nat) (f : Nat → α) (len : Nat) :
    update (copy mem d f len) (d + len) (f len) = copy mem d f (len + 1) := by
  funext n
  by_cases hn : n = d + len
  · subst hn
    rw [Function.update_self, copy, if_pos ⟨by omega, by omega⟩, Nat.add_sub_cancel_left]
  · rw [Function.update_of_ne hn, copy, copy]
    exact if_congr (by omega) rfl rfl

theorem forLoop_update (mem : Nat → α) (d : Nat) (f : Nat → α) (len : Nat) :
    (forLoop len 1 (fun i mem => update mem (d + i) (f i)) 0 mem).2 = copy mem d f len := by
  refine @forLoop_one _ len _ (fun i mem' => mem' = copy mem d f i) ?_ _ (copy_zero mem d f).symm
  rintro i mem' - rfl
  exact copy_succ mem d f i

theorem forLoop_update_pair (mem : (Nat → α) × (Nat → α)) (d₁ d₂ : Nat) (f g : Nat → α) (len : Nat) :
    (forLoop len 1 (fun i mem =>
      (update mem.1 (d₁ + i) (f i), update mem.2 (d₂ + i) (g i))) 0 mem).2 =
      (copy mem.1 d₁ f len, copy mem.2 d₂ g len) := by
  rw [forLoop_prod (fun i (m : Nat → α) => update m (d₁ + i) (f i))
    (fun i (m : Nat → α) => update m (d₂ + i) (g i)), forLoop_update, forLoop_update]

structure Filled (addr : ι → Nat) (value : ι → α) (done : Set ι) (init mem : Nat → α) : Prop where
  value : ∀ p ∈ done, mem (addr p) = value p
  frame : ∀ n, (∀ p ∈ done, addr p ≠ n) → mem n = init n

theorem Filled.start (addr : ι → Nat) (value : ι → α) (init : Nat → α) : Filled addr value ∅ init init where
  value _ hp := absurd hp (Set.notMem_empty _)
  frame _ _ := rfl

theorem Filled.copy (h : Filled addr value done init mem) {d len : Nat} {f : Nat → α} {cell : Nat → ι}
    (haddr : ∀ t < len, addr (cell t) = d + t) (hval : ∀ t < len, f t = value (cell t))
    (hinj : ∀ p ∈ done, ∀ t < len, addr p = addr (cell t) → p = cell t) :
    Filled addr value (done ∪ {p | ∃ t < len, p = cell t}) init (Library.copy mem d f len) := by
  have hcell : ∀ t < len, Library.copy mem d f len (addr (cell t)) = value (cell t) := by
    intro t ht
    rw [haddr t ht, ← hval t ht, Library.copy, if_pos ⟨by omega, by omega⟩, Nat.add_sub_cancel_left]
  constructor
  · rintro p (hp | ⟨t, ht, rfl⟩)
    · by_cases hin : d ≤ addr p ∧ addr p < d + len
      · have ht : addr p - d < len := by omega
        have haddr' : addr p = addr (cell (addr p - d)) := by
          rw [haddr _ ht]
          omega
        rw [hinj p hp _ ht haddr']
        exact hcell _ ht
      · rw [Library.copy, if_neg hin]
        exact h.value p hp
    · exact hcell t ht
  · intro n hn
    have hout : ¬ (d ≤ n ∧ n < d + len) := by
      rintro ⟨hle, hlt⟩
      have ht : n - d < len := by omega
      refine hn _ (.inr ⟨n - d, ht, rfl⟩) ?_
      rw [haddr _ ht]
      omega
    rw [Library.copy, if_neg hout]
    exact h.frame n fun p hp => hn p (.inl hp)

end

end ExynosHal.Library
