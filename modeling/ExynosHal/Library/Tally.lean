import Mathlib.Tactic

/-! # Counts and maxima over a list

How the number of counted elements follows a change of one element, and the upper
bounds of a running maximum.
-/

namespace ExynosHal.Library.Tally

variable {α : Type} {l : List α} {p q : α → Bool}

theorem countP_gain (hl : l.Nodup) {a : α} (ha : a ∈ l)
    (hagree : ∀ b, b ≠ a → q b = p b) (hp : p a = false) (hq : q a = true) : l.countP q = l.countP p + 1 := by
  induction l with
  | nil => cases ha
  | cons b l ih =>
    obtain ⟨hb, hl⟩ := List.nodup_cons.mp hl
    rw [List.countP_cons, List.countP_cons]
    by_cases hab : a = b
    · subst hab
      have hrest : l.countP q = l.countP p := by
        apply List.countP_congr
        intro b hmem
        have hne : b ≠ a := by
          rintro rfl
          exact hb hmem
        rw [hagree b hne]
      rw [hrest, hp, hq]
      rfl
    · have hmem : a ∈ l := (List.mem_cons.mp ha).resolve_left hab
      rw [ih hl hmem, hagree b (Ne.symm hab)]
      omega

theorem countP_lose (hl : l.Nodup) {a : α} (ha : a ∈ l)
    (hagree : ∀ b, b ≠ a → q b = p b) (hp : p a = true) (hq : q a = false) : l.countP q + 1 = l.countP p :=
  (countP_gain hl ha (fun b hb => (hagree b hb).symm) hq hp).symm

theorem countP_same (hagree : ∀ b ∈ l, q b = p b) : l.countP q = l.countP p := by
  apply List.countP_congr
  intro b hb
  rw [hagree b hb]

theorem countP_set_add {n : Nat} (p : α → Bool) (v : Vector α n) (i : Fin n) (a : α) :
    (v.set i.val a i.isLt).countP p + (if p (v.get i) then 1 else 0) = v.countP p + if p a then 1 else 0 := by
  have hget : v.get i = v[i.val] := rfl
  have hpos : p v[i.val] → 0 < v.countP p := fun hold => Vector.countP_pos_iff.mpr ⟨_, Vector.getElem_mem i.isLt, hold⟩
  rw [Vector.countP_set, hget]
  generalize (if p a then 1 else 0) = added
  split_ifs with hold
  · have := hpos hold
    omega
  · omega

/-- The maximum of `start` and the listed values. -/
def maximum (start : Int) (values : List Int) : Int := values.foldl max start

theorem maximum_le_iff (start m : Int) (values : List Int) :
    maximum start values ≤ m ↔ start ≤ m ∧ ∀ v ∈ values, v ≤ m := by
  induction values generalizing start with
  | nil => simp [maximum]
  | cons v values ih =>
    have hfold : maximum start (v :: values) = maximum (max start v) values := rfl
    rw [hfold, ih, max_le_iff, List.forall_mem_cons, and_assoc]

end ExynosHal.Library.Tally
