import ExynosHal.Library.Arith
import ExynosHal.Library.Run

/-! # Virtual sensors

The temperature of a virtual sensor is a weighted mean of other sensors, which `updateTemp` adds
onto the temperature that it had before.
-/

namespace ExynosHal.Thermal
open Library Library.Run

/-- Why a call of the source has no defined result. -/
inductive Fault where
  | outOfRange
  | divisionByZero
  | overflow
  deriving DecidableEq

/-- A signed result has to be an `int`. -/
def int (x : Int) : Except Fault Int :=
  if IntType.i32.InRange x then .ok x else .error .overflow

theorem bind_eq_ok {α β : Type} {x : Except Fault α} {f : α → Except Fault β} {b : β} :
    x >>= f = .ok b ↔ ∃ a, x = .ok a ∧ f a = .ok b := by
  cases x with
  | error fault => exact iff_of_false (fun herr => nomatch herr) fun ⟨a, hok, _⟩ => nomatch hok
  | ok a => exact ⟨fun h => ⟨a, rfl, h⟩, fun ⟨a', hok, h⟩ => Except.ok.inj hok ▸ h⟩

theorem int_bind_eq_ok {α : Type} {x : Int} {f : Int → Except Fault α} {a : α} :
    int x >>= f = .ok a ↔ IntType.i32.InRange x ∧ f x = .ok a := by
  rw [int]
  split
  · rename_i h
    exact (and_iff_right h).symm
  · rename_i h
    exact iff_of_false (fun herr => nomatch herr) fun hok => h hok.1

theorem int_eq_ok {x y : Int} : int x = .ok y ↔ IntType.i32.InRange x ∧ x = y := by
  rw [int]
  split <;> simp_all

structure Virtual where
  weights : List Int
  weightSum : Int
  offsetSum : Int

namespace Virtual

def sum (xs : List Int) : Except Fault Int := xs.foldlM (fun sum x => int (sum + x)) 0

def new (offsets weights : List Int) : Except Fault Virtual := do
  let offsetSum ← sum offsets
  let offsetSum ← int (offsetSum * 100)
  let weightSum ← sum weights
  return { weights := weights, weightSum := weightSum, offsetSum := offsetSum }

def accumulate : Int → List Int → List Int → Except Fault Int
  | temperature, [], _ => .ok temperature
  | _, _ :: _, [] => .error .outOfRange
  | temperature, temp :: temps, weight :: weights => do
    let product ← int (temp * weight)
    let temperature ← int (temperature + product)
    accumulate temperature temps weights

variable (v : Virtual)

def updateTemp (temperature : Int) (temps : List Int) : Except Fault Int := do
  let temperature ← accumulate temperature temps v.weights
  let temperature ← int (temperature + v.offsetSum)
  if v.weightSum = 0 then .error .divisionByZero else int (temperature.tdiv v.weightSum)

def weighted (temps weights : List Int) : Int := (List.zipWith (· * ·) temps weights).sum

def total (temps : List Int) : Int := weighted temps v.weights + v.offsetSum

/-- No `int` on the way to the mean overflows. -/
def SumFits : Int → List Int → List Int → Prop
  | start, temp :: temps, weight :: weights =>
    IntType.i32.InRange (temp * weight) ∧ IntType.i32.InRange (start + temp * weight) ∧
      SumFits (start + temp * weight) temps weights
  | _, _, _ => True

instance SumFits.decidable : (start : Int) → (temps weights : List Int) → Decidable (SumFits start temps weights)
  | _, [], _ | _, _ :: _, [] => isTrue trivial
  | start, temp :: temps, weight :: weights =>
    have := SumFits.decidable (start + temp * weight) temps weights
    inferInstanceAs (Decidable (_ ∧ _ ∧ _))

theorem accumulate_eq_ok {temps weights : List Int} (hlen : temps.length = weights.length) {start sum : Int} :
    accumulate start temps weights = .ok sum ↔ SumFits start temps weights ∧ start + weighted temps weights = sum := by
  induction temps generalizing weights start with
  | nil => simp [accumulate, SumFits, weighted]
  | cons temp temps ih =>
    cases weights with
    | nil => cases hlen
    | cons weight weights =>
      rw [accumulate, SumFits, weighted, List.zipWith_cons_cons, List.sum_cons, ← weighted.eq_def]
      rw [int_bind_eq_ok, int_bind_eq_ok, ih (Nat.succ.inj hlen), ← add_assoc]
      simp only [and_assoc]

section
variable {x d w : Int}

theorem tdiv_eq_zero_iff (hw : w ≠ 0) : x.tdiv w = 0 ↔ x.natAbs < w.natAbs := by
  have hsplit := Int.mul_tdiv_add_tmod x w
  rcases le_total 0 x with hx | hx
  · constructor
    · intro hzero
      obtain ⟨-, hnonneg, hlt⟩ := (Int.tdiv_tmod_unique hx hw).mp ⟨hzero, rfl⟩
      rw [hzero, mul_zero] at hsplit
      omega
    · intro hlt
      exact ((Int.tdiv_tmod_unique hx hw (r := x)).mpr ⟨by ring, hx, by omega⟩).1
  · constructor
    · intro hzero
      obtain ⟨-, hlt, hnonpos⟩ := (Int.tdiv_tmod_unique' hx hw).mp ⟨hzero, rfl⟩
      rw [hzero, mul_zero] at hsplit
      omega
    · intro hlt
      exact ((Int.tdiv_tmod_unique' hx hw (r := x)).mpr ⟨by ring, by omega, hx⟩).1

theorem tdiv_add_of_nonneg (hw : w ≠ 0) (hx : 0 ≤ x) (hlarge : w.natAbs ≤ x.natAbs) :
    (x + d).tdiv w = x.tdiv w ↔ 0 ≤ x.tmod w + d ∧ x.tmod w + d < w.natAbs := by
  obtain ⟨hsplit, hnonneg, hlt⟩ := (Int.tdiv_tmod_unique hx hw).mp ⟨rfl, rfl⟩
  have hpos : 0 < w * x.tdiv w := by omega
  have hmultiple : (w.natAbs : Int) ≤ w * x.tdiv w := Int.le_of_dvd hpos (Int.natAbs_dvd.mpr (Int.dvd_mul_right w _))
  constructor
  · intro hsame
    rcases le_total 0 (x + d) with hmoved | hmoved
    · obtain ⟨hsplit', hnonneg', hlt'⟩ := (Int.tdiv_tmod_unique hmoved hw).mp ⟨hsame, rfl⟩
      omega
    · obtain ⟨hsplit', hlt', hnonpos'⟩ := (Int.tdiv_tmod_unique' hmoved hw).mp ⟨hsame, rfl⟩
      omega
  · rintro ⟨hlow, hhigh⟩
    exact ((Int.tdiv_tmod_unique (by omega) hw).mpr ⟨by omega, hlow, hhigh⟩).1

/-- Adding `d` does not change the quotient. -/
def KeepsQuotient (x d w : Int) : Prop :=
  if x.natAbs < w.natAbs then (x + d).natAbs < w.natAbs
  else if 0 ≤ x then 0 ≤ x.tmod w + d ∧ x.tmod w + d < w.natAbs
  else -w.natAbs < x.tmod w + d ∧ x.tmod w + d ≤ 0

instance (x d w : Int) : Decidable (KeepsQuotient x d w) :=
  inferInstanceAs (Decidable (ite _ _ _))

theorem keepsQuotient_iff (hw : w ≠ 0) : KeepsQuotient x d w ↔ (x + d).tdiv w = x.tdiv w := by
  rw [KeepsQuotient]
  split
  · rename_i hsmall
    rw [(tdiv_eq_zero_iff hw).mpr hsmall, tdiv_eq_zero_iff hw]
  · split
    · exact (tdiv_add_of_nonneg hw ‹_› (by omega)).symm
    · have hneg := @tdiv_add_of_nonneg (-x) (-d) w hw (by omega) (by omega)
      rw [← neg_add, Int.neg_tdiv, Int.neg_tdiv, neg_inj, Int.neg_tmod] at hneg
      rw [hneg]
      omega

end

def Unnoticed (temperature : Int) (temps : List Int) : Prop :=
  SumFits temperature temps v.weights ∧ IntType.i32.InRange (temperature + v.total temps) ∧
    IntType.i32.InRange ((v.total temps).tdiv v.weightSum) ∧ KeepsQuotient (v.total temps) temperature v.weightSum

instance (temperature : Int) (temps : List Int) : Decidable (v.Unnoticed temperature temps) :=
  inferInstanceAs (Decidable (_ ∧ _ ∧ _ ∧ _))

theorem updateTemp_eq_ok_iff {v : Virtual} (hweights : v.weightSum ≠ 0) {temps : List Int}
    (hlen : temps.length = v.weights.length) (temperature : Int) :
    v.updateTemp temperature temps = .ok ((v.total temps).tdiv v.weightSum) ↔ v.Unnoticed temperature temps := by
  have htotal : temperature + weighted temps v.weights + v.offsetSum = v.total temps + temperature := by
    rw [total]
    ring
  rw [updateTemp, bind_eq_ok]
  constructor
  · rintro ⟨sum, hsum, hrun⟩
    obtain ⟨hfits, rfl⟩ := (accumulate_eq_ok hlen).mp hsum
    obtain ⟨hrange, hrun⟩ := int_bind_eq_ok.mp hrun
    rw [htotal] at hrange hrun
    rw [if_neg hweights] at hrun
    obtain ⟨hquot, hsame⟩ := int_eq_ok.mp hrun
    rw [hsame] at hquot
    exact ⟨hfits, add_comm temperature _ ▸ hrange, hquot, (keepsQuotient_iff hweights).mpr hsame⟩
  · rintro ⟨hfits, hrange, hquot, hkeeps⟩
    have hsame := (keepsQuotient_iff hweights).mp hkeeps
    refine ⟨_, (accumulate_eq_ok hlen).mpr ⟨hfits, rfl⟩, int_bind_eq_ok.mpr ⟨?_, ?_⟩⟩
    · rw [htotal, add_comm]
      exact hrange
    · rw [if_neg hweights, htotal, hsame]
      exact int_eq_ok.mpr ⟨hquot, rfl⟩

def step (temperature : Int) (temps : List Int) : Option Int := (v.updateTemp temperature temps).toOption

def FollowsInputs (temperature : Int) (temps : List Int) : Prop :=
  v.step temperature temps = some ((v.total temps).tdiv v.weightSum)

theorem followsInputs_iff {v : Virtual} (hweights : v.weightSum ≠ 0) {temps : List Int}
    (hlen : temps.length = v.weights.length) (temperature : Int) :
    v.FollowsInputs temperature temps ↔ v.Unnoticed temperature temps := by
  rw [FollowsInputs, step, ← updateTemp_eq_ok_iff hweights hlen]
  cases v.updateTemp temperature temps with
  | error fault => exact iff_of_false (fun h => nomatch h) fun h => nomatch h
  | ok mean => exact ⟨fun h => congrArg Except.ok (Option.some.inj h), fun h => congrArg some (Except.ok.inj h)⟩

end Virtual

end ExynosHal.Thermal
