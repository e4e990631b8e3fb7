import Mathlib.Tactic

/-!
# Arithmetic of fixed-width integers

A calculation is a tree that names every intermediate result together with the
integer type it is stored in. The same tree is read three ways: on a machine,
where every result is reduced to its type, in unbounded integers, and as the
condition that no result leaves its type.
-/

namespace ExynosHal.Library

structure IntType where
  signed : Bool
  bits : Nat
  bits_pos : 0 < bits

namespace IntType

theorem bits_pos_32 : 0 < 32 := by decide

def i32 : IntType := ⟨true, 32, bits_pos_32⟩
def u32 : IntType := ⟨false, 32, bits_pos_32⟩
def i64 : IntType := ⟨true, 64, by decide⟩
def u64 : IntType := ⟨false, 64, by decide⟩

def InRange (ty : IntType) (x : Int) : Prop :=
  if ty.signed then -2 ^ (ty.bits - 1) ≤ x ∧ x < 2 ^ (ty.bits - 1) else 0 ≤ x ∧ x < 2 ^ ty.bits

instance (ty : IntType) (x : Int) : Decidable (ty.InRange x) :=
  inferInstanceAs (Decidable (if ty.signed then _ else _))

def convert (ty : IntType) (x : Int) : Int :=
  if ty.signed then Int.bmod x (2 ^ ty.bits) else x % 2 ^ ty.bits

variable (x : Int)

@[simp]
theorem inRange_i32 : i32.InRange x ↔ -2147483648 ≤ x ∧ x < 2147483648 := by
  simp [InRange, i32]

@[simp]
theorem inRange_u32 : u32.InRange x ↔ 0 ≤ x ∧ x < 4294967296 := by
  simp [InRange, u32]

@[simp]
theorem inRange_u64 : u64.InRange x ↔ 0 ≤ x ∧ x < 18446744073709551616 := by
  simp [InRange, u64]

theorem convert_of_inRange {ty : IntType} {x : Int} (h : ty.InRange x) : ty.convert x = x := by
  obtain ⟨signed, bits, hbits⟩ := ty
  obtain ⟨n, rfl⟩ : ∃ n, bits = n + 1 := ⟨bits - 1, by omega⟩
  cases signed with
  | false =>
    obtain ⟨hlow, hhigh⟩ : 0 ≤ x ∧ x < 2 ^ (n + 1) := by simpa [InRange] using h
    simpa [convert] using Int.emod_eq_of_lt hlow hhigh
  | true =>
    obtain ⟨hlow, hhigh⟩ : -2 ^ n ≤ x ∧ x < 2 ^ n := by simpa [InRange] using h
    have hpow : (2 : Int) ^ (n + 1) = 2 * 2 ^ n := by ring
    have hcast : (((2 ^ (n + 1) : Nat)) : Int) = 2 * 2 ^ n := by push_cast; exact hpow
    simp only [convert, if_true]
    apply Int.bmod_eq_of_le_mul_two
    · rw [hcast]
      linarith
    · rw [hcast]
      linarith

end IntType

inductive Arith (α : Type) where
  | done (a : α) : Arith α
  | store (ty : IntType) (x : Int) (k : Int → Arith α) : Arith α

namespace Arith

variable {α β : Type}

def bind : Arith α → (α → Arith β) → Arith β
  | done a, f => f a
  | store ty x k, f => store ty x fun y => (k y).bind f

instance : Monad Arith where
  pure := done
  bind := bind

def eval (convert : IntType → Int → Int) : Arith α → α
  | done a => a
  | store ty x k => (k (convert ty x)).eval convert

def machine : Arith α → α := eval IntType.convert

def exact : Arith α → α := eval fun _ x => x

def Fits : Arith α → Prop
  | done _ => True
  | store ty x k => ty.InRange x ∧ (k x).Fits

instance decidableFits : (p : Arith α) → Decidable p.Fits
  | done _ => isTrue trivial
  | store ty x k =>
    have := decidableFits (k x)
    inferInstanceAs (Decidable (ty.InRange x ∧ (k x).Fits))

theorem eval_bind (convert : IntType → Int → Int) (p : Arith α) (f : α → Arith β) :
    (p >>= f).eval convert = (f (p.eval convert)).eval convert := by
  induction p with
  | done a => rfl
  | store ty x k ih => exact ih (convert ty x)

variable (a : α)

@[simp]
theorem machine_pure : (pure a : Arith α).machine = a := rfl

variable (p : Arith α) (f : α → Arith β)

@[simp]
theorem machine_bind : (p >>= f).machine = (f p.machine).machine := eval_bind _ p f

@[simp]
theorem exact_pure : (pure a : Arith α).exact = a := rfl

@[simp]
theorem exact_bind : (p >>= f).exact = (f p.exact).exact := eval_bind _ p f

@[simp]
theorem fits_bind : (p >>= f).Fits ↔ p.Fits ∧ (f p.exact).Fits := by
  induction p with
  | done a => exact ⟨fun h => ⟨trivial, h⟩, fun h => h.2⟩
  | store ty x k ih =>
    have hk := ih x
    change (ty.InRange x ∧ (k x >>= f).Fits) ↔ (ty.InRange x ∧ (k x).Fits) ∧ (f (k x).exact).Fits
    rw [hk, and_assoc]

theorem fits_of_bind {p : Arith α} {f : α → Arith β} (h : (p >>= f).Fits) : p.Fits := ((fits_bind p f).mp h).1

theorem machine_eq_exact {p : Arith α} (h : p.Fits) : p.machine = p.exact := by
  induction p with
  | done a => rfl
  | store ty x k ih =>
    obtain ⟨hx, hk⟩ := h
    change (k (ty.convert x)).machine = (k x).exact
    rw [IntType.convert_of_inRange hx]
    exact ih x hk

end Arith

def IntType.op (ty : IntType) (x : Int) : Arith Int := .store ty x .done

variable (ty : IntType) (x : Int)

@[simp]
theorem IntType.op_exact : (ty.op x).exact = x := rfl

@[simp]
theorem IntType.op_machine : (ty.op x).machine = ty.convert x := rfl

@[simp]
theorem IntType.op_fits : (ty.op x).Fits ↔ ty.InRange x := by
  simp [IntType.op, Arith.Fits]

end ExynosHal.Library
