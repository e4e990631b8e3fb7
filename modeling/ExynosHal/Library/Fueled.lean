import Mathlib.Logic.Basic
import Mathlib.Tactic

/-! # Computations that may not finish

A computation is run with fuel and has an outcome if the fuel is enough: a value, or an error that ends it
early. More fuel does not change the outcome.
-/

namespace ExynosHal.Library

structure Fueled (ε α : Type) where
  run : Nat → Option (Except ε α)
  mono : ∀ {n m : Nat} {r : Except ε α}, n ≤ m → run n = some r → run m = some r

namespace Fueled

variable {ε α β σ : Type}

def done (r : Except ε α) : Fueled ε α where
  run _ := some r
  mono _ h := h

def andThen (r : Option (Except ε α)) (f : α → Option (Except ε β)) : Option (Except ε β) :=
  match r with
  | none => none
  | some (.error e) => some (.error e)
  | some (.ok a) => f a

variable {f : α → Option (Except ε β)} {r : Option (Except ε α)} {s : Except ε β}

theorem andThen_eq_some
    (h : andThen r f = some s) : (∃ e, r = some (.error e) ∧ s = .error e) ∨ ∃ a, r = some (.ok a) ∧ f a = some s := by
  match r with
  | none => cases h
  | some (.error e) =>
    cases h
    exact .inl ⟨e, rfl, rfl⟩
  | some (.ok a) => exact .inr ⟨a, rfl, h⟩

theorem andThen_eq_ok {b : β} (h : andThen r f = some (.ok b)) :
    ∃ a, r = some (.ok a) ∧ f a = some (.ok b) :=
  (andThen_eq_some h).resolve_left nofun

@[simp]
theorem andThen_ok (a : α) (f : α → Option (Except ε β)) : andThen (some (.ok a)) f = f a := rfl

@[simp]
theorem andThen_error (e : ε) (f : α → Option (Except ε β)) : andThen (some (.error e)) f = some (.error e) := rfl

theorem andThen_assoc {γ : Type} (r : Option (Except ε α)) (f : α → Option (Except ε β))
    (g : β → Option (Except ε γ)) : andThen (andThen r f) g = andThen r fun a => andThen (f a) g :=
  match r with
  | none => rfl
  | some (.error _) => rfl
  | some (.ok _) => rfl

variable {n m : Nat}

theorem andThen_mono {p : Fueled ε α} {f : Nat → α → Option (Except ε β)} (hnm : n ≤ m)
    (hf : ∀ a s, f n a = some s → f m a = some s) (h : andThen (p.run n) (f n) = some s) :
    andThen (p.run m) (f m) = some s := by
  rcases andThen_eq_some h with ⟨e, hp, rfl⟩ | ⟨a, hp, hrest⟩
  · rw [p.mono hnm hp, andThen]
  · rw [p.mono hnm hp]
    exact hf a s hrest

theorem bind_mono (p : Fueled ε α) (f : α → Fueled ε β) {r : Except ε β} (hnm : n ≤ m)
    (h : andThen (p.run n) (fun a => (f a).run n) = some r) : andThen (p.run m) (fun a => (f a).run m) = some r :=
  andThen_mono (f := fun n a => (f a).run n) hnm (fun a _ => (f a).mono hnm) h

instance : Monad (Fueled ε) where
  pure a := done (.ok a)
  bind p f := { run := fun n => andThen (p.run n) fun a => (f a).run n, mono := bind_mono p f }

def fail (e : ε) : Fueled ε α := done (.error e)

def again (next : σ → Option (Except ε α)) : σ ⊕ α → Option (Except ε α)
  | .inl s => next s
  | .inr a => some (.ok a)

def rounds (body : σ → Fueled ε (σ ⊕ α)) : Nat → σ → Option (Except ε α)
  | 0, _ => none
  | n + 1, s => andThen ((body s).run n) (again (rounds body n))

theorem rounds_mono (body : σ → Fueled ε (σ ⊕ α)) {r : Except ε α} (hnm : n ≤ m) (s : σ)
    (h : rounds body n s = some r) : rounds body m s = some r := by
  induction n generalizing m s r with
  | zero => cases h
  | succ n ih =>
    obtain ⟨m, rfl⟩ : ∃ k, m = k + 1 := ⟨m - 1, by omega⟩
    have hle : n ≤ m := by omega
    refine andThen_mono (f := fun n => again (rounds body n)) hle ?_ h
    rintro (s | a) r' hnext
    · exact ih hle s hnext
    · exact hnext

/-- `body` is repeated until it gives a value. -/
def loop (body : σ → Fueled ε (σ ⊕ α)) (s : σ) : Fueled ε α where
  run n := rounds body n s
  mono hnm := rounds_mono body hnm s

section
variable {p : Fueled ε α} {f : α → Fueled ε β} {r : Except ε α}

open Classical in
noncomputable def result (p : Fueled ε α) : Option (Except ε α) :=
  if h : ∃ n r, p.run n = some r then p.run h.choose else none

theorem result_eq_some_iff : p.result = some r ↔ ∃ n, p.run n = some r := by
  rw [result]
  split
  · rename_i hsome
    obtain ⟨r', hr'⟩ := hsome.choose_spec
    constructor
    · exact fun h => ⟨_, h⟩
    · rintro ⟨n, hn⟩
      have hn' := p.mono (le_max_left n hsome.choose) hn
      rw [p.mono (le_max_right n hsome.choose) hr'] at hn'
      rw [hr', hn']
  · rename_i hnone
    exact iff_of_false (fun h => nomatch h) fun ⟨n, hn⟩ => hnone ⟨n, r, hn⟩

theorem result_of_run {n : Nat} (h : p.run n = some r) : p.result = some r := result_eq_some_iff.mpr ⟨n, h⟩

theorem result_eq_none_iff : p.result = none ↔ ∀ n, p.run n = none := by
  constructor
  · intro h n
    rw [Option.eq_none_iff_forall_ne_some]
    intro r hr
    rw [result_of_run hr] at h
    cases h
  · intro h
    rw [Option.eq_none_iff_forall_ne_some]
    intro r hr
    obtain ⟨n, hn⟩ := result_eq_some_iff.mp hr
    rw [h n] at hn
    cases hn

@[simp]
theorem result_done (r : Except ε α) : (done r).result = some r := result_of_run (n := 0) rfl

@[simp]
theorem result_pure (a : α) : (pure a : Fueled ε α).result = some (.ok a) := result_done _

@[simp]
theorem result_fail (e : ε) : (fail e : Fueled ε α).result = some (.error e) := result_done _

@[simp]
theorem result_bind (p : Fueled ε α) (f : α → Fueled ε β) :
    (p >>= f).result = andThen p.result fun a => (f a).result := by
  cases hp : p.result with
  | none =>
    rw [andThen, result_eq_none_iff]
    intro n
    exact congrArg (andThen · fun a => (f a).run n) (result_eq_none_iff.mp hp n)
  | some r =>
    obtain ⟨n, hn⟩ := result_eq_some_iff.mp hp
    have hrun (m : Nat) (hm : n ≤ m) : (p >>= f).run m = andThen (some r) fun a => (f a).run m :=
      congrArg (andThen · fun a => (f a).run m) (p.mono hm hn)
    cases r with
    | error e => exact result_of_run (hrun n le_rfl)
    | ok a =>
      rw [andThen]
      cases hf : (f a).result with
      | none =>
        rw [result_eq_none_iff] at hf ⊢
        intro m
        rw [Option.eq_none_iff_forall_ne_some]
        intro s hs
        have hlarge := (p >>= f).mono (le_max_right n m) hs
        rw [hrun _ (le_max_left n m), andThen, hf] at hlarge
        cases hlarge
      | some s =>
        obtain ⟨m, hm⟩ := result_eq_some_iff.mp hf
        refine result_of_run (n := max n m) ?_
        rw [hrun _ (le_max_left n m), andThen]
        exact (f a).mono (le_max_right n m) hm

theorem result_congr_of_run_succ {p q : Fueled ε α} (h : ∀ n, p.run (n + 1) = q.run n) : p.result = q.result := by
  apply Option.ext
  intro r
  rw [result_eq_some_iff, result_eq_some_iff]
  constructor
  · rintro ⟨n, hn⟩
    exact ⟨n, (h n).symm.trans (p.mono (Nat.le_succ n) hn)⟩
  · rintro ⟨n, hn⟩
    exact ⟨n + 1, (h n).trans hn⟩

theorem result_loop (body : σ → Fueled ε (σ ⊕ α)) (s : σ) :
    (loop body s).result = andThen (body s).result (again fun s => (loop body s).result) := by
  have hround : (loop body s).result = (body s >>= Sum.elim (loop body) pure).result := by
    apply result_congr_of_run_succ
    intro n
    refine congrArg (andThen ((body s).run n)) (funext ?_)
    rintro (s | a)
    · rfl
    · rfl
  rw [hround, result_bind]
  refine congrArg (andThen (body s).result) (funext ?_)
  rintro (s | a)
  · rfl
  · exact result_pure a

theorem result_loop_eq_none {body : σ → Fueled ε (σ ⊕ α)} {I : σ → Prop}
    (hround : ∀ s, I s → ∃ s', (body s).result = some (.ok (.inl s')) ∧ I s') {s : σ} (hs : I s) :
    (loop body s).result = none := by
  rw [result_eq_none_iff]
  intro n
  induction n generalizing s with
  | zero => rfl
  | succ n ih =>
    obtain ⟨s', hbody, hs'⟩ := hround s hs
    change andThen ((body s).run n) (again (rounds body n)) = none
    cases hfuel : (body s).run n with
    | none => rfl
    | some r =>
      rw [result_of_run hfuel] at hbody
      cases hbody
      exact ih hs'

end

end Fueled

end ExynosHal.Library
