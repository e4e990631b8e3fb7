import Mathlib.Logic.Basic

/-! # Runs of a state machine

A run is a list of inputs fed to a step function.
-/

namespace ExynosHal.Library.Run

theorem unbind {α β : Type} {x : Option α} {f : α → Option β} {b : β} (h : x.bind f = some b) :
    ∃ a, x = some a ∧ f a = some b :=
  Option.bind_eq_some_iff.mp h

variable {σ ι : Type} (step : σ → ι → σ)

def Throughout (P : σ → Prop) : σ → List ι → Prop
  | s, [] => P s
  | s, input :: inputs => P s ∧ Throughout P (step s input) inputs

def EachStep (C : σ → ι → Prop) : σ → List ι → Prop
  | _, [] => True
  | s, input :: inputs => C s input ∧ EachStep C (step s input) inputs

variable {step}

instance EachStep.decidable {C : σ → ι → Prop} [∀ s input, Decidable (C s input)] :
    (s : σ) → (inputs : List ι) → Decidable (EachStep step C s inputs)
  | _, [] => isTrue trivial
  | s, input :: inputs =>
    have : Decidable (EachStep step C (step s input) inputs) := EachStep.decidable _ inputs
    inferInstanceAs (Decidable (C s input ∧ EachStep step C (step s input) inputs))

variable {P : σ → Prop} {s : σ} {inputs : List ι}

theorem Throughout.start (h : Throughout step P s inputs) : P s := by
  cases inputs with
  | nil => exact h
  | cons input inputs => exact h.1

theorem Throughout.last (h : Throughout step P s inputs) : P (inputs.foldl step s) := by
  induction inputs generalizing s with
  | nil => exact h
  | cons input inputs ih => exact ih h.2

theorem Throughout.mono {P Q : σ → Prop} (hPQ : ∀ s, P s → Q s)
    (h : Throughout step P s inputs) : Throughout step Q s inputs := by
  induction inputs generalizing s with
  | nil => exact hPQ s h
  | cons input inputs ih => exact ⟨hPQ s h.1, ih h.2⟩

variable {C D : σ → ι → Prop}

theorem EachStep.and (hC : EachStep step C s inputs)
    (hD : EachStep step D s inputs) : EachStep step (fun s input => C s input ∧ D s input) s inputs := by
  induction inputs generalizing s with
  | nil => trivial
  | cons input inputs ih => exact ⟨⟨hC.1, hD.1⟩, ih hC.2 hD.2⟩

theorem EachStep.mono (hCD : ∀ s input, C s input → D s input)
    (h : EachStep step C s inputs) : EachStep step D s inputs := by
  induction inputs generalizing s with
  | nil => trivial
  | cons input inputs ih => exact ⟨hCD s input h.1, ih h.2⟩

theorem eachStep_of_invariant {I : σ → Prop} {V C : σ → ι → Prop}
    (hstep : ∀ s input, I s → V s input → C s input ∧ I (step s input)) (hI : I s)
    (hvalid : EachStep step V s inputs) : EachStep step C s inputs := by
  induction inputs generalizing s with
  | nil => trivial
  | cons input inputs ih =>
    obtain ⟨hC, hnext⟩ := hstep s input hI hvalid.1
    exact ⟨hC, ih hnext hvalid.2⟩

theorem throughout_of_eachStep (hstep : ∀ s input, P s → C s input → P (step s input)) (hs : P s)
    (h : EachStep step C s inputs) : Throughout step P s inputs := by
  induction inputs generalizing s with
  | nil => exact hs
  | cons input inputs ih => exact ⟨hs, ih (hstep s input hs h.1) h.2⟩

theorem EachStep.of_forall_mem {C : ι → Prop} (h : ∀ input ∈ inputs, C input) :
    EachStep step (fun _ input => C input) s inputs := by
  induction inputs generalizing s with
  | nil => trivial
  | cons input inputs ih =>
    obtain ⟨hinput, hinputs⟩ := List.forall_mem_cons.mp h
    exact ⟨hinput, ih hinputs⟩

theorem throughout_iff_of_invariant {I P : σ → Prop} {V C : σ → ι → Prop}
    (hkeep : ∀ s input, I s → V s input → I (step s input))
    (hstep : ∀ s input, I s → V s input → P s → (P (step s input) ↔ C s input)) (hI : I s)
    (hvalid : EachStep step V s inputs) (hs : P s) : Throughout step P s inputs ↔ EachStep step C s inputs := by
  induction inputs generalizing s with
  | nil => exact ⟨fun _ => trivial, fun _ => hs⟩
  | cons input inputs ih =>
    obtain ⟨hinput, hinputs⟩ := hvalid
    have hnext := hkeep s input hI hinput
    constructor
    · rintro ⟨-, h⟩
      have hkept := h.start
      exact ⟨(hstep s input hI hinput hs).mp hkept, (ih hnext hinputs hkept).mp h⟩
    · rintro ⟨hmeets, h⟩
      have hkept := (hstep s input hI hinput hs).mpr hmeets
      exact ⟨hs, (ih hnext hinputs hkept).mpr h⟩

theorem throughout_iff_eachStep {Valid : ι → Prop}
    (hstep : ∀ s input, Valid input → P s → (P (step s input) ↔ C s input))
    (hvalid : ∀ input ∈ inputs, Valid input) (hs : P s) :
    Throughout step P s inputs ↔ EachStep step C s inputs :=
  throughout_iff_of_invariant (I := fun _ => True) (fun _ _ _ _ => trivial) (fun s input _ => hstep s input) trivial
    (.of_forall_mem hvalid) hs

theorem throughout_and_eachStep_iff (hstep : ∀ s input, P s → (P (step s input) ∧ D s input ↔ C s input)) (hs : P s) :
    Throughout step P s inputs ∧ EachStep step D s inputs ↔ EachStep step C s inputs := by
  induction inputs generalizing s with
  | nil => exact ⟨fun _ => trivial, fun _ => ⟨hs, trivial⟩⟩
  | cons input inputs ih =>
    constructor
    · rintro ⟨⟨-, hP⟩, hD, hrest⟩
      exact ⟨(hstep s input hs).mp ⟨hP.start, hD⟩, (ih hP.start).mp ⟨hP, hrest⟩⟩
    · rintro ⟨hC, hrest⟩
      obtain ⟨hP, hD⟩ := (hstep s input hs).mpr hC
      obtain ⟨hthroughout, heach⟩ := (ih hP).mpr hrest
      exact ⟨⟨hs, hthroughout⟩, hD, heach⟩

section
variable {σ ι : Type} {step : σ → ι → Option σ} {P : σ → Prop} {inputs : List ι}

theorem foldlM_keeps (hstep : ∀ s s', ∀ input ∈ inputs, P s → step s input = some s' → P s') {s s' : σ} (hs : P s)
    (h : inputs.foldlM step s = some s') : P s' := by
  induction inputs generalizing s with
  | nil =>
    cases h
    exact hs
  | cons input inputs ih =>
    rw [List.foldlM_cons, Option.bind_eq_bind, Option.bind_eq_some_iff] at h
    obtain ⟨next, hnext, hrest⟩ := h
    have hkept := hstep s next input List.mem_cons_self hs hnext
    exact ih (fun s s' input hinput => hstep s s' input (List.mem_cons_of_mem _ hinput)) hkept hrest

variable {s : σ}

theorem foldlM_total (hstep : ∀ s, ∀ input ∈ inputs, P s → ∃ s', step s input = some s' ∧ P s') (hs : P s) :
    ∃ s', inputs.foldlM step s = some s' ∧ P s' := by
  induction inputs generalizing s with
  | nil => exact ⟨s, rfl, hs⟩
  | cons input inputs ih =>
    obtain ⟨next, hnext, hkept⟩ := hstep s input List.mem_cons_self hs
    obtain ⟨s', hrest, hs'⟩ := ih (fun s input hinput => hstep s input (List.mem_cons_of_mem _ hinput)) hkept
    refine ⟨s', ?_, hs'⟩
    rw [List.foldlM_cons, hnext]
    exact hrest

def EachDefinedStep (step : σ → ι → Option σ) (C : σ → ι → Prop) : σ → List ι → Prop
  | _, [] => True
  | s, input :: inputs => C s input ∧ ∀ s' ∈ step s input, EachDefinedStep step C s' inputs

instance EachDefinedStep.decidable {C : σ → ι → Prop} [∀ s input, Decidable (C s input)] :
    (s : σ) → (inputs : List ι) → Decidable (EachDefinedStep step C s inputs)
  | _, [] => isTrue trivial
  | s, input :: inputs =>
    have := fun s' => @EachDefinedStep.decidable C _ s' inputs
    inferInstanceAs (Decidable (C s input ∧ ∀ s' ∈ step s input, EachDefinedStep step C s' inputs))

variable {C D : σ → ι → Prop}

theorem EachDefinedStep.and (hC : EachDefinedStep step C s inputs) (hD : EachDefinedStep step D s inputs) :
    EachDefinedStep step (fun s input => C s input ∧ D s input) s inputs := by
  induction inputs generalizing s with
  | nil => trivial
  | cons input inputs ih => exact ⟨⟨hC.1, hD.1⟩, fun s' hs' => ih (hC.2 s' hs') (hD.2 s' hs')⟩

theorem EachDefinedStep.mono (hCD : ∀ s input, C s input → D s input)
    (h : EachDefinedStep step C s inputs) : EachDefinedStep step D s inputs := by
  induction inputs generalizing s with
  | nil => trivial
  | cons input inputs ih => exact ⟨hCD s input h.1, fun s' hs' => ih (h.2 s' hs')⟩

theorem EachDefinedStep.of_forall_mem {C : ι → Prop} (h : ∀ input ∈ inputs, C input) :
    EachDefinedStep step (fun _ input => C input) s inputs := by
  induction inputs generalizing s with
  | nil => trivial
  | cons input inputs ih =>
    obtain ⟨hinput, hinputs⟩ := List.forall_mem_cons.mp h
    exact ⟨hinput, fun s' _ => ih hinputs⟩

variable {I : σ → Prop}

theorem eachDefinedStep_of_invariant {V C : σ → ι → Prop}
    (hstep : ∀ s input, I s → V s input → C s input ∧ ∀ s' ∈ step s input, I s') (hI : I s)
    (hvalid : EachDefinedStep step V s inputs) : EachDefinedStep step C s inputs := by
  induction inputs generalizing s with
  | nil => trivial
  | cons input inputs ih =>
    obtain ⟨hC, hnext⟩ := hstep s input hI hvalid.1
    exact ⟨hC, fun s' hs' => ih (hnext s' hs') (hvalid.2 s' hs')⟩

theorem eachDefinedStep_iff_of_invariant {V C D : σ → ι → Prop}
    (hkeep : ∀ s input, I s → V s input → ∀ s' ∈ step s input, I s')
    (hiff : ∀ s input, I s → V s input → (C s input ↔ D s input)) (hI : I s)
    (hvalid : EachDefinedStep step V s inputs) :
    EachDefinedStep step C s inputs ↔ EachDefinedStep step D s inputs := by
  have hand {C D : σ → ι → Prop} (h : ∀ s input, I s → V s input → C s input → D s input)
      (hC : EachDefinedStep step C s inputs) : EachDefinedStep step D s inputs :=
    eachDefinedStep_of_invariant (fun s input hI hVC => ⟨h s input hI hVC.1 hVC.2, hkeep s input hI hVC.1⟩) hI
      (hvalid.and hC)
  exact ⟨hand fun s input hI hV => (hiff s input hI hV).mp, hand fun s input hI hV => (hiff s input hI hV).mpr⟩

theorem eachDefinedStep_iff_of_kept (hiff : ∀ s input, I s → (C s input ↔ D s input))
    (hkeep : ∀ s input, I s → C s input → ∀ s' ∈ step s input, I s') (hI : I s) :
    EachDefinedStep step C s inputs ↔ EachDefinedStep step D s inputs := by
  induction inputs generalizing s with
  | nil => exact Iff.rfl
  | cons input inputs ih =>
    constructor
    · rintro ⟨hC, hrest⟩
      exact ⟨(hiff s input hI).mp hC, fun s' hs' => (ih (hkeep s input hI hC s' hs')).mp (hrest s' hs')⟩
    · rintro ⟨hD, hrest⟩
      have hC := (hiff s input hI).mpr hD
      exact ⟨hC, fun s' hs' => (ih (hkeep s input hI hC s' hs')).mpr (hrest s' hs')⟩

theorem foldlM_keeps_of_eachDefinedStep
    (hstep : ∀ s s' input, P s → C s input → step s input = some s' → P s') {s s' : σ} (hs : P s)
    (hC : EachDefinedStep step C s inputs) (h : inputs.foldlM step s = some s') : P s' := by
  induction inputs generalizing s with
  | nil =>
    cases h
    exact hs
  | cons input inputs ih =>
    rw [List.foldlM_cons, Option.bind_eq_bind, Option.bind_eq_some_iff] at h
    obtain ⟨next, hnext, hrest⟩ := h
    obtain ⟨hinput, hinputs⟩ := hC
    exact ih (hstep s next input hs hinput hnext) (hinputs next hnext) hrest

variable {α β : Type} {f : α → Option β} {xs : List α}

theorem mapM_eq_some_map {g : α → β} (h : ∀ x ∈ xs, f x = some (g x)) : xs.mapM f = some (xs.map g) := by
  induction xs with
  | nil => rfl
  | cons x xs ih =>
    obtain ⟨hx, hxs⟩ := List.forall_mem_cons.mp h
    rw [List.mapM_cons, hx, ih hxs]
    rfl

theorem getElem?_of_mapM {ys : List β} (h : xs.mapM f = some ys) :
    ys.length = xs.length ∧ ∀ (i : Nat) (y : β), ys[i]? = some y → ∃ x, xs[i]? = some x ∧ f x = some y := by
  induction xs generalizing ys with
  | nil =>
    cases h
    exact ⟨rfl, nofun⟩
  | cons x xs ih =>
    rw [List.mapM_cons] at h
    obtain ⟨first, hfst, h⟩ := Option.bind_eq_some_iff.mp h
    obtain ⟨rest, hrest, h⟩ := Option.bind_eq_some_iff.mp h
    cases h
    obtain ⟨hlen, hget⟩ := ih hrest
    refine ⟨congrArg Nat.succ hlen, fun i y hy => ?_⟩
    cases i with
    | zero =>
      cases hy
      exact ⟨x, rfl, hfst⟩
    | succ i => exact hget i y hy

theorem exists_of_mem_mapM {ys : List β} (h : xs.mapM f = some ys) {y : β} (hy : y ∈ ys) : ∃ x ∈ xs, f x = some y := by
  obtain ⟨i, hi⟩ := List.getElem?_of_mem hy
  obtain ⟨x, hx, hfx⟩ := (getElem?_of_mapM h).2 i y hi
  exact ⟨x, List.mem_of_getElem? hx, hfx⟩

end

end ExynosHal.Library.Run
