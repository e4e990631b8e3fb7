import Mathlib.Tactic

/-! # Procedures that fail or are undefined

A procedure moves a state. It ends with a value or an error, or its run is undefined, which is `none`.
-/

namespace ExynosHal.Library

def Procedure (σ ε α : Type) : Type := σ → Option (σ × Except ε α)

namespace Procedure

variable {σ ε α β : Type}

instance : Monad (Procedure σ ε) where
  pure a := fun s => some (s, .ok a)
  bind x f := fun s =>
    match x s with
    | none => none
    | some (s, .error e) => some (s, .error e)
    | some (s, .ok a) => f a s

def get : Procedure σ ε σ := fun s => some (s, .ok s)

def modify (f : σ → σ) : Procedure σ ε Unit := fun s => some (f s, .ok ())

def expect (e : ε) (condition : Bool) : Procedure σ ε Unit := fun s =>
  some (s, if condition then .ok () else .error e)

def ofExcept (result : Except ε α) : Procedure σ ε α := fun s => some (s, result)

def ofOption (result : Option (Except ε α)) : Procedure σ ε α := fun s => result.map fun r => (s, r)

def Leads (x : Procedure σ ε α) (s : σ) (ok : α → σ → Prop) (error : σ → Prop) : Prop :=
  match x s with
  | none => True
  | some (s, .ok a) => ok a s
  | some (s, .error _) => error s

variable {x : Procedure σ ε α} {f : α → Procedure σ ε β} {s : σ} {error : σ → Prop}

theorem Leads.bind {ok : β → σ → Prop} (h : x.Leads s (fun a s' => (f a).Leads s' ok error) error) :
    (x >>= f).Leads s ok error := by
  simp only [Leads, Bind.bind] at h ⊢
  revert h
  rcases x s with - | ⟨s', e | a⟩
  · exact fun _ => trivial
  · exact id
  · exact id

theorem Leads.mono {ok ok' : α → σ → Prop} {error' : σ → Prop} (h : x.Leads s ok error)
    (hok : ∀ a s', ok a s' → ok' a s') (herr : ∀ s', error s' → error' s') : x.Leads s ok' error' := by
  simp only [Leads] at h ⊢
  revert h
  rcases x s with - | ⟨s', e | a⟩
  · exact id
  · exact herr s'
  · exact hok a s'

variable {ok : α → σ → Prop} {s' : σ}

theorem Leads.of_eq_ok {a : α} (h : x.Leads s ok error) (hrun : x s = some (s', .ok a)) : ok a s' := by
  rw [Leads, hrun] at h
  exact h

theorem leads_pure {a : α} (h : ok a s) : (pure a : Procedure σ ε α).Leads s ok error := h

theorem leads_get {ok : σ → σ → Prop} (h : ok s s) : (get : Procedure σ ε σ).Leads s ok error := h

theorem leads_modify {g : σ → σ} {ok : Unit → σ → Prop} (h : ok () (g s)) :
    (modify g : Procedure σ ε Unit).Leads s ok error := h

theorem leads_expect {e : ε} {condition : Bool} {ok : Unit → σ → Prop} (hok : condition → ok () s) (herr : error s) :
    (expect e condition : Procedure σ ε Unit).Leads s ok error := by
  cases hcond : condition with
  | false => exact herr
  | true => exact hok hcond

theorem leads_ofExcept {result : Except ε α} (hok : ∀ a, result = .ok a → ok a s) (herr : error s) :
    (ofExcept result : Procedure σ ε α).Leads s ok error := by
  cases hres : result with
  | error e => exact herr
  | ok a => exact hok a hres

variable {result : Option (Except ε α)}

theorem leads_ofOption (hok : ∀ a, result = some (.ok a) → ok a s)
    (herr : error s) : (ofOption result : Procedure σ ε α).Leads s ok error := by
  rcases hres : result with - | e | a
  · trivial
  · exact herr
  · exact hok a hres

theorem leads_of_forall (hok : ∀ a s', ok a s') (herr : ∀ s', error s') : x.Leads s ok error := by
  rw [Leads]
  split
  · trivial
  · exact hok _ _
  · exact herr _

variable {b : β}

theorem bind_eq_ok_iff :
    (x >>= f) s = some (s', .ok b) ↔ ∃ a mid, x s = some (mid, .ok a) ∧ f a mid = some (s', .ok b) := by
  simp only [Bind.bind]
  rcases x s with - | ⟨mid, e | a⟩ <;> simp

theorem modify_bind_eq_ok_iff {g : σ → σ} {f : Unit → Procedure σ ε β} :
    (modify g >>= f) s = some (s', .ok b) ↔ f () (g s) = some (s', .ok b) := Iff.rfl

theorem expect_bind_eq_ok_iff {e : ε} {condition : Bool} {f : Unit → Procedure σ ε β} :
    (expect e condition >>= f) s = some (s', .ok b) ↔ condition ∧ f () s = some (s', .ok b) := by
  cases condition <;> simp [expect, Bind.bind]

theorem ofExcept_bind_eq_ok_iff {result : Except ε α} :
    (ofExcept result >>= f) s = some (s', .ok b) ↔ ∃ a, result = .ok a ∧ f a s = some (s', .ok b) := by
  cases result <;> simp [ofExcept, Bind.bind]

theorem ofOption_bind_eq_ok_iff :
    (ofOption result >>= f) s = some (s', .ok b) ↔ ∃ a, result = some (.ok a) ∧ f a s = some (s', .ok b) := by
  rcases result with - | e | a <;> simp [ofOption, Bind.bind]

def Total (x : Procedure σ ε α) : Prop := ∀ s, ∃ s' result, x s = some (s', result)

theorem total_pure (a : α) : (pure a : Procedure σ ε α).Total := fun s => ⟨s, _, rfl⟩

theorem total_get : (get : Procedure σ ε σ).Total := fun s => ⟨s, _, rfl⟩

theorem total_modify (g : σ → σ) : (modify g : Procedure σ ε Unit).Total := fun s => ⟨g s, _, rfl⟩

theorem total_expect (e : ε) (condition : Bool) : (expect e condition : Procedure σ ε Unit).Total :=
  fun s => ⟨s, _, rfl⟩

theorem total_ofExcept (result : Except ε α) : (ofExcept result : Procedure σ ε α).Total := fun s => ⟨s, _, rfl⟩

theorem Total.bind (h : x.Total) (hf : ∀ a, (f a).Total) : (x >>= f).Total := by
  intro s
  obtain ⟨mid, result, hx⟩ := h s
  cases result with
  | error e => exact ⟨mid, .error e, by simp only [Bind.bind, hx]⟩
  | ok a =>
    obtain ⟨s', result, hrest⟩ := hf a mid
    exact ⟨s', result, by simp only [Bind.bind, hx, hrest]⟩

end Procedure

end ExynosHal.Library
