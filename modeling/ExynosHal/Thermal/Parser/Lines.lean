import ExynosHal.Thermal.Parser.Input

/-! # Parsers line by line

The outcome of the loops of a parser in terms of the lines that are left.
-/

namespace ExynosHal.Thermal.Parser
open Library Library.Fueled

abbrev Line : Type := List Word

/-- What an induction on the number of lines has for shorter files. -/
def UpTo (P : List Line → Prop) (n : Nat) : Prop := ∀ lines : List Line, lines.length ≤ n → P lines

variable {P : List Line → Prop}

theorem UpTo.mono {n m : Nat} (h : UpTo P n) (hmn : m ≤ n) : UpTo P m :=
  fun lines hlen => h lines (hlen.trans hmn)

theorem UpTo.tail {lines : List Line} (h : UpTo P lines.length) : UpTo P lines.tail.length :=
  h.mono (by rw [List.length_tail]; omega)

def Strings.at (s : Strings) (lines : List Line) : Vars := { s with file := { opened := true, lines := lines } }

section
variable (s : Strings) (lines : List Line)

theorem getString_at :
    (s.at lines).getString = ((lines.headD []).isEmpty, (s.setLine (lines.headD [])).at lines.tail) := by
  cases lines with
  | nil => rfl
  | cons line lines => rfl

theorem readProp_prop_ne {s : Strings} (h : s.prop ≠ "") : s.readProp.prop ≠ "" := by
  rw [Strings.readProp]
  split
  · exact h
  · exact Word.nonempty _

theorem readValue_prop (s : Strings) : s.readValue.prop = s.prop := by
  rw [Strings.readValue, Strings.extractValue]
  split <;> rfl

theorem setLine_prop (s : Strings) (line : Line) : (s.setLine line).prop = s.prop := by
  rw [Strings.setLine]
  split <;> rfl

@[simp]
theorem readProp_at : (s.at lines).readProp = s.readProp.at lines := rfl

@[simp]
theorem at_prop : (s.at lines).prop = s.prop := rfl

theorem getString_readProp :
    (s.at lines).getString.2.readProp = (s.setLine (lines.headD [])).readProp.at lines.tail := by
  rw [getString_at]
  rfl

theorem readProp_ne_empty {s : Strings} {line : Line} (h : line ≠ []) : (s.setLine line).readProp.prop ≠ "" := by
  cases line with
  | nil => exact absurd rfl h
  | cons word line => exact word.nonempty

end

section
variable {σ : Type} (closes : String → Bool) {property : σ → Strings → Fueled Stop (σ × Strings)}
  (outcome : σ → Strings → Option (Except Stop (σ × Strings)))

def afterProperty : List Line → σ × Strings → Option (Except Stop ((σ × Strings) × List Line))
  | [], next => some (.ok (next, []))
  | line :: lines, (body, s) =>
    if line = [] then some (.ok ((body, s), lines))
    else if closes (s.setLine line).readProp.prop then some (.ok ((body, (s.setLine line).readProp), lines))
    else andThen (outcome body (s.setLine line).readProp) (afterProperty lines)

variable {closes outcome}

theorem result_propertyRound (houtcome : ∀ body s, (property body s).result = outcome body s) {start : Strings}
    (hprop : start.prop ≠ "") (body : σ) (lines : List Line) :
    (propertyRound closes property (body, start.at lines)).result = andThen (outcome body start) fun (body, s) =>
        let v := (s.setLine (lines.headD [])).at lines.tail
        some (.ok (if (lines.headD []).isEmpty then .inr (body, v)
          else if closes v.readProp.prop then .inr (body, v.readProp)
          else .inl (body, v.readProp))) := by
  rw [propertyRound, if_neg (show (start.at lines).prop ≠ "" from hprop), result_bind]
  refine (congrArg (andThen · _) (houtcome body start)).trans ?_
  congr 1
  funext ⟨body, s⟩
  have hget : ({ s with file := (start.at lines).file } : Vars).getString =
      ((lines.headD []).isEmpty, (s.setLine (lines.headD [])).at lines.tail) := getString_at s lines
  dsimp only
  rw [hget]
  split_ifs <;> exact result_pure _

theorem result_properties (houtcome : ∀ body s, (property body s).result = outcome body s) {s : Strings}
    (hprop : s.prop ≠ "") (body : σ) (lines : List Line) :
    (properties closes property (body, s.at lines)).result = andThen (outcome body s) fun next =>
        andThen (afterProperty closes outcome lines next) fun ((body, s), lines) => some (.ok (body, s.at lines)) := by
  induction lines generalizing s body with
  | nil =>
    rw [properties, result_loop, result_propertyRound houtcome hprop]
    rcases outcome body s with _ | _ | ⟨_, _⟩ <;> rfl
  | cons line lines ih =>
    rw [properties, result_loop, result_propertyRound houtcome hprop]
    rcases outcome body s with _ | _ | ⟨body, s⟩
    · rfl
    · rfl
    · cases line with
      | nil => rfl
      | cons word line =>
        have hnext : (s.setLine (word :: line)).readProp.prop ≠ "" := readProp_ne_empty (List.cons_ne_nil word line)
        simp only [andThen, List.headD_cons, List.tail_cons, List.isEmpty_cons, Bool.false_eq_true, if_false,
          afterProperty, reduceCtorEq]
        by_cases hcloses : closes (s.setLine (word :: line)).readProp.prop
        · simp only [readProp_at, at_prop, hcloses, if_true, again]
        · simp only [readProp_at, at_prop, hcloses, Bool.false_eq_true, if_false, again]
          refine (ih hnext body).trans ?_
          rcases outcome body (s.setLine (word :: line)).readProp with _ | _ | _ <;> rfl

end

section
variable {τ : Type} (step : τ → Line → Option (Except Stop τ))

def runs : τ → List Line → Option (Except Stop τ)
  | t, [] => some (.ok t)
  | t, line :: lines => andThen (step t line) fun t => runs t lines

variable {step} {rank : τ → Nat}

theorem runs_append (t : τ) (before after : List Line) :
    runs step t (before ++ after) = andThen (runs step t before) fun t => runs step t after := by
  induction before generalizing t with
  | nil => rfl
  | cons line before ih =>
    rw [List.cons_append, runs, runs, andThen_assoc]
    exact congrArg (andThen _) (funext ih)

structure Settles (step : τ → Line → Option (Except Stop τ)) (rank : τ → Nat) : Prop where
  settled : ∀ t, rank t = 0 → step t [] = some (.ok t)
  settling : ∀ t t', rank t ≠ 0 → step t [] = some (.ok t') → rank t' < rank t

theorem Settles.runs_blank (h : Settles step rank) {n : Nat} {t : τ} (ht : rank t ≤ n) :
    runs step t (List.replicate n []) = runs step t (List.replicate (n + 1) []) := by
  induction n generalizing t with
  | zero =>
    have hsame := h.settled t (Nat.le_zero.mp ht)
    rw [List.replicate_zero, List.replicate_one, runs, runs, hsame, andThen, runs]
  | succ n ih =>
    rw [List.replicate_succ, List.replicate_succ, runs, runs]
    rcases hstep : step t [] with _ | _ | t'
    · rfl
    · rfl
    · refine ih ?_
      by_cases hzero : rank t = 0
      · rw [h.settled t hzero] at hstep
        cases hstep
        omega
      · have hlt := h.settling t t' hzero hstep
        omega

def runFile (step : τ → Line → Option (Except Stop τ)) (blanks : Nat) (t : τ) (lines : List Line) :
    Option (Except Stop τ) :=
  runs step t (lines ++ List.replicate blanks [])

theorem Settles.runFile_eq (h : Settles step rank) {blanks : Nat} (hrank : ∀ t, rank t ≤ blanks) (t : τ)
    (lines : List Line) :
    runFile step blanks t lines = andThen (step t (lines.headD [])) fun t => runFile step blanks t lines.tail := by
  cases lines with
  | nil => exact h.runs_blank (hrank t)
  | cons line lines => rfl

theorem runFile_append (blanks : Nat) (t : τ) (before after : List Line) :
    runFile step blanks t (before ++ after) = andThen (runs step t before) fun t => runFile step blanks t after := by
  rw [runFile, List.append_assoc, runs_append]
  rfl

theorem Settles.runs_settled (h : Settles step rank) {t : τ} (ht : rank t = 0) (n : Nat) :
    runs step t (List.replicate n []) = some (.ok t) := by
  induction n with
  | zero => rfl
  | succ n ih => rw [List.replicate_succ, runs, h.settled t ht, andThen, ih]

theorem Settles.runFile_settled (h : Settles step rank) {blanks : Nat} {t : τ} (ht : rank t = 0) :
    runFile step blanks t [] = some (.ok t) :=
  h.runs_settled ht blanks

end

theorem afterProperty_length {σ : Type} {closes : String → Bool}
    {outcome : σ → Strings → Option (Except Stop (σ × Strings))} {lines lines' : List Line} {next next' : σ × Strings}
    (h : afterProperty closes outcome lines next = some (.ok (next', lines'))) : lines'.length ≤ lines.length := by
  induction lines generalizing next with
  | nil =>
    cases h
    exact le_rfl
  | cons line lines ih =>
    rw [afterProperty] at h
    rw [List.length_cons]
    split at h
    · cases h
      omega
    · split at h
      · cases h
        omega
      · obtain ⟨next'', -, hrest⟩ := andThen_eq_ok h
        have hle := ih hrest
        omega

end ExynosHal.Thermal.Parser
