import ExynosHal.Library.Run
import ExynosHal.Thermal.Parser.ConfLines
import ExynosHal.Thermal.Parser.EnvLines

/-! # Termination of the parsers

A parser finishes if it returns or exits with its message.
-/

namespace ExynosHal.Thermal.Parser
open Library Library.Fueled Library.Run

section
variable {α β τ : Type}

def Ends : Option (Except Stop α) → Prop
  | some (.ok _) => True
  | some (.error (.parseFail _)) => True
  | _ => False

def Finishes (p : Fueled Stop α) : Prop := Ends p.result

variable {r : Option (Except Stop α)}

theorem ends_andThen {f : α → Option (Except Stop β)} :
    Ends (andThen r f) ↔ Ends r ∧ ∀ a, r = some (.ok a) → Ends (f a) := by
  match r with
  | none => exact iff_of_false id And.left
  | some (.error e) => exact ⟨fun h => ⟨by cases e <;> exact h, nofun⟩, fun h => by cases e <;> exact h.1⟩
  | some (.ok a) =>
    constructor
    · rintro h
      refine ⟨trivial, ?_⟩
      rintro _ ⟨⟩
      exact h
    · rintro ⟨-, h⟩
      exact h a rfl

theorem ends_andThen_ok {f : α → β} : Ends (andThen r fun a => some (.ok (f a))) ↔ Ends r :=
  ends_andThen.trans (and_iff_left fun _ _ => trivial)

def nextState (r : Option (Except Stop τ)) : Option τ :=
  match r with
  | some (.ok t) => some t
  | _ => none

theorem mem_nextState {r : Option (Except Stop τ)} {t : τ} : t ∈ nextState r ↔ r = some (.ok t) := by
  match r with
  | none => exact iff_of_false nofun nofun
  | some (.error _) => exact iff_of_false nofun nofun
  | some (.ok _) => simp [nextState]

theorem ends_runs_iff {step : τ → Line → Option (Except Stop τ)} {regular : τ → Line → Prop}
    (hstep : ∀ t line, Ends (step t line) ↔ regular t line) (t : τ) (lines : List Line) :
    Ends (runs step t lines) ↔ EachDefinedStep (fun t line => nextState (step t line)) regular t lines := by
  induction lines generalizing t with
  | nil => exact iff_of_true trivial trivial
  | cons line lines ih =>
    rw [runs, ends_andThen, EachDefinedStep, hstep]
    refine and_congr_right fun _ => forall_congr' fun t' => ?_
    rw [mem_nextState, ih t']

end

section
variable {σ ι : Type} {f : σ → ι → Except Stop σ} {e : Stop} {P : ι → Prop}

theorem foldlM_ok_or_error (hok : ∀ s x, P x → ∃ s', f s x = .ok s') (herr : ∀ s x, ¬P x → f s x = .error e)
    (s : σ) (xs : List ι) :
    ((∀ x ∈ xs, P x) → ∃ s', xs.foldlM f s = .ok s') ∧ (¬(∀ x ∈ xs, P x) → xs.foldlM f s = .error e) := by
  induction xs generalizing s with
  | nil => exact ⟨fun _ => ⟨s, rfl⟩, fun h => absurd (List.forall_mem_nil P) h⟩
  | cons x xs ih =>
    rw [List.forall_mem_cons, List.foldlM_cons]
    by_cases hx : P x
    · obtain ⟨s', hs'⟩ := hok s x hx
      rw [hs']
      exact ⟨fun h => (ih s').1 h.2, fun h => (ih s').2 fun hxs => h ⟨hx, hxs⟩⟩
    · rw [herr s x hx]
      exact ⟨fun h => absurd h.1 hx, fun _ => rfl⟩

end

variable {s : Strings}

theorem name_ne_of_unbracketed (h : s.unbracketed) : s.name ≠ "[" := by
  intro hbracket
  rw [Strings.unbracketed, hbracket] at h
  exact absurd h (by decide)

theorem ends_eraseBrackets (h : ¬s.unbracketed) : Ends (some s.eraseBrackets) ↔ s.name ≠ "[" := by
  rw [Strings.unbracketed, decide_eq_true_iff, not_not] at h
  rw [Strings.eraseBrackets]
  cases hname : s.name.toList with
  | nil =>
    rw [hname] at h
    cases h
  | cons c cs =>
    rw [hname] at h
    cases h
    have hbracket : s.name = "[" ↔ cs = [] := by
      rw [← String.toList_inj, hname]
      simp
    rw [ne_eq, hbracket]
    cases cs with
    | nil => exact iff_of_false id (not_not.mpr rfl)
    | cons c cs => exact iff_of_true trivial (List.cons_ne_nil c cs)

def devicesKnown (tm : ThermalMain) (words : List String) : Bool :=
  words.all fun word => (tokensFrom ['+'] [] word.toList).all fun token => (tm.deviceMap token).isSome

section
variable {α : Type} {entry : String → Except Stop α} {e : Stop} {P : String → Prop}

theorem enterTokens_ok_or_error (hok : ∀ token, P token → ∃ x, entry token = .ok x)
    (herr : ∀ token, ¬P token → entry token = .error e) (lists : List (List α)) (i : Nat) (tokens : List String) :
    ((∀ token ∈ tokens, P token) → ∃ lists', enterTokens entry lists i tokens = .ok lists') ∧
      (¬(∀ token ∈ tokens, P token) → enterTokens entry lists i tokens = .error e) := by
  refine foldlM_ok_or_error (fun lists token h => ?_) (fun lists token h => ?_) (lists ++ [[]]) tokens
  · obtain ⟨x, hx⟩ := hok token h
    rw [hx]
    exact ⟨_, rfl⟩
  · rw [herr token h]
    rfl

theorem listsOutcome_ok_or_error (hok : ∀ token, P token → ∃ x, entry token = .ok x)
    (herr : ∀ token, ¬P token → entry token = .error e) (lists : List (List α)) (words : List String) :
    ((∀ word ∈ words, ∀ token ∈ tokensFrom ['+'] [] word.toList, P token) →
        ∃ lists', listsOutcome entry lists words = .ok lists') ∧
      (¬(∀ word ∈ words, ∀ token ∈ tokensFrom ['+'] [] word.toList, P token) →
        listsOutcome entry lists words = .error e) := by
  have hwords : (∀ word ∈ words, ∀ token ∈ tokensFrom ['+'] [] word.toList, P token) ↔
      ∀ word ∈ words.zipIdx, ∀ token ∈ tokensFrom ['+'] [] word.1.toList, P token := by
    conv_lhs => rw [← List.zipIdx_map_fst 0 words, List.forall_mem_map]
  rw [hwords]
  exact foldlM_ok_or_error (fun lists word => (enterTokens_ok_or_error hok herr lists word.2 _).1)
    (fun lists word => (enterTokens_ok_or_error hok herr lists word.2 _).2) lists words.zipIdx

end

variable (tm : ThermalMain)

theorem listsOutcome_findDevice (lists : List (List (Option Nat))) (words : List String) :
    (devicesKnown tm words → ∃ lists', listsOutcome (findDevice tm) lists words = .ok lists') ∧
      (devicesKnown tm words = false → listsOutcome (findDevice tm) lists words = .error .undefined) := by
  have hknown : devicesKnown tm words ↔
      ∀ word ∈ words, ∀ token ∈ tokensFrom ['+'] [] word.toList, (tm.deviceMap token).isSome := by
    simp only [devicesKnown, List.all_eq_true]
  rw [← Bool.not_eq_true, hknown]
  refine listsOutcome_ok_or_error (fun token h => ?_) (fun token h => ?_) lists words
  · obtain ⟨device, hdev⟩ := Option.isSome_iff_exists.mp h
    rw [findDevice, hdev]
    exact ⟨device, rfl⟩
  · rw [Option.not_isSome_iff_eq_none] at h
    rw [findDevice, h]

theorem listsOutcome_atoi (lists : List (List Int)) (words : List String) :
    ∃ lists', listsOutcome (fun token => .ok (atoi token)) lists words = .ok lists' :=
  (listsOutcome_ok_or_error (e := .undefined) (P := fun _ => True) (fun token _ => ⟨atoi token, rfl⟩)
    (fun _ h => absurd trivial h) lists words).1 fun _ _ _ _ => trivial

theorem tableOutcome_error {prop name : String} {tempVal : Option String} {body : DeviceBody} {value : String}
    {line : Line} {e : Stop} (h : tableOutcome prop name tempVal body value line = some (.error e)) :
    e = .outOfRange := by
  have hunquote {value : String} {e : Stop} (h : unquote value = .error e) : e = .outOfRange := by
    rw [unquote] at h
    split at h
    · cases h
      rfl
    · cases h
  have hclosed {tempVal : String} {body : DeviceBody} {line : Line}
      (ih : ∀ {tempVal body value}, tableOutcome prop name tempVal body value line = some (.error e) → e = .outOfRange)
      (h : (andThen (some (unquote tempVal)) fun value =>
        tableOutcome prop name none (body.addLevel value "string") value line) = some (.error e)) : e =
          .outOfRange := by
    rcases andThen_eq_some h with ⟨e', hval, herr⟩ | ⟨value, -, hrest⟩
    · cases herr
      exact hunquote (Option.some.inj hval)
    · exact ih hrest
  induction line generalizing tempVal body value with
  | nil => cases tempVal <;> cases h
  | cons word line ih =>
    cases tempVal with
    | none =>
      rw [tableOutcome] at h
      split at h
      · split at h
        · exact hclosed ih h
        · exact ih h
      · exact ih h
    | some tempVal =>
      rw [tableOutcome] at h
      split at h
      · exact hclosed ih h
      · exact ih h

theorem ends_tableOutcome (body : DeviceBody) (s : Strings) :
    Ends (tableOutcome s.prop s.name none body s.value s.line) ↔ quotesClosed false s.line := by
  rw [← (tableOutcome_closed_aux s.prop s.name s.line).1 body s.value]
  match h : tableOutcome s.prop s.name none body s.value s.line with
  | none => exact iff_of_false id nofun
  | some (.ok next) => exact iff_of_true trivial ⟨next, rfl⟩
  | some (.error e) =>
    rw [tableOutcome_error h]
    exact iff_of_false id nofun

namespace EnvBody

def tripReal (tm : ThermalMain) : EnvBody → Bool
  | .virtual body => body.sensor.all fun sensor => (tm.sensors[sensor]?).any SensorSpec.isReal
  | _ => true

def quotesPair : EnvBody → Strings → Bool
  | .device _, s => s.prop ≠ "level_table" || quotesClosed false s.line
  | _, _ => true

variable (tm : ThermalMain)

theorem ends_register (name : String) (body : EnvBody) : Ends (some (body.register tm name)) ↔ body.tripReal tm := by
  cases body with
  | real body => exact iff_of_true trivial rfl
  | confFile => exact iff_of_true trivial rfl
  | device body => exact iff_of_true trivial rfl
  | «virtual» body =>
    rw [register, VirtualBody.register, tripReal]
    dsimp only
    match body.sensor with
    | none => exact iff_of_true trivial rfl
    | some sensor =>
      dsimp only [Option.all_some]
      split
      · exact iff_of_true trivial ‹_›
      · exact iff_of_false id ‹_›

theorem ends_outcome (body : EnvBody) (s : Strings) : Ends (EnvBody.outcome (tm, body) s) ↔ body.quotesPair s := by
  cases body with
  | real body => exact iff_of_true trivial rfl
  | confFile => exact iff_of_true trivial rfl
  | «virtual» body => exact iff_of_true trivial rfl
  | device body =>
    rw [outcome, ends_andThen_ok, DeviceBody.outcome, quotesPair]
    by_cases hpath : s.prop = "node_path"
    · rw [if_pos hpath, hpath]
      exact iff_of_true trivial rfl
    · rw [if_neg hpath]
      by_cases htable : s.prop = "level_table"
      · rw [if_pos htable, ends_tableOutcome, htable]
        rfl
      · rw [if_neg htable, decide_eq_true htable]
        exact iff_of_true trivial rfl

end EnvBody

namespace EnvLine

def regular (e : EnvLine) (line : Line) : Bool :=
  match e.mode with
  | .item => line.head?.all (·.text ≠ "[")
  | .body body => if line.isEmpty then body.tripReal e.tm else body.quotesPair (e.strings.setLine line).readProp
  | _ => true

theorem ends_enter (body : ThermalMain × EnvBody) (s : Strings) : Ends (enter body s) ↔ body.2.quotesPair s :=
  ends_andThen_ok.trans (EnvBody.ends_outcome body.1 body.2 s)

theorem ends_leave (tm : ThermalMain) (body : EnvBody) (s : Strings) : Ends (leave tm body s) ↔ body.tripReal tm :=
  ends_andThen_ok.trans (EnvBody.ends_register tm s.name body)

theorem ends_step (e : EnvLine) (line : Line) : Ends (e.step line) ↔ e.regular line := by
  obtain ⟨tm, s, mode⟩ := e
  rw [step, regular]
  cases mode with
  | item =>
    cases line with
    | nil => exact iff_of_true trivial rfl
    | cons word line =>
      have hname : (s.setLine (word :: line)).readName.name = word.text := rfl
      dsimp only [List.head?_cons, Option.all_some]
      rw [decide_eq_true_iff, ← hname, if_neg (show ¬(word :: line).isEmpty = true from Bool.false_ne_true)]
      by_cases hopen : (s.setLine (word :: line)).readName.unbracketed
      · rw [if_pos hopen]
        exact iff_of_true trivial (name_ne_of_unbracketed hopen)
      · rw [if_neg hopen, ends_andThen_ok, ends_eraseBrackets hopen]
  | typeLine =>
    dsimp only
    split
    · exact iff_of_true trivial rfl
    · rename_i htype
      split
      · exact iff_of_true trivial rfl
      · refine (ends_enter _ _).trans (iff_of_true ?_ rfl)
        rw [EnvBody.quotesPair.eq_def]
        split
        · rw [readValue_prop, not_not.mp htype]
          rfl
        · rfl
  | firstProp =>
    dsimp only
    split
    · exact ends_leave _ _ _
    · exact ends_enter _ _
  | body body =>
    dsimp only
    split
    · exact ends_leave _ _ _
    · exact ends_enter _ _
  | stopped => exact iff_of_true trivial rfl

end EnvLine

def ConfBody.actionsKnown (tm : ThermalMain) : ConfBody → Strings → Bool
  | .monitor _, s => s.prop ≠ "actions" || devicesKnown tm s.readValues.1
  | .ss _, _ => true

theorem ConfBody.ends_outcome (body : ConfBody) (s : Strings) :
    Ends (ConfBody.outcome (tm, body) s) ↔ body.actionsKnown tm s := by
  cases body with
  | ss body => exact iff_of_true trivial rfl
  | monitor body =>
    rw [outcome, ends_andThen_ok, MonitorBody.outcome, actionsKnown]
    by_cases hactions : s.prop = "actions"
    · rw [if_pos hactions, hactions]
      obtain ⟨hok, herr⟩ := listsOutcome_findDevice tm body.device s.readValues.1
      cases hknown : devicesKnown tm s.readValues.1 with
      | true =>
        obtain ⟨lists, hlists⟩ := hok hknown
        rw [hlists]
        exact iff_of_true trivial rfl
      | false =>
        rw [herr hknown]
        exact iff_of_false id Bool.false_ne_true
    · rw [if_neg hactions, decide_eq_true hactions]
      by_cases hinfo : s.prop = "action_info"
      · obtain ⟨lists, hlists⟩ := listsOutcome_atoi body.actionInfo s.readValues.1
        rw [if_pos hinfo, hlists]
        exact iff_of_true trivial rfl
      · rw [if_neg hinfo]
        exact iff_of_true trivial rfl

namespace ConfLine

@[inherit_doc EnvLine.regular]
def regular (c : ConfLine) (line : Line) : Bool :=
  let s := c.strings.setLine line
  match c.mode with
  | .item => line.head?.all (·.text ≠ "[")
  | .nameLine => s.readName.name ≠ "["
  | .algoLine => true
  | .firstProp body => body.actionsKnown c.tm s.readProp
  | .body body => line.isEmpty || closes s.readProp.prop || body.actionsKnown c.tm s.readProp

variable (c : ConfLine)

theorem ends_named (s : Strings) : Ends (c.named s) ↔ s.name ≠ "[" := by
  rw [named]
  by_cases hopen : s.unbracketed
  · rw [if_pos hopen]
    exact iff_of_true trivial (name_ne_of_unbracketed hopen)
  · rw [if_neg hopen, ends_andThen_ok, ends_eraseBrackets hopen]

theorem ends_enter (body : ThermalMain × ConfBody) (s : Strings) :
    Ends (c.enter body s) ↔ body.2.actionsKnown body.1 s :=
  ends_andThen_ok.trans (ConfBody.ends_outcome body.1 body.2 s)

theorem ends_leave (tm : ThermalMain) (body : ConfBody) (s : Strings) : Ends (c.leave tm body s) := by
  rw [leave]
  split <;> trivial

theorem ends_step (line : Line) : Ends (c.step line) ↔ c.regular line := by
  obtain ⟨tm, conf, scenName, s, mode⟩ := c
  rw [step, regular]
  cases mode with
  | item =>
    cases line with
    | nil => exact iff_of_true trivial rfl
    | cons word line =>
      have hprop : (s.setLine (word :: line)).readProp.prop = word.text := rfl
      dsimp only [List.head?_cons, Option.all_some]
      rw [decide_eq_true_iff, ← hprop, if_neg (show ¬(word :: line).isEmpty = true from Bool.false_ne_true)]
      by_cases hscen : (s.setLine (word :: line)).readProp.prop = "SCEN"
      · rw [if_pos hscen, hscen]
        exact iff_of_true trivial (by decide)
      · rw [if_neg hscen]
        by_cases hclose : (s.setLine (word :: line)).readProp.prop = "]"
        · rw [if_pos hclose, hclose]
          exact iff_of_true trivial (by decide)
        · rw [if_neg hclose]
          exact ends_named _ _
  | nameLine =>
    refine (ends_named _ _).trans ?_
    dsimp only
    rw [decide_eq_true_iff]
  | algoLine =>
    refine iff_of_true ?_ rfl
    dsimp only
    split
    · trivial
    · split <;> trivial
  | firstProp body =>
    dsimp only
    by_cases hempty : (s.setLine line).readProp.prop = ""
    · rw [if_pos hempty]
      refine iff_of_true (ends_leave _ _ _ _) ?_
      rw [ConfBody.actionsKnown.eq_def]
      split
      · rw [hempty]
        rfl
      · rfl
    · rw [if_neg hempty]
      exact ends_enter _ _ _
  | body body =>
    dsimp only
    cases line with
    | nil => exact iff_of_true (ends_leave _ _ _ _) rfl
    | cons word line =>
      rw [List.isEmpty_cons, if_neg Bool.false_ne_true, Bool.false_or, Bool.or_eq_true]
      by_cases hcloses : closes (s.setLine (word :: line)).readProp.prop
      · rw [if_pos hcloses]
        exact iff_of_true (ends_leave _ _ _ _) (.inl hcloses)
      · rw [if_neg hcloses, or_iff_right hcloses]
        exact ends_enter _ _ _

end ConfLine

def readLines (text : List Char) (blanks : Nat) : List Line := (text.splitOn '\n').map words ++ List.replicate blanks []

section
variable (tm : ThermalMain) (text : List Char)

theorem finishes_envParse_iff : Finishes (envParse tm (.ofContent (some text))) ↔
      EachDefinedStep (fun e line => nextState (EnvLine.step e line)) (fun e line => e.regular line = true) { tm := tm }
        (readLines text 3) := by
  rw [Finishes, File.ofContent, result_envParse, ends_andThen_ok]
  exact ends_runs_iff EnvLine.ends_step { tm := tm } (readLines text 3)

theorem finishes_confParse_iff : Finishes (confParse tm (.ofContent (some text))) ↔
      EachDefinedStep (fun c line => nextState (ConfLine.step c line)) (fun c line => c.regular line = true)
        { tm := tm }
        (readLines text 4) := by
  rw [Finishes, File.ofContent, result_confParse, ends_andThen_ok]
  exact ends_runs_iff ConfLine.ends_step { tm := tm } (readLines text 4)

theorem result_envParse_unopened : (envParse tm (.ofContent none)).result = none := by
  apply result_loop_eq_none (I := fun next => next = (tm, { file := .ofContent none }))
  · rintro _ rfl
    exact ⟨_, result_pure _, rfl⟩
  · rfl

@[inherit_doc result_envParse_unopened]
theorem result_confParse_unopened : (confParse tm (.ofContent none)).result = none := by
  apply result_loop_eq_none (I := fun next => next = { tm := tm, vars := { file := .ofContent none } })
  · rintro _ rfl
    exact ⟨_, result_pure _, rfl⟩
  · rfl

theorem finishes_ofContent_iff {α : Type} {parse : File → Fueled Stop α} {C : List Char → Prop}
    (hnone : (parse (.ofContent none)).result = none)
    (hsome : ∀ text, Finishes (parse (.ofContent (some text))) ↔ C text) (content : Option (List Char)) :
    Finishes (parse (.ofContent content)) ↔ ∃ text ∈ content, C text := by
  cases content with
  | none =>
    rw [Finishes, hnone]
    exact iff_of_false id nofun
  | some text =>
    rw [hsome]
    simp

/-- The parsers finish on a file if and only if it can be opened and every line that is read meets the
condition of the state it is read in. -/
theorem parsers_finish_iff (env conf : Option (List Char)) : (Finishes (envParse tm (.ofContent env)) ↔
        ∃ text ∈ env, EachDefinedStep (fun e line => nextState (EnvLine.step e line))
          (fun e line => e.regular line = true) { tm := tm } (readLines text 3)) ∧
      (Finishes (confParse tm (.ofContent conf)) ↔
        ∃ text ∈ conf, EachDefinedStep (fun c line => nextState (ConfLine.step c line))
          (fun c line => c.regular line = true) { tm := tm } (readLines text 4)) :=
  ⟨finishes_ofContent_iff (result_envParse_unopened tm) (finishes_envParse_iff tm) env,
    finishes_ofContent_iff (result_confParse_unopened tm) (finishes_confParse_iff tm) conf⟩

end

/-- A level value whose quote is not closed on its line, and files that cannot be opened. -/
theorem parsers_run_forever :
    (envParse {} (.ofContent (some "[CPU]\ntype cpufreq\nlevel_table \x225 V\n".toList))).result = none ∧
      (envParse {} (.ofContent none)).result = none ∧ (confParse {} (.ofContent none)).result = none ∧
      ¬∀ env conf, Finishes (envParse {} (.ofContent env)) ∧ Finishes (confParse {} (.ofContent conf)) := by
  refine ⟨?_, result_envParse_unopened {}, result_confParse_unopened {}, fun h => ?_⟩
  · rw [File.ofContent, result_envParse, ← Option.isNone_iff_eq_none]
    decide
  · have hends := (h none none).1
    rw [Finishes, result_envParse_unopened] at hends
    exact hends

end ExynosHal.Thermal.Parser
