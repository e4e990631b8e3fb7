import ExynosHal.Thermal.Parser.EnvParse
import ExynosHal.Thermal.Parser.Lines

/-! # `envParse` line by line

The parser of the env file as a machine whose steps are the lines of the file.
-/

namespace ExynosHal.Thermal.Parser
open Library Library.Fueled

def tableOutcome (prop name : String) :
    Option String → DeviceBody → String → Line → Option (Except Stop (DeviceBody × Strings))
  | none, body, value, [] => some (.ok (body, ⟨[], prop, value, name⟩))
  | some _, _, _, [] => none
  | none, body, _, word :: line =>
    if startsQuoted word.text then
      if endsQuoted word.text then
        andThen (some (unquote word.text)) fun value =>
          tableOutcome prop name none (body.addLevel value "string") value line
      else tableOutcome prop name (some word.text) body word.text line
    else tableOutcome prop name none (body.addPlain word.text) word.text line
  | some tempVal, body, _, word :: line =>
    let tempVal := tempVal ++ " " ++ word.text
    if endsQuoted word.text then
      andThen (some (unquote tempVal)) fun value =>
        tableOutcome prop name none (body.addLevel value "string") value line
    else tableOutcome prop name (some tempVal) body word.text line

def quotesClosed : Bool → Line → Bool
  | inside, [] => !inside
  | false, word :: line =>
    if startsQuoted word.text then
      if endsQuoted word.text then word.text ≠ "\x22" && quotesClosed false line else quotesClosed true line
    else quotesClosed false line
  | true, word :: line => if endsQuoted word.text then quotesClosed false line else quotesClosed true line

section
variable {s : Strings} {body : DeviceBody} (tempVal : String)

theorem result_quotedRound_closed (h : endsQuoted s.value) :
    (readQuoted (tempVal, s)).result = some (.ok (tempVal, s)) := by
  rw [readQuoted, result_loop, quotedRound, if_pos h, result_pure, andThen, again]

theorem result_quotedRound_open (h : endsQuoted s.value = false) {word : Word} {line : Line}
    (hline : s.line = word :: line) :
    (readQuoted (tempVal, s)).result =
      (readQuoted (tempVal ++ " " ++ word.text, { s with line := line, value := word.text })).result := by
  have hread : s.readValue = { s with line := line, value := word.text } := by
    rw [Strings.readValue, Strings.extractValue, hline]
    rfl
  rw [readQuoted, result_loop, quotedRound, h, if_neg Bool.false_ne_true, hread, result_pure, andThen, again]

theorem result_readQuoted_unclosed (h : endsQuoted s.value = false) (hline : s.line = []) :
    (readQuoted (tempVal, s)).result = none := by
  apply result_loop_eq_none (I := fun next => next.2 = s)
  · rintro ⟨temp, s'⟩ rfl
    have hread : s'.readValue = s' := by
      rw [Strings.readValue, Strings.extractValue, hline]
      rfl
    refine ⟨(temp ++ " " ++ s'.value, s'), ?_, rfl⟩
    rw [quotedRound, h, if_neg Bool.false_ne_true, hread, result_pure]
  · rfl

noncomputable def afterQuoted (body : DeviceBody) (tempVal : String) (s : Strings) :
    Option (Except Stop (DeviceBody × Strings)) :=
  andThen (readQuoted (tempVal, s)).result fun (tempVal, s) =>
    andThen (some (unquote tempVal)) fun value =>
      (readLevelTable (body.addLevel value "string", { s with value := value })).result

theorem result_readLevelTable_end (hline : s.line = []) : (readLevelTable (body, s)).result = some (.ok (body, s)) := by
  have hround : levelRound (body, s) = pure (.inr (body, s)) := by
    rw [levelRound, Strings.extractValue, hline]
  rw [readLevelTable, result_loop, hround, result_pure, andThen, again]

theorem result_readLevelTable_word {word : Word} {line : Line} (hline : s.line = word :: line) :
    (readLevelTable (body, s)).result =
      if startsQuoted word.text then afterQuoted body word.text { s with line := line, value := word.text }
      else (readLevelTable (body.addPlain word.text, { s with line := line, value := word.text })).result := by
  have hround : levelRound (body, s) =
      levelValue body { s with line := line, value := word.text } >>= fun next => pure (.inl next) := by
    rw [levelRound, Strings.extractValue, hline]
  rw [readLevelTable, result_loop, hround, result_bind, levelValue]
  split
  · rw [result_bind, afterQuoted]
    rcases (readQuoted (word.text, { s with line := line, value := word.text })).result with _ | _ | ⟨tempVal, s⟩
    · rfl
    · rfl
    · dsimp only [andThen]
      rw [result_bind, result_done]
      cases unquote tempVal with
      | error _ => rfl
      | ok value =>
        dsimp only [andThen]
        rw [result_pure]
        dsimp only
        rw [result_pure]
        rfl
  · rw [result_pure, andThen, result_pure, andThen, again]

theorem result_readLevelTable_aux (prop name : String) (line : Line) :
    (∀ body value, (readLevelTable (body, ⟨line, prop, value, name⟩)).result =
        tableOutcome prop name none body value line) ∧
      ∀ body tempVal value, endsQuoted value = false →
        afterQuoted body tempVal ⟨line, prop, value, name⟩ = tableOutcome prop name (some tempVal) body value line := by
  induction line with
  | nil =>
    refine ⟨fun body value => result_readLevelTable_end rfl, fun body tempVal value hopen => ?_⟩
    rw [afterQuoted, result_readQuoted_unclosed tempVal hopen rfl]
    rfl
  | cons word line ih =>
    obtain ⟨hplain, hquoted⟩ := ih
    have hclosed (body : DeviceBody) (tempVal : String) (hends : endsQuoted word.text) :
        afterQuoted body tempVal ⟨line, prop, word.text, name⟩ = andThen (some (unquote tempVal)) fun value =>
            tableOutcome prop name none (body.addLevel value "string") value line := by
      rw [afterQuoted, result_quotedRound_closed tempVal hends, andThen]
      exact congrArg (andThen _) (funext fun value => hplain _ value)
    constructor
    · intro body value
      rw [result_readLevelTable_word rfl, tableOutcome]
      split
      · split
        · exact hclosed body word.text ‹_›
        · exact hquoted body word.text word.text (Bool.eq_false_iff.mpr ‹_›)
      · exact hplain _ _
    · intro body tempVal value hopen
      rw [afterQuoted, result_quotedRound_open tempVal hopen rfl, ← afterQuoted.eq_def, tableOutcome]
      dsimp only
      split
      · exact hclosed body _ ‹_›
      · exact hquoted body _ word.text (Bool.eq_false_iff.mpr ‹_›)

theorem result_readLevelTable (body : DeviceBody) (s : Strings) :
    (readLevelTable (body, s)).result = tableOutcome s.prop s.name none body s.value s.line :=
  (result_readLevelTable_aux s.prop s.name s.line).1 body s.value

theorem unquote_ok {value : String} (h : value.toList.tail ≠ []) : ∃ unquoted, unquote value = .ok unquoted := by
  rw [unquote]
  split
  · exact absurd ‹_› h
  · exact ⟨_, rfl⟩

theorem unquote_quote : unquote "\x22" = .error .outOfRange := by
  decide

theorem tail_ne_nil {value : String} (hstarts : startsQuoted value) (hquote : value ≠ "\x22") :
    value.toList.tail ≠ [] := by
  intro htail
  apply hquote
  rw [startsQuoted, decide_eq_true_iff] at hstarts
  rw [← String.ofList_toList (s := value)]
  cases hval : value.toList with
  | nil =>
    rw [hval] at hstarts
    cases hstarts
  | cons c cs =>
    rw [hval] at hstarts htail
    cases hstarts
    rw [List.tail_cons] at htail
    rw [htail]

theorem append_tail_ne_nil {tempVal : String} (h : tempVal ≠ "") (word : String) :
    (tempVal ++ " " ++ word).toList.tail ≠ [] := by
  rw [String.toList_append, String.toList_append]
  cases hval : tempVal.toList with
  | nil => exact absurd (String.toList_eq_nil_iff.mp hval) h
  | cons c cs => simp

theorem tableOutcome_closed_aux (prop name : String) (line : Line) :
    (∀ body value, (∃ next, tableOutcome prop name none body value line = some (.ok next)) ↔ quotesClosed false line) ∧
      ∀ body tempVal value, tempVal ≠ "" →
        ((∃ next, tableOutcome prop name (some tempVal) body value line = some (.ok next)) ↔
          quotesClosed true line) := by
  induction line with
  | nil =>
    refine ⟨fun body value => iff_of_true ⟨_, rfl⟩ rfl, fun body tempVal value _ => ?_⟩
    exact iff_of_false (fun ⟨next, h⟩ => nomatch h) Bool.false_ne_true
  | cons word line ih =>
    obtain ⟨hplain, hquoted⟩ := ih
    constructor
    · intro body value
      rw [tableOutcome, quotesClosed]
      split
      · rename_i hstarts
        split
        · by_cases hquote : word.text = "\x22"
          · rw [hquote, unquote_quote]
            exact iff_of_false (fun ⟨next, h⟩ => nomatch h) Bool.false_ne_true
          · obtain ⟨value, hval⟩ := unquote_ok (tail_ne_nil hstarts hquote)
            rw [hval, decide_eq_true hquote, Bool.true_and]
            exact hplain _ value
        · exact hquoted body word.text word.text word.nonempty
      · exact hplain _ _
    · intro body tempVal value htemp
      rw [tableOutcome, quotesClosed]
      split
      · obtain ⟨value, hval⟩ := unquote_ok (append_tail_ne_nil htemp word.text)
        rw [hval]
        exact hplain _ value
      · refine hquoted body _ word.text fun hempty => ?_
        have htail := append_tail_ne_nil htemp word.text
        rw [hempty] at htail
        exact htail rfl

end

def DeviceBody.outcome (body : DeviceBody) (s : Strings) : Option (Except Stop (DeviceBody × Strings)) :=
  if s.prop = "node_path" then some (.ok ({ body with nodePath := s.readValue.value }, s.readValue))
  else if s.prop = "level_table" then tableOutcome s.prop s.name none body s.value s.line
  else some (.ok (body, s))

def EnvBody.outcome : ThermalMain × EnvBody → Strings → Option (Except Stop ((ThermalMain × EnvBody) × Strings))
  | (tm, .real body), s => some (.ok ((tm, .real (body.property s).1), (body.property s).2))
  | (tm, .virtual body), s => some (.ok ((tm, .virtual (body.property tm s).1), (body.property tm s).2))
  | (tm, .confFile), s => some (.ok (((confFileProperty tm s).1, .confFile), (confFileProperty tm s).2))
  | (tm, .device body), s => andThen (body.outcome s) fun (body, s) => some (.ok ((tm, .device body), s))

theorem DeviceBody.result_property (body : DeviceBody) (s : Strings) : (body.property s).result = body.outcome s := by
  rw [DeviceBody.property, DeviceBody.outcome]
  split
  · exact result_pure _
  · split
    · exact result_readLevelTable body s
    · exact result_pure _

theorem EnvBody.result_property (body : ThermalMain × EnvBody) (s : Strings) :
    (EnvBody.property body s).result = EnvBody.outcome body s := by
  obtain ⟨tm, body⟩ := body
  cases body with
  | real body => exact result_pure _
  | «virtual» body => exact result_pure _
  | confFile => exact result_pure _
  | device body =>
    rw [EnvBody.property, EnvBody.outcome, result_bind, DeviceBody.result_property]
    congr 1
    funext next
    exact result_pure _

inductive EnvMode where
  | item
  | typeLine
  | firstProp
  | body (body : EnvBody)
  | stopped

structure EnvLine where
  tm : ThermalMain
  strings : Strings := {}
  mode : EnvMode := .item

namespace EnvLine

def enter (body : ThermalMain × EnvBody) (s : Strings) : Option (Except Stop EnvLine) :=
  andThen (EnvBody.outcome body s) fun ((tm, body), s) => some (.ok { tm := tm, strings := s, mode := .body body })

def leave (tm : ThermalMain) (body : EnvBody) (s : Strings) : Option (Except Stop EnvLine) :=
  andThen (some (body.register tm s.name)) fun tm => some (.ok { tm := tm, strings := s })

def step (e : EnvLine) (line : Line) : Option (Except Stop EnvLine) :=
  let s := e.strings.setLine line
  match e.mode with
  | .item =>
    if line.isEmpty then some (.ok e)
    else if s.readName.unbracketed then some (.ok { tm := e.tm, mode := .stopped })
    else andThen (some s.readName.eraseBrackets) fun s => some (.ok { tm := e.tm, strings := s, mode := .typeLine })
  | .typeLine =>
    if s.readProp.prop ≠ "type" then some (.ok { tm := e.tm, mode := .stopped })
    else if s.readProp.readValue.value = "virtual" then
      some (.ok { tm := e.tm, strings := s.readProp.readValue, mode := .firstProp })
    else enter (e.tm, .ofType s.readProp.readValue.value) s.readProp.readValue
  | .firstProp => if s.readProp.prop = "" then leave e.tm (.virtual {}) s.readProp else enter
      (e.tm, .virtual {}) s.readProp
  | .body body => if line.isEmpty then leave e.tm body e.strings else enter (e.tm, body) s.readProp
  | .stopped => some (.ok e)

def rank (e : EnvLine) : Nat :=
  match e.mode with
  | .item | .stopped => 0
  | .body _ => 1
  | .firstProp => 2
  | .typeLine => 3

theorem rank_le (e : EnvLine) : e.rank ≤ 3 := by
  rw [rank]
  split <;> decide

variable {s : Strings} {e : EnvLine}

theorem enter_rank {body : ThermalMain × EnvBody} (h : enter body s = some (.ok e)) : e.rank = 1 := by
  obtain ⟨_, -, hok⟩ := andThen_eq_ok h
  cases hok
  rfl

theorem leave_rank {tm : ThermalMain} {body : EnvBody} (h : leave tm body s = some (.ok e)) : e.rank = 0 := by
  obtain ⟨_, -, hok⟩ := andThen_eq_ok h
  cases hok
  rfl

theorem settles : Settles step rank where
  settled e h := by
    obtain ⟨tm, s, mode⟩ := e
    cases mode <;> first | rfl | cases h
  settling e e' h hstep := by
    obtain ⟨tm, s, mode⟩ := e
    cases mode with
    | item => exact absurd rfl h
    | stopped => exact absurd rfl h
    | body body => exact (leave_rank hstep).trans_lt Nat.zero_lt_one
    | firstProp =>
      have hrank : e'.rank < 2 := by
        rw [step] at hstep
        dsimp only at hstep
        split at hstep
        · have hleft := leave_rank hstep
          omega
        · have hentered := enter_rank hstep
          omega
      exact hrank
    | typeLine =>
      have hrank : e'.rank < 3 := by
        rw [step] at hstep
        dsimp only at hstep
        split at hstep
        · cases hstep
          exact Nat.zero_lt_succ 2
        · split at hstep
          · cases hstep
            exact Nat.lt_succ_self 2
          · have hentered := enter_rank hstep
            omega
      exact hrank

def run : EnvLine → List Line → Option (Except Stop EnvLine) := runFile step 3

theorem run_eq (e : EnvLine) (lines : List Line) :
    e.run lines = andThen (e.step (lines.headD [])) fun e => e.run lines.tail :=
  settles.runFile_eq rank_le e lines

theorem run_settled (h : e.rank = 0) : e.run [] = some (.ok e) := settles.runFile_settled h

variable (tm : ThermalMain)

theorem run_stopped (s : Strings) (lines : List Line) :
    run { tm := tm, strings := s, mode := .stopped } lines =
      some (.ok { tm := tm, strings := s, mode := .stopped }) := by
  induction lines with
  | nil => exact run_settled rfl
  | cons line lines ih =>
    rw [run_eq]
    exact ih

theorem run_body (body : EnvBody) (s : Strings) (lines : List Line) :
    run { tm := tm, strings := s, mode := .body body } lines =
      andThen (afterProperty (fun _ => false) EnvBody.outcome lines ((tm, body), s)) fun (((tm, body), s), lines) =>
        andThen (leave tm body s) fun e => e.run lines := by
  induction lines generalizing tm body s with
  | nil =>
    rw [run_eq]
    rfl
  | cons line lines ih =>
    rw [run_eq, List.headD_cons, List.tail_cons, step, afterProperty]
    dsimp only
    by_cases hblank : line = []
    · rw [hblank]
      rfl
    · rw [if_neg (by rwa [List.isEmpty_iff]), if_neg hblank, if_neg Bool.false_ne_true, enter]
      rcases EnvBody.outcome (tm, body) (s.setLine line).readProp with _ | _ | ⟨⟨tm, body⟩, s⟩
      · rfl
      · rfl
      · exact ih tm body s

def finish (r : Option (Except Stop EnvLine)) : Option (Except Stop ThermalMain) := andThen r fun e => some (.ok e.tm)

def Agrees : Nat → Prop := UpTo fun lines => ∀ tm (s : Strings),
    (loop envRound (tm, s.at lines)).result = finish (run { tm := tm, strings := s } lines)

variable {lines : List Line}

theorem result_item_body (hagrees : Agrees lines.length) (tm : ThermalMain) (body : EnvBody) (hprop : s.prop ≠ "") :
    (properties (fun _ => false) EnvBody.property ((tm, body), s.at lines) >>= fun ((tm, body), v) =>
        done (body.register tm v.name) >>= fun tm => loop envRound (tm, v)).result =
      finish (andThen (enter (tm, body) s) fun e => e.run lines) := by
  rw [result_bind, result_properties EnvBody.result_property hprop, enter]
  match EnvBody.outcome (tm, body) s with
  | none => rfl
  | some (.error _) => rfl
  | some (.ok ((tm, body), s)) =>
    dsimp only [andThen]
    rw [run_body]
    match hafter : afterProperty (fun _ => false) EnvBody.outcome lines ((tm, body), s) with
    | none => rfl
    | some (.error _) => rfl
    | some (.ok (((tm, body), s), lines')) =>
      have hlen := afterProperty_length hafter
      dsimp only [andThen]
      rw [result_bind, result_done, leave]
      have hname : (s.at lines').name = s.name := rfl
      rw [hname]
      match body.register tm s.name with
      | .error _ => rfl
      | .ok tm => exact hagrees lines' hlen tm s

theorem result_envBody (hagrees : Agrees lines.length) (tm : ThermalMain) (hprop : s.prop ≠ "") :
    andThen (envBody tm (s.at lines)).result (fun next => (loop envRound next).result) =
      finish (if s.value = "virtual" then run { tm := tm, strings := s, mode := .firstProp } lines
        else andThen (enter (tm, .ofType s.value) s) fun e => e.run lines) := by
  have hbind (body : EnvBody) (v : Vars) :
      andThen (properties (fun _ => false) EnvBody.property ((tm, body), v) >>= fun ((tm, body), v) =>
        done (body.register tm v.name) >>= fun tm => pure (tm, v)).result (fun next => (loop envRound next).result) =
      (properties (fun _ => false) EnvBody.property ((tm, body), v) >>= fun ((tm, body), v) =>
        done (body.register tm v.name) >>= fun tm => loop envRound (tm, v)).result := by
    simp only [result_bind, andThen_assoc, result_pure, andThen_ok]
  have hval : (s.at lines).value = s.value := rfl
  rw [envBody]
  dsimp only
  rw [hval]
  split
  · rename_i hvirtual
    have hnext := readProp_prop_ne ((setLine_prop s (lines.headD [])).trans_ne hprop)
    rw [getString_readProp, run_eq, step]
    dsimp only
    rw [if_neg hnext, hvirtual]
    exact (hbind _ _).trans (result_item_body hagrees.tail tm _ hnext)
  · exact (hbind _ _).trans (result_item_body hagrees tm _ hprop)

theorem result_envItem (hagrees : Agrees lines.length) (tm : ThermalMain) (start : Strings) :
    andThen (envItem tm (start.at lines)).result (again fun next => (loop envRound next).result) =
      finish (andThen (if start.unbracketed then some (.ok { tm := tm, mode := .stopped })
        else andThen (some start.eraseBrackets) fun s => some (.ok { tm := tm, strings := s, mode := .typeLine }))
          fun e => run e lines) := by
  have hunbracketed : (start.at lines).unbracketed = start.unbracketed := rfl
  have herase : (start.at lines).eraseBrackets = start.eraseBrackets := rfl
  rw [envItem, hunbracketed]
  split
  · rw [result_pure, andThen_ok, andThen_ok, run_stopped]
    rfl
  · rw [herase, result_bind, result_done]
    match start.eraseBrackets with
    | .error _ => rfl
    | .ok s =>
      have hvars : ({ s with file := (start.at lines).file } : Vars) = s.at lines := rfl
      have hread : ((s.setLine (lines.headD [])).readProp.at lines.tail).readValue =
          (s.setLine (lines.headD [])).readProp.readValue.at lines.tail := rfl
      rw [andThen_ok, andThen_ok, andThen_ok, hvars, getString_readProp, run_eq, step]
      dsimp only
      rw [at_prop]
      by_cases htype : (s.setLine (lines.headD [])).readProp.prop = "type"
      · rw [if_neg (not_not.mpr htype), if_neg (not_not.mpr htype), hread, result_bind]
        simp only [andThen_assoc, result_pure, andThen_ok, again]
        have hprop : (s.setLine (lines.headD [])).readProp.readValue.prop ≠ "" := by
          rw [readValue_prop, htype]
          decide
        refine (result_envBody hagrees.tail tm hprop).trans ?_
        split <;> rfl
      · rw [if_pos htype, if_pos htype, result_pure, andThen_ok, andThen_ok, run_stopped]
        rfl

theorem result_envRound_nil (s : Strings) :
    (loop envRound (tm, s.at [])).result = finish (run { tm := tm, strings := s } []) := by
  have hround : envRound (tm, s.at []) = pure (.inr tm) := rfl
  rw [result_loop, hround, result_pure, andThen_ok, run_settled rfl]
  rfl

theorem agrees (n : Nat) : Agrees n := by
  induction n with
  | zero =>
    intro lines hlen tm s
    rw [List.length_eq_zero_iff.mp (Nat.le_zero.mp hlen)]
    exact result_envRound_nil tm s
  | succ n ih =>
    rintro (_ | ⟨line, lines⟩) hlen tm s
    · exact result_envRound_nil tm s
    · have hlines : lines.length ≤ n := Nat.le_of_succ_le_succ hlen
      rw [result_loop, run_eq, step]
      cases line with
      | nil =>
        have hround : envRound (tm, s.at ([] :: lines)) = pure (.inl (tm, s.at lines)) := rfl
        rw [hround, result_pure, andThen_ok, again]
        exact ih lines hlines tm s
      | cons word line =>
        have hround : envRound (tm, s.at ((word :: line) :: lines)) =
            envItem tm ((s.setLine (word :: line)).readName.at lines) := rfl
        rw [hround, result_envItem (ih.mono hlines)]
        rfl

end EnvLine

theorem result_envParse (tm : ThermalMain) (lines : List Line) :
    (envParse tm { opened := true, lines := lines }).result =
      andThen (EnvLine.run { tm := tm } lines) fun e => some (.ok e.tm) :=
  EnvLine.agrees lines.length lines le_rfl tm {}

end ExynosHal.Thermal.Parser
