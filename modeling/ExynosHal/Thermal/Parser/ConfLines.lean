import ExynosHal.Thermal.Parser.ConfParse
import ExynosHal.Thermal.Parser.Lines

/-! # `confParse` line by line

The parser of the conf file as a machine whose steps are the lines of the file.
-/

namespace ExynosHal.Thermal.Parser
open Library Library.Fueled
open List (append_assoc append_nil cons_ne_nil drop_drop nil_append)

def tokensFrom (delimiters : List Char) : List Char → List Char → List String
  | token, [] => if token = [] then [] else [String.ofList token]
  | token, c :: cs =>
    if delimiters.contains c then
      if token = [] then tokensFrom delimiters [] cs else String.ofList token :: tokensFrom delimiters [] cs
    else tokensFrom delimiters (token ++ [c]) cs

section
variable {delimiters : List Char}

theorem tokensFrom_delimiters {skipped : List Char} (h : ∀ c ∈ skipped, delimiters.contains c) (cs : List Char) :
    tokensFrom delimiters [] (skipped ++ cs) = tokensFrom delimiters [] cs := by
  induction skipped with
  | nil => rfl
  | cons c skipped ih =>
    obtain ⟨hc, hskipped⟩ := List.forall_mem_cons.mp h
    rw [List.cons_append, tokensFrom, if_pos hc, if_pos rfl, ih hskipped]

theorem tokensFrom_token {more : List Char} (h : ∀ c ∈ more, delimiters.contains c = false) (token cs : List Char) :
    tokensFrom delimiters token (more ++ cs) = tokensFrom delimiters (token ++ more) cs := by
  induction more generalizing token with
  | nil => rw [nil_append, append_nil]
  | cons c more ih =>
    obtain ⟨hc, hmore⟩ := List.forall_mem_cons.mp h
    rw [List.cons_append, tokensFrom, hc, if_neg Bool.false_ne_true, ih hmore, append_assoc, List.singleton_append]

theorem findFirst_cases (member : Bool) (str : List Char) (start : Nat) :
    (findFirst member str delimiters (some start) = none ∧ ∀ c ∈ str.drop start, delimiters.contains c = !member) ∨
      ∃ k c cs, findFirst member str delimiters (some start) = some (start + k) ∧
        (∀ c ∈ (str.drop start).take k, delimiters.contains c = !member) ∧
        str.drop (start + k) = c :: cs ∧ delimiters.contains c = member := by
  have hpassed {c : Char} (h : ¬ (delimiters.contains c == member)) : delimiters.contains c = !member := by
    cases member <;> simp_all
  rw [findFirst, Option.bind_some]
  cases hfind : (str.drop start).findIdx? fun c => delimiters.contains c == member with
  | none =>
    refine .inl ⟨rfl, fun c hc => hpassed ?_⟩
    rw [List.findIdx?_eq_none_iff.mp hfind c hc]
    exact Bool.false_ne_true
  | some k =>
    obtain ⟨hk, hfound, hbefore⟩ := List.findIdx?_eq_some_iff_getElem.mp hfind
    refine .inr ⟨k, (str.drop start)[k], (str.drop start).drop (k + 1), rfl, ?_, ?_, beq_iff_eq.mp hfound⟩
    · intro c hc
      obtain ⟨j, hj, rfl⟩ := List.mem_take_iff_getElem.mp hc
      exact hpassed (hbefore j (by omega))
    · rw [← drop_drop]
      exact List.drop_eq_getElem_cons hk

theorem result_tokenRound (str : List Char) (start : Nat) (tokens : List String) :
    (loop (tokenRound str delimiters) (tokens, findFirst false str delimiters (some start),
        findFirst true str delimiters (findFirst false str delimiters (some start)))).result =
      some (.ok (tokens ++ tokensFrom delimiters [] (str.drop start))) := by
  have hend (tokens : List String) : (loop (tokenRound str delimiters) (tokens, none, none)).result =
      some (.ok tokens) := by
    rw [result_loop, tokenRound, result_pure, andThen_ok, again]
  induction hn : str.length - start using Nat.strong_induction_on generalizing start tokens with
  | _ n ih =>
  rcases findFirst_cases false str start with ⟨hnone, hall⟩ | ⟨k, c, cs, hfst, hskipped, hdrop, hc⟩
  · have htokens := tokensFrom_delimiters hall []
    rw [append_nil] at htokens
    rw [hnone, htokens, tokensFrom, if_pos rfl, append_nil]
    exact hend tokens
  · have hskip : tokensFrom delimiters [] (str.drop start) = tokensFrom delimiters [] (str.drop (start + k)) := by
      rw [← List.take_append_drop k (str.drop start), tokensFrom_delimiters hskipped, drop_drop]
    rw [hfst, hskip, result_loop]
    rcases findFirst_cases true str (start + k) with ⟨hnone, hall⟩ | ⟨j, c', cs', hnext, htoken, hdrop', hc'⟩
    · have hlast : tokensFrom delimiters [] (str.drop (start + k)) = [String.ofList (str.drop (start + k))] := by
        have htokens := tokensFrom_token hall [] []
        rw [append_nil, nil_append] at htokens
        rw [htokens, tokensFrom, if_neg (hdrop ▸ cons_ne_nil c cs)]
      rw [hnone, tokenRound, result_pure, andThen_ok, again, hlast]
      exact hend _
    · have hj : j ≠ 0 := by
        rintro rfl
        rw [Nat.add_zero, hdrop] at hdrop'
        cases hdrop'
        rw [hc] at hc'
        cases hc'
      have hword : tokensFrom delimiters [] (str.drop (start + k)) =
          String.ofList ((str.drop (start + k)).take j) :: tokensFrom delimiters [] (str.drop (start + k + j)) := by
        have hnonempty : (str.drop (start + k)).take j ≠ [] := by
          obtain ⟨i, rfl⟩ := Nat.exists_eq_succ_of_ne_zero hj
          rw [hdrop]
          exact cons_ne_nil c _
        conv_lhs => rw [← List.take_append_drop j (str.drop (start + k))]
        rw [tokensFrom_token htoken, nil_append, drop_drop, hdrop', tokensFrom, if_pos hc', if_neg hnonempty,
          tokensFrom, if_pos hc', if_pos rfl]
      have hlen : start + k < str.length := by
        have hcnt := congrArg List.length hdrop
        rw [List.length_drop, List.length_cons] at hcnt
        omega
      have hsubstr : substr str (start + k) (some (start + k + j)) = (str.drop (start + k)).take j := by
        rw [substr, Nat.add_sub_cancel_left]
      rw [hnext, tokenRound, result_pure, andThen_ok, again, hsubstr, hword]
      refine (ih (str.length - (start + k + j)) (by omega) (start + k + j) _ rfl).trans ?_
      rw [append_assoc, List.singleton_append]

theorem result_stringTokenizer (str : List Char) :
    (stringTokenizer str delimiters).result = some (.ok (tokensFrom delimiters [] str)) :=
  result_tokenRound str 0 []

end

def listsOutcome {α : Type} (entry : String → Except Stop α) (lists : List (List α)) (words : List String) :
    Except Stop (List (List α)) :=
  words.zipIdx.foldlM (fun lists (word, i) => enterTokens entry lists i (tokensFrom ['+'] [] word.toList)) lists

theorem result_readLists {α : Type} (entry : String → Except Stop α) (lists : List (List α)) (words : List String) :
    (readLists entry lists words).result = some (listsOutcome entry lists words) := by
  rw [readLists, listsOutcome]
  induction words.zipIdx generalizing lists with
  | nil => exact result_pure _
  | cons word words ih =>
    obtain ⟨word, i⟩ := word
    rw [List.foldlM_cons, List.foldlM_cons, result_bind, result_bind, result_stringTokenizer, andThen_ok, result_done]
    dsimp only
    match enterTokens entry lists i (tokensFrom ['+'] [] word.toList) with
    | .error _ => rfl
    | .ok lists => exact ih lists

def MonitorBody.outcome (tm : ThermalMain) (body : MonitorBody) (s : Strings) : Except Stop (MonitorBody × Strings) :=
  if s.prop = "actions" then do
    let device ← listsOutcome (findDevice tm) body.device s.readValues.1
    return ({ body with device := device }, s.readValues.2)
  else if s.prop = "action_info" then do
    let actionInfo ← listsOutcome (fun token => .ok (atoi token)) body.actionInfo s.readValues.1
    return ({ body with actionInfo := actionInfo }, s.readValues.2)
  else .ok (body.simpleProperty tm s)

theorem MonitorBody.result_property (tm : ThermalMain) (body : MonitorBody) (s : Strings) :
    (body.property tm s).result = some (body.outcome tm s) := by
  rw [MonitorBody.property, MonitorBody.outcome]
  split
  · rw [result_bind, result_readLists]
    match listsOutcome (findDevice tm) body.device s.readValues.1 with
    | .error _ => rfl
    | .ok _ => exact result_pure _
  · split
    · rw [result_bind, result_readLists]
      match listsOutcome (fun token => .ok (atoi token)) body.actionInfo s.readValues.1 with
      | .error _ => rfl
      | .ok _ => exact result_pure _
    · exact result_pure _

def ConfBody.outcome : ThermalMain × ConfBody → Strings → Option (Except Stop ((ThermalMain × ConfBody) × Strings))
  | (tm, .monitor body), s => andThen (some (body.outcome tm s)) fun (body, s) => some (.ok ((tm, .monitor body), s))
  | (tm, .ss body), s =>
    some (.ok (((SSBody.property (tm, body) s).1.1, .ss (SSBody.property (tm, body) s).1.2),
      (SSBody.property (tm, body) s).2))

theorem ConfBody.result_property (body : ThermalMain × ConfBody) (s : Strings) :
    (ConfBody.property body s).result = ConfBody.outcome body s := by
  obtain ⟨tm, body⟩ := body
  cases body with
  | monitor body =>
    rw [ConfBody.property, ConfBody.outcome, result_bind, MonitorBody.result_property]
    congr 1
    funext next
    exact result_pure _
  | ss body => exact result_pure _

inductive ConfMode where
  | item
  | nameLine
  | algoLine
  | firstProp (body : ConfBody)
  | body (body : ConfBody)

structure ConfLine where
  tm : ThermalMain
  conf : Conf := {}
  scenName : String := "Default"
  strings : Strings := {}
  mode : ConfMode := .item

namespace ConfLine

def named (c : ConfLine) (s : Strings) : Option (Except Stop ConfLine) :=
  if s.unbracketed then some (.error (.parseFail failStart))
  else andThen (some s.eraseBrackets) fun s => some (.ok { c with strings := s, mode := .algoLine })

def enter (c : ConfLine) (body : ThermalMain × ConfBody) (s : Strings) : Option (Except Stop ConfLine) :=
  andThen (ConfBody.outcome body s) fun ((tm, body), s) =>
    some (.ok { c with tm := tm, strings := s, mode := .body body })

def leave (c : ConfLine) (tm : ThermalMain) (body : ConfBody) (s : Strings) : Option (Except Stop ConfLine) :=
  if body.missing then some (.error (.parseFail (failMissing s.name)))
  else some (.ok { tm := tm, conf := c.conf.register s.name c.scenName body, scenName := c.scenName, strings := s })

def step (c : ConfLine) (line : Line) : Option (Except Stop ConfLine) :=
  let s := c.strings.setLine line
  match c.mode with
  | .item =>
    if line.isEmpty then some (.ok c)
    else if s.readProp.prop = "SCEN" then
      let s := s.readProp.readValue
      some (.ok { c with scenName := s.value, conf := c.conf.openScenario s.value, strings := s, mode := .nameLine })
    else if s.readProp.prop =
      "]" then some (.ok { c with scenName := "Default", strings := s.readProp, mode := .nameLine })
    else c.named { s.readProp with name := s.readProp.prop }
  | .nameLine => c.named s.readName
  | .algoLine =>
    if s.readProp.prop ≠ "algo_type" then some (.error (.parseFail failAlgoType))
    else
      match ConfBody.ofType s.readProp.readValue.value with
      | none => some (.error (.parseFail failType))
      | some body => some (.ok { c with strings := s.readProp.readValue, mode := .firstProp body })
  | .firstProp body => if s.readProp.prop = "" then c.leave c.tm body s.readProp else c.enter (c.tm, body) s.readProp
  | .body body =>
    if line.isEmpty then c.leave c.tm body c.strings
    else if closes s.readProp.prop then c.leave c.tm body s.readProp
    else c.enter (c.tm, body) s.readProp

def rank (c : ConfLine) : Nat :=
  match c.mode with
  | .item => 0
  | .body _ => 1
  | .firstProp _ => 2
  | .algoLine => 3
  | .nameLine => 4

theorem rank_le (c : ConfLine) : c.rank ≤ 4 := by
  rw [rank]
  split <;> decide

variable {c c' : ConfLine} {s : Strings}

theorem named_ok (h : c.named s = some (.ok c')) : c'.rank = 3 ∧ c'.conf = c.conf := by
  rw [named] at h
  split at h
  · cases h
  · obtain ⟨_, -, hok⟩ := andThen_eq_ok h
    cases hok
    exact ⟨rfl, rfl⟩

theorem enter_ok {body : ThermalMain × ConfBody} (h : c.enter body s = some (.ok c')) :
    c'.rank = 1 ∧ c'.conf = c.conf := by
  obtain ⟨_, -, hok⟩ := andThen_eq_ok h
  cases hok
  exact ⟨rfl, rfl⟩

theorem leave_rank {tm : ThermalMain} {body : ConfBody} (h : c.leave tm body s = some (.ok c')) : c'.rank = 0 := by
  rw [leave] at h
  split at h
  · cases h
  · cases h
    rfl

theorem settles : Settles step rank where
  settled c h := by
    obtain ⟨tm, conf, scenName, s, mode⟩ := c
    cases mode <;> first | rfl | cases h
  settling c c' h hstep := by
    obtain ⟨tm, conf, scenName, s, mode⟩ := c
    cases mode with
    | item => exact absurd rfl h
    | body body => exact (leave_rank hstep).trans_lt Nat.zero_lt_one
    | firstProp body =>
      have hrank : c'.rank < 2 := by
        rw [step] at hstep
        dsimp only at hstep
        split at hstep
        · have hleft := leave_rank hstep
          omega
        · have hentered := (enter_ok hstep).1
          omega
      exact hrank
    | algoLine =>
      have hrank : c'.rank < 3 := by
        rw [step] at hstep
        dsimp only at hstep
        split at hstep
        · cases hstep
        · split at hstep
          · cases hstep
          · cases hstep
            exact Nat.lt_succ_self 2
      exact hrank
    | nameLine => exact (named_ok hstep).1.trans_lt (Nat.lt_succ_self 3)

def run : ConfLine → List Line → Option (Except Stop ConfLine) := runFile step 4

theorem run_eq (c : ConfLine) (lines : List Line) :
    c.run lines = andThen (c.step (lines.headD [])) fun c => c.run lines.tail :=
  settles.runFile_eq rank_le c lines

theorem run_settled (h : c.rank = 0) : c.run [] = some (.ok c) := settles.runFile_settled h

section

def Extends (c c' : ConfLine) : Prop :=
  ∃ items, c'.conf.items = c.conf.items ++ items ∧ ∀ item ∈ items, item.body.missing = false

theorem Extends.of_eq (h : c'.conf.items = c.conf.items) : Extends c c' :=
  ⟨[], h.trans (append_nil _).symm, List.forall_mem_nil _⟩

theorem leave_registered {tm : ThermalMain} {body : ConfBody} (h : c.leave tm body s = some (.ok c')) :
    Extends c c' := by
  rw [leave] at h
  split at h
  · cases h
  · rename_i hmissing
    cases h
    exact ⟨_, rfl, List.forall_mem_singleton.mpr (Bool.eq_false_iff.mpr hmissing)⟩

theorem step_registered {line : Line} (h : c.step line = some (.ok c')) : Extends c c' := by
  obtain ⟨tm, conf, scenName, s, mode⟩ := c
  rw [step] at h
  cases mode with
  | item =>
    dsimp only at h
    split at h
    · cases h
      exact .of_eq rfl
    · split at h
      · cases h
        refine .of_eq ?_
        rw [Conf.openScenario]
        split <;> rfl
      · split at h
        · cases h
          exact .of_eq rfl
        · exact .of_eq (congrArg Conf.items (named_ok h).2)
  | nameLine => exact .of_eq (congrArg Conf.items (named_ok h).2)
  | algoLine =>
    dsimp only at h
    split at h
    · cases h
    · split at h
      · cases h
      · cases h
        exact .of_eq rfl
  | firstProp body =>
    dsimp only at h
    split at h
    · exact leave_registered h
    · exact .of_eq (congrArg Conf.items (enter_ok h).2)
  | body body =>
    dsimp only at h
    split at h
    · exact leave_registered h
    · split at h
      · exact leave_registered h
      · exact .of_eq (congrArg Conf.items (enter_ok h).2)

variable {lines : List Line}

theorem runs_registered (h : runs step c lines = some (.ok c')) : Extends c c' := by
  induction lines generalizing c with
  | nil =>
    cases h
    exact .of_eq rfl
  | cons line lines ih =>
    obtain ⟨c₁, hstep, hrest⟩ := andThen_eq_ok h
    obtain ⟨first, hfst, hcompl⟩ := step_registered hstep
    obtain ⟨rest, hregd, hrestcomplete⟩ := ih hrest
    refine ⟨first ++ rest, ?_, List.forall_mem_append.mpr ⟨hcompl, hrestcomplete⟩⟩
    rw [hregd, hfst, append_assoc]

theorem runs_prefix (h : runs step c lines = some (.ok c')) : c.conf.items <+: c'.conf.items := by
  obtain ⟨items, hitems, -⟩ := runs_registered h
  exact ⟨items, hitems.symm⟩

end

theorem run_body (c : ConfLine) (tm : ThermalMain) (body : ConfBody) (s : Strings) (lines : List Line) :
    run { c with tm := tm, strings := s, mode := .body body } lines =
      andThen (afterProperty closes ConfBody.outcome lines ((tm, body), s)) fun (((tm, body), s), lines) =>
        andThen (c.leave tm body s) fun c => c.run lines := by
  induction lines generalizing tm body s with
  | nil =>
    rw [run_eq]
    rfl
  | cons line lines ih =>
    rw [run_eq, List.headD_cons, List.tail_cons, step, afterProperty]
    dsimp only
    by_cases hblank : line = []
    · rw [hblank]
      rfl
    · rw [if_neg (by rwa [List.isEmpty_iff]), if_neg hblank]
      by_cases hcloses : closes (s.setLine line).readProp.prop
      · rw [if_pos hcloses, if_pos hcloses]
        rfl
      · rw [if_neg hcloses, if_neg hcloses, enter]
        rcases ConfBody.outcome (tm, body) (s.setLine line).readProp with _ | _ | ⟨⟨tm, body⟩, s⟩
        · rfl
        · rfl
        · exact ih tm body s

def finish (r : Option (Except Stop ConfLine)) : Option (Except Stop (ThermalMain × Conf)) :=
  andThen r fun c => some (.ok (c.tm, c.conf))

def state (c : ConfLine) (lines : List Line) : ConfState :=
  { tm := c.tm, conf := c.conf, scenName := c.scenName, vars := c.strings.at lines }

def Agrees : Nat → Prop := UpTo fun lines => ∀ c : ConfLine,
    (loop confRound (c.state lines)).result = finish (run { c with mode := .item } lines)

variable {lines : List Line}

theorem result_item_body (hagrees : Agrees lines.length) (c : ConfLine) (body : ConfBody)
    {s : Strings} (hprop : s.prop ≠ "") :
    andThen (properties closes ConfBody.property ((c.tm, body), s.at lines) >>= fun ((tm, body), v) => do
        if body.missing then fail (.parseFail (failMissing v.name))
        return { c.state lines with tm := tm, conf := c.conf.register v.name c.scenName body, vars := v }).result
        (fun next => (loop confRound next).result) =
      finish (andThen (c.enter (c.tm, body) s) fun c => c.run lines) := by
  rw [result_bind, andThen_assoc, result_properties ConfBody.result_property hprop, enter]
  match ConfBody.outcome (c.tm, body) s with
  | none => rfl
  | some (.error _) => rfl
  | some (.ok ((tm, body), s)) =>
    dsimp only [andThen]
    rw [run_body]
    match hafter : afterProperty closes ConfBody.outcome lines ((tm, body), s) with
    | none => rfl
    | some (.error _) => rfl
    | some (.ok (((tm, body), s), lines')) =>
      have hlen := afterProperty_length hafter
      have hname : (s.at lines').name = s.name := rfl
      dsimp only [andThen]
      rw [leave, hname]
      by_cases hmissing : body.missing
      · rw [if_pos hmissing, if_pos hmissing, result_bind, result_fail]
        rfl
      · rw [if_neg hmissing, if_neg hmissing, result_pure]
        exact hagrees lines' hlen
          { tm := tm, conf := c.conf.register s.name c.scenName body, scenName := c.scenName, strings := s }

theorem result_confBody (hagrees : Agrees lines.length) (c : ConfLine) (hprop : c.strings.prop ≠ "") :
    andThen (confBody (c.state lines)).result (fun next => (loop confRound next).result) =
      finish (match ConfBody.ofType c.strings.value with
        | none => some (.error (.parseFail failType))
        | some body => run { c with mode := .firstProp body } lines) := by
  have hval : (c.state lines).vars.value = c.strings.value := rfl
  rw [confBody, hval]
  match ConfBody.ofType c.strings.value with
  | none =>
    dsimp only
    rw [result_fail]
    rfl
  | some body =>
    have hnext := readProp_prop_ne ((setLine_prop c.strings (lines.headD [])).trans_ne hprop)
    have hvars : (c.state lines).vars = c.strings.at lines := rfl
    dsimp only
    rw [hvars, getString_readProp, run_eq, step]
    dsimp only
    rw [if_neg hnext]
    exact result_item_body hagrees.tail c body hnext

theorem result_confItem (hagrees : Agrees lines.length) (c : ConfLine) :
    andThen (confItem (c.state lines)).result (fun next => (loop confRound next).result) =
      finish (andThen (c.named c.strings) fun c => c.run lines) := by
  have hunbracketed : (c.state lines).vars.unbracketed = c.strings.unbracketed := rfl
  have herase : (c.state lines).vars.eraseBrackets = c.strings.eraseBrackets := rfl
  rw [confItem, named, hunbracketed, herase]
  by_cases hopen : c.strings.unbracketed
  · rw [if_pos hopen, if_pos hopen, result_fail]
    rfl
  · rw [if_neg hopen, if_neg hopen, result_bind, result_done]
    match c.strings.eraseBrackets with
    | .error _ => rfl
    | .ok s =>
      have hvars : ({ s with file := (c.state lines).vars.file } : Vars) = s.at lines := rfl
      rw [andThen_ok, andThen_ok, andThen_ok, hvars, getString_readProp, run_eq, step]
      dsimp only
      rw [at_prop]
      by_cases halgo : (s.setLine (lines.headD [])).readProp.prop = "algo_type"
      · have hprop : (s.setLine (lines.headD [])).readProp.readValue.prop ≠ "" := by
          rw [readValue_prop, halgo]
          decide
        rw [if_neg (not_not.mpr halgo), if_neg (not_not.mpr halgo)]
        refine (result_confBody hagrees.tail
          { c with strings := (s.setLine (lines.headD [])).readProp.readValue } hprop).trans ?_
        dsimp only
        match ConfBody.ofType (s.setLine (lines.headD [])).readProp.readValue.value with
        | none => rfl
        | some _ => rfl
      · rw [if_pos halgo, if_pos halgo, result_fail]
        rfl

theorem result_readStart (s : Strings) (line : Line) (hline : line ≠ []) (lines : List Line) :
    (readStart ((s.setLine line).at lines)).result = some (.ok ((s.setLine line).readProp.at lines)) := by
  match line, hline with
  | word :: line, _ =>
    have hnext := readProp_ne_empty (s := s) (cons_ne_nil word line)
    have hread : ({ (s.setLine (word :: line)).at lines with prop := "" } : Vars).readProp =
        (s.setLine (word :: line)).readProp.at lines := rfl
    rw [readStart, result_loop, startRound, if_pos rfl, hread, result_pure, andThen_ok, again, result_loop, startRound,
      if_neg (show ((s.setLine (word :: line)).readProp.at lines).prop ≠ "" from hnext), result_pure, andThen_ok, again]

theorem result_confRound_nil (c : ConfLine) :
    (loop confRound (c.state [])).result = finish (run { c with mode := .item } []) := by
  have hround : confRound (c.state []) = pure (.inr (c.tm, c.conf)) := rfl
  rw [result_loop, hround, result_pure, andThen_ok, run_settled rfl]
  rfl

section
variable (c : ConfLine) {start : Strings} (lines : List Line)

theorem confStart_scen (h : start.prop = "SCEN") : confStart { c.state lines with vars := start.at lines } =
      state { c with scenName := start.readValue.value, conf := c.conf.openScenario start.readValue.value, strings :=
        (start.readValue.setLine (lines.headD [])).readName } lines.tail := by
  have hget : (start.at lines).readValue.getString.2 =
      (start.readValue.setLine (lines.headD [])).at lines.tail := congrArg Prod.snd (getString_at start.readValue lines)
  rw [confStart, if_pos (show (start.at lines).prop = "SCEN" from h)]
  dsimp only
  rw [hget]
  rfl

theorem confStart_close (h : start.prop = "]") : confStart { c.state lines with vars := start.at lines } =
      state { c with scenName := "Default", strings := (start.setLine (lines.headD [])).readName } lines.tail := by
  have hscen : (start.at lines).prop ≠ "SCEN" := by
    rw [at_prop, h]
    decide
  have hget : (start.at lines).getString.2 =
      (start.setLine (lines.headD [])).at lines.tail := congrArg Prod.snd (getString_at start lines)
  rw [confStart]
  dsimp only
  rw [if_neg hscen, if_pos (show (start.at lines).prop = "]" from h), hget]
  rfl

theorem confStart_name (hscen : start.prop ≠ "SCEN") (hclose : start.prop ≠ "]") :
    confStart { c.state lines with vars := start.at lines } =
      state { c with strings := { start with name := start.prop } } lines := by
  rw [confStart]
  dsimp only
  rw [if_neg (show (start.at lines).prop ≠ "SCEN" from hscen), if_neg (show (start.at lines).prop ≠ "]" from hclose)]
  rfl

end

theorem agrees (n : Nat) : Agrees n := by
  induction n with
  | zero =>
    intro lines hlen c
    rw [List.length_eq_zero_iff.mp (Nat.le_zero.mp hlen)]
    exact result_confRound_nil c
  | succ n ih =>
    rintro (_ | ⟨line, lines⟩) hlen c
    · exact result_confRound_nil c
    · have hlines : lines.length ≤ n := Nat.le_of_succ_le_succ hlen
      have hagrees : Agrees lines.length := ih.mono hlines
      rw [result_loop, run_eq, List.headD_cons, List.tail_cons, step]
      cases line with
      | nil =>
        have hround : confRound (c.state ([] :: lines)) = pure (.inl (c.state lines)) := rfl
        rw [hround, result_pure, andThen_ok, again]
        exact ih lines hlines c
      | cons word line =>
        have hround : confRound (c.state ((word :: line) :: lines)) =
            (readStart ((c.strings.setLine (word :: line)).at lines) >>= fun v =>
              confItem (confStart { c.state lines with vars := v }) >>= fun s => pure (.inl s)) := rfl
        have hword : ¬(word :: line).isEmpty := Bool.false_ne_true
        rw [hround, result_bind, result_readStart _ _ (cons_ne_nil word line), andThen_ok, result_bind]
        simp only [andThen_assoc, result_pure, andThen_ok, again]
        rw [if_neg hword]
        by_cases hscen : (c.strings.setLine (word :: line)).readProp.prop = "SCEN"
        · rw [if_pos hscen, confStart_scen c lines hscen, result_confItem hagrees.tail, andThen_ok, run_eq]
          rfl
        · rw [if_neg hscen]
          by_cases hclose : (c.strings.setLine (word :: line)).readProp.prop = "]"
          · rw [if_pos hclose, confStart_close c lines hclose, result_confItem hagrees.tail, andThen_ok, run_eq]
            rfl
          · rw [if_neg hclose, confStart_name c lines hscen hclose, result_confItem hagrees]
            rfl

end ConfLine

theorem result_confParse (tm : ThermalMain) (lines : List Line) :
    (confParse tm { opened := true, lines := lines }).result =
      andThen (ConfLine.run { tm := tm } lines) fun c => some (.ok (c.tm, c.conf)) :=
  ConfLine.agrees lines.length lines le_rfl { tm := tm }

theorem confParse_complete {tm tm' : ThermalMain} {conf : Conf}
    (h : (confParse tm { opened := true, lines := lines }).result = some (.ok (tm', conf))) :
    ∀ item ∈ conf.items, item.body.missing = false := by
  rw [result_confParse] at h
  obtain ⟨c, hrun, hok⟩ := andThen_eq_ok h
  cases hok
  obtain ⟨items, hitems, hcompl⟩ := ConfLine.runs_registered hrun
  rw [hitems]
  exact hcompl

end ExynosHal.Thermal.Parser
