import ExynosHal.Thermal.Parser.ConfLines

/-! # Scenario blocks of the conf file

A conf file is made of blocks, `SCEN name [`, items and a closing bracket, and of items outside any block.
-/

namespace ExynosHal.Thermal.Parser
open Library Library.Fueled
open ConfBody (outcome ofType)

theorem algoType_ne_empty : "algo_type" ≠ "" := by decide

theorem scen_ne_empty : "SCEN" ≠ "" := by decide

theorem open_ne_empty : "[" ≠ "" := by decide

theorem close_ne_empty : "]" ≠ "" := by decide

variable (name : String)

theorem bracketed_toList : ("[" ++ name ++ "]").toList = '[' :: (name.toList ++ [']']) := by
  rw [String.toList_append, String.toList_append]
  rfl

theorem bracketed_ne {text : String} (h : text.toList.head? ≠ some '[') : "[" ++ name ++ "]" ≠ text := by
  rintro rfl
  rw [bracketed_toList] at h
  exact h rfl

theorem bracketed_ne_empty : "[" ++ name ++ "]" ≠ "" := bracketed_ne name nofun

/-- A line of an item behind its `algo_type`. -/
structure Property where
  prop : Word
  values : List Word
  notClosing : prop.text ≠ "]"

def Property.line (property : Property) : Line := property.prop :: property.values

structure Item where
  name : String
  algoType : Word
  properties : List Property

def Item.lines (item : Item) : List Line := [⟨"[" ++ item.name ++ "]", bracketed_ne_empty item.name⟩] ::
    [⟨"algo_type", algoType_ne_empty⟩, item.algoType] :: item.properties.map Property.line

def gapLines (last : Bool) (blanks : Nat) : List Line := List.replicate (if last then blanks else blanks + 1) []

def itemLines : List (Item × Nat) → List Line
  | [] => []
  | (item, blanks) :: items => item.lines ++ gapLines items.isEmpty blanks ++ itemLines items

structure Block where
  name : Word
  gap : Nat
  items : List (Item × Nat)

def closeLine : Line := [⟨"]", close_ne_empty⟩]

def Block.openLine (block : Block) : Line := [⟨"SCEN", scen_ne_empty⟩, block.name, ⟨"[", open_ne_empty⟩]

def Block.lines (block : Block) : List Line :=
  block.openLine :: (List.replicate block.gap [] ++ itemLines block.items ++ [closeLine])

def closedDirectly (items : List (Item × Nat)) : Bool := items.getLast?.any fun (_, blanks) => blanks = 0

inductive Element where
  | block (block : Block) (blanks : Nat)
  | loose (item : Item) (blanks : Nat)

def fileLines : List Element → List Line
  | [] => []
  | .block b blanks :: elements => b.lines ++ List.replicate blanks [] ++ fileLines elements
  | .loose item blanks :: elements => item.lines ++ gapLines elements.isEmpty blanks ++ fileLines elements

def Element.placed : Element → List (String × Item)
  | .block b _ => b.items.map fun (item, _) => (b.name.text, item)
  | .loose item _ => [("Default", item)]

def readProperties : List Property → (ThermalMain × ConfBody) × Strings →
    Option (Except Stop ((ThermalMain × ConfBody) × Strings))
  | [], next => some (.ok next)
  | property :: properties, (body, s) =>
    andThen (outcome body (s.setLine property.line).readProp) (readProperties properties)

/-- The strings behind the `algo_type` of an item. -/
def Item.start (item : Item) : Strings :=
  { line := [], prop := "algo_type", value := item.algoType.text, name := item.name }

def Item.read (tm : ThermalMain) (item : Item) : Option (ThermalMain × ConfBody) :=
  match ofType item.algoType.text with
  | none => none
  | some body =>
    match readProperties item.properties ((tm, body), item.start) with
    | some (.ok ((tm, body), _)) => if body.missing then none else some (tm, body)
    | _ => none

def readItems (tm : ThermalMain) : List (String × Item) → Option (ThermalMain × List Registered)
  | [] => some (tm, [])
  | (scenName, item) :: items => do
    let (tm, body) ← item.read tm
    let (tm, registered) ← readItems tm items
    return (tm, { name := item.name, scenName := scenName, body := body } :: registered)

section
variable (s : Strings)

theorem readValue_name : s.readValue.name = s.name := by
  rw [Strings.readValue, Strings.extractValue]
  split <;> rfl

theorem readProp_name : s.readProp.name = s.name := by
  rw [Strings.readProp]
  split <;> rfl

theorem setLine_name (line : Line) : (s.setLine line).name = s.name := by
  rw [Strings.setLine]
  split <;> rfl

theorem MonitorBody.simpleProperty_name (tm : ThermalMain) (body : MonitorBody) (s : Strings) :
    (body.simpleProperty tm s).2.name = s.name := by
  rw [MonitorBody.simpleProperty]
  split_ifs
  all_goals first | exact readValue_name s | rfl

theorem SSBody.property_name (body : ThermalMain × SSBody) (s : Strings) :
    (SSBody.property body s).2.name = s.name := by
  rw [SSBody.property]
  dsimp only
  split_ifs
  all_goals first | exact readValue_name s | rfl

theorem MonitorBody.outcome_name {tm : ThermalMain} {body : MonitorBody} {s : Strings} {next : MonitorBody × Strings}
    (h : body.outcome tm s = .ok next) : next.2.name = s.name := by
  rw [MonitorBody.outcome] at h
  split at h
  · cases hlists : listsOutcome (findDevice tm) body.device s.readValues.1 with
    | error _ =>
      rw [hlists] at h
      cases h
    | ok _ =>
      rw [hlists] at h
      cases h
      rfl
  · split at h
    · cases hlists : listsOutcome (fun token => .ok (atoi token)) body.actionInfo s.readValues.1 with
      | error _ =>
        rw [hlists] at h
        cases h
      | ok _ =>
        rw [hlists] at h
        cases h
        rfl
    · cases h
      exact body.simpleProperty_name tm s

variable {body body' : ThermalMain × ConfBody}

theorem ConfBody.outcome_name {s s' : Strings}
    (h : outcome body s = some (.ok (body', s'))) : s'.name = s.name := by
  obtain ⟨tm, body⟩ := body
  cases body with
  | ss body =>
    cases h
    exact SSBody.property_name (tm, body) s
  | monitor body =>
    obtain ⟨next, hnext, hok⟩ := andThen_eq_ok h
    cases hok
    exact MonitorBody.outcome_name (Option.some.inj hnext)

theorem readProperties_name {properties : List Property} {s s' : Strings}
    (h : readProperties properties (body, s) = some (.ok (body', s'))) : s'.name = s.name := by
  induction properties generalizing body s with
  | nil =>
    cases h
    rfl
  | cons property properties ih =>
    obtain ⟨next, hnext, hrest⟩ := andThen_eq_ok h
    rw [ih hrest, ConfBody.outcome_name hnext, readProp_name, setLine_name]

end

namespace ConfLine

theorem runs_properties (c : ConfLine) (tm : ThermalMain) (body : ConfBody) (s : Strings) (properties : List Property) :
    runs step { c with tm := tm, strings := s, mode := .body body } (properties.map Property.line) =
      andThen (readProperties properties ((tm, body), s)) fun ((tm, body), s) =>
        some (.ok { c with tm := tm, strings := s, mode := .body body }) := by
  induction properties generalizing tm body s with
  | nil => rfl
  | cons property properties ih =>
    have hopen : ¬closes (s.setLine property.line).readProp.prop = true := fun hcloses =>
      property.notClosing (of_decide_eq_true hcloses)
    rw [List.map_cons, runs, step, readProperties]
    dsimp only
    rw [if_neg (show ¬property.line.isEmpty = true from Bool.false_ne_true), if_neg hopen, enter]
    rcases outcome (tm, body) (s.setLine property.line).readProp with _ | _ | ⟨⟨tm, body⟩, s⟩
    · rfl
    · rfl
    · exact ih tm body s

variable {s : Strings}

theorem named_bracketed (c : ConfLine) {name : String} (h : s.name = "[" ++ name ++ "]") :
    c.named s = some (.ok { c with strings := { s with name := name }, mode := .algoLine }) := by
  have hunbracketed : ¬s.unbracketed := by
    rw [Strings.unbracketed, h, bracketed_toList]
    simp
  have herase : s.eraseBrackets = .ok { s with name := name } := by
    rw [Strings.eraseBrackets, h, bracketed_toList, ← List.cons_append, List.dropLast_concat]
    dsimp only
    rw [String.ofList_toList]
  rw [named, if_neg hunbracketed, herase]
  rfl

variable {c : ConfLine}

theorem runs_itemStart (hmode : c.mode = .item ∨ c.mode = .nameLine) (item : Item) (lines : List Line) :
    runs step c (item.lines.take 2 ++ lines) =
      match ofType item.algoType.text with
      | none => some (.error (.parseFail failType))
      | some body => runs step { c with strings := item.start, mode := .firstProp body } lines := by
  have hname : ∃ s : Strings, s.name = item.name ∧ step c [⟨"[" ++ item.name ++ "]", bracketed_ne_empty item.name⟩] =
        some (.ok { c with strings := s, mode := .algoLine }) := by
    obtain ⟨tm, conf, scenName, s, mode⟩ := c
    rcases hmode with rfl | rfl
    · refine ⟨{ line := [], prop := "[" ++ item.name ++ "]", value := s.value, name := item.name }, rfl, ?_⟩
      have hscen : "[" ++ item.name ++ "]" ≠ "SCEN" := bracketed_ne item.name (by decide)
      have hclose : "[" ++ item.name ++ "]" ≠ "]" := bracketed_ne item.name (by decide)
      have hprop : (s.setLine [⟨"[" ++ item.name ++ "]", bracketed_ne_empty item.name⟩]).readProp.prop =
          "[" ++ item.name ++ "]" := rfl
      rw [step]
      dsimp only
      rw [hprop, if_neg hscen, if_neg hclose, List.isEmpty_cons, if_neg Bool.false_ne_true]
      exact named_bracketed _ rfl
    · refine ⟨{ line := [], prop := s.prop, value := s.value, name := item.name }, rfl, ?_⟩
      exact named_bracketed _ rfl
  obtain ⟨s, hs, hstep⟩ := hname
  have hstart : (s.setLine [⟨"algo_type", algoType_ne_empty⟩, item.algoType]).readProp.readValue = item.start := by
    rw [Item.start, ← hs]
    rfl
  have hprop : (s.setLine [⟨"algo_type", algoType_ne_empty⟩, item.algoType]).readProp.prop = "algo_type" := rfl
  have hval : item.start.value = item.algoType.text := rfl
  rw [Item.lines, List.take_succ_cons, List.take_succ_cons, List.take_zero, List.cons_append, runs, hstep, andThen_ok,
    List.cons_append, runs, List.nil_append, step]
  dsimp only
  rw [hprop, if_neg (not_not.mpr rfl), hstart, hval]
  cases ofType item.algoType.text with
  | none => rfl
  | some body => rfl

variable {body : ConfBody}

theorem ofType_missing {algoType : String} (h : ofType algoType = some body) : body.missing := by
  rw [ofType] at h
  split at h
  · cases h
    rfl
  · split at h
    · cases h
      rfl
    · cases h

variable {item : Item} {tm tm' : ThermalMain}

theorem read_eq_some (h : item.read tm = some (tm', body)) :
    ∃ start s, ofType item.algoType.text = some start ∧ item.properties ≠ [] ∧
      readProperties item.properties ((tm, start), item.start) = some (.ok ((tm', body), s)) ∧ body.missing =
        false := by
  rw [Item.read] at h
  match htype : ofType item.algoType.text with
  | none =>
    rw [htype] at h
    cases h
  | some start =>
    rw [htype] at h
    dsimp only at h
    match hres : readProperties item.properties ((tm, start), item.start) with
    | none =>
      rw [hres] at h
      cases h
    | some (.error _) =>
      rw [hres] at h
      cases h
    | some (.ok ((tm'', body'), s)) =>
      rw [hres] at h
      dsimp only at h
      split at h
      · cases h
      · rename_i hmissing
        cases h
        refine ⟨start, s, rfl, fun hnil => ?_, hres, Bool.eq_false_iff.mpr hmissing⟩
        rw [hnil] at hres
        cases hres
        exact hmissing (ofType_missing htype)

variable {tm : ThermalMain}

theorem runs_item (hmode : c.mode = .item ∨ c.mode = .nameLine) (hread : item.read c.tm = some (tm, body)) :
    body.missing = false ∧ ∃ s, s.name = item.name ∧
      runs step c item.lines = some (.ok { c with tm := tm, strings := s, mode := .body body }) := by
  obtain ⟨start, s, htype, hnil, hres, hmissing⟩ := read_eq_some hread
  refine ⟨hmissing, s, (readProperties_name hres).trans rfl, ?_⟩
  have hlines : item.lines = item.lines.take 2 ++ item.properties.map Property.line := rfl
  rw [hlines, runs_itemStart hmode, htype]
  obtain ⟨property, properties, hprops⟩ := List.exists_cons_of_ne_nil hnil
  rw [hprops, readProperties] at hres
  have hprop : (item.start.setLine property.line).readProp.prop ≠ "" := property.prop.nonempty
  dsimp only
  rw [hprops, List.map_cons, runs, step]
  dsimp only
  rw [if_neg hprop, enter]
  obtain ⟨⟨⟨tm', body'⟩, s'⟩, houtcome, hrest⟩ := andThen_eq_ok hres
  rw [houtcome, andThen_ok, andThen_ok]
  refine (runs_properties c tm' body' s' properties).trans ?_
  rw [hrest, andThen_ok]

def afterItem (c : ConfLine) (tm : ThermalMain) (item : Item) (body : ConfBody) (s : Strings) : ConfLine :=
  { tm := tm, conf := c.conf.register item.name c.scenName body, scenName := c.scenName, strings := s }

theorem leave_item (hmissing : body.missing = false) (hname : s.name = item.name) :
    c.leave tm body s = some (.ok (c.afterItem tm item body s)) := by
  rw [leave, hmissing, if_neg Bool.false_ne_true, hname]
  rfl

section
variable {c : ConfLine} {item : Item} {tm : ThermalMain} {body : ConfBody}
  (hmode : c.mode = .item ∨ c.mode = .nameLine) (hread : item.read c.tm = some (tm, body))

include hmode hread

theorem runs_item_blank (blanks : Nat) :
    ∃ s, runs step c (item.lines ++ List.replicate (blanks + 1) []) = some (.ok (c.afterItem tm item body s)) := by
  obtain ⟨hmissing, s, hname, hruns⟩ := runs_item hmode hread
  refine ⟨s, ?_⟩
  rw [runs_append, hruns, andThen_ok, List.replicate_succ, runs]
  refine (congrArg (andThen · _) (leave_item hmissing hname)).trans ?_
  exact settles.runs_settled rfl blanks

theorem runs_item_close : ∃ s, runs step c (item.lines ++ [closeLine]) = some (.ok (c.afterItem tm item body s)) := by
  obtain ⟨hmissing, s, hname, hruns⟩ := runs_item hmode hread
  refine ⟨(s.setLine closeLine).readProp, ?_⟩
  rw [runs_append, hruns, andThen_ok, runs]
  have hleave : c.leave tm body (s.setLine closeLine).readProp =
      some (.ok (c.afterItem tm item body (s.setLine closeLine).readProp)) := leave_item hmissing hname
  exact congrArg (andThen · _) hleave

theorem run_item_gap (last : Bool) (blanks : Nat) (lines : List Line) (hlast : last → lines = []) :
    ∃ s, run c (item.lines ++ gapLines last blanks ++ lines) = run (c.afterItem tm item body s) lines := by
  cases last with
  | false =>
    obtain ⟨s, hs⟩ := runs_item_blank hmode hread blanks
    refine ⟨s, (runFile_append 4 c _ lines).trans ?_⟩
    exact congrArg (andThen · _) hs
  | true =>
    obtain ⟨s, hs⟩ := runs_item_blank hmode hread (blanks + 3)
    refine ⟨s, ?_⟩
    rw [hlast rfl, run_settled rfl, ← hs, List.append_nil, run, runFile, gapLines, if_pos rfl, List.append_assoc,
      List.replicate_append_replicate]

end

theorem step_closeLine (hmode : c.mode = .item) : c.step closeLine = some (.ok { c with
      scenName := "Default", strings := (c.strings.setLine closeLine).readProp, mode := .nameLine }) := by
  obtain ⟨tm, conf, scenName, s, mode⟩ := c
  cases hmode
  rfl

theorem step_openLine (hmode : c.mode = .item) (block : Block) : c.step block.openLine = some (.ok { c with
      scenName := block.name.text
      conf := c.conf.openScenario block.name.text
      strings := { line := [⟨"[", open_ne_empty⟩], prop := "SCEN", value := block.name.text, name := c.strings.name }
      mode := .nameLine }) := by
  obtain ⟨tm, conf, scenName, s, mode⟩ := c
  cases hmode
  rfl

variable {registered : List Registered}

theorem readItems_cons {scenName : String} {items : List (String × Item)}
    (h : readItems tm ((scenName, item) :: items) = some (tm', registered)) :
    ∃ tm₁ body rest, item.read tm = some (tm₁, body) ∧ readItems tm₁ items = some (tm', rest) ∧
      registered = { name := item.name, scenName := scenName, body := body } :: rest := by
  obtain ⟨⟨tm₁, body⟩, hread, h⟩ := Option.bind_eq_some_iff.mp h
  obtain ⟨⟨tm₂, rest⟩, hrest, h⟩ := Option.bind_eq_some_iff.mp h
  cases h
  exact ⟨tm₁, body, rest, hread, hrest, rfl⟩

theorem runs_itemLines {items : List (Item × Nat)} (hmode : c.mode = .item ∨ c.mode = .nameLine) (hitems : items ≠ [])
    (hread : readItems c.tm (items.map fun (item, _) => (c.scenName, item)) = some (tm, registered)) :
    ∃ c', runs step c (itemLines items ++ [closeLine]) = some (.ok c') ∧ c'.tm = tm ∧
      c'.conf.items = c.conf.items ++ registered ∧
      if closedDirectly items then c'.mode = .item ∧ c'.scenName = c.scenName
      else c'.mode = .nameLine ∧ c'.scenName = "Default" ∧ c'.strings.line = [] ∧ c'.strings.prop = "]" := by
  induction items generalizing c registered with
  | nil => exact absurd rfl hitems
  | cons entry items ih =>
    obtain ⟨item, blanks⟩ := entry
    obtain ⟨tm₁, body, rest, hitem, hrest, rfl⟩ := readItems_cons hread
    cases items with
    | nil =>
      cases hrest
      rw [itemLines, itemLines, List.append_nil, List.isEmpty_nil, gapLines, if_pos rfl]
      cases blanks with
      | zero =>
        obtain ⟨s, hs⟩ := runs_item_close hmode hitem
        rw [List.replicate_zero, List.append_nil]
        exact ⟨_, hs, rfl, rfl, rfl, rfl⟩
      | succ blanks =>
        obtain ⟨s, hs⟩ := runs_item_blank hmode hitem blanks
        rw [runs_append, hs, andThen_ok, runs, step_closeLine rfl]
        exact ⟨_, rfl, rfl, rfl, rfl, rfl, rfl, rfl⟩
    | cons next items =>
      obtain ⟨s, hs⟩ := runs_item_blank hmode hitem blanks
      obtain ⟨c', hruns, htm, hregd, hclosed⟩ := ih (c := c.afterItem tm₁ item body s) (.inl rfl)
        (List.cons_ne_nil next items) hrest
      refine ⟨c', ?_, htm, ?_, hclosed⟩
      · rw [itemLines, List.append_assoc, runs_append]
        exact (congrArg (andThen · _) hs).trans hruns
      · rw [hregd, ← List.singleton_append, ← List.append_assoc]
        rfl

end ConfLine

end ExynosHal.Thermal.Parser
