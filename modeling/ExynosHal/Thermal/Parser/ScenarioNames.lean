import ExynosHal.Thermal.Parser.Blocks

/-! # The scenario of an item

`scenName` is set by the first line of a block and reset only by a closing bracket that is read where
an item could start; the line behind such a bracket has to be the name of the next item.
-/

namespace ExynosHal.Thermal.Parser
open Library Library.Fueled
open List (nil_append replicate)

def startsLoose : List Element → Bool
  | .loose _ _ :: _ => true
  | _ => false

def wellPlaced : List Element → Bool
  | [] => true
  | .loose _ _ :: elements => wellPlaced elements
  | .block b blanks :: elements =>
    !b.items.isEmpty && b.gap = 0 && (if closedDirectly b.items then b.name.text = "Default" || !startsLoose elements
        else blanks = 0 && startsLoose elements) &&
      wellPlaced elements

namespace ConfLine

def Registers (c : ConfLine) (lines : List Line) (items : List Registered) : Prop :=
  ∃ c', c.run lines = some (.ok c') ∧ c'.conf.items = c.conf.items ++ items

variable {items : List Registered} {lines lines₁ : List Line} {c c₁ : ConfLine}

theorem Registers.of_run_eq (before : List Registered) (hrun : c.run lines = c₁.run lines₁)
    (hitems : c₁.conf.items = c.conf.items ++ before) :
    c.Registers lines (before ++ items) ↔ c₁.Registers lines₁ items := by
  rw [Registers, Registers, hrun, hitems, List.append_assoc]

theorem Registers.head {item item₁ : Registered}
    (h : c.Registers lines (item :: items)) (hrun : c.run lines = c₁.run lines₁)
    (hitems : c₁.conf.items = c.conf.items ++ [item₁]) : item₁ = item := by
  obtain ⟨c', hc', hregd⟩ := h
  rw [hrun] at hc'
  have hprefix := runs_prefix hc'
  rw [hitems, hregd, List.prefix_append_right_inj, List.cons_prefix_cons] at hprefix
  exact hprefix.1

section
variable {c : ConfLine} {lines : List Line} {items : List Registered} {e : Stop}

theorem not_registers_of_step (h : c.step (lines.headD []) = some (.error e)) : ¬c.Registers lines items := by
  rintro ⟨c', hc', -⟩
  rw [run_eq, h] at hc'
  cases hc'

theorem Registers.next {c₁ : ConfLine} (h : c.Registers lines items) (hstep : c.step (lines.headD []) = some (.ok c₁)) :
    ∃ items₁, c₁.Registers lines.tail items₁ := by
  obtain ⟨c', hc', -⟩ := h
  rw [run_eq, hstep, andThen_ok] at hc'
  have hprefix := runs_prefix hc'
  exact ⟨c'.conf.items.drop c₁.conf.items.length, c', hc', (List.prefix_iff_eq_append.mp hprefix).symm⟩

theorem named_unbracketed {s : Strings} (h : s.name.toList.head? ≠ some '[') :
    c.named s = some (.error (.parseFail failStart)) := by
  rw [named, if_pos (show s.unbracketed = true from decide_eq_true h)]

theorem named_open {s : Strings} (h : s.name = "[") : c.named s = some (.error .undefined) := by
  have hunbracketed : ¬s.unbracketed := by
    rw [Strings.unbracketed, h]
    decide
  have herase : s.eraseBrackets = .error .undefined := by
    rw [Strings.eraseBrackets, h]
    rfl
  rw [named, if_neg hunbracketed, herase, andThen_error]

theorem step_nameLine (hmode : c.mode = .nameLine) (line : Line) :
    c.step line = c.named (c.strings.setLine line).readName := by
  obtain ⟨tm, conf, scenName, s, mode⟩ := c
  cases hmode
  rfl

theorem not_registers_of_named (hmode : c.mode = .nameLine)
    (h : c.named (c.strings.setLine (lines.headD [])).readName = some (.error e)) : ¬c.Registers lines items :=
  not_registers_of_step ((step_nameLine hmode _).trans h)

theorem not_registers_of_unbracketed (hmode : c.mode = .nameLine) (name : String)
    (hname : (c.strings.setLine (lines.headD [])).readName.name = name) (h : name.toList.head? ≠ some '[') :
    ¬c.Registers lines items :=
  not_registers_of_named hmode (named_unbracketed (by rwa [hname]))

theorem not_registers_open (hmode : c.mode = .item) {block : Block} (hblock : block.items = [] ∨ block.gap ≠ 0) :
    ¬c.Registers (block.lines ++ lines) items := by
  intro h
  obtain ⟨items₁, h⟩ := h.next (step_openLine hmode block)
  obtain ⟨name, gap, entries⟩ := block
  cases gap with
  | zero =>
    rcases hblock with hnil | hgap
    · have hentries : entries = [] := hnil
      rw [hentries] at h
      exact not_registers_of_unbracketed rfl "]" rfl (by decide) h
    · exact hgap rfl
  | succ gap => exact not_registers_of_named rfl (named_open rfl) h

theorem eraseBrackets_keeps {s s' : Strings} (h : s.eraseBrackets = .ok s') : s'.line = s.line ∧ s'.prop = s.prop := by
  rw [Strings.eraseBrackets] at h
  split at h
  · cases h
  · cases h
    exact ⟨rfl, rfl⟩

theorem step_algoLine_error {line : Line} (hmode : c.mode = .algoLine) (hline : c.strings.line = [])
    (hprop : c.strings.prop ≠ "algo_type") (hword : ∀ word ∈ line.head?, word.text ≠ "algo_type") :
    c.step line = some (.error (.parseFail failAlgoType)) := by
  obtain ⟨tm, conf, scenName, s, mode⟩ := c
  cases hmode
  have hread : (s.setLine line).readProp.prop ≠ "algo_type" := by
    cases line with
    | nil =>
      have hstay : (s.setLine []).readProp = s := by
        rw [Strings.setLine, List.isEmpty_nil, if_pos rfl, Strings.readProp, hline]
      rwa [hstay]
    | cons word line => exact hword word rfl
  rw [step]
  dsimp only
  rw [if_pos hread]

theorem headD_fileLines (blanks : Nat) (elements : List Element) :
    ∀ word ∈ ((replicate blanks [] ++ fileLines elements).headD []).head?, word.text ≠ "algo_type" := by
  cases blanks with
  | succ blanks => exact nofun
  | zero =>
    cases elements with
    | nil => exact nofun
    | cons element elements =>
      cases element with
      | block b blanks =>
        rintro _ ⟨⟩
        decide
      | loose item blanks =>
        rintro _ ⟨⟩
        exact bracketed_ne item.name (by decide)

theorem not_registers_close (hmode : c.mode = .nameLine) (hline : c.strings.line = []) (hprop : c.strings.prop = "]")
    {blanks : Nat} {elements : List Element} (hnext : blanks ≠ 0 ∨ startsLoose elements = false) :
    ¬c.Registers (replicate blanks [] ++ fileLines elements) items := by
  -- a blank line leaves the name of the item before the bracket
  have hblank {lines : List Line} (hhead : lines.headD [] = [])
      (htail : ∀ word ∈ (lines.tail.headD []).head?, word.text ≠ "algo_type") : ¬c.Registers lines items := by
    intro h
    have hstay : (c.strings.setLine []).readName = c.strings := by
      rw [Strings.setLine, List.isEmpty_nil, if_pos rfl, Strings.readName, hline]
    have hstep : c.step (lines.headD []) = c.named c.strings := by
      rw [hhead, step_nameLine hmode, hstay]
    rw [named] at hstep
    split at hstep
    · exact not_registers_of_step hstep h
    · cases herase : c.strings.eraseBrackets with
      | error _ =>
        rw [herase] at hstep
        exact not_registers_of_step hstep h
      | ok s =>
        rw [herase] at hstep
        obtain ⟨hline', hprop'⟩ := eraseBrackets_keeps herase
        obtain ⟨items₁, h⟩ := h.next hstep
        refine not_registers_of_step (step_algoLine_error rfl (hline'.trans hline) ?_ htail) h
        dsimp only
        rw [hprop', hprop]
        decide
  cases blanks with
  | succ blanks => exact hblank rfl (headD_fileLines blanks elements)
  | zero =>
    cases elements with
    | nil => exact hblank rfl (headD_fileLines 0 [])
    | cons element elements =>
      cases element with
      | block b blanks => exact not_registers_of_unbracketed hmode "SCEN" rfl (by decide)
      | loose item blanks =>
        rcases hnext with hblanks | hloose
        · exact absurd rfl hblanks
        · cases hloose

end

theorem readItems_append {tm tm' : ThermalMain} {before after : List (String × Item)}
    (h : readItems tm (before ++ after) = some (tm', items)) :
    ∃ tm₁ first rest, readItems tm before = some (tm₁, first) ∧ readItems tm₁ after = some (tm', rest) ∧
      items = first ++ rest := by
  induction before generalizing tm items with
  | nil => exact ⟨tm, [], items, rfl, h, rfl⟩
  | cons entry before ih =>
    obtain ⟨scenName, item⟩ := entry
    obtain ⟨tm₁, body, others, hitem, hothers, rfl⟩ := readItems_cons h
    obtain ⟨tm₂, first, rest, hfst, hrest, rfl⟩ := ih hothers
    refine ⟨tm₂, { name := item.name, scenName := scenName, body := body } :: first, rest, ?_, hrest, rfl⟩
    rw [readItems, hitem, Option.bind_eq_bind, Option.bind_some]
    dsimp only
    rw [hfst]
    rfl

variable {c : ConfLine} {tm : ThermalMain}

theorem run_block {block : Block} (hmode : c.mode = .item) (hitems : block.items ≠ []) (hgap : block.gap = 0)
    (hread : readItems c.tm (block.items.map fun (item, _) => (block.name.text, item)) = some (tm, items)) :
    ∃ c' : ConfLine, (∀ lines, c.run (block.lines ++ lines) = c'.run lines) ∧ c'.tm = tm ∧
      c'.conf.items = c.conf.items ++ items ∧
      if closedDirectly block.items then c'.mode = .item ∧ c'.scenName = block.name.text
      else c'.mode = .nameLine ∧ c'.scenName = "Default" ∧ c'.strings.line = [] ∧ c'.strings.prop = "]" := by
  have hopened : (c.conf.openScenario block.name.text).items = c.conf.items := by
    rw [Conf.openScenario]
    split <;> rfl
  obtain ⟨c', hruns, htm, hregd, hclosed⟩ := runs_itemLines (c := { c with
    scenName := block.name.text
    conf := c.conf.openScenario block.name.text
    strings := { line := [⟨"[", open_ne_empty⟩], prop := "SCEN", value := block.name.text, name := c.strings.name }
    mode := .nameLine }) (.inr rfl) hitems hread
  refine ⟨c', fun lines => ?_, htm, ?_, hclosed⟩
  · rw [run_eq, Block.lines, List.cons_append, List.headD_cons, List.tail_cons, step_openLine hmode, andThen_ok, hgap,
      List.replicate_zero, nil_append]
    exact (runFile_append 4 _ _ lines).trans (congrArg (andThen · _) hruns)
  · rw [hregd]
    exact congrArg (· ++ items) hopened

theorem run_blank (hmode : c.mode = .item) (blanks : Nat) (lines : List Line) :
    c.run (replicate blanks [] ++ lines) = c.run lines := by
  have hrank : c.rank = 0 := by rw [rank, hmode]
  exact (runFile_append 4 c _ lines).trans (congrArg (andThen · _) (settles.runs_settled hrank blanks))

theorem registers_blank (hmode : c.mode = .item) (blanks : Nat) (lines : List Line)
    (items : List Registered) : c.Registers (replicate blanks [] ++ lines) items ↔ c.Registers lines items := by
  rw [Registers, Registers, run_blank hmode]

theorem registers_iff {elements : List Element}
    (hmode : c.mode = .item ∨ c.mode = .nameLine ∧ startsLoose elements)
    (hread : readItems c.tm (elements.flatMap Element.placed) = some (tm, items)) :
    c.Registers (fileLines elements) items ↔
      wellPlaced elements ∧ (c.scenName = "Default" ∨ startsLoose elements = false) := by
  induction elements generalizing c items with
  | nil =>
    cases hread
    refine iff_of_true ⟨c, ?_, (List.append_nil _).symm⟩ ⟨rfl, .inr rfl⟩
    rcases hmode with hitem | ⟨-, hloose⟩
    · exact run_settled (by rw [rank, hitem])
    · cases hloose
  | cons element elements ih =>
    cases element with
    | loose item blanks =>
      rw [List.flatMap_cons] at hread
      obtain ⟨tm₁, body, rest, hitem, hrest, rfl⟩ := readItems_cons hread
      have hlast : elements.isEmpty → fileLines elements = [] := by
        rw [List.isEmpty_iff]
        rintro rfl
        rfl
      obtain ⟨s, hs⟩ := run_item_gap (hmode.imp_right And.left) hitem elements.isEmpty blanks (fileLines elements) hlast
      by_cases hdefault : c.scenName = "Default"
      · refine (Registers.of_run_eq [_] hs ?_).trans ((ih (.inl rfl) hrest).trans ?_)
        · rw [← hdefault]
          rfl
        · exact and_congr_right fun _ => iff_of_true (.inl hdefault) (.inl hdefault)
      · refine iff_of_false (fun h => hdefault ?_) ?_
        · exact congrArg Registered.scenName (h.head hs rfl)
        · rintro ⟨-, h | h⟩
          · exact hdefault h
          · cases h
    | block b blanks =>
      have hitem : c.mode = .item := by
        rcases hmode with hitem | ⟨-, hloose⟩
        · exact hitem
        · cases hloose
      rw [fileLines, List.append_assoc, wellPlaced]
      by_cases hblock : b.items ≠ [] ∧ b.gap = 0
      · obtain ⟨hnonempty, hgap⟩ := hblock
        rw [List.flatMap_cons] at hread
        obtain ⟨tm₁, first, rest, hfst, hrest, rfl⟩ := readItems_append hread
        obtain ⟨c', hrun, htm, hregd, hclosed⟩ := run_block hitem hnonempty hgap hfst
        rw [← htm] at hrest
        rw [Registers.of_run_eq _ (hrun _) hregd, decide_eq_true hgap, Bool.and_true, Bool.and_eq_true,
          Bool.and_eq_true, and_iff_left (.inr rfl)]
        have hsome : (!b.items.isEmpty) := by rwa [Bool.not_eq_true', List.isEmpty_eq_false_iff]
        rw [and_iff_right hsome]
        cases hdirect : closedDirectly b.items with
        | true =>
          rw [hdirect, if_pos rfl] at hclosed
          obtain ⟨hitem', hscen⟩ := hclosed
          rw [registers_blank hitem', ih (.inl hitem') hrest, hscen, if_pos rfl, Bool.or_eq_true, decide_eq_true_eq,
            Bool.not_eq_true', and_comm]
        | false =>
          rw [hdirect, if_neg Bool.false_ne_true] at hclosed
          obtain ⟨hname, hscen, hline, hprop⟩ := hclosed
          rw [if_neg Bool.false_ne_true, Bool.and_eq_true, decide_eq_true_eq]
          by_cases hnext : blanks = 0 ∧ startsLoose elements
          · obtain ⟨rfl, hloose⟩ := hnext
            rw [List.replicate_zero, nil_append, ih (.inr ⟨hname, hloose⟩) hrest, and_iff_left (.inl hscen),
              and_iff_right ⟨rfl, hloose⟩]
          · refine iff_of_false (not_registers_close hname hline hprop ?_) fun h => hnext h.1
            rcases not_and_or.mp hnext with h | h
            · exact .inl h
            · exact .inr (Bool.eq_false_iff.mpr h)
      · refine iff_of_false (not_registers_open hitem ?_) ?_
        · rcases not_and_or.mp hblock with h | h
          · exact .inl (not_not.mp h)
          · exact .inr h
        · rintro ⟨h, -⟩
          rw [Bool.and_eq_true, Bool.and_eq_true, Bool.and_eq_true, Bool.not_eq_true', List.isEmpty_eq_false_iff,
            decide_eq_true_eq] at h
          exact hblock h.1.1

end ConfLine

/-- A conf file of blocks and loose items whose items can all be read registers each under the block
it stands in if and only if the file is well placed. -/
theorem confParse_scenarios_iff {tm tm' : ThermalMain} {elements : List Element} {items : List Registered}
    (hread : readItems tm (elements.flatMap Element.placed) = some (tm', items)) (blanks : Nat) :
    (∃ tm' conf, (confParse tm { opened := true, lines := replicate blanks [] ++ fileLines elements }).result =
        some (.ok (tm', conf)) ∧ conf.items = items) ↔ wellPlaced elements := by
  have hregs := ConfLine.registers_iff (c := { tm := tm }) (.inl rfl) hread
  rw [and_iff_left (.inl rfl), ← ConfLine.registers_blank rfl blanks] at hregs
  rw [← hregs, result_confParse]
  constructor
  · rintro ⟨tm', conf, hres, rfl⟩
    obtain ⟨c', hrun, hok⟩ := andThen_eq_ok hres
    cases hok
    exact ⟨c', hrun, (nil_append _).symm⟩
  · rintro ⟨c', hrun, hitems⟩
    refine ⟨c'.tm, c'.conf, ?_, hitems.trans (nil_append _)⟩
    rw [hrun, andThen_ok]

section

def anyName : ThermalMain := { sensorMap := fun _ => some 0, deviceMap := fun _ => some (some 0) }

def gpuItem : Item := {
    name := "SS-GPU"
    algoType := ⟨"ss", ne_of_beq_false rfl⟩
    properties := [{
         prop := ⟨"sensor", ne_of_beq_false rfl⟩, values := [⟨"therm_soc", ne_of_beq_false rfl⟩]
         notClosing := ne_of_beq_false rfl },
       { prop := ⟨"device", ne_of_beq_false rfl⟩, values := [⟨"gpu_freq", ne_of_beq_false rfl⟩]
         notClosing := ne_of_beq_false rfl },
       { prop := ⟨"set_point", ne_of_beq_false rfl⟩, values := [⟨"68000", ne_of_beq_false rfl⟩]
         notClosing := ne_of_beq_false rfl },
       { prop := ⟨"set_point_clr", ne_of_beq_false rfl⟩, values := [⟨"63000", ne_of_beq_false rfl⟩]
         notClosing := ne_of_beq_false rfl }] }

def cameraFile : List Element :=
  [.block { name := ⟨"Camera", ne_of_beq_false rfl⟩, gap := 0, items := [(gpuItem, 0)] } 1,
   .block { name := ⟨"Default", ne_of_beq_false rfl⟩, gap := 0, items := [(gpuItem, 0)] } 0,
   .loose gpuItem 0]

theorem confParse_scenarios_iff_camera :
    (∃ tm' conf, (confParse anyName { opened := true, lines := replicate 0 [] ++ fileLines cameraFile }).result =
        some (.ok (tm', conf)) ∧ conf.items = ["Camera", "Default", "Default"].map fun scenName =>
          { name := "SS-GPU", scenName := scenName
            body := .ss { setPoint := 68000, setPointClr := 63000, sensor := some 0, device := some 0 } }) ↔
      wellPlaced cameraFile :=
  confParse_scenarios_iff rfl 0

def scenarios (r : Option (Except Stop (ThermalMain × Conf))) : Option (Except Stop (List (String × String))) :=
  andThen r fun (_, conf) => some (.ok (conf.items.map fun item => (item.name, item.scenName)))

/-- A loose item behind a block whose bracket follows the last property directly is registered under
the block. If the bracket follows a blank line and is followed by one, the file is refused. -/
theorem loose_item_misplaced :
    scenarios (confParse anyName (.ofContent (some ("SCEN Camera [\n[A]\nalgo_type ss\nsensor s\ndevice d\n" ++
          "set_point 2\nset_point_clr 1\n]\n\n" ++
          "[B]\nalgo_type ss\nsensor s\ndevice d\nset_point 2\nset_point_clr 1\n").toList))).result =
        some (.ok [("A", "Camera"), ("B", "Camera")]) ∧
      scenarios (confParse anyName (.ofContent (some ("SCEN Camera [\n[A]\nalgo_type ss\nsensor s\ndevice d\n" ++
          "set_point 2\nset_point_clr 1\n\n]\n\n" ++
          "[B]\nalgo_type ss\nsensor s\ndevice d\nset_point 2\nset_point_clr 1\n").toList))).result =
        some (.error (.parseFail failStart)) := by
  constructor
  iterate 2
    rw [File.ofContent, result_confParse, scenarios, andThen_assoc]
    decide +kernel

end

end ExynosHal.Thermal.Parser
