import ExynosHal.Library.Words
import Mathlib.Data.List.Forall2
import Mathlib.Data.List.ReduceOption
import Mathlib.Tactic

/-! # The CPU usage of the thermal HAL

`getCpuUsage`: a vector with an element for each online node of a CPU, filled from the lines of `/proc/stat`.
-/

namespace ExynosHal.ThermalHal.CpuUsage

abbrev Line := List Char

/-- `std::stringstream`, by what is left of its text. `str` sets the text and does not clear the flags. -/
structure Stream where
  text : List Char
  eofbit : Bool
  failbit : Bool
  deriving DecidableEq

def Stream.good (s : Stream) : Bool := !s.eofbit && !s.failbit

def Stream.failed (s : Stream) : Stream := { s with eofbit := s.eofbit || s.good, failbit := true }

def readWord (value : List Char) (s : Stream) : List Char × Stream :=
  let text := s.text.dropWhile isspace
  if s.good ∧ text ≠ [] then
    (text.takeWhile fun c => !isspace c,
      ⟨text.dropWhile fun c => !isspace c, (text.dropWhile fun c => !isspace c).isEmpty, false⟩)
  else (value, s.failed)

def signed (text : List Char) : Bool := text.head? = some '-' || text.head? = some '+'

/-- `>>` into an `unsigned long long`, which is not written if there is nothing to read. -/
def readCounter (s : Stream) : Option Nat × Stream :=
  let text := s.text.dropWhile isspace
  let body := if signed text then text.tail else text
  let rest := body.dropWhile Char.isDigit
  let value := Nat.ofDigitChars 10 (body.takeWhile Char.isDigit) 0
  if s.good ∧ text ≠ [] then
    if body.takeWhile Char.isDigit = [] then (some 0, ⟨rest, rest.isEmpty, true⟩)
    else if 2 ^ 64 ≤ value then (some (2 ^ 64 - 1), ⟨rest, rest.isEmpty, true⟩)
    else (some (if text.head? = some '-' then (2 ^ 64 - value) % 2 ^ 64 else value), ⟨rest, rest.isEmpty, false⟩)
  else (none, s.failed)

structure Counters where
  user : Option Nat
  nice : Option Nat
  system : Option Nat
  idle : Option Nat
  deriving DecidableEq

def readCounters (s : Stream) : Counters × Stream :=
  let (user, s) := readCounter s
  let (nice, s) := readCounter s
  let (system, s) := readCounter s
  let (idle, s) := readCounter s
  (⟨user, nice, system, idle⟩, s)

/-- An element of the result. A sum is unknown where a counter has not been written. -/
structure Usage where
  name : List Char
  active : Option Nat
  total : Option Nat
  isOnline : Bool
  deriving DecidableEq

def Usage.blank : Usage := ⟨[], some 0, some 0, false⟩

def plus (x y : Option Nat) : Option Nat := do return ((← x) + (← y)) % 2 ^ 64

def Counters.active (c : Counters) : Option Nat := plus (plus c.user c.nice) c.system

structure Vars where
  line : Stream
  value : List Char
  flag : Bool
  deriving DecidableEq

def Vars.start : Vars := ⟨⟨[], false, false⟩, [], true⟩

def cpu : List Char := ['c', 'p', 'u']

def cpu0 : List Char := ['c', 'p', 'u', '0']

/-- The body of the loop, and the element that it fills. -/
def readLine (v : Vars) (str : Line) : Vars × Option Usage :=
  let (value, line) := readWord v.value { v.line with text := str }
  if value ≠ cpu0 ∧ v.flag then ({ line, value, flag := v.flag }, none)
  else if ¬cpu.isPrefixOf value then ({ line, value, flag := true }, none)
  else
    let (counters, line) := readCounters line
    ({ line, value, flag := false },
      some { name := value, active := counters.active, total := plus counters.active counters.idle, isOnline := true })

/-- What each line fills. The loop ends at an empty one. -/
def filled (v : Vars) : List Line → List (Option Usage)
  | [] => []
  | str :: rest => if str = [] then none :: rest.map fun _ =>
    none else (readLine v str).2 :: filled (readLine v str).1 rest

/-- `none` is a write behind the end of the vector. -/
def getCpuUsage (cpuOnlineNodes : Nat) (stat : List Line) : Option (List Usage) :=
  let cpuUsage := (filled .start stat).reduceOption
  if cpuUsage.length ≤
    cpuOnlineNodes then some (cpuUsage ++ List.replicate (cpuOnlineNodes - cpuUsage.length) .blank) else none

/-! ### A line by itself -/

def fresh (line : Line) : Stream := ⟨line, false, false⟩

def firstWord (line : Line) : List Char := (readWord [] (fresh line)).1

def afterWord (line : Line) : Stream := (readWord [] (fresh line)).2

def afterCounters (line : Line) : Stream := (readCounters (afterWord line)).2

def ownCounters (line : Line) : Option (Nat × Nat × Nat × Nat) :=
  match readCounters (afterWord line) with
  | (⟨some user, some nice, some system, some idle⟩, s) => if s.failbit then none else some (user, nice, system, idle)
  | _ => none

def isCpuN (line : Line) : Bool :=
  cpu.isPrefixOf (firstWord line) && firstWord line ≠ cpu && ((firstWord line).drop 3).all Char.isDigit

def FilledFrom (line : Line) (element : Usage) : Prop :=
  ∃ user nice system idle, ownCounters line = some (user, nice, system, idle) ∧
    element = ⟨firstWord line, some (user + nice + system), some (user + nice + system + idle), true⟩

structure LineOk (line : Line) (element : Option Usage) : Prop where
  counted : isCpuN line → element.isSome
  own : ∀ e ∈ element, FilledFrom line e

/-- No write is behind the end, each `cpuN` line fills an element with the sums of its own counters, and an element that
no line fills is that of an offline CPU with a name. -/
structure Complete (cpuOnlineNodes : Nat) (stat : List Line) : Prop where
  inside : (getCpuUsage cpuOnlineNodes stat).isSome
  lines : List.Forall₂ LineOk stat (filled .start stat)
  elements : ∀ cpuUsage ∈ getCpuUsage cpuOnlineNodes stat, ∀ e ∈ cpuUsage,
    some e ∈ filled .start stat ∨ e.isOnline = false ∧ e.name ≠ []

/-! ### The texts that are read well -/

/-- A `cpu0` line, and what begins with `cpu` right behind a counted line. -/
def counts (inside : Bool) (line : Line) : Bool := firstWord line = cpu0 || inside && cpu.isPrefixOf (firstWord line)

def Adds (line : Line) : Prop :=
  ∃ user nice system idle, ownCounters line = some (user, nice, system, idle) ∧ user + nice + system + idle < 2 ^ 64

def Silent (stat : List Line) : Prop := ∀ line ∈ stat, isCpuN line = false

/-- Every `cpuN` line is counted and every counted line has four counters. Behind a line that ends with what is read
of it nothing more is read: no counted line then follows, and behind a counted line nothing at all. -/
def Regular : Bool → List Line → Prop
  | _, [] => True
  | inside, line :: rest =>
    if line = [] then Silent rest
    else if counts inside line then
      Adds line ∧ if (afterCounters line).good then Regular true rest else rest.headD [] = [] ∧ Silent rest
    else
      isCpuN line = false ∧ (inside → firstWord line ≠ []) ∧
        if (afterWord line).good then Regular false rest else Silent rest

def countedLines : Bool → List Line → Nat
  | _, [] => 0
  | inside, line :: rest =>
    if line = [] then 0
    else if counts inside line then countedLines true rest + 1
    else countedLines false rest

theorem readWord_fresh (value : List Char) (line : Line) :
    readWord value (fresh line) = (if firstWord line = [] then value else firstWord line, afterWord line) := by
  unfold firstWord afterWord readWord fresh
  dsimp only
  cases htext : line.dropWhile isspace with
  | nil => simp
  | cons c text =>
    have hc : isspace c = false := by
      have hhead := List.head_dropWhile_not isspace (l := line) (by simp [htext])
      simpa [htext] using hhead
    simp [Stream.good, hc]

theorem readCounters_of_not_good {s : Stream} (h : s.good = false) : (readCounters s).1 = ⟨none, none, none, none⟩ := by
  have hread (s : Stream) (h : s.good = false) : readCounter s = (none, s.failed) := by simp [readCounter, h]
  have hfailed (s : Stream) : s.failed.good = false := by simp [Stream.good, Stream.failed]
  simp [readCounters, hread, h, hfailed]

variable {line : Line}

theorem afterWord_blank (h : firstWord line = []) : afterWord line = (fresh line).failed := by
  unfold firstWord afterWord readWord fresh at *
  dsimp only at *
  cases htext : line.dropWhile isspace with
  | nil => simp
  | cons c text =>
    have hc : isspace c = false := by
      have hhead := List.head_dropWhile_not isspace (l := line) (by simp [htext])
      simpa [htext] using hhead
    simp [htext, Stream.good, hc] at h

theorem ownCounters_blank (h : firstWord line = []) : ownCounters line = none := by
  have hnone := readCounters_of_not_good (s := afterWord line) (by simp [afterWord_blank h, Stream.good, Stream.failed])
  unfold ownCounters
  split
  · rename_i heq
    rw [heq] at hnone
    cases hnone
  · rfl

theorem filledFrom_iff (line : Line) : FilledFrom line ⟨firstWord line, (readCounters (afterWord line)).1.active,
      plus (readCounters (afterWord line)).1.active (readCounters (afterWord line)).1.idle, true⟩ ↔ Adds line := by
  have hcounters : ∀ user nice system idle, ownCounters line = some (user, nice, system, idle) →
      (readCounters (afterWord line)).1 = ⟨some user, some nice, some system, some idle⟩ := by
    intro user nice system idle hown
    unfold ownCounters at hown
    split at hown
    · rename_i heq
      split at hown
      · cases hown
      · cases hown
        rw [heq]
    · cases hown
  constructor
  · rintro ⟨user, nice, system, idle, hown, heq⟩
    refine ⟨user, nice, system, idle, hown, ?_⟩
    have htotal := congrArg Usage.total heq
    simp only [hcounters _ _ _ _ hown, Counters.active, plus] at htotal
    have htotal : _ = user + nice + system + idle := Option.some.inj htotal
    rw [← htotal]
    exact Nat.mod_lt _ (by decide)
  · rintro ⟨user, nice, system, idle, hown, hfits⟩
    refine ⟨user, nice, system, idle, hown, ?_⟩
    have hfst : (user + nice) % 2 ^ 64 = user + nice := Nat.mod_eq_of_lt (by omega)
    have hsnd : (user + nice + system) % 2 ^ 64 = user + nice + system := Nat.mod_eq_of_lt (by omega)
    have hthird : (user + nice + system + idle) % 2 ^ 64 = user + nice + system + idle := Nat.mod_eq_of_lt hfits
    have hplus : ∀ x y : Nat, plus (some x) (some y) = some ((x + y) % 2 ^ 64) := fun _ _ => rfl
    have hact : Counters.active ⟨some user, some nice, some system, some idle⟩ = some (user + nice + system) := by
      change plus (plus (some user) (some nice)) (some system) = _
      rw [hplus, hfst, hplus, hsnd]
    rw [hcounters _ _ _ _ hown, hact]
    change Usage.mk _ _ (plus (some _) (some _)) _ = _
    rw [hplus, hthird]

/-! ### The loop over a stream that can be read -/

/-- What is known of the variables between two lines, as long as the stream can be read. -/
structure Alive (inside : Bool) (v : Vars) : Prop where
  eofbit : v.line.eofbit = false
  failbit : v.line.failbit = false
  flag : v.flag = !inside
  outside : inside = false → v.value ≠ cpu0
  prefixed : inside → cpu.isPrefixOf v.value

theorem Alive.start : Alive false .start := ⟨rfl, rfl, rfl, by decide, by decide⟩

variable {inside : Bool} {v : Vars}

theorem Alive.readWord (h : Alive inside v) (line : Line) : readWord v.value { v.line with text := line } =
      (if firstWord line = [] then v.value else firstWord line, afterWord line) := by
  have hline : ({ v.line with text := line } : Stream) = fresh line := by simp [fresh, h.eofbit, h.failbit]
  rw [hline]
  exact readWord_fresh v.value line

theorem alive_inside {line : Stream} {value : List Char} (hgood : line.good)
    (hbegins : cpu.isPrefixOf value) : Alive true ⟨line, value, false⟩ := by
  simp only [Stream.good, Bool.and_eq_true, Bool.not_eq_true'] at hgood
  exact ⟨hgood.1, hgood.2, rfl, by simp, fun _ => hbegins⟩

theorem alive_outside {line : Stream} {value : List Char} (hgood : line.good) (hval : value ≠ cpu0) :
    Alive false ⟨line, value, true⟩ := by
  simp only [Stream.good, Bool.and_eq_true, Bool.not_eq_true'] at hgood
  exact ⟨hgood.1, hgood.2, rfl, fun _ => hval, by simp⟩

theorem counts_iff : counts inside line ↔ firstWord line = cpu0 ∨ inside ∧ cpu.isPrefixOf (firstWord line) := by
  simp [counts]

theorem prefixed_of_counts (h : counts inside line) : cpu.isPrefixOf (firstWord line) := by
  obtain heq | ⟨-, hbegins⟩ := counts_iff.mp h
  · rw [heq]
    rfl
  · exact hbegins

def ownElement (line : Line) : Usage := ⟨firstWord line, (readCounters (afterWord line)).1.active,
    plus (readCounters (afterWord line)).1.active (readCounters (afterWord line)).1.idle, true⟩

theorem Alive.readLine_counted (h : Alive inside v) (hcounts : counts inside line) :
    readLine v line = (⟨afterCounters line, firstWord line, false⟩, some (ownElement line)) := by
  have hbegins := prefixed_of_counts hcounts
  have hword : firstWord line ≠ [] := by
    intro hnil
    simp [hnil, cpu] at hbegins
  have hskip : ¬(firstWord line ≠ cpu0 ∧ v.flag) := by
    rw [h.flag]
    obtain heq | ⟨rfl, -⟩ := counts_iff.mp hcounts
    · simp [heq]
    · simp
  simp only [readLine, h.readWord, if_neg hword, if_neg hskip, hbegins, not_true_eq_false, if_false]
  rfl

theorem Alive.readLine_skipped (h : Alive inside v)
    (hcounts : counts inside line = false) (hword : inside → firstWord line ≠ []) :
    ∃ value, readLine v line = (⟨afterWord line, value, true⟩, none) ∧ value ≠ cpu0 := by
  refine ⟨if firstWord line = [] then v.value else firstWord line, ?_, ?_⟩
  all_goals simp only [counts, Bool.or_eq_false_iff, decide_eq_false_iff_not] at hcounts
  all_goals obtain ⟨hzero, hbegins⟩ := hcounts
  · simp only [readLine, h.readWord]
    cases inside with
    | false =>
      have hval := h.outside rfl
      split_ifs <;> simp_all [h.flag]
    | true =>
      rw [if_neg (hword rfl)]
      simp_all [h.flag]
  · split_ifs with hnil
    · cases inside with
      | false => exact h.outside rfl
      | true => exact absurd hnil (hword rfl)
    · exact hzero

theorem Alive.readLine_blank (h : Alive true v) (hword : firstWord line = []) : ∃ e, (readLine v line).2 = some e := by
  simp [readLine, h.readWord, hword, h.flag, h.prefixed rfl]

/-! ### The loop over a stream that cannot be read -/

theorem filled_empty (v : Vars) (rest : List Line) (h : line = []) :
    filled v (line :: rest) = (line :: rest).map fun _ => none := by
  simp [filled, h]

theorem readWord_of_not_good (value : List Char) {s : Stream} (h : s.good = false) :
    readWord value s = (value, s.failed) := by
  simp [readWord, h]

theorem filled_closed (hgood : v.line.good = false) (hflag : v.flag) (hval : v.value ≠ cpu0)
    (stat : List Line) : filled v stat = stat.map fun _ => none := by
  induction stat generalizing v with
  | nil => rfl
  | cons line rest ih =>
    have hread : readLine v line = (⟨{ v.line with text := line }.failed, v.value, true⟩, none) := by
      simp [readLine, readWord_of_not_good _ (s := { v.line with text := line }) hgood, hval, hflag]
    have hrest : filled (readLine v line).1 rest = rest.map fun _ => none :=
      ih (by simp [hread, Stream.good, Stream.failed]) (by simp [hread]) (by simpa [hread])
    rw [filled, hrest, hread]
    exact ite_self _

theorem lineOk_none_iff : LineOk line none ↔ isCpuN line = false := by
  constructor
  · intro h
    simpa using h.counted
  · intro h
    exact ⟨fun hn => (by simp [h] at hn), by simp⟩

theorem silent_iff (stat : List Line) : List.Forall₂ LineOk stat (stat.map fun _ => none) ↔ Silent stat := by
  induction stat with
  | nil => simp [Silent]
  | cons line rest ih =>
    rw [List.map_cons, List.forall₂_cons, ih, lineOk_none_iff]
    simp [Silent]

theorem filled_open_iff (hgood : v.line.good = false) (hflag : v.flag = false)
    (hval : cpu.isPrefixOf v.value) (rest : List Line) :
    List.Forall₂ LineOk rest (filled v rest) ↔ rest.headD [] = [] ∧ Silent rest := by
  cases rest with
  | nil => simp [filled, Silent]
  | cons line rest =>
    rw [List.headD_cons]
    by_cases hempty : line = []
    · rw [filled_empty v rest hempty, silent_iff]
      simp [hempty]
    · have hread := readWord_of_not_good v.value (s := { v.line with text := line }) hgood
      have hfailed : { v.line with text := line }.failed.good = false := by simp [Stream.good, Stream.failed]
      refine iff_of_false ?_ (fun h => hempty h.1)
      simp only [filled, if_neg hempty, List.forall₂_cons, not_and_or]
      refine .inl fun hok => ?_
      obtain ⟨user, nice, system, idle, -, heq⟩ := hok.own
        { name := v.value, active := none, total := none, isOnline := true }
        (by simp [readLine, hread, hflag, hval, readCounters_of_not_good hfailed, Counters.active, plus])
      simp at heq

/-! ### The whole text -/

theorem lineOk_ownElement_iff : LineOk line (some (ownElement line)) ↔ Adds line := by
  rw [← filledFrom_iff]
  constructor
  · intro h
    exact h.own _ rfl
  · intro h
    exact ⟨fun _ => rfl, fun e he => by cases he; exact h⟩

theorem forall₂_filled_iff (h : Alive inside v) (stat : List Line) :
    List.Forall₂ LineOk stat (filled v stat) ↔ Regular inside stat := by
  induction stat generalizing inside v with
  | nil => simp [filled, Regular]
  | cons line rest ih =>
    by_cases hempty : line = []
    · rw [filled_empty v rest hempty, Regular, if_pos hempty, silent_iff]
      subst hempty
      have hblank : isCpuN [] = false := by decide
      simp [Silent, hblank]
    rw [filled, if_neg hempty, Regular, if_neg hempty, List.forall₂_cons]
    cases hcounts : counts inside line with
    | true =>
      have hbegins := prefixed_of_counts hcounts
      rw [h.readLine_counted hcounts, lineOk_ownElement_iff, if_pos rfl]
      cases hgood : (afterCounters line).good with
      | true => rw [if_pos rfl, ih (alive_inside hgood hbegins)]
      | false => rw [if_neg (by decide), filled_open_iff hgood rfl hbegins]
    | false =>
      rw [if_neg (by decide)]
      by_cases hblank : inside → firstWord line ≠ []
      · obtain ⟨value, hread, hval⟩ := h.readLine_skipped hcounts hblank
        rw [hread, lineOk_none_iff, and_iff_right hblank]
        cases hgood : (afterWord line).good with
        | true => rw [if_pos rfl, ih (alive_outside hgood hval)]
        | false => rw [if_neg (by decide), filled_closed hgood rfl hval, silent_iff]
      · refine iff_of_false (fun hok => ?_) (fun hregular => hblank hregular.2.1)
        rw [not_forall, not_not] at hblank
        obtain ⟨rfl, hnil⟩ := hblank
        obtain ⟨e, he⟩ := h.readLine_blank hnil
        obtain ⟨user, nice, system, idle, hown, -⟩ := hok.1.own e he
        rw [ownCounters_blank hnil] at hown
        cases hown

theorem countedLines_of_silent {rest : List Line} (h : Silent rest) : countedLines false rest = 0 := by
  induction rest with
  | nil => rfl
  | cons line rest ih =>
    have hline : isCpuN line = false := h line (List.mem_cons_self ..)
    have hcounts : counts false line = false := by
      by_contra hne
      have heq : firstWord line = cpu0 := by simpa [counts] using hne
      rw [isCpuN, heq] at hline
      revert hline
      decide
    rw [countedLines, hcounts, ih fun l hl => h l (List.mem_cons_of_mem _ hl)]
    exact ite_self _

theorem length_reduceOption_none (stat : List Line) :
    (stat.map fun _ => (none : Option Usage)).reduceOption.length = 0 := by
  induction stat with
  | nil => rfl
  | cons line rest ih => rw [List.map_cons, List.reduceOption_cons_of_none, ih]

theorem Regular.length_filled {stat : List Line} (hregular : Regular inside stat)
    (h : Alive inside v) : (filled v stat).reduceOption.length = countedLines inside stat := by
  induction stat generalizing inside v with
  | nil => rfl
  | cons line rest ih =>
    by_cases hempty : line = []
    · rw [filled_empty v rest hempty, countedLines, if_pos hempty, length_reduceOption_none]
    rw [Regular, if_neg hempty] at hregular
    rw [filled, if_neg hempty, countedLines, if_neg hempty]
    cases hcounts : counts inside line with
    | true =>
      rw [hcounts, if_pos rfl] at hregular
      rw [h.readLine_counted hcounts, List.reduceOption_cons_of_some, List.length_cons, if_pos rfl]
      cases hgood : (afterCounters line).good with
      | true =>
        rw [hgood, if_pos rfl] at hregular
        rw [ih hregular.2 (alive_inside hgood (prefixed_of_counts hcounts))]
      | false =>
        rw [hgood, if_neg (by decide)] at hregular
        cases rest with
        | nil => rfl
        | cons next rest =>
          have hnext : next = [] := by simpa using hregular.2.1
          rw [filled_empty _ rest hnext, countedLines, if_pos hnext, length_reduceOption_none]
    | false =>
      rw [hcounts, if_neg (by decide)] at hregular
      obtain ⟨-, hblank, hrest⟩ := hregular
      obtain ⟨value, hread, hval⟩ := h.readLine_skipped hcounts hblank
      rw [hread, List.reduceOption_cons_of_none, if_neg (by decide)]
      cases hgood : (afterWord line).good with
      | true =>
        rw [hgood, if_pos rfl] at hrest
        exact ih hrest (alive_outside hgood hval)
      | false =>
        rw [hgood, if_neg (by decide)] at hrest
        rw [filled_closed hgood rfl hval, length_reduceOption_none, countedLines_of_silent hrest]

theorem readLine_isOnline {e : Usage} (h : (readLine v line).2 = some e) : e.isOnline := by
  unfold readLine at h
  dsimp only at h
  split_ifs at h
  cases h
  rfl

theorem isOnline_of_mem_filled {stat : List Line} {e : Usage} (h : some e ∈ filled v stat) : e.isOnline := by
  induction stat generalizing v with
  | nil => cases h
  | cons line rest ih =>
    rw [filled] at h
    split_ifs at h
    · simp at h
    · obtain heq | hmem := List.mem_cons.mp h
      · exact readLine_isOnline heq.symm
      · exact ih hmem

/-- Reading is in bounds and complete exactly for the texts that are read well and have as many counted lines as
there are nodes. -/
theorem complete_iff (cpuOnlineNodes : Nat) (stat : List Line) :
    Complete cpuOnlineNodes stat ↔ Regular false stat ∧ countedLines false stat = cpuOnlineNodes := by
  have hlen (hregular : Regular false stat) := hregular.length_filled .start
  constructor
  · intro h
    have hregular := (forall₂_filled_iff .start stat).mp h.lines
    have hle : (filled .start stat).reduceOption.length ≤ cpuOnlineNodes := by
      by_contra hlt
      have hinside := h.inside
      simp [getCpuUsage, hlt] at hinside
    refine ⟨hregular, ?_⟩
    by_contra hne
    have hblank := h.elements _ (if_pos hle) .blank (by
      rw [List.mem_append, List.mem_replicate]
      exact .inr ⟨by have := hlen hregular; omega, rfl⟩)
    obtain hmem | ⟨-, hname⟩ := hblank
    · cases isOnline_of_mem_filled hmem
    · exact hname rfl
  · rintro ⟨hregular, hcnt⟩
    have heq := hlen hregular
    have hsome : getCpuUsage cpuOnlineNodes stat = some (filled .start stat).reduceOption := by
      simp [getCpuUsage, heq, hcnt]
    refine ⟨by simp [hsome], (forall₂_filled_iff .start stat).mpr hregular, ?_⟩
    rintro cpuUsage hcpuUsage e he
    rw [hsome] at hcpuUsage
    cases hcpuUsage
    exact .inl (List.reduceOption_mem_iff.mp he)

def twoCpus : List Line :=
  ["cpu  9 9 9 9 9".toList, "cpu0 1 2 3 4 5".toList, "cpu1 6 7 8 9 5".toList, "intr 7 8".toList]

example : getCpuUsage 2 twoCpus =
    some [⟨cpu0, some 6, some 10, true⟩, ⟨"cpu1".toList, some 21, some 30, true⟩] := by decide

/-- With no node for `cpu0`, which is usual as it cannot be taken offline, the vector is empty. -/
theorem no_node_for_cpu0 : ¬Complete 0 twoCpus := by
  intro h
  have hnone : getCpuUsage 0 twoCpus = none := by decide
  simpa [hnone] using h.inside

end ExynosHal.ThermalHal.CpuUsage
