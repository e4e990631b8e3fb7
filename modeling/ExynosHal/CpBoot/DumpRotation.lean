import Mathlib.Tactic

/-! # The rotation of the crash dumps

`organize_dump_files` of `Log.cpp`.
-/

namespace ExynosHal.CpBoot.DumpRotation

def maxDumpIndex : Int := 20

def cpdumpPath : String := "/data/vendor/log/cbd"

def twoDigits (n : Int) : String :=
  if 0 ≤ n ∧ n < 10 then "0" ++ toString n else toString n

def directory (index : Int) : String := cpdumpPath ++ "/" ++ twoDigits index

/-- `VPROP_CDUMP_INDEX` and `VPROP_CDUMP_LIMIT`, read as integers. -/
structure Properties where
  index : Int
  limit : Int
  deriving DecidableEq

structure Outcome where
  removed : List String
  properties : Properties
  logPath : String
  deriving DecidableEq

def allowedNumDumpFiles (limit : Int) : Int :=
  if limit > maxDumpIndex ∨ limit < 1 then maxDumpIndex else limit

/-- `removal_index` before the loop. -/
def firstRemoval (current allowed : Int) : Int :=
  if current < allowed then maxDumpIndex + current - allowed + 1 else current - allowed

def previous (index : Int) : Int :=
  if index ≠ 0 then index - 1 else maxDumpIndex

def removeDirectory (path : String) : List String :=
  if path.toList.take cpdumpPath.length = cpdumpPath.toList then [path] else []

/-- The loop, with what it removes; `none` if the fuel is not enough. -/
def removeDirectories (current : Int) : Nat → Int → Option (List String)
  | 0, _ => none
  | fuel + 1, removal =>
    if removal = current then some []
    else (removeDirectories current fuel (previous removal)).map (removeDirectory (directory removal) ++ ·)

def nextIndex (current : Int) : Int :=
  if current = maxDumpIndex then 0 else current + 1

def organizeDumpFiles (fuel : Nat) (p : Properties) : Option Outcome :=
  (removeDirectories p.index fuel (firstRemoval p.index (allowedNumDumpFiles p.limit))).map fun removed =>
    { removed
      properties := { index := nextIndex p.index, limit := allowedNumDumpFiles p.limit }
      logPath := directory (nextIndex p.index) }

def Returns (p : Properties) (out : Outcome) : Prop := ∃ fuel, organizeDumpFiles fuel p = some out

def OnCycle (index : Int) : Prop := 0 ≤ index ∧ index ≤ maxDumpIndex

/-- The index is one of the last `count` ones up to the current one, in the cyclic order. -/
def Recent (current count index : Int) : Prop := (current - index) % (maxDumpIndex + 1) < count

/-- `min(limit, 20)`, where a limit outside of 1..20 counts as 20. -/
def kept (limit : Int) : Int :=
  if 1 ≤ limit then min limit maxDumpIndex else maxDumpIndex

def RemovesOld (p : Properties) (out : Outcome) : Prop :=
  ∀ path, path ∈ out.removed ↔ ∃ index, OnCycle index ∧ path = directory index ∧ ¬Recent p.index (kept p.limit) index

/-- Calls one after the other, with a limit for each; every one of them returns and removes the old directories. -/
def Rotates : Int → List Int → Prop
  | _, [] => True
  | index, limit :: limits => ∃ out, Returns ⟨index, limit⟩ out ∧ RemovesOld ⟨index, limit⟩ out ∧
      Rotates out.properties.index limits

variable (limit : Int)

theorem allowedNumDumpFiles_range : 1 ≤ allowedNumDumpFiles limit ∧ allowedNumDumpFiles limit ≤ maxDumpIndex := by
  unfold allowedNumDumpFiles maxDumpIndex
  split <;> omega

theorem kept_eq : kept limit = allowedNumDumpFiles limit := by
  unfold kept allowedNumDumpFiles maxDumpIndex
  split <;> split <;> omega

theorem removeDirectory_directory (index : Int) : removeDirectory (directory index) = [directory index] := by
  rw [removeDirectory, if_pos]
  rw [directory, String.append_assoc, String.toList_append, ← String.length_toList, List.take_left]

variable {current removal : Int}

theorem onCycle_previous (h : OnCycle removal) : OnCycle (previous removal) := by
  unfold OnCycle previous maxDumpIndex at *
  split <;> omega

theorem removeDirectories_onCycle (hcur : OnCycle current) (steps : Nat) (hremoval : OnCycle removal)
    (hsteps : (removal - current) % (maxDumpIndex + 1) = steps) :
    ∃ removed, removeDirectories current (steps + 1) removal = some removed ∧ ∀ path, path ∈ removed ↔
      ∃ index, OnCycle index ∧ path = directory index ∧ 0 < (index - current) % (maxDumpIndex + 1) ∧
        (index - current) % (maxDumpIndex + 1) ≤ steps := by
  induction steps generalizing removal with
  | zero =>
    have hsame : removal = current := by
      unfold OnCycle maxDumpIndex at *
      omega
    refine ⟨[], by rw [removeDirectories, if_pos hsame], fun path => iff_of_false List.not_mem_nil ?_⟩
    rintro ⟨index, -, -, hpos, hle⟩
    omega
  | succ steps ih =>
    have hdiffer : removal ≠ current := by
      rintro rfl
      rw [Int.sub_self, Int.zero_emod] at hsteps
      omega
    have hprev : (previous removal - current) % (maxDumpIndex + 1) = steps := by
      unfold OnCycle previous maxDumpIndex at *
      split <;> omega
    obtain ⟨removed, hremoved, hmem⟩ := ih (onCycle_previous hremoval) hprev
    refine ⟨directory removal :: removed, ?_, fun path => ?_⟩
    · rw [removeDirectories, if_neg hdiffer, hremoved, removeDirectory_directory]
      rfl
    · rw [List.mem_cons, hmem]
      constructor
      · rintro (rfl | ⟨index, hidx, rfl, hpos, hle⟩)
        · exact ⟨removal, hremoval, rfl, by omega, by omega⟩
        · exact ⟨index, hidx, rfl, hpos, by omega⟩
      · rintro ⟨index, hidx, rfl, hpos, hle⟩
        rcases eq_or_ne index removal with rfl | hne
        · exact .inl rfl
        · refine .inr ⟨index, hidx, rfl, hpos, ?_⟩
          unfold OnCycle maxDumpIndex at *
          omega

theorem removeDirectories_offCycle (hcur : ¬OnCycle current) (hremoval : 0 ≤ removal)
    (hbelow : 0 ≤ current → removal < current) (fuel : Nat) : removeDirectories current fuel removal = none := by
  induction fuel generalizing removal with
  | zero => rfl
  | succ fuel ih =>
    have hdiffer : removal ≠ current := by omega
    have hprev : 0 ≤ previous removal ∧ (0 ≤ current → previous removal < current) := by
      unfold OnCycle previous maxDumpIndex at *
      split <;> omega
    rw [removeDirectories, if_neg hdiffer, ih hprev.1 hprev.2, Option.map_none]

theorem onCycle_firstRemoval (hcur : OnCycle current) (limit : Int) :
    OnCycle (firstRemoval current (allowedNumDumpFiles limit)) ∧
      (firstRemoval current (allowedNumDumpFiles limit) - current) % (maxDumpIndex + 1) =
        maxDumpIndex + 1 - allowedNumDumpFiles limit := by
  have hallowed := allowedNumDumpFiles_range limit
  unfold OnCycle firstRemoval maxDumpIndex at *
  split <;> omega

theorem onCycle_nextIndex (hcur : OnCycle current) : OnCycle (nextIndex current) := by
  unfold OnCycle nextIndex maxDumpIndex at *
  split <;> omega

variable {p : Properties} {out : Outcome}

theorem index_of_returns (h : Returns p out) : out.properties.index = nextIndex p.index := by
  obtain ⟨fuel, h⟩ := h
  obtain ⟨removed, -, rfl⟩ := Option.map_eq_some_iff.mp h
  rfl

theorem removesOld_of_onCycle (h : OnCycle p.index) : ∃ out, Returns p out ∧ RemovesOld p out := by
  obtain ⟨hfst, hsteps⟩ := onCycle_firstRemoval h p.limit
  have hallowed := allowedNumDumpFiles_range p.limit
  obtain ⟨steps, hcnt⟩ : ∃ steps : Nat, maxDumpIndex + 1 - allowedNumDumpFiles p.limit = steps :=
    Int.eq_ofNat_of_zero_le (by omega)
  obtain ⟨removed, hremoved, hmem⟩ := removeDirectories_onCycle h steps hfst (hsteps.trans hcnt)
  refine ⟨_, ⟨steps + 1, congrArg (Option.map _) hremoved⟩, fun path => (hmem path).trans ?_⟩
  refine exists_congr fun index => and_congr_right fun hidx => and_congr_right fun _ => ?_
  rw [Recent, kept_eq]
  unfold OnCycle maxDumpIndex at *
  omega

theorem not_onCycle_of_returns (h : Returns p out) (hidx : ¬OnCycle p.index) : ¬OnCycle out.properties.index := by
  rw [index_of_returns h]
  intro hnext
  obtain ⟨fuel, h⟩ := h
  have hallowed := allowedNumDumpFiles_range p.limit
  have hloop : removeDirectories p.index fuel (firstRemoval p.index (allowedNumDumpFiles p.limit)) = none := by
    refine removeDirectories_offCycle hidx ?_ ?_ fuel
    · unfold OnCycle nextIndex firstRemoval maxDumpIndex at *
      split at hnext <;> split <;> omega
    · unfold OnCycle firstRemoval maxDumpIndex at *
      split <;> omega
  rw [organizeDumpFiles, hloop] at h
  cases h

theorem rotates (limits : List Int) {index : Int} (h : OnCycle index) : Rotates index limits := by
  induction limits generalizing index with
  | nil => trivial
  | cons limit limits ih =>
    obtain ⟨out, hreturns, hremoves⟩ := removesOld_of_onCycle (p := ⟨index, limit⟩) h
    refine ⟨out, hreturns, hremoves, ih ?_⟩
    rw [index_of_returns hreturns]
    exact onCycle_nextIndex h

/-- The call returns with an index of the cycle just when it starts from one, and from 0 on every call keeps the
newest dumps. -/
theorem organizeDumpFiles_keeps_newest (p : Properties) (limits : List Int) :
    ((∃ out, Returns p out ∧ OnCycle out.properties.index) ↔ OnCycle p.index) ∧ Rotates 0 limits := by
  refine ⟨⟨?_, ?_⟩, rotates limits ⟨by decide, by decide⟩⟩
  · rintro ⟨out, hreturns, hnext⟩
    by_contra hidx
    exact not_onCycle_of_returns hreturns hidx hnext
  · intro h
    obtain ⟨out, hreturns, -⟩ := removesOld_of_onCycle h
    exact ⟨out, hreturns, index_of_returns hreturns ▸ onCycle_nextIndex h⟩

theorem index_past_cycle_never_left : ¬∃ out, Returns ⟨21, 5⟩ out := by
  rintro ⟨out, fuel, h⟩
  have hloop : removeDirectories 21 fuel 16 = none :=
    removeDirectories_offCycle (fun h => absurd h.2 (by decide)) (by decide) (by decide) fuel
  have hfst : firstRemoval 21 (allowedNumDumpFiles 5) = 16 := rfl
  rw [organizeDumpFiles, hfst, hloop] at h
  cases h

end ExynosHal.CpBoot.DumpRotation
