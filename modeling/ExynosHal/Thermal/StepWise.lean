import ExynosHal.Library.Run
import ExynosHal.Thermal.Algo

/-! # Step-wise throttling

The status of an `SS` item is changed by differences of the temperature and restarts from the trigger point at
0.
-/

namespace ExynosHal.Thermal.StepWise
open Library Library.Run

/-- An `SS` item with the level table of its device. -/
structure Item where
  info : SSInfo
  triggerPoint : Int
  clearPoint : Int
  leveltoValue : List String

inductive Event where
  | decision (currentStatus temp : Int)
  | activate
  | deactivate

def Event.InRange : Event → Prop
  | .decision _ temp => IntType.i32.InRange temp
  | _ => True

instance : (event : Event) → Decidable event.InRange
  | .decision _ temp => inferInstanceAs (Decidable (IntType.i32.InRange temp))
  | .activate | .deactivate => isTrue trivial

namespace Item

variable (item : Item)

def outcome (currentStatus temp : Int) (s : AlgoState) : Outcome :=
  item.info.decision item.triggerPoint item.clearPoint item.leveltoValue currentStatus temp s

def step (s : AlgoState) : Event → AlgoState
  | .decision currentStatus temp => (item.outcome currentStatus temp s).next
  | .activate => { s with activeStatus := true }
  | .deactivate => (item.info.deactivate s).next

def degreesRisen (temp : Int) (s : AlgoState) : Int :=
  temp.tdiv 1000 - if s.status = 0 then item.triggerPoint.tdiv 1000 - 1 else s.prevTemperature.tdiv 1000

def TickRunsOut (currentStatus temp : Int) (s : AlgoState) : Prop :=
  item.info.timeTickTrigger ≠ 0 ∧ item.degreesRisen temp s = 0 ∧ currentStatus ≤ item.info.devicePerfFloor ∧
    IntType.i32.convert (s.timeTick + 1) = item.info.timeTickTrigger

instance (currentStatus temp : Int) (s : AlgoState) : Decidable (item.TickRunsOut currentStatus temp s) :=
  inferInstanceAs (Decidable (_ ∧ _))

def asked (currentStatus temp : Int) (s : AlgoState) : Int :=
  IntType.i32.convert (s.status + item.degreesRisen temp s + if item.TickRunsOut currentStatus temp s then 1 else 0)

def statusAt (temp : Int) : Int :=
  if temp < item.clearPoint then 0 else max 0 (temp.tdiv 1000 - item.triggerPoint.tdiv 1000 + 1)

def levelFor (status : Int) : Int :=
  min (min (max (status + item.info.startLevel - 1) 0) (item.leveltoValue.length - 1)) item.info.devicePerfFloor

section
variable {item : Item} {s : AlgoState} {currentStatus temp : Int}

theorem tempDiff_eq : SSInfo.tempDiff item.triggerPoint temp s = item.degreesRisen temp s := by
  rw [SSInfo.tempDiff, degreesRisen]
  split <;> omega

theorem tick_eq : (item.info.tick currentStatus (item.degreesRisen temp s) s.timeTick).2 =
    if item.TickRunsOut currentStatus temp s then 1 else 0 := by
  simp only [SSInfo.tick, TickRunsOut]
  split_ifs <;> simp_all

theorem outcome_below (h : temp < item.clearPoint) : item.outcome currentStatus temp s = item.info.deactivate s := by
  rw [outcome, SSInfo.decision, if_pos h]

theorem outcome_above (h : item.clearPoint ≤ temp) :
    ((item.outcome currentStatus temp s).next.status : Int) = max 0 (item.asked currentStatus temp s) ∧
      (item.outcome currentStatus temp s).next.prevTemperature = temp ∧
      (item.outcome currentStatus temp s).requests =
        if max 0 (item.asked currentStatus temp s) = s.status then []
        else [(item.info.device, item.info.nextValue item.leveltoValue (max 0 (item.asked currentStatus temp s)))] := by
  have hmax := le_max_left 0 (item.asked currentStatus temp s)
  rw [outcome, SSInfo.decision, if_neg (by omega)]
  dsimp only
  rw [tempDiff_eq, tick_eq, ← asked.eq_def item currentStatus temp s]
  split
  · rename_i hsame
    exact ⟨hsame.symm, rfl, rfl⟩
  · exact ⟨Int.toNat_of_nonneg hmax, rfl, rfl⟩

end

def Tracks (s : AlgoState) : Prop :=
  s.status ≠ 0 → (s.status : Int) = s.prevTemperature.tdiv 1000 - item.triggerPoint.tdiv 1000 + 1

section
variable {item : Item} {s : AlgoState}

theorem tdiv_thousand_range {x : Int} (h : IntType.i32.InRange x) : -2147485 < x.tdiv 1000 ∧ x.tdiv 1000 < 2147485 := by
  rw [IntType.inRange_i32] at h
  have hmod := Int.mul_tdiv_add_tmod x 1000
  have hlow := Int.lt_tmod_of_pos x (show (0 : Int) < 1000 by decide)
  have hhigh := Int.tmod_lt_of_pos x (show (0 : Int) < 1000 by decide)
  omega

section
variable (htick : item.info.timeTickTrigger = 0) (htrig : IntType.i32.InRange item.triggerPoint)
include htick htrig

theorem asked_of_tracks (h : item.Tracks s) (currentStatus : Int) {temp : Int} (htemp : IntType.i32.InRange temp) :
    item.asked currentStatus temp s = temp.tdiv 1000 - item.triggerPoint.tdiv 1000 + 1 := by
  have hdistance : (s.status : Int) + item.degreesRisen temp s = temp.tdiv 1000 - item.triggerPoint.tdiv 1000 + 1 := by
    rw [degreesRisen]
    split
    · omega
    · rename_i hpos
      rw [h hpos]
      ring
  have hticks : ¬ item.TickRunsOut currentStatus temp s := fun hruns => hruns.1 htick
  have hrange := tdiv_thousand_range htemp
  have hrange' := tdiv_thousand_range htrig
  rw [asked, if_neg hticks, add_zero, hdistance]
  apply IntType.convert_of_inRange
  rw [IntType.inRange_i32]
  omega

theorem decision_tracks (h : item.Tracks s) (currentStatus : Int) {temp : Int} (htemp : IntType.i32.InRange temp) :
    ((item.step s (.decision currentStatus temp)).status : Int) = item.statusAt temp ∧
      item.Tracks (item.step s (.decision currentStatus temp)) := by
  rw [step, statusAt]
  by_cases hclear : temp < item.clearPoint
  · rw [if_pos hclear, outcome_below hclear]
    exact ⟨rfl, fun hpos => absurd rfl hpos⟩
  · obtain ⟨hstat, hprev, -⟩ := @outcome_above item s currentStatus temp (by omega)
    rw [asked_of_tracks htick htrig h currentStatus htemp] at hstat
    rw [if_neg hclear]
    refine ⟨hstat, fun hpos => ?_⟩
    rw [hprev]
    omega

theorem step_tracks (h : item.Tracks s) {event : Event} (hevent : event.InRange) : item.Tracks (item.step s event) := by
  cases event with
  | decision currentStatus temp => exact (decision_tracks htick htrig h currentStatus hevent).2
  | activate => exact h
  | deactivate => exact fun hpos => absurd rfl hpos

end

theorem tracks_initial : item.Tracks {} :=
  fun hpos => absurd rfl hpos

/-- The status right after each decision. -/
theorem status_run (htick : item.info.timeTickTrigger = 0) (htrig : IntType.i32.InRange item.triggerPoint)
    {events : List Event} (hevents : ∀ event ∈ events, event.InRange) :
    EachStep item.step (fun s event => ∀ currentStatus temp, event = .decision currentStatus temp →
      ((item.step s event).status : Int) = item.statusAt temp) {} events := by
  apply eachStep_of_invariant (I := item.Tracks) (V := fun _ event => event.InRange) _ tracks_initial
    (.of_forall_mem hevents)
  intro s event htracks hevent
  refine ⟨?_, step_tracks htick htrig htracks hevent⟩
  rintro currentStatus temp rfl
  exact (decision_tracks htick htrig htracks currentStatus hevent).1

/-- `SS-LITTLE0_FREQ` of the shipped configuration. -/
def little0Freq : Item where
  info := { device := 0, devicePerfFloor := 5, timeTickTrigger := 0, startLevel := 0 }
  triggerPoint := 57000
  clearPoint := 55000
  leveltoValue := ["2210000", "2106000", "2002000", "1846000", "1742000", "1586000", "1456000", "1300000", "1157000",
    "1053000"]

theorem status_run_little0Freq :
    EachStep little0Freq.step (fun s event => ∀ currentStatus temp, event = .decision currentStatus temp →
      ((little0Freq.step s event).status : Int) = little0Freq.statusAt temp) {}
      [.activate, .decision 0 57000, .decision 0 61000, .decision 4 56999, .deactivate] :=
  status_run rfl (by decide) (by decide)

end

def issuedBy (s : AlgoState) : Event → List (Int × Int)
  | .decision currentStatus temp => (item.outcome currentStatus temp s).requests.map fun r => (temp, r.2)
  | _ => []

def issued : AlgoState → List Event → List (Int × Int)
  | _, [] => []
  | s, event :: events => item.issuedBy s event ++ issued (item.step s event) events

def RequestsLevel (s : AlgoState) (event : Event) : Prop :=
  ∀ r ∈ item.issuedBy s event, item.clearPoint ≤ r.1 → r.2 = item.levelFor (item.step s event).status

def Monotone (events : List Event) : Prop :=
  ∀ r ∈ item.issued {} events, ∀ r' ∈ item.issued {} events, r.1 ≤ r'.1 → r.2 ≤ r'.2

def FallsBelowTable (s : AlgoState) : Event → Prop
  | .decision currentStatus temp =>
    item.clearPoint ≤ temp ∧ max 0 (item.asked currentStatus temp s) ≠ s.status ∧
      item.info.startLevel ≤ 0 ∧ item.asked currentStatus temp s ≤ -item.info.startLevel ∧
      1 < item.leveltoValue.length ∧ 0 < item.info.devicePerfFloor
  | _ => False

/-- The table can be indexed with an `int`. -/
structure HasTable : Prop where
  levels_pos : 0 < item.leveltoValue.length
  levels_le : item.leveltoValue.length ≤ 2147483648
  floor_nonneg : 0 ≤ item.info.devicePerfFloor
  startLevel : IntType.i32.InRange item.info.startLevel

section
variable {item : Item} {s : AlgoState}

theorem nextValue_eq (h : item.HasTable) {n : Int} (hlow : 0 ≤ n) (hhigh : n < 2147483648) :
    item.info.nextValue item.leveltoValue n =
      if n + item.info.startLevel < 1 then min ((item.leveltoValue.length : Int) - 1) item.info.devicePerfFloor
      else item.levelFor n := by
  obtain ⟨hpos, hle, hfloor, hstart⟩ := h
  rw [IntType.inRange_i32] at hstart
  simp only [SSInfo.nextValue, SSInfo.clampLevel, levelFor, IntType.convert, IntType.i32, IntType.u32, if_true,
    Bool.false_eq_true, if_false, Int.bmod_def]
  push_cast
  split_ifs <;> omega

theorem asked_lt (item : Item) (currentStatus temp : Int) (s : AlgoState) :
    item.asked currentStatus temp s < 2147483648 := by
  simp only [asked, IntType.convert, IntType.i32, if_true, Int.bmod_def]
  push_cast
  split_ifs <;> omega

variable {currentStatus temp : Int}

theorem issuedBy_below (hclear : temp < item.clearPoint) :
    item.issuedBy s (.decision currentStatus temp) = [(temp, 0)] := by
  rw [issuedBy, outcome_below hclear]
  rfl

theorem issuedBy_above (hclear : item.clearPoint ≤ temp) :
    item.issuedBy s (.decision currentStatus temp) =
      if max 0 (item.asked currentStatus temp s) = s.status then []
      else [(temp, item.info.nextValue item.leveltoValue (max 0 (item.asked currentStatus temp s)))] := by
  rw [issuedBy, (outcome_above hclear).2.2]
  split <;> rfl

theorem requestsLevel_iff (h : item.HasTable) (event : Event) :
    item.RequestsLevel s event ↔ ¬ item.FallsBelowTable s event := by
  cases event with
  | activate => exact iff_of_true (fun r hr => nomatch hr) not_false
  | deactivate => exact iff_of_true (fun r hr => nomatch hr) not_false
  | decision currentStatus temp =>
    rw [RequestsLevel, FallsBelowTable]
    by_cases hclear : item.clearPoint ≤ temp
    · obtain ⟨hstat, -, -⟩ := @outcome_above item s currentStatus temp hclear
      have hlt := asked_lt item currentStatus temp s
      rw [issuedBy_above hclear, step, hstat]
      split
      · rename_i hsame
        exact iff_of_true (fun r hr => nomatch hr) fun hfalls => hfalls.2.1 hsame
      · rename_i hchanged
        have hval := nextValue_eq h (le_max_left 0 (item.asked currentStatus temp s)) (by omega)
        have hpos := h.levels_pos
        have hfloor := h.floor_nonneg
        simp only [List.mem_singleton, forall_eq, hclear, true_implies, true_and, hval, ne_eq, hchanged,
          not_false_eq_true, levelFor]
        split <;> omega
    · have hbelow : temp < item.clearPoint := by omega
      rw [issuedBy_below hbelow]
      refine iff_of_true ?_ fun hfalls => hclear hfalls.1
      rintro r hr habove
      rw [List.mem_singleton.mp hr] at habove
      exact absurd habove hclear

variable {events : List Event}

theorem forall_issued {Q : Int × Int → Prop}
    (h : EachStep item.step (fun s event => ∀ r ∈ item.issuedBy s event, Q r) s events) :
    ∀ r ∈ item.issued s events, Q r := by
  induction events generalizing s with
  | nil =>
    intro r hr
    cases hr
  | cons event events ih =>
    intro r hr
    rcases List.mem_append.mp hr with hr | hr
    · exact h.1 r hr
    · exact ih h.2 r hr

def FollowsStatus (item : Item) (r : Int × Int) : Prop :=
  r.2 = if r.1 < item.clearPoint then 0 else item.levelFor (item.statusAt r.1)

theorem followsStatus_mono (h : item.HasTable) {r r' : Int × Int} (hr : item.FollowsStatus r)
    (hr' : item.FollowsStatus r') (hle : r.1 ≤ r'.1) : r.2 ≤ r'.2 := by
  have hpos := h.levels_pos
  have hfloor := h.floor_nonneg
  have hquot := Int.tdiv_le_tdiv (show (0 : Int) < 1000 by decide) hle
  rw [hr, hr', levelFor, levelFor, statusAt, statusAt]
  split_ifs <;> omega

theorem issued_monotone (h : item.HasTable) (htick : item.info.timeTickTrigger = 0)
    (htrig : IntType.i32.InRange item.triggerPoint)
    (hevents : ∀ event ∈ events, event.InRange) (hlvls : EachStep item.step item.RequestsLevel {} events) :
    item.Monotone events := by
  have hfollows : EachStep item.step (fun s event => ∀ r ∈ item.issuedBy s event, item.FollowsStatus r) {} events := by
    refine (hlvls.and (status_run htick htrig hevents)).mono ?_
    rintro s event ⟨hlvl, hstat⟩ r hr
    cases event with
    | activate => cases hr
    | deactivate => cases hr
    | decision currentStatus temp =>
      by_cases hclear : temp < item.clearPoint
      · rw [issuedBy_below hclear, List.mem_singleton] at hr
        rw [hr, FollowsStatus, if_pos hclear]
      · obtain ⟨request, -, rfl⟩ := List.mem_map.mp hr
        rw [FollowsStatus, if_neg hclear, ← hstat currentStatus temp rfl]
        exact hlvl (temp, request.2) hr (by omega)
  intro r hr r' hr' hle
  exact followsStatus_mono h (forall_issued hfollows r hr) (forall_issued hfollows r' hr') hle

/-- Every request is the level for its status, and deeper levels are for higher temperatures, in
the runs that never fall below the table. -/
theorem requestsLevel_run_iff (h : item.HasTable) (htrig : IntType.i32.InRange item.triggerPoint)
    {events : List Event} (hevents : ∀ event ∈ events, event.InRange) :
    (EachStep item.step item.RequestsLevel {} events ∧ (item.info.timeTickTrigger = 0 → item.Monotone events)) ↔
      EachStep item.step (fun s event => ¬ item.FallsBelowTable s event) {} events := by
  constructor
  · rintro ⟨hlvls, -⟩
    exact hlvls.mono fun s event => (requestsLevel_iff h event).mp
  · intro hstays
    have hlvls : EachStep item.step item.RequestsLevel {} events :=
      hstays.mono fun s event => (requestsLevel_iff h event).mpr
    exact ⟨hlvls, fun htick => issued_monotone h htick htrig hevents hlvls⟩

theorem little0Freq_hasTable : little0Freq.HasTable where
  levels_pos := by decide
  levels_le := by decide
  floor_nonneg := by decide
  startLevel := by decide

theorem requestsLevel_run_iff_little0Freq :
    (EachStep little0Freq.step little0Freq.RequestsLevel {} [.decision 0 58000, .decision 1 57000, .decision 0 54000] ∧
        (little0Freq.info.timeTickTrigger = 0 →
          little0Freq.Monotone [.decision 0 58000, .decision 1 57000, .decision 0 54000])) ↔
      EachStep little0Freq.step (fun s event => ¬ little0Freq.FallsBelowTable s event) {}
        [.decision 0 58000, .decision 1 57000, .decision 0 54000] :=
  requestsLevel_run_iff little0Freq_hasTable (by decide) (by decide)

/-- A degree less after the trigger point was reached throttles to the floor. -/
theorem falling_temperature_throttles :
    little0Freq.issued {} [.decision 0 57000, .decision 0 56000] = [(57000, 0), (56000, 5)] ∧
      little0Freq.levelFor 0 = 0 ∧
      ¬ (EachStep little0Freq.step little0Freq.RequestsLevel {} [.decision 0 57000, .decision 0 56000] ∧
        (little0Freq.info.timeTickTrigger = 0 → little0Freq.Monotone [.decision 0 57000, .decision 0 56000])) := by
  have hissued : little0Freq.issued {} [.decision 0 57000, .decision 0 56000] = [(57000, 0), (56000, 5)] := by decide
  refine ⟨hissued, by decide, ?_⟩
  rintro ⟨-, hmono⟩
  have hlvls := hmono rfl (56000, 5) (hissued ▸ by decide) (57000, 0) (hissued ▸ by decide) (by decide)
  exact absurd hlvls (by decide)

end

end Item

end ExynosHal.Thermal.StepWise
