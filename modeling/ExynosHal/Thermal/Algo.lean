import ExynosHal.Library.Arith
import ExynosHal.Thermal.Device

/-! # Algorithm items

`Monitor` and `SS` items turn the temperature of their sensor into requests to the
devices. A decision reads everything it needs before its first request, so it is
modelled as an `Outcome` computed from the state and then carried out. There is no
outcome where the source indexes a list of the item past its end.
-/

namespace ExynosHal.Thermal
open Library
open Function (update)

structure MonitorInfo where
  thresholds : List Int
  clrThresholds : List Int
  device : List (List Nat)
  actionInfo : List (List Int)

structure SSInfo where
  device : Nat
  devicePerfFloor : Int
  timeTickTrigger : Int
  startLevel : Int

inductive AlgoKind where
  | monitor (info : MonitorInfo)
  | ss (info : SSInfo)

structure AlgoItem where
  name : String
  sensor : Nat
  thread : Nat
  triggerPoint : Int
  clearPoint : Int
  isNegative : Bool
  kind : AlgoKind

def signed (isNegative : Bool) (x : Int) : Int :=
  if isNegative then -x else x

def AlgoItem.monitor (name : String) (sensor thread : Nat) (isNegative : Bool) (device : List (List Nat))
    (actionInfo : List (List Int)) (thresholds clrThresholds : List Int) : AlgoItem where
  name := name
  sensor := sensor
  thread := thread
  triggerPoint := signed isNegative (thresholds.headD 0)
  clearPoint := signed isNegative (clrThresholds.headD 0)
  isNegative := isNegative
  kind := .monitor {
      thresholds := thresholds.map (signed isNegative)
      clrThresholds := clrThresholds.map (signed isNegative)
      device := device
      actionInfo := actionInfo }

def AlgoItem.ss (name : String) (triggerPoint clearPoint startLevel : Int) (isNegative : Bool)
    (sensor thread device : Nat) (devicePerfFloor timeTickTrigger : Int) : AlgoItem where
  name := name
  sensor := sensor
  thread := thread
  triggerPoint := signed isNegative triggerPoint
  clearPoint := signed isNegative clearPoint
  isNegative := isNegative
  kind := .ss {
      device := device
      devicePerfFloor := devicePerfFloor
      timeTickTrigger := timeTickTrigger
      startLevel := startLevel }

/-- `lastRequest` records the level an `SS` item last passed to `deviceControl`. -/
structure AlgoState where
  activeStatus : Bool := false
  status : Nat := 0
  prevTemperature : Int := 0
  timeTick : Int := 0
  lastRequest : Int := 0

/-- What a call of an item does: the requests it enters, the item afterwards and whether it calls
`thread->deactivate()`. -/
structure Outcome where
  requests : List (Nat × Int)
  next : AlgoState
  stops : Bool

def Outcome.idle (s : AlgoState) : Outcome := { requests := [], next := s, stops := false }

namespace MonitorInfo

def reached (thresholds : List Int) (temp : Int) : Nat := (thresholds.takeWhile fun t => decide (t ≤ temp)).length

def newStatus (m : MonitorInfo) (temp : Int) (status : Nat) : Option Nat :=
  -- At the top level the source reads one threshold too far, but the bound check discards it.
  if status = 0 ∨ (m.thresholds.getD status 0 ≤ temp ∧ status < m.thresholds.length) then
    some (reached m.thresholds temp)
  else
    match m.clrThresholds[status - 1]? with
    | none => none
    | some clr => if temp < clr then some (reached m.clrThresholds temp) else some status

def levelDevices (m : MonitorInfo) (status : Nat) : Option (List Nat) :=
  if status = 0 then some [] else m.device[status - 1]?

def levelRequests (m : MonitorInfo) (status : Nat) : Option (List (Nat × Int)) :=
  if status = 0 then some []
  else
    match m.device[status - 1]?, m.actionInfo[status - 1]? with
    | some devices, some actions => if devices.length ≤ actions.length then some (devices.zip actions) else none
    | _, _ => none

def deactivate (m : MonitorInfo) (s : AlgoState) : Option Outcome :=
  if s.status = 0 then some (.idle s)
  else
    match m.levelDevices s.status with
    | none => none
    | some devices =>
      some {
          requests := devices.map fun d => (d, 0)
          next := { s with activeStatus := false, status := 0 }
          stops := true }

def decision (m : MonitorInfo) (temp : Int) (s : AlgoState) : Option Outcome :=
  match m.newStatus temp s.status with
  | none => none
  | some newStatus =>
    if newStatus = s.status then some (.idle s)
    else if newStatus = 0 then m.deactivate s
    else
      match m.levelDevices s.status, m.levelRequests newStatus with
      | some released, some requested =>
        some {
            requests := released.map (fun d => (d, 0)) ++ requested
            next := { s with status := newStatus }
            stops := false }
      | _, _ => none

end MonitorInfo

namespace SSInfo

def deactivate (ss : SSInfo) (s : AlgoState) : Outcome where
  requests := [(ss.device, 0)]
  next := { s with activeStatus := false, status := 0, timeTick := 0, lastRequest := 0 }
  stops := true

/-- `getLevelCount` returns an `unsigned int`, and the level is compared with it as one. -/
def clampLevel (leveltoValue : List String) (level : Int) : Int :=
  let levelCount := IntType.u32.convert leveltoValue.length
  if levelCount ≤ IntType.u32.convert level then IntType.i32.convert (levelCount - 1) else level

def tempDiff (triggerPoint temp : Int) (s : AlgoState) : Int :=
  if s.status = 0 then temp.tdiv 1000 - triggerPoint.tdiv 1000 + 1
  else temp.tdiv 1000 - s.prevTemperature.tdiv 1000

def tick (ss : SSInfo) (currentStatus tempDiff timeTick : Int) : Int × Int :=
  if ss.timeTickTrigger = 0 then (timeTick, 0)
  else if tempDiff = 0 ∧ currentStatus ≤ ss.devicePerfFloor then
    let timeTick := IntType.i32.convert (timeTick + 1)
    (timeTick, if timeTick = ss.timeTickTrigger then 1 else 0)
  else (0, 0)

def nextValue (ss : SSInfo) (leveltoValue : List String) (nextStatus : Int) : Int :=
  let level := clampLevel leveltoValue (IntType.i32.convert (nextStatus + (ss.startLevel - 1)))
  if level < ss.devicePerfFloor then level else ss.devicePerfFloor

/-- `SS::decision`; `currentStatus` and `leveltoValue` are those of the item's device. -/
def decision (ss : SSInfo) (triggerPoint clearPoint : Int) (leveltoValue : List String) (currentStatus temp : Int)
    (s : AlgoState) : Outcome :=
  if temp < clearPoint then ss.deactivate s
  else
    let diff := tempDiff triggerPoint temp s
    let (timeTick, tickTriggered) := ss.tick currentStatus diff s.timeTick
    let nextStatus := max 0 (IntType.i32.convert (s.status + diff + tickTriggered))
    if nextStatus = s.status then
      { requests := [], next := { s with timeTick := timeTick, prevTemperature := temp }, stops := false }
    else
      let value := ss.nextValue leveltoValue nextStatus
      { requests := [(ss.device, value)]
        next :=
          { s with
            status := nextStatus.toNat, timeTick := 0, prevTemperature := temp, lastRequest := value }
        stops := false }

end SSInfo

/-- `set_point` and `set_point_clr` are those of a virtual sensor, which is switched by its real
`tripSensor`. -/
inductive SensorKind where
  | real
  | virtual (tripSensor : Option Nat) (triggerPoint clearPoint : Int)

structure SensorInfo where
  thread : Nat
  kind : SensorKind

/-- The sensors, devices and items of the env and conf files. `items` are those of the first conf
file, each with its scenario. -/
structure Config where
  algo : Nat → AlgoItem
  device : Nat → DeviceInfo
  sensor : Nat → SensorInfo
  sensors : List Nat
  sensors_nodup : sensors.Nodup
  items : List (Nat × String)
  items_nodup : (items.map Prod.fst).Nodup

structure SensorState where
  temperature : Int := 0
  activeStatus : Bool := false
  activeVirtualSensor : Nat := 0
  oldScen : String := "Default"
  newScen : String := "Default"

/-- `numActive` is the counter of each `SSThread` and `MonitorThread`, `sensorNumActive` of each
`SensorThread`. `algoItems` lists the items registered with their sensors, each with the scenario
it is stored under. -/
structure State where
  algo : Nat → AlgoState
  device : Nat → DeviceState
  numActive : Nat → Nat
  sensor : Nat → SensorState
  sensorNumActive : Nat → Nat
  algoItems : List (Nat × String)

/-- `thermalThread::activate` and `thermalThread::deactivate` on the counters of all threads. -/
def threadActivate (numActive : Nat → Nat) (thread : Nat) : Nat → Nat :=
  update numActive thread (numActive thread + 1)

@[inherit_doc threadActivate]
def threadDeactivate (numActive : Nat → Nat) (thread : Nat) : Nat → Nat :=
  if numActive thread > 0 then update numActive thread (numActive thread - 1) else numActive

namespace State

def itemTemp (c : Config) (st : State) (a : Nat) : Int :=
  signed (c.algo a).isNegative (st.sensor (c.algo a).sensor).temperature

def decisionOutcome (c : Config) (st : State) (a : Nat) : Option Outcome :=
  match (c.algo a).kind with
  | .monitor m => m.decision (st.itemTemp c a) (st.algo a)
  | .ss ss =>
    some (ss.decision (c.algo a).triggerPoint (c.algo a).clearPoint (c.device ss.device).leveltoValue
      (st.device ss.device).currentStatus (st.itemTemp c a) (st.algo a))

def deactivateOutcome (c : Config) (st : State) (a : Nat) : Option Outcome :=
  match (c.algo a).kind with
  | .monitor m => m.deactivate (st.algo a)
  | .ss ss => some (ss.deactivate (st.algo a))

def perform (c : Config) (a : Nat) (st : State) (outcome : Outcome) : Option State :=
  (requestLevels c.device (c.algo a).name outcome.requests st.device).map fun device =>
    { st with
      device := device
      algo := update st.algo a outcome.next
      numActive := if outcome.stops then threadDeactivate st.numActive (c.algo a).thread else st.numActive }

def decision (c : Config) (a : Nat) (st : State) : Option State :=
  if (st.algo a).activeStatus then (st.decisionOutcome c a).bind (st.perform c a) else some st

def deactivate (c : Config) (a : Nat) (st : State) : Option State := (st.deactivateOutcome c a).bind (st.perform c a)

def activate (c : Config) (a : Nat) (st : State) : State := { st with
    algo := update st.algo a { st.algo a with activeStatus := true }
    numActive := threadActivate st.numActive (c.algo a).thread }

end State

/-- Every configured action of a monitor is a level of its device. Report devices have no table. -/
def Config.ActionsInTable (c : Config) : Prop :=
  ∀ a m, (c.algo a).kind = .monitor m → ∀ (i : Nat) devices actions, m.device[i]? = some devices →
    m.actionInfo[i]? = some actions → ∀ r ∈ devices.zip actions, (c.device r.1).kind ≠ .report →
      (c.device r.1).kind ≠ .dummy → 0 ≤ r.2 ∧ r.2 < (c.device r.1).leveltoValue.length

/-- The level an item holds on a device: the action of a monitor's current level, or what an `SS`
item last requested. -/
def AlgoItem.held (item : AlgoItem) (s : AlgoState) (d : Nat) : Int :=
  match item.kind with
  | .monitor m => (actionOn ((m.levelRequests s.status).getD []) d).getD 0
  | .ss ss => if ss.device = d then s.lastRequest else 0

structure Outcome.Sound (item : AlgoItem) (s : AlgoState) (outcome : Outcome) : Prop where
  held : ∀ d, item.held outcome.next d = (actionOn outcome.requests d).getD (item.held s d)
  active : outcome.stops = false → outcome.next.activeStatus = s.activeStatus
  stopped : outcome.stops → outcome.next.activeStatus = false ∧ ∀ d, item.held outcome.next d = 0

section
variable {c : Config} {item : AlgoItem} {s : AlgoState}

theorem Outcome.idle_sound : (Outcome.idle s).Sound item s where
  held _ := rfl
  active _ := rfl
  stopped h := nomatch h

theorem actionOn_zeros (devices : List Nat) (d : Nat) :
    actionOn (devices.map fun d => (d, 0)) d = if d ∈ devices then some 0 else none := by
  cases h : actionOn (devices.map fun d => (d, 0)) d with
  | none =>
    rw [actionOn_eq_none_iff, List.map_map] at h
    rw [if_neg]
    simpa using h
  | some v =>
    obtain ⟨d', hd', heq⟩ := List.mem_map.mp (mem_of_actionOn h)
    cases heq
    rw [if_pos hd']

variable (info : Nat → DeviceInfo)

theorem requestsInTable_nil : RequestsInTable info [] :=
  fun _ hr => nomatch hr

theorem requestsInTable_zeros (devices : List Nat) : RequestsInTable info (devices.map fun d => (d, 0)) := by
  intro r hr _ _
  obtain ⟨d, -, rfl⟩ := List.mem_map.mp hr
  dsimp only
  omega

namespace MonitorInfo

variable {m : MonitorInfo} {requests : List (Nat × Int)}

theorem levelRequests_eq_some {status : Nat} (h : m.levelRequests status = some requests) (hpos : status ≠ 0) :
    ∃ devices actions, m.device[status - 1]? = some devices ∧ m.actionInfo[status - 1]? = some actions ∧
      devices.length ≤ actions.length ∧ requests = devices.zip actions := by
  rw [levelRequests, if_neg hpos] at h
  split at h
  · rename_i devices actions hdevs hactions
    split at h
    · rename_i hlen
      cases h
      exact ⟨devices, actions, hdevs, hactions, hlen, rfl⟩
    · cases h
  · cases h

theorem held_of_notMem (hkind : item.kind = .monitor m) {devices : List Nat}
    (hdevs : m.levelDevices s.status = some devices) {d : Nat} (hd : d ∉ devices) : item.held s d = 0 := by
  have hnone : actionOn ((m.levelRequests s.status).getD []) d = none := by
    rw [actionOn_eq_none_iff]
    intro hmem
    apply hd
    cases hreqs : m.levelRequests s.status with
    | none =>
      rw [hreqs] at hmem
      cases hmem
    | some requests =>
      rw [hreqs, Option.getD_some] at hmem
      by_cases hzero : s.status = 0
      · rw [levelRequests, if_pos hzero] at hreqs
        cases hreqs
        cases hmem
      · obtain ⟨devices', actions, hdevs', -, hlen, rfl⟩ := levelRequests_eq_some hreqs hzero
        rw [levelDevices, if_neg hzero, hdevs'] at hdevs
        cases hdevs
        rwa [List.map_fst_zip hlen] at hmem
  rw [AlgoItem.held, hkind]
  dsimp only
  rw [hnone, Option.getD_none]

theorem held_level_zero (hkind : item.kind = .monitor m) (hzero : s.status = 0) (d : Nat) : item.held s d = 0 := by
  have hdevs : m.levelDevices s.status = some [] := by rw [levelDevices, if_pos hzero]
  exact held_of_notMem hkind hdevs List.not_mem_nil

variable {outcome : Outcome}

theorem deactivate_sound (hkind : item.kind = .monitor m)
    (h : m.deactivate s = some outcome) : outcome.Sound item s := by
  rw [deactivate] at h
  split at h
  · cases h
    exact Outcome.idle_sound
  · split at h
    · cases h
    · rename_i devices hdevs
      cases h
      have hrel (d : Nat) : item.held { s with activeStatus := false, status := 0 } d = 0 :=
        held_level_zero hkind rfl d
      constructor
      · intro d
        refine (hrel d).trans ?_
        dsimp only
        rw [actionOn_zeros]
        split
        · rfl
        · rename_i hd
          rw [Option.getD_none, held_of_notMem hkind hdevs hd]
      · intro hstops
        cases hstops
      · intro _
        exact ⟨rfl, hrel⟩

theorem deactivate_inTable (h : m.deactivate s = some outcome) : RequestsInTable c.device outcome.requests := by
  rw [deactivate] at h
  split at h
  · cases h
    exact requestsInTable_nil c.device
  · split at h
    · cases h
    · cases h
      exact requestsInTable_zeros c.device _

theorem held_level (hkind : item.kind = .monitor m) (hreqs : m.levelRequests s.status = some requests) (d : Nat) :
    item.held s d = (actionOn requests d).getD 0 := by
  rw [AlgoItem.held, hkind]
  dsimp only
  rw [hreqs, Option.getD_some]

variable {temp : Int}

theorem decision_sound (hkind : item.kind = .monitor m)
    (h : m.decision temp s = some outcome) : outcome.Sound item s := by
  rw [decision] at h
  split at h
  · cases h
  · rename_i newStatus _
    split at h
    · cases h
      exact Outcome.idle_sound
    · split at h
      · exact deactivate_sound hkind h
      · split at h
        · rename_i released requested hrel hrequested
          cases h
          constructor
          · intro d
            dsimp only
            rw [held_level hkind hrequested d, actionOn_append, actionOn_zeros]
            -- a device of both levels gets the new action after the release
            cases actionOn requested d with
            | some v => rfl
            | none =>
              split
              · rfl
              · rename_i hd
                rw [Option.none_or, Option.getD_none, Option.getD_none, held_of_notMem hkind hrel hd]
          · intro _
            rfl
          · intro hstops
            cases hstops
        · cases h

theorem decision_inTable (a : Nat) (hkind : (c.algo a).kind = .monitor m) (hactions : c.ActionsInTable)
    (h : m.decision temp s = some outcome) : RequestsInTable c.device outcome.requests := by
  rw [decision] at h
  split at h
  · cases h
  · split at h
    · cases h
      exact requestsInTable_nil c.device
    · split at h
      · exact deactivate_inTable h
      · rename_i hnew
        split at h
        · rename_i released requested _ hrequested
          cases h
          obtain ⟨devices, actions, hdevs, hinfo, -, rfl⟩ := levelRequests_eq_some hrequested hnew
          intro r hr hreport hdummy
          rcases List.mem_append.mp hr with hr | hr
          · exact requestsInTable_zeros c.device released r hr hreport hdummy
          · obtain ⟨-, hhigh⟩ := hactions a m hkind _ devices actions hdevs hinfo r hr hreport hdummy
            omega
        · cases h

end MonitorInfo

namespace SSInfo

variable {ss : SSInfo}

theorem clampLevel_lt (leveltoValue : List String) {level : Int} (hlvl : level < 2147483648) :
    clampLevel leveltoValue level < max 1 leveltoValue.length := by
  simp only [clampLevel, IntType.convert, IntType.u32, IntType.i32, Bool.false_eq_true, if_false, if_true, Int.bmod_def]
  push_cast
  split
  · split <;> omega
  · omega

theorem nextValue_lt (ss : SSInfo) (leveltoValue : List String) (nextStatus : Int) :
    ss.nextValue leveltoValue nextStatus < max 1 leveltoValue.length := by
  have hlvl : IntType.i32.convert (nextStatus + (ss.startLevel - 1)) < 2147483648 := by
    simp only [IntType.convert, IntType.i32, if_true, Int.bmod_def]
    push_cast
    split <;> omega
  have hclamp := clampLevel_lt leveltoValue hlvl
  simp only [nextValue]
  split
  · exact hclamp
  · omega

theorem held_eq (hkind : item.kind = .ss ss) (d : Nat) :
    item.held s d = if ss.device = d then s.lastRequest else 0 := by
  rw [AlgoItem.held, hkind]

theorem actionOn_device (ss : SSInfo) (value : Int) (d : Nat) :
    actionOn [(ss.device, value)] d = if ss.device = d then some value else none := by
  rw [actionOn, actionOn, Option.none_or]

theorem held_request (hkind : item.kind = .ss ss) {next : AlgoState} {value : Int} (hval : next.lastRequest = value)
    (d : Nat) : item.held next d = (actionOn [(ss.device, value)] d).getD (item.held s d) := by
  rw [held_eq hkind, held_eq hkind, actionOn_device, hval]
  split <;> rfl

theorem deactivate_sound (hkind : item.kind = .ss ss) : (ss.deactivate s).Sound item s where
  held := held_request hkind rfl
  active hstops := nomatch hstops
  stopped _ := by
    refine ⟨rfl, fun d => ?_⟩
    rw [held_eq hkind]
    exact ite_self _

theorem decision_sound (hkind : item.kind = .ss ss) (triggerPoint clearPoint : Int) (leveltoValue : List String)
    (currentStatus temp : Int) :
    (ss.decision triggerPoint clearPoint leveltoValue currentStatus temp s).Sound item s := by
  rw [decision]
  split
  · exact deactivate_sound hkind
  · dsimp only
    split
    · constructor
      · intro d
        rw [held_eq hkind, held_eq hkind]
        rfl
      · intro _
        rfl
      · intro hstops
        cases hstops
    · constructor
      · exact held_request hkind rfl
      · intro _
        rfl
      · intro hstops
        cases hstops

theorem decision_inTable (triggerPoint clearPoint currentStatus temp : Int) : RequestsInTable c.device
      (ss.decision triggerPoint clearPoint (c.device ss.device).leveltoValue currentStatus temp s).requests := by
  rw [decision]
  split
  · exact requestsInTable_zeros c.device [ss.device]
  · dsimp only
    split
    · exact requestsInTable_nil c.device
    · intro r hr _ _
      rw [List.mem_singleton] at hr
      subst hr
      exact ss.nextValue_lt _ _

end SSInfo

theorem AlgoItem.held_initial (item : AlgoItem) (d : Nat) : item.held {} d = 0 := by
  cases hkind : item.kind with
  | monitor m => exact MonitorInfo.held_level_zero hkind rfl d
  | ss ss => rw [SSInfo.held_eq hkind, ite_self]

end

namespace State

variable {c : Config} {st st' : State} {a : Nat} {outcome : Outcome}

theorem decisionOutcome_sound (h : st.decisionOutcome c a = some outcome) : outcome.Sound (c.algo a) (st.algo a) := by
  rw [decisionOutcome] at h
  cases hkind : (c.algo a).kind with
  | monitor m =>
    rw [hkind] at h
    exact MonitorInfo.decision_sound hkind h
  | ss ss =>
    rw [hkind] at h
    cases h
    exact SSInfo.decision_sound hkind ..

theorem deactivateOutcome_sound (h : st.deactivateOutcome c a = some outcome) :
    outcome.Sound (c.algo a) (st.algo a) := by
  rw [deactivateOutcome] at h
  cases hkind : (c.algo a).kind with
  | monitor m =>
    rw [hkind] at h
    exact MonitorInfo.deactivate_sound hkind h
  | ss ss =>
    rw [hkind] at h
    cases h
    exact SSInfo.deactivate_sound hkind

theorem decisionOutcome_inTable (hactions : c.ActionsInTable)
    (h : st.decisionOutcome c a = some outcome) : RequestsInTable c.device outcome.requests := by
  rw [decisionOutcome] at h
  cases hkind : (c.algo a).kind with
  | monitor m =>
    rw [hkind] at h
    exact MonitorInfo.decision_inTable a hkind hactions h
  | ss ss =>
    rw [hkind] at h
    cases h
    exact SSInfo.decision_inTable _ _ _ _

theorem deactivateOutcome_inTable (h : st.deactivateOutcome c a = some outcome) :
    RequestsInTable c.device outcome.requests := by
  rw [deactivateOutcome] at h
  cases hkind : (c.algo a).kind with
  | monitor m =>
    rw [hkind] at h
    exact MonitorInfo.deactivate_inTable h
  | ss ss =>
    rw [hkind] at h
    cases h
    exact requestsInTable_zeros c.device [ss.device]

theorem activate_self : (st.activate c a).algo a = { st.algo a with activeStatus := true } := Function.update_self ..

theorem activate_of_ne {b : Nat} (hb : b ≠ a) : (st.activate c a).algo b = st.algo b := Function.update_of_ne hb _ _

theorem held_activate (b d : Nat) : (c.algo b).held ((st.activate c a).algo b) d = (c.algo b).held (st.algo b) d := by
  by_cases hb : b = a
  · subst hb
    rw [activate_self]
    cases hkind : (c.algo b).kind with
    | monitor m => rw [AlgoItem.held, AlgoItem.held, hkind]
    | ss ss => rw [AlgoItem.held, AlgoItem.held, hkind]
  · rw [activate_of_ne hb]

def DevicesSettled (c : Config) (st : State) : Prop :=
  ∀ d, (c.device d).kind ≠ .report → (st.device d).Settled (c.device d)

structure Performed (c : Config) (a : Nat) (outcome : Outcome) (st st' : State) : Prop where
  algo : st'.algo = update st.algo a outcome.next
  numActive : st'.numActive = if outcome.stops then threadDeactivate st.numActive (c.algo a).thread else st.numActive
  sensor : st'.sensor = st.sensor
  sensorNumActive : st'.sensorNumActive = st.sensorNumActive
  algoItems : st'.algoItems = st.algoItems
  device : Requested c.device (c.algo a).name outcome.requests st.device st'.device

theorem perform_performed (h : st.perform c a outcome = some st') : Performed c a outcome st st' := by
  obtain ⟨device, hdev, rfl⟩ := Option.map_eq_some_iff.mp h
  exact ⟨rfl, rfl, rfl, rfl, rfl, requestLevels_requested hdev⟩

theorem perform_settled (hreqs : RequestsInTable c.device outcome.requests)
    (hsettled : st.DevicesSettled c) : ∃ st', st.perform c a outcome = some st' ∧ st'.DevicesSettled c := by
  obtain ⟨device, hdev, hsettled'⟩ := requestLevels_settled (c.algo a).name hsettled hreqs
  rw [perform, hdev, Option.map_some]
  exact ⟨_, rfl, hsettled'⟩

end State

end ExynosHal.Thermal
