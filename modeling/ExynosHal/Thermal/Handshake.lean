import Mathlib.Logic.Function.Basic

/-! # The handshake of a scenario change

`scenUpdateWithSensorThread` and `changingScen` as threads that run side by side. A wait is entered in one
step and left in another, after a notification or spuriously.
-/

namespace ExynosHal.Thermal.Handshake

/-- What the three rounds of the counter wait for. -/
inductive Rendezvous where
  | stopped
  | applied
  | cleared
  deriving DecidableEq

/-- The argument of `waitForScenThread`, an index into `conds`. -/
inductive WaitStep where
  | zero
  | one
  deriving DecidableEq

/-- Where a sensor thread is. `loop` stands for the whole of `traverseSensors(false)` and the sleep,
up to the test of `isScenChanging`. -/
inductive SensorPc where
  | loop
  | setNeedWait
  | decrement (r : Rendezvous)
  | testZero (r : Rendezvous)
  | notifyScen (r : Rendezvous)
  | testWait (step : WaitStep)
  | beginWait (step : WaitStep)
  | waiting (step : WaitStep) (notified : Bool)
  | setNeedWaitAgain
  | traverseSensors
  | deactivateOldScen
  deriving DecidableEq

/-- The counters are not in the source: they record how often the thread has entered `changingScen`,
reached its first rendezvous, applied a scenario and cleared one. -/
structure SensorThread where
  pc : SensorPc := .loop
  needWait : Bool := false
  isScenChanging : Bool := false
  newScen : String := ""
  entered : Nat := 0
  arrived : Nat := 0
  applied : Nat := 0
  cleared : Nat := 0
  deriving DecidableEq

/-- Where the scenario thread is in `scenUpdateWithSensorThread`; `increment r k` is the head of a loop
over the sensor threads. -/
inductive ScenPc (n : Nat) where
  | idle
  | increment (r : Rendezvous) (k : Nat)
  | setChanging (i : Fin n)
  | wakeupThread (i : Fin n)
  | setNewScen (i : Fin n)
  | clearWait0 (i : Fin n)
  | notify0 (i : Fin n)
  | clearWait1 (i : Fin n)
  | notify1 (i : Fin n)
  | clearChanging (i : Fin n)
  | testCount (r : Rendezvous)
  | beginWait (r : Rendezvous)
  | waiting (r : Rendezvous) (notified : Bool)
  deriving DecidableEq

/-- `lock` is the owner of `numSensorThreadLock`, `changes` the number of changes begun so far. -/
structure State (n : Nat) where
  scen : ScenPc n := .idle
  newScen : String := ""
  sensorThreadsWaitCnt : Int := 0
  lock : Option (Fin n) := none
  changes : Nat := 0
  threads : Fin n → SensorThread := fun _ => {}

inductive Event (n : Nat) where
  | startChange (newScen : String)
  /-- The next step of the scenario thread. -/
  | scenario
  /-- Its wait returns without a notification. -/
  | scenarioSpurious
  | sensor (i : Fin n)
  | sensorSpurious (i : Fin n)

variable {n : Nat}

/-- What follows once `waitForAllSensorThreads` returns. -/
def Rendezvous.nextRound : Rendezvous → ScenPc n
  | .stopped => .increment .applied 0
  | .applied => .increment .cleared 0
  | .cleared => .idle

def Rendezvous.afterIncrement (i : Fin n) : Rendezvous → ScenPc n
  | .stopped => .setChanging i
  | .applied => .setNewScen i
  | .cleared => .clearWait1 i

/-- `conds[step].notify_one()`, which is lost unless the thread is waiting there. -/
def SensorPc.notify (step : WaitStep) : SensorPc → SensorPc
  | .waiting step' notified => .waiting step' (notified || step = step')
  | pc => pc

/-- What follows `sendSignalToScenThreads`. -/
def Rendezvous.afterSignal : Rendezvous → SensorPc
  | .stopped => .testWait .zero
  | .applied => .testWait .one
  | .cleared => .loop

/-- What follows `waitForScenThread`. -/
def WaitStep.afterWait : WaitStep → SensorPc
  | .zero => .setNeedWaitAgain
  | .one => .deactivateOldScen

/-- `cond.notify_one()` of the scenario thread. -/
def ScenPc.notify : ScenPc n → ScenPc n
  | .waiting r _ => .waiting r true
  | pc => pc

def SensorThread.countArrival (t : SensorThread) : Rendezvous → SensorThread
  | .stopped => { t with arrived := t.arrived + 1 }
  | _ => t

namespace State

def setThread (s : State n) (i : Fin n) (t : SensorThread) : State n :=
  { s with threads := Function.update s.threads i t }

def startChange (s : State n) (newScen : String) : Option (State n) :=
  match s.scen with
  | .idle => some { s with scen := .increment .stopped 0, newScen, changes := s.changes + 1 }
  | _ => none

def scenarioStep (s : State n) : Option (State n) :=
  match s.scen with
  | .idle => none
  | .increment r k =>
    if h : k < n then
      some { s with sensorThreadsWaitCnt := s.sensorThreadsWaitCnt + 1, scen := r.afterIncrement ⟨k, h⟩ }
    else some { s with scen := .testCount r }
  | .setChanging i =>
    some { s.setThread i { s.threads i with isScenChanging := true } with scen := .wakeupThread i }
  | .wakeupThread i => some { s with scen := .increment .stopped (i + 1) }
  | .setNewScen i => some { s.setThread i { s.threads i with newScen := s.newScen } with scen := .clearWait0 i }
  | .clearWait0 i => some { s.setThread i { s.threads i with needWait := false } with scen := .notify0 i }
  | .notify0 i =>
    some { s.setThread i { s.threads i with pc := (s.threads i).pc.notify .zero } with
        scen := .increment .applied (i + 1) }
  | .clearWait1 i => some { s.setThread i { s.threads i with needWait := false } with scen := .notify1 i }
  | .notify1 i =>
    some { s.setThread i { s.threads i with pc := (s.threads i).pc.notify .one } with
        scen := .clearChanging i }
  | .clearChanging i =>
    some { s.setThread i { s.threads i with isScenChanging := false } with scen := .increment .cleared (i + 1) }
  | .testCount r =>
    some { s with scen := if s.sensorThreadsWaitCnt > 0 then .beginWait r else r.nextRound }
  | .beginWait r => some { s with scen := .waiting r false }
  | .waiting r notified => if notified then some { s with scen := r.nextRound } else none

def sensorStep (s : State n) (i : Fin n) : Option (State n) :=
  let t := s.threads i
  match t.pc with
  | .loop =>
    if t.isScenChanging then some (s.setThread i { t with pc := .setNeedWait, entered := t.entered + 1 })
    else some s
  | .setNeedWait => some (s.setThread i { t with pc := .decrement .stopped, needWait := true })
  | .decrement r =>
    if s.lock = none then
      some { s.setThread i { t.countArrival r with pc := .testZero r } with
          sensorThreadsWaitCnt := s.sensorThreadsWaitCnt - 1
          lock := some i }
    else none
  | .testZero r =>
    if s.sensorThreadsWaitCnt = 0 then some (s.setThread i { t with pc := .notifyScen r })
    else some { s.setThread i { t with pc := r.afterSignal } with lock := none }
  | .notifyScen r =>
    some { s.setThread i { t with pc := r.afterSignal } with scen := s.scen.notify, lock := none }
  | .testWait step =>
    some (s.setThread i { t with pc := if t.needWait then .beginWait step else step.afterWait })
  | .beginWait step => some (s.setThread i { t with pc := .waiting step false })
  | .waiting step notified => if notified then some (s.setThread i { t with pc := step.afterWait }) else none
  | .setNeedWaitAgain => some (s.setThread i { t with pc := .traverseSensors, needWait := true })
  | .traverseSensors => some (s.setThread i { t with pc := .decrement .applied, applied := t.applied + 1 })
  | .deactivateOldScen => some (s.setThread i { t with pc := .decrement .cleared, cleared := t.cleared + 1 })

def scenarioSpurious (s : State n) : Option (State n) :=
  match s.scen with
  | .waiting r _ => some { s with scen := r.nextRound }
  | _ => none

def sensorSpurious (s : State n) (i : Fin n) : Option (State n) :=
  match (s.threads i).pc with
  | .waiting step _ => some (s.setThread i { s.threads i with pc := step.afterWait })
  | _ => none

def step (s : State n) : Event n → Option (State n)
  | .startChange newScen => s.startChange newScen
  | .scenario => s.scenarioStep
  | .scenarioSpurious => s.scenarioSpurious
  | .sensor i => s.sensorStep i
  | .sensorSpurious i => s.sensorSpurious i

end State

end ExynosHal.Thermal.Handshake
