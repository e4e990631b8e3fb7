import ExynosHal.Thermal.Algo
import ExynosHal.Thermal.Virtual
import ExynosHal.Thermal.Parser.ConfParse

/-! # Accesses at run time

The decisions of the items, the devices and the virtual sensors of a configuration that has been read, with
every access to a list checked.
-/

namespace ExynosHal.Thermal.Access
open ExynosHal.Thermal.Parser

/-- Why a step has no defined result. -/
inductive Failure where
  | fault (fault : Fault)
  | nullPointer
  deriving DecidableEq

section
variable {α : Type}

def index (xs : List α) (i : Nat) : Except Failure α :=
  match xs[i]? with
  | none => .error (.fault .outOfRange)
  | some x => .ok x

def nonNull : Option α → Except Failure α
  | none => .error .nullPointer
  | some x => .ok x

def computed (r : Except Fault α) : Except Failure α := r.mapError .fault

end

structure Config where
  tm : ThermalMain
  conf : Conf

def Config.device (c : Config) (d : Nat) : DeviceInfo :=
  match c.tm.devices[d]? with
  | none => { kind := .dummy, leveltoValue := [] }
  | some spec => { kind := spec.kind, leveltoValue := spec.leveltoValue }

structure State where
  algo : Nat → AlgoState := fun _ => {}
  device : Nat → DeviceState := fun _ => {}
  temperature : Nat → Int := fun _ => 0

namespace State

def setAlgo (st : State) (a : Nat) (s : AlgoState) : State := { st with algo := Function.update st.algo a s }

def setTemperature (st : State) (s : Nat) (temp : Int) : State :=
  { st with temperature := Function.update st.temperature s temp }

def request (c : Config) (name : String) (requests : List (Nat × Int)) (st : State) : Except Failure State :=
  match requestLevels c.device name requests st.device with
  | none => .error (.fault .outOfRange)
  | some device => .ok { st with device := device }

def itemTemp (st : State) (isNegative : Bool) (sensor : Option Nat) : Except Failure Int := do
  let s ← nonNull sensor
  return signed isNegative (st.temperature s)

end State

structure MonitorLists where
  thresholds : List Int
  clrThresholds : List Int
  device : List (List (Option Nat))
  actionInfo : List (List Int)

namespace MonitorLists

def new (body : MonitorBody) : MonitorLists where
  thresholds := body.thresholds.map (signed body.isNegative)
  clrThresholds := body.thresholdsClr.map (signed body.isNegative)
  device := body.device
  actionInfo := body.actionInfo

variable (m : MonitorLists)

def newStatus (temp : Int) (status : Nat) : Except Failure Nat :=
  if status = 0 then .ok (MonitorInfo.reached m.thresholds temp)
  else do
    let thr ← index m.thresholds status
    if thr ≤ temp ∧ status < m.thresholds.length then return MonitorInfo.reached m.thresholds temp
    else
      let clr ← index m.clrThresholds (status - 1)
      if temp < clr then return MonitorInfo.reached m.clrThresholds temp else return status

def levelDevices (status : Nat) : Except Failure (List Nat) :=
  if status = 0 then .ok []
  else do
    let devices ← index m.device (status - 1)
    devices.mapM nonNull

def levelRequests (status : Nat) : Except Failure (List (Nat × Int)) := do
  let devices ← index m.device (status - 1)
  devices.zipIdx.mapM fun (d, i) => do
    let actions ← index m.actionInfo (status - 1)
    let action ← index actions i
    let d ← nonNull d
    return (d, action)

def deactivate (c : Config) (name : String) (a : Nat) (st : State) : Except Failure State :=
  if (st.algo a).status = 0 then .ok st
  else do
    let released ← m.levelDevices (st.algo a).status
    let st ← st.request c name (released.map fun d => (d, 0))
    return st.setAlgo a { st.algo a with activeStatus := false, status := 0 }

def decision (c : Config) (name : String) (a : Nat) (temp : Int) (st : State) : Except Failure State := do
  let newStatus ← m.newStatus temp (st.algo a).status
  if newStatus = (st.algo a).status then return st
  else if newStatus = 0 then m.deactivate c name a st
  else
    let released ← m.levelDevices (st.algo a).status
    let requested ← m.levelRequests newStatus
    let st ← st.request c name (released.map (fun d => (d, 0)) ++ requested)
    return st.setAlgo a { st.algo a with status := newStatus }

end MonitorLists

def ssInfo (body : SSBody) (device : Nat) : SSInfo where
  device := device
  devicePerfFloor := body.devicePerfFloor
  timeTickTrigger := body.timeTick
  startLevel := body.startLevel

namespace State

def perform (c : Config) (name : String) (a : Nat) (outcome : Outcome) (st : State) : Except Failure State := do
  let st ← st.request c name outcome.requests
  return st.setAlgo a outcome.next

def decideItem (c : Config) (item : Registered) (a : Nat) (st : State) : Except Failure State :=
  match item.body with
  | .monitor body => do
    let temp ← st.itemTemp body.isNegative body.sensor
    (MonitorLists.new body).decision c item.name a temp st
  | .ss body => do
    let temp ← st.itemTemp body.isNegative body.sensor
    let d ← nonNull body.device
    st.perform c item.name a ((ssInfo body d).decision (signed body.isNegative body.setPoint)
      (signed body.isNegative body.setPointClr) (c.device d).leveltoValue (st.device d).currentStatus temp (st.algo a))

def deactivateItem (c : Config) (item : Registered) (a : Nat) (st : State) : Except Failure State :=
  match item.body with
  | .monitor body => (MonitorLists.new body).deactivate c item.name a st
  | .ss body => do
    let d ← nonNull body.device
    st.perform c item.name a ((ssInfo body d).deactivate (st.algo a))

def updateTemp (s : Nat) (sensors : List (Option Nat)) (offsets weights : List Int) (st : State) :
    Except Failure State := do
  let v ← computed (Virtual.new offsets weights)
  let temps ← sensors.mapM fun sensor => do
    let s ← nonNull sensor
    return st.temperature s
  let temp ← computed (v.updateTemp (st.temperature s) temps)
  return st.setTemperature s temp

end State

/-- The calls of the threads, in any order, and the readings of the real sensors. -/
inductive Event where
  | reading (s : Nat) (temp : Int)
  | update (s : Nat)
  | decision (a : Nat)
  | activate (a : Nat)
  | deactivate (a : Nat)

def step (c : Config) (st : State) : Event → Except Failure State
  | .reading s temp => .ok (st.setTemperature s temp)
  | .update s =>
    match c.tm.sensors[s]? with
    | some (.virtual _ _ _ _ _ sensors offsets weights) => st.updateTemp s sensors offsets weights
    | _ => .ok st
  | .decision a =>
    match c.conf.items[a]? with
    | some item => if (st.algo a).activeStatus then st.decideItem c item a else .ok st
    | none => .ok st
  | .activate a => .ok (st.setAlgo a { st.algo a with activeStatus := true })
  | .deactivate a =>
    match c.conf.items[a]? with
    | some item => st.deactivateItem c item a
    | none => .ok st

end ExynosHal.Thermal.Access
