import ExynosHal.Library.Run
import ExynosHal.Thermal.Sensor

/-! # Scenario changes

The scenario thread takes all sensor threads through `changingScen`: every sensor applies the new scenario,
and when all have done so each clears its old one.
-/

namespace ExynosHal.Thermal
open Library.Run

/-- How far a sensor is in `SensorThread::changingScen`. -/
inductive Phase where
  | waiting
  | applied
  | cleared
  deriving DecidableEq

/-- `curScen` is the scenario the sensors have last completed, `target` the one of a change that
is going on. -/
structure Switch where
  st : State
  curScen : String
  target : Option String
  phase : Nat → Phase

def State.addPrefixScenName (pre : String) (st : State) : State :=
  { st with algoItems := st.algoItems.map fun r => (r.1, pre ++ r.2) }

inductive SwitchEvent where
  /-- A round of `traverseSensors(false)`. -/
  | update (s : Nat) (temp : Int)
  | decide (a : Nat)
  | startChange (newScen : String)
  /-- `scenUpdateWithSensorThread(true)`. -/
  | startReload (newScen : String)
  /-- `traverseSensors(true)` for one sensor. -/
  | applyScen (s : Nat) (temp : Int)
  | clearScen (s : Nat)
  /-- The scenario thread has seen every sensor thread done. -/
  | finish
  /-- `confParse` of a new conf file creates an item. -/
  | register (a : Nat) (scen : String)

namespace Switch

def start (target : String) (sw : Switch) : Switch := { sw with target := some target, phase := fun _ => .waiting }

def applyScen (c : Config) (s : Nat) (temp : Int) (scen : String) (sw : Switch) : Switch := { sw with
    st := (sw.st.setSensor s { sw.st.sensor s with newScen := scen }).updateSensor c s temp
    phase := Function.update sw.phase s .applied }

def clearScen (c : Config) (s : Nat) (sw : Switch) : Option Switch := (sw.st.deactivateOldScen c s).map fun st =>
    { sw with
      st := st.setSensor s { st.sensor s with oldScen := (st.sensor s).newScen }
      phase := Function.update sw.phase s .cleared }

def step (c : Config) (sw : Switch) : SwitchEvent → Option Switch
  | .update s temp => some (if s ∈ c.sensors then { sw with st := sw.st.updateSensor c s temp } else sw)
  | .decide a => (sw.st.decision c a).map fun st => { sw with st := st }
  | .startChange newScen => some (if sw.target = none then sw.start newScen else sw)
  | .startReload newScen =>
    some (if sw.target = none then
      { sw.start ("OLDSCEN_" ++ newScen) with st := sw.st.addPrefixScenName "OLDSCEN_" }
    else sw)
  | .applyScen s temp =>
    match sw.target with
    | none => some sw
    | some target =>
      if s ∈ c.sensors ∧ sw.phase s = .waiting then some (sw.applyScen c s temp target) else some sw
  | .clearScen s =>
    if s ∈ c.sensors ∧ sw.phase s = .applied ∧ ∀ s' ∈ c.sensors, sw.phase s' ≠ .waiting then sw.clearScen c s
    else some sw
  | .finish =>
    match sw.target with
    | none => some sw
    | some target =>
      if ∀ s ∈ c.sensors, sw.phase s = .cleared then some { sw with curScen := target, target := none }
      else some sw
  | .register a scen =>
    some (if a ∈ sw.st.algoItems.map Prod.fst then sw
    else { sw with st := { sw.st with algoItems := sw.st.algoItems ++ [(a, scen)] } })

def boot (c : Config) : Switch where
  st := c.boot
  curScen := "Default"
  target := none
  phase _ := .cleared

def run (c : Config) (events : List SwitchEvent) : Option Switch := events.foldlM (step c) (boot c)

def goal (sw : Switch) : String := sw.target.getD sw.curScen

end Switch

def State.requestOf (st : State) (d : Nat) (n : String) : Int := ((st.device d).request.lookup n).getD 0

/-- The device is asked under `n` for what the active item of the scenario with that name wants. -/
structure State.AsksFor (c : Config) (st : State) (scen : String) (d : Nat) (n : String) : Prop where
  wanted : ∀ b, (b, scen) ∈ st.algoItems → (st.algo b).activeStatus → (c.algo b).name = n →
    st.requestOf d n = (c.algo b).held (st.algo b) d
  unwanted : (∀ b, (b, scen) ∈ st.algoItems → (st.algo b).activeStatus → (c.algo b).name ≠ n) →
    st.requestOf d n = 0

structure Switch.OnlyCurrent (c : Config) (sw : Switch) : Prop where
  inactive : ∀ a scen, (a, scen) ∈ sw.st.algoItems → scen ≠ sw.curScen → sw.target ≠ some scen →
    (sw.st.algo a).activeStatus = false
  asks : sw.target = none → ∀ d, (c.device d).kind ≠ .report → ∀ n, sw.st.AsksFor c sw.curScen d n

def DistinctInScen (c : Config) (items : List (Nat × String)) : Prop :=
  ∀ r ∈ items, ∀ r' ∈ items, r.2 = r'.2 → (c.algo r.1).name = (c.algo r'.1).name → r.1 = r'.1

section
variable (c : Config) (sw : Switch)

def RegistersDistinct : SwitchEvent → Prop
  | .register a scen => ∀ r ∈ sw.st.algoItems, r.2 = scen → (c.algo r.1).name ≠ (c.algo a).name
  | _ => True

def AlgoItem.isMonitor (item : AlgoItem) : Bool :=
  match item.kind with
  | .monitor _ => true
  | .ss _ => false

def ReleasesRaised : SwitchEvent → Prop
  | .clearScen s => ∀ a ∈ sw.st.items c s (sw.st.sensor s).oldScen, (sw.st.algo a).activeStatus →
      (c.algo a).isMonitor → 0 < (sw.st.algo a).status
  | _ => True

/-- The item is of the scenario, or its outcome leaves alone every device on which the item of the
scenario with the same name holds a level. -/
def Yields (st : State) (scen : String) (a : Nat) (outcome : Option Outcome) : Prop := (a, scen) ∈ st.algoItems ∨
    ∀ o ∈ outcome, ∀ request ∈ o.requests, (c.device request.1).kind ≠ .report →
      ∀ r ∈ st.algoItems, r.2 = scen → (c.algo r.1).name = (c.algo a).name →
        (c.algo r.1).held (st.algo r.1) request.1 = 0

def OldYields : SwitchEvent → Prop
  | .decide a => (sw.st.algo a).activeStatus = true → Yields c sw.st sw.goal a (sw.st.decisionOutcome c a)
  | .clearScen s => ∀ a ∈ sw.st.items c s (sw.st.sensor s).oldScen, (sw.st.algo a).activeStatus →
      Yields c sw.st sw.goal a (sw.st.deactivateOutcome c a)
  | _ => True

def ReloadsCurrent : SwitchEvent → Prop
  | .startReload newScen => sw.target = none → newScen = sw.curScen
  | _ => True

def SwitchesCleanly (event : SwitchEvent) : Prop :=
  ReleasesRaised c sw event ∧ OldYields c sw event ∧ ReloadsCurrent sw event

instance (event : SwitchEvent) : Decidable (RegistersDistinct c sw event) :=
  match event with
  | .register a scen =>
    inferInstanceAs (Decidable (∀ r ∈ sw.st.algoItems, r.2 = scen → (c.algo r.1).name ≠ (c.algo a).name))
  | .update .. | .decide _ | .startChange _ | .startReload _ | .applyScen .. | .clearScen _ | .finish => isTrue trivial

instance (event : SwitchEvent) : Decidable (ReleasesRaised c sw event) :=
  match event with
  | .clearScen s =>
    inferInstanceAs (Decidable (∀ a ∈ sw.st.items c s (sw.st.sensor s).oldScen, (sw.st.algo a).activeStatus = true →
      (c.algo a).isMonitor → 0 < (sw.st.algo a).status))
  | .update .. | .decide _ | .startChange _ | .startReload _ | .applyScen .. | .finish | .register .. => isTrue trivial

instance (st : State) (scen : String) (a : Nat) (outcome : Option Outcome) : Decidable (Yields c st scen a outcome) :=
  inferInstanceAs (Decidable ((a, scen) ∈ st.algoItems ∨
    ∀ o ∈ outcome, ∀ request ∈ o.requests, (c.device request.1).kind ≠ .report →
      ∀ r ∈ st.algoItems, r.2 = scen → (c.algo r.1).name = (c.algo a).name →
        (c.algo r.1).held (st.algo r.1) request.1 = 0))

instance (event : SwitchEvent) : Decidable (OldYields c sw event) :=
  match event with
  | .decide a =>
    inferInstanceAs (Decidable ((sw.st.algo a).activeStatus = true →
      Yields c sw.st sw.goal a (sw.st.decisionOutcome c a)))
  | .clearScen s =>
    inferInstanceAs (Decidable (∀ a ∈ sw.st.items c s (sw.st.sensor s).oldScen, (sw.st.algo a).activeStatus = true →
      Yields c sw.st sw.goal a (sw.st.deactivateOutcome c a)))
  | .update .. | .startChange _ | .startReload _ | .applyScen .. | .finish | .register .. => isTrue trivial

instance (event : SwitchEvent) : Decidable (ReloadsCurrent sw event) :=
  match event with
  | .startReload newScen => inferInstanceAs (Decidable (sw.target = none → newScen = sw.curScen))
  | .update .. | .decide _ | .startChange _ | .applyScen .. | .clearScen _ | .finish | .register .. => isTrue trivial

instance (event : SwitchEvent) : Decidable (SwitchesCleanly c sw event) :=
  inferInstanceAs (Decidable (_ ∧ _ ∧ _))

end

end ExynosHal.Thermal
