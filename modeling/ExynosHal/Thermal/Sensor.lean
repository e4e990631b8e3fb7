import ExynosHal.Library.Tally
import ExynosHal.Thermal.Algo

/-! # Sensors

A sensor activates the items of its new scenario when their trigger points are
reached and deactivates those of its old one. Temperatures come from outside: every
value a `Real`, `Virtual` or dummy sensor can compute is an input here.
-/

namespace ExynosHal.Thermal
open Library.Tally

namespace State

def items (c : Config) (s : Nat) (scen : String) (st : State) : List Nat :=
  (st.algoItems.filter fun r => decide ((c.algo r.1).sensor = s ∧ r.2 = scen)).map Prod.fst

def setSensor (s : Nat) (sensor : SensorState) (st : State) : State :=
  { st with sensor := Function.update st.sensor s sensor }

def activateTriggered (c : Config) (s : Nat) (st : State) (a : Nat) : State :=
  if (st.algo a).activeStatus = false ∧
      (c.algo a).triggerPoint ≤ signed (c.algo a).isNegative (st.sensor s).temperature then
    st.activate c a
  else st

def traversItems (c : Config) (s : Nat) (st : State) : State :=
  (st.items c s (st.sensor s).newScen).foldl (activateTriggered c s) st

def deactivateActive (c : Config) (st : State) (a : Nat) : Option State :=
  if (st.algo a).activeStatus then st.deactivate c a else some st

def deactivateOldScen (c : Config) (s : Nat) (st : State) : Option State :=
  (st.items c s (st.sensor s).oldScen).foldlM (deactivateActive c) st

def activateSensor (c : Config) (s : Nat) (st : State) : State :=
  if (st.sensor s).activeStatus then st
  else
    { st.setSensor s { st.sensor s with activeStatus := true } with
        sensorNumActive := threadActivate st.sensorNumActive (c.sensor s).thread }

def deactivateSensor (c : Config) (s : Nat) (st : State) : State :=
  if (st.sensor s).activeStatus then
    { st.setSensor s { st.sensor s with activeStatus := false } with
        sensorNumActive := threadDeactivate st.sensorNumActive (c.sensor s).thread }
  else st

end State

def Config.virtualSensors (c : Config) (s : Nat) : List Nat := c.sensors.filter fun v =>
    match (c.sensor v).kind with
    | .real => false
    | .virtual tripSensor _ _ => tripSensor == some s

def Config.isReal (c : Config) (s : Nat) : Bool :=
  match (c.sensor s).kind with
  | .real => true
  | .virtual _ _ _ => false

namespace State

def switchVirtual (c : Config) (s : Nat) (st : State) (v : Nat) : State :=
  match (c.sensor v).kind with
  | .real => st
  | .virtual _ triggerPoint clearPoint =>
    let temperature := (st.sensor s).temperature
    if (st.sensor v).activeStatus = false ∧ temperature > triggerPoint then
      let st := st.activateSensor c v
      st.setSensor s { st.sensor s with activeVirtualSensor := (st.sensor s).activeVirtualSensor + 1 }
    else if (st.sensor v).activeStatus ∧ temperature < clearPoint then
      let st := st.deactivateSensor c v
      st.setSensor s { st.sensor s with activeVirtualSensor := (st.sensor s).activeVirtualSensor - 1 }
    else st

def updateVirtualSensors (c : Config) (s : Nat) (st : State) : State :=
  if (st.sensor s).activeVirtualSensor = (c.virtualSensors s).length then st
  else (c.virtualSensors s).foldl (switchVirtual c s) st

/-- The body of `SensorThread::traverseSensors` for one sensor; `temp` is what `updateTemp` finds. -/
def updateSensor (c : Config) (s : Nat) (temp : Int) (st : State) : State :=
  if (st.sensor s).activeStatus then
    let st := st.setSensor s { st.sensor s with temperature := temp }
    let st := st.traversItems c s
    if c.isReal s then st.updateVirtualSensors c s else st
  else st

end State

def Config.parsed (c : Config) : State where
  algo _ := {}
  device _ := {}
  numActive _ := 0
  sensor _ := {}
  sensorNumActive _ := 0
  algoItems := c.items

def Config.boot (c : Config) : State :=
  c.sensors.foldl (fun st s => if c.isReal s then st.activateSensor c s else st) c.parsed

namespace State

variable {c : Config} {st st' : State}

structure SameItems (st st' : State) : Prop where
  algo : st'.algo = st.algo
  device : st'.device = st.device
  numActive : st'.numActive = st.numActive
  algoItems : st'.algoItems = st.algoItems
  scen : ∀ s, (st'.sensor s).oldScen = (st.sensor s).oldScen ∧ (st'.sensor s).newScen = (st.sensor s).newScen

theorem SameItems.refl (st : State) : SameItems st st := ⟨rfl, rfl, rfl, rfl, fun _ => ⟨rfl, rfl⟩⟩

theorem SameItems.trans {st'' : State} (h : SameItems st st') (h' : SameItems st' st'') : SameItems st st'' where
  algo := h'.algo.trans h.algo
  device := h'.device.trans h.device
  numActive := h'.numActive.trans h.numActive
  algoItems := h'.algoItems.trans h.algoItems
  scen s := ⟨(h'.scen s).1.trans (h.scen s).1, (h'.scen s).2.trans (h.scen s).2⟩

@[simp]
theorem setSensor_self (s : Nat) (sensor : SensorState) : (st.setSensor s sensor).sensor s = sensor := by
  simp only [setSensor, Function.update_self]

@[simp]
theorem setSensor_of_ne {s s' : Nat} (hs : s' ≠ s) (sensor : SensorState) :
    (st.setSensor s sensor).sensor s' = st.sensor s' := by
  simp only [setSensor, Function.update_of_ne hs]

theorem setSensor_sameItems (st : State) (s : Nat) (sensor : SensorState)
    (hold : sensor.oldScen = (st.sensor s).oldScen) (hnew : sensor.newScen = (st.sensor s).newScen) :
    SameItems st (st.setSensor s sensor) := by
  refine ⟨rfl, rfl, rfl, rfl, fun s' => ?_⟩
  by_cases hs : s' = s
  · subst hs
    rw [setSensor_self]
    exact ⟨hold, hnew⟩
  · rw [setSensor_of_ne hs]
    exact ⟨rfl, rfl⟩

theorem activateSensor_sameItems (st : State) (s : Nat) : SameItems st (st.activateSensor c s) := by
  rw [activateSensor]
  split
  · exact .refl st
  · obtain ⟨halgo, hdev, hnum, hitems, hscen⟩ :=
      st.setSensor_sameItems s { st.sensor s with activeStatus := true } rfl rfl
    exact ⟨halgo, hdev, hnum, hitems, hscen⟩

theorem deactivateSensor_sameItems (st : State) (s : Nat) : SameItems st (st.deactivateSensor c s) := by
  rw [deactivateSensor]
  split
  · obtain ⟨halgo, hdev, hnum, hitems, hscen⟩ :=
      st.setSensor_sameItems s { st.sensor s with activeStatus := false } rfl rfl
    exact ⟨halgo, hdev, hnum, hitems, hscen⟩
  · exact .refl st

theorem switchVirtual_sameItems (s : Nat) (st : State) (v : Nat) : SameItems st (switchVirtual c s st v) := by
  rw [switchVirtual]
  split
  · exact .refl st
  · dsimp only
    split
    · exact (activateSensor_sameItems st v).trans (setSensor_sameItems _ s _ rfl rfl)
    · split
      · exact (deactivateSensor_sameItems st v).trans (setSensor_sameItems _ s _ rfl rfl)
      · exact .refl st

theorem updateVirtualSensors_sameItems (s : Nat) (st : State) : SameItems st (st.updateVirtualSensors c s) := by
  rw [updateVirtualSensors]
  split
  · exact .refl st
  · apply List.foldlRecOn
    · exact .refl st
    · intro st' h v _
      exact h.trans (switchVirtual_sameItems s st' v)

theorem boot_sameItems (c : Config) : SameItems c.parsed c.boot := by
  rw [Config.boot]
  apply List.foldlRecOn
  · exact .refl c.parsed
  · intro st h s _
    split
    · exact h.trans (activateSensor_sameItems st s)
    · exact h

theorem mem_items {s : Nat} {scen : String} {a : Nat} :
    a ∈ st.items c s scen ↔ (a, scen) ∈ st.algoItems ∧ (c.algo a).sensor = s := by
  rw [items, List.mem_map]
  constructor
  · rintro ⟨⟨a, scen⟩, hr, rfl⟩
    obtain ⟨hmem, hsensor⟩ := List.mem_filter.mp hr
    obtain ⟨hs, rfl⟩ := of_decide_eq_true hsensor
    exact ⟨hmem, hs⟩
  · rintro ⟨hmem, hs⟩
    exact ⟨(a, scen), List.mem_filter.mpr ⟨hmem, decide_eq_true ⟨hs, rfl⟩⟩, rfl⟩

variable {P : State → Prop}

theorem traversItems_rule {s : Nat}
    (hactivate : ∀ st a, (a, (st.sensor s).newScen) ∈ st.algoItems → (c.algo a).sensor = s →
      (st.algo a).activeStatus = false → P st → P (st.activate c a))
    (hst : P st) : P (st.traversItems c s) := by
  have hloop : (st.traversItems c s).algoItems = st.algoItems ∧ (st.traversItems c s).sensor = st.sensor ∧
      P (st.traversItems c s) := by
    rw [traversItems]
    apply List.foldlRecOn (motive := fun st' : State => st'.algoItems = st.algoItems ∧ st'.sensor = st.sensor ∧ P st')
    · exact ⟨rfl, rfl, hst⟩
    · rintro st' ⟨hitems, hsensor, hst'⟩ a ha
      obtain ⟨hmem, hs⟩ := mem_items.mp ha
      rw [activateTriggered]
      split
      · rename_i hcond
        refine ⟨hitems, hsensor, hactivate st' a ?_ hs hcond.1 hst'⟩
        rw [hitems, hsensor]
        exact hmem
      · exact ⟨hitems, hsensor, hst'⟩
  exact hloop.2.2

theorem updateSensor_rule {s : Nat} (hsame : ∀ st st', SameItems st st' → P st → P st')
    (hactivate : ∀ st a, (a, (st.sensor s).newScen) ∈ st.algoItems → (c.algo a).sensor = s →
      (st.algo a).activeStatus = false → P st → P (st.activate c a))
    (temp : Int) (hst : P st) : P (st.updateSensor c s temp) := by
  rw [updateSensor]
  split
  · dsimp only
    have htemp := hsame _ _ (st.setSensor_sameItems s { st.sensor s with temperature := temp } rfl rfl) hst
    have htravers := traversItems_rule (s := s) hactivate htemp
    split
    · exact hsame _ _ (updateVirtualSensors_sameItems s _) htravers
    · exact htravers
  · exact hst

end State

end ExynosHal.Thermal
