import ExynosHal.Thermal.LiveRequests
import ExynosHal.Thermal.Virtual

/-! # Switching virtual sensors

A real sensor activates its virtual sensors above their trigger points and deactivates them below their clear
points.
-/

namespace ExynosHal.Thermal
open Library Library.Run Library.Tally
open Function (update_of_ne update_self)

def Config.PointsOrdered (c : Config) : Prop :=
  ∀ v tripSensor triggerPoint clearPoint, (c.sensor v).kind = .virtual tripSensor triggerPoint clearPoint →
    clearPoint ≤ triggerPoint

def State.activeVirtuals (c : Config) (s : Nat) (st : State) : Nat :=
  (c.virtualSensors s).countP fun v => (st.sensor v).activeStatus

def Follow (c : Config) (vs : List Nat) (temp : Int) (st st' : State) : Prop :=
  ∀ v ∈ vs, ∀ tripSensor triggerPoint clearPoint, (c.sensor v).kind = .virtual tripSensor triggerPoint clearPoint →
      ((st'.sensor v).activeStatus ↔
        triggerPoint < temp ∨ ((st.sensor v).activeStatus ∧ clearPoint ≤ temp))

def Switches (c : Config) (st : State) (event : Event) : Prop :=
  ∀ s temp st', event = .update s temp → s ∈ c.sensors → c.isReal s → step c st event = some st' →
    Follow c (c.virtualSensors s) temp st st' ∧ (st'.sensor s).activeVirtualSensor = st'.activeVirtuals c s

def Skipped (c : Config) (st : State) : Event → Prop
  | .update s temp =>
    s ∈ c.sensors ∧ c.isReal s ∧ (∀ v ∈ c.virtualSensors s, (st.sensor v).activeStatus) ∧
      ∃ v ∈ c.virtualSensors s, ∃ tripSensor triggerPoint clearPoint,
        (c.sensor v).kind = .virtual tripSensor triggerPoint clearPoint ∧ temp < clearPoint
  | _ => False

section
variable {c : Config} {st st' st'' : State} {s v : Nat}

theorem mem_virtualSensors : v ∈ c.virtualSensors s ↔ v ∈ c.sensors ∧ ∃ triggerPoint clearPoint,
      (c.sensor v).kind = .virtual (some s) triggerPoint clearPoint := by
  rw [Config.virtualSensors, List.mem_filter]
  apply and_congr_right'
  cases (c.sensor v).kind with
  | real => simp
  | «virtual» tripSensor triggerPoint clearPoint => simp

theorem virtualSensors_nodup : (c.virtualSensors s).Nodup := c.sensors_nodup.filter _

theorem ne_of_mem_virtualSensors (hs : c.isReal s) {s' : Nat} (hv : v ∈ c.virtualSensors s') : v ≠ s := by
  rintro rfl
  obtain ⟨-, triggerPoint, clearPoint, hkind⟩ := mem_virtualSensors.mp hv
  rw [Config.isReal, hkind] at hs
  cases hs

theorem State.activateSensor_sensor :
    (st.activateSensor c v).sensor = Function.update st.sensor v { st.sensor v with activeStatus := true } := by
  rw [State.activateSensor]
  split
  · rename_i hact
    rw [← hact]
    exact (Function.update_eq_self v st.sensor).symm
  · rfl

theorem State.deactivateSensor_sensor :
    (st.deactivateSensor c v).sensor = Function.update st.sensor v { st.sensor v with activeStatus := false } := by
  rw [State.deactivateSensor]
  split
  · rfl
  · rename_i hinactive
    rw [Bool.not_eq_true] at hinactive
    rw [← hinactive]
    exact (Function.update_eq_self v st.sensor).symm

structure Switched (c : Config) (s : Nat) (vs : List Nat) (st st' : State) : Prop where
  temperature : (st'.sensor s).temperature = (st.sensor s).temperature
  activeStatus : (st'.sensor s).activeStatus = (st.sensor s).activeStatus
  follow : Follow c vs (st.sensor s).temperature st st'
  frame : ∀ u, u ∉ vs → u ≠ s → st'.sensor u = st.sensor u
  count : (st.sensor s).activeVirtualSensor = st.activeVirtuals c s →
    (st'.sensor s).activeVirtualSensor = st'.activeVirtuals c s

structure Toggled (c : Config) (s v : Nat) (st st' : State) : Prop where
  own : st'.sensor s = { st.sensor s with
      activeVirtualSensor :=
        if (st.sensor v).activeStatus then (st.sensor s).activeVirtualSensor - 1
        else (st.sensor s).activeVirtualSensor + 1 }
  toggled : (st'.sensor v).activeStatus = !(st.sensor v).activeStatus
  others : ∀ u, u ≠ v → u ≠ s → st'.sensor u = st.sensor u

theorem Toggled.count (h : Toggled c s v st st') (hv : v ∈ c.virtualSensors s)
    (hcnt : (st.sensor s).activeVirtualSensor = st.activeVirtuals c s) :
    (st'.sensor s).activeVirtualSensor = st'.activeVirtuals c s := by
  have hagree (u : Nat) (hu : u ≠ v) : (st'.sensor u).activeStatus = (st.sensor u).activeStatus := by
    by_cases hs : u = s
    · rw [hs, h.own]
    · rw [h.others u hu hs]
  rw [h.own, hcnt, State.activeVirtuals, State.activeVirtuals]
  cases hact : (st.sensor v).activeStatus with
  | true =>
    have hlose := countP_lose virtualSensors_nodup hv hagree hact (by rw [h.toggled, hact, Bool.not_true])
    simp only [if_true]
    omega
  | false =>
    have hgain := countP_gain virtualSensors_nodup hv hagree hact (by rw [h.toggled, hact, Bool.not_false])
    simp only [Bool.false_eq_true, if_false]
    omega

theorem Toggled.switched (h : Toggled c s v st st') (hv : v ∈ c.virtualSensors s)
    (hfollow : Follow c [v] (st.sensor s).temperature st st') : Switched c s [v] st st' where
  temperature := by rw [h.own]
  activeStatus := by rw [h.own]
  follow := hfollow
  frame u hu hne := h.others u (fun heq => hu (heq ▸ List.mem_singleton_self v)) hne
  count := h.count hv

theorem switchVirtual_switched (hpoints : c.PointsOrdered) (hs : c.isReal s) (hv : v ∈ c.virtualSensors s) :
    Switched c s [v] st (State.switchVirtual c s st v) := by
  have hne := ne_of_mem_virtualSensors hs hv
  obtain ⟨-, triggerPoint, clearPoint, hkind⟩ := mem_virtualSensors.mp hv
  have hord := hpoints v _ _ _ hkind
  have hfollow {st' : State} (hv : (st'.sensor v).activeStatus ↔ triggerPoint < (st.sensor s).temperature ∨
      ((st.sensor v).activeStatus ∧ clearPoint ≤ (st.sensor s).temperature)) :
      Follow c [v] (st.sensor s).temperature st st' := by
    intro u hu trip trigger clear hkind'
    rw [List.mem_singleton.mp hu, hkind] at hkind'
    cases hkind'
    rwa [List.mem_singleton.mp hu]
  rw [State.switchVirtual, hkind]
  dsimp only
  split
  · rename_i hrise
    obtain ⟨hinactive, htrig⟩ := hrise
    have htoggled : Toggled c s v st ((st.activateSensor c v).setSensor s { (st.activateSensor c v).sensor s with
          activeVirtualSensor := ((st.activateSensor c v).sensor s).activeVirtualSensor + 1 }) := by
      constructor
      · rw [State.setSensor_self, State.activateSensor_sensor, update_of_ne hne.symm, hinactive]
        rfl
      · rw [State.setSensor_of_ne hne, State.activateSensor_sensor, update_self, hinactive]
        rfl
      · intro u hv hs
        rw [State.setSensor_of_ne hs, State.activateSensor_sensor, update_of_ne hv]
    refine htoggled.switched hv (hfollow ?_)
    rw [htoggled.toggled, hinactive]
    exact iff_of_true rfl (.inl htrig)
  · rename_i hstays
    split
    · rename_i hfall
      obtain ⟨hact, hclear⟩ := hfall
      have htoggled : Toggled c s v st ((st.deactivateSensor c v).setSensor s { (st.deactivateSensor c v).sensor s with
            activeVirtualSensor := ((st.deactivateSensor c v).sensor s).activeVirtualSensor - 1 }) := by
        constructor
        · rw [State.setSensor_self, State.deactivateSensor_sensor, update_of_ne hne.symm, hact]
          rfl
        · rw [State.setSensor_of_ne hne, State.deactivateSensor_sensor, update_self, hact]
          rfl
        · intro u hv hs
          rw [State.setSensor_of_ne hs, State.deactivateSensor_sensor, update_of_ne hv]
      refine htoggled.switched hv (hfollow ?_)
      rw [htoggled.toggled, hact]
      exact iff_of_false (by decide) (by omega)
    · rename_i hholds
      refine ⟨rfl, rfl, hfollow ?_, fun _ _ _ => rfl, id⟩
      cases hact : (st.sensor v).activeStatus with
      | true =>
        exact iff_of_true rfl (.inr ⟨rfl, not_lt.mp fun hclear => hholds ⟨hact, hclear⟩⟩)
      | false =>
        refine iff_of_false Bool.false_ne_true ?_
        rintro (htrig | ⟨hact', -⟩)
        · exact hstays ⟨hact, htrig⟩
        · cases hact'

theorem Switched.cons (hs : c.isReal s) {vs : List Nat} (hv : v ∉ vs) (hvs : ∀ u ∈ vs, u ∈ c.virtualSensors s)
    (hmem : v ∈ c.virtualSensors s) (h : Switched c s [v] st st') (h' : Switched c s vs st' st'') :
    Switched c s (v :: vs) st st'' where
  temperature := h'.temperature.trans h.temperature
  activeStatus := h'.activeStatus.trans h.activeStatus
  follow := by
    intro u hu trip trigger clear hkind
    rcases List.mem_cons.mp hu with rfl | hu
    · rw [h'.frame u hv (ne_of_mem_virtualSensors hs hmem)]
      exact h.follow u (List.mem_singleton_self u) trip trigger clear hkind
    · have hne : u ∉ [v] := fun heq => hv (List.mem_singleton.mp heq ▸ hu)
      have hfollow := h'.follow u hu trip trigger clear hkind
      rwa [h.temperature, h.frame u hne (ne_of_mem_virtualSensors hs (hvs u hu))] at hfollow
  frame u hu hne := by
    rw [List.mem_cons, not_or] at hu
    exact (h'.frame u hu.2 hne).trans (h.frame u (fun heq => hu.1 (List.mem_singleton.mp heq)) hne)
  count hcnt := h'.count (h.count hcnt)

theorem foldl_switched (hpoints : c.PointsOrdered) (hs : c.isReal s) {vs : List Nat} (hnodup : vs.Nodup)
    (hvs : ∀ u ∈ vs, u ∈ c.virtualSensors s) : Switched c s vs st (vs.foldl (State.switchVirtual c s) st) := by
  induction vs generalizing st with
  | nil => exact ⟨rfl, rfl, (fun v hv => nomatch hv), fun _ _ _ => rfl, id⟩
  | cons v vs ih =>
    obtain ⟨hv, hnodup⟩ := List.nodup_cons.mp hnodup
    obtain ⟨hmem, hvs⟩ := List.forall_mem_cons.mp hvs
    exact (switchVirtual_switched hpoints hs hmem).cons hs hv hvs hmem (ih hnodup hvs)

end

structure VirtualsCounted (c : Config) (st : State) : Prop where
  active : ∀ s ∈ c.sensors, c.isReal s → (st.sensor s).activeStatus
  count : ∀ s, c.isReal s → (st.sensor s).activeVirtualSensor = st.activeVirtuals c s

section
variable {c : Config} {st st' : State}

theorem VirtualsCounted.of_sensor (h : VirtualsCounted c st)
    (hact : ∀ s, (st'.sensor s).activeStatus = (st.sensor s).activeStatus)
    (hcnt : ∀ s, (st'.sensor s).activeVirtualSensor = (st.sensor s).activeVirtualSensor) : VirtualsCounted c st' where
  active s hs hreal := (hact s).trans (h.active s hs hreal)
  count s hreal := by
    rw [hcnt, State.activeVirtuals, funext hact]
    exact h.count s hreal

variable {s : Nat}

theorem VirtualsCounted.switched (h : VirtualsCounted c st) (hs : c.isReal s)
    (hst : Switched c s (c.virtualSensors s) st st') : VirtualsCounted c st' where
  active s' hs' hreal := by
    by_cases heq : s' = s
    · rw [heq, hst.activeStatus]
      exact h.active s (heq ▸ hs') hs
    · rw [hst.frame s' (fun hv => ne_of_mem_virtualSensors hreal hv rfl) heq]
      exact h.active s' hs' hreal
  count s' hreal := by
    by_cases heq : s' = s
    · rw [heq]
      exact hst.count (h.count s hs)
    · rw [hst.frame s' (fun hv => ne_of_mem_virtualSensors hreal hv rfl) heq, h.count s' hreal]
      apply (countP_same _).symm
      intro v hv
      rw [hst.frame v _ (ne_of_mem_virtualSensors hs hv)]
      intro hv'
      obtain ⟨-, trigger, clear, hkind⟩ := mem_virtualSensors.mp hv
      obtain ⟨-, trigger', clear', hkind'⟩ := mem_virtualSensors.mp hv'
      rw [hkind] at hkind'
      cases hkind'
      exact heq rfl

theorem updateVirtualSensors_cases (hpoints : c.PointsOrdered) (h : VirtualsCounted c st) (hs : c.isReal s) :
    ((∀ v ∈ c.virtualSensors s, (st.sensor v).activeStatus) ∧ st.updateVirtualSensors c s = st) ∨
      ((¬ ∀ v ∈ c.virtualSensors s, (st.sensor v).activeStatus) ∧
        Switched c s (c.virtualSensors s) st (st.updateVirtualSensors c s)) := by
  have hall : st.activeVirtuals c s = (c.virtualSensors s).length ↔
      ∀ v ∈ c.virtualSensors s, (st.sensor v).activeStatus = true := List.countP_eq_length
  rw [State.updateVirtualSensors, h.count s hs, ← hall]
  split
  · exact .inl ⟨‹_›, rfl⟩
  · exact .inr ⟨‹_›, foldl_switched hpoints hs virtualSensors_nodup fun _ hu => hu⟩

theorem VirtualsCounted.updateVirtualSensors (hpoints : c.PointsOrdered) (h : VirtualsCounted c st)
    (hs : c.isReal s) : VirtualsCounted c (st.updateVirtualSensors c s) := by
  rcases updateVirtualSensors_cases hpoints h hs with ⟨-, hsame⟩ | ⟨-, hswitched⟩
  · rw [hsame]
    exact h
  · exact h.switched hs hswitched

def State.read (c : Config) (s : Nat) (temp : Int) (st : State) : State :=
  (st.setSensor s { st.sensor s with temperature := temp }).traversItems c s

theorem State.read_sensor (s : Nat) (temp : Int) :
    (st.read c s temp).sensor = Function.update st.sensor s { st.sensor s with temperature := temp } :=
  traversItems_rule (P := fun st' => st'.sensor = _) (fun _ _ _ _ _ h => h) rfl

theorem State.updateSensor_eq (s : Nat) (temp : Int) : st.updateSensor c s temp = if (st.sensor s).activeStatus then
      if c.isReal s then (st.read c s temp).updateVirtualSensors c s else st.read c s temp else st := rfl

theorem read_fields (s : Nat) (temp : Int) (u : Nat) :
    ((st.read c s temp).sensor u).activeStatus = (st.sensor u).activeStatus ∧
      ((st.read c s temp).sensor u).activeVirtualSensor = (st.sensor u).activeVirtualSensor := by
  rw [State.read_sensor]
  by_cases hu : u = s
  · rw [hu, update_self]
    exact ⟨rfl, rfl⟩
  · rw [update_of_ne hu]
    exact ⟨rfl, rfl⟩

theorem VirtualsCounted.read (h : VirtualsCounted c st) (s : Nat) (temp : Int) : VirtualsCounted c (st.read c s temp) :=
  h.of_sensor (fun u => (read_fields s temp u).1) fun u => (read_fields s temp u).2

theorem VirtualsCounted.updateSensor (hpoints : c.PointsOrdered) (h : VirtualsCounted c st) (s : Nat) (temp : Int) :
    VirtualsCounted c (st.updateSensor c s temp) := by
  rw [State.updateSensor_eq]
  split
  · split
    · rename_i hreal
      exact (h.read s temp).updateVirtualSensors hpoints hreal
    · exact h.read s temp
  · exact h

theorem sensor_perform {a : Nat} {outcome : Outcome} (hst : st.perform c a outcome = some st') :
    st'.sensor = st.sensor := by
  obtain ⟨device, -, rfl⟩ := Option.map_eq_some_iff.mp hst
  rfl

theorem sensor_decision {a : Nat} (hst : st.decision c a = some st') : st'.sensor = st.sensor := by
  rw [State.decision] at hst
  split at hst
  · obtain ⟨outcome, -, hperform⟩ := unbind hst
    exact sensor_perform hperform
  · cases hst
    rfl

theorem sensor_deactivateOldScen (hst : st.deactivateOldScen c s = some st') : st'.sensor = st.sensor := by
  refine foldlM_keeps (P := fun st' => st'.sensor = st.sensor) (fun st₁ st₂ a _ hsame hst => ?_) rfl hst
  rw [State.deactivateActive] at hst
  split at hst
  · obtain ⟨outcome, -, hperform⟩ := unbind hst
    exact (sensor_perform hperform).trans hsame
  · cases hst
    exact hsame

theorem VirtualsCounted.step (hpoints : c.PointsOrdered) (h : VirtualsCounted c st) {event : Event}
    (hst : step c st event = some st') : VirtualsCounted c st' := by
  have hsame (hsensor : st'.sensor = st.sensor) : VirtualsCounted c st' :=
    h.of_sensor (fun s => by rw [hsensor]) fun s => by rw [hsensor]
  cases event with
  | update s temp =>
    cases hst
    exact h.updateSensor hpoints s temp
  | decide a => exact hsame (sensor_decision hst)
  | deactivateOldScen s => exact hsame (sensor_deactivateOldScen hst)

theorem boot_sensors (ids : List Nat) (st : State) (u : Nat) :
    let st' := ids.foldl (fun st s => if c.isReal s then st.activateSensor c s else st) st
    (st'.sensor u).activeVirtualSensor = (st.sensor u).activeVirtualSensor ∧
      (st'.sensor u).activeStatus = ((st.sensor u).activeStatus || (decide (u ∈ ids) && c.isReal u)) := by
  induction ids generalizing st with
  | nil => simp
  | cons s ids ih =>
    obtain ⟨hcnt, hact⟩ := ih (if c.isReal s then st.activateSensor c s else st)
    rw [List.foldl_cons]
    refine ⟨hcnt.trans ?_, hact.trans ?_⟩
    · split
      · rw [State.activateSensor_sensor]
        by_cases hu : u = s
        · rw [hu, update_self]
        · rw [update_of_ne hu]
      · rfl
    · split
      · rename_i hreal
        rw [State.activateSensor_sensor]
        by_cases hu : u = s
        · simp [hu, hreal]
        · simp [hu]
      · rename_i hvirtual
        by_cases hu : u = s
        · simp [hu, hvirtual]
        · simp [hu]

theorem virtualsCounted_boot (c : Config) : VirtualsCounted c c.boot where
  active s hs hreal := by
    have hact : (c.boot.sensor s).activeStatus = (false || (decide (s ∈ c.sensors) && c.isReal s)) :=
      (boot_sensors c.sensors c.parsed s).2
    rw [hact, decide_eq_true hs, hreal]
    rfl
  count s _ := by
    have hcnt : (c.boot.sensor s).activeVirtualSensor = 0 := (boot_sensors c.sensors c.parsed s).1
    rw [hcnt, State.activeVirtuals]
    symm
    rw [List.countP_eq_zero]
    intro v hv
    obtain ⟨-, trigger, clear, hkind⟩ := mem_virtualSensors.mp hv
    have hact : (c.boot.sensor v).activeStatus = (false || (decide (v ∈ c.sensors) && c.isReal v)) :=
      (boot_sensors c.sensors c.parsed v).2
    rw [hact, Config.isReal, hkind, Bool.and_false, Bool.or_false]
    exact Bool.false_ne_true

theorem switches_iff (hpoints : c.PointsOrdered) (h : VirtualsCounted c st) (event : Event) :
    Switches c st event ↔ ¬ Skipped c st event := by
  cases event with
  | decide a => exact iff_of_true (fun s temp st' heq => nomatch heq) not_false
  | deactivateOldScen s => exact iff_of_true (fun s temp st' heq => nomatch heq) not_false
  | update s temp =>
    by_cases hsensor : s ∈ c.sensors ∧ c.isReal s
    · obtain ⟨hmem, hreal⟩ := hsensor
      have hread := h.read s temp
      have hstep : step c st (.update s temp) = some ((st.read c s temp).updateVirtualSensors c s) := by
        rw [step, State.updateSensor_eq, if_pos (h.active s hmem hreal), if_pos hreal]
      have hstat (u : Nat) := (@read_fields c st s temp u).1
      have htemp : ((st.read c s temp).sensor s).temperature = temp := by
        rw [State.read_sensor, update_self]
      rcases updateVirtualSensors_cases hpoints hread hreal with ⟨hall, hsame⟩ | ⟨hsome, hswitched⟩
      · constructor
        · rintro hswitches ⟨-, -, -, v, hv, trip, trigger, clear, hkind, hclear⟩
          have hfollow := (hswitches s temp _ rfl hmem hreal hstep).1 v hv trip trigger clear hkind
          rw [hsame, hall v hv] at hfollow
          have hord := hpoints v trip trigger clear hkind
          rcases hfollow.mp rfl with hrise | ⟨-, hholds⟩ <;> omega
        · rintro hnot s' temp' st' heq - - hst
          cases heq
          rw [hstep, hsame] at hst
          cases hst
          refine ⟨?_, hread.count s hreal⟩
          intro v hv trip trigger clear hkind
          refine iff_of_true (hall v hv) (.inr ⟨hstat v ▸ hall v hv, not_lt.mp fun hclear => hnot ?_⟩)
          exact ⟨hmem, hreal, fun u hu => hstat u ▸ hall u hu, v, hv, trip, trigger, clear, hkind, hclear⟩
      · refine iff_of_true ?_ fun hskipped => hsome fun v hv => (hstat v).trans (hskipped.2.2.1 v hv)
        rintro s' temp' st' heq - - hst
        cases heq
        rw [hstep] at hst
        cases hst
        refine ⟨?_, hswitched.count (hread.count s hreal)⟩
        intro v hv trip trigger clear hkind
        have hfollow := hswitched.follow v hv trip trigger clear hkind
        rwa [htemp, hstat v] at hfollow
    · refine iff_of_true ?_ fun hskipped => hsensor ⟨hskipped.1, hskipped.2.1⟩
      rintro s' temp' st' heq hmem hreal -
      cases heq
      exact absurd ⟨hmem, hreal⟩ hsensor

end

/-- Updates compute the mean of their inputs where the old temperature goes unnoticed, and real
sensors switch their virtual sensors where none is skipped. -/
theorem virtualSensors_run_iff (v : Virtual) (hweights : v.weightSum ≠ 0) {history : List (List Int)}
    (hlen : ∀ temps ∈ history, temps.length = v.weights.length) (c : Config) (hpoints : c.PointsOrdered)
    (events : List Event) :
    (EachDefinedStep v.step v.FollowsInputs 0 history ↔ EachDefinedStep v.step v.Unnoticed 0 history) ∧
      (EachDefinedStep (step c) (Switches c) c.boot events ↔
        EachDefinedStep (step c) (fun st event => ¬ Skipped c st event) c.boot events) := by
  constructor
  · exact eachDefinedStep_iff_of_invariant (I := fun _ => True) (V := fun _ temps => temps.length = v.weights.length)
      (fun _ _ _ _ _ _ => trivial)
      (fun temperature temps _ hlen => Virtual.followsInputs_iff hweights hlen temperature)
      trivial (.of_forall_mem hlen)
  · exact eachDefinedStep_iff_of_invariant (V := fun _ _ => True) (fun st event h _ st' hst => h.step hpoints hst)
      (fun st event h _ => switches_iff hpoints h event) (virtualsCounted_boot c) (.of_forall_mem fun _ _ => trivial)

def oneInput : Virtual where
  weights := [100]
  weightSum := 100
  offsetSum := 0

theorem oneVirtual_nodup : [0, 1].Nodup := by decide

def oneVirtual : Config where
  algo _ := .ss "SS" 55000 50000 1 false 0 1 0 2 0
  device _ := { kind := .cpuFreq, leveltoValue := ["2210000", "2106000"] }
  sensor s := { thread := 0, kind := if s = 0 then .real else .virtual (some 0) 40000 35000 }
  sensors := [0, 1]
  sensors_nodup := oneVirtual_nodup
  items := []
  items_nodup := List.nodup_nil

theorem oneVirtual_pointsOrdered : oneVirtual.PointsOrdered := by
  intro v trip trigger clear hkind
  rw [oneVirtual] at hkind
  dsimp only at hkind
  split at hkind
  · cases hkind
  · cases hkind
    decide

theorem virtualSensors_run_iff_oneVirtual : (EachDefinedStep oneInput.step oneInput.FollowsInputs 0 [[30000], [31000]] ↔
        EachDefinedStep oneInput.step oneInput.Unnoticed 0 [[30000], [31000]]) ∧
      (EachDefinedStep (step oneVirtual) (Switches oneVirtual) oneVirtual.boot [.update 0 45000, .update 0 36000] ↔
        EachDefinedStep (step oneVirtual) (fun st event => ¬ Skipped oneVirtual st event) oneVirtual.boot
          [.update 0 45000, .update 0 36000]) :=
  virtualSensors_run_iff oneInput (by decide) (by decide) oneVirtual oneVirtual_pointsOrdered _

/-- The second update of the mean reads 30000 and finds 30300, and at 30000 the virtual sensor stays
active. -/
theorem virtualSensors_keep_past : oneInput.step 30000 [30000] = some 30300 ∧
      ¬ EachDefinedStep oneInput.step oneInput.FollowsInputs 0 [[30000], [30000]] ∧
      ¬ EachDefinedStep (step oneVirtual) (Switches oneVirtual) oneVirtual.boot [.update 0 45000, .update 0 30000] := by
  refine ⟨by decide, ?_, ?_⟩
  · rintro ⟨-, hnext⟩
    exact absurd (hnext 30000 (by decide)).1 (by rw [Virtual.FollowsInputs]; decide)
  · rintro ⟨-, hnext⟩
    have hfollow := ((hnext _ rfl).1 0 30000 _ rfl (by decide) (by decide) rfl).1 1 (by decide) _ _ _ rfl
    exact absurd (hfollow.mp (by decide)) (by decide)

end ExynosHal.Thermal
