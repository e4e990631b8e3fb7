import ExynosHal.Library.Run
import ExynosHal.Thermal.Sensor

/-! # Limits are the live requests

Sensor updates, decisions and deactivations run in any order.
-/

namespace ExynosHal.Thermal
open Library.Run Library.Tally
open Function (update_of_ne update_self)

def AlgoItem.wanted (item : AlgoItem) (s : AlgoState) (d : Nat) : Int :=
  match item.kind with
  | .monitor m => if 0 < s.status then (actionOn ((m.levelRequests s.status).getD []) d).getD 0 else 0
  | .ss ss => if s.activeStatus ∧ ss.device = d then s.lastRequest else 0

namespace State

def itemIds (st : State) : List Nat := st.algoItems.map Prod.fst

end State

def activeCount (ids : List Nat) (threadOf : Nat → Nat) (active : Nat → Bool) (thread : Nat) : Nat :=
  ids.countP fun i => decide (threadOf i = thread) && active i

def State.activeItems (c : Config) (st : State) : Nat → Nat :=
  activeCount st.itemIds (fun a => (c.algo a).thread) fun a => (st.algo a).activeStatus

def State.activeSensors (c : Config) (st : State) : Nat → Nat :=
  activeCount c.sensors (fun s => (c.sensor s).thread) fun s => (st.sensor s).activeStatus

structure LiveRequests (c : Config) (st : State) : Prop where
  currentStatus : ∀ d, (c.device d).kind ≠ .report →
    (st.device d).currentStatus = maximum 0 (st.itemIds.map fun a => (c.algo a).wanted (st.algo a) d)
  numActive : st.numActive = st.activeItems c
  sensorNumActive : st.sensorNumActive = st.activeSensors c

def Config.NamesDistinct (c : Config) : Prop :=
  ∀ r ∈ c.items, ∀ r' ∈ c.items, (c.algo r.1).name = (c.algo r'.1).name → r.1 = r'.1

inductive Event where
  | update (s : Nat) (temp : Int)
  | decide (a : Nat)
  | deactivateOldScen (s : Nat)

def step (c : Config) (st : State) : Event → Option State
  | .update s temp => some (st.updateSensor c s temp)
  | .decide a => st.decision c a
  | .deactivateOldScen s => st.deactivateOldScen c s

def Config.run (c : Config) (events : List Event) : Option State := events.foldlM (step c) c.boot

structure Invariant (c : Config) (st : State) : Prop where
  algoItems : st.algoItems = c.items
  settled : st.DevicesSettled c
  registered : ∀ a, (st.algo a).activeStatus → a ∈ st.itemIds
  released : ∀ a, (st.algo a).activeStatus = false → ∀ d, (c.algo a).held (st.algo a) d = 0
  own : ∀ d, (c.device d).kind ≠ .report → ∀ a ∈ st.itemIds,
    ((st.device d).request.lookup (c.algo a).name).getD 0 = (c.algo a).held (st.algo a) d
  keys : ∀ d, (c.device d).kind ≠ .report → ∀ n v, (st.device d).request.lookup n = some v →
    ∃ a ∈ st.itemIds, (c.algo a).name = n
  numActive : st.numActive = st.activeItems c

section
variable {ids : List Nat} {threadOf : Nat → Nat} {active active' : Nat → Bool} {i : Nat}

theorem activeCount_other (hothers : ∀ j, j ≠ i → active' j = active j) {t : Nat} (ht : t ≠ threadOf i) :
    activeCount ids threadOf active' t = activeCount ids threadOf active t := by
  apply countP_same
  intro j _
  by_cases hj : j = i
  · subst hj
    rw [decide_eq_false (Ne.symm ht), Bool.false_and, Bool.false_and]
  · rw [hothers j hj]

theorem activeCount_activate (hnodup : ids.Nodup) (hi : i ∈ ids) (hothers : ∀ j, j ≠ i → active' j = active j)
    (hbefore : active i = false) (hafter : active' i) :
    activeCount ids threadOf active' = threadActivate (activeCount ids threadOf active) (threadOf i) := by
  funext t
  rw [threadActivate]
  by_cases ht : t = threadOf i
  · subst ht
    rw [update_self]
    apply countP_gain hnodup hi
    · intro j hj
      rw [hothers j hj]
    · rw [hbefore, Bool.and_false]
    · rw [hafter, decide_eq_true rfl, Bool.and_self]
  · rw [update_of_ne ht]
    exact activeCount_other hothers ht

theorem activeCount_deactivate (hnodup : ids.Nodup) (hi : i ∈ ids) (hothers : ∀ j, j ≠ i → active' j = active j)
    (hbefore : active i) (hafter : active' i = false) :
    activeCount ids threadOf active' = threadDeactivate (activeCount ids threadOf active) (threadOf i) := by
  have hlose : activeCount ids threadOf active' (threadOf i) + 1 = activeCount ids threadOf active (threadOf i) := by
    apply countP_lose hnodup hi
    · intro j hj
      rw [hothers j hj]
    · rw [hbefore, decide_eq_true rfl, Bool.and_self]
    · rw [hafter, Bool.and_false]
  funext t
  rw [threadDeactivate, if_pos (by omega)]
  by_cases ht : t = threadOf i
  · subst ht
    rw [update_self]
    omega
  · rw [update_of_ne ht]
    exact activeCount_other hothers ht

end

section
variable {c : Config} {st st' : State} {a : Nat}

variable (h : Invariant c st)
include h

theorem Invariant.nodup : st.itemIds.Nodup := by
  rw [State.itemIds, h.algoItems]
  exact c.items_nodup

theorem Invariant.eq_of_name (hnames : c.NamesDistinct) {b : Nat} (ha : a ∈ st.itemIds)
    (hb : b ∈ st.itemIds) (hname : (c.algo a).name = (c.algo b).name) : a = b := by
  rw [State.itemIds, h.algoItems] at ha hb
  obtain ⟨r, hr, rfl⟩ := List.mem_map.mp ha
  obtain ⟨r', hr', rfl⟩ := List.mem_map.mp hb
  exact hnames r hr r' hr' hname

theorem Invariant.sameItems (hsame : st.SameItems st') : Invariant c st' := by
  obtain ⟨halgo, hdev, hnum, hitems, -⟩ := hsame
  have hids : st'.itemIds = st.itemIds := by rw [State.itemIds, State.itemIds, hitems]
  constructor
  · rw [hitems, h.algoItems]
  · rw [State.DevicesSettled, hdev]
    exact h.settled
  · rw [halgo, hids]
    exact h.registered
  · rw [halgo]
    exact h.released
  · rw [halgo, hdev, hids]
    exact h.own
  · rw [hdev, hids]
    exact h.keys
  · rw [State.activeItems, hnum, hids, halgo]
    exact h.numActive

theorem Invariant.activate (ha : a ∈ st.itemIds) (hinactive : (st.algo a).activeStatus = false) :
    Invariant c (st.activate c a) := by
  constructor
  · exact h.algoItems
  · exact h.settled
  · intro b hb
    by_cases hba : b = a
    · subst hba
      exact ha
    · rw [State.activate_of_ne hba] at hb
      exact h.registered b hb
  · intro b hb d
    rw [State.held_activate]
    by_cases hba : b = a
    · subst hba
      exact h.released b hinactive d
    · rw [State.activate_of_ne hba] at hb
      exact h.released b hb d
  · intro d hkind b hb
    rw [State.held_activate]
    exact h.own d hkind b hb
  · exact h.keys
  · have hcnt : (st.activate c a).activeItems c = threadActivate (st.activeItems c) (c.algo a).thread := by
      apply activeCount_activate h.nodup ha
      · intro b hb
        rw [State.activate_of_ne hb]
      · exact hinactive
      · rw [State.activate_self]
    rw [hcnt, ← h.numActive]
    rfl

theorem Invariant.performed (hnames : c.NamesDistinct) {outcome : Outcome}
    (hsound : outcome.Sound (c.algo a) (st.algo a)) (hact : (st.algo a).activeStatus)
    (hperf : State.Performed c a outcome st st') (hsettled : st'.DevicesSettled c) : Invariant c st' := by
  have ha := h.registered a hact
  have hids : st'.itemIds = st.itemIds := by rw [State.itemIds, State.itemIds, hperf.algoItems]
  have hself : st'.algo a = outcome.next := by rw [hperf.algo, update_self]
  have hothers (b : Nat) (hb : b ≠ a) : st'.algo b = st.algo b := by
    rw [hperf.algo, update_of_ne hb]
  constructor
  · rw [hperf.algoItems, h.algoItems]
  · exact hsettled
  · intro b hb
    rw [hids]
    by_cases hba : b = a
    · subst hba
      exact ha
    · rw [hothers b hba] at hb
      exact h.registered b hb
  · intro b hb d
    by_cases hba : b = a
    · subst hba
      rw [hself] at hb ⊢
      cases hstops : outcome.stops with
      | true => exact (hsound.stopped hstops).2 d
      | false =>
        rw [hsound.active hstops, hact] at hb
        cases hb
    · rw [hothers b hba] at hb ⊢
      exact h.released b hb d
  · intro d hkind b hb
    rw [hids] at hb
    by_cases hba : b = a
    · subst hba
      rw [hperf.device.own d hkind, hself, hsound.held d, ← h.own d hkind b hb]
      cases actionOn outcome.requests d with
      | some v => rfl
      | none => rfl
    · have hname : (c.algo b).name ≠ (c.algo a).name := fun heq => hba (h.eq_of_name hnames hb ha heq)
      rw [hperf.device.other d hkind _ hname, hothers b hba]
      exact h.own d hkind b hb
  · intro d hkind n v hv
    rw [hids]
    by_cases hn : n = (c.algo a).name
    · exact ⟨a, ha, hn.symm⟩
    · rw [hperf.device.other d hkind n hn] at hv
      exact h.keys d hkind n v hv
  · rw [hperf.numActive, State.activeItems, hids]
    cases hstops : outcome.stops with
    | true =>
      rw [if_pos rfl, h.numActive]
      refine (activeCount_deactivate h.nodup ha (fun b hb => ?_) hact ?_).symm
      · rw [hothers b hb]
      · rw [hself]
        exact (hsound.stopped hstops).1
    | false =>
      have hsame : (fun b => (st'.algo b).activeStatus) = fun b => (st.algo b).activeStatus := by
        funext b
        by_cases hba : b = a
        · subst hba
          rw [hself, hsound.active hstops]
        · rw [hothers b hba]
      rw [hsame]
      exact h.numActive

theorem Invariant.perform (hnames : c.NamesDistinct) {outcome : Outcome}
    (hsound : outcome.Sound (c.algo a) (st.algo a)) (hinTable : RequestsInTable c.device outcome.requests)
    (hact : (st.algo a).activeStatus) :
    ∃ st', st.perform c a outcome = some st' ∧ Invariant c st' := by
  obtain ⟨st', hperform, hsettled⟩ := State.perform_settled (a := a) hinTable h.settled
  exact ⟨st', hperform, h.performed hnames hsound hact (State.perform_performed hperform) hsettled⟩

theorem Invariant.decision (hnames : c.NamesDistinct) (hactions : c.ActionsInTable)
    (hst : st.decision c a = some st') : Invariant c st' := by
  rw [State.decision] at hst
  split at hst
  · rename_i hact
    obtain ⟨outcome, houtcome, hperform⟩ := unbind hst
    obtain ⟨st'', hperform', h'⟩ := h.perform hnames (State.decisionOutcome_sound houtcome)
      (State.decisionOutcome_inTable hactions houtcome) hact
    rw [hperform'] at hperform
    cases hperform
    exact h'
  · cases hst
    exact h

theorem Invariant.deactivateActive (hnames : c.NamesDistinct)
    (hst : st.deactivateActive c a = some st') : Invariant c st' := by
  rw [State.deactivateActive] at hst
  split at hst
  · rename_i hact
    obtain ⟨outcome, houtcome, hperform⟩ := unbind hst
    obtain ⟨st'', hperform', h'⟩ := h.perform hnames (State.deactivateOutcome_sound houtcome)
      (State.deactivateOutcome_inTable houtcome) hact
    rw [hperform'] at hperform
    cases hperform
    exact h'
  · cases hst
    exact h

theorem Invariant.updateSensor (s : Nat) (temp : Int) : Invariant c (st.updateSensor c s temp) := by
  apply State.updateSensor_rule _ _ temp h
  · intro st st' hsame h
    exact h.sameItems hsame
  · intro st a hmem _ hinactive h
    exact h.activate (List.mem_map_of_mem hmem) hinactive

theorem Invariant.step (hnames : c.NamesDistinct) (hactions : c.ActionsInTable) {event : Event}
    (hst : step c st event = some st') : Invariant c st' := by
  cases event with
  | update s temp =>
    cases hst
    exact h.updateSensor s temp
  | decide a => exact h.decision hnames hactions hst
  | deactivateOldScen s =>
    exact foldlM_keeps (fun _ _ _ _ h hst => h.deactivateActive hnames hst) h hst

end

section
variable {c : Config} {st st' : State}

def SensorsCounted (c : Config) (st : State) : Prop := st.sensorNumActive = st.activeSensors c

variable (h : SensorsCounted c st)
include h

theorem SensorsCounted.setSensor (s : Nat) (sensor : SensorState)
    (hact : sensor.activeStatus = (st.sensor s).activeStatus) : SensorsCounted c (st.setSensor s sensor) := by
  have hsame : (fun s' => ((st.setSensor s sensor).sensor s').activeStatus) = fun s' =>
    (st.sensor s').activeStatus := by
    funext s'
    by_cases hs : s' = s
    · subst hs
      rw [State.setSensor_self, hact]
    · rw [State.setSensor_of_ne hs]
  rw [SensorsCounted, State.activeSensors, hsame]
  exact h

theorem SensorsCounted.activateSensor {s : Nat} (hs : s ∈ c.sensors) : SensorsCounted c (st.activateSensor c s) := by
  rw [State.activateSensor]
  split
  · exact h
  · rename_i hinactive
    have hcnt : (st.setSensor s { st.sensor s with activeStatus := true }).activeSensors c =
        threadActivate (st.activeSensors c) (c.sensor s).thread := by
      apply activeCount_activate c.sensors_nodup hs
      · intro s' hs'
        rw [State.setSensor_of_ne hs']
      · exact Bool.eq_false_iff.mpr hinactive
      · rw [State.setSensor_self]
    refine Eq.trans ?_ hcnt.symm
    rw [← h]

theorem SensorsCounted.deactivateSensor {s : Nat} (hs : s ∈ c.sensors) :
    SensorsCounted c (st.deactivateSensor c s) := by
  rw [State.deactivateSensor]
  split
  · rename_i hact
    have hcnt : (st.setSensor s { st.sensor s with activeStatus := false }).activeSensors c =
        threadDeactivate (st.activeSensors c) (c.sensor s).thread := by
      apply activeCount_deactivate c.sensors_nodup hs
      · intro s' hs'
        rw [State.setSensor_of_ne hs']
      · exact hact
      · rw [State.setSensor_self]
    refine Eq.trans ?_ hcnt.symm
    rw [← h]
  · exact h

theorem SensorsCounted.switchVirtual (s : Nat) {v : Nat} (hv : v ∈ c.sensors) :
    SensorsCounted c (State.switchVirtual c s st v) := by
  rw [State.switchVirtual]
  split
  · exact h
  · dsimp only
    split
    · exact (h.activateSensor hv).setSensor s _ rfl
    · split
      · exact (h.deactivateSensor hv).setSensor s _ rfl
      · exact h

theorem SensorsCounted.updateVirtualSensors (s : Nat) : SensorsCounted c (st.updateVirtualSensors c s) := by
  rw [State.updateVirtualSensors]
  split
  · exact h
  · apply List.foldlRecOn
    · exact h
    · intro st' h' v hv
      exact h'.switchVirtual s (List.mem_of_mem_filter hv)

theorem SensorsCounted.updateSensor (s : Nat) (temp : Int) : SensorsCounted c (st.updateSensor c s temp) := by
  rw [State.updateSensor]
  split
  · dsimp only
    have htemp := h.setSensor s { st.sensor s with temperature := temp } rfl
    have htravers := State.traversItems_rule (c := c) (s := s) (fun _ _ _ _ _ h => h) htemp
    split
    · exact htravers.updateVirtualSensors s
    · exact htravers
  · exact h

theorem SensorsCounted.perform {a : Nat} {outcome : Outcome}
    (hst : st.perform c a outcome = some st') : SensorsCounted c st' := by
  obtain ⟨device, -, rfl⟩ := Option.map_eq_some_iff.mp hst
  exact h

theorem SensorsCounted.step {event : Event} (hst : step c st event = some st') : SensorsCounted c st' := by
  cases event with
  | update s temp =>
    cases hst
    exact h.updateSensor s temp
  | decide a =>
    rw [Thermal.step, State.decision] at hst
    split at hst
    · obtain ⟨outcome, -, hperform⟩ := unbind hst
      exact h.perform hperform
    · cases hst
      exact h
  | deactivateOldScen s =>
    refine foldlM_keeps (fun st st' a _ h hst => ?_) h hst
    rw [State.deactivateActive] at hst
    split at hst
    · obtain ⟨outcome, -, hperform⟩ := unbind hst
      exact h.perform hperform
    · cases hst
      exact h

end

section
variable {c : Config} {st st' : State}

structure MonitorInfo.Shaped (m : MonitorInfo) : Prop where
  clrThresholds : m.thresholds.length ≤ m.clrThresholds.length
  device : m.clrThresholds.length ≤ m.device.length
  actionInfo : m.clrThresholds.length ≤ m.actionInfo.length
  actions : ∀ (i : Nat) devices actions, m.device[i]? = some devices → m.actionInfo[i]? = some actions →
    devices.length ≤ actions.length

def Config.Shaped (c : Config) : Prop := ∀ a m, (c.algo a).kind = .monitor m → m.Shaped

def LevelsInRange (c : Config) (st : State) : Prop :=
  ∀ a m, (c.algo a).kind = .monitor m → (st.algo a).status ≤ m.clrThresholds.length

namespace MonitorInfo

variable {m : MonitorInfo}

theorem reached_le (thresholds : List Int) (temp : Int) : reached thresholds temp ≤ thresholds.length :=
  (List.takeWhile_sublist _).length_le

variable (h : m.Shaped)
include h

variable {status : Nat}

theorem Shaped.newStatus (hstat : status ≤ m.clrThresholds.length) (temp : Int) :
    ∃ newStatus, m.newStatus temp status = some newStatus ∧ newStatus ≤ m.clrThresholds.length := by
  rw [MonitorInfo.newStatus]
  split
  · exact ⟨_, rfl, (reached_le _ _).trans h.clrThresholds⟩
  · rename_i hcond
    have hidx : status - 1 < m.clrThresholds.length := by omega
    rw [List.getElem?_eq_getElem hidx]
    dsimp only
    split
    · exact ⟨_, rfl, reached_le _ _⟩
    · exact ⟨_, rfl, hstat⟩

theorem Shaped.levelDevices (hstat : status ≤ m.clrThresholds.length) :
    ∃ devices, m.levelDevices status = some devices := by
  rw [MonitorInfo.levelDevices]
  split
  · exact ⟨[], rfl⟩
  · have hdev := h.device
    exact ⟨_, List.getElem?_eq_getElem (by omega)⟩

theorem Shaped.levelRequests (hstat : status ≤ m.clrThresholds.length) :
    ∃ requests, m.levelRequests status = some requests := by
  rw [MonitorInfo.levelRequests]
  split
  · exact ⟨[], rfl⟩
  · have hdev := h.device
    have hactionInfo := h.actionInfo
    have hi : status - 1 < m.device.length := by omega
    have hj : status - 1 < m.actionInfo.length := by omega
    have hlen := h.actions _ _ _ (List.getElem?_eq_getElem hi) (List.getElem?_eq_getElem hj)
    rw [List.getElem?_eq_getElem hi, List.getElem?_eq_getElem hj]
    dsimp only
    rw [if_pos hlen]
    exact ⟨_, rfl⟩

theorem Shaped.deactivate {s : AlgoState} (hstat : s.status ≤ m.clrThresholds.length) :
    ∃ outcome, m.deactivate s = some outcome ∧ outcome.next.status ≤ m.clrThresholds.length := by
  rw [MonitorInfo.deactivate]
  split
  · exact ⟨_, rfl, hstat⟩
  · obtain ⟨devices, hdevs⟩ := h.levelDevices hstat
    rw [hdevs]
    exact ⟨_, rfl, Nat.zero_le _⟩

theorem Shaped.decision {s : AlgoState} (hstat : s.status ≤ m.clrThresholds.length) (temp : Int) :
    ∃ outcome, m.decision temp s = some outcome ∧ outcome.next.status ≤ m.clrThresholds.length := by
  obtain ⟨newStatus, hnew, hle⟩ := h.newStatus hstat temp
  rw [MonitorInfo.decision, hnew]
  dsimp only
  split
  · exact ⟨_, rfl, hstat⟩
  · split
    · exact h.deactivate hstat
    · obtain ⟨devices, hdevs⟩ := h.levelDevices hstat
      obtain ⟨requests, hreqs⟩ := h.levelRequests hle
      rw [hdevs, hreqs]
      exact ⟨_, rfl, hle⟩

end MonitorInfo

def OutcomeInRange (item : AlgoItem) (outcome : Option Outcome) : Prop :=
  ∃ o, outcome = some o ∧ ∀ m, item.kind = .monitor m → o.next.status ≤ m.clrThresholds.length

theorem decisionOutcome_inRange (hshaped : c.Shaped) (hlvls : LevelsInRange c st) (a : Nat) :
    OutcomeInRange (c.algo a) (st.decisionOutcome c a) := by
  rw [State.decisionOutcome]
  cases hkind : (c.algo a).kind with
  | monitor m =>
    obtain ⟨o, ho, hle⟩ := (hshaped a m hkind).decision (hlvls a m hkind) (st.itemTemp c a)
    refine ⟨o, ho, fun m' hm' => ?_⟩
    rw [hkind] at hm'
    cases hm'
    exact hle
  | ss ss =>
    refine ⟨_, rfl, fun m' hm' => ?_⟩
    rw [hkind] at hm'
    cases hm'

theorem deactivateOutcome_inRange (hshaped : c.Shaped) (hlvls : LevelsInRange c st) (a : Nat) :
    OutcomeInRange (c.algo a) (st.deactivateOutcome c a) := by
  rw [State.deactivateOutcome]
  cases hkind : (c.algo a).kind with
  | monitor m =>
    obtain ⟨o, ho, hle⟩ := (hshaped a m hkind).deactivate (hlvls a m hkind)
    refine ⟨o, ho, fun m' hm' => ?_⟩
    rw [hkind] at hm'
    cases hm'
    exact hle
  | ss ss =>
    refine ⟨_, rfl, fun m' hm' => ?_⟩
    rw [hkind] at hm'
    cases hm'

theorem LevelsInRange.performed (h : LevelsInRange c st) {a : Nat} {outcome : Outcome}
    (hnext : ∀ m, (c.algo a).kind = .monitor m → outcome.next.status ≤ m.clrThresholds.length)
    (hperf : State.Performed c a outcome st st') : LevelsInRange c st' := by
  intro b m hkind
  rw [hperf.algo]
  by_cases hb : b = a
  · subst hb
    rw [update_self]
    exact hnext m hkind
  · rw [update_of_ne hb]
    exact h b m hkind

theorem LevelsInRange.updateSensor (h : LevelsInRange c st) (s : Nat) (temp : Int) :
    LevelsInRange c (st.updateSensor c s temp) := by
  apply State.updateSensor_rule _ _ temp h
  · intro st st' hsame h
    rw [LevelsInRange, hsame.algo]
    exact h
  · intro st a _ _ _ h b m hkind
    rw [State.activate]
    dsimp only
    by_cases hb : b = a
    · subst hb
      rw [update_self]
      exact h b m hkind
    · rw [update_of_ne hb]
      exact h b m hkind

theorem perform_defined (hinv : Invariant c st) (hlvls : LevelsInRange c st) (hnames : c.NamesDistinct) {a : Nat}
    {outcome : Option Outcome} (hrange : OutcomeInRange (c.algo a) outcome)
    (hsound : ∀ o, outcome = some o → o.Sound (c.algo a) (st.algo a) ∧ RequestsInTable c.device o.requests)
    (hact : (st.algo a).activeStatus) :
    ∃ st', outcome.bind (st.perform c a) = some st' ∧ Invariant c st' ∧ LevelsInRange c st' := by
  obtain ⟨o, rfl, hnext⟩ := hrange
  obtain ⟨hsound, hinTable⟩ := hsound o rfl
  obtain ⟨st', hperform, hinv'⟩ := hinv.perform hnames hsound hinTable hact
  exact ⟨st', hperform, hinv', hlvls.performed hnext (State.perform_performed hperform)⟩

theorem step_defined (hinv : Invariant c st) (hlvls : LevelsInRange c st) (hnames : c.NamesDistinct)
    (hactions : c.ActionsInTable) (hshaped : c.Shaped) (event : Event) :
    ∃ st', step c st event = some st' ∧ Invariant c st' ∧ LevelsInRange c st' := by
  cases event with
  | update s temp => exact ⟨_, rfl, hinv.updateSensor s temp, hlvls.updateSensor s temp⟩
  | decide a =>
    rw [step, State.decision]
    split
    · rename_i hact
      exact perform_defined hinv hlvls hnames (decisionOutcome_inRange hshaped hlvls a)
        (fun _ ho => ⟨State.decisionOutcome_sound ho, State.decisionOutcome_inTable hactions ho⟩) hact
    · exact ⟨st, rfl, hinv, hlvls⟩
  | deactivateOldScen s =>
    refine foldlM_total (P := fun st => Invariant c st ∧ LevelsInRange c st) ?_ ⟨hinv, hlvls⟩
    rintro st a - ⟨hinv, hlvls⟩
    rw [State.deactivateActive]
    split
    · rename_i hact
      exact perform_defined hinv hlvls hnames (deactivateOutcome_inRange hshaped hlvls a)
        (fun _ ho => ⟨State.deactivateOutcome_sound ho, State.deactivateOutcome_inTable ho⟩) hact
    · exact ⟨st, rfl, hinv, hlvls⟩

end

section
variable {c : Config} {st : State}

theorem Invariant.currentStatus (h : Invariant c st) {d : Nat} (hkind : (c.device d).kind ≠ .report) :
    (st.device d).currentStatus = maximum 0 (st.itemIds.map fun a => (c.algo a).held (st.algo a) d) := by
  rw [(h.settled d hkind).currentStatus]
  apply eq_of_forall_ge_iff
  intro m
  rw [DeviceState.getLowestStatus_le_iff, maximum_le_iff, List.forall_mem_map]
  apply and_congr_right
  intro hm
  constructor
  · intro hreqs a ha
    rw [← h.own d hkind a ha]
    cases hlookup : (st.device d).request.lookup (c.algo a).name with
    | none => exact hm
    | some v => exact hreqs _ v hlookup
  · intro hheld n v hv
    obtain ⟨a, ha, rfl⟩ := h.keys d hkind n v hv
    have hown := h.own d hkind a ha
    rw [hv, Option.getD_some] at hown
    rw [hown]
    exact hheld a ha

theorem Invariant.wanted (h : Invariant c st) (a d : Nat) :
    (c.algo a).wanted (st.algo a) d = (c.algo a).held (st.algo a) d := by
  cases hkind : (c.algo a).kind with
  | monitor m =>
    rw [AlgoItem.wanted, hkind]
    dsimp only
    split
    · rw [AlgoItem.held, hkind]
    · rename_i hzero
      rw [MonitorInfo.held_level_zero hkind (by omega)]
  | ss ss =>
    rw [AlgoItem.wanted, hkind]
    dsimp only
    cases hact : (st.algo a).activeStatus with
    | true =>
      rw [AlgoItem.held, hkind]
      simp only [true_and]
    | false =>
      rw [h.released a hact d]
      simp only [Bool.false_eq_true, false_and, if_false]

theorem Invariant.liveRequests (h : Invariant c st) (hsensors : SensorsCounted c st) : LiveRequests c st where
  currentStatus d hkind := by
    rw [h.currentStatus hkind]
    congr 1
    exact List.map_congr_left fun a _ => (h.wanted a d).symm
  numActive := h.numActive
  sensorNumActive := hsensors

theorem settled_initial (info : DeviceInfo) : DeviceState.Settled info {} where
  currentStatus := rfl
  inTable _ _ _ hv := nomatch hv

theorem activeCount_inactive (ids : List Nat) (threadOf : Nat → Nat) :
    activeCount ids threadOf (fun _ => false) = fun _ => 0 := by
  funext t
  rw [activeCount, List.countP_eq_zero]
  intro i _
  rw [Bool.and_false]
  exact Bool.false_ne_true

theorem invariant_parsed (c : Config) : Invariant c c.parsed where
  algoItems := rfl
  settled d _ := settled_initial (c.device d)
  registered _ h := nomatch h
  released a _ d := (c.algo a).held_initial d
  own d _ a _ := ((c.algo a).held_initial d).symm
  keys _ _ _ _ h := nomatch h
  numActive := (activeCount_inactive _ _).symm

theorem invariant_boot (c : Config) : Invariant c c.boot := (invariant_parsed c).sameItems (State.boot_sameItems c)

theorem sensorsCounted_boot (c : Config) : SensorsCounted c c.boot := by
  rw [Config.boot]
  apply List.foldlRecOn
  · exact (activeCount_inactive _ _).symm
  · intro st h s hs
    split
    · exact h.activateSensor hs
    · exact h

theorem levelsInRange_boot (c : Config) : LevelsInRange c c.boot := by
  intro a m _
  rw [(State.boot_sameItems c).algo]
  exact Nat.zero_le _

/-- After every sequence of steps the limits are the live requests. A step has no result only where
a monitor's lists do not fit together. -/
theorem liveRequests_run (c : Config) (hnames : c.NamesDistinct) (hactions : c.ActionsInTable) :
    (∀ events st, c.run events = some st → LiveRequests c st) ∧
      (c.Shaped → ∀ events, ∃ st, c.run events = some st) := by
  constructor
  · intro events st hst
    have hkept : Invariant c st ∧ SensorsCounted c st := by
      refine foldlM_keeps (P := fun st => Invariant c st ∧ SensorsCounted c st) ?_
        ⟨invariant_boot c, sensorsCounted_boot c⟩ hst
      rintro st st' event - ⟨hinv, hsensors⟩ hstep
      exact ⟨hinv.step hnames hactions hstep, hsensors.step hstep⟩
    exact hkept.1.liveRequests hkept.2
  · intro hshaped events
    have hkept : ∃ st, c.run events = some st ∧ Invariant c st ∧ LevelsInRange c st := by
      apply foldlM_total
      · intro st event _ h
        exact step_defined h.1 h.2 hnames hactions hshaped event
      · exact ⟨invariant_boot c, levelsInRange_boot c⟩
    obtain ⟨st, hst, -⟩ := hkept
    exact ⟨st, hst⟩

def sharedDevice : Config where
  algo a :=
    if a = 0 then .monitor "MON" 0 0 false [[0], [0]] [[1], [3]] [50000, 60000] [45000, 55000]
    else .ss "SS" 55000 50000 1 false 0 1 0 2 0
  device _ := { kind := .cpuFreq, leveltoValue := ["2210000", "2106000", "2002000", "1846000"] }
  sensor _ := { thread := 0, kind := .real }
  sensors := [0]
  sensors_nodup := List.nodup_singleton 0
  items := [(0, "Default"), (1, "Default")]
  items_nodup := by decide

theorem sharedDevice_namesDistinct : sharedDevice.NamesDistinct := by
  rw [Config.NamesDistinct]
  decide

theorem sharedDevice_actionsInTable : sharedDevice.ActionsInTable := by
  intro a m hkind i devices actions hdevs hactions r hr _ _
  by_cases ha : a = 0
  · subst ha
    cases hkind
    rcases i with _ | _ | i
    · cases hdevs
      cases hactions
      rw [List.mem_singleton.mp hr]
      decide
    · cases hdevs
      cases hactions
      rw [List.mem_singleton.mp hr]
      decide
    · cases hdevs
  · rw [sharedDevice] at hkind
    dsimp only at hkind
    rw [if_neg ha] at hkind
    cases hkind

theorem liveRequests_run_sharedDevice : (sharedDevice.run [.update 0 61000, .decide 1, .decide 0]).map
        (fun st => (st.device 0).currentStatus) = some 3 ∧
      ∀ st, sharedDevice.run [.update 0 61000, .decide 1, .decide 0] = some st → LiveRequests sharedDevice st := by
  constructor
  · decide
  · exact (liveRequests_run sharedDevice sharedDevice_namesDistinct sharedDevice_actionsInTable).1 _

end

end ExynosHal.Thermal
