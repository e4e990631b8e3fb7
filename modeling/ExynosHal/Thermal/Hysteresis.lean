import ExynosHal.Library.Run
import ExynosHal.Thermal.Algo

/-! # Hysteresis of a monitor

A monitor rises by its thresholds and falls by its clear thresholds.
-/

namespace ExynosHal.Thermal.Hysteresis
open Library.Run
open Option (bind_eq_some_iff getD_some map_eq_some_iff)
open MonitorInfo (reached newStatus decision deactivate)

/-- A `Monitor` item with the devices it limits. -/
structure Monitor where
  item : AlgoItem
  info : MonitorInfo
  kind_eq : item.kind = .monitor info
  device : Nat → DeviceInfo

structure State where
  item : AlgoState := {}
  devices : Nat → DeviceState := fun _ => {}

/-- `others` are the requests of another item. -/
inductive Event where
  | decision (temp : Int)
  | activate
  | deactivate
  | others (name : String) (requests : List (Nat × Int))

structure Ordered (m : MonitorInfo) : Prop where
  length_pos : 0 < m.thresholds.length
  length_eq : m.clrThresholds.length = m.thresholds.length
  clr_le : ∀ (i : Nat) thr clr, m.thresholds[i]? = some thr → m.clrThresholds[i]? = some clr → clr ≤ thr

def Holds (m : MonitorInfo) (temp : Int) (status : Nat) : Prop :=
  status = 0 ∨ ∃ clr, m.clrThresholds[status - 1]? = some clr ∧ clr ≤ temp

def Suffices (m : MonitorInfo) (temp : Int) (status : Nat) : Prop :=
  status = m.thresholds.length ∨ ∃ thr, m.thresholds[status]? = some thr ∧ temp < thr

structure Decided (m : MonitorInfo) (temp : Int) (status status' : Nat) : Prop where
  le_length : status' ≤ m.thresholds.length
  holds : Holds m temp status'
  suffices_next : Suffices m temp status'
  changes : status' ≠ status → ¬ (Holds m temp status ∧ Suffices m temp status)

section
variable {m : MonitorInfo} {temp : Int} {status status' : Nat}

theorem reached_spec (thresholds : List Int) (temp : Int) : reached thresholds temp ≤ thresholds.length ∧
      (∀ i < reached thresholds temp, ∃ t, thresholds[i]? = some t ∧ t ≤ temp) ∧
      (reached thresholds temp = thresholds.length ∨
        ∃ t, thresholds[reached thresholds temp]? = some t ∧ temp < t) := by
  induction thresholds with
  | nil => exact ⟨le_rfl, (fun i hi => nomatch hi), .inl rfl⟩
  | cons first rest ih =>
    obtain ⟨hle, hbelow, hnext⟩ := ih
    rw [reached, List.takeWhile_cons]
    by_cases hfst : first ≤ temp
    · rw [if_pos (decide_eq_true hfst), List.length_cons, ← MonitorInfo.reached.eq_def]
      refine ⟨Nat.succ_le_succ hle, ?_, ?_⟩
      · rintro (_ | i) hi
        · exact ⟨first, rfl, hfst⟩
        · exact hbelow i (Nat.lt_of_succ_lt_succ hi)
      · exact hnext.imp (congrArg Nat.succ) id
    · rw [if_neg (by simpa using hfst)]
      exact ⟨Nat.zero_le _, (fun i hi => nomatch hi), .inr ⟨first, rfl, by omega⟩⟩

theorem Ordered.level (h : Ordered m) {i : Nat} (hi : i < m.thresholds.length) :
    ∃ thr clr, m.thresholds[i]? = some thr ∧ m.clrThresholds[i]? = some clr ∧ clr ≤ thr := by
  have hthr := List.getElem?_eq_getElem hi
  have hclr := List.getElem?_eq_getElem (h.length_eq ▸ hi)
  exact ⟨_, _, hthr, hclr, h.clr_le i _ _ hthr hclr⟩

theorem rise_decided (h : Ordered m)
    (hrise : status = 0 ∨ (m.thresholds.getD status 0 ≤ temp ∧ status < m.thresholds.length)) :
    Decided m temp status (reached m.thresholds temp) := by
  obtain ⟨hle, hbelow, hnext⟩ := reached_spec m.thresholds temp
  refine ⟨hle, ?_, hnext, ?_⟩
  · by_cases hzero : reached m.thresholds temp = 0
    · exact .inl hzero
    · obtain ⟨t, ht, htemp⟩ := hbelow (reached m.thresholds temp - 1) (by omega)
      obtain ⟨thr, clr, hthr, hclr, hclrle⟩ := h.level (show reached m.thresholds temp - 1 < _ by omega)
      rw [ht] at hthr
      cases hthr
      exact .inr ⟨clr, hclr, hclrle.trans htemp⟩
  · rintro hchanged ⟨-, hsuffices⟩
    have hlt : status < m.thresholds.length := by
      have hpos := h.length_pos
      rcases hrise with hzero | ⟨-, hlt⟩
      · omega
      · exact hlt
    obtain ⟨thr, hthr, htemp⟩ := hsuffices.resolve_left (by omega)
    rcases hrise with rfl | ⟨hreached, -⟩
    · obtain ⟨t, ht, hbelow⟩ := hbelow 0 (by omega)
      rw [hthr] at ht
      cases ht
      omega
    · rw [List.getD_eq_getElem?_getD, hthr, getD_some] at hreached
      omega

theorem fall_decided (h : Ordered m) (hpos : status ≠ 0) {clr : Int} (hclr : m.clrThresholds[status - 1]? = some clr)
    (hfall : temp < clr) : Decided m temp status (reached m.clrThresholds temp) := by
  obtain ⟨hle, hbelow, hnext⟩ := reached_spec m.clrThresholds temp
  rw [h.length_eq] at hle hnext
  refine ⟨hle, ?_, ?_, ?_⟩
  · by_cases hzero : reached m.clrThresholds temp = 0
    · exact .inl hzero
    · exact .inr (hbelow _ (by omega))
  · refine hnext.imp id ?_
    rintro ⟨clr', hclr', htemp⟩
    have hlt := (List.getElem?_eq_some_iff.mp hclr').1
    obtain ⟨thr, clr'', hthr, hclr'', hclrle⟩ := h.level (h.length_eq ▸ hlt)
    rw [hclr'] at hclr''
    cases hclr''
    exact ⟨thr, hthr, by omega⟩
  · rintro - ⟨hholds, -⟩
    obtain ⟨clr', hclr', htemp⟩ := hholds.resolve_left hpos
    rw [hclr] at hclr'
    cases hclr'
    omega

theorem newStatus_decided (h : Ordered m) (hstat : status ≤ m.thresholds.length)
    (hnew : m.newStatus temp status = some status') : Decided m temp status status' := by
  rw [newStatus] at hnew
  split at hnew
  · rename_i hrise
    cases hnew
    exact rise_decided h hrise
  · rename_i hstays
    have hpos : status ≠ 0 := fun hzero => hstays (.inl hzero)
    split at hnew
    · cases hnew
    · rename_i clr hclr
      split at hnew
      · cases hnew
        exact fall_decided h hpos hclr ‹_›
      · cases hnew
        refine ⟨hstat, .inr ⟨clr, hclr, by omega⟩, ?_, fun hchanged => absurd rfl hchanged⟩
        by_cases htop : status = m.thresholds.length
        · exact .inl htop
        · obtain ⟨thr, -, hthr, -, -⟩ := h.level (show status < _ by omega)
          refine .inr ⟨thr, hthr, ?_⟩
          rw [List.getD_eq_getElem?_getD, hthr, getD_some] at hstays
          omega

end

section
variable {info : Nat → DeviceInfo} {devices devices' : Nat → DeviceState}

theorem markReported_lookup (entries : List (Sigma fun _ : String => Int)) (request : AList fun _ : String => Int)
    (n : String) :
    let request' := entries.foldl (fun request r => if r.2 = 1 ∨ r.2 = 0 then request.insert r.1 2 else request) request
    request'.lookup n = request.lookup n ∨ request'.lookup n = some 2 := by
  induction entries generalizing request with
  | nil => exact .inl rfl
  | cons r entries ih =>
    dsimp only [List.foldl_cons]
    split
    · rcases ih (request.insert r.1 2) with hsame | hmark
      · rw [hsame]
        by_cases hn : n = r.1
        · rw [hn]
          exact .inr (AList.lookup_insert request)
        · exact .inl (AList.lookup_insert_ne hn)
      · exact .inr hmark
    · exact ih request

theorem statusApply_lookup {info : DeviceInfo} {d d' : DeviceState} (h : d.statusApply info = some d') (n : String) :
    d'.request.lookup n = d.request.lookup n ∨ (info.kind = .report ∧ d'.request.lookup n = some 2) := by
  by_cases hkind : info.kind = .report
  · rw [DeviceState.statusApply, hkind] at h
    cases h
    exact (markReported_lookup d.request.entries d.request n).imp_right (And.intro hkind)
  · rw [statusApply_request hkind h]
    exact .inl rfl

theorem applyAll_lookup {ids : List Nat} (h : applyAll info ids devices = some devices') (d : Nat) (n : String) :
    (devices' d).request.lookup n = (devices d).request.lookup n ∨
      ((info d).kind = .report ∧ (devices' d).request.lookup n = some 2) := by
  induction ids generalizing devices with
  | nil =>
    cases h
    exact .inl rfl
  | cons id ids ih =>
    rw [applyAll, List.foldlM_cons, Option.bind_eq_bind, bind_eq_some_iff] at h
    obtain ⟨next, hnext, hrest⟩ := h
    obtain ⟨device', happly, rfl⟩ := map_eq_some_iff.mp hnext
    rcases ih hrest with hsame | hmark
    · rw [hsame]
      by_cases hd : d = id
      · subst hd
        rw [Function.update_self]
        exact statusApply_lookup happly n
      · rw [Function.update_of_ne hd]
        exact .inl rfl
    · exact .inr hmark

theorem requestLevels_lookup {name : String} {requests : List (Nat × Int)}
    (h : requestLevels info name requests devices = some devices') (d : Nat) (n : String) :
    (devices' d).request.lookup n =
        (if n = name then (actionOn requests d).or ((devices d).request.lookup name) else (devices d).request.lookup
          n) ∨
      ((info d).kind = .report ∧ (devices' d).request.lookup n = some 2) := by
  have hentered := controlAll_entered name requests devices
  refine (applyAll_lookup h d n).imp_left fun hsame => hsame.trans ?_
  split
  · rename_i hn
    rw [hn, hentered.own]
  · rename_i hn
    exact hentered.other d n hn

end

namespace Monitor

variable (mon : Monitor)

def carryOut (st : State) (outcome : Outcome) : Option State :=
  (requestLevels mon.device mon.item.name outcome.requests st.devices).map fun devices =>
    { item := outcome.next, devices := devices }

def step (st : State) : Event → Option State
  | .decision temp => (mon.info.decision (signed mon.item.isNegative temp) st.item).bind (mon.carryOut st)
  | .activate => some { st with item := { st.item with activeStatus := true } }
  | .deactivate => (mon.info.deactivate st.item).bind (mon.carryOut st)
  | .others name requests =>
    (requestLevels mon.device name requests st.devices).map fun devices => { st with devices := devices }

def Valid : Event → Prop
  | .others name _ => name ≠ mon.item.name
  | _ => True

instance : (event : Event) → Decidable (mon.Valid event)
  | .others name _ => inferInstanceAs (Decidable (name ≠ mon.item.name))
  | .decision _ | .activate | .deactivate => isTrue trivial

def OwnRequests (st : State) : Prop := ∀ d v, (st.devices d).request.lookup mon.item.name = some v → v ≠ 0 →
    (∃ requests, mon.info.levelRequests st.item.status = some requests ∧ (d, v) ∈ requests) ∨
      ((mon.device d).kind = .report ∧ v = 2)

structure Invariant (st : State) : Prop where
  status_le : st.item.status ≤ mon.info.thresholds.length
  requests : ∀ d, ((st.devices d).request.lookup mon.item.name).getD 0 = mon.item.held st.item d ∨
    ((mon.device d).kind = .report ∧ (st.devices d).request.lookup mon.item.name = some 2)

variable {mon : Monitor} {st st' : State}

theorem Invariant.ownRequests (h : mon.Invariant st) : mon.OwnRequests st := by
  intro d v hv hne
  rcases h.requests d with hheld | ⟨hkind, hmark⟩
  · left
    rw [hv, getD_some, AlgoItem.held, mon.kind_eq] at hheld
    dsimp only at hheld
    cases haction : actionOn ((mon.info.levelRequests st.item.status).getD []) d with
    | none =>
      rw [haction] at hheld
      exact absurd hheld hne
    | some w =>
      rw [haction, getD_some] at hheld
      have hmem := mem_of_actionOn haction
      cases hreqs : mon.info.levelRequests st.item.status with
      | none =>
        rw [hreqs] at hmem
        cases hmem
      | some requests =>
        rw [hreqs, getD_some, ← hheld] at hmem
        exact ⟨requests, rfl, hmem⟩
  · rw [hmark] at hv
    cases hv
    exact .inr ⟨hkind, rfl⟩

theorem invariant_initial (mon : Monitor) : mon.Invariant {} where
  status_le := Nat.zero_le _
  requests d := .inl (mon.item.held_initial d).symm

variable {outcome : Outcome}

theorem Invariant.carryOut (h : mon.Invariant st) (hsound : outcome.Sound mon.item st.item)
    (hle : outcome.next.status ≤ mon.info.thresholds.length) (hst : mon.carryOut st outcome = some st') :
    st'.item = outcome.next ∧ mon.Invariant st' := by
  obtain ⟨devices, hdevs, rfl⟩ := map_eq_some_iff.mp hst
  refine ⟨rfl, hle, fun d => ?_⟩
  dsimp only
  rcases requestLevels_lookup hdevs d mon.item.name with hown | hmark
  · rw [if_pos rfl] at hown
    rw [hown, hsound.held d]
    cases actionOn outcome.requests d with
    | some v => exact .inl rfl
    | none => exact h.requests d
  · exact .inr hmark

theorem Invariant.others (h : mon.Invariant st) {name : String} (hname : name ≠ mon.item.name)
    {requests : List (Nat × Int)} {devices : Nat → DeviceState}
    (hdevs : requestLevels mon.device name requests st.devices = some devices) :
    mon.Invariant { st with devices := devices } where
  status_le := h.status_le
  requests d := by
    rcases requestLevels_lookup hdevs d mon.item.name with hsame | hmark
    · rw [if_neg (Ne.symm hname)] at hsame
      rw [hsame]
      exact h.requests d
    · exact .inr hmark

variable {m : MonitorInfo} {temp : Int} {s : AlgoState}

theorem decision_status
    (h : m.decision temp s = some outcome) : m.newStatus temp s.status = some outcome.next.status := by
  rw [decision] at h
  split at h
  · cases h
  · rename_i newStatus hnew
    rw [hnew]
    split at h
    · rename_i hsame
      cases h
      exact congrArg some hsame
    · split at h
      · rename_i hchanged hzero
        rw [deactivate, if_neg (hzero ▸ Ne.symm hchanged)] at h
        split at h
        · cases h
        · cases h
          exact congrArg some hzero
      · split at h
        · cases h
          rfl
        · cases h

theorem deactivate_status (h : m.deactivate s = some outcome) : outcome.next.status = 0 := by
  rw [deactivate] at h
  split at h
  · cases h
    assumption
  · split at h
    · cases h
    · cases h
      rfl

theorem Invariant.decision (horder : Ordered mon.info) (h : mon.Invariant st)
    (hst : mon.step st (.decision temp) = some st') :
    Decided mon.info (signed mon.item.isNegative temp) st.item.status st'.item.status ∧ mon.Invariant st' := by
  obtain ⟨outcome, houtcome, hcarry⟩ := unbind hst
  have hdecided := newStatus_decided horder h.status_le (decision_status houtcome)
  obtain ⟨hitem, hnext⟩ := h.carryOut (MonitorInfo.decision_sound mon.kind_eq houtcome) hdecided.le_length hcarry
  rw [hitem]
  exact ⟨hdecided, hnext⟩

theorem Invariant.step (horder : Ordered mon.info) (h : mon.Invariant st) {event : Event} (hevent : mon.Valid event)
    (hst : mon.step st event = some st') : mon.Invariant st' := by
  cases event with
  | decision temp => exact (h.decision horder hst).2
  | activate =>
    cases hst
    refine ⟨h.status_le, fun d => ?_⟩
    refine (h.requests d).imp_left fun hheld => hheld.trans ?_
    rw [AlgoItem.held, AlgoItem.held, mon.kind_eq]
  | deactivate =>
    obtain ⟨outcome, houtcome, hcarry⟩ := unbind hst
    have hle : outcome.next.status ≤ mon.info.thresholds.length := (deactivate_status houtcome).trans_le (Nat.zero_le _)
    exact (h.carryOut (MonitorInfo.deactivate_sound mon.kind_eq houtcome) hle hcarry).2
  | others name requests =>
    obtain ⟨devices, hdevs, rfl⟩ := map_eq_some_iff.mp hst
    exact h.others hevent hdevs

/-- Every decision follows the thresholds with their hysteresis, and the requests left are those of the level. -/
theorem hysteresis_run (mon : Monitor) (horder : Ordered mon.info) {events : List Event}
    (hevents : ∀ event ∈ events, mon.Valid event) :
    EachDefinedStep mon.step (fun st event => ∀ temp st', event = .decision temp → mon.step st event = some st' →
      Decided mon.info (signed mon.item.isNegative temp) st.item.status st'.item.status ∧ mon.OwnRequests st') {}
      events := by
  apply eachDefinedStep_of_invariant (I := mon.Invariant) (V := fun _ event => mon.Valid event) _
    (invariant_initial mon) (.of_forall_mem hevents)
  intro st event hinv hevent
  refine ⟨?_, fun st' hst => hinv.step horder hevent hst⟩
  rintro temp st' rfl hst
  obtain ⟨hdecided, hnext⟩ := hinv.decision horder hst
  exact ⟨hdecided, hnext.ownRequests⟩

def charger : Monitor where
  item := .monitor "CHG" 0 0 false [[0], [0, 1]] [[1], [3, 1]] [42000, 46000] [40000, 43000]
  info := {
      thresholds := [42000, 46000], clrThresholds := [40000, 43000]
      device := [[0], [0, 1]], actionInfo := [[1], [3, 1]] }
  kind_eq := rfl
  device d :=
    if d = 0 then { kind := .base, leveltoValue := ["3000", "2000", "1500", "1000"] }
    else { kind := .report, leveltoValue := [] }

theorem charger_ordered : Ordered charger.info where
  length_pos := by decide
  length_eq := rfl
  clr_le i thr clr hthr hclr := by
    rcases i with _ | _ | i
    · cases hthr
      cases hclr
      decide
    · cases hthr
      cases hclr
      decide
    · cases hthr

theorem hysteresis_run_charger :
    EachDefinedStep charger.step (fun st event => ∀ temp st', event = .decision temp → charger.step st event =
      some st' → Decided charger.info (signed charger.item.isNegative temp) st.item.status st'.item.status ∧
        charger.OwnRequests st') {} [.activate, .decision 47000, .others "SS" [(0, 2)], .decision 42000, .deactivate] :=
  hysteresis_run charger charger_ordered (by decide)

/-- Back at level 0 the report device has the mark under the monitor's name. -/
theorem cleared_report_marked :
    ∃ st, [Event.activate, .decision 47000, .decision 39000].foldlM charger.step {} = some st ∧
      st.item.status = 0 ∧ (st.devices 1).request.lookup "CHG" = some 2 ∧
      ¬ ∀ d v, (st.devices d).request.lookup charger.item.name = some v → v ≠ 0 →
        ∃ requests, charger.info.levelRequests st.item.status = some requests ∧ (d, v) ∈ requests := by
  have hrun : ([Event.activate, .decision 47000, .decision 39000].foldlM charger.step {}).map
      (fun st => (st.item.status, (st.devices 1).request.lookup "CHG")) = some (0, some 2) := by decide
  obtain ⟨st, hst, hends⟩ := map_eq_some_iff.mp hrun
  obtain ⟨hstat, hmark⟩ := Prod.mk.injEq .. ▸ hends
  refine ⟨st, hst, hstat, hmark, fun hown => ?_⟩
  obtain ⟨requests, hreqs, hmem⟩ := hown 1 2 hmark (by decide)
  rw [hstat, MonitorInfo.levelRequests, if_pos rfl] at hreqs
  cases hreqs
  cases hmem

end Monitor

end ExynosHal.Thermal.Hysteresis
