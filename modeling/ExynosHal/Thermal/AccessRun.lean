import ExynosHal.Thermal.Access
import ExynosHal.Thermal.Parser.Terminates

/-! # Which runs stay within their lists

The deepest request on a device stays a level of its table if every action that is requested is one, and a
level that a monitor reaches by a decision has devices that exist.
-/

namespace ExynosHal.Thermal.Access
open Library Library.Run Library.Fueled ExynosHal.Thermal.Parser
open Function (update_of_ne update_self)

section

def AtLevel (info : DeviceInfo) (level : Int) : Prop :=
  info.kind = .report ∨ info.kind = .dummy ∨ info.leveltoValue = [] ∨ level < info.leveltoValue.length

instance (info : DeviceInfo) (level : Int) : Decidable (AtLevel info level) :=
  inferInstanceAs (Decidable (_ ∨ _ ∨ _ ∨ _))

variable {info : DeviceInfo} {d : DeviceState}

theorem AtLevel.zero : AtLevel info 0 := by
  by_cases hnil : info.leveltoValue = []
  · exact .inr (.inr (.inl hnil))
  · have hpos := List.length_pos_iff.mpr hnil
    exact .inr (.inr (.inr (by omega)))

theorem atLevel_lowest_iff :
    AtLevel info d.getLowestStatus ↔ ∀ name v, d.request.lookup name = some v → AtLevel info v := by
  by_cases hfree : info.kind = .report ∨ info.kind = .dummy ∨ info.leveltoValue = []
  · have hany (level : Int) : AtLevel info level := by
      rcases hfree with h | h | h
      · exact .inl h
      · exact .inr (.inl h)
      · exact .inr (.inr (.inl h))
    exact iff_of_true (hany _) fun _ v _ => hany v
  · have hlvl (level : Int) : AtLevel info level ↔ level ≤ info.leveltoValue.length - 1 := by
      rw [not_or, not_or] at hfree
      rw [AtLevel, or_iff_right hfree.1, or_iff_right hfree.2.1, or_iff_right hfree.2.2]
      omega
    have hnil : info.leveltoValue ≠ [] := fun h => hfree (.inr (.inr h))
    have hpos := List.length_pos_iff.mpr hnil
    simp only [hlvl]
    rw [DeviceState.getLowestStatus_le_iff]
    exact and_iff_right (by omega)

theorem statusApply_atLevel (h : AtLevel info d.getLowestStatus) :
    ∃ d', d.statusApply info = some d' ∧ AtLevel info d'.getLowestStatus := by
  have hlow := d.getLowestStatus_nonneg
  have htable (hkind : info.kind ≠ .report) (hdummy : info.kind ≠ .dummy) :
      ∃ d', d.applyLevel info.leveltoValue = some d' ∧ d'.getLowestStatus = d.getLowestStatus := by
    rw [DeviceState.applyLevel]
    by_cases hnil : info.leveltoValue = []
    · exact ⟨d, if_pos hnil, rfl⟩
    · have hlt : d.getLowestStatus < info.leveltoValue.length :=
        ((h.resolve_left hkind).resolve_left hdummy).resolve_left hnil
      have hidx : d.getLowestStatus.toNat < info.leveltoValue.length := by omega
      rw [if_neg hnil, List.getElem?_eq_getElem hidx]
      dsimp only
      split
      · exact ⟨d, rfl, rfl⟩
      · exact ⟨_, rfl, rfl⟩
  rw [DeviceState.statusApply]
  cases hk : info.kind with
  | base | camera | cpuFreq =>
    obtain ⟨d', happly, hsame⟩ := htable (by rw [hk]; decide) (by rw [hk]; decide)
    exact ⟨d', happly, hsame ▸ h⟩
  | report => exact ⟨_, rfl, .inl hk⟩
  | dummy => exact ⟨_, rfl, .inr (.inl hk)⟩

end

def Fits (info : Nat → DeviceInfo) (devices : Nat → DeviceState) : Prop :=
  ∀ d, AtLevel (info d) (devices d).getLowestStatus

variable {info : Nat → DeviceInfo} {devices : Nat → DeviceState}

theorem applyAll_fits (ids : List Nat) (h : Fits info devices) :
    ∃ devices', applyAll info ids devices = some devices' ∧ Fits info devices' := by
  induction ids generalizing devices with
  | nil => exact ⟨devices, rfl, h⟩
  | cons id ids ih =>
    obtain ⟨device, happly, hlvl⟩ := statusApply_atLevel (h id)
    have hnext : Fits info (Function.update devices id device) := by
      intro d
      by_cases hd : d = id
      · subst hd
        rwa [update_self]
      · rw [update_of_ne hd]
        exact h d
    obtain ⟨devices', hrest, hfits⟩ := ih hnext
    refine ⟨devices', ?_, hfits⟩
    rw [applyAll, List.foldlM_cons, happly]
    exact hrest

def ActionsFit (info : Nat → DeviceInfo) (requests : List (Nat × Int)) : Prop :=
  ∀ r ∈ requests, ∀ v ∈ actionOn requests r.1, AtLevel (info r.1) v

instance (info : Nat → DeviceInfo) (requests : List (Nat × Int)) : Decidable (ActionsFit info requests) :=
  inferInstanceAs (Decidable (∀ r ∈ requests, _))

theorem requestLevels_fits {requests : List (Nat × Int)} (name : String)
    (h : Fits info devices) (hreqs : ActionsFit info requests) :
    ∃ devices', requestLevels info name requests devices = some devices' ∧ Fits info devices' := by
  have hentered := controlAll_entered name requests devices
  apply applyAll_fits
  intro d
  rw [atLevel_lowest_iff]
  intro n v hv
  have hold := atLevel_lowest_iff.mp (h d)
  by_cases hn : n = name
  · subst hn
    rw [hentered.own] at hv
    cases haction : actionOn requests d with
    | none =>
      rw [haction, Option.none_or] at hv
      exact hold n v hv
    | some w =>
      rw [haction, Option.some_or] at hv
      cases hv
      exact hreqs (d, v) (mem_of_actionOn haction) v haction
  · rw [hentered.other d n hn] at hv
    exact hold n v hv

variable {c : Config} {st : State}

theorem request_fits {requests : List (Nat × Int)} (name : String)
    (h : Fits c.device st.device) (hreqs : ActionsFit c.device requests) :
    ∃ device, st.request c name requests = .ok { st with device := device } ∧ Fits c.device device := by
  obtain ⟨device, hdev, hfits⟩ := requestLevels_fits name h hreqs
  refine ⟨device, ?_, hfits⟩
  rw [State.request, hdev]

theorem ActionsFit.of_forall {requests : List (Nat × Int)}
    (h : ∀ r ∈ requests, AtLevel (info r.1) r.2) : ActionsFit info requests :=
  fun r _ v hv => h (r.1, v) (mem_of_actionOn hv)

theorem actionsFit_zeros (info : Nat → DeviceInfo) (ids : List Nat) : ActionsFit info (ids.map fun d => (d, 0)) :=
  .of_forall (List.forall_mem_map.mpr fun _ _ => .zero)

theorem ActionsFit.release {requests : List (Nat × Int)} (h : ActionsFit info requests)
    (released : List Nat) : ActionsFit info (released.map (fun d => (d, 0)) ++ requests) := by
  intro r _ v hv
  rw [actionOn_append] at hv
  cases haction : actionOn requests r.1 with
  | none =>
    rw [haction, Option.none_or] at hv
    exact actionsFit_zeros info released (r.1, v) (mem_of_actionOn hv) v hv
  | some w =>
    rw [haction, Option.some_or] at hv
    cases hv
    exact h (r.1, v) (mem_of_actionOn haction) v haction

section
variable {α β : Type}

theorem ok_bind (x : α) (f : α → Except Failure β) : (.ok x >>= f) = f x := rfl

theorem index_eq_ok {xs : List α} {i : Nat} (default : α) (h : i < xs.length) :
    index xs i = .ok (xs.getD i default) := by
  rw [index, List.getD_eq_getElem?_getD, List.getElem?_eq_getElem h, Option.getD_some]

theorem mapM_nonNull {xs : List (Option α)} (h : ∀ x ∈ xs, x.isSome) : xs.mapM nonNull = .ok (xs.filterMap id) := by
  induction xs with
  | nil => rfl
  | cons x xs ih =>
    obtain ⟨hx, hxs⟩ := List.forall_mem_cons.mp h
    obtain ⟨y, rfl⟩ := Option.isSome_iff_exists.mp hx
    rw [List.mapM_cons, ih hxs]
    rfl

end

namespace MonitorLists

variable (m : MonitorLists)

def StatusInRange (temp : Int) (status : Nat) : Prop :=
  status = 0 ∨ status < m.thresholds.length ∧ (m.thresholds.getD status 0 ≤ temp ∨ status ≤ m.clrThresholds.length)

instance (temp : Int) (status : Nat) : Decidable (m.StatusInRange temp status) :=
  inferInstanceAs (Decidable (_ ∨ _))

def level (temp : Int) (status : Nat) : Nat :=
  if status = 0 ∨ m.thresholds.getD status 0 ≤ temp then MonitorInfo.reached m.thresholds temp
  else if temp < m.clrThresholds.getD (status - 1) 0 then MonitorInfo.reached m.clrThresholds temp
  else status

def HasDevices (level : Nat) : Prop := level ≤ m.device.length ∧ ∀ d ∈ m.device.getD (level - 1) [], d.isSome

def requests (level : Nat) : List (Nat × Int) :=
  ((m.device.getD (level - 1) []).filterMap id).zip (m.actionInfo.getD (level - 1) [])

def Complete (c : Config) (level : Nat) : Prop :=
  m.HasDevices level ∧ (m.device.getD (level - 1) []).length ≤ (m.actionInfo.getD (level - 1) []).length ∧
    ActionsFit c.device (m.requests level)

instance (c : Config) (level : Nat) : Decidable (m.Complete c level) :=
  inferInstanceAs (Decidable ((_ ∧ _) ∧ _ ∧ _))

variable {m} {c : Config} {a : Nat} {st : State} {temp : Int} {status : Nat}

theorem newStatus_eq (h : m.StatusInRange temp status) : m.newStatus temp status = .ok (m.level temp status) := by
  rw [newStatus, level]
  by_cases hzero : status = 0
  · rw [if_pos hzero, if_pos (.inl hzero)]
  · obtain ⟨hlt, hclr⟩ := h.resolve_left hzero
    rw [if_neg hzero, index_eq_ok 0 hlt]
    by_cases hrises : m.thresholds.getD status 0 ≤ temp
    · rw [if_pos (.inr hrises)]
      exact if_pos ⟨hrises, hlt⟩
    · have hidx : status - 1 < m.clrThresholds.length := by
        have hle := hclr.resolve_left hrises
        omega
      rw [if_neg (not_or.mpr ⟨hzero, hrises⟩)]
      refine (if_neg fun hcond => hrises hcond.1).trans ?_
      rw [index_eq_ok 0 hidx]
      exact (apply_ite Except.ok _ _ _).symm

theorem levelDevices_eq (h : status ≠ 0 → m.HasDevices status) : ∃ ids, m.levelDevices status = .ok ids := by
  rw [levelDevices]
  by_cases hzero : status = 0
  · exact ⟨[], if_pos hzero⟩
  · obtain ⟨hle, hsome⟩ := h hzero
    have hidx : status - 1 < m.device.length := by omega
    rw [if_neg hzero, index_eq_ok [] hidx]
    exact ⟨_, mapM_nonNull hsome⟩

theorem mapM_action {actionInfo : List (List Int)} {level k : Nat} {devices : List (Option Nat)}
    (hsome : ∀ d ∈ devices, d.isSome) (hlen : k + devices.length ≤ (actionInfo.getD level []).length) :
    ((devices.zipIdx k).mapM fun (d, i) => do
      let actions ← index actionInfo level
      let action ← index actions i
      let d ← nonNull d
      return (d, action)) = .ok ((devices.filterMap id).zip ((actionInfo.getD level []).drop k)) := by
  induction devices generalizing k with
  | nil => rfl
  | cons d devices ih =>
    obtain ⟨hd, hdevs⟩ := List.forall_mem_cons.mp hsome
    obtain ⟨id, rfl⟩ := Option.isSome_iff_exists.mp hd
    rw [List.length_cons] at hlen
    have hk : k < (actionInfo.getD level []).length := by omega
    have hlvl : level < actionInfo.length := by
      by_contra hout
      rw [List.getD_eq_getElem?_getD, List.getElem?_eq_none (by omega)] at hk
      exact Nat.not_lt_zero k hk
    have haction : index (actionInfo.getD level []) k = .ok (actionInfo.getD level [])[k] := by
      rw [index, List.getElem?_eq_getElem hk]
    rw [List.zipIdx_cons, List.mapM_cons, ih hdevs (by omega), index_eq_ok [] hlvl, List.drop_eq_getElem_cons hk]
    change (index (actionInfo.getD level []) k >>= fun action => _) >>= _ = _
    rw [haction]
    rfl

theorem levelRequests_eq {level : Nat} (hpos : level ≠ 0) (h : m.Complete c level) :
    m.levelRequests level = .ok (m.requests level) := by
  obtain ⟨⟨hle, hsome⟩, hlen, -⟩ := h
  have hidx : level - 1 < m.device.length := by omega
  rw [levelRequests, index_eq_ok [] hidx]
  exact mapM_action hsome (by omega)

structure Served (m : MonitorLists) (c : Config) (a : Nat) (st st' : State) : Prop where
  fits : Fits c.device st'.device
  level : (st'.algo a).status ≠ 0 → m.HasDevices (st'.algo a).status
  others : ∀ b ≠ a, st'.algo b = st.algo b

theorem deactivate_served (name : String) (hfits : Fits c.device st.device)
    (hlvl : (st.algo a).status ≠ 0 → m.HasDevices (st.algo a).status) :
    ∃ st', m.deactivate c name a st = .ok st' ∧ Served m c a st st' := by
  rw [deactivate]
  by_cases hzero : (st.algo a).status = 0
  · exact ⟨st, if_pos hzero, hfits, hlvl, fun _ _ => rfl⟩
  · obtain ⟨released, hrel⟩ := levelDevices_eq hlvl
    obtain ⟨device, hreq, hdev⟩ := request_fits name hfits (actionsFit_zeros c.device released)
    rw [if_neg hzero, hrel]
    refine ⟨({ st with device := device } : State).setAlgo a { st.algo a with activeStatus := false, status := 0 },
      ?_, hdev, ?_, ?_⟩
    · rw [ok_bind, hreq]
      rfl
    · intro hpos
      rw [State.setAlgo] at hpos
      dsimp only at hpos
      rw [update_self] at hpos
      exact absurd rfl hpos
    · intro b hb
      exact update_of_ne hb _ _

theorem decision_served (name : String) (hfits : Fits c.device st.device)
    (hlvl : (st.algo a).status ≠ 0 → m.HasDevices (st.algo a).status)
    (hrange : m.StatusInRange temp (st.algo a).status)
    (hcompl : m.level temp (st.algo a).status ≠ (st.algo a).status → m.level temp (st.algo a).status ≠ 0 →
      m.Complete c (m.level temp (st.algo a).status)) :
    ∃ st', m.decision c name a temp st = .ok st' ∧ Served m c a st st' := by
  rw [decision, newStatus_eq hrange]
  change ∃ st', (if m.level temp (st.algo a).status = (st.algo a).status then _ else _) = _ ∧ _
  by_cases hsame : m.level temp (st.algo a).status = (st.algo a).status
  · exact ⟨st, if_pos hsame, hfits, hlvl, fun _ _ => rfl⟩
  · rw [if_neg hsame]
    by_cases hzero : m.level temp (st.algo a).status = 0
    · rw [if_pos hzero]
      exact deactivate_served name hfits hlvl
    · have hnext := hcompl hsame hzero
      obtain ⟨released, hrel⟩ := levelDevices_eq hlvl
      obtain ⟨device, hreq, hdev⟩ := request_fits name hfits (hnext.2.2.release released)
      rw [if_neg hzero, hrel, levelRequests_eq hzero hnext]
      refine ⟨({ st with device := device } : State).setAlgo a
        { st.algo a with status := m.level temp (st.algo a).status }, ?_, hdev, ?_, ?_⟩
      · rw [ok_bind, ok_bind, hreq]
        rfl
      · intro _
        rw [State.setAlgo]
        dsimp only
        rw [update_self]
        exact hnext.1
      · intro b hb
        exact update_of_ne hb _ _

end MonitorLists

section
variable {ε α β : Type} {e : ε} {r : Except ε α} {f : α → Except ε β}

def FailsOnly (e : ε) (r : Except ε α) : Prop := ∀ e', r = .error e' → e' = e

instance [DecidableEq ε] : Decidable (FailsOnly e r) :=
  match r with
  | .ok _ => isTrue fun _ h => nomatch h
  | .error e' => decidable_of_iff (e' = e) ⟨fun h _ he => Except.error.inj he ▸ h, fun h => h e' rfl⟩

theorem failsOnly_ok (a : α) : FailsOnly e (.ok a) :=
  fun _ h => nomatch h

theorem FailsOnly.bind (h : FailsOnly e r) (hf : ∀ a, r = .ok a → FailsOnly e (f a)) : FailsOnly e (r >>= f) := by
  match r with
  | .error e' =>
    rintro _ ⟨⟩
    exact h e' rfl
  | .ok a => exact hf a rfl

theorem bind_ok {b : β} (h : r >>= f = .ok b) : ∃ a, r = .ok a ∧ f a = .ok b := by
  match r with
  | .error _ => cases h
  | .ok a => exact ⟨a, rfl, h⟩

end

section

def Weighed : SensorSpec → Prop
  | .real .. => True
  | .virtual _ _ _ _ _ sensors _ weights =>
    (∀ s ∈ sensors, s.isSome) ∧ sensors.length ≤ weights.length ∧ weights.sum ≠ 0

instance : (spec : SensorSpec) → Decidable (Weighed spec)
  | .real .. => isTrue trivial
  | .virtual .. => inferInstanceAs (Decidable (_ ∧ _ ∧ _))

theorem foldlM_sum {xs : List Int} {start sum : Int}
    (h : xs.foldlM (fun sum x => int (sum + x)) start = .ok sum) : sum = start + xs.sum := by
  induction xs generalizing start with
  | nil =>
    cases h
    exact (add_zero _).symm
  | cons x xs ih =>
    rw [List.foldlM_cons] at h
    obtain ⟨-, hrest⟩ := int_bind_eq_ok.mp h
    rw [ih hrest, List.sum_cons, add_assoc]

theorem new_ok {offsets weights : List Int} {v : Virtual} (h : Virtual.new offsets weights = .ok v) :
    v.weights = weights ∧ v.weightSum = weights.sum := by
  obtain ⟨_, -, h⟩ := bind_ok h
  obtain ⟨_, -, h⟩ := bind_ok h
  obtain ⟨sum, hsum, h⟩ := bind_ok h
  cases h
  exact ⟨rfl, (foldlM_sum hsum).trans (zero_add _)⟩

theorem int_fails (x : Int) : FailsOnly .overflow (int x) := by
  intro e h
  rw [int] at h
  split at h
  · cases h
  · cases h
    rfl

theorem sum_fails (xs : List Int) : FailsOnly .overflow (Virtual.sum xs) := by
  rw [Virtual.sum]
  generalize (0 : Int) = start
  induction xs generalizing start with
  | nil => exact failsOnly_ok start
  | cons x xs ih =>
    rw [List.foldlM_cons]
    exact (int_fails _).bind fun next _ => ih next

theorem new_fails (offsets weights : List Int) : FailsOnly .overflow (Virtual.new offsets weights) :=
  (sum_fails offsets).bind fun _ _ => (int_fails _).bind fun _ _ => (sum_fails weights).bind fun _ _ => failsOnly_ok _

theorem accumulate_fails {temps weights : List Int} (h : temps.length ≤ weights.length) (temperature : Int) :
    FailsOnly .overflow (Virtual.accumulate temperature temps weights) := by
  induction temps generalizing temperature weights with
  | nil =>
    rw [Virtual.accumulate]
    exact failsOnly_ok temperature
  | cons temp temps ih =>
    cases weights with
    | nil => exact absurd h (Nat.not_succ_le_zero _)
    | cons weight weights =>
      rw [Virtual.accumulate]
      exact (int_fails _).bind fun _ _ => (int_fails _).bind fun next _ => ih (Nat.le_of_succ_le_succ h) next

theorem updateTemp_fails {v : Virtual} (hsum : v.weightSum ≠ 0) {temps : List Int}
    (h : temps.length ≤ v.weights.length) (temperature : Int) :
    FailsOnly .overflow (v.updateTemp temperature temps) := by
  refine (accumulate_fails h temperature).bind fun _ _ => (int_fails _).bind fun _ _ => ?_
  rw [if_neg hsum]
  exact int_fails _

end

def Safe {α : Type} (r : Except Failure α) : Prop := FailsOnly (.fault .overflow) r

instance {α : Type} (r : Except Failure α) : Decidable (Safe r) :=
  inferInstanceAs (Decidable (FailsOnly _ r))

section
variable {st st' : State} {s : Nat} {sensors : List (Option Nat)} {offsets weights : List Int} {α : Type}

theorem computed_ok {r : Except Fault α} {a : α} (h : computed r = .ok a) : r = .ok a := by
  match r with
  | .error _ => cases h
  | .ok _ =>
    cases h
    rfl

theorem computed_safe {r : Except Fault α} (h : FailsOnly .overflow r) : Safe (computed r) := by
  match r with
  | .error e =>
    rintro _ ⟨⟩
    exact congrArg Failure.fault (h e rfl)
  | .ok a => exact failsOnly_ok a

theorem mapM_temperature (st : State) (h : ∀ s ∈ sensors, s.isSome = true) : ∃ temps, (sensors.mapM fun sensor => do
      let s ← nonNull sensor
      return st.temperature s) = .ok temps ∧ temps.length = sensors.length := by
  induction sensors with
  | nil => exact ⟨[], rfl, rfl⟩
  | cons sensor sensors ih =>
    obtain ⟨hsensor, hsensors⟩ := List.forall_mem_cons.mp h
    obtain ⟨s, rfl⟩ := Option.isSome_iff_exists.mp hsensor
    obtain ⟨temps, htemps, hlen⟩ := ih hsensors
    refine ⟨st.temperature s :: temps, ?_, congrArg Nat.succ hlen⟩
    rw [List.mapM_cons, htemps]
    rfl

theorem updateTemp_safe (hsensors : ∀ s ∈ sensors, s.isSome) (hlen : sensors.length ≤ weights.length)
    (hsum : weights.sum ≠ 0) : Safe (st.updateTemp s sensors offsets weights) := by
  obtain ⟨temps, htemps, htempslength⟩ := mapM_temperature st hsensors
  rw [State.updateTemp, htemps]
  refine (computed_safe (new_fails offsets weights)).bind fun v hv => ?_
  obtain ⟨hweights, hweightSum⟩ := new_ok (computed_ok hv)
  have hupdate := updateTemp_fails (hweightSum ▸ hsum) (show temps.length ≤ v.weights.length by rw [hweights]; omega)
    (st.temperature s)
  exact (computed_safe hupdate).bind fun _ _ => failsOnly_ok _

theorem updateTemp_keeps (h : st.updateTemp s sensors offsets weights = .ok st') :
    st'.algo = st.algo ∧ st'.device = st.device := by
  iterate 3 obtain ⟨_, -, h⟩ := bind_ok h
  cases h
  exact ⟨rfl, rfl⟩

end

def Config.Complete (c : Config) : Prop := ∀ item ∈ c.conf.items, item.body.missing = false

structure Sound (c : Config) (st : State) : Prop where
  fits : Fits c.device st.device
  level : ∀ (a : Nat) item body, c.conf.items[a]? = some item → item.body = .monitor body → (st.algo a).status ≠ 0 →
    (MonitorLists.new body).HasDevices (st.algo a).status

def DecisionFits (c : Config) (st : State) (a : Nat) (body : MonitorBody) : Prop :=
  let m := MonitorLists.new body
  let temp := signed body.isNegative (st.temperature (body.sensor.getD 0))
  let status := (st.algo a).status
  m.StatusInRange temp status ∧
    (m.level temp status ≠ status → m.level temp status ≠ 0 → m.Complete c (m.level temp status))

instance (c : Config) (st : State) (a : Nat) (body : MonitorBody) : Decidable (DecisionFits c st a body) :=
  inferInstanceAs (Decidable (_ ∧ (_ → _ → _)))

def monitorBody : ConfBody → Option MonitorBody
  | .monitor body => some body
  | .ss _ => none

def Regular (c : Config) (st : State) : Event → Prop
  | .update s => ∀ spec ∈ c.tm.sensors[s]?, Weighed spec
  | .decision a => ∀ item ∈ c.conf.items[a]?, (st.algo a).activeStatus → ∀ body ∈ monitorBody item.body,
      DecisionFits c st a body
  | _ => True

instance (c : Config) (st : State) : (event : Event) → Decidable (Regular c st event)
  | .update _ => inferInstanceAs (Decidable (∀ spec ∈ _, _))
  | .decision _ => inferInstanceAs (Decidable (∀ item ∈ _, _ → ∀ body ∈ _, _))
  | .reading .. | .activate _ | .deactivate _ => isTrue trivial

section
variable {c : Config} {st : State} {a : Nat} {item : Registered}

theorem itemTemp_eq {isNegative : Bool} {sensor : Option Nat} (h : sensor.isSome) :
    st.itemTemp isNegative sensor = .ok (signed isNegative (st.temperature (sensor.getD 0))) := by
  obtain ⟨s, rfl⟩ := Option.isSome_iff_exists.mp h
  rfl

variable {body : MonitorBody}

theorem monitor_sensor (h : body.missing = false) : body.sensor.isSome := by
  simp only [MonitorBody.missing, Bool.or_eq_false_iff, Option.isNone_eq_false_iff] at h
  exact h.1.1.1.1

theorem ss_sensor {body : SSBody} (h : body.missing = false) : body.sensor.isSome ∧ body.device.isSome := by
  simp only [SSBody.missing, Bool.or_eq_false_iff, Option.isNone_eq_false_iff] at h
  exact h.1.1

theorem ss_requests (body : SSBody) (d : Nat) (triggerPoint clearPoint currentStatus temp : Int) (s : AlgoState) :
    ActionsFit c.device
      ((ssInfo body d).decision triggerPoint clearPoint (c.device d).leveltoValue currentStatus temp s).requests := by
  have hlvl (nextStatus : Int) :
      AtLevel (c.device d) ((ssInfo body d).nextValue (c.device d).leveltoValue nextStatus) := by
    have hlt := (ssInfo body d).nextValue_lt (c.device d).leveltoValue nextStatus
    by_cases hnil : (c.device d).leveltoValue = []
    · exact .inr (.inr (.inl hnil))
    · have hpos := List.length_pos_iff.mpr hnil
      exact .inr (.inr (.inr (by omega)))
  apply ActionsFit.of_forall
  rw [SSInfo.decision]
  split
  · exact List.forall_mem_singleton.mpr .zero
  · dsimp only
    split
    · exact List.forall_mem_nil _
    · exact List.forall_mem_singleton.mpr (hlvl _)

theorem Sound.of_served {st' : State} (h : Sound c st) (hitem : c.conf.items[a]? = some item)
    (hbody : item.body = .monitor body) (hserved : (MonitorLists.new body).Served c a st st') : Sound c st' where
  fits := hserved.fits
  level b item' body' hitem' hbody' hpos := by
    by_cases hb : b = a
    · subst hb
      rw [hitem] at hitem'
      cases hitem'
      rw [hbody] at hbody'
      cases hbody'
      exact hserved.level hpos
    · rw [hserved.others b hb] at hpos ⊢
      exact h.level b item' body' hitem' hbody' hpos

theorem perform_sound {body : SSBody} (h : Sound c st) (hitem : c.conf.items[a]? = some item)
    (hbody : item.body = .ss body) {outcome : Outcome} (hreqs : ActionsFit c.device outcome.requests) :
    ∃ st', st.perform c item.name a outcome = .ok st' ∧ Sound c st' := by
  obtain ⟨device, hreq, hdev⟩ := request_fits item.name h.fits hreqs
  refine ⟨({ st with device := device } : State).setAlgo a outcome.next, ?_, hdev, ?_⟩
  · rw [State.perform, hreq]
    rfl
  · intro b item' body' hitem' hbody' hpos
    by_cases hb : b = a
    · subst hb
      rw [hitem] at hitem'
      cases hitem'
      rw [hbody] at hbody'
      cases hbody'
    · have hother : (({ st with device := device } : State).setAlgo a outcome.next).algo b = st.algo b :=
        update_of_ne hb _ _
      rw [hother] at hpos ⊢
      exact h.level b item' body' hitem' hbody' hpos

theorem decideItem_sound (h : Sound c st) (hcompl : c.Complete) (hitem : c.conf.items[a]? = some item)
    (hfits : ∀ body ∈ monitorBody item.body, DecisionFits c st a body) :
    ∃ st', st.decideItem c item a = .ok st' ∧ Sound c st' := by
  have hmissing := hcompl item (List.mem_of_getElem? hitem)
  rw [State.decideItem]
  cases hbody : item.body with
  | monitor body =>
    rw [hbody] at hmissing hfits
    obtain ⟨hrange, hlvl⟩ := hfits body rfl
    obtain ⟨st', hst', hserved⟩ := MonitorLists.decision_served item.name h.fits
      (h.level a item body hitem hbody) hrange hlvl
    refine ⟨st', ?_, h.of_served hitem hbody hserved⟩
    dsimp only
    rw [itemTemp_eq (monitor_sensor hmissing), ok_bind]
    exact hst'
  | ss body =>
    rw [hbody] at hmissing
    obtain ⟨hsensor, hdev⟩ := ss_sensor hmissing
    obtain ⟨d, hd⟩ := Option.isSome_iff_exists.mp hdev
    dsimp only
    rw [itemTemp_eq hsensor, ok_bind, hd]
    exact perform_sound h hitem hbody (ss_requests body d _ _ _ _ _)

theorem deactivateItem_sound (h : Sound c st) (hcompl : c.Complete) (hitem : c.conf.items[a]? = some item) :
    ∃ st', st.deactivateItem c item a = .ok st' ∧ Sound c st' := by
  have hmissing := hcompl item (List.mem_of_getElem? hitem)
  rw [State.deactivateItem]
  cases hbody : item.body with
  | monitor body =>
    obtain ⟨st', hst', hserved⟩ := MonitorLists.deactivate_served item.name h.fits (h.level a item body hitem hbody)
    exact ⟨st', hst', h.of_served hitem hbody hserved⟩
  | ss body =>
    rw [hbody] at hmissing
    obtain ⟨d, hd⟩ := Option.isSome_iff_exists.mp (ss_sensor hmissing).2
    dsimp only
    rw [hd]
    exact perform_sound h hitem hbody (actionsFit_zeros c.device [d])

end

theorem step_sound (hcompl : c.Complete) (h : Sound c st) (event : Event)
    (hregular : Regular c st event) : Safe (step c st event) ∧ ∀ st' ∈ (step c st event).toOption, Sound c st' := by
  have hdone {r : Except Failure State} (hr : ∃ st', r = .ok st' ∧ Sound c st') :
      Safe r ∧ ∀ st' ∈ r.toOption, Sound c st' := by
    obtain ⟨st', rfl, hst'⟩ := hr
    refine ⟨failsOnly_ok st', ?_⟩
    rintro _ ⟨⟩
    exact hst'
  cases event with
  | reading s temp => exact hdone ⟨_, rfl, h.fits, h.level⟩
  | update s =>
    rw [step]
    split
    · rename_i sensors offsets weights hspec
      obtain ⟨hsensors, hlen, hsum⟩ := hregular _ hspec
      refine ⟨updateTemp_safe hsensors hlen hsum, fun st' hst' => ?_⟩
      match hr : st.updateTemp s sensors offsets weights with
      | .error _ =>
        rw [hr] at hst'
        cases hst'
      | .ok st'' =>
        rw [hr] at hst'
        cases hst'
        obtain ⟨halgo, hdev⟩ := updateTemp_keeps hr
        refine ⟨hdev ▸ h.fits, ?_⟩
        rw [halgo]
        exact h.level
    · exact hdone ⟨st, rfl, h⟩
  | decision a =>
    rw [step]
    split
    · rename_i item hitem
      split
      · exact hdone (decideItem_sound h hcompl hitem (hregular item hitem ‹_›))
      · exact hdone ⟨st, rfl, h⟩
    · exact hdone ⟨st, rfl, h⟩
  | activate a =>
    refine hdone ⟨_, rfl, h.fits, fun b item body hitem hbody hpos => ?_⟩
    have hsame : ((st.setAlgo a { st.algo a with activeStatus := true }).algo b).status = (st.algo b).status := by
      rw [State.setAlgo]
      dsimp only
      by_cases hb : b = a
      · subst hb
        rw [update_self]
      · rw [update_of_ne hb]
    rw [hsame] at hpos ⊢
    exact h.level b item body hitem hbody hpos
  | deactivate a =>
    rw [step]
    split
    · exact hdone (deactivateItem_sound h hcompl ‹_›)
    · exact hdone ⟨st, rfl, h⟩

theorem sound_start (c : Config) : Sound c {} where
  fits _ := atLevel_lowest_iff.mpr fun _ _ h => nomatch h
  level _ _ _ _ _ h := absurd rfl h

def Accepted (env conf : Option (List Char)) (c : Config) : Prop :=
  (envParse {} (.ofContent env) >>= fun tm => confParse tm (.ofContent conf)).result = some (.ok (c.tm, c.conf))

theorem Accepted.complete {env conf : Option (List Char)} (h : Accepted env conf c) : c.Complete := by
  rw [Accepted, result_bind] at h
  obtain ⟨tm, -, hconf⟩ := andThen_eq_ok h
  cases conf with
  | none =>
    rw [result_confParse_unopened] at hconf
    cases hconf
  | some text => exact confParse_complete hconf

/-- A run of an accepted configuration is safe if every step meets its condition. -/
theorem accepted_run_safe {env conf : Option (List Char)} {c : Config} (h : Accepted env conf c) {events : List Event}
    (hregular : EachDefinedStep (fun st event => (step c st event).toOption) (Regular c) {} events) :
    EachDefinedStep (fun st event => (step c st event).toOption) (fun st event => Safe (step c st event)) {} events :=
  eachDefinedStep_of_invariant (fun _ event hsound hmeets => step_sound h.complete hsound event hmeets) (sound_start c)
    hregular

section

def reportEnv : List Char :=
  "[FRONT_TEMP]\ntype real\nnode_path /sys/temp\n\n[report]\ntype report\nnode_path /data/report\n".toList

def reportConf : List Char :=
  ("SCEN Default [\n[REPORT-FRONT-TEMP]\nalgo_type monitor\nsampling 300000\nsensor FRONT_TEMP\n" ++
    "thresholds 20000\nthresholds_clr 17000\nactions report\naction_info 1\n]\n").toList

def reportConfig : Config where
  tm := {
      sensors := [.real "FRONT_TEMP" 1000 "/sys/temp"]
      sensorMap := Function.update (fun _ => none) "FRONT_TEMP" (some 0)
      devices :=
        [{ kind := .report, name := "report", nodePath := "/data/report", levelType := "integer", leveltoValue := [] }]
      deviceMap := Function.update (fun _ => none) "report" (some (some 0)) }
  conf := {
      scenarios := ["Default"]
      items := [{
        name := "REPORT-FRONT-TEMP"
        scenName := "Default"
        body := .monitor {
          samplingTime := 300000
          sensor := some 0
          thresholds := [20000]
          thresholdsClr := [17000]
          device := [[some 0]]
          actionInfo := [[1]] } }] }

set_option maxRecDepth 4000 in
theorem reportConfig_accepted : Accepted (some reportEnv) (some reportConf) reportConfig := by
  have henv : (envParse {} (.ofContent (some reportEnv))).result = some (.ok reportConfig.tm) :=
    (result_envParse {} _).trans rfl
  have hconf : (confParse reportConfig.tm (.ofContent (some reportConf))).result =
      some (.ok (reportConfig.tm, reportConfig.conf)) := (result_confParse _ _).trans rfl
  rw [Accepted, result_bind, henv, andThen_ok, hconf]

theorem accepted_run_safe_report : EachDefinedStep (fun st event => (step reportConfig st event).toOption)
      (fun st event => Safe (step reportConfig st event)) {}
      [.activate 0, .reading 0 15000, .decision 0, .reading 0 25000, .decision 0, .deactivate 0] :=
  accepted_run_safe reportConfig_accepted (by decide)

theorem top_level_reads_past : Accepted (some reportEnv) (some reportConf) reportConfig ∧
      ¬EachDefinedStep (fun st event => (step reportConfig st event).toOption)
        (fun st event => Safe (step reportConfig st event)) {}
          [.activate 0, .reading 0 25000, .decision 0, .decision 0] :=
  ⟨reportConfig_accepted, by decide⟩

end

end ExynosHal.Thermal.Access
