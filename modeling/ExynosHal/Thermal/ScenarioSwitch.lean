import ExynosHal.Thermal.Scenario

/-! # A scenario change leaves the new scenario in force

While a change goes on, the request under a name answers the item of the new scenario or is left over from the
old one, and then the new item holds nothing yet.
-/

namespace ExynosHal.Thermal
open Library.Run
open Option (bind_eq_some_iff getD_none getD_some map_eq_some_iff)
open Function (update_of_ne update_self)
open State (activate_of_ne requestOf)

section
variable (c : Config) (st : State) (goal : String) (d : Nat) (n : String)

structure Serves : Prop where
  held : ∀ b, (b, goal) ∈ st.algoItems → (c.algo b).name = n → st.requestOf d n = (c.algo b).held (st.algo b) d
  none : (∀ b, (b, goal) ∈ st.algoItems → (c.algo b).name ≠ n) → st.requestOf d n = 0

structure LeftOver : Prop where
  other : ∃ y scen, (y, scen) ∈ st.algoItems ∧ scen ≠ goal ∧ (c.algo y).name = n ∧
    st.requestOf d n = (c.algo y).held (st.algo y) d
  idle : ∀ b, (b, goal) ∈ st.algoItems → (c.algo b).name = n → (c.algo b).held (st.algo b) d = 0

end

structure Linked (c : Config) (goal : String) (st : State) : Prop where
  nodup : (st.algoItems.map Prod.fst).Nodup
  distinct : DistinctInScen c st.algoItems
  registered : ∀ a, (st.algo a).activeStatus → ∃ scen, (a, scen) ∈ st.algoItems
  released : ∀ a, (st.algo a).activeStatus = false → ∀ d, (c.algo a).held (st.algo a) d = 0
  answered : ∀ d, (c.device d).kind ≠ .report → ∀ n, Serves c st goal d n ∨ LeftOver c st goal d n

section
variable {c : Config} {goal : String} {st st' : State} {a : Nat} {scen : String}

theorem Linked.scen_eq (h : Linked c goal st) {scen' : String} (hmem : (a, scen) ∈ st.algoItems)
    (hmem' : (a, scen') ∈ st.algoItems) : scen = scen' := by
  have heq := List.inj_on_of_nodup_map h.nodup hmem hmem' rfl
  exact congrArg Prod.snd heq

theorem Linked.eq_of_name (h : Linked c goal st) {b : Nat} (ha : (a, scen) ∈ st.algoItems)
    (hb : (b, scen) ∈ st.algoItems) (hname : (c.algo a).name = (c.algo b).name) : a = b :=
  h.distinct (a, scen) ha (b, scen) hb rfl hname

variable {d : Nat}

theorem answered_congr {n : String} (hitems : st'.algoItems = st.algoItems)
    (hreq : st'.requestOf d n = st.requestOf d n)
    (hheld : ∀ b, (c.algo b).name = n → (c.algo b).held (st'.algo b) d = (c.algo b).held (st.algo b) d)
    (h : Serves c st goal d n ∨ LeftOver c st goal d n) : Serves c st' goal d n ∨ LeftOver c st' goal d n := by
  rcases h with ⟨hserved, hnone⟩ | ⟨⟨y, scen, hy, hscen, hname, hother⟩, hidle⟩
  · left
    constructor
    · intro b hb hname
      rw [hreq, hheld b hname]
      rw [hitems] at hb
      exact hserved b hb hname
    · rw [hitems, hreq]
      exact hnone
  · right
    constructor
    · refine ⟨y, scen, ?_, hscen, hname, ?_⟩
      · rw [hitems]
        exact hy
      · rw [hreq, hheld y hname]
        exact hother
    · intro b hb hname
      rw [hheld b hname]
      rw [hitems] at hb
      exact hidle b hb hname

variable {outcome : Outcome}

theorem requestOf_own (hperf : State.Performed c a outcome st st') (hkind : (c.device d).kind ≠ .report) :
    st'.requestOf d (c.algo a).name = (actionOn outcome.requests d).getD (st.requestOf d (c.algo a).name) := by
  rw [requestOf, requestOf, hperf.device.own d hkind]
  cases actionOn outcome.requests d with
  | none => rfl
  | some v => rfl

section
variable (h : Linked c goal st)
include h

theorem Linked.answered_goal
    (hsound : outcome.Sound (c.algo a) (st.algo a)) (hperf : State.Performed c a outcome st st')
    (ha : (a, goal) ∈ st.algoItems) (hkind : (c.device d).kind ≠ .report) :
    Serves c st' goal d (c.algo a).name ∨ LeftOver c st' goal d (c.algo a).name := by
  have hself : st'.algo a = outcome.next := by rw [hperf.algo, update_self]
  have hreq := requestOf_own hperf hkind
  have hserves (hwritten : st'.requestOf d (c.algo a).name = (c.algo a).held outcome.next d) :
      Serves c st' goal d (c.algo a).name := by
    constructor
    · intro b hb hname
      rw [hperf.algoItems] at hb
      cases h.eq_of_name hb ha hname
      rw [hself]
      exact hwritten
    · intro hnone
      rw [hperf.algoItems] at hnone
      exact absurd rfl (hnone a ha)
  rcases h.answered d hkind (c.algo a).name with hserved | ⟨⟨y, scen, hy, hscen, hname, hother⟩, hidle⟩
  · left
    apply hserves
    rw [hreq, hserved.held a ha rfl, hsound.held d]
  · cases haction : actionOn outcome.requests d with
    | some v =>
      left
      apply hserves
      rw [hreq, hsound.held d, haction, getD_some, getD_some]
    | none =>
      right
      have hya : y ≠ a := by
        rintro rfl
        exact hscen (h.scen_eq hy ha)
      constructor
      · refine ⟨y, scen, ?_, hscen, hname, ?_⟩
        · rw [hperf.algoItems]
          exact hy
        · rw [hreq, haction, getD_none, hperf.algo, update_of_ne hya]
          exact hother
      · intro b hb hbname
        rw [hperf.algoItems] at hb
        cases h.eq_of_name hb ha hbname
        rw [hself, hsound.held d, haction, getD_none]
        exact hidle a ha rfl

theorem Linked.answered_other
    (hsound : outcome.Sound (c.algo a) (st.algo a)) (hperf : State.Performed c a outcome st st')
    (ha : (a, scen) ∈ st.algoItems) (hscen : scen ≠ goal) (hkind : (c.device d).kind ≠ .report)
    (hyields : ∀ v, actionOn outcome.requests d = some v → ∀ b, (b, goal) ∈ st.algoItems →
      (c.algo b).name = (c.algo a).name → (c.algo b).held (st.algo b) d = 0) :
    Serves c st' goal d (c.algo a).name ∨ LeftOver c st' goal d (c.algo a).name := by
  have hself : st'.algo a = outcome.next := by rw [hperf.algo, update_self]
  have hreq := requestOf_own hperf hkind
  cases haction : actionOn outcome.requests d with
  | some v =>
    right
    constructor
    · refine ⟨a, scen, ?_, hscen, rfl, ?_⟩
      · rw [hperf.algoItems]
        exact ha
      · rw [hreq, hself, hsound.held d, haction, getD_some, getD_some]
    · intro b hb hname
      rw [hperf.algoItems] at hb
      have hba : b ≠ a := by
        rintro rfl
        exact hscen (h.scen_eq ha hb)
      rw [hperf.algo, update_of_ne hba]
      exact hyields v haction b hb hname
  | none =>
    apply answered_congr hperf.algoItems _ _ (h.answered d hkind _)
    · rw [hreq, haction, getD_none]
    · intro b _
      by_cases hba : b = a
      · subst hba
        rw [hself, hsound.held d, haction, getD_none]
      · rw [hperf.algo, update_of_ne hba]

theorem Linked.performed (hsound : outcome.Sound (c.algo a) (st.algo a))
    (hact : (st.algo a).activeStatus) (hyields : Yields c st goal a (some outcome))
    (hperf : State.Performed c a outcome st st') : Linked c goal st' := by
  have hself : st'.algo a = outcome.next := by rw [hperf.algo, update_self]
  have hothers (b : Nat) (hb : b ≠ a) : st'.algo b = st.algo b := by
    rw [hperf.algo, update_of_ne hb]
  constructor
  · rw [hperf.algoItems]
    exact h.nodup
  · rw [hperf.algoItems]
    exact h.distinct
  · intro b hb
    rw [hperf.algoItems]
    by_cases hba : b = a
    · subst hba
      exact h.registered b hact
    · rw [hothers b hba] at hb
      exact h.registered b hb
  · intro b hb d
    by_cases hba : b = a
    · subst hba
      rw [hself] at hb ⊢
      cases hstops : outcome.stops with
      | true => exact (hsound.stopped hstops).2 d
      | false =>
        rw [hsound.active hstops, hact] at hb
        cases hb
    · rw [hothers b hba] at hb ⊢
      exact h.released b hb d
  · intro d hkind n
    by_cases hn : n = (c.algo a).name
    · subst hn
      obtain ⟨scen, ha⟩ := h.registered a hact
      by_cases hscen : scen = goal
      · subst hscen
        exact h.answered_goal hsound hperf ha hkind
      · apply h.answered_other hsound hperf ha hscen hkind
        intro v haction b hb hname
        rcases hyields with hgoal | hyields
        · exact absurd (h.scen_eq ha hgoal) hscen
        · exact hyields outcome rfl _ (mem_of_actionOn haction) hkind (b, goal) hb rfl hname
    · apply answered_congr hperf.algoItems _ _ (h.answered d hkind n)
      · rw [requestOf, requestOf, hperf.device.other d hkind n hn]
      · intro b hname
        rw [hothers b]
        rintro rfl
        exact hn hname.symm

theorem Linked.of_eq (halgo : st'.algo = st.algo) (hdev : st'.device = st.device)
    (hitems : st'.algoItems = st.algoItems) : Linked c goal st' := by
  constructor
  · rw [hitems]
    exact h.nodup
  · rw [hitems]
    exact h.distinct
  · rw [hitems, halgo]
    exact h.registered
  · rw [halgo]
    exact h.released
  · intro d hkind n
    apply answered_congr hitems _ _ (h.answered d hkind n)
    · rw [requestOf, requestOf, hdev]
    · intro b _
      rw [halgo]

theorem Linked.activate (ha : (a, scen) ∈ st.algoItems)
    (hinactive : (st.algo a).activeStatus = false) : Linked c goal (st.activate c a) := by
  constructor
  · exact h.nodup
  · exact h.distinct
  · intro b hb
    by_cases hba : b = a
    · subst hba
      exact ⟨scen, ha⟩
    · rw [activate_of_ne hba] at hb
      exact h.registered b hb
  · intro b hb d
    rw [State.held_activate]
    by_cases hba : b = a
    · subst hba
      exact h.released b hinactive d
    · rw [activate_of_ne hba] at hb
      exact h.released b hb d
  · intro d hkind n
    apply answered_congr _ _ _ (h.answered d hkind n)
    · rfl
    · rfl
    · intro b _
      exact State.held_activate b d

end

structure Releasable (c : Config) (goal : String) (st : State) (a : Nat) : Prop where
  raised : (c.algo a).isMonitor → 0 < (st.algo a).status
  yields : Yields c st goal a (st.deactivateOutcome c a)

theorem deactivateOutcome_stops (hraised : (c.algo a).isMonitor → 0 < (st.algo a).status)
    (h : st.deactivateOutcome c a = some outcome) : outcome.stops := by
  rw [State.deactivateOutcome] at h
  cases hkind : (c.algo a).kind with
  | monitor m =>
    have hpos : 0 < (st.algo a).status := hraised (by rw [AlgoItem.isMonitor, hkind])
    rw [hkind] at h
    dsimp only at h
    rw [MonitorInfo.deactivate, if_neg (by omega)] at h
    split at h
    · cases h
    · cases h
      rfl
  | ss ss =>
    rw [hkind] at h
    cases h
    rfl

structure Frame (a : Nat) (st st' : State) : Prop where
  others : ∀ b, b ≠ a → st'.algo b = st.algo b
  sensor : st'.sensor = st.sensor
  algoItems : st'.algoItems = st.algoItems

theorem Linked.deactivateActive (h : Linked c goal st)
    (hreleasable : (st.algo a).activeStatus → Releasable c goal st a)
    (hst : st.deactivateActive c a = some st') :
    Linked c goal st' ∧ (st'.algo a).activeStatus = false ∧ Frame a st st' := by
  rw [State.deactivateActive] at hst
  split at hst
  · rename_i hact
    obtain ⟨outcome, houtcome, hperform⟩ := unbind hst
    obtain ⟨hraised, hyields⟩ := hreleasable hact
    rw [houtcome] at hyields
    have hsound := State.deactivateOutcome_sound houtcome
    have hperf := State.perform_performed hperform
    have hstops := deactivateOutcome_stops hraised houtcome
    refine ⟨h.performed hsound hact hyields hperf, ?_, ?_, hperf.sensor, hperf.algoItems⟩
    · rw [hperf.algo, update_self]
      exact (hsound.stopped hstops).1
    · intro b hb
      rw [hperf.algo, update_of_ne hb]
  · rename_i hinactive
    cases hst
    exact ⟨h, Bool.eq_false_iff.mpr hinactive, fun _ _ => rfl, rfl, rfl⟩

theorem Releasable.frame {b : Nat} (hb : Releasable c goal st b) (hba : b ≠ a) (hframe : Frame a st st')
    (hscen : (a, scen) ∈ st.algoItems) (hscenb : (b, scen) ∈ st.algoItems) (h : Linked c goal st) :
    Releasable c goal st' b where
  raised := by
    rw [hframe.others b hba]
    exact hb.raised
  yields := by
    have houtcome : st'.deactivateOutcome c b = st.deactivateOutcome c b := by
      rw [State.deactivateOutcome, State.deactivateOutcome, hframe.others b hba]
    rw [houtcome, Yields, hframe.algoItems]
    by_cases hgoal : scen = goal
    · subst hgoal
      exact .inl hscenb
    · refine .inr fun o ho request hreq hkind r hr hrgoal hname => ?_
      rcases hb.yields with hmem | hyields
      · exact absurd (h.scen_eq hscenb hmem) hgoal
      · have hra : r.1 ≠ a := by
          rintro rfl
          exact hgoal ((h.scen_eq hscen hr).trans hrgoal)
        rw [hframe.others r.1 hra]
        exact hyields o ho request hreq hkind r hr hrgoal hname

theorem Linked.deactivateAll {items : List Nat} (h : Linked c goal st) (hnodup : items.Nodup)
    (hitems : ∀ a ∈ items, (a, scen) ∈ st.algoItems)
    (hreleasable : ∀ a ∈ items, (st.algo a).activeStatus → Releasable c goal st a)
    (hst : items.foldlM (State.deactivateActive c) st = some st') :
    Linked c goal st' ∧ (∀ a ∈ items, (st'.algo a).activeStatus = false) ∧
      (∀ a, a ∉ items → st'.algo a = st.algo a) ∧ st'.sensor = st.sensor ∧ st'.algoItems = st.algoItems := by
  induction items generalizing st with
  | nil =>
    cases hst
    exact ⟨h, (fun _ ha => nomatch ha), fun _ _ => rfl, rfl, rfl⟩
  | cons a items ih =>
    rw [List.foldlM_cons, Option.bind_eq_bind, bind_eq_some_iff] at hst
    obtain ⟨next, hnext, hrest⟩ := hst
    obtain ⟨hfresh, hnodup⟩ := List.nodup_cons.mp hnodup
    obtain ⟨ha, hitems⟩ := List.forall_mem_cons.mp hitems
    obtain ⟨hreleasea, hreleasable⟩ := List.forall_mem_cons.mp hreleasable
    obtain ⟨hlinked, hinactive, hframe⟩ := h.deactivateActive hreleasea hnext
    have hne (b : Nat) (hb : b ∈ items) : b ≠ a := by
      rintro rfl
      exact hfresh hb
    have hitems' : ∀ b ∈ items, (b, scen) ∈ next.algoItems := by
      rw [hframe.algoItems]
      exact hitems
    have hreleasable' : ∀ b ∈ items, (next.algo b).activeStatus → Releasable c goal next b := by
      intro b hb hact
      rw [hframe.others b (hne b hb)] at hact
      exact (hreleasable b hb hact).frame (hne b hb) hframe ha (hitems b hb) h
    obtain ⟨hlast, hcleared, hothers, hsensor, hkept⟩ := ih hlinked hnodup hitems' hreleasable' hrest
    refine ⟨hlast, ?_, ?_, hsensor.trans hframe.sensor, hkept.trans hframe.algoItems⟩
    · rw [List.forall_mem_cons]
      refine ⟨?_, hcleared⟩
      rw [hothers a hfresh]
      exact hinactive
    · intro b hb
      rw [List.mem_cons, not_or] at hb
      rw [hothers b hb.2, hframe.others b hb.1]

end

def ScenAt (sw : Switch) (s : Nat) : Prop :=
  match sw.phase s with
  | .waiting => (sw.st.sensor s).oldScen = sw.curScen ∧ (sw.st.sensor s).newScen = sw.curScen
  | .applied => (sw.st.sensor s).oldScen = sw.curScen ∧ (sw.st.sensor s).newScen = sw.goal
  | .cleared => (sw.st.sensor s).oldScen = sw.goal ∧ (sw.st.sensor s).newScen = sw.goal

structure SwitchInvariant (c : Config) (sw : Switch) : Prop where
  linked : Linked c sw.goal sw.st
  sensors : ∀ a, (sw.st.algo a).activeStatus → (c.algo a).sensor ∈ c.sensors
  scen : ∀ s ∈ c.sensors, ScenAt sw s
  active : ∀ a scen, (a, scen) ∈ sw.st.algoItems → (sw.st.algo a).activeStatus →
    scen = sw.goal ∨ (scen = sw.curScen ∧ sw.phase (c.algo a).sensor ≠ .cleared)
  idle : sw.target = none → ∀ s ∈ c.sensors, sw.phase s = .cleared

section
variable {c : Config} {sw : Switch} {s : Nat} {sw' : Switch}

theorem scenAt_congr (sw : Switch) (hphase : sw'.phase s = sw.phase s) (hcur : sw'.curScen = sw.curScen)
    (hgoal : sw'.goal = sw.goal)
    (hsensor : (sw'.st.sensor s).oldScen = (sw.st.sensor s).oldScen ∧
      (sw'.st.sensor s).newScen = (sw.st.sensor s).newScen) (h : ScenAt sw s) : ScenAt sw' s := by
  rw [ScenAt, hphase, hcur, hgoal, hsensor.1, hsensor.2]
  exact h

theorem SwitchInvariant.of_linked (h : SwitchInvariant c sw) {st' : State} (hlinked : Linked c sw.goal st')
    (hitems : st'.algoItems = sw.st.algoItems)
    (hsensor : ∀ s, (st'.sensor s).oldScen = (sw.st.sensor s).oldScen ∧
      (st'.sensor s).newScen = (sw.st.sensor s).newScen)
    (hact : ∀ a, (st'.algo a).activeStatus → (sw.st.algo a).activeStatus) :
    SwitchInvariant c { sw with st := st' } where
  linked := hlinked
  sensors a ha := h.sensors a (hact a ha)
  scen s hs := scenAt_congr sw rfl rfl rfl (hsensor s) (h.scen s hs)
  active a scen hmem ha := by
    rw [hitems] at hmem
    exact h.active a scen hmem (hact a ha)
  idle := h.idle

variable {a : Nat}

theorem SwitchInvariant.activate (h : SwitchInvariant c sw) (hs : s ∈ c.sensors)
    (hmem : (a, (sw.st.sensor s).newScen) ∈ sw.st.algoItems) (ha : (c.algo a).sensor = s)
    (hinactive : (sw.st.algo a).activeStatus = false) :
    SwitchInvariant c { sw with st := sw.st.activate c a } where
  linked := h.linked.activate hmem hinactive
  sensors b hb := by
    by_cases hba : b = a
    · subst hba
      rw [ha]
      exact hs
    · rw [activate_of_ne hba] at hb
      exact h.sensors b hb
  scen s hs := scenAt_congr sw rfl rfl rfl ⟨rfl, rfl⟩ (h.scen s hs)
  active b scen hb hact := by
    by_cases hba : b = a
    · subst hba
      have hscen : scen = (sw.st.sensor s).newScen := h.linked.scen_eq hb hmem
      have hat := h.scen s hs
      rw [hscen, ha]
      -- a waiting sensor still activates for the scenario that is going to be left
      cases hphase : sw.phase s with
      | waiting =>
        rw [ScenAt, hphase] at hat
        exact .inr ⟨hat.2, by simp⟩
      | applied =>
        rw [ScenAt, hphase] at hat
        exact .inl hat.2
      | cleared =>
        rw [ScenAt, hphase] at hat
        exact .inl hat.2
    · rw [activate_of_ne hba] at hact
      exact h.active b scen hb hact
  idle := h.idle

theorem SwitchInvariant.updateSensor (h : SwitchInvariant c sw) (hs : s ∈ c.sensors) (temp : Int) :
    SwitchInvariant c { sw with st := sw.st.updateSensor c s temp } := by
  apply State.updateSensor_rule (P := fun st => SwitchInvariant c { sw with st := st }) _ _ temp h
  · intro st st' hsame h
    have hlinked := h.linked.of_eq hsame.algo hsame.device hsame.algoItems
    apply h.of_linked hlinked hsame.algoItems hsame.scen
    intro a ha
    rw [hsame.algo] at ha
    exact ha
  · intro st a hmem ha hinactive h
    exact h.activate hs hmem ha hinactive

theorem SwitchInvariant.decision (h : SwitchInvariant c sw) (hyields : OldYields c sw (.decide a))
    {st' : State} (hst : sw.st.decision c a = some st') : SwitchInvariant c { sw with st := st' } := by
  rw [State.decision] at hst
  split at hst
  · rename_i hact
    obtain ⟨outcome, houtcome, hperform⟩ := unbind hst
    have hyields := hyields hact
    rw [houtcome] at hyields
    have hperf := State.perform_performed hperform
    have hlinked := h.linked.performed (State.decisionOutcome_sound houtcome) hact hyields hperf
    apply h.of_linked hlinked hperf.algoItems
    · intro s
      rw [hperf.sensor]
      exact ⟨rfl, rfl⟩
    · intro b hb
      by_cases hba : b = a
      · subst hba
        exact hact
      · rw [hperf.algo, update_of_ne hba] at hb
        exact hb
  · cases hst
    exact h

variable {scen : String}

section
variable (h : SwitchInvariant c sw)
include h

theorem SwitchInvariant.active_idle (hcleared : ∀ s ∈ c.sensors, sw.phase s = .cleared)
    (hmem : (a, scen) ∈ sw.st.algoItems) (hact : (sw.st.algo a).activeStatus) : scen = sw.goal := by
  rcases h.active a scen hmem hact with hscen | ⟨-, hphase⟩
  · exact hscen
  · exact absurd (hcleared _ (h.sensors a hact)) hphase

theorem SwitchInvariant.held_other (hcleared : ∀ s ∈ c.sensors, sw.phase s = .cleared)
    (hmem : (a, scen) ∈ sw.st.algoItems) (hscen : scen ≠ sw.goal) (d : Nat) : (c.algo a).held (sw.st.algo a) d = 0 := by
  apply h.linked.released
  rw [Bool.eq_false_iff]
  intro hact
  exact hscen (h.active_idle hcleared hmem hact)

theorem SwitchInvariant.serves (hcleared : ∀ s ∈ c.sensors, sw.phase s = .cleared)
    {d : Nat} (hkind : (c.device d).kind ≠ .report) (n : String) : Serves c sw.st sw.goal d n := by
  rcases h.linked.answered d hkind n with hserves | ⟨⟨y, scen, hy, hscen, -, hother⟩, hidle⟩
  · exact hserves
  · rw [h.held_other hcleared hy hscen] at hother
    constructor
    · intro b hb hname
      rw [hother, hidle b hb hname]
    · intro _
      exact hother

theorem SwitchInvariant.start (hidle : sw.target = none) (target : String) : SwitchInvariant c (sw.start target) := by
  have hcleared := h.idle hidle
  have hgoal : sw.goal = sw.curScen := by rw [Switch.goal, hidle, getD_none]
  refine ⟨⟨h.linked.nodup, h.linked.distinct, h.linked.registered, h.linked.released, ?_⟩, h.sensors, ?_, ?_, ?_⟩
  · intro d hkind n
    obtain ⟨hheld, hnone⟩ := h.serves hcleared hkind n
    have hnew (b : Nat) (hb : (b, target) ∈ sw.st.algoItems) (htarget : target ≠ sw.goal) :
        (c.algo b).held (sw.st.algo b) d = 0 := h.held_other hcleared hb htarget d
    by_cases htarget : target = sw.goal
    · subst htarget
      exact .inl ⟨hheld, hnone⟩
    · by_cases hold : ∃ y, (y, sw.goal) ∈ sw.st.algoItems ∧ (c.algo y).name = n
      · obtain ⟨y, hy, hname⟩ := hold
        exact .inr ⟨⟨y, sw.goal, hy, Ne.symm htarget, hname, hheld y hy hname⟩, fun b hb _ => hnew b hb htarget⟩
      · have hzero : sw.st.requestOf d n = 0 := hnone fun b hb hname => hold ⟨b, hb, hname⟩
        exact .inl ⟨fun b hb _ => hzero.trans (hnew b hb htarget).symm, fun _ => hzero⟩
  · intro s hs
    have hat := h.scen s hs
    rw [ScenAt, hcleared s hs, hgoal] at hat
    exact hat
  · intro a scen hmem hact
    right
    exact ⟨(h.active_idle hcleared hmem hact).trans hgoal, by simp [Switch.start]⟩
  · intro hnone
    cases hnone

end

variable {st : State} {pre : String}

theorem mem_addPrefixScenName :
    (a, scen) ∈ (st.addPrefixScenName pre).algoItems ↔ ∃ old, scen = pre ++ old ∧ (a, old) ∈ st.algoItems := by
  rw [State.addPrefixScenName, List.mem_map]
  constructor
  · rintro ⟨⟨a', old⟩, hmem, heq⟩
    cases heq
    exact ⟨old, rfl, hmem⟩
  · rintro ⟨old, rfl, hmem⟩
    exact ⟨(a, old), hmem, rfl⟩

theorem mem_addPrefixScenName_same :
    (a, pre ++ scen) ∈ (st.addPrefixScenName pre).algoItems ↔ (a, scen) ∈ st.algoItems := by
  rw [mem_addPrefixScenName]
  constructor
  · rintro ⟨old, heq, hmem⟩
    rw [String.append_right_inj] at heq
    rw [heq]
    exact hmem
  · intro hmem
    exact ⟨scen, rfl, hmem⟩

variable {goal : String}

theorem Linked.addPrefixScenName (h : Linked c goal st) (pre : String)
    (hserves : ∀ d, (c.device d).kind ≠ .report → ∀ n, Serves c st goal d n) :
    Linked c (pre ++ goal) (st.addPrefixScenName pre) where
  nodup := by
    have hids : (st.addPrefixScenName pre).algoItems.map Prod.fst = st.algoItems.map Prod.fst := by
      rw [State.addPrefixScenName, List.map_map]
      rfl
    rw [hids]
    exact h.nodup
  distinct := by
    rintro ⟨a, scen⟩ ha ⟨b, scen'⟩ hb heq hname
    obtain ⟨old, rfl, hold⟩ := mem_addPrefixScenName.mp ha
    obtain ⟨old', rfl, hold'⟩ := mem_addPrefixScenName.mp hb
    rw [String.append_right_inj] at heq
    exact h.distinct (a, old) hold (b, old') hold' heq hname
  registered a ha := by
    obtain ⟨scen, hmem⟩ := h.registered a ha
    exact ⟨pre ++ scen, mem_addPrefixScenName_same.mpr hmem⟩
  released := h.released
  answered d hkind n := by
    obtain ⟨hheld, hnone⟩ := hserves d hkind n
    left
    constructor
    · intro b hb hname
      exact hheld b (mem_addPrefixScenName_same.mp hb) hname
    · intro hno
      exact hnone fun b hb => hno b (mem_addPrefixScenName_same.mpr hb)

theorem SwitchInvariant.startReload (h : SwitchInvariant c sw) (hidle : sw.target = none) (pre : String) :
    SwitchInvariant c { sw.start (pre ++ sw.curScen) with st := sw.st.addPrefixScenName pre } := by
  have hcleared := h.idle hidle
  have hgoal : sw.goal = sw.curScen := by rw [Switch.goal, hidle, getD_none]
  constructor
  · have hlinked := h.linked.addPrefixScenName pre fun d hkind n => h.serves hcleared hkind n
    rw [hgoal] at hlinked
    exact hlinked
  · exact h.sensors
  · intro s hs
    have hat := h.scen s hs
    rw [ScenAt, hcleared s hs, hgoal] at hat
    exact hat
  · intro a scen hmem hact
    left
    obtain ⟨old, rfl, hold⟩ := mem_addPrefixScenName.mp hmem
    rw [h.active_idle hcleared hold hact, hgoal]
    rfl
  · intro hnone
    cases hnone

theorem SwitchInvariant.applyScen (h : SwitchInvariant c sw) (hs : s ∈ c.sensors)
    (hphase : sw.phase s = .waiting) {target : String} (htarget : sw.target = some target) (temp : Int) :
    SwitchInvariant c (sw.applyScen c s temp target) := by
  have hgoal : sw.goal = target := by rw [Switch.goal, htarget, getD_some]
  have hset : SwitchInvariant c { sw with
        st := sw.st.setSensor s { sw.st.sensor s with newScen := target }
        phase := Function.update sw.phase s .applied } := by
    constructor
    · exact h.linked.of_eq rfl rfl rfl
    · exact h.sensors
    · intro s' hs'
      have hat := h.scen s' hs'
      by_cases hss : s' = s
      · subst hss
        rw [ScenAt, hphase] at hat
        rw [ScenAt]
        dsimp only
        rw [update_self, State.setSensor_self]
        exact ⟨hat.1, hgoal.symm⟩
      · refine scenAt_congr sw ?_ rfl rfl ?_ hat
        · exact update_of_ne hss _ _
        · rw [State.setSensor_of_ne hss]
          exact ⟨rfl, rfl⟩
    · intro a scen hmem hact
      rcases h.active a scen hmem hact with hscen | ⟨hscen, hne⟩
      · exact .inl hscen
      · refine .inr ⟨hscen, ?_⟩
        dsimp only
        by_cases hss : (c.algo a).sensor = s
        · rw [hss, update_self]
          simp
        · rw [update_of_ne hss]
          exact hne
    · intro hnone
      rw [htarget] at hnone
      cases hnone
  exact hset.updateSensor hs temp

theorem items_nodup (h : Linked c goal st) (s : Nat) (scen : String) : (st.items c s scen).Nodup :=
  h.nodup.sublist (List.filter_sublist.map Prod.fst)

theorem SwitchInvariant.clearScen (h : SwitchInvariant c sw) (hs : s ∈ c.sensors)
    (hphase : sw.phase s = .applied) (hraised : ReleasesRaised c sw (.clearScen s))
    (hyields : OldYields c sw (.clearScen s)) (hsw : sw.clearScen c s = some sw') :
    SwitchInvariant c sw' := by
  have hat := h.scen s hs
  rw [ScenAt, hphase] at hat
  obtain ⟨hold, hnew⟩ := hat
  obtain ⟨st', hst, rfl⟩ := map_eq_some_iff.mp hsw
  obtain ⟨hlinked, hcleared, hothers, hsensor, hitems⟩ :=
    h.linked.deactivateAll (items_nodup h.linked s _) (fun a ha => (State.mem_items.mp ha).1)
      (fun a ha hact => ⟨hraised a ha hact, hyields a ha hact⟩) hst
  have hact (a : Nat) (ha : (st'.algo a).activeStatus) :
      (sw.st.algo a).activeStatus ∧ a ∉ sw.st.items c s (sw.st.sensor s).oldScen := by
    have hmem : a ∉ sw.st.items c s (sw.st.sensor s).oldScen := by
      intro hmem
      rw [hcleared a hmem] at ha
      cases ha
    rw [hothers a hmem] at ha
    exact ⟨ha, hmem⟩
  constructor
  · exact hlinked.of_eq rfl rfl rfl
  · intro a ha
    exact h.sensors a (hact a ha).1
  · intro s' hs'
    by_cases hss : s' = s
    · subst hss
      rw [ScenAt]
      dsimp only
      rw [update_self, State.setSensor_self, hsensor]
      exact ⟨hnew, hnew⟩
    · refine scenAt_congr sw ?_ rfl rfl ?_ (h.scen s' hs')
      · exact update_of_ne hss _ _
      · rw [State.setSensor_of_ne hss, hsensor]
        exact ⟨rfl, rfl⟩
  · intro a scen hmem ha
    obtain ⟨hbefore, hnotMem⟩ := hact a ha
    have hmem : (a, scen) ∈ sw.st.algoItems := by
      rw [← hitems]
      exact hmem
    rcases h.active a scen hmem hbefore with hscen | ⟨hscen, hne⟩
    · exact .inl hscen
    · refine .inr ⟨hscen, ?_⟩
      dsimp only
      by_cases hss : (c.algo a).sensor = s
      · subst hscen
        rw [hold] at hnotMem
        exact absurd (State.mem_items.mpr ⟨hmem, hss⟩) hnotMem
      · rw [update_of_ne hss]
        exact hne
  · intro hnone s' hs'
    have hall := h.idle hnone s hs
    rw [hphase] at hall
    cases hall

theorem SwitchInvariant.finish (h : SwitchInvariant c sw) {target : String} (htarget : sw.target = some target)
    (hcleared : ∀ s ∈ c.sensors, sw.phase s = .cleared) :
    SwitchInvariant c { sw with curScen := target, target := none } := by
  have hgoal : sw.goal = target := by rw [Switch.goal, htarget, getD_some]
  constructor
  · have hlinked := h.linked
    rw [hgoal] at hlinked
    exact hlinked
  · exact h.sensors
  · intro s hs
    have hat := h.scen s hs
    rw [ScenAt, hcleared s hs, hgoal] at hat
    rw [ScenAt]
    rw [hcleared s hs]
    exact hat
  · intro a scen hmem hact
    left
    exact (h.active_idle hcleared hmem hact).trans hgoal
  · intro _
    exact hcleared

theorem Linked.register (h : Linked c goal st) (hfresh : a ∉ st.algoItems.map Prod.fst)
    (hname : ∀ r ∈ st.algoItems, r.2 = scen → (c.algo r.1).name ≠ (c.algo a).name) :
    Linked c goal { st with algoItems := st.algoItems ++ [(a, scen)] } := by
  have hheld (d : Nat) : (c.algo a).held (st.algo a) d = 0 := by
    apply h.released
    rw [Bool.eq_false_iff]
    intro hact
    obtain ⟨scen', hmem⟩ := h.registered a hact
    exact hfresh (List.mem_map.mpr ⟨_, hmem, rfl⟩)
  have hmem (b : Nat) (scen' : String) : (b, scen') ∈ st.algoItems ++ [(a, scen)] ↔
      (b, scen') ∈ st.algoItems ∨ (b = a ∧ scen' = scen) := by
    rw [List.mem_append, List.mem_singleton, Prod.mk.injEq]
  constructor
  · rw [List.map_append]
    exact List.nodup_append.mpr ⟨h.nodup, List.nodup_singleton a, by
      intro b hb b' hb'
      rw [List.map_cons, List.map_nil, List.mem_singleton] at hb'
      rintro rfl
      subst hb'
      exact hfresh hb⟩
  · rintro ⟨b, scenb⟩ hb ⟨b', scenb'⟩ hb' heq hnames
    rw [hmem] at hb hb'
    subst heq
    rcases hb with hb | ⟨rfl, rfl⟩
    · rcases hb' with hb' | ⟨rfl, rfl⟩
      · exact h.distinct (b, scenb) hb (b', scenb) hb' rfl hnames
      · exact absurd hnames (hname (b, scenb) hb rfl)
    · rcases hb' with hb' | ⟨rfl, -⟩
      · exact absurd hnames.symm (hname (b', scenb) hb' rfl)
      · rfl
  · intro b hb
    obtain ⟨scen', hb⟩ := h.registered b hb
    exact ⟨scen', List.mem_append_left _ hb⟩
  · exact h.released
  · intro d hkind n
    rcases h.answered d hkind n with ⟨hserved, hnone⟩ | ⟨⟨y, scen', hy, hscen, hyname, hother⟩, hidle⟩
    · left
      constructor
      · intro b hb hbname
        rcases (hmem b goal).mp hb with hb | ⟨rfl, hgoal⟩
        · exact hserved b hb hbname
        · refine Eq.trans (hnone fun b' hb' hname' => ?_) (hheld d).symm
          exact hname (b', goal) hb' hgoal (hname'.trans hbname.symm)
      · intro hno
        exact hnone fun b hb => hno b (List.mem_append_left _ hb)
    · right
      constructor
      · exact ⟨y, scen', List.mem_append_left _ hy, hscen, hyname, hother⟩
      · intro b hb hbname
        rcases (hmem b goal).mp hb with hb | ⟨rfl, -⟩
        · exact hidle b hb hbname
        · exact hheld d

theorem SwitchInvariant.register (h : SwitchInvariant c sw)
    (hfresh : a ∉ sw.st.algoItems.map Prod.fst) (hname : RegistersDistinct c sw (.register a scen)) :
    SwitchInvariant c { sw with st := { sw.st with algoItems := sw.st.algoItems ++ [(a, scen)] } } where
  linked := h.linked.register hfresh hname
  sensors := h.sensors
  scen s hs := scenAt_congr sw rfl rfl rfl ⟨rfl, rfl⟩ (h.scen s hs)
  active b scen' hb hact := by
    rcases List.mem_append.mp hb with hb | hb
    · exact h.active b scen' hb hact
    · rw [List.mem_singleton] at hb
      cases hb
      obtain ⟨scen'', hmem⟩ := h.linked.registered a hact
      exact absurd (List.mem_map.mpr ⟨_, hmem, rfl⟩) hfresh
  idle := h.idle

theorem SwitchInvariant.step (h : SwitchInvariant c sw) {event : SwitchEvent}
    (hregs : RegistersDistinct c sw event) (hclean : SwitchesCleanly c sw event)
    (hsw : sw.step c event = some sw') : SwitchInvariant c sw' := by
  obtain ⟨hraised, hyields, hcur⟩ := hclean
  cases event with
  | update s temp =>
    cases hsw
    split
    · exact h.updateSensor ‹_› temp
    · exact h
  | decide a =>
    obtain ⟨st', hst, rfl⟩ := map_eq_some_iff.mp hsw
    exact h.decision hyields hst
  | startChange newScen =>
    cases hsw
    split
    · exact h.start ‹_› newScen
    · exact h
  | startReload newScen =>
    cases hsw
    split
    · rename_i hidle
      rw [hcur hidle]
      exact h.startReload hidle _
    · exact h
  | applyScen s temp =>
    rw [Switch.step] at hsw
    split at hsw
    · cases hsw
      exact h
    · rename_i target htarget
      split at hsw
      · rename_i hdue
        cases hsw
        exact h.applyScen hdue.1 hdue.2 htarget temp
      · cases hsw
        exact h
  | clearScen s =>
    rw [Switch.step] at hsw
    split at hsw
    · rename_i hdue
      exact h.clearScen hdue.1 hdue.2.1 hraised hyields hsw
    · cases hsw
      exact h
  | finish =>
    rw [Switch.step] at hsw
    split at hsw
    · cases hsw
      exact h
    · rename_i target htarget
      split at hsw
      · rename_i hcleared
        cases hsw
        exact h.finish htarget hcleared
      · cases hsw
        exact h
  | register a scen =>
    cases hsw
    split
    · exact h
    · exact h.register ‹_› hregs

theorem switchInvariant_boot (hdist : DistinctInScen c c.items) : SwitchInvariant c (Switch.boot c) := by
  have hsame := State.boot_sameItems c
  have hlinked : Linked c "Default" c.parsed := by
    refine ⟨c.items_nodup, hdist, (fun _ h => nomatch h), fun a _ d => (c.algo a).held_initial d, ?_⟩
    intro d _ n
    exact .inl ⟨fun b _ _ => ((c.algo b).held_initial d).symm, fun _ => rfl⟩
  have hinactive (a : Nat) : ((Switch.boot c).st.algo a).activeStatus = false := by
    rw [Switch.boot, hsame.algo]
    rfl
  constructor
  · exact hlinked.of_eq hsame.algo hsame.device hsame.algoItems
  · intro a ha
    rw [hinactive] at ha
    cases ha
  · intro s _
    exact hsame.scen s
  · intro a _ _ ha
    rw [hinactive] at ha
    cases ha
  · intro _ _ _
    rfl

theorem SwitchInvariant.onlyCurrent (h : SwitchInvariant c sw) : sw.OnlyCurrent c := by
  constructor
  · intro a scen hmem hcur htarget
    rw [Bool.eq_false_iff]
    intro hact
    rcases h.active a scen hmem hact with hscen | ⟨hscen, -⟩
    · rw [Switch.goal] at hscen
      cases hsw : sw.target with
      | none =>
        rw [hsw, getD_none] at hscen
        exact hcur hscen
      | some target =>
        rw [hsw, getD_some] at hscen
        rw [hsw, hscen] at htarget
        exact htarget rfl
    · exact hcur hscen
  · intro hidle d hkind n
    have hgoal : sw.goal = sw.curScen := by rw [Switch.goal, hidle, getD_none]
    obtain ⟨hheld, hnone⟩ := h.serves (h.idle hidle) hkind n
    rw [hgoal] at hheld hnone
    constructor
    · intro b hb _ hname
      exact hheld b hb hname
    · intro hno
      by_cases hitem : ∃ b, (b, sw.curScen) ∈ sw.st.algoItems ∧ (c.algo b).name = n
      · obtain ⟨b, hb, hname⟩ := hitem
        rw [hheld b hb hname]
        apply h.linked.released
        rw [Bool.eq_false_iff]
        intro hact
        exact hno b hb hact hname
      · exact hnone fun b hb hname => hitem ⟨b, hb, hname⟩

end

/-- In every run whose steps switch cleanly, only the current scenario is in force. -/
theorem onlyCurrent_run (c : Config) (hdist : DistinctInScen c c.items) (events : List SwitchEvent)
    (hregs : EachDefinedStep (Switch.step c) (RegistersDistinct c) (Switch.boot c) events)
    (hclean : EachDefinedStep (Switch.step c) (SwitchesCleanly c) (Switch.boot c) events) (sw : Switch)
    (hsw : Switch.run c events = some sw) : sw.OnlyCurrent c := by
  have hinv : SwitchInvariant c sw := by
    refine foldlM_keeps_of_eachDefinedStep ?_ (switchInvariant_boot hdist) (hregs.and hclean) hsw
    intro sw sw' event h hmeets hstep
    exact h.step hmeets.1 hmeets.2 hstep
  exact hinv.onlyCurrent

theorem nodup_firstSensor : [0].Nodup := List.nodup_singleton 0

def twoScenarios : Config where
  algo _ := .monitor "M" 0 0 false [[0], [0]] [[1], [2]] [50000, 70000] [45000, 65000]
  device _ := { kind := .cpuFreq, leveltoValue := ["2210000", "2106000", "2002000"] }
  sensor _ := { thread := 0, kind := .real }
  sensors := [0]
  sensors_nodup := nodup_firstSensor
  items := [(0, "Default"), (1, "Game")]
  items_nodup := by decide

def cleanChange : List SwitchEvent :=
  [.update 0 60000, .decide 0, .startChange "Game", .applyScen 0 60000, .clearScen 0, .finish, .decide 1]

theorem onlyCurrent_run_twoScenarios :
    (Switch.run twoScenarios cleanChange).map (fun sw => (sw.curScen, sw.st.requestOf 0 "M")) = some ("Game", 1) ∧
      ∀ sw, Switch.run twoScenarios cleanChange = some sw → sw.OnlyCurrent twoScenarios := by
  have hdist : DistinctInScen twoScenarios twoScenarios.items := by
    rw [DistinctInScen]
    decide
  constructor
  · decide
  · exact onlyCurrent_run twoScenarios hdist cleanChange (by decide) (by decide)

def Switch.brokenBy (c : Config) (sw : Switch) (a d : Nat) : Bool := sw.target.isNone && sw.st.algoItems.any fun r =>
    r.1 == a && (sw.st.algo a).activeStatus &&
      (r.2 != sw.curScen || sw.st.requestOf d (c.algo a).name != (c.algo a).held (sw.st.algo a) d)

theorem Switch.not_onlyCurrent {c : Config} {sw : Switch} {a d : Nat} (hkind : (c.device d).kind ≠ .report)
    (h : sw.brokenBy c a d) : ¬ sw.OnlyCurrent c := by
  rintro ⟨hinactive, hasks⟩
  obtain ⟨hidle, hany⟩ := Bool.and_eq_true_iff.mp h
  rw [Option.isNone_iff_eq_none] at hidle
  obtain ⟨⟨b, scen⟩, hmem, hr⟩ := List.any_eq_true.mp hany
  simp only [Bool.and_eq_true, beq_iff_eq, Bool.or_eq_true, bne_iff_ne] at hr
  obtain ⟨⟨rfl, hact⟩, hbroken⟩ := hr
  by_cases hscen : scen = sw.curScen
  · subst hscen
    rcases hbroken with hne | hne
    · exact hne rfl
    · exact hne ((hasks hidle d hkind _).wanted b hmem hact rfl)
  · have hoff := hinactive b scen hmem hscen (by rw [hidle]; exact nofun)
    rw [hact] at hoff
    cases hoff

def undecidedChange : List SwitchEvent :=
  [.update 0 60000, .startChange "Game", .applyScen 0 60000, .clearScen 0, .finish]

def overwrittenChange : List SwitchEvent :=
  [.update 0 60000, .decide 0, .startChange "Game", .applyScen 0 60000, .decide 1, .clearScen 0, .finish]

def pendingReload : List SwitchEvent :=
  [.update 0 60000, .decide 0, .startReload "Game", .applyScen 0 60000, .clearScen 0, .finish]

theorem twoScenarios_not_onlyCurrent : [undecidedChange, overwrittenChange, pendingReload].Forall fun events =>
    ∃ sw, Switch.run twoScenarios events = some sw ∧ sw.target = none ∧ ¬ sw.OnlyCurrent twoScenarios := by
  have hbroken : ∀ p ∈ [(undecidedChange, 0), (overwrittenChange, 1), (pendingReload, 0)],
      (Switch.run twoScenarios p.1).map (fun sw => (sw.target, sw.brokenBy twoScenarios p.2 0)) =
        some (none, true) := by
    decide
  refine List.forall_iff_forall_mem.mpr fun events hevents => ?_
  obtain ⟨a, ha⟩ : ∃ a, (events, a) ∈ [(undecidedChange, 0), (overwrittenChange, 1), (pendingReload, 0)] := by
    simp only [List.mem_cons, List.not_mem_nil, or_false] at hevents
    rcases hevents with rfl | rfl | rfl
    · exact ⟨0, by simp⟩
    · exact ⟨1, by simp⟩
    · exact ⟨0, by simp⟩
  obtain ⟨sw, hsw, hfacts⟩ := map_eq_some_iff.mp (hbroken _ ha)
  obtain ⟨hidle, hbad⟩ := Prod.mk.inj hfacts
  refine ⟨sw, hsw, hidle, Switch.not_onlyCurrent (d := 0) ?_ hbad⟩
  decide

end ExynosHal.Thermal
