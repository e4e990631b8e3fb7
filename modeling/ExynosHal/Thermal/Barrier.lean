import Mathlib.Algebra.BigOperators.Fin
import Mathlib.Tactic
import ExynosHal.Library.Run
import ExynosHal.Library.Words
import ExynosHal.Thermal.Handshake

/-! # When the handshake is a barrier

A wait may return although what it waits for has not come, and `isScenChanging` is cleared only after the
thread has been released.
-/

namespace ExynosHal.Thermal.Handshake
open Library.Run

inductive Stage where
  | outside
  | entering
  | stopped
  | applying
  | applied
  | clearing
  deriving DecidableEq

def SensorPc.stage : SensorPc → Stage
  | .loop | .testZero .cleared | .notifyScen .cleared => .outside
  | .setNeedWait | .decrement .stopped => .entering
  | .testZero .stopped | .notifyScen .stopped | .testWait .zero | .beginWait .zero | .waiting .zero _ => .stopped
  | .setNeedWaitAgain | .traverseSensors | .decrement .applied => .applying
  | .testZero .applied | .notifyScen .applied | .testWait .one | .beginWait .one | .waiting .one _ => .applied
  | .deactivateOldScen | .decrement .cleared => .clearing

inductive Mode where
  | resting
  | due (counted : Bool)
  | signalled
  | held (counted : Bool)
  | released
  | done (counted : Bool)
  | clearing (flagged : Bool)

def Rendezvous.mode : Rendezvous → Mode
  | .stopped => .signalled
  | .applied => .released
  | .cleared => .clearing false

def Rendezvous.before : Rendezvous → Bool → Mode
  | .stopped, counted => .due counted
  | .applied, counted => .held counted
  | .cleared, counted => .done counted

variable {n : Nat}

def ScenPc.mode (scen : ScenPc n) (j : Fin n) : Mode :=
  match scen with
  | .idle => .resting
  | .increment r k => if j < k then r.mode else r.before false
  | .setChanging i => if j < i then .signalled else .due (j = i)
  | .wakeupThread i => if j ≤ i then .signalled else .due false
  | .setNewScen i | .clearWait0 i => if j < i then .released else .held (j = i)
  | .notify0 i => if j ≤ i then .released else .held false
  | .clearWait1 i => if j < i then .clearing false else .done (j = i)
  | .notify1 i | .clearChanging i => if j ≤ i then .clearing (j = i) else .done false
  | .testCount r | .beginWait r | .waiting r _ => r.mode

def Mode.owes : Mode → Stage → Bool
  | .resting, _ => false
  | .due counted, _ | .held counted, _ | .done counted, _ => counted
  | .signalled, stage => stage = .outside ∨ stage = .entering
  | .released, stage => stage = .stopped ∨ stage = .applying
  | .clearing _, stage => stage ≠ .outside

def SensorThread.Counts (t : SensorThread) (entered arrived applied cleared : Nat) : Prop :=
  t.entered = entered ∧ t.arrived = arrived ∧ t.applied = applied ∧ t.cleared = cleared

def Mode.Fits (past : Nat) (t : SensorThread) : Mode → Prop
  | .resting | .due _ => t.pc.stage = .outside ∧ t.isScenChanging = false ∧ t.Counts past past past past
  | .signalled => t.isScenChanging ∧
      (t.pc.stage = .outside ∧ t.Counts past past past past ∨ t.pc = .setNeedWait ∧ t.Counts (past + 1) past past past ∨
        t.pc = .decrement .stopped ∧ t.needWait ∧ t.Counts (past + 1) past past past ∨
        t.pc.stage = .stopped ∧ t.needWait ∧ t.Counts (past + 1) (past + 1) past past)
  | .held _ => t.isScenChanging ∧ t.pc.stage = .stopped ∧ t.needWait ∧ t.Counts (past + 1) (past + 1) past past
  | .released => t.isScenChanging ∧
      ((t.pc.stage = .stopped ∨ t.pc = .setNeedWaitAgain) ∧ t.Counts (past + 1) (past + 1) past past ∨
        t.pc = .traverseSensors ∧ t.needWait ∧ t.Counts (past + 1) (past + 1) past past ∨
        (t.pc = .decrement .applied ∨ t.pc.stage = .applied) ∧ t.needWait ∧
          t.Counts (past + 1) (past + 1) (past + 1) past)
  | .done _ => t.isScenChanging ∧ t.pc.stage = .applied ∧ t.needWait ∧ t.Counts (past + 1) (past + 1) (past + 1) past
  | .clearing flagged => t.isScenChanging = flagged ∧
      ((t.pc.stage = .applied ∨ t.pc = .deactivateOldScen) ∧ t.Counts (past + 1) (past + 1) (past + 1) past ∨
        (t.pc = .decrement .cleared ∨ t.pc.stage = .outside) ∧ t.Counts (past + 1) (past + 1) (past + 1) (past + 1))

inductive Moves (t : SensorThread) : Int → SensorThread → Prop where
  | enter (hpc : t.pc = .loop) (hflag : t.isScenChanging) :
      Moves t 0 { t with pc := .setNeedWait, entered := t.entered + 1 }
  | stay : Moves t 0 t
  | arm (hpc : t.pc = .setNeedWait) : Moves t 0 { t with pc := .decrement .stopped, needWait := true }
  | arrive (r : Rendezvous) (hpc : t.pc = .decrement r) : Moves t (-1) { t.countArrival r with pc := .testZero r }
  | seen (r : Rendezvous) (hpc : t.pc = .testZero r) : Moves t 0 { t with pc := .notifyScen r }
  | signal (r : Rendezvous) (hpc : t.pc = .testZero r ∨ t.pc = .notifyScen r) : Moves t 0 { t with pc := r.afterSignal }
  | block (step : WaitStep) (hpc : t.pc = .testWait step) (hwait : t.needWait) :
      Moves t 0 { t with pc := .beginWait step }
  | wait (step : WaitStep) (hpc : t.pc = .beginWait step) : Moves t 0 { t with pc := .waiting step false }
  | pass (step : WaitStep) (hpc : t.pc = .testWait step ∨ ∃ notified, t.pc = .waiting step notified)
      (hwait : t.needWait = false) : Moves t 0 { t with pc := step.afterWait }
  | armAgain (hpc : t.pc = .setNeedWaitAgain) : Moves t 0 { t with pc := .traverseSensors, needWait := true }
  | apply (hpc : t.pc = .traverseSensors) : Moves t 0 { t with pc := .decrement .applied, applied := t.applied + 1 }
  | clear (hpc : t.pc = .deactivateOldScen) : Moves t 0 { t with pc := .decrement .cleared, cleared := t.cleared + 1 }

def Mode.owed (m : Mode) (t : SensorThread) : Int := (m.owes t.pc.stage).toNat

section
variable {past : Nat} {t t' : SensorThread} {m : Mode} {δ : Int}

/-- The mode of a thread on its way from one rendezvous to the next. -/
theorem Mode.Fits.mode_eq (h : m.Fits past t) : (t.pc.stage = .entering → m = .signalled) ∧
    (t.pc.stage = .applying → m = .released) ∧ (t.pc.stage = .clearing → ∃ flagged, m = .clearing flagged) := by
  cases m with
  | resting | due | held | done => simp_all [Mode.Fits]
  | signalled => rcases h.2 with h | h | h | h <;> (rw [h.1]; exact ⟨fun _ => rfl, nofun, nofun⟩)
  | released => rcases h.2 with ⟨h | h, -⟩ | ⟨h, -⟩ | ⟨h | h, -⟩ <;> (rw [h]; exact ⟨nofun, fun _ => rfl, nofun⟩)
  | clearing => rcases h.2 with ⟨h | h, -⟩ | ⟨h | h, -⟩ <;> (rw [h]; exact ⟨nofun, nofun, fun _ => ⟨_, rfl⟩⟩)

/-- At a rendezvous and outside a mode does not ask for the place in the stage. -/
theorem Mode.Fits.within {pc : SensorPc} (h : m.Fits past t) (hstage : pc.stage = t.pc.stage)
    (hrest : t.pc.stage = .outside ∨ t.pc.stage = .stopped ∨ t.pc.stage = .applied) :
    m.Fits past { t with pc } ∧ m.owed { t with pc } = m.owed t + 0 := by
  have hnamed (pc' : SensorPc) (hpc : t.pc = pc') : pc'.stage = .outside ∨ pc'.stage = .stopped ∨
      pc'.stage = .applied :=
    hpc ▸ hrest
  refine ⟨?_, by rw [add_zero, Mode.owed, Mode.owed, hstage]⟩
  cases m with
  | resting | due => exact ⟨hstage.trans h.1, h.2⟩
  | held | done => exact ⟨h.1, hstage.trans h.2.1, h.2.2⟩
  | signalled =>
    obtain ⟨hflag, ⟨hs, hcounts⟩ | ⟨hpc, -⟩ | ⟨hpc, -⟩ | ⟨hs, hcounts⟩⟩ := h
    · exact ⟨hflag, .inl ⟨hstage.trans hs, hcounts⟩⟩
    · exact absurd (hnamed _ hpc) (by decide)
    · exact absurd (hnamed _ hpc) (by decide)
    · exact ⟨hflag, .inr (.inr (.inr ⟨hstage.trans hs, hcounts⟩))⟩
  | released =>
    obtain ⟨hflag, ⟨hs | hpc, hcounts⟩ | ⟨hpc, -⟩ | ⟨hpc | hs, hcounts⟩⟩ := h
    · exact ⟨hflag, .inl ⟨.inl (hstage.trans hs), hcounts⟩⟩
    · exact absurd (hnamed _ hpc) (by decide)
    · exact absurd (hnamed _ hpc) (by decide)
    · exact absurd (hnamed _ hpc) (by decide)
    · exact ⟨hflag, .inr (.inr ⟨.inr (hstage.trans hs), hcounts⟩)⟩
  | clearing =>
    obtain ⟨hflag, ⟨hs | hpc, hcounts⟩ | ⟨hpc | hs, hcounts⟩⟩ := h
    · exact ⟨hflag, .inl ⟨.inl (hstage.trans hs), hcounts⟩⟩
    · exact absurd (hnamed _ hpc) (by decide)
    · exact absurd (hnamed _ hpc) (by decide)
    · exact ⟨hflag, .inr ⟨.inr (hstage.trans hs), hcounts⟩⟩

attribute [local simp] Mode.Fits Mode.owed Mode.owes SensorPc.stage SensorThread.Counts in
theorem Moves.fits (hmove : Moves t δ t') (h : m.Fits past t) (hloop : m = .clearing true → t.pc ≠ .loop) :
    m.Fits past t' ∧ m.owed t' = m.owed t + δ := by
  obtain ⟨hentering, happlying, hclearing⟩ := h.mode_eq
  cases hmove with
  | enter hpc hflag =>
    -- The flag is up outside the handshake when the thread has been signalled.
    cases m with
    | signalled =>
      obtain ⟨-, ⟨-, hentered, hcounts⟩ | ⟨hpc', -⟩ | ⟨hpc', -⟩ | ⟨hs, -⟩⟩ := h
      · exact ⟨⟨hflag, .inr (.inl ⟨rfl, congrArg (· + 1) hentered, hcounts⟩)⟩,
          by simp [hpc]⟩
      all_goals simp_all
    | _ => simp_all
  | stay => exact ⟨h, (add_zero _).symm⟩
  | arm hpc =>
    obtain rfl := hentering (congrArg SensorPc.stage hpc)
    simp_all
  | arrive r hpc =>
    cases r with
    | stopped =>
      obtain rfl := hentering (congrArg SensorPc.stage hpc)
      simp_all [SensorThread.countArrival]
    | applied =>
      obtain rfl := happlying (congrArg SensorPc.stage hpc)
      simp_all [SensorThread.countArrival]
    | cleared =>
      obtain ⟨flagged, rfl⟩ := hclearing (congrArg SensorPc.stage hpc)
      simp_all [SensorThread.countArrival]
  | seen r hpc => exact h.within (by rw [hpc]; cases r <;> rfl) (by rw [hpc]; cases r <;> decide)
  | signal r hpc =>
    have hstage : t.pc.stage = (SensorPc.testZero r).stage := by
      rcases hpc with hpc | hpc <;> cases r <;> rw [hpc] <;> rfl
    exact h.within (by rw [hstage]; cases r <;> rfl) (by rw [hstage]; cases r <;> decide)
  | block step hpc hwait => exact h.within (by rw [hpc]; cases step <;> rfl) (by rw [hpc]; cases step <;> decide)
  | wait step hpc => exact h.within (by rw [hpc]; cases step <;> rfl) (by rw [hpc]; cases step <;> decide)
  | pass step hpc hwait =>
    -- Only the mode in which the thread has been let go on leaves `needWait` unset there.
    rcases hpc with hpc | ⟨notified, hpc⟩
    all_goals cases step <;> cases m <;> simp_all [WaitStep.afterWait]
  | armAgain hpc =>
    obtain rfl := happlying (congrArg SensorPc.stage hpc)
    simp_all
  | apply hpc =>
    obtain rfl := happlying (congrArg SensorPc.stage hpc)
    simp_all
  | clear hpc =>
    obtain ⟨flagged, rfl⟩ := hclearing (congrArg SensorPc.stage hpc)
    simp_all
end

section
variable {s s' : State n} {past : Nat}

def State.owed (s : State n) (j : Fin n) : Int := (s.scen.mode j).owed (s.threads j)

structure Inv (past : Nat) (s : State n) : Prop where
  changes : s.changes = past + if s.scen = .idle then 0 else 1
  fits : ∀ j, (s.scen.mode j).Fits past (s.threads j)
  count : s.sensorThreadsWaitCnt = ∑ j, s.owed j

def ScenPc.isWaiting : ScenPc n → Bool
  | .waiting _ _ => true
  | _ => false

def SensorPc.isWaiting : SensorPc → Bool
  | .waiting _ _ => true
  | _ => false

def InOrder (s : State n) : Event n → Prop
  | .startChange _ => True
  | .scenario | .scenarioSpurious => s.scen.isWaiting → s.sensorThreadsWaitCnt = 0
  | .sensor i | .sensorSpurious i =>
      ((s.threads i).pc.isWaiting → (s.threads i).needWait = false) ∧
        ((s.threads i).pc = .loop → s.scen ≠ .notify1 i ∧ s.scen ≠ .clearChanging i)

instance (s : State n) : (event : Event n) → Decidable (InOrder s event)
  | .startChange _ => isTrue trivial
  | .scenario | .scenarioSpurious =>
    inferInstanceAs (Decidable (s.scen.isWaiting = true → s.sensorThreadsWaitCnt = 0))
  | .sensor i | .sensorSpurious i =>
    inferInstanceAs (Decidable (((s.threads i).pc.isWaiting = true → (s.threads i).needWait = false) ∧
      ((s.threads i).pc = .loop → s.scen ≠ .notify1 i ∧ s.scen ≠ .clearChanging i)))

variable {i : Fin n} {δ : Int}

theorem sum_eq_add_of_eq {f g : Fin n → Int} (hothers : ∀ j, j ≠ i → g j = f j)
    (hi : g i = f i + δ) : ∑ j, g j = ∑ j, f j + δ := by
  rw [← Finset.add_sum_erase _ g (Finset.mem_univ i), ← Finset.add_sum_erase _ f (Finset.mem_univ i), hi,
    Finset.sum_congr rfl fun j hj => hothers j (Finset.ne_of_mem_erase hj)]
  ring

theorem Inv.move (i : Fin n) (h : Inv past s) (hchanges : s'.changes = s.changes)
    (hidle : s'.scen = .idle ↔ s.scen = .idle) (hcnt : s'.sensorThreadsWaitCnt = s.sensorThreadsWaitCnt + δ)
    (hmode : ∀ j, j ≠ i → s'.scen.mode j = s.scen.mode j) (hthreads : ∀ j, j ≠ i → s'.threads j = s.threads j)
    (hfits : (s'.scen.mode i).Fits past (s'.threads i)) (howed : s'.owed i = s.owed i + δ) : Inv past s' := by
  refine ⟨?_, fun j => ?_, ?_⟩
  · simp only [hchanges, h.changes, hidle]
  · by_cases hj : j = i
    · rw [hj]
      exact hfits
    · rw [hmode j hj, hthreads j hj]
      exact h.fits j
  · have hothers : ∀ j, j ≠ i → s'.owed j = s.owed j := by
      intro j hj
      rw [State.owed, State.owed, hmode j hj, hthreads j hj]
    rw [hcnt, h.count, sum_eq_add_of_eq hothers howed]

theorem mode_notify (scen : ScenPc n) (j : Fin n) : scen.notify.mode j = scen.mode j := by
  cases scen <;> rfl

theorem idle_notify (scen : ScenPc n) : scen.notify = .idle ↔ scen = .idle := by
  cases scen <;> simp [ScenPc.notify]

variable {scen : ScenPc n}

theorem mode_clearing (h : scen.mode i = .clearing true) : scen = .notify1 i ∨ scen = .clearChanging i := by
  cases scen <;> simp_all [ScenPc.mode, Rendezvous.mode, Rendezvous.before]
  all_goals grind

structure Moved (s : State n) (i : Fin n) (s' : State n) (δ : Int) (t' : SensorThread) : Prop where
  moves : Moves (s.threads i) δ t'
  threads : s'.threads = Function.update s.threads i t'
  changes : s'.changes = s.changes
  scen : s'.scen = s.scen ∨ s'.scen = s.scen.notify
  count : s'.sensorThreadsWaitCnt = s.sensorThreadsWaitCnt + δ

variable {t' : SensorThread}

theorem Moved.setThread (lock : Option (Fin n)) (hmoves : Moves (s.threads i) 0 t') :
    Moved s i { s.setThread i t' with lock } 0 t' :=
  ⟨hmoves, rfl, rfl, .inl rfl, (add_zero _).symm⟩

theorem sensorStep_moved (horder : InOrder s (.sensor i)) (h : s.sensorStep i = some s') :
    ∃ δ t', Moved s i s' δ t' := by
  simp only [State.sensorStep] at h
  split at h
  · rename_i hpc
    split at h
    · rename_i hflag
      cases h
      exact ⟨0, _, .setThread s.lock (.enter hpc hflag)⟩
    · cases h
      exact ⟨0, _, .stay, (Function.update_eq_self i s.threads).symm, rfl, .inl rfl, (add_zero _).symm⟩
  · rename_i hpc
    cases h
    exact ⟨0, _, .setThread s.lock (.arm hpc)⟩
  · rename_i r hpc
    split at h
    · cases h
      exact ⟨-1, _, .arrive r hpc, rfl, rfl, .inl rfl, rfl⟩
    · cases h
  · rename_i r hpc
    split at h
    · cases h
      exact ⟨0, _, .setThread s.lock (.seen r hpc)⟩
    · cases h
      exact ⟨0, _, .setThread none (.signal r (.inl hpc))⟩
  · rename_i r hpc
    cases h
    exact ⟨0, _, .signal r (.inr hpc), rfl, rfl, .inr rfl, (add_zero _).symm⟩
  · rename_i step hpc
    cases h
    refine ⟨0, _, .setThread s.lock ?_⟩
    split
    · rename_i hwait
      exact .block step hpc hwait
    · rename_i hwait
      exact .pass step (.inl hpc) (Bool.eq_false_of_not_eq_true hwait)
  · rename_i step hpc
    cases h
    exact ⟨0, _, .setThread s.lock (.wait step hpc)⟩
  · rename_i step notified hpc
    split at h
    · cases h
      exact ⟨0, _, .setThread s.lock (.pass step (.inr ⟨notified, hpc⟩) (horder.1 (by rw [hpc]; rfl)))⟩
    · cases h
  · rename_i hpc
    cases h
    exact ⟨0, _, .setThread s.lock (.armAgain hpc)⟩
  · rename_i hpc
    cases h
    exact ⟨0, _, .setThread s.lock (.apply hpc)⟩
  · rename_i hpc
    cases h
    exact ⟨0, _, .setThread s.lock (.clear hpc)⟩

theorem sensorSpurious_moved (horder : InOrder s (.sensorSpurious i)) (h : s.sensorSpurious i = some s') :
    ∃ δ t', Moved s i s' δ t' := by
  simp only [State.sensorSpurious] at h
  split at h
  · rename_i step notified hpc
    cases h
    exact ⟨0, _, .setThread s.lock (.pass step (.inr ⟨notified, hpc⟩) (horder.1 (by rw [hpc]; rfl)))⟩
  · cases h

theorem Inv.moved (h : Inv past s) (hloop : (s.threads i).pc = .loop → s.scen ≠ .notify1 i ∧ s.scen ≠ .clearChanging i)
    (hmoved : Moved s i s' δ t') : Inv past s' := by
  have hmode : ∀ j, s'.scen.mode j = s.scen.mode j := by
    intro j
    rcases hmoved.scen with hscen | hscen
    · rw [hscen]
    · rw [hscen, mode_notify]
  have hidle : s'.scen = .idle ↔ s.scen = .idle := by
    rcases hmoved.scen with hscen | hscen
    · rw [hscen]
    · rw [hscen, idle_notify]
  have hthr : s'.threads i = t' := by rw [hmoved.threads, Function.update_self]
  obtain ⟨hfits, howed⟩ := hmoved.moves.fits (h.fits i) (by
    intro hm hpc
    obtain ⟨hnotify, hclear⟩ := hloop hpc
    rcases mode_clearing hm with hscen | hscen
    · exact hnotify hscen
    · exact hclear hscen)
  refine h.move i hmoved.changes hidle hmoved.count (fun j _ => hmode j) (fun j hj => ?_) ?_ ?_
  · rw [hmoved.threads, Function.update_of_ne hj]
  · rw [hmode i, hthr]
    exact hfits
  · rw [State.owed, State.owed, hmode i, hthr]
    exact howed

theorem Inv.same (h : Inv past s) (hmode : ∀ j, scen.mode j = s.scen.mode j)
    (hidle : scen = .idle ↔ s.scen = .idle) : Inv past { s with scen } := by
  refine ⟨?_, fun j => ?_, ?_⟩
  · simp only [h.changes, hidle]
  · simp only [hmode j]
    exact h.fits j
  · simp only [h.count, State.owed, hmode]

theorem Inv.set (h : Inv past s)
    (hidle : scen = .idle ↔ s.scen = .idle) (hmode : ∀ j, j ≠ i → scen.mode j = s.scen.mode j)
    (hfits : (scen.mode i).Fits past t') (howed : (scen.mode i).owed t' = (s.scen.mode i).owed (s.threads i)) :
    Inv past { s.setThread i t' with scen } := by
  refine h.move i rfl hidle (add_zero _).symm hmode (fun j hj => ?_) ?_ ?_
  · exact Function.update_of_ne hj _ _
  · simp only [State.setThread, Function.update_self]
    exact hfits
  · simp only [State.owed, State.setThread, Function.update_self, howed, add_zero]

variable (r : Rendezvous)

theorem mode_afterIncrement (i j : Fin n) :
    (r.afterIncrement i).mode j = if j < i then r.mode else r.before (j = i) := by
  cases r <;> rfl

variable {r : Rendezvous}

theorem Inv.increment {k : Nat} (h : Inv past s) (hscen : s.scen = .increment r k) (hk : k < n) :
    Inv past { s with
      sensorThreadsWaitCnt := s.sensorThreadsWaitCnt + 1
      scen := r.afterIncrement ⟨k, hk⟩ } := by
  have hfits := h.fits ⟨k, hk⟩
  rw [hscen] at hfits
  have hmode : ∀ j : Fin n, j ≠ ⟨k, hk⟩ → (r.afterIncrement ⟨k, hk⟩).mode j = s.scen.mode j := by
    intro j hj
    rw [mode_afterIncrement, hscen]
    simp only [ScenPc.mode, hj, Fin.lt_def, decide_false]
  refine h.move ⟨k, hk⟩ rfl ?_ rfl hmode (fun _ _ => rfl) ?_ ?_
  · rw [hscen]
    cases r <;> simp [Rendezvous.afterIncrement]
  · rw [mode_afterIncrement]
    cases r <;> simpa [ScenPc.mode, Rendezvous.before, Mode.Fits] using hfits
  · simp only [State.owed, mode_afterIncrement, hscen]
    cases r <;> simp [ScenPc.mode, Rendezvous.before, Mode.owed, Mode.owes]

theorem owes_eq_false (h : Inv past s) (hcnt : s.sensorThreadsWaitCnt ≤ 0) (j : Fin n) :
    (s.scen.mode j).owes (s.threads j).pc.stage = false := by
  have hnonneg : ∀ j ∈ Finset.univ, 0 ≤ s.owed j := fun j _ => Int.natCast_nonneg _
  have hsum : ∑ j, s.owed j = 0 := by
    have hle := h.count
    have hge := Finset.sum_nonneg hnonneg
    omega
  have hzero := (Finset.sum_eq_zero_iff_of_nonneg hnonneg).mp hsum j (Finset.mem_univ j)
  simpa only [State.owed, Mode.owed, Nat.cast_eq_zero, Bool.toNat_eq_zero] using hzero

def Rendezvous.afterMode : Rendezvous → Mode
  | .stopped => .held false
  | .applied => .done false
  | .cleared => .resting

def Rendezvous.afterPast (past : Nat) : Rendezvous → Nat
  | .cleared => past + 1
  | _ => past

theorem fits_afterMode {t : SensorThread} (h : r.mode.Fits past t)
    (howes : r.mode.owes t.pc.stage = false) : r.afterMode.Fits (r.afterPast past) t := by
  cases r with
  | stopped =>
    simp only [Rendezvous.mode, Mode.owes, decide_eq_false_iff_not, not_or] at howes
    obtain ⟨hflag, ⟨hstage, -⟩ | ⟨hpc, -⟩ | ⟨hpc, -⟩ | hstopped⟩ := h
    · exact absurd hstage howes.1
    · exact absurd (congrArg SensorPc.stage hpc) howes.2
    · exact absurd (congrArg SensorPc.stage hpc) howes.2
    · exact ⟨hflag, hstopped⟩
  | applied =>
    simp only [Rendezvous.mode, Mode.owes, decide_eq_false_iff_not, not_or] at howes
    obtain ⟨hflag, ⟨hstage | hpc, -⟩ | ⟨hpc, -⟩ | ⟨hpc | hstage, happlied⟩⟩ := h
    · exact absurd hstage howes.1
    iterate 3 exact absurd (congrArg SensorPc.stage hpc) howes.2
    · exact ⟨hflag, hstage, happlied⟩
  | cleared =>
    simp only [Rendezvous.mode, Mode.owes, decide_eq_false_iff_not, not_not] at howes
    obtain ⟨hflag, ⟨hstage | hpc, -⟩ | ⟨-, hcleared⟩⟩ := h
    · rw [hstage] at howes
      cases howes
    · rw [hpc] at howes
      cases howes
    · exact ⟨howes, hflag, hcleared⟩

theorem mode_nextRound (j : Fin n) : (r.nextRound : ScenPc n).mode j = r.afterMode := by
  cases r <;> rfl

theorem owed_afterMode (t : SensorThread) : r.afterMode.owed t = 0 := by
  cases r <;> rfl

theorem Inv.nextRound (h : Inv past s) (hidle : s.scen ≠ .idle) (hmode : ∀ j, s.scen.mode j = r.mode)
    (hcnt : s.sensorThreadsWaitCnt ≤ 0) : Inv (r.afterPast past) { s with scen := r.nextRound } := by
  have howes := owes_eq_false h hcnt
  have hchanges : s.changes = past + 1 := by rw [h.changes, if_neg hidle]
  refine ⟨?_, fun j => ?_, ?_⟩
  · cases r <;> exact hchanges
  · have hfits := h.fits j
    have hj := howes j
    rw [hmode j] at hfits hj
    rw [mode_nextRound]
    exact fits_afterMode hfits hj
  · have hleft : s.sensorThreadsWaitCnt = 0 := by
      rw [h.count]
      refine Finset.sum_eq_zero fun j _ => ?_
      rw [State.owed, Mode.owed, howes j]
      rfl
    simp only [hleft, State.owed, mode_nextRound, owed_afterMode, Finset.sum_const_zero]

theorem stage_notify (step : WaitStep) (pc : SensorPc) : (pc.notify step).stage = pc.stage := by
  cases pc with
  | waiting step' notified => cases step' <;> rfl
  | _ => rfl

attribute [local simp] ScenPc.mode Rendezvous.mode Rendezvous.before Mode.owed Mode.owes

theorem Inv.setChanging (h : Inv past s) (hscen : s.scen = .setChanging i) :
    Inv past { s.setThread i { s.threads i with isScenChanging := true } with scen := .wakeupThread i } := by
  have hi : (Mode.due true).Fits past (s.threads i) := by simpa [hscen] using h.fits i
  obtain ⟨hstage, -, hcounts⟩ := hi
  refine h.set (by simp [hscen]) (fun j hj => ?_) ?_ ?_
  · simp [hscen, hj, lt_iff_le_and_ne]
  · simp only [ScenPc.mode, le_refl, if_true]
    exact ⟨rfl, .inl ⟨hstage, hcounts⟩⟩
  · simp [hscen, hstage]

theorem Inv.clearWait0 (h : Inv past s) (hscen : s.scen = .clearWait0 i) :
    Inv past { s.setThread i { s.threads i with needWait := false } with scen := .notify0 i } := by
  have hi : (Mode.held true).Fits past (s.threads i) := by simpa [hscen] using h.fits i
  obtain ⟨hflag, hstage, -, hcounts⟩ := hi
  refine h.set (by simp [hscen]) (fun j hj => ?_) ?_ ?_
  · simp [hscen, hj, lt_iff_le_and_ne]
  · simp only [ScenPc.mode, le_refl, if_true]
    exact ⟨hflag, .inl ⟨.inl hstage, hcounts⟩⟩
  · simp [hscen, hstage]

theorem Inv.clearWait1 (h : Inv past s) (hscen : s.scen = .clearWait1 i) :
    Inv past { s.setThread i { s.threads i with needWait := false } with scen := .notify1 i } := by
  have hi : (Mode.done true).Fits past (s.threads i) := by simpa [hscen] using h.fits i
  obtain ⟨hflag, hstage, -, hcounts⟩ := hi
  refine h.set (by simp [hscen]) (fun j hj => ?_) ?_ ?_
  · simp [hscen, hj, lt_iff_le_and_ne]
  · simp only [ScenPc.mode, le_refl, if_true, decide_true]
    exact ⟨hflag, .inl ⟨.inl hstage, hcounts⟩⟩
  · simp [hscen, hstage]

theorem Inv.clearChanging (h : Inv past s) (hscen : s.scen = .clearChanging i) :
    Inv past { s.setThread i { s.threads i with isScenChanging := false } with
        scen := .increment .cleared (i + 1) } := by
  have hi : (Mode.clearing true).Fits past (s.threads i) := by simpa [hscen] using h.fits i
  obtain ⟨-, hrest⟩ := hi
  refine h.set (by simp [hscen]) (fun j hj => ?_) ?_ ?_
  · simp [hscen, hj]
  · simp only [ScenPc.mode, Nat.lt_succ_self, if_true]
    exact ⟨rfl, hrest⟩
  · simp [hscen]

theorem Mode.Fits.notify {m : Mode} {t : SensorThread} (step : WaitStep) (h : m.Fits past t) :
    m.Fits past { t with pc := t.pc.notify step } := by
  cases hpc : t.pc with
  | waiting step' notified =>
    revert h
    cases step' <;> cases m <;> simp [Mode.Fits, SensorPc.notify, SensorPc.stage, SensorThread.Counts, hpc]
  | _ =>
    rw [SensorPc.notify, ← hpc]
    exact h
    all_goals nofun

theorem scenarioStep_inv (h : Inv past s) (horder : InOrder s .scenario) (hstep : s.scenarioStep = some s') :
    ∃ past', Inv past' s' := by
  simp only [State.scenarioStep] at hstep
  split at hstep
  · cases hstep
  · rename_i r k hscen
    split at hstep
    · rename_i hk
      cases hstep
      exact ⟨past, h.increment hscen hk⟩
    · rename_i hk
      cases hstep
      refine ⟨past, h.same (fun j => ?_) (by simp [hscen])⟩
      have hj : (j : Nat) < k := lt_of_lt_of_le j.isLt (Nat.le_of_not_lt hk)
      simp only [hscen, ScenPc.mode, if_pos hj]
  · rename_i i hscen
    cases hstep
    exact ⟨past, h.setChanging hscen⟩
  · rename_i i hscen
    cases hstep
    refine ⟨past, h.same (fun j => ?_) (by simp [hscen])⟩
    simp [hscen]
  · rename_i i hscen
    cases hstep
    have hi : (Mode.held true).Fits past (s.threads i) := by simpa [hscen] using h.fits i
    refine ⟨past, h.set (by simp [hscen]) (fun j _ => by rw [hscen]; rfl) ?_ (by rw [hscen]; rfl)⟩
    simp only [ScenPc.mode, lt_irrefl, if_false, decide_true]
    exact hi
  · rename_i i hscen
    cases hstep
    exact ⟨past, h.clearWait0 hscen⟩
  · rename_i i hscen
    cases hstep
    have hi := (h.fits i).notify .zero
    refine ⟨past, h.set (by simp [hscen]) (fun j _ => ?_) ?_ ?_⟩
    · simp [hscen]
    · simpa [hscen] using hi
    · simp [hscen, stage_notify]
  · rename_i i hscen
    cases hstep
    exact ⟨past, h.clearWait1 hscen⟩
  · rename_i i hscen
    cases hstep
    have hi := (h.fits i).notify .one
    refine ⟨past, h.set (by simp [hscen]) (fun j _ => by rw [hscen]; rfl) ?_ ?_⟩
    · simpa [hscen] using hi
    · simp [hscen, stage_notify]
  · rename_i i hscen
    cases hstep
    exact ⟨past, h.clearChanging hscen⟩
  · rename_i r hscen
    cases hstep
    have hmode : ∀ j, s.scen.mode j = r.mode := fun j => by rw [hscen]; rfl
    split
    · exact ⟨past, h.same (fun j => (hmode j).symm) (by simp [hscen])⟩
    · rename_i hcnt
      exact ⟨_, h.nextRound (by simp [hscen]) hmode (Int.not_lt.mp hcnt)⟩
  · rename_i r hscen
    cases hstep
    exact ⟨past, h.same (fun j => by rw [hscen]; rfl) (by simp [hscen])⟩
  · rename_i r notified hscen
    split at hstep
    · cases hstep
      refine ⟨_, h.nextRound (by simp [hscen]) (fun j => by rw [hscen]; rfl) ?_⟩
      exact le_of_eq (horder (by rw [hscen]; rfl))
    · cases hstep

theorem scenarioSpurious_inv (h : Inv past s) (horder : InOrder s .scenarioSpurious)
    (hstep : s.scenarioSpurious = some s') : ∃ past', Inv past' s' := by
  simp only [State.scenarioSpurious] at hstep
  split at hstep
  · rename_i r notified hscen
    cases hstep
    refine ⟨_, h.nextRound (by simp [hscen]) (fun j => by rw [hscen]; rfl) ?_⟩
    exact le_of_eq (horder (by rw [hscen]; rfl))
  · cases hstep

theorem startChange_inv {newScen : String} (h : Inv past s) (hstep : s.startChange newScen = some s') :
    Inv past s' := by
  simp only [State.startChange] at hstep
  split at hstep
  · rename_i hscen
    cases hstep
    have hfits := h.fits
    have hcnt := h.count
    rw [hscen] at hfits
    simp only [State.owed, hscen] at hcnt
    refine ⟨?_, fun j => ?_, ?_⟩
    · rw [h.changes, hscen]
      rfl
    · exact hfits j
    · rw [hcnt]
      rfl
  · cases hstep

theorem step_inv {event : Event n} (h : Inv past s) (horder : InOrder s event) (hstep : s.step event = some s') :
    ∃ past', Inv past' s' := by
  cases event with
  | startChange newScen => exact ⟨past, startChange_inv h hstep⟩
  | scenario => exact scenarioStep_inv h horder hstep
  | scenarioSpurious => exact scenarioSpurious_inv h horder hstep
  | sensor i =>
    obtain ⟨δ, t', hmoved⟩ := sensorStep_moved horder hstep
    exact ⟨past, h.moved horder.2 hmoved⟩
  | sensorSpurious i =>
    obtain ⟨δ, t', hmoved⟩ := sensorSpurious_moved horder hstep
    exact ⟨past, h.moved horder.2 hmoved⟩

theorem inv_init : Inv 0 ({} : State n) := by
  refine ⟨rfl, fun j => ⟨rfl, rfl, rfl, rfl, rfl, rfl⟩, ?_⟩
  simp only [State.owed, ScenPc.mode, Mode.owed, Mode.owes, Bool.toNat_false, Nat.cast_zero, Finset.sum_const_zero]

end

structure Barrier (s : State n) : Prop where
  stopped : ∀ i, (s.threads i).pc = .traverseSensors → ∀ j, (s.threads j).arrived = s.changes
  applied : ∀ i, (s.threads i).pc = .deactivateOldScen → ∀ j, (s.threads j).applied = s.changes
  atMostOnce : ∀ j, (s.threads j).entered ≤ s.changes
  once : s.scen = .idle → ∀ j, (s.threads j).entered = s.changes ∧ (s.threads j).cleared = s.changes
  count : s.scen = .idle → s.sensorThreadsWaitCnt = 0

section
variable {s : State n} {past : Nat} {t : SensorThread} {m : Mode}

def Mode.round : Mode → Option Rendezvous
  | .resting => none
  | .due _ | .signalled => some .stopped
  | .held _ | .released => some .applied
  | .done _ | .clearing _ => some .cleared

def ScenPc.round : ScenPc n → Option Rendezvous
  | .idle => none
  | .setChanging _ | .wakeupThread _ => some .stopped
  | .setNewScen _ | .clearWait0 _ | .notify0 _ => some .applied
  | .clearWait1 _ | .notify1 _ | .clearChanging _ => some .cleared
  | .increment r _ | .testCount r | .beginWait r | .waiting r _ => some r

theorem round_mode (scen : ScenPc n) (j : Fin n) : (scen.mode j).round = scen.round := by
  cases scen with
  | increment r k =>
    simp only [ScenPc.mode, apply_ite Mode.round]
    cases r <;> exact ite_self _
  | testCount r | beginWait r | waiting r notified => cases r <;> rfl
  | idle => rfl
  | _ =>
    simp only [ScenPc.mode, apply_ite Mode.round]
    exact ite_self _

section
variable (h : m.Fits past t)
include h

theorem Mode.Fits.round_traverse (hpc : t.pc = .traverseSensors) : m.round = some .applied := by
  cases m <;> simp_all [Mode.Fits, Mode.round, SensorPc.stage]

theorem Mode.Fits.round_deactivate (hpc : t.pc = .deactivateOldScen) : m.round = some .cleared := by
  cases m <;> simp_all [Mode.Fits, Mode.round, SensorPc.stage]

theorem Mode.Fits.arrived (hround : m.round = some .applied) : t.arrived = past + 1 := by
  cases m <;> simp [Mode.Fits, Mode.round, SensorThread.Counts] at h hround <;> omega

theorem Mode.Fits.applied (hround : m.round = some .cleared) : t.applied = past + 1 := by
  cases m <;> simp [Mode.Fits, Mode.round, SensorThread.Counts] at h hround <;> omega

theorem Mode.Fits.entered_le : t.entered ≤ past + 1 := by
  cases m <;> simp only [Mode.Fits, SensorThread.Counts] at h <;> omega

end

theorem Inv.barrier (h : Inv past s) : Barrier s := by
  have hbusy : ∀ r, s.scen.round = some r → s.changes = past + 1 := by
    intro r hround
    rw [h.changes, if_neg]
    intro hscen
    rw [hscen] at hround
    cases hround
  refine ⟨fun i hpc j => ?_, fun i hpc j => ?_, fun j => ?_, fun hscen j => ?_, fun hscen => ?_⟩
  · have hround := (h.fits i).round_traverse hpc
    rw [round_mode] at hround
    rw [hbusy _ hround]
    exact (h.fits j).arrived ((round_mode _ j).trans hround)
  · have hround := (h.fits i).round_deactivate hpc
    rw [round_mode] at hround
    rw [hbusy _ hround]
    exact (h.fits j).applied ((round_mode _ j).trans hround)
  · by_cases hscen : s.scen = .idle
    · have hj := h.fits j
      rw [hscen] at hj
      rw [h.changes, hscen, if_pos rfl, hj.2.2.1]
      exact Nat.le_add_right _ _
    · rw [h.changes, if_neg hscen]
      exact (h.fits j).entered_le
  · have hj := h.fits j
    have hchanges := h.changes
    rw [hscen] at hj hchanges
    exact ⟨hj.2.2.1.trans hchanges.symm, hj.2.2.2.2.2.trans hchanges.symm⟩
  · rw [h.count]
    refine Finset.sum_eq_zero fun j _ => ?_
    rw [State.owed, hscen]
    rfl

end

/-- In every run of any number of threads in which no wait returns too early and no thread looks at
`isScenChanging` before it is reset, the handshake is a barrier. -/
theorem barrier_run (n : Nat) {events : List (Event n)} {s : State n} (hrun : events.foldlM State.step {} = some s)
    (horder : EachDefinedStep State.step InOrder {} events) : Barrier s := by
  have hinv : ∃ past, Inv past s := by
    refine foldlM_keeps_of_eachDefinedStep (P := fun s => ∃ past, Inv past s) ?_ ⟨0, inv_init⟩ horder hrun
    rintro s s' event ⟨past, h⟩ hevent hstep
    exact step_inv h hevent hstep
  obtain ⟨past, h⟩ := hinv
  exact h.barrier

def scenario (k : Nat) {n : Nat} : List (Event n) := List.replicate k .scenario

def sensor (k : Nat) {n : Nat} (i : Fin n) : List (Event n) := List.replicate k (.sensor i)

attribute [local instance] neZero_two

def twoThreads : List (Event 2) :=
  [.startChange "Game"] ++ scenario 9 ++ sensor 6 0 ++ sensor 7 1 ++ scenario 12 ++ sensor 7 0 ++ sensor 8 1 ++
    scenario 12 ++ sensor 4 0 ++ sensor 5 1 ++ scenario 1

theorem barrier_run_twoThreads : ∃ s, twoThreads.foldlM State.step {} = some s ∧ s.scen = .idle ∧ s.changes = 1 ∧
    Barrier s := by
  have hrun : twoThreads.foldlM State.step {} = some _ := rfl
  exact ⟨_, hrun, rfl, rfl, barrier_run 2 hrun (by decide +kernel)⟩

def oneThread : List (Event 1) :=
  [.startChange "Game"] ++ scenario 6 ++ sensor 5 0 ++ scenario 1 ++ sensor 2 0 ++ scenario 5 ++ sensor 4 0 ++
    scenario 1 ++ sensor 4 0 ++ scenario 2

def earlyReturn : List (Event 2) :=
  [.startChange "Game"] ++ scenario 9 ++ [.scenarioSpurious] ++ sensor 6 0 ++ scenario 4 ++ sensor 2 0

/-- A thread that is back at its test before the flag is reset goes through `changingScen` again, and the
counter ends below zero. After an early return a thread applies the scenario while another one has not
stopped. -/
theorem handshake_not_barrier :
    (∃ s, (oneThread ++ scenario 1 ++ sensor 8 0 ++ scenario 3).foldlM State.step {} = some s ∧ s.scen = .idle ∧
      s.changes = 1 ∧ (s.threads 0).entered = 2 ∧ s.sensorThreadsWaitCnt = -1 ∧ ¬Barrier s) ∧
    ∃ s, earlyReturn.foldlM State.step {} = some s ∧ s.changes = 1 ∧ (s.threads 0).pc = .traverseSensors ∧
      (s.threads 1).arrived = 0 ∧ ¬Barrier s := by
  refine ⟨⟨_, rfl, rfl, rfl, rfl, rfl, fun h => ?_⟩, ⟨_, rfl, rfl, rfl, rfl, fun h => ?_⟩⟩
  · have hcnt := h.count rfl
    revert hcnt
    decide
  · have harrived := h.stopped 0 rfl 1
    revert harrived
    decide

end ExynosHal.Thermal.Handshake
