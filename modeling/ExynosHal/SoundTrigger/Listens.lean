import ExynosHal.SoundTrigger.Power

/-! # The VTS listens for the models somebody waits on

Callbacks, recognition, execution state and callback thread are written apart.
-/

namespace ExynosHal.SoundTrigger
open Library.Run
open Bool (eq_false_iff)
open Function (update update_of_ne)

def Reaches (s : Stdev) (i : Model) (callback : Nat) : Prop :=
  ∀ w rest, w.word.model = i → w.allocated → ∃ t, step s (.thread (.uevent (w :: rest))) = some t ∧
    s.delivered ++ [{ model := i, callback, generic := s.isGeneric i }] <+: t.delivered

structure Listening (s : Stdev) : Prop where
  started : s.recognizeStarted = s.activeCallbackBitmask
  thread : s.activeCallbackBitmask.any → s.callbackThreadActive
  execstate : ∀ i, s.activeCallbackBitmask i → s.modelExecstate i = .running ∨ s.modelExecstate i = .stopAbort
  reaches : ∀ i callback, s.recognitionCallbacks i = some callback → s.modelExecstate i = .running →
    Reaches s i callback

def forAllModels (p : Model → Bool) : Bool := p .hotword && p .svoice

theorem forAllModels_iff {p : Model → Bool} : forAllModels p ↔ ∀ i, p i := by
  rw [forAllModels, Bool.and_eq_true]
  constructor
  · rintro ⟨hhotword, hsvoice⟩ i
    cases i with
    | hotword => exact hhotword
    | svoice => exact hsvoice
  · exact fun h => ⟨h .hotword, h .svoice⟩

def Stdev.mayExit (s : Stdev) : Bool := s.isStreaming.any || !s.activeCallbackBitmask.any

def Stdev.onlyAborted (s : Stdev) : Bool := forAllModels fun i => !s.activeCallbackBitmask i || s.aborted i

def Stdev.mayStop (s : Stdev) (handle : Int) : Bool :=
  match s.loaded handle with
  | some i => s.voicecallStarted || !s.isStreaming i || s.callbackThreadActive ||
      forAllModels fun j => j = i || !s.activeCallbackBitmask j
  | none => true

def Stdev.mayStart (s : Stdev) (handle : Int) (config : Option Config) (allocated : Bool) : Bool :=
  match s.loaded handle with
  | some i => !s.activeCallbackBitmask i || !s.anyStopFailed || forAllModels fun j =>
      !s.activeCallbackBitmask j || s.aborted j || (j = i && !s.voicecallStarted && (config = none || allocated))
  | none => true

def Stdev.mayRecover (s : Stdev) (i : Model) : Bool :=
  s.captures i || !(s.anyStopFailed || s.modelExecstate i = .stopAbort) || s.onlyAborted

def Stdev.mayWakeUp (s : Stdev) (w : WakeUp) : Bool :=
  if w.allocated then (callBack s w).mayRecover w.word.model else s.mayExit

def mayWakeUps (s : Stdev) : List WakeUp → Bool
  | [] => true
  | w :: ws => s.mayWakeUp w && ((wakeUp s w).2 || mayWakeUps (wakeUp s w).1 ws)

def orderly (s : Stdev) : Action → Bool
  | .notifyAhalRecordStatus .start => !s.isMicConfigured || !s.activeCallbackBitmask.any
  | .stopRecognition handle | .unload handle => s.mayStop handle
  | .startRecognition handle config _ allocated => s.mayStart handle config allocated
  | .closeRecording => s.voicecallStarted || !s.anyStopFailed || s.onlyAborted
  | .thread .error => s.mayExit
  | .thread (.uevent strings) => mayWakeUps s strings
  | .thread .socketError => s.recoveryCnt = 0 || s.mayExit
  | _ => true

structure Listens (s : Stdev) : Prop where
  started : s.isStreaming.any = false → s.recognizeStarted = s.activeCallbackBitmask
  thread : s.isStreaming.any = false → s.activeCallbackBitmask.any → s.callbackThreadActive
  execstate : ∀ i, s.activeCallbackBitmask i → s.modelExecstate i ≠ .none

variable {s t : Stdev}

theorem listens_opened : Listens opened := ⟨fun _ => rfl, nofun, nofun⟩

theorem Listens.of_off (hcbs : s.activeCallbackBitmask = .zero)
    (hstarted : s.isStreaming.any = false → s.recognizeStarted = .zero) : Listens s := by
  refine ⟨fun hstrm => ?_, fun _ => ?_, fun i => ?_⟩
  · rw [hcbs]
    exact hstarted hstrm
  · rw [hcbs]
    exact nofun
  · rw [hcbs]
    exact nofun

theorem Listens.powerCycle (hthr : s.activeCallbackBitmask.any → s.callbackThreadActive)
    (hexec : ∀ i, s.activeCallbackBitmask i → s.modelExecstate i ≠ .none) : Listens (powerCycle s) := by
  have hsame := sameModels_powerCycle s
  refine ⟨fun _ => ?_, fun _ => ?_, fun i => ?_⟩
  · rw [powerCycle_recognizeStarted, hsame.bitmask]
  · rw [hsame.bitmask, hsame.callbackThreadActive]
    exact hthr
  · rw [hsame.bitmask, hsame.modelExecstate]
    exact hexec i

theorem listens_threadExit (hexec : ∀ i, s.activeCallbackBitmask i → s.modelExecstate i ≠ .none) (hexit : s.mayExit) :
    Listens (threadExit s) := by
  unfold threadExit
  split
  · rename_i hstrm
    refine ⟨fun hnone => ?_, fun hnone => ?_, hexec⟩
    all_goals
      rw [show s.isStreaming.any = false from hnone] at hstrm
      cases hstrm
  · rename_i hstrm
    have hcbs : s.activeCallbackBitmask = .zero := by
      rw [Mask.eq_zero_iff]
      simpa [Stdev.mayExit, hstrm] using hexit
    refine Listens.of_off ?_ fun _ => vtsPowerOff_recognizeStarted s
    show (vtsPowerOff s).activeCallbackBitmask = .zero
    rw [(sameModels_vtsPowerOff s).bitmask, hcbs]

theorem handleStopRecognition_bitmask (honly : s.onlyAborted) :
    (handleStopRecognition s).activeCallbackBitmask = .zero := by
  funext j
  rw [Stdev.activeCallbackBitmask, handleStopRecognition_recognitionCallbacks]
  have hj := forAllModels_iff.mp honly j
  cases haborted : s.aborted j with
  | true => rfl
  | false => simpa [haborted, Stdev.activeCallbackBitmask, Mask.zero] using hj

theorem Listens.handleStopRecognition (h : Listens s) (honly : s.onlyAborted) : Listens (handleStopRecognition s) := by
  have hcbs := handleStopRecognition_bitmask honly
  refine Listens.of_off hcbs fun hstrm => ?_
  rw [← hcbs]
  exact Related.handleStopRecognition (fun _ => rfl) h.started hstrm

theorem startCallbackThread_active (s : Stdev) : (startCallbackThread s).callbackThreadActive := by
  unfold startCallbackThread
  split
  · assumption
  · rfl

theorem startCallbackThread_modelExecstate (s : Stdev) : (startCallbackThread s).modelExecstate = s.modelExecstate := by
  unfold startCallbackThread
  split <;> rfl

theorem startCallbackThread_recognitionCallbacks (s : Stdev) :
    (startCallbackThread s).recognitionCallbacks = s.recognitionCallbacks := by
  unfold startCallbackThread
  split <;> rfl

theorem Listens.beginRecognition (i : Model) (callback : Option Nat)
    (hexec : ∀ j, j ≠ i → s.activeCallbackBitmask j → s.modelExecstate j ≠ .none) :
    Listens (beginRecognition s i callback) := by
  have hsame := sameModels_reconfigure (setCallback (startCallbackThread s) i callback) i
  refine ⟨Related.reconfigure (fun _ => rfl) (setCallback (startCallbackThread s) i callback) i, fun _ _ => ?_, ?_⟩
  · exact hsame.callbackThreadActive.trans (startCallbackThread_active s)
  · intro j hj
    show update (reconfigure (setCallback (startCallbackThread s) i callback) i).modelExecstate i
      .running j ≠ .none
    by_cases hji : j = i
    · rw [hji, Function.update_self]
      exact nofun
    · rw [update_of_ne hji, hsame.modelExecstate]
      show (startCallbackThread s).modelExecstate j ≠ .none
      rw [startCallbackThread_modelExecstate]
      apply hexec j hji
      have hcb : (Stdev.activeCallbackBitmask (reconfigure (setCallback (startCallbackThread s) i callback) i)) j :=
        hj
      rw [hsame.bitmask] at hcb
      simpa [Stdev.activeCallbackBitmask, setCallback, update_of_ne hji,
        startCallbackThread_recognitionCallbacks] using hcb

variable {i : Model}

theorem Listens.setExecstate (h : Listens s) {execstate : Execstate} (failed : Bool)
    (hi : s.activeCallbackBitmask i → execstate ≠ .none) : Listens (setExecstate s i execstate failed) := by
  refine ⟨h.started, h.thread, ?_⟩
  intro j hj
  show update s.modelExecstate i execstate j ≠ .none
  by_cases hji : j = i
  · rw [hji, Function.update_self]
    exact hi (hji ▸ hj)
  · rw [update_of_ne hji]
    exact h.execstate j hj

theorem clearModel_bitmask (s : Stdev) (i j : Model) :
    (clearModel s i).activeCallbackBitmask j = (!(j = i : Bool) && s.activeCallbackBitmask j) := by
  unfold clearModel Stdev.activeCallbackBitmask
  by_cases hji : j = i <;> simp [hji]

theorem joinCallbackThread_bitmask (s : Stdev) :
    (joinCallbackThread s).activeCallbackBitmask = s.activeCallbackBitmask := by
  unfold joinCallbackThread
  rw [(sameModels_vtsPowerOff _).bitmask]
  split
  · unfold threadExit
    split
    · rfl
    · exact (sameModels_vtsPowerOff s).bitmask
  · rfl

theorem Listens.stopVts (h : Listens s)
    (hthr : s.mayTouch i → (clearModel s i).activeCallbackBitmask.any → s.callbackThreadActive) :
    Listens (stopVts (clearModel s i) i) := by
  have hexec : ∀ j, (clearModel s i).activeCallbackBitmask j → (clearModel s i).modelExecstate j ≠ .none := by
    intro j hj
    rw [clearModel_bitmask] at hj
    exact h.execstate j (Bool.and_eq_true_iff.mp hj).2
  unfold SoundTrigger.stopVts
  split
  · rename_i htouch
    split
    · exact Listens.powerCycle (hthr htouch) hexec
    · rename_i hnone
      refine Listens.of_off ?_ fun _ => vtsPowerOff_recognizeStarted _
      rw [joinCallbackThread_bitmask]
      exact Mask.eq_zero_iff.mpr (eq_false_iff.mpr hnone)
  · rename_i htouch
    have hstrm : s.isStreaming.any = true := by
      by_contra hnone
      exact htouch (by simpa [Stdev.mayTouch, clearModel] using Or.inl (eq_false_iff.mpr hnone))
    refine ⟨fun hnone => ?_, fun hnone => ?_, hexec⟩
    all_goals
      rw [show s.isStreaming.any = false from hnone] at hstrm
      cases hstrm

theorem stopVts_bitmask (s : Stdev) (i : Model) : (stopVts s i).activeCallbackBitmask = s.activeCallbackBitmask := by
  unfold stopVts
  split
  · split
    · exact (sameModels_powerCycle s).bitmask
    · exact joinCallbackThread_bitmask s
  · rfl

theorem stopRecognitionL_eq (s : Stdev) (handle : Int) :
    (stopRecognitionL s handle).1 = s ∨ ∃ i, s.voicecallStarted = false ∧ s.loaded handle = some i ∧
      (stopRecognitionL s handle).1 = setExecstate (stopVts (clearModel s i) i) i .none false := by
  unfold stopRecognitionL
  split
  · exact .inl rfl
  · rename_i hcall
    split
    · exact .inl rfl
    · rename_i i hloaded
      split
      · exact .inl rfl
      · exact .inr ⟨i, by simpa using hcall, hloaded, rfl⟩

variable {handle : Int}

theorem Listens.stopRecognitionL (h : Listens s) (hstop : s.mayStop handle) :
    Listens (stopRecognitionL s handle).1 := by
  rcases stopRecognitionL_eq s handle with hsame | ⟨i, hcall, hloaded, hstopped⟩
  · rw [hsame]
    exact h
  · rw [hstopped]
    apply Listens.setExecstate
    · apply h.stopVts
      intro htouch hany
      obtain ⟨j, hj⟩ := Mask.any_iff.mp hany
      rw [clearModel_bitmask, Bool.and_eq_true, Bool.not_eq_true', decide_eq_false_iff_not] at hj
      simp only [Stdev.mayStop, hloaded, hcall, Bool.false_or, Bool.or_eq_true, Bool.not_eq_true'] at hstop
      rcases hstop with (hstrm | hthr) | hothers
      · -- Nothing is streaming, so that the thread is there.
        have hnone : s.isStreaming.any = false := by simpa [Stdev.mayTouch, hstrm] using htouch
        exact h.thread hnone (Mask.any_of hj.2)
      · exact hthr
      · have hother := forAllModels_iff.mp hothers j
        simp [hj.1, hj.2] at hother
    · rw [stopVts_bitmask, clearModel_bitmask]
      simp

theorem Listens.startModel (i : Model) (config : Option Config) (callback : Option Nat) (allocated : Bool)
    (h : s.voicecallStarted ∨ (config ≠ none ∧ allocated = false) → Listens s)
    (hexec : ∀ j, j ≠ i → s.activeCallbackBitmask j → s.modelExecstate j ≠ .none) :
    Listens (startModel s i config callback allocated).1 := by
  unfold SoundTrigger.startModel
  split
  · rename_i hcall
    exact h (.inl hcall)
  · cases config with
    | none => exact Listens.beginRecognition i callback hexec
    | some c =>
      cases allocated with
      | true => exact Listens.beginRecognition i callback hexec
      | false =>
        have hs := h (.inr ⟨nofun, rfl⟩)
        exact ⟨hs.started, hs.thread, hs.execstate⟩

theorem Listens.startRecognition (h : Listens s) {config : Option Config} (callback : Option Nat)
    {allocated : Bool} (hstart : s.mayStart handle config allocated) :
    Listens (startRecognition s handle config callback allocated).1 := by
  unfold SoundTrigger.startRecognition
  split
  · exact h
  · rename_i i hloaded
    unfold beforeStart
    split
    · rename_i hstarted
      have hmask : s.activeCallbackBitmask i := Option.isSome_iff_ne_none.mpr hstarted.1
      simp only [Stdev.mayStart, hloaded, hmask, hstarted.2, Bool.not_true, Bool.false_or] at hstart
      have hcall := (sameStates_handleStopRecognition s).2.1
      have hmodels : ∀ j, s.activeCallbackBitmask j → s.aborted j = false →
          j = i ∧ s.voicecallStarted = false ∧ (config = none ∨ allocated) := by
        intro j hj haborted
        simpa [hj, haborted, and_assoc] using forAllModels_iff.mp hstart j
      apply Listens.startModel
      · intro hfails
        rw [hcall] at hfails
        apply h.handleStopRecognition
        refine forAllModels_iff.mpr fun j => ?_
        cases hj : s.activeCallbackBitmask j with
        | false => rfl
        | true =>
          cases haborted : s.aborted j with
          | true => rfl
          | false =>
            obtain ⟨-, hnoCall, hconfig⟩ := hmodels j hj haborted
            simp_all
      · intro j hji hj
        have hcb := handleStopRecognition_recognitionCallbacks s j
        cases haborted : s.aborted j with
        | true => simp [Stdev.activeCallbackBitmask, hcb, haborted] at hj
        | false =>
          have hmask : s.activeCallbackBitmask j := by
            simpa [Stdev.activeCallbackBitmask, hcb, haborted] using hj
          exact absurd (hmodels j hmask haborted).1 hji
    · exact Listens.startModel i config callback allocated (fun _ => h) (fun j _ => h.execstate j)

structure Marked (s t : Stdev) : Prop where
  recognitionCallbacks : t.recognitionCallbacks = s.recognitionCallbacks
  callbackThreadActive : t.callbackThreadActive = s.callbackThreadActive
  delivered : t.delivered = s.delivered
  modelExecstate : ∀ i, s.modelExecstate i ≠ .none → t.modelExecstate i ≠ .none

theorem marked_stopDuringCallback (s : Stdev) (handle : Int) : Marked s (stopDuringCallback s handle) := by
  unfold stopDuringCallback
  split
  · exact ⟨rfl, rfl, rfl, fun _ h => h⟩
  · split
    · rename_i i _
      refine ⟨rfl, rfl, rfl, fun j hj => ?_⟩
      show update s.modelExecstate i .stopAbort j ≠ .none
      rw [Function.update_apply]
      split
      · exact nofun
      · exact hj
    · exact ⟨rfl, rfl, rfl, fun _ h => h⟩

theorem marked_stops (s : Stdev) (stops : List Int) : Marked s (stops.foldl stopDuringCallback s) := by
  induction stops generalizing s with
  | nil => exact ⟨rfl, rfl, rfl, fun _ h => h⟩
  | cons handle stops ih =>
    have hfst := marked_stopDuringCallback s handle
    have hrest := ih (stopDuringCallback s handle)
    exact ⟨hrest.recognitionCallbacks.trans hfst.recognitionCallbacks,
      hrest.callbackThreadActive.trans hfst.callbackThreadActive, hrest.delivered.trans hfst.delivered,
      fun i hi => hrest.modelExecstate i (hfst.modelExecstate i hi)⟩

structure Awake (s : Stdev) : Prop where
  thread : s.callbackThreadActive
  execstate : ∀ i, s.activeCallbackBitmask i → s.modelExecstate i ≠ .none

theorem Awake.callBack (h : Awake s) (w : WakeUp) : Awake (callBack s w) := by
  unfold SoundTrigger.callBack
  split
  · rename_i callback hcb
    split
    · have hmarked := marked_stops (logDelivery s w.word.model callback) w.stops
      refine ⟨hmarked.callbackThreadActive.trans h.thread, fun i hi => ?_⟩
      apply hmarked.modelExecstate i
      apply h.execstate i
      have hi : (update (w.stops.foldl stopDuringCallback (logDelivery s w.word.model callback)).recognitionCallbacks
          w.word.model none i).isSome := hi
      rw [hmarked.recognitionCallbacks] at hi
      by_cases hw : i = w.word.model
      · simp [hw] at hi
      · rw [update_of_ne hw] at hi
        exact hi
    · exact h
  · exact h

theorem Awake.recover (h : Awake s) (hcap : s.captures i = false) (hrecover : s.mayRecover i) :
    Awake (recover s i) := by
  unfold SoundTrigger.recover
  split
  · rename_i hfailed
    have honly : s.onlyAborted := by
      have hfailed : (s.anyStopFailed || s.modelExecstate i = .stopAbort) = true := by simpa using hfailed
      rw [Stdev.mayRecover, hcap, hfailed] at hrecover
      exact hrecover
    refine ⟨(sameStates_handleStopRecognition s).1.trans h.thread, fun j hj => ?_⟩
    have hnone := congrFun (handleStopRecognition_bitmask honly) j
    rw [show (handleStopRecognition s).activeCallbackBitmask j = true from hj] at hnone
    cases hnone
  · exact h

def AfterWakeUp (r : Stdev × Bool) : Prop :=
  if r.2 then Listens (threadExit r.1) else Listens r.1 ∧ Awake r.1

theorem Awake.restartOrLeave (h : Awake s) : AfterWakeUp (restartOrLeave s) := by
  unfold SoundTrigger.restartOrLeave
  split
  · have hsame := sameModels_powerCycle s
    have hlistens := Listens.powerCycle (fun _ => h.thread) h.execstate
    exact ⟨hlistens, hsame.callbackThreadActive.trans h.thread, hlistens.execstate⟩
  · rename_i hnone
    refine listens_threadExit h.execstate ?_
    rw [Stdev.mayExit, eq_false_iff.mpr hnone, Bool.not_false, Bool.or_true]

theorem Awake.afterCallBack (h : Awake s) (hrecover : s.mayRecover i) : AfterWakeUp (afterCallBack s i) := by
  unfold SoundTrigger.afterCallBack
  split
  · refine listens_threadExit (s := { s with isStreaming := .single i }) h.execstate ?_
    rw [Stdev.mayExit, Mask.any_single, Bool.true_or]
  · rename_i hcap
    exact (h.recover (eq_false_iff.mpr hcap) hrecover).restartOrLeave

theorem Awake.wakeUp (h : Awake s) {w : WakeUp} (hwake : s.mayWakeUp w) : AfterWakeUp (wakeUp s w) := by
  unfold SoundTrigger.wakeUp
  unfold Stdev.mayWakeUp at hwake
  split
  · rename_i halloc
    rw [if_pos halloc] at hwake
    exact (h.callBack w).afterCallBack hwake
  · rename_i halloc
    rw [if_neg halloc] at hwake
    exact listens_threadExit h.execstate hwake

theorem Awake.wakeUps (h : Awake s) (hs : Listens s) {strings : List WakeUp} (hwake : mayWakeUps s strings) :
    AfterWakeUp (wakeUps s strings) := by
  induction strings generalizing s with
  | nil => exact ⟨hs, h⟩
  | cons w strings ih =>
    obtain ⟨hfst, hrest⟩ := Bool.and_eq_true_iff.mp hwake
    have hafter := h.wakeUp hfst
    unfold SoundTrigger.wakeUps
    split
    · rename_i hleft
      rw [AfterWakeUp, if_pos hleft] at hafter
      exact hafter
    · rename_i hleft
      rw [AfterWakeUp, if_neg hleft] at hafter
      rw [eq_false_iff.mpr hleft, Bool.false_or] at hrest
      exact ih hafter.2 hafter.1 hrest

theorem Listens.threadIteration (h : Listens s) (hthr : s.callbackThreadActive) {poll : Poll}
    (hpoll : orderly s (.thread poll)) : Listens (threadIteration s poll) := by
  cases poll with
  | error => exact listens_threadExit h.execstate hpoll
  | uevent strings =>
    have hafter := Awake.wakeUps ⟨hthr, h.execstate⟩ h hpoll
    unfold SoundTrigger.threadIteration
    dsimp only
    split
    · rename_i hleft
      rw [AfterWakeUp, if_pos hleft] at hafter
      exact hafter
    · rename_i hleft
      rw [AfterWakeUp, if_neg hleft] at hafter
      exact hafter.1
  | nothing => exact h
  | socketError =>
    unfold SoundTrigger.threadIteration
    dsimp only
    split
    · rename_i hcnt
      have hexit : s.mayExit := by
        simp only [orderly, Bool.or_eq_true, decide_eq_true_eq] at hpoll
        rcases hpoll with hzero | hexit
        · omega
        · exact hexit
      exact listens_threadExit (s := { s with recoveryCnt := s.recoveryCnt + 1 }) h.execstate hexit
    · exact ⟨h.started, h.thread, h.execstate⟩

theorem Listens.vtsSetMic (h : Listens s) (enableMic : Bool) : Listens (vtsSetMic s enableMic) := by
  rw [vtsSetMic_eq]
  exact ⟨h.started, h.thread, h.execstate⟩

theorem Listens.loadSoundModel (h : Listens s) (handleNull : Bool) (soundModel : Option SoundModel) (written : Int) :
    Listens (loadSoundModel s handleNull soundModel written).1 := by
  have hload : ∀ i generic, Listens (loadModel s i generic written).1 := by
    intro i generic
    unfold loadModel
    split
    · exact ⟨h.started, h.thread, h.execstate⟩
    · split <;> exact ⟨h.started, h.thread, h.execstate⟩
  unfold SoundTrigger.loadSoundModel
  split
  · exact h
  · split
    · exact h
    · split
      · exact hload _ _
      · exact hload _ _
      · exact h

theorem Listens.unloadSoundModel (h : Listens s) (hstop : s.mayStop handle) :
    Listens (unloadSoundModel s handle).1 := by
  have hstopped : ∀ i, Listens (stopBeforeUnload s handle i).1 := by
    intro i
    unfold stopBeforeUnload
    split
    · exact h.stopRecognitionL hstop
    · exact h
  unfold SoundTrigger.unloadSoundModel
  split
  · exact h
  · rename_i i _
    split
    · exact ⟨(hstopped i).started, (hstopped i).thread, (hstopped i).execstate⟩
    · exact h

theorem startCallbackThread_recognizeStarted (s : Stdev) :
    (startCallbackThread s).recognizeStarted = s.recognizeStarted := by
  unfold startCallbackThread
  split <;> rfl

theorem Listens.closeForStreaming (h : Listens s) (audioHandle : Int) :
    Listens (closeForStreaming s audioHandle).1 := by
  unfold SoundTrigger.closeForStreaming
  have hoff := sameModels_vtsPowerOff (closeStreamingPcm s)
  split
  · exact h
  · split
    · exact h
    · split
      · exact h
      · split
        · have hsame := sameModels_vtsSetPower (startCallbackThread (vtsPowerOff (closeStreamingPcm s)))
            s.activeCallbackBitmask
          have hbitmask : (startCallbackThread (vtsPowerOff (closeStreamingPcm s))).activeCallbackBitmask =
              s.activeCallbackBitmask := by
            unfold Stdev.activeCallbackBitmask
            rw [startCallbackThread_recognitionCallbacks, hoff.recognitionCallbacks]
            rfl
          refine ⟨fun _ => ?_, fun _ _ => ?_, ?_⟩
          · rw [hsame.bitmask, hbitmask]
            apply vtsSetPower_recognizeStarted
            rw [startCallbackThread_recognizeStarted, vtsPowerOff_recognizeStarted]
          · exact hsame.callbackThreadActive.trans (startCallbackThread_active _)
          · rw [hsame.bitmask, hbitmask, hsame.modelExecstate, startCallbackThread_modelExecstate, hoff.modelExecstate]
            exact h.execstate
        · rename_i hnone
          refine Listens.of_off ?_ fun _ => vtsPowerOff_recognizeStarted _
          rw [hoff.bitmask]
          exact Mask.eq_zero_iff.mpr (eq_false_iff.mpr hnone)

theorem Listens.endRecording (h : Listens s) : Listens (endRecording s) := by
  have hmic : Listens (releaseMic { s with recordingPcm := false }) := by
    have hs : Listens { s with recordingPcm := false } := ⟨h.started, h.thread, h.execstate⟩
    unfold releaseMic
    split
    · exact hs.vtsSetMic false
    · exact hs
  exact ⟨hmic.started, hmic.thread, hmic.execstate⟩

theorem Listens.openRecording (h : Listens s) (pcm : PcmOpen) : Listens (openRecording s pcm).1 := by
  unfold SoundTrigger.openRecording
  split
  · exact h
  · have hclosed : Listens (closeOldRecording s) := by
      unfold closeOldRecording
      split
      · exact h.endRecording
      · exact h
    have hmic := hclosed.vtsSetMic true
    cases pcm <;> exact ⟨hmic.started, hmic.thread, hmic.execstate⟩

theorem Listens.closeRecording (h : Listens s) (hclose : orderly s .closeRecording) : Listens (closeRecording s).1 := by
  unfold SoundTrigger.closeRecording
  split
  · exact h
  · rename_i hcall
    have hrecovered : Listens (recoverStops s) := by
      unfold recoverStops
      split
      · rename_i hfailed
        apply h.handleStopRecognition
        simpa [orderly, eq_false_iff.mpr hcall, hfailed] using hclose
      · exact h
    split
    · exact hrecovered.endRecording
    · exact hrecovered

theorem Listens.openForStreaming (h : Listens s) (pcm : PcmOpen) : Listens (openForStreaming s pcm).1 := by
  unfold SoundTrigger.openForStreaming
  split
  · exact h
  · cases pcm <;> exact ⟨h.started, h.thread, h.execstate⟩

theorem listens_restartModels (hstarted : s.recognizeStarted = .zero) (streaming : Mask) (seamless : Bool)
    (hthr : streaming.any = false → s.activeCallbackBitmask.any → s.callbackThreadActive)
    (hexec : ∀ i, s.activeCallbackBitmask i → s.modelExecstate i ≠ .none) :
    Listens (restartModels s s.activeCallbackBitmask streaming seamless) := by
  unfold restartModels
  split
  · have hsame := sameModels_vtsSetPower s (fun i => s.activeCallbackBitmask i || streaming i)
    have hpower := vtsSetPower_recognizeStarted (fun i => s.activeCallbackBitmask i || streaming i) hstarted
    refine ⟨fun hnone => ?_, fun hnone hany => ?_, fun i hi => ?_⟩
    · refine hpower.trans (Eq.trans ?_ hsame.bitmask.symm)
      have hzero : streaming = .zero := Mask.eq_zero_iff.mpr hnone
      rw [hzero]
      funext i
      exact Bool.or_false _
    · have hany : (vtsSetPower s fun i => s.activeCallbackBitmask i || streaming i).activeCallbackBitmask.any := hany
      rw [hsame.bitmask] at hany
      exact hsame.callbackThreadActive.trans (hthr hnone hany)
    · have hi : (vtsSetPower s fun i => s.activeCallbackBitmask i || streaming i).activeCallbackBitmask i := hi
      rw [hsame.bitmask] at hi
      exact hsame.modelExecstate ▸ hexec i hi
  · rename_i hnone
    rw [not_or] at hnone
    exact Listens.of_off (Mask.eq_zero_iff.mpr (eq_false_iff.mpr hnone.1)) fun _ => hstarted

theorem Listens.changeMic (h : Listens s) (isConnected : Bool) : Listens (changeMic s isConnected) := by
  have hoff := sameModels_vtsPowerOff (closePcms s)
  have hbitmask : s.activeCallbackBitmask = Stdev.activeCallbackBitmask
      { vtsPowerOff (closePcms s) with activeMic := micOf isConnected, isRecording := s.isRecording } :=
    hoff.bitmask.symm
  unfold SoundTrigger.changeMic
  rw [hbitmask]
  apply listens_restartModels
  · exact vtsPowerOff_recognizeStarted _
  · rw [← hbitmask]
    exact fun hnone hany => hoff.callbackThreadActive.trans (h.thread hnone hany)
  · rw [← hbitmask]
    exact fun i hi => hoff.modelExecstate ▸ h.execstate i hi

theorem Listens.restartPcms (h : Listens s) (recording streaming : PcmOpen) :
    Listens (restartPcms s recording streaming).1 := by
  have hrec : Listens (restartRecording s recording).1 := by
    unfold restartRecording
    split
    · have hmic := h.vtsSetMic true
      split
      · exact hmic
      · exact ⟨hmic.started, hmic.thread, hmic.execstate⟩
    · exact h
  unfold SoundTrigger.restartPcms
  split
  · exact hrec
  · unfold restartStreaming
    split
    · split <;> exact ⟨hrec.started, hrec.thread, hrec.execstate⟩
    · exact hrec

theorem Listens.voicecallStatus (h : Listens s) (started : Bool) : Listens (voicecallStatus s started) := by
  unfold SoundTrigger.voicecallStatus
  split
  · split
    · exact Listens.of_off rfl fun _ => vtsPowerOff_recognizeStarted _
    · exact ⟨h.started, h.thread, h.execstate⟩
  · exact ⟨h.started, h.thread, h.execstate⟩

theorem Listens.notifyAhalRecordStatus (h : Listens s) {state : RecordState}
    (hnotify : orderly s (.notifyAhalRecordStatus state)) : Listens (notifyAhalRecordStatus s state).1 := by
  cases state with
  | stop => exact h
  | other => exact h
  | start =>
    unfold SoundTrigger.notifyAhalRecordStatus
    dsimp only
    split
    · rename_i hmic
      refine Listens.of_off ?_ fun _ => vtsPowerOff_recognizeStarted _
      rw [(sameModels_vtsPowerOff s).bitmask, Mask.eq_zero_iff]
      simpa [orderly, hmic] using hnotify
    · exact h

theorem Listens.step (h : Listens s) {a : Action} (ha : orderly s a) (hstep : step s a = some t) : Listens t := by
  cases a with
  | load handleNull soundModel written =>
    cases hstep
    exact h.loadSoundModel handleNull soundModel written
  | unload handle =>
    cases hstep
    exact h.unloadSoundModel ha
  | startRecognition handle config callback allocated =>
    cases hstep
    exact h.startRecognition callback ha
  | stopRecognition handle =>
    cases hstep
    exact h.stopRecognitionL ha
  | stopGivenUp handle =>
    obtain ⟨i, -, rfl⟩ := Option.map_eq_some_iff.mp hstep
    exact h.setExecstate true fun _ => nofun
  | openForStreaming pcm =>
    cases hstep
    exact h.openForStreaming pcm
  | closeForStreaming audioHandle =>
    cases hstep
    exact h.closeForStreaming audioHandle
  | openRecording pcm =>
    cases hstep
    exact h.openRecording pcm
  | closeRecording =>
    cases hstep
    exact h.closeRecording ha
  | headsetStatus isConnected recording streaming =>
    cases hstep
    unfold headsetStatus
    split
    · exact (h.changeMic isConnected).restartPcms recording streaming
    · exact ⟨h.started, h.thread, h.execstate⟩
  | voicecallStatus started =>
    cases hstep
    exact h.voicecallStatus started
  | notifyAhalRecordStatus state =>
    cases hstep
    exact h.notifyAhalRecordStatus ha
  | thread poll =>
    obtain ⟨hthr, hstep⟩ := Option.ite_none_right_eq_some.mp hstep
    cases hstep
    exact h.threadIteration hthr ha

theorem delivered_threadExit (s : Stdev) : (threadExit s).delivered = s.delivered := by
  unfold threadExit
  split
  · rfl
  · exact (sameModels_vtsPowerOff s).delivered

theorem delivered_afterCallBack (s : Stdev) (i : Model) : (afterCallBack s i).1.delivered = s.delivered := by
  have hrecover : (recover s i).delivered = s.delivered := by
    unfold recover
    split
    · exact (sameStates_handleStopRecognition s).2.2
    · rfl
  unfold afterCallBack
  split
  · rfl
  · unfold restartOrLeave
    split
    · exact (sameModels_powerCycle _).delivered.trans hrecover
    · exact hrecover

theorem delivered_callBack (s : Stdev) (w : WakeUp) : s.delivered <+: (callBack s w).delivered := by
  unfold callBack
  split
  · rename_i callback _
    split
    · exact ⟨_, (marked_stops (logDelivery s w.word.model callback) w.stops).delivered.symm⟩
    · exact List.prefix_refl _
  · exact List.prefix_refl _

theorem delivered_wakeUp (s : Stdev) (w : WakeUp) : s.delivered <+: (wakeUp s w).1.delivered := by
  unfold wakeUp
  split
  · rw [delivered_afterCallBack]
    exact delivered_callBack s w
  · exact List.prefix_refl _

theorem delivered_wakeUps (s : Stdev) (strings : List WakeUp) : s.delivered <+: (wakeUps s strings).1.delivered := by
  induction strings generalizing s with
  | nil => exact List.prefix_refl _
  | cons w strings ih =>
    unfold wakeUps
    split
    · exact delivered_wakeUp s w
    · exact (delivered_wakeUp s w).trans (ih _)

theorem reaches_of_running {callback : Nat} (hthr : s.callbackThreadActive)
    (hcb : s.recognitionCallbacks i = some callback) (hrunning : s.modelExecstate i = .running) :
    Reaches s i callback := by
  rintro w rest rfl halloc
  refine ⟨threadIteration s (.uevent (w :: rest)), if_pos hthr, ?_⟩
  have hfst : (wakeUp s w).1.delivered =
      s.delivered ++ [{ model := w.word.model, callback, generic := s.isGeneric w.word.model }] := by
    unfold wakeUp
    rw [if_pos halloc, delivered_afterCallBack]
    unfold callBack
    rw [hcb]
    dsimp only
    rw [if_pos hrunning]
    exact (marked_stops (logDelivery s w.word.model callback) w.stops).delivered
  have hall : (wakeUp s w).1.delivered <+: (wakeUps s (w :: rest)).1.delivered := by
    unfold wakeUps
    split
    · exact List.prefix_refl _
    · exact delivered_wakeUps _ rest
  rw [← hfst]
  unfold threadIteration
  dsimp only
  split
  · rw [delivered_threadExit]
    exact hall
  · exact hall

theorem Listens.listening (h : Listens s) (hstrm : s.isStreaming.any = false) : Listening s := by
  refine ⟨h.started hstrm, h.thread hstrm, ?_, ?_⟩
  · intro i hi
    have hexec := h.execstate i hi
    cases hstate : s.modelExecstate i with
    | none => exact absurd hstate hexec
    | running => exact .inl rfl
    | stopAbort => exact .inr rfl
  · intro i callback hcb hrunning
    have hmask : s.activeCallbackBitmask i = true := by simp [Stdev.activeCallbackBitmask, hcb]
    exact reaches_of_running (h.thread hstrm (Mask.any_of hmask)) hcb hrunning

/-- After orderly actions every model with a callback is started, and its wake-up reaches the callback. -/
theorem listening_run {actions : List Action} (horderly : EachDefinedStep step (fun s a => orderly s a) opened actions)
    (hrun : actions.foldlM step opened = some s) (hstrm : s.isStreaming.any = false) : Listening s := by
  have hlistens : Listens s := by
    refine foldlM_keeps_of_eachDefinedStep (P := Listens) ?_ listens_opened horderly hrun
    intro s t a hs ha hstep
    exact hs.step ha hstep
  exact hlistens.listening hstrm

def loadBoth : List Action :=
  [.load false (some { dataSize := 1024, dataOffset := 44, type := .keyphrase, vendorUuid := .bixby }) 0,
    .load false (some { dataSize := 1024, dataOffset := 44, type := .generic, vendorUuid := .hotword }) 0]

def streamAndClose : List Action := loadBoth ++ [.startRecognition 1 none (some 7) true,
    .startRecognition 0 (some { captureRequested := true }) (some 8) true, .headsetStatus true .ready .ready,
    .openRecording .ready, .thread (.uevent [{ word := .two, allocated := true, stops := [] }]),
    .openForStreaming .ready, .closeForStreaming 1, .closeRecording]

theorem listening_run_streamAndClose :
    ∃ s, streamAndClose.foldlM step opened = some s ∧ s.activeCallbackBitmask .svoice ∧ s.delivered.length = 1 ∧
      EachDefinedStep step (fun s a => orderly s a) opened streamAndClose ∧ Listening s := by
  have horderly : EachDefinedStep step (fun s a => orderly s a) opened streamAndClose := by decide
  exact ⟨_, rfl, rfl, rfl, horderly, listening_run horderly rfl rfl⟩

theorem not_listening_stoppedStream :
    ¬∀ (actions : List Action) (s : Stdev), actions.foldlM step opened = some s → s.isStreaming.any = false →
      s.voicecallStarted = false → Listening s := by
  intro h
  have hthr := (h (loadBoth ++ [.startRecognition 1 none (some 7) true,
    .startRecognition 0 (some { captureRequested := true }) (some 8) true,
    .thread (.uevent [{ word := .two, allocated := true, stops := [] }]), .stopRecognition 0])
    _ rfl rfl rfl).thread rfl
  cases hthr

end ExynosHal.SoundTrigger
