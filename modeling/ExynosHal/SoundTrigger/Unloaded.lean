import ExynosHal.SoundTrigger.Power

/-! # What is left of an unloaded model

An unloaded model has neither a callback nor a config, is not listened to and has no stop that failed.
-/

namespace ExynosHal.SoundTrigger
open Library.Run
open Function (update_apply update_of_ne update_self)

structure OwnsNothing (s : Stdev) (i : Model) : Prop where
  recognitionCallbacks : s.recognitionCallbacks i = none
  configs : s.configs i = none
  isStreaming : s.isStreaming i = false
  recognizeStarted : s.recognizeStarted i = false
  modelStopfailedhandles : s.modelStopfailedhandles i = false

def Unloaded (s : Stdev) : Prop := ∀ i, s.modelHandles i = false → OwnsNothing s i

def maxSoundModels : Int := 2

def ranged (handle : Int) : List Int := if handle < 0 ∨ maxSoundModels ≤ handle then [] else [handle]

def Stdev.indexes (s : Stdev) : Action → List Int
  | .unload handle | .startRecognition handle _ _ _ => ranged handle
  | .stopRecognition handle => if s.voicecallStarted then [] else ranged handle
  | .stopGivenUp handle => [handle]
  | .thread (.uevent strings) => strings.flatMap fun w => w.stops.flatMap ranged
  | _ => []

structure Proper (s : Stdev) (a : Action) : Prop where
  inside : ∀ handle ∈ s.indexes a, 0 ≤ handle ∧ handle < maxSoundModels
  unloaded : ∀ t ∈ step s a, Unloaded t

def Stdev.mayUnload (s : Stdev) (i : Model) : Bool :=
  if s.recognitionCallbacks i = none ∧ !s.isStreaming i then
    s.configs i = none && !s.recognizeStarted i && !s.modelStopfailedhandles i
  else !s.voicecallStarted && (s.mayTouch i || !s.recognizeStarted i)

def tidy (s : Stdev) : Action → Bool
  | .unload handle => (s.loaded handle).all s.mayUnload
  | .stopGivenUp handle => (s.loaded handle).isSome
  | _ => true

/-! ### What leaves the unloaded models alone -/

structure Spares (s t : Stdev) : Prop where
  modelHandles : t.modelHandles = s.modelHandles
  kept : ∀ i, s.modelHandles i = false → OwnsNothing s i → OwnsNothing t i

variable {i j : Model} {r s t : Stdev}

theorem Spares.refl (s : Stdev) : Spares s s := ⟨rfl, fun _ _ h => h⟩

theorem Spares.trans (h : Spares r s) (h' : Spares s t) : Spares r t := by
  refine ⟨h'.modelHandles.trans h.modelHandles, fun i hi hr => ?_⟩
  have hs : s.modelHandles i = false := (congrFun h.modelHandles i).trans hi
  exact h'.kept i hs (h.kept i hi hr)

theorem Spares.ite {c : Prop} [Decidable c] (h : Spares r s) (h' : Spares r t) : Spares r (if c then s else t) := by
  split_ifs
  · exact h
  · exact h'

theorem Unloaded.of_spares (h : Unloaded s) (hspares : Spares s t) : Unloaded t := by
  intro i hi
  rw [hspares.modelHandles] at hi
  exact hspares.kept i hi (h i hi)

def Stdev.owned (s : Stdev) (i : Model) : Option Nat × Option Config × Bool × Bool × Bool :=
  (s.recognitionCallbacks i, s.configs i, s.isStreaming i, s.recognizeStarted i, s.modelStopfailedhandles i)

theorem OwnsNothing.of_owned (h : OwnsNothing s i) (howned : t.owned i = s.owned i) : OwnsNothing t i := by
  simp only [Stdev.owned, Prod.mk.injEq] at howned
  obtain ⟨hcbs, hconfigs, hstrm, hstarted, hfailed⟩ := howned
  exact ⟨hcbs.trans h.recognitionCallbacks, hconfigs.trans h.configs, hstrm.trans h.isStreaming,
    hstarted.trans h.recognizeStarted, hfailed.trans h.modelStopfailedhandles⟩

theorem spares_of_owned (hhnds : t.modelHandles = s.modelHandles) (h : ∀ i, t.owned i = s.owned i) : Spares s t :=
  ⟨hhnds, fun i _ hs => hs.of_owned (h i)⟩

theorem spares_vtsSetMic (s : Stdev) (enableMic : Bool) : Spares s (vtsSetMic s enableMic) := by
  rw [vtsSetMic_eq]
  exact spares_of_owned rfl fun _ => rfl

theorem spares_vtsPowerOff (s : Stdev) : Spares s (vtsPowerOff s) := by
  rw [vtsPowerOff_eq]
  exact ⟨rfl, fun _ _ h => ⟨h.recognitionCallbacks, h.configs, rfl, rfl, h.modelStopfailedhandles⟩⟩

theorem Spares.vtsSetPower (h : Spares s t) (algorithms : Mask)
    (halgorithms : ∀ i, OwnsNothing s i → algorithms i = false) : Spares s (vtsSetPower t algorithms) := by
  refine ⟨(sameModels_vtsSetPower t algorithms).modelHandles.trans h.modelHandles, fun i hi hs => ?_⟩
  have ht := h.kept i hi hs
  unfold SoundTrigger.vtsSetPower
  split_ifs
  · rw [vtsPowerOn_eq]
    refine ⟨ht.recognitionCallbacks, ht.configs, rfl, ?_, ht.modelStopfailedhandles⟩
    simp [ht.recognizeStarted, halgorithms i hs]
  · exact (spares_vtsPowerOff t).kept i ((congrFun h.modelHandles i).trans hi) ht

theorem OwnsNothing.inactive (i : Model) (h : OwnsNothing s i) : s.activeCallbackBitmask i = false := by
  simp [Stdev.activeCallbackBitmask, h.recognitionCallbacks]

theorem spares_powerCycle (s : Stdev) : Spares s (powerCycle s) :=
  (spares_vtsPowerOff s).vtsSetPower _ OwnsNothing.inactive

theorem spares_reconfigure (s : Stdev) (j : Model) : Spares s (reconfigure s j) := .ite (spares_powerCycle s) (.refl s)

theorem spares_clearModel (s : Stdev) (j : Model) : Spares s (clearModel s j) := by
  refine ⟨rfl, fun i _ h => ⟨?_, ?_, h.isStreaming, h.recognizeStarted, h.modelStopfailedhandles⟩⟩
  · simp [clearModel, update_apply, h.recognitionCallbacks]
  · simp [clearModel, update_apply, h.configs]

theorem ne_of_loaded (hj : s.modelHandles j) (hi : s.modelHandles i = false) : i ≠ j := by
  rintro rfl
  rw [hj] at hi
  cases hi

theorem spares_setExecstate {failed : Bool} (h : failed = false ∨ s.modelHandles j) (execstate : Execstate) :
    Spares s (setExecstate s j execstate failed) := by
  refine ⟨rfl, fun i hi hs => ⟨hs.recognitionCallbacks, hs.configs, hs.isStreaming, hs.recognizeStarted, ?_⟩⟩
  rcases h with rfl | hj
  · simp [setExecstate, update_apply, hs.modelStopfailedhandles]
  · exact (update_of_ne (ne_of_loaded hj hi) _ _).trans hs.modelStopfailedhandles

theorem spares_handleStopModel (s : Stdev) (j : Model) : Spares s (handleStopModel s j) := by
  have hrelease : Spares s (releaseModel s j) := .ite (.refl s) (spares_clearModel s j)
  exact (Spares.ite (hrelease.trans (spares_reconfigure _ j)) (.refl s)).trans (spares_setExecstate (.inl rfl) _)

theorem spares_handleStopRecognition (s : Stdev) : Spares s (handleStopRecognition s) :=
  (spares_handleStopModel s .hotword).trans (spares_handleStopModel _ .svoice)

theorem spares_threadExit (s : Stdev) : Spares s (threadExit s) :=
  (Spares.ite (.refl s) (spares_vtsPowerOff s)).trans (spares_of_owned rfl fun _ => rfl)

theorem spares_stopVts (s : Stdev) (j : Model) : Spares s (stopVts s j) := by
  have hjoin : Spares s (joinCallbackThread s) :=
    (Spares.ite (spares_threadExit s) (.refl s)).trans (spares_vtsPowerOff _)
  exact .ite (.ite (spares_powerCycle s) hjoin) (.refl s)

theorem spares_stopRecognitionL (s : Stdev) (handle : Int) : Spares s (stopRecognitionL s handle).1 := by
  unfold stopRecognitionL
  split_ifs
  · exact .refl s
  · rcases s.loaded handle with _ | j
    · exact .refl s
    · dsimp only
      split_ifs
      · exact .refl s
      · exact ((spares_clearModel s j).trans (spares_stopVts _ j)).trans (spares_setExecstate (.inl rfl) _)

theorem modelHandles_of_loaded {handle : Int} (hj : s.loaded handle = some j) : s.modelHandles j :=
  (Option.filter_eq_some_iff.mp hj).2

theorem spares_startCallbackThread (s : Stdev) : Spares s (startCallbackThread s) :=
  .ite (.refl s) (spares_of_owned rfl fun _ => rfl)

theorem spares_beginRecognition (hj : s.modelHandles j) (callback : Option Nat) :
    Spares s (beginRecognition s j callback) := by
  have hthr := spares_startCallbackThread s
  have hcb : Spares s (setCallback (startCallbackThread s) j callback) := by
    refine ⟨hthr.modelHandles, fun i hi hs => (hthr.kept i hi hs).of_owned ?_⟩
    simp [Stdev.owned, setCallback, update_of_ne (ne_of_loaded hj hi)]
  exact (hcb.trans (spares_reconfigure _ j)).trans (spares_setExecstate (.inl rfl) _)

theorem spares_startRecognition (s : Stdev) (handle : Int) (config : Option Config) (callback : Option Nat)
    (allocated : Bool) : Spares s (startRecognition s handle config callback allocated).1 := by
  unfold startRecognition
  rcases hj : s.loaded handle with _ | j
  · exact .refl s
  have hbefore : Spares s (beforeStart s j) := .ite (spares_handleStopRecognition s) (.refl s)
  have hloaded : (beforeStart s j).modelHandles j := by
    rw [hbefore.modelHandles]
    exact modelHandles_of_loaded hj
  have hconfig (c : Option Config) :
      Spares (beforeStart s j) { beforeStart s j with configs := Function.update (beforeStart s j).configs j c } := by
    refine ⟨rfl, fun i hi hs => hs.of_owned ?_⟩
    simp [Stdev.owned, update_of_ne (ne_of_loaded hloaded hi)]
  refine hbefore.trans ?_
  dsimp only
  unfold startModel
  rcases config with _ | c
  · dsimp only
    split_ifs
    · exact .refl _
    · exact spares_beginRecognition hloaded callback
  · dsimp only
    split_ifs
    · exact .refl _
    · refine (hconfig (some c)).trans ?_
      exact spares_beginRecognition
        (s := { beforeStart s j with configs := Function.update (beforeStart s j).configs j (some c) }) hloaded callback
    · exact hconfig _

/-! ### The thread -/

theorem spares_stopDuringCallback (s : Stdev) (handle : Int) : Spares s (stopDuringCallback s handle) := by
  refine .ite (.refl s) ?_
  rcases hj : s.loaded handle with _ | j
  · exact .refl s
  · exact spares_setExecstate (.inr (modelHandles_of_loaded hj)) _

theorem spares_stops (s : Stdev) (stops : List Int) : Spares s (stops.foldl stopDuringCallback s) := by
  induction stops generalizing s with
  | nil => exact .refl s
  | cons handle stops ih => exact (spares_stopDuringCallback s handle).trans (ih _)

theorem spares_callBack (s : Stdev) (w : WakeUp) : Spares s (callBack s w) := by
  unfold callBack
  rcases s.recognitionCallbacks w.word.model with _ | callback
  · exact .refl s
  · refine .ite ?_ (.refl s)
    have hlog : Spares s (logDelivery s w.word.model callback) := spares_of_owned rfl fun _ => rfl
    refine (hlog.trans (spares_stops _ w.stops)).trans ⟨rfl, fun i _ h => ?_⟩
    refine ⟨?_, h.configs, h.isStreaming, h.recognizeStarted, h.modelStopfailedhandles⟩
    simp [deliver, setCallback, update_apply, h.recognitionCallbacks]

theorem spares_afterCallBack (s : Stdev) (j : Model) : Spares s (afterCallBack s j).1 := by
  unfold afterCallBack
  split_ifs with hcaptures
  · refine ⟨rfl, fun i _ h => ⟨h.recognitionCallbacks, h.configs, ?_, h.recognizeStarted, h.modelStopfailedhandles⟩⟩
    -- A model that captures has a config.
    have hne : i ≠ j := by
      rintro rfl
      simp [Stdev.captures, h.configs] at hcaptures
    simpa [Mask.single] using hne
  · have hrecover : Spares s (recover s j) :=
      .ite ((spares_handleStopRecognition s).trans (spares_of_owned rfl fun _ => rfl)) (.refl s)
    refine hrecover.trans ?_
    unfold restartOrLeave
    split_ifs
    · exact spares_powerCycle _
    · exact .refl _

theorem spares_wakeUp (s : Stdev) (w : WakeUp) : Spares s (wakeUp s w).1 := by
  unfold wakeUp
  split_ifs
  · exact (spares_callBack s w).trans (spares_afterCallBack _ _)
  · exact .refl s

theorem spares_wakeUps (s : Stdev) (strings : List WakeUp) : Spares s (wakeUps s strings).1 := by
  induction strings generalizing s with
  | nil => exact .refl s
  | cons w strings ih =>
    unfold wakeUps
    split_ifs
    · exact spares_wakeUp s w
    · exact (spares_wakeUp s w).trans (ih _)

theorem spares_threadIteration (s : Stdev) (poll : Poll) : Spares s (threadIteration s poll) := by
  cases poll with
  | error => exact spares_threadExit s
  | uevent strings =>
    have hwoken := spares_wakeUps s strings
    exact .ite (hwoken.trans (spares_threadExit _)) hwoken
  | nothing => exact .refl s
  | socketError =>
    have hcounted : Spares s { s with recoveryCnt := s.recoveryCnt + 1 } := spares_of_owned rfl fun _ => rfl
    exact .ite (hcounted.trans (spares_threadExit _)) hcounted

/-! ### Streams, recordings and calls -/

theorem spares_openForStreaming (s : Stdev) (pcm : PcmOpen) : Spares s (openForStreaming s pcm).1 := by
  unfold openForStreaming
  cases pcm <;> split_ifs <;> exact spares_of_owned rfl fun _ => rfl

theorem spares_closeForStreaming (s : Stdev) (audioHandle : Int) : Spares s (closeForStreaming s audioHandle).1 := by
  have hclosed : Spares s (closeStreamingPcm s) := spares_of_owned rfl fun _ => rfl
  have hoff := hclosed.trans (spares_vtsPowerOff _)
  unfold closeForStreaming
  split_ifs
  · exact .refl s
  · exact .refl s
  · exact .refl s
  · exact (hoff.trans (spares_startCallbackThread _)).vtsSetPower _ OwnsNothing.inactive
  · exact hoff

theorem spares_endRecording (s : Stdev) : Spares s (endRecording s) := by
  have hclosed : Spares s { s with recordingPcm := false } := spares_of_owned rfl fun _ => rfl
  have hrel : Spares s (releaseMic { s with recordingPcm := false }) :=
    hclosed.trans (.ite (spares_vtsSetMic _ false) (.refl _))
  exact hrel.trans (spares_of_owned rfl fun _ => rfl)

theorem spares_openRecording (s : Stdev) (pcm : PcmOpen) : Spares s (openRecording s pcm).1 := by
  have hclosed : Spares s (closeOldRecording s) := .ite (spares_endRecording s) (.refl s)
  have hopen (t : Stdev) : Spares t (startRecordingPcm t pcm).1 := by
    cases pcm <;> exact spares_of_owned rfl fun _ => rfl
  unfold openRecording
  split_ifs
  · exact .refl s
  · exact (hclosed.trans (spares_vtsSetMic _ true)).trans (hopen _)

theorem spares_closeRecording (s : Stdev) : Spares s (closeRecording s).1 := by
  have hrecovered : Spares s (recoverStops s) := .ite (spares_handleStopRecognition s) (.refl s)
  unfold closeRecording
  split_ifs
  · exact .refl s
  · exact hrecovered.trans (spares_endRecording _)
  · exact hrecovered

theorem spares_changeMic (s : Stdev) (isConnected : Bool) : Spares s (changeMic s isConnected) := by
  have hclosed : Spares s (closePcms s) := spares_of_owned rfl fun _ => rfl
  have hoff : Spares s
      { vtsPowerOff (closePcms s) with activeMic := micOf isConnected, isRecording := s.isRecording } :=
    (hclosed.trans (spares_vtsPowerOff _)).trans (spares_of_owned rfl fun _ => rfl)
  unfold changeMic restartModels
  split_ifs
  · have hpower := hoff.vtsSetPower (fun i => s.activeCallbackBitmask i || s.isStreaming i)
      fun i h => by simp [h.inactive, h.isStreaming]
    refine ⟨hpower.modelHandles, fun i hi h => ?_⟩
    have hkept := hpower.kept i hi h
    exact ⟨hkept.recognitionCallbacks, hkept.configs, h.isStreaming, hkept.recognizeStarted,
      hkept.modelStopfailedhandles⟩
  · exact hoff

theorem spares_headsetStatus (s : Stdev) (isConnected : Bool) (recording streaming : PcmOpen) :
    Spares s (headsetStatus s isConnected recording streaming).1 := by
  have hrec (t : Stdev) : Spares t (restartRecording t recording).1 := by
    have hmic := spares_vtsSetMic t true
    unfold restartRecording
    split_ifs
    · exact hmic
    · exact hmic.trans (spares_of_owned rfl fun _ => rfl)
    · exact .refl t
  have hstrm (t : Stdev) : Spares t (restartStreaming t streaming).1 := by
    unfold restartStreaming
    split_ifs <;> exact spares_of_owned rfl fun _ => rfl
  unfold headsetStatus
  split_ifs
  · have hmic := (spares_changeMic s isConnected).trans (hrec _)
    unfold restartPcms
    split_ifs
    · exact hmic
    · exact hmic.trans (hstrm _)
  · exact spares_of_owned rfl fun _ => rfl

theorem spares_voicecallStatus (s : Stdev) (started : Bool) : Spares s (voicecallStatus s started) := by
  have hstop : Spares s (stopForCall s) := by
    unfold stopForCall
    rw [vtsPowerOff_eq]
    exact ⟨rfl, fun _ _ h => ⟨rfl, h.configs, rfl, rfl, h.modelStopfailedhandles⟩⟩
  exact .ite ((Spares.ite hstop (.refl s)).trans (spares_of_owned rfl fun _ => rfl)) (spares_of_owned rfl fun _ => rfl)

/-! ### Loading and unloading -/

theorem Unloaded.loadSoundModel (h : Unloaded s) (handleNull : Bool) (soundModel : Option SoundModel) (written : Int) :
    Unloaded (loadSoundModel s handleNull soundModel written).1 := by
  have hload (j : Model) (generic : Bool) : Unloaded (loadModel s j generic written).1 := by
    have hgeneric : Unloaded { s with isGeneric := Function.update s.isGeneric j generic } :=
      h.of_spares (spares_of_owned rfl fun _ => rfl)
    unfold loadModel
    split_ifs
    · exact hgeneric
    · exact hgeneric
    · intro i hi
      have hi : s.modelHandles i = false := by
        by_cases hij : i = j
        · simp [hij] at hi
        · simpa [hij] using hi
      exact (h i hi).of_owned rfl
  unfold SoundTrigger.loadSoundModel
  split
  · exact h
  · split_ifs
    · exact h
    · split
      · exact hload _ _
      · exact hload _ _
      · exact h

theorem joinCallbackThread_frame (s : Stdev) : (joinCallbackThread s).recognitionCallbacks = s.recognitionCallbacks ∧
    (joinCallbackThread s).configs = s.configs := by
  unfold joinCallbackThread threadExit
  simp only [vtsPowerOff_eq]
  split_ifs <;> exact ⟨rfl, rfl⟩

theorem stopVts_owns (h : s.mayTouch j) (hcb : s.recognitionCallbacks j = none) (hconfig : s.configs j = none) :
    OwnsNothing (setExecstate (stopVts s j) j .none false) j := by
  have hfailed : (setExecstate (stopVts s j) j .none false).modelStopfailedhandles j = false := update_self ..
  unfold stopVts at hfailed ⊢
  rw [if_pos h] at hfailed ⊢
  split_ifs with hact
  · have hsame := sameModels_powerCycle s
    rw [if_pos hact] at hfailed
    refine ⟨?_, ?_, ?_, ?_, hfailed⟩
    · exact (congrFun hsame.recognitionCallbacks j).trans hcb
    · exact (congrFun hsame.configs j).trans hconfig
    · exact congrFun (powerCycle_isStreaming s) j
    · refine (congrFun (powerCycle_recognizeStarted s) j).trans ?_
      simp [Stdev.activeCallbackBitmask, hcb]
  · obtain ⟨hcbs, hconfigs⟩ := joinCallbackThread_frame s
    rw [if_neg hact] at hfailed
    refine ⟨?_, ?_, ?_, ?_, hfailed⟩
    · exact (congrFun hcbs j).trans hcb
    · exact (congrFun hconfigs j).trans hconfig
    · exact congrFun (vtsPowerOff_isStreaming _) j
    · exact congrFun (vtsPowerOff_recognizeStarted _) j

theorem stopBeforeUnload_owns_iff {handle : Int} (hj : s.loaded handle = some j) :
    OwnsNothing (stopBeforeUnload s handle j).1 j ↔ s.mayUnload j := by
  unfold stopBeforeUnload Stdev.mayUnload
  by_cases hstopped : s.recognitionCallbacks j = none ∧ (!s.isStreaming j)
  · obtain ⟨hcb, hstrm⟩ := hstopped
    have hstrm : s.isStreaming j = false := by simpa using hstrm
    rw [if_neg (by simp [hcb, hstrm]), if_pos ⟨hcb, by simp [hstrm]⟩]
    simp only [Bool.and_eq_true, Bool.not_eq_true', decide_eq_true_eq]
    constructor
    · intro h
      exact ⟨⟨h.configs, h.recognizeStarted⟩, h.modelStopfailedhandles⟩
    · rintro ⟨⟨hconfig, hstarted⟩, hfailed⟩
      exact ⟨hcb, hconfig, hstrm, hstarted, hfailed⟩
  · have howns : ¬OwnsNothing s j := fun h => hstopped ⟨h.recognitionCallbacks, by simp [h.isStreaming]⟩
    rw [if_pos (by simpa [imp_iff_not_or] using hstopped), if_neg hstopped]
    unfold stopRecognitionL
    cases hcall : s.voicecallStarted with
    | true => simpa using howns
    | false =>
      simp only [hj, if_neg hstopped, Bool.false_eq_true, if_false, Bool.not_false, Bool.true_and]
      cases htouch : s.mayTouch j with
      | true =>
        refine iff_of_true (stopVts_owns htouch ?_ ?_) rfl
        · exact update_self ..
        · exact update_self ..
      | false =>
        have hvts : stopVts (clearModel s j) j = clearModel s j := if_neg (Bool.eq_false_iff.mp htouch)
        have hstrm : s.isStreaming j = false := (Bool.or_eq_false_iff.mp htouch).2
        rw [hvts, Bool.false_or, Bool.not_eq_true']
        constructor
        · exact OwnsNothing.recognizeStarted
        · intro hstarted
          refine ⟨update_self .., update_self .., hstrm, hstarted, update_self ..⟩

theorem spares_stopBeforeUnload (s : Stdev) (handle : Int) (j : Model) : Spares s (stopBeforeUnload s handle j).1 := by
  unfold stopBeforeUnload
  split_ifs
  · exact spares_stopRecognitionL s handle
  · exact .refl s

theorem Unloaded.unload_iff (h : Unloaded s) (handle : Int) :
    Unloaded (unloadSoundModel s handle).1 ↔ (s.loaded handle).all s.mayUnload := by
  unfold unloadSoundModel
  rcases hhnd : Model.ofHandle handle with _ | j
  · exact iff_of_true h (by simp [Stdev.loaded, hhnd])
  dsimp only
  split_ifs with hloaded
  · have hj : s.loaded handle = some j := by simp [Stdev.loaded, hhnd, hloaded]
    have hstopped := h.of_spares (spares_stopBeforeUnload s handle j)
    rw [hj, Option.all_some, ← stopBeforeUnload_owns_iff hj]
    constructor
    · intro hunloaded
      exact (hunloaded j (update_self ..)).of_owned rfl
    · intro howns i hi
      by_cases hij : i = j
      · rw [hij]
        exact howns.of_owned rfl
      · exact (hstopped i ((update_of_ne hij ..).symm.trans hi)).of_owned rfl
  · exact iff_of_true h (by simp [Stdev.loaded, hhnd, hloaded])

theorem Unloaded.stopGivenUp_iff (h : Unloaded s) (j : Model) :
    Unloaded (setExecstate s j .stopAbort true) ↔ s.modelHandles j := by
  constructor
  · intro hunloaded
    by_contra hj
    have hfailed := (hunloaded j (Bool.eq_false_iff.mpr hj)).modelStopfailedhandles
    simp [setExecstate] at hfailed
  · intro hj
    exact h.of_spares (spares_setExecstate (.inr hj) _)

/-! ### Runs -/

theorem ranged_inside {handle given : Int} (h : handle ∈ ranged given) : 0 ≤ handle ∧ handle < maxSoundModels := by
  unfold ranged at h
  split_ifs at h with hrange
  · cases h
  · cases List.mem_singleton.mp h
    exact ⟨by omega, by omega⟩

theorem ofHandle_isSome_iff (handle : Int) : (Model.ofHandle handle).isSome ↔ 0 ≤ handle ∧ handle < maxSoundModels := by
  unfold Model.ofHandle maxSoundModels
  split_ifs
  · exact iff_of_true rfl (by omega)
  · exact iff_of_true rfl (by omega)
  · exact iff_of_false (by simp) (by omega)

theorem Unloaded.proper_iff (h : Unloaded s) (a : Action) : Proper s a ↔ tidy s a := by
  have hproper (hinside : ∀ handle ∈ s.indexes a, 0 ≤ handle ∧ handle < maxSoundModels) {t : Stdev}
      (ht : step s a = some t) : Proper s a ↔ Unloaded t := by
    constructor
    · exact fun hproper => hproper.unloaded t ht
    · exact fun hunloaded => ⟨hinside, fun u hu => by rw [ht] at hu; cases hu; exact hunloaded⟩
  have hspares (hinside : ∀ handle ∈ s.indexes a, 0 ≤ handle ∧ handle < maxSoundModels) {t : Stdev}
      (ht : step s a = some t) (hkept : Spares s t) : Proper s a :=
    (hproper hinside ht).mpr (h.of_spares hkept)
  cases a with
  | load handleNull soundModel written =>
    exact iff_of_true ((hproper nofun rfl).mpr (h.loadSoundModel handleNull soundModel written)) rfl
  | unload handle => exact (hproper (fun _ => ranged_inside) rfl).trans (h.unload_iff handle)
  | startRecognition handle config callback allocated =>
    exact iff_of_true
      (hspares (fun _ => ranged_inside) rfl (spares_startRecognition s handle config callback allocated)) rfl
  | stopRecognition handle =>
    refine iff_of_true (hspares ?_ rfl (spares_stopRecognitionL s handle)) rfl
    intro given hgiven
    unfold Stdev.indexes at hgiven
    dsimp only at hgiven
    split_ifs at hgiven
    · cases hgiven
    · exact ranged_inside hgiven
  | stopGivenUp handle =>
    rcases hhnd : Model.ofHandle handle with _ | j
    · refine iff_of_false (fun hproper => ?_) (by simp [tidy, Stdev.loaded, hhnd])
      have hinside := (ofHandle_isSome_iff handle).mpr (hproper.inside handle (List.mem_singleton_self _))
      rw [hhnd] at hinside
      cases hinside
    · have ht : step s (.stopGivenUp handle) = some (setExecstate s j .stopAbort true) := by simp [step, hhnd]
      have hinside : ∀ given ∈ s.indexes (.stopGivenUp handle), 0 ≤ given ∧ given < maxSoundModels := by
        intro given hgiven
        cases List.mem_singleton.mp hgiven
        exact (ofHandle_isSome_iff handle).mp (by rw [hhnd]; rfl)
      rw [hproper hinside ht, h.stopGivenUp_iff]
      cases hloaded : s.modelHandles j <;> simp [tidy, Stdev.loaded, hhnd, hloaded]
  | openForStreaming pcm => exact iff_of_true (hspares nofun rfl (spares_openForStreaming s pcm)) rfl
  | closeForStreaming audioHandle => exact iff_of_true (hspares nofun rfl (spares_closeForStreaming s audioHandle)) rfl
  | openRecording pcm => exact iff_of_true (hspares nofun rfl (spares_openRecording s pcm)) rfl
  | closeRecording => exact iff_of_true (hspares nofun rfl (spares_closeRecording s)) rfl
  | headsetStatus isConnected recording streaming =>
    exact iff_of_true (hspares nofun rfl (spares_headsetStatus s isConnected recording streaming)) rfl
  | voicecallStatus started => exact iff_of_true (hspares nofun rfl (spares_voicecallStatus s started)) rfl
  | notifyAhalRecordStatus state =>
    refine iff_of_true (hspares nofun rfl ?_) rfl
    cases state with
    | stop => exact .refl s
    | start => exact .ite (spares_vtsPowerOff s) (.refl s)
    | other => exact .refl s
  | thread poll =>
    refine iff_of_true ⟨?_, fun t ht => ?_⟩ rfl
    · cases poll with
      | uevent strings =>
        intro handle hhnd
        obtain ⟨w, -, hstops⟩ := List.mem_flatMap.mp hhnd
        obtain ⟨given, -, hranged⟩ := List.mem_flatMap.mp hstops
        exact ranged_inside hranged
      | error => exact nofun
      | nothing => exact nofun
      | socketError => exact nofun
    · obtain ⟨-, hthr⟩ := Option.ite_none_right_eq_some.mp ht
      cases hthr
      exact h.of_spares (spares_threadIteration s poll)

theorem unloaded_opened : Unloaded opened := fun _ _ => ⟨rfl, rfl, rfl, rfl, rfl⟩

/-- In a run, the handles are in range and the unloaded models own nothing just when a stop is given up for loaded
models only and what is left of a model that is unloaded can be stopped. -/
theorem proper_run_iff (actions : List Action) :
    EachDefinedStep step Proper opened actions ↔ EachDefinedStep step (fun s a => tidy s a) opened actions :=
  eachDefinedStep_iff_of_kept (I := Unloaded) (fun _ a h => h.proper_iff a) (fun _ _ _ hproper => hproper.unloaded)
    unloaded_opened

def loadAndStart : List Action :=
  [.load false (some { dataSize := 1024, dataOffset := 44, type := .keyphrase, vendorUuid := .bixby }) 0,
    .startRecognition 1 (some { captureRequested := false }) (some 7) true]

example : EachDefinedStep step (fun s a => tidy s a) opened (loadAndStart ++ [.unload 1]) := by decide

/-- A wake-up takes the callback and leaves the config, which the unload then does not look at. -/
theorem config_left_behind : ¬EachDefinedStep step Proper opened
    (loadAndStart ++ [.thread (.uevent [{ word := .one, allocated := true, stops := [] }]), .unload 1]) := by
  intro h
  have hunload := ((((h.2 _ rfl).2 _ rfl).2 _ rfl).1.unloaded _ rfl) .svoice rfl
  cases hunload.configs

end ExynosHal.SoundTrigger
