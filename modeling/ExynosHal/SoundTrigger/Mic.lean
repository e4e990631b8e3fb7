import ExynosHal.SoundTrigger.Power

/-! # The microphone is on while it is needed

The controls of the microphone are enabled for the recognition of a model or for a recording.
-/

namespace ExynosHal.SoundTrigger
open Library.Run

def Stdev.ControlsOk (s : Stdev) : Prop := ∀ mic, s.micControls mic = (s.isMicConfigured && mic = s.activeMic)

structure MicOk (s : Stdev) : Prop where
  configured : s.isMicConfigured = (s.recognizeStarted.any || s.isRecording)
  controls : s.ControlsOk

def Stdev.mayEndRecording (s : Stdev) : Bool :=
  !s.isRecording || s.recognizeStarted.any || (!s.activeCallbackBitmask.any && !s.isStreaming.any) ||
    (s.aborted .hotword && s.mayTouch .hotword) || (s.aborted .svoice && s.mayTouch .svoice)

def keepsMic (s : Stdev) : Action → Bool
  | .openRecording .notReady => s.voicecallStarted || s.recognizeStarted.any
  | .closeRecording => s.voicecallStarted || s.mayEndRecording
  | _ => true

variable {s t : Stdev}

theorem micOk_opened : MicOk opened := ⟨rfl, fun _ => rfl⟩

theorem Stdev.ControlsOk.controlsAfter (h : s.ControlsOk) (enableMic : Bool) (mic : Mic) :
    controlsAfter s enableMic mic = (enableMic && mic = s.activeMic) := by
  unfold SoundTrigger.controlsAfter
  split
  · rename_i hsame
    rw [h mic, hsame]
  · by_cases hmic : mic = s.activeMic
    · simp [hmic]
    · rw [Function.update_of_ne hmic, h mic]
      simp [hmic]

theorem Stdev.ControlsOk.vtsSetMic (h : s.ControlsOk) (enableMic : Bool) : (vtsSetMic s enableMic).ControlsOk := by
  rw [vtsSetMic_eq]
  exact h.controlsAfter enableMic

section
variable (h : MicOk s)
include h

theorem MicOk.vtsPowerOff : MicOk (vtsPowerOff s) := by
  rw [vtsPowerOff_eq]
  have hcfg := h.configured
  cases hrec : s.isRecording with
  | true =>
    rw [hrec, Bool.or_true] at hcfg
    refine ⟨by simp [hcfg], fun mic => ?_⟩
    simp only [controlsAfterOff, hrec, if_true, h.controls mic, Bool.true_and]
  | false =>
    refine ⟨rfl, fun mic => ?_⟩
    simp [controlsAfterOff, hrec, h.controls.controlsAfter]

theorem MicOk.vtsSetPower (algorithms : Mask) : MicOk (vtsSetPower s algorithms) := by
  unfold SoundTrigger.vtsSetPower
  split
  · rename_i hany
    rw [vtsPowerOn_eq]
    obtain ⟨i, hi⟩ := Mask.any_iff.mp hany
    have hstarted : Mask.any (fun i => s.recognizeStarted i || algorithms i) = true :=
      Mask.any_of (i := i) (by simp [hi])
    exact ⟨by simp [hstarted], h.controls.controlsAfter true⟩
  · exact h.vtsPowerOff

theorem MicOk.powerCycle : MicOk (powerCycle s) := h.vtsPowerOff.vtsSetPower _

theorem MicOk.reconfigure (i : Model) : MicOk (reconfigure s i) := by
  unfold SoundTrigger.reconfigure
  split
  · exact h.powerCycle
  · exact h

theorem MicOk.threadExit : MicOk (threadExit s) := by
  unfold SoundTrigger.threadExit
  split
  · exact ⟨h.configured, h.controls⟩
  · exact ⟨h.vtsPowerOff.configured, h.vtsPowerOff.controls⟩

theorem MicOk.releaseModel (i : Model) : MicOk (releaseModel s i) := by
  unfold SoundTrigger.releaseModel
  split
  · exact h
  · exact ⟨h.configured, h.controls⟩

theorem MicOk.handleStopModel (i : Model) : MicOk (handleStopModel s i) := by
  unfold SoundTrigger.handleStopModel
  split
  · have hrel := (h.releaseModel i).reconfigure i
    exact ⟨hrel.configured, hrel.controls⟩
  · exact ⟨h.configured, h.controls⟩

theorem MicOk.handleStopRecognition : MicOk (handleStopRecognition s) :=
  (h.handleStopModel .hotword).handleStopModel .svoice

end

def Below (started callbacks : Mask) : Prop := ∀ i, started i → callbacks i

theorem Below.refl (m : Mask) : Below m m :=
  fun _ h => h

structure MicKept (s : Stdev) : Prop where
  mic : MicOk s
  below : Related Below s

theorem micKept_opened : MicKept opened := ⟨micOk_opened, nofun⟩

theorem related_of_off (hstarted : s.isStreaming.any = false → s.recognizeStarted = .zero) : Related Below s := by
  intro hstrm i hi
  rw [hstarted hstrm] at hi
  cases hi

theorem related_of_streaming (hstrm : s.isStreaming.any) : Related Below s := by
  intro hnone
  rw [hnone] at hstrm
  cases hstrm

theorem related_vtsPowerOff (s : Stdev) : Related Below (vtsPowerOff s) :=
  related_of_off fun _ => vtsPowerOff_recognizeStarted s

theorem MicKept.threadExit (h : MicOk s) : MicKept (threadExit s) := by
  refine ⟨h.threadExit, ?_⟩
  unfold SoundTrigger.threadExit
  split
  · rename_i hstrm
    exact related_of_streaming hstrm
  · exact related_vtsPowerOff s

theorem MicKept.powerCycle (h : MicOk s) : MicKept (powerCycle s) := ⟨h.powerCycle, Related.powerCycle Below.refl s⟩

theorem MicKept.handleStopRecognition (h : MicKept s) : MicKept (handleStopRecognition s) :=
  ⟨h.mic.handleStopRecognition, Related.handleStopRecognition Below.refl h.below⟩

theorem MicKept.stopVts (h : MicOk s) (i : Model) : MicKept (stopVts s i) := by
  unfold SoundTrigger.stopVts
  split
  · split
    · exact MicKept.powerCycle h
    · refine ⟨?_, related_vtsPowerOff _⟩
      unfold joinCallbackThread
      split
      · exact h.threadExit.vtsPowerOff
      · exact h.vtsPowerOff
  · rename_i htouch
    have hstrm : s.isStreaming.any = true := by
      by_contra hnone
      exact htouch (by simpa [Stdev.mayTouch] using Or.inl (Bool.eq_false_iff.mpr hnone))
    exact ⟨h, related_of_streaming hstrm⟩

theorem MicKept.stopRecognitionL (h : MicKept s) (handle : Int) : MicKept (stopRecognitionL s handle).1 := by
  unfold SoundTrigger.stopRecognitionL
  split
  · exact h
  · split
    · exact h
    · rename_i i _
      split
      · exact h
      · have hstopped := MicKept.stopVts (s := clearModel s i) ⟨h.mic.configured, h.mic.controls⟩ i
        exact ⟨⟨hstopped.mic.configured, hstopped.mic.controls⟩, hstopped.below⟩

theorem MicKept.unloadSoundModel (h : MicKept s) (handle : Int) : MicKept (unloadSoundModel s handle).1 := by
  have hstopped : ∀ i, MicKept (stopBeforeUnload s handle i).1 := by
    intro i
    unfold stopBeforeUnload
    split
    · exact h.stopRecognitionL handle
    · exact h
  unfold SoundTrigger.unloadSoundModel
  split
  · exact h
  · rename_i i _
    split
    · exact ⟨⟨(hstopped i).mic.configured, (hstopped i).mic.controls⟩, (hstopped i).below⟩
    · exact h

theorem MicKept.beginRecognition (h : MicOk s) (i : Model) (callback : Option Nat) :
    MicKept (beginRecognition s i callback) := by
  have hthr : MicOk (setCallback (startCallbackThread s) i callback) := by
    unfold startCallbackThread
    split <;> exact ⟨h.configured, h.controls⟩
  have hpower := hthr.reconfigure i
  exact ⟨⟨hpower.configured, hpower.controls⟩, Related.reconfigure Below.refl _ i⟩

theorem MicKept.startRecognition (h : MicKept s) (handle : Int) (config : Option Config) (callback : Option Nat)
    (allocated : Bool) : MicKept (startRecognition s handle config callback allocated).1 := by
  unfold SoundTrigger.startRecognition
  split
  · exact h
  · rename_i i _
    have hbefore : MicKept (beforeStart s i) := by
      unfold beforeStart
      split
      · exact h.handleStopRecognition
      · exact h
    unfold startModel
    split
    · exact hbefore
    · split
      · exact MicKept.beginRecognition hbefore.mic i callback
      · split
        · refine MicKept.beginRecognition ?_ i callback
          exact ⟨hbefore.mic.configured, hbefore.mic.controls⟩
        · exact ⟨⟨hbefore.mic.configured, hbefore.mic.controls⟩, hbefore.below⟩

theorem MicOk.stopDuringCallback (h : MicOk s) (handle : Int) : MicOk (stopDuringCallback s handle) := by
  unfold SoundTrigger.stopDuringCallback
  split
  · exact h
  · split
    · exact ⟨h.configured, h.controls⟩
    · exact h

theorem MicOk.callBack (h : MicOk s) (w : WakeUp) : MicOk (callBack s w) := by
  have hstops : ∀ (stops : List Int) (r : Stdev), MicOk r → MicOk (stops.foldl SoundTrigger.stopDuringCallback r) := by
    intro stops
    induction stops with
    | nil => exact fun r hr => hr
    | cons handle stops ih => exact fun r hr => ih _ (hr.stopDuringCallback handle)
  unfold SoundTrigger.callBack
  split
  · rename_i callback _
    split
    · have hstopped := hstops w.stops (logDelivery s w.word.model callback) ⟨h.configured, h.controls⟩
      exact ⟨hstopped.configured, hstopped.controls⟩
    · exact h
  · exact h

def MicAfter (r : Stdev × Bool) : Prop :=
  if r.2 then MicOk r.1 else MicKept r.1

theorem MicOk.afterCallBack (h : MicOk s) (i : Model) : MicAfter (afterCallBack s i) := by
  unfold SoundTrigger.afterCallBack
  split
  · exact ⟨h.configured, h.controls⟩
  · have hrecover : MicOk (recover s i) := by
      unfold recover
      split
      · exact ⟨h.handleStopRecognition.configured, h.handleStopRecognition.controls⟩
      · exact h
    unfold restartOrLeave
    split
    · exact MicKept.powerCycle hrecover
    · exact hrecover

theorem MicKept.wakeUps (h : MicKept s) (strings : List WakeUp) : MicAfter (wakeUps s strings) := by
  induction strings generalizing s with
  | nil => exact h
  | cons w strings ih =>
    have hfst : MicAfter (wakeUp s w) := by
      unfold wakeUp
      split
      · exact (h.mic.callBack w).afterCallBack _
      · exact h.mic
    unfold SoundTrigger.wakeUps
    split
    · rename_i hleft
      rw [MicAfter, if_pos hleft] at hfst
      exact hfst
    · rename_i hleft
      rw [MicAfter, if_neg hleft] at hfst
      exact ih hfst

theorem MicKept.threadIteration (h : MicKept s) (poll : Poll) : MicKept (threadIteration s poll) := by
  cases poll with
  | error => exact MicKept.threadExit h.mic
  | uevent strings =>
    have hafter := h.wakeUps strings
    unfold SoundTrigger.threadIteration
    dsimp only
    split
    · rename_i hleft
      rw [MicAfter, if_pos hleft] at hafter
      exact MicKept.threadExit hafter
    · rename_i hleft
      rw [MicAfter, if_neg hleft] at hafter
      exact hafter
  | nothing => exact h
  | socketError =>
    unfold SoundTrigger.threadIteration
    dsimp only
    split
    · exact MicKept.threadExit ⟨h.mic.configured, h.mic.controls⟩
    · exact ⟨⟨h.mic.configured, h.mic.controls⟩, h.below⟩

structure Settled (s : Stdev) : Prop where
  isStreaming : s.isStreaming.any = false
  recognizeStarted : s.recognizeStarted = s.activeCallbackBitmask

theorem settled_powerCycle (s : Stdev) : Settled (powerCycle s) := by
  constructor
  · rw [powerCycle_isStreaming]
    rfl
  · rw [powerCycle_recognizeStarted, (sameModels_powerCycle s).bitmask]

variable {i : Model}

theorem settled_reconfigure (htouch : s.mayTouch i) : Settled (reconfigure s i) := by
  unfold reconfigure
  rw [if_pos htouch]
  exact settled_powerCycle s

theorem releaseModel_isStreaming (s : Stdev) (i : Model) : (releaseModel s i).isStreaming = s.isStreaming := by
  unfold releaseModel
  split <;> rfl

theorem mayTouch_releaseModel (s : Stdev) (i j : Model) : (releaseModel s i).mayTouch j = s.mayTouch j := by
  unfold Stdev.mayTouch
  rw [releaseModel_isStreaming]

theorem settled_handleStopModel (haborted : s.aborted i) (htouch : s.mayTouch i) :
    Settled (handleStopModel s i) := by
  have hsettled := settled_reconfigure ((mayTouch_releaseModel s i i).trans htouch)
  unfold handleStopModel
  rw [if_pos haborted]
  exact ⟨hsettled.isStreaming, hsettled.recognizeStarted⟩

theorem Settled.handleStopModel (h : Settled s) (i : Model) : Settled (handleStopModel s i) := by
  unfold SoundTrigger.handleStopModel
  split
  · have htouch : s.mayTouch i = true := by simp [Stdev.mayTouch, h.isStreaming]
    have hsettled := settled_reconfigure ((mayTouch_releaseModel s i i).trans htouch)
    exact ⟨hsettled.isStreaming, hsettled.recognizeStarted⟩
  · exact ⟨h.isStreaming, h.recognizeStarted⟩

theorem handleStopModel_untouched (h : s.aborted i = false ∨ s.mayTouch i = false) :
    (handleStopModel s i).isStreaming = s.isStreaming ∧ (handleStopModel s i).recognizeStarted =
      s.recognizeStarted := by
  unfold handleStopModel
  split
  · rename_i haborted
    have htouch : (releaseModel s i).mayTouch i = false := by
      rw [mayTouch_releaseModel]
      rcases h with hnone | hnone
      · rw [hnone] at haborted
        cases haborted
      · exact hnone
    unfold reconfigure
    rw [if_neg (Bool.eq_false_iff.mp htouch)]
    unfold releaseModel
    split <;> exact ⟨rfl, rfl⟩
  · exact ⟨rfl, rfl⟩

theorem powerCycle_isRecording (s : Stdev) : (powerCycle s).isRecording = s.isRecording := by
  unfold powerCycle vtsSetPower
  split
  · rw [vtsPowerOn_eq, vtsPowerOff_eq]
  · rw [vtsPowerOff_eq, vtsPowerOff_eq]

theorem handleStopModel_isRecording (s : Stdev) (i : Model) : (handleStopModel s i).isRecording = s.isRecording := by
  have hrel : (releaseModel s i).isRecording = s.isRecording := by
    unfold releaseModel
    split <;> rfl
  unfold handleStopModel
  split
  · unfold reconfigure
    split
    · exact (powerCycle_isRecording _).trans hrel
    · exact hrel
  · rfl

def Stdev.micTestOk (s : Stdev) : Prop :=
  s.recognizeStarted.any ∨ (s.activeCallbackBitmask.any = false ∧ s.isStreaming.any = false)

theorem Settled.micTestOk (h : Settled s) : s.micTestOk := by
  cases hany : s.activeCallbackBitmask.any with
  | true => exact .inl (by rw [h.recognizeStarted, hany])
  | false => exact .inr ⟨hany, h.isStreaming⟩

theorem micTestOk_handleStopRecognition (hend : s.mayEndRecording) (hrec : s.isRecording) :
    (handleStopRecognition s).micTestOk := by
  have hfst := stopHandled s .hotword
  have haborted : (handleStopModel s .hotword).aborted .svoice = s.aborted .svoice := by
    simp [Stdev.aborted, hfst.modelExecstate, hfst.modelStopfailedhandles]
  cases hhotword : s.aborted .hotword && s.mayTouch .hotword with
  | true =>
    obtain ⟨ha, ht⟩ := Bool.and_eq_true_iff.mp hhotword
    exact ((settled_handleStopModel ha ht).handleStopModel .svoice).micTestOk
  | false =>
    obtain ⟨hstrm, hstarted⟩ := handleStopModel_untouched (Bool.and_eq_false_iff.mp hhotword)
    have htouch : (handleStopModel s .hotword).mayTouch .svoice = s.mayTouch .svoice := by
      unfold Stdev.mayTouch
      rw [hstrm]
    cases hsvoice : s.aborted .svoice && s.mayTouch .svoice with
    | true =>
      obtain ⟨ha, ht⟩ := Bool.and_eq_true_iff.mp hsvoice
      exact (settled_handleStopModel (haborted.trans ha) (htouch.trans ht)).micTestOk
    | false =>
      rw [← haborted, ← htouch] at hsvoice
      obtain ⟨hstrm', hstarted'⟩ := handleStopModel_untouched (Bool.and_eq_false_iff.mp hsvoice)
      rw [haborted, htouch] at hsvoice
      simp only [Stdev.mayEndRecording, hrec, hhotword, hsvoice, Bool.not_true, Bool.false_or, Bool.or_false,
        Bool.or_eq_true, Bool.and_eq_true, Bool.not_eq_true'] at hend
      rcases hend with hany | ⟨hnone, hstream⟩
      · left
        rw [handleStopRecognition, hstarted', hstarted]
        exact hany
      · right
        constructor
        · rw [← Mask.eq_zero_iff] at hnone ⊢
          funext j
          rw [Stdev.activeCallbackBitmask, handleStopRecognition_recognitionCallbacks]
          split
          · rfl
          · exact congrFun hnone j
        · rw [handleStopRecognition, hstrm', hstrm]
          exact hstream

theorem micTestOk_recoverStops (hend : s.mayEndRecording) (hrec : s.isRecording) : (recoverStops s).micTestOk := by
  unfold recoverStops
  split
  · exact micTestOk_handleStopRecognition hend hrec
  · rename_i hfailed
    have hnone : s.modelStopfailedhandles .hotword = false ∧ s.modelStopfailedhandles .svoice = false := by
      simpa [Stdev.anyStopFailed] using hfailed
    simpa [Stdev.mayEndRecording, hrec, Stdev.aborted, hnone.1, hnone.2, Stdev.micTestOk] using hend

theorem MicKept.endRecording (h : MicKept s) (hrec : s.isRecording) (htest : s.micTestOk) :
    MicKept (endRecording s) := by
  have hcfg : s.isMicConfigured = true := by rw [h.mic.configured, hrec, Bool.or_true]
  unfold SoundTrigger.endRecording releaseMic
  split
  · rename_i hnone
    rw [vtsSetMic_eq]
    have hnone : !s.activeCallbackBitmask.any ∧ !s.isStreaming.any := hnone
    rw [Bool.not_eq_true', Bool.not_eq_true'] at hnone
    have hstarted : s.recognizeStarted = .zero := by
      funext i
      cases hi : s.recognizeStarted i with
      | false => rfl
      | true =>
        have hmask := Mask.any_of (h.below hnone.2 i hi)
        rw [hnone.1] at hmask
        cases hmask
    refine ⟨⟨?_, h.mic.controls.controlsAfter false⟩, h.below⟩
    show false = (s.recognizeStarted.any || false)
    rw [hstarted]
    rfl
  · rename_i hsome
    have hsome : ¬(!s.activeCallbackBitmask.any ∧ !s.isStreaming.any) := hsome
    rw [Bool.not_eq_true', Bool.not_eq_true'] at hsome
    have hstarted := htest.resolve_right hsome
    refine ⟨⟨?_, h.mic.controls⟩, h.below⟩
    show s.isMicConfigured = (s.recognizeStarted.any || false)
    rw [hcfg, hstarted]
    rfl

theorem MicKept.closeRecording (h : MicKept s) (hkeeps : keepsMic s .closeRecording) :
    MicKept (closeRecording s).1 := by
  unfold SoundTrigger.closeRecording
  split
  · exact h
  · rename_i hcall
    have hrecovered : MicKept (recoverStops s) := by
      unfold recoverStops
      split
      · exact h.handleStopRecognition
      · exact h
    split
    · rename_i hrec
      have hsame : (recoverStops s).isRecording = s.isRecording := by
        unfold recoverStops
        split
        · exact (handleStopModel_isRecording _ .svoice).trans (handleStopModel_isRecording s .hotword)
        · rfl
      have hend : s.mayEndRecording = true := by simpa [keepsMic, hcall] using hkeeps
      exact hrecovered.endRecording hrec (micTestOk_recoverStops hend (hsame ▸ hrec))
    · exact hrecovered

structure SameListening (s t : Stdev) : Prop where
  isStreaming : t.isStreaming = s.isStreaming
  recognizeStarted : t.recognizeStarted = s.recognizeStarted
  recognitionCallbacks : t.recognitionCallbacks = s.recognitionCallbacks

theorem SameListening.related (hsame : SameListening s t) (h : Related Below s) : Related Below t := by
  intro hstrm i hi
  rw [hsame.isStreaming] at hstrm
  rw [hsame.recognizeStarted] at hi
  show (t.recognitionCallbacks i).isSome
  rw [hsame.recognitionCallbacks]
  exact h hstrm i hi

theorem sameListening_closeOldRecording (s : Stdev) : SameListening s (closeOldRecording s) := by
  unfold closeOldRecording endRecording releaseMic
  split
  · split
    · rw [vtsSetMic_eq]
      exact ⟨rfl, rfl, rfl⟩
    · exact ⟨rfl, rfl, rfl⟩
  · exact ⟨rfl, rfl, rfl⟩

theorem controlsOk_closeOldRecording (h : s.ControlsOk) : (closeOldRecording s).ControlsOk := by
  unfold closeOldRecording endRecording releaseMic
  split
  · split
    · exact Stdev.ControlsOk.vtsSetMic (s := { s with recordingPcm := false }) h false
    · exact h
  · exact h

theorem MicKept.openRecording (h : MicKept s) {pcm : PcmOpen} (hkeeps : keepsMic s (.openRecording pcm)) :
    MicKept (openRecording s pcm).1 := by
  unfold SoundTrigger.openRecording
  split
  · exact h
  · rename_i hcall
    have hclosed := sameListening_closeOldRecording s
    have hcontrols : (vtsSetMic (closeOldRecording s) true).ControlsOk :=
      (controlsOk_closeOldRecording h.mic.controls).vtsSetMic true
    rw [vtsSetMic_eq] at hcontrols ⊢
    have hbelow : Related Below (closeOldRecording s) := hclosed.related h.below
    cases pcm with
    | null => exact ⟨⟨by simp [startRecordingPcm], hcontrols⟩, hbelow⟩
    | ready => exact ⟨⟨by simp [startRecordingPcm], hcontrols⟩, hbelow⟩
    | notReady =>
      have hstarted : s.recognizeStarted.any = true := by simpa [keepsMic, hcall] using hkeeps
      refine ⟨⟨?_, hcontrols⟩, hbelow⟩
      show true = ((closeOldRecording s).recognizeStarted.any || (closeOldRecording s).isRecording)
      rw [hclosed.recognizeStarted, hstarted, Bool.true_or]

theorem MicKept.closeForStreaming (h : MicKept s) (audioHandle : Int) :
    MicKept (closeForStreaming s audioHandle).1 := by
  have hoff : MicOk (vtsPowerOff (closeStreamingPcm s)) := MicOk.vtsPowerOff ⟨h.mic.configured, h.mic.controls⟩
  unfold SoundTrigger.closeForStreaming
  split
  · exact h
  · split
    · exact h
    · split
      · exact h
      · split
        · have hthr : MicOk (startCallbackThread (vtsPowerOff (closeStreamingPcm s))) ∧
              (startCallbackThread (vtsPowerOff (closeStreamingPcm s))).recognizeStarted = .zero ∧
              (startCallbackThread (vtsPowerOff (closeStreamingPcm s))).activeCallbackBitmask =
                s.activeCallbackBitmask := by
            unfold startCallbackThread
            split <;> exact ⟨⟨hoff.configured, hoff.controls⟩, vtsPowerOff_recognizeStarted _,
              (sameModels_vtsPowerOff _).bitmask⟩
          obtain ⟨hmic, hstarted, hbitmask⟩ := hthr
          refine ⟨hmic.vtsSetPower _, fun _ i hi => ?_⟩
          rw [vtsSetPower_recognizeStarted _ hstarted] at hi
          rw [(sameModels_vtsSetPower _ _).bitmask, hbitmask]
          exact hi
        · exact ⟨hoff, related_vtsPowerOff _⟩

theorem Stdev.ControlsOk.off (h : s.ControlsOk) (hrec : s.isRecording = false) :
    (vtsPowerOff s).isMicConfigured = false ∧ ∀ mic, (vtsPowerOff s).micControls mic = false := by
  rw [vtsPowerOff_eq]
  refine ⟨by simp [hrec], fun mic => ?_⟩
  show controlsAfterOff s mic = false
  rw [controlsAfterOff, if_neg (by simp [hrec]), h.controlsAfter]
  rfl

theorem changeMic_controls (h : MicOk s) (isConnected : Bool) : (changeMic s isConnected).ControlsOk ∧
      (changeMic s isConnected).isMicConfigured = (changeMic s isConnected).recognizeStarted.any := by
  have hpcms : (closePcms s).ControlsOk := h.controls
  obtain ⟨hcfg, hcontrols⟩ := hpcms.off rfl
  have hnew : Stdev.ControlsOk
      { vtsPowerOff (closePcms s) with activeMic := micOf isConnected, isRecording := s.isRecording } := by
    intro mic
    show (vtsPowerOff (closePcms s)).micControls mic = ((vtsPowerOff (closePcms s)).isMicConfigured && _)
    rw [hcontrols, hcfg, Bool.false_and]
  unfold SoundTrigger.changeMic restartModels
  split
  · rename_i hany
    have hmodels : Mask.any (fun i => s.activeCallbackBitmask i || s.isStreaming i) = true := by
      rcases hany with hany | hany
      all_goals
        obtain ⟨i, hi⟩ := Mask.any_iff.mp hany
        exact Mask.any_of (i := i) (by simp [hi])
    have hpower := vtsSetPower_recognizeStarted
      (s := { vtsPowerOff (closePcms s) with activeMic := micOf isConnected, isRecording := s.isRecording })
      (fun i => s.activeCallbackBitmask i || s.isStreaming i) (vtsPowerOff_recognizeStarted _)
    constructor
    · unfold vtsSetPower
      rw [if_pos hmodels, vtsPowerOn_eq]
      exact hnew.controlsAfter true
    · refine Eq.trans ?_ (Eq.symm ((congrArg Mask.any hpower).trans hmodels))
      unfold vtsSetPower
      rw [if_pos hmodels, vtsPowerOn_eq]
  · refine ⟨hnew, hcfg.trans ?_⟩
    exact (congrArg Mask.any (vtsPowerOff_recognizeStarted (closePcms s))).symm

theorem related_changeMic (s : Stdev) (isConnected : Bool) : Related Below (changeMic s isConnected) := by
  have hoff := sameModels_vtsPowerOff (closePcms s)
  unfold changeMic restartModels
  split
  · intro hnone i hi
    have hpower := vtsSetPower_recognizeStarted
      (s := { vtsPowerOff (closePcms s) with activeMic := micOf isConnected, isRecording := s.isRecording })
      (fun i => s.activeCallbackBitmask i || s.isStreaming i) (vtsPowerOff_recognizeStarted _)
    have hzero : s.isStreaming = .zero := Mask.eq_zero_iff.mpr hnone
    have hstarted : (s.activeCallbackBitmask i || s.isStreaming i) := (congrFun hpower i).symm.trans hi
    rw [hzero] at hstarted
    have hsame := sameModels_vtsSetPower
      { vtsPowerOff (closePcms s) with activeMic := micOf isConnected, isRecording := s.isRecording }
      (fun i => s.activeCallbackBitmask i || s.isStreaming i)
    have hmask : s.activeCallbackBitmask i = true := by simpa [Mask.zero] using hstarted
    exact (congrFun (hsame.bitmask.trans hoff.bitmask) i).trans hmask
  · exact related_of_off fun _ => vtsPowerOff_recognizeStarted (closePcms s)

theorem micKept_restartPcms (hcontrols : s.ControlsOk) (hcfg : s.isMicConfigured = s.recognizeStarted.any)
    (hbelow : Related Below s) (recording streaming : PcmOpen) : MicKept (restartPcms s recording streaming).1 := by
  have hrecording : MicKept (restartRecording s recording).1 := by
    unfold restartRecording
    split
    · rename_i hrec
      have hmic : MicKept (vtsSetMic s true) := by
        have hset := hcontrols.vtsSetMic true
        rw [vtsSetMic_eq] at hset ⊢
        exact ⟨⟨by simp [hrec], hset⟩, hbelow⟩
      split
      · exact hmic
      · exact ⟨⟨hmic.mic.configured, hmic.mic.controls⟩, hmic.below⟩
    · rename_i hrec
      exact ⟨⟨by simp [hrec, hcfg], hcontrols⟩, hbelow⟩
  unfold restartPcms
  split
  · exact hrecording
  · unfold restartStreaming
    split
    · split <;> exact ⟨⟨hrecording.mic.configured, hrecording.mic.controls⟩, hrecording.below⟩
    · exact hrecording

theorem MicKept.headsetStatus (h : MicKept s) (isConnected : Bool) (recording streaming : PcmOpen) :
    MicKept (headsetStatus s isConnected recording streaming).1 := by
  unfold SoundTrigger.headsetStatus
  split
  · obtain ⟨hcontrols, hcfg⟩ := changeMic_controls h.mic isConnected
    exact micKept_restartPcms hcontrols hcfg (related_changeMic s isConnected) recording streaming
  · rename_i hmic
    have hoff : s.isMicConfigured = false := Bool.eq_false_iff.mpr hmic
    refine ⟨⟨h.mic.configured, fun mic => ?_⟩, h.below⟩
    show s.micControls mic = (s.isMicConfigured && _)
    rw [h.mic.controls mic, hoff]
    rfl

theorem MicKept.voicecallStatus (h : MicKept s) (started : Bool) : MicKept (voicecallStatus s started) := by
  unfold SoundTrigger.voicecallStatus
  split
  · split
    · have hcontrols : Stdev.ControlsOk
          { closePcms s with isStreaming := if s.isStreaming.any then .zero else s.isStreaming } := h.mic.controls
      obtain ⟨hcfg, hoff⟩ := hcontrols.off rfl
      have hstarted := vtsPowerOff_recognizeStarted
        { closePcms s with isStreaming := if s.isStreaming.any then .zero else s.isStreaming }
      have hrec : (vtsPowerOff { closePcms s with
          isStreaming := if s.isStreaming.any then .zero else s.isStreaming }).isRecording = false := by
        rw [vtsPowerOff_eq]
        rfl
      refine ⟨⟨?_, fun mic => ?_⟩, related_of_off fun _ => hstarted⟩
      · refine hcfg.trans (Eq.symm ?_)
        exact congrArg₂ or (congrArg Mask.any hstarted) hrec
      · refine (hoff mic).trans (Eq.symm ?_)
        exact (congrArg₂ and hcfg rfl).trans (Bool.false_and _)
    · exact ⟨⟨h.mic.configured, h.mic.controls⟩, h.below⟩
  · exact ⟨⟨h.mic.configured, h.mic.controls⟩, h.below⟩

theorem MicKept.loadSoundModel (h : MicKept s) (handleNull : Bool) (soundModel : Option SoundModel) (written : Int) :
    MicKept (loadSoundModel s handleNull soundModel written).1 := by
  have hload : ∀ i generic, MicKept (loadModel s i generic written).1 := by
    intro i generic
    unfold loadModel
    split
    · exact ⟨⟨h.mic.configured, h.mic.controls⟩, h.below⟩
    · split <;> exact ⟨⟨h.mic.configured, h.mic.controls⟩, h.below⟩
  unfold SoundTrigger.loadSoundModel
  split
  · exact h
  · split
    · exact h
    · split
      · exact hload _ _
      · exact hload _ _
      · exact h

theorem MicKept.step (h : MicKept s) {a : Action} (ha : keepsMic s a) (hstep : step s a = some t) : MicKept t := by
  cases a with
  | load handleNull soundModel written =>
    cases hstep
    exact h.loadSoundModel handleNull soundModel written
  | unload handle =>
    cases hstep
    exact h.unloadSoundModel handle
  | startRecognition handle config callback allocated =>
    cases hstep
    exact h.startRecognition handle config callback allocated
  | stopRecognition handle =>
    cases hstep
    exact h.stopRecognitionL handle
  | stopGivenUp handle =>
    obtain ⟨i, -, rfl⟩ := Option.map_eq_some_iff.mp hstep
    exact ⟨⟨h.mic.configured, h.mic.controls⟩, h.below⟩
  | openForStreaming pcm =>
    cases hstep
    unfold openForStreaming
    split
    · exact h
    · cases pcm <;> exact ⟨⟨h.mic.configured, h.mic.controls⟩, h.below⟩
  | closeForStreaming audioHandle =>
    cases hstep
    exact h.closeForStreaming audioHandle
  | openRecording pcm =>
    cases hstep
    exact h.openRecording ha
  | closeRecording =>
    cases hstep
    exact h.closeRecording ha
  | headsetStatus isConnected recording streaming =>
    cases hstep
    exact h.headsetStatus isConnected recording streaming
  | voicecallStatus started =>
    cases hstep
    exact h.voicecallStatus started
  | notifyAhalRecordStatus state =>
    cases hstep
    cases state with
    | stop => exact h
    | other => exact h
    | start =>
      unfold notifyAhalRecordStatus
      dsimp only
      split
      · exact ⟨h.mic.vtsPowerOff, related_vtsPowerOff s⟩
      · exact h
  | thread poll =>
    obtain ⟨-, hstep⟩ := Option.ite_none_right_eq_some.mp hstep
    cases hstep
    exact h.threadIteration poll

/-- The microphone that is on is the active one, and one is on exactly for a started model or a recording. -/
theorem micOk_run {actions : List Action} (hkeeps : EachDefinedStep step (fun s a => keepsMic s a) opened actions)
    (hrun : actions.foldlM step opened = some s) : MicOk s := by
  have hkept : MicKept s := by
    refine foldlM_keeps_of_eachDefinedStep (P := MicKept) ?_ micKept_opened hkeeps hrun
    intro s t a hs ha hstep
    exact hs.step ha hstep
  exact hkept.mic

def recordWithHeadset : List Action :=
  [.load false (some { dataSize := 1024, dataOffset := 44, type := .keyphrase, vendorUuid := .bixby }) 0,
    .openRecording .ready, .startRecognition 1 none (some 7) true, .headsetStatus true .ready .ready, .closeRecording,
    .openRecording .notReady]

theorem micOk_run_recordWithHeadset :
    ∃ s, recordWithHeadset.foldlM step opened = some s ∧ s.isMicConfigured ∧ s.activeMic = .headset ∧
      EachDefinedStep step (fun s a => keepsMic s a) opened recordWithHeadset ∧ MicOk s := by
  have hkeeps : EachDefinedStep step (fun s a => keepsMic s a) opened recordWithHeadset := by decide
  exact ⟨_, rfl, rfl, rfl, hkeeps, micOk_run hkeeps rfl⟩

theorem not_micOk_failedRecording :
    ¬∀ (actions : List Action) (s : Stdev), actions.foldlM step opened = some s → MicOk s := by
  intro h
  have hcfg := (h [.openRecording .notReady] _ rfl).configured
  cases hcfg

end ExynosHal.SoundTrigger
