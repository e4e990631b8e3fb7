import Mathlib.Tactic
import ExynosHal.SoundTrigger.Device

/-! # What power and microphone leave alone

Turning the VTS on or off writes the state of the stream, of the recognition and of the microphone only.
-/

namespace ExynosHal.SoundTrigger
open Function (update)

variable {s t : Stdev}

structure SameStates (s t : Stdev) : Prop where
  modelExecstate : t.modelExecstate = s.modelExecstate
  modelStopfailedhandles : t.modelStopfailedhandles = s.modelStopfailedhandles
  callbackThreadActive : t.callbackThreadActive = s.callbackThreadActive
  voicecallStarted : t.voicecallStarted = s.voicecallStarted
  delivered : t.delivered = s.delivered

structure SameModels (s t : Stdev) : Prop extends SameStates s t where
  modelHandles : t.modelHandles = s.modelHandles
  recognitionCallbacks : t.recognitionCallbacks = s.recognitionCallbacks
  configs : t.configs = s.configs

theorem SameModels.refl (s : Stdev) : SameModels s s := ⟨⟨rfl, rfl, rfl, rfl, rfl⟩, rfl, rfl, rfl⟩

theorem SameModels.trans {r : Stdev} (h : SameModels r s) (h' : SameModels s t) : SameModels r t :=
  ⟨⟨h'.modelExecstate.trans h.modelExecstate, h'.modelStopfailedhandles.trans h.modelStopfailedhandles,
    h'.callbackThreadActive.trans h.callbackThreadActive, h'.voicecallStarted.trans h.voicecallStarted,
    h'.delivered.trans h.delivered⟩, h'.modelHandles.trans h.modelHandles,
    h'.recognitionCallbacks.trans h.recognitionCallbacks, h'.configs.trans h.configs⟩

theorem SameModels.bitmask (h : SameModels s t) : t.activeCallbackBitmask = s.activeCallbackBitmask := by
  unfold Stdev.activeCallbackBitmask
  rw [h.recognitionCallbacks]

variable {m : Mask}

theorem Mask.eq_zero_iff : m = .zero ↔ m.any = false := by
  constructor
  · rintro rfl
    rfl
  · intro h
    obtain ⟨hhotword, hsvoice⟩ := Bool.or_eq_false_iff.mp h
    funext i
    cases i with
    | hotword => exact hhotword
    | svoice => exact hsvoice

theorem Mask.any_of {i : Model} (h : m i) : m.any := by
  cases i <;> simp [Mask.any, h]

theorem Mask.any_iff : m.any ↔ ∃ i, m i := by
  constructor
  · intro h
    rcases Bool.or_eq_true_iff.mp h with hhotword | hsvoice
    · exact ⟨.hotword, hhotword⟩
    · exact ⟨.svoice, hsvoice⟩
  · rintro ⟨i, hi⟩
    exact Mask.any_of hi

theorem Mask.any_single (i : Model) : (Mask.single i).any = true := by
  cases i <;> rfl

def controlsAfter (s : Stdev) (enableMic : Bool) : Mic → Bool :=
  if s.isMicConfigured = enableMic then s.micControls else update s.micControls s.activeMic enableMic

theorem vtsSetMic_eq (s : Stdev) (enableMic : Bool) : vtsSetMic s enableMic =
      { s with micControls := controlsAfter s enableMic, isMicConfigured := enableMic } := by
  obtain ⟨_, _, _, _, _, _, _, _, _, _, _, _, configured, _, _, _, _, _, _⟩ := s
  cases enableMic <;> cases configured <;> rfl

def controlsAfterOff (s : Stdev) : Mic → Bool :=
  if s.isRecording then s.micControls else controlsAfter s false

theorem vtsPowerOff_eq (s : Stdev) : vtsPowerOff s = { s with
        isStreaming := .zero
        streamingPcm := false
        isSeamlessRecording := false
        recognizeStarted := .zero
        micControls := controlsAfterOff s
        isMicConfigured := s.isRecording && s.isMicConfigured } := by
  obtain ⟨_, _, _, _, _, _, _, _, _, _, recording, _, configured, _, _, _, _, _, _⟩ := s
  cases recording <;> cases configured <;> rfl

theorem vtsPowerOn_eq (s : Stdev) (algorithms : Mask) : vtsPowerOn s algorithms = { s with
        isStreaming := .zero
        streamingPcm := false
        isSeamlessRecording := false
        recognizeStarted := fun i => s.recognizeStarted i || algorithms i
        micControls := controlsAfter s true
        isMicConfigured := true } := by
  unfold vtsPowerOn
  rw [vtsSetMic_eq]
  rfl

theorem sameModels_vtsPowerOff (s : Stdev) : SameModels s (vtsPowerOff s) := by
  rw [vtsPowerOff_eq]
  exact ⟨⟨rfl, rfl, rfl, rfl, rfl⟩, rfl, rfl, rfl⟩

theorem sameModels_vtsSetPower (s : Stdev) (algorithms : Mask) : SameModels s (vtsSetPower s algorithms) := by
  unfold vtsSetPower
  split
  · rw [vtsPowerOn_eq]
    exact ⟨⟨rfl, rfl, rfl, rfl, rfl⟩, rfl, rfl, rfl⟩
  · exact sameModels_vtsPowerOff s

theorem sameModels_powerCycle (s : Stdev) : SameModels s (powerCycle s) :=
  (sameModels_vtsPowerOff s).trans (sameModels_vtsSetPower _ _)

theorem vtsPowerOff_isStreaming (s : Stdev) : (vtsPowerOff s).isStreaming = .zero := by
  rw [vtsPowerOff_eq]

theorem vtsPowerOff_recognizeStarted (s : Stdev) : (vtsPowerOff s).recognizeStarted = .zero := by
  rw [vtsPowerOff_eq]

theorem vtsSetPower_isStreaming (s : Stdev) (algorithms : Mask) : (vtsSetPower s algorithms).isStreaming = .zero := by
  unfold vtsSetPower
  split
  · rw [vtsPowerOn_eq]
  · exact vtsPowerOff_isStreaming s

theorem vtsSetPower_recognizeStarted (algorithms : Mask) (h : s.recognizeStarted = .zero) :
    (vtsSetPower s algorithms).recognizeStarted = algorithms := by
  unfold vtsSetPower
  split
  · rw [vtsPowerOn_eq]
    funext i
    simp [h, Mask.zero]
  · rename_i hnone
    rw [vtsPowerOff_recognizeStarted]
    exact (Mask.eq_zero_iff.mpr (by simpa using hnone)).symm

theorem powerCycle_isStreaming (s : Stdev) : (powerCycle s).isStreaming = .zero := vtsSetPower_isStreaming _ _

theorem powerCycle_recognizeStarted (s : Stdev) : (powerCycle s).recognizeStarted = s.activeCallbackBitmask :=
  vtsSetPower_recognizeStarted _ (vtsPowerOff_recognizeStarted s)

def Related (R : Mask → Mask → Prop) (s : Stdev) : Prop :=
  s.isStreaming.any = false → R s.recognizeStarted s.activeCallbackBitmask

variable {R : Mask → Mask → Prop}

theorem Related.powerCycle (hR : ∀ m, R m m) (s : Stdev) : Related R (powerCycle s) := by
  intro
  rw [powerCycle_recognizeStarted, (sameModels_powerCycle s).bitmask]
  exact hR _

theorem sameModels_reconfigure (s : Stdev) (i : Model) : SameModels s (reconfigure s i) := by
  unfold reconfigure
  split
  · exact sameModels_powerCycle s
  · exact .refl s

theorem Related.reconfigure (hR : ∀ m, R m m) (s : Stdev) (i : Model) : Related R (reconfigure s i) := by
  unfold SoundTrigger.reconfigure
  split
  · exact Related.powerCycle hR s
  · rename_i htouch
    intro hstrm
    simp [Stdev.mayTouch, hstrm] at htouch

theorem releaseModel_recognitionCallbacks (s : Stdev) (i : Model) :
    (releaseModel s i).recognitionCallbacks = update s.recognitionCallbacks i none := by
  unfold releaseModel
  split
  · rename_i hstopped
    rw [← hstopped.1, Function.update_eq_self]
  · rfl

theorem sameStates_releaseModel (s : Stdev) (i : Model) : SameStates s (releaseModel s i) := by
  unfold releaseModel
  split <;> exact ⟨rfl, rfl, rfl, rfl, rfl⟩

structure StopHandled (s t : Stdev) (i : Model) : Prop where
  recognitionCallbacks : t.recognitionCallbacks =
    if s.aborted i then update s.recognitionCallbacks i none else s.recognitionCallbacks
  modelExecstate : t.modelExecstate = update s.modelExecstate i .none
  modelStopfailedhandles : t.modelStopfailedhandles = update s.modelStopfailedhandles i false
  callbackThreadActive : t.callbackThreadActive = s.callbackThreadActive
  voicecallStarted : t.voicecallStarted = s.voicecallStarted
  delivered : t.delivered = s.delivered

theorem stopHandled (s : Stdev) (i : Model) : StopHandled s (handleStopModel s i) i := by
  unfold handleStopModel
  split
  · rename_i haborted
    have hsame := sameModels_reconfigure (releaseModel s i) i
    have hkept := sameStates_releaseModel s i
    constructor
    · rw [if_pos haborted]
      exact hsame.recognitionCallbacks.trans (releaseModel_recognitionCallbacks s i)
    · exact congrArg (update · i _) (hsame.modelExecstate.trans hkept.modelExecstate)
    · exact congrArg (update · i _) (hsame.modelStopfailedhandles.trans hkept.modelStopfailedhandles)
    · exact hsame.callbackThreadActive.trans hkept.callbackThreadActive
    · exact hsame.voicecallStarted.trans hkept.voicecallStarted
    · exact hsame.delivered.trans hkept.delivered
  · rename_i haborted
    exact ⟨(if_neg haborted).symm, rfl, rfl, rfl, rfl, rfl⟩

theorem Related.handleStopModel (hR : ∀ m, R m m) (h : Related R s) (i : Model) : Related R (handleStopModel s i) := by
  unfold SoundTrigger.handleStopModel
  split
  · exact Related.reconfigure hR (releaseModel s i) i
  · exact h

theorem Related.handleStopRecognition (hR : ∀ m, R m m) (h : Related R s) : Related R (handleStopRecognition s) :=
  (h.handleStopModel hR .hotword).handleStopModel hR .svoice

theorem handleStopRecognition_recognitionCallbacks (s : Stdev) (j : Model) :
    (handleStopRecognition s).recognitionCallbacks j = if s.aborted j then none else s.recognitionCallbacks j := by
  have hfst := stopHandled s .hotword
  have hsnd := stopHandled (handleStopModel s .hotword) .svoice
  have haborted : (handleStopModel s .hotword).aborted .svoice = s.aborted .svoice := by
    simp [Stdev.aborted, hfst.modelExecstate, hfst.modelStopfailedhandles]
  rw [handleStopRecognition, hsnd.recognitionCallbacks, haborted, hfst.recognitionCallbacks]
  cases j with
  | hotword => cases s.aborted .hotword <;> cases s.aborted .svoice <;> simp
  | svoice => cases s.aborted .hotword <;> cases s.aborted .svoice <;> simp

theorem sameStates_handleStopRecognition (s : Stdev) :
    (handleStopRecognition s).callbackThreadActive = s.callbackThreadActive ∧
      (handleStopRecognition s).voicecallStarted = s.voicecallStarted ∧
      (handleStopRecognition s).delivered = s.delivered := by
  have hfst := stopHandled s .hotword
  have hsnd := stopHandled (handleStopModel s .hotword) .svoice
  exact ⟨hsnd.callbackThreadActive.trans hfst.callbackThreadActive,
    hsnd.voicecallStarted.trans hfst.voicecallStarted, hsnd.delivered.trans hfst.delivered⟩

end ExynosHal.SoundTrigger
