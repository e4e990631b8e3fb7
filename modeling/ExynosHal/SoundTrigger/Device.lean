import Mathlib.Logic.Function.Basic
import ExynosHal.Library.Run

/-! # The sound trigger device

`sound_trigger_hw.c` with each entry point that takes `stdev->lock`, and each iteration of
`callback_thread_loop`, as one step. Mixer writes and the creation of sockets and of the
thread succeed; what else the outside answers comes with the step. The values written to
the mixer for the models, the sockets and the notification of the audio HAL do not come
back into the state and are left out.
-/

namespace ExynosHal.SoundTrigger
open Function (update)

/-- `HOTWORD_INDEX` and `SVOICE_INDEX`. -/
inductive Model where
  | hotword | svoice
  deriving DecidableEq

abbrev Mask := Model → Bool

def Mask.zero : Mask := fun _ => false

def Mask.any (m : Mask) : Bool := m .hotword || m .svoice

def Mask.single (i : Model) : Mask := fun j => j = i

inductive Execstate where
  | none | running | stopAbort
  deriving DecidableEq

inductive Mic where
  | main | headset
  deriving DecidableEq

structure Config where
  captureRequested : Bool
  deriving DecidableEq

structure Delivery where
  model : Model
  callback : Nat
  generic : Bool
  deriving DecidableEq

/-- `struct sound_trigger_device`. A handle of a model is its index or none, a callback is the address of the
function. `micControls` tells which controls are enabled in the mixer, `delivered` which callbacks have been
called so far. -/
structure Stdev where
  modelHandles : Model → Bool
  isGeneric : Mask
  recognitionCallbacks : Model → Option Nat
  configs : Model → Option Config
  modelExecstate : Model → Execstate
  modelStopfailedhandles : Model → Bool
  recognizeStarted : Mask
  isStreaming : Mask
  isSeamlessRecording : Bool
  streamingPcm : Bool
  isRecording : Bool
  recordingPcm : Bool
  isMicConfigured : Bool
  activeMic : Mic
  micControls : Mic → Bool
  voicecallStarted : Bool
  callbackThreadActive : Bool
  recoveryCnt : Nat
  delivered : List Delivery

def opened : Stdev := {
    modelHandles := fun _ => false, isGeneric := .zero, recognitionCallbacks := fun _ => none,
    configs := fun _ => none, modelExecstate := fun _ => .none, modelStopfailedhandles := fun _ => false,
    recognizeStarted := .zero, isStreaming := .zero, isSeamlessRecording := false, streamingPcm := false,
    isRecording := false, recordingPcm := false, isMicConfigured := false, activeMic := .main,
    micControls := fun _ => false, voicecallStarted := false, callbackThreadActive := false, recoveryCnt := 0,
    delivered := [] }

def efault : Int := -14
def ebusy : Int := -16
def einval : Int := -22
def enomem : Int := -12
def enosys : Int := -38

def vtsSetMic (s : Stdev) (enableMic : Bool) : Stdev :=
  if enableMic then
    if s.isMicConfigured then s
    else { s with micControls := update s.micControls s.activeMic true, isMicConfigured := true }
  else
    if s.isMicConfigured then
      { s with micControls := update s.micControls s.activeMic false, isMicConfigured := false }
    else s

def endStreaming (s : Stdev) : Stdev :=
  { s with isStreaming := .zero, streamingPcm := false, isSeamlessRecording := false }

def vtsPowerOn (s : Stdev) (algorithms : Mask) : Stdev :=
  let s := vtsSetMic (endStreaming s) true
  { s with recognizeStarted := fun i => s.recognizeStarted i || algorithms i }

def vtsPowerOff (s : Stdev) : Stdev :=
  let s := { endStreaming s with recognizeStarted := .zero }
  if s.isRecording then s else vtsSetMic s false

def vtsSetPower (s : Stdev) (algorithms : Mask) : Stdev :=
  if algorithms.any then vtsPowerOn s algorithms else vtsPowerOff s

def Stdev.activeCallbackBitmask (s : Stdev) : Mask :=
  fun i => (s.recognitionCallbacks i).isSome

def powerCycle (s : Stdev) : Stdev := vtsSetPower (vtsPowerOff s) s.activeCallbackBitmask

def startCallbackThread (s : Stdev) : Stdev :=
  if s.callbackThreadActive then s else { s with callbackThreadActive := true, recoveryCnt := 0 }

def threadExit (s : Stdev) : Stdev :=
  { (if s.isStreaming.any then s else vtsPowerOff s) with callbackThreadActive := false }

def joinCallbackThread (s : Stdev) : Stdev := vtsPowerOff (if s.callbackThreadActive then threadExit s else s)

def Stdev.aborted (s : Stdev) (i : Model) : Bool := s.modelExecstate i = .stopAbort ∧ s.modelStopfailedhandles i

def Stdev.anyStopFailed (s : Stdev) : Bool := s.modelStopfailedhandles .hotword || s.modelStopfailedhandles .svoice

def Stdev.mayTouch (s : Stdev) (i : Model) : Bool := !s.isStreaming.any || s.isStreaming i

def clearModel (s : Stdev) (i : Model) : Stdev := { s with
    configs := update s.configs i none
    recognitionCallbacks := update s.recognitionCallbacks i none }

def releaseModel (s : Stdev) (i : Model) : Stdev :=
  if s.recognitionCallbacks i = none ∧ !s.isStreaming i then s else clearModel s i

def reconfigure (s : Stdev) (i : Model) : Stdev :=
  if s.mayTouch i then powerCycle s else s

def setExecstate (s : Stdev) (i : Model) (execstate : Execstate) (failed : Bool) : Stdev := { s with
    modelExecstate := update s.modelExecstate i execstate
    modelStopfailedhandles := update s.modelStopfailedhandles i failed }

def handleStopModel (s : Stdev) (i : Model) : Stdev :=
  setExecstate (if s.aborted i then reconfigure (releaseModel s i) i else s) i .none false

def handleStopRecognition (s : Stdev) : Stdev := handleStopModel (handleStopModel s .hotword) .svoice

/-- What is found in a string of a uevent: `VOICE_WAKEUP_WORD_ID=1`, `=LPSD` or `=2`. -/
inductive Word where
  | one | lpsd | two
  deriving DecidableEq

def Word.model : Word → Model
  | .one | .lpsd => .svoice
  | .two => .hotword

/-- A wake-up, whether its event could be allocated, and the handles of the calls of `stop_recognition` that find
the callback running. -/
structure WakeUp where
  word : Word
  allocated : Bool
  stops : List Int
  deriving DecidableEq

def Model.ofHandle (handle : Int) : Option Model :=
  if handle = 0 then some .hotword else if handle = 1 then some .svoice else none

def Stdev.loaded (s : Stdev) (handle : Int) : Option Model := (Model.ofHandle handle).filter s.modelHandles

def stopDuringCallback (s : Stdev) (handle : Int) : Stdev :=
  if s.voicecallStarted then s
  else
    match s.loaded handle with
    | some i => setExecstate s i .stopAbort true
    | none => s

def logDelivery (s : Stdev) (i : Model) (callback : Nat) : Stdev :=
  { s with delivered := s.delivered ++ [{ model := i, callback, generic := s.isGeneric i }] }

def setCallback (s : Stdev) (i : Model) (callback : Option Nat) : Stdev :=
  { s with recognitionCallbacks := update s.recognitionCallbacks i callback }

def deliver (s : Stdev) (i : Model) (callback : Nat) (stops : List Int) : Stdev :=
  setCallback (stops.foldl stopDuringCallback (logDelivery s i callback)) i none

def callBack (s : Stdev) (w : WakeUp) : Stdev :=
  match s.recognitionCallbacks w.word.model with
  | some callback =>
    if s.modelExecstate w.word.model = .running then deliver s w.word.model callback w.stops else s
  | none => s

def Stdev.captures (s : Stdev) (i : Model) : Bool :=
  s.modelExecstate i = .running ∧ (s.configs i).any Config.captureRequested

def recover (s : Stdev) (i : Model) : Stdev :=
  if s.anyStopFailed ∨ s.modelExecstate i = .stopAbort then
    { handleStopRecognition s with
      modelExecstate := update (handleStopRecognition s).modelExecstate i .none }
  else s

/-- The VTS is power cycled for the models that are still waited on; without one the loop is left. -/
def restartOrLeave (s : Stdev) : Stdev × Bool :=
  if s.activeCallbackBitmask.any then (powerCycle s, false) else (s, true)

def afterCallBack (s : Stdev) (i : Model) : Stdev × Bool :=
  if s.captures i then ({ s with isStreaming := .single i }, true) else restartOrLeave (recover s i)

def wakeUp (s : Stdev) (w : WakeUp) : Stdev × Bool :=
  if w.allocated then afterCallBack (callBack s w) w.word.model else (s, true)

def wakeUps (s : Stdev) : List WakeUp → Stdev × Bool
  | [] => (s, false)
  | w :: ws => if (wakeUp s w).2 then ((wakeUp s w).1, true) else wakeUps (wakeUp s w).1 ws

/-- How `poll` returns. The termination message comes only with `stdev_join_callback_thread`. -/
inductive Poll where
  | error
  | uevent (strings : List WakeUp)
  | nothing
  | socketError
  deriving DecidableEq

def threadIteration (s : Stdev) : Poll → Stdev
  | .error => threadExit s
  | .uevent strings =>
    if (wakeUps s strings).2 then threadExit (wakeUps s strings).1 else (wakeUps s strings).1
  | .nothing => s
  | .socketError =>
    if 1 < s.recoveryCnt + 1 then threadExit { s with recoveryCnt := s.recoveryCnt + 1 }
    else { s with recoveryCnt := s.recoveryCnt + 1 }

inductive ModelType where
  | keyphrase | generic | other
  deriving DecidableEq

inductive VendorUuid where
  | bixby | hotword | other
  deriving DecidableEq

def VendorUuid.model : VendorUuid → Option Model
  | .bixby => some .svoice
  | .hotword => some .hotword
  | .other => none

def sizeofSoundModel : Nat := 44

structure SoundModel where
  dataSize : Nat
  dataOffset : Nat
  type : ModelType
  vendorUuid : VendorUuid
  deriving DecidableEq

/-- `stdev_load_sound_model` for a model whose type and UUID are known; `written` is the return value of
`vts_load_sound_model`. -/
def loadModel (s : Stdev) (i : Model) (generic : Bool) (written : Int) : Stdev × Int :=
  if s.modelHandles i then ({ s with isGeneric := update s.isGeneric i generic }, enosys)
  else if written ≠ 0 then ({ s with isGeneric := update s.isGeneric i generic }, written)
  else
    ({ s with
      isGeneric := update s.isGeneric i generic
      modelHandles := update s.modelHandles i true }, 0)

def loadSoundModel (s : Stdev) (handleNull : Bool) (soundModel : Option SoundModel) (written : Int) : Stdev × Int :=
  match soundModel with
  | none => (s, einval)
  | some m =>
    if handleNull ∨ m.dataSize = 0 ∨ m.dataOffset < sizeofSoundModel then (s, einval)
    else
      match m.type, m.vendorUuid.model with
      | .keyphrase, some i => loadModel s i false written
      | .generic, some i => loadModel s i true written
      | _, _ => (s, einval)

def stopVts (s : Stdev) (i : Model) : Stdev :=
  if s.mayTouch i then
    if s.activeCallbackBitmask.any then powerCycle s else joinCallbackThread s
  else s

def stopRecognitionL (s : Stdev) (handle : Int) : Stdev × Int :=
  if s.voicecallStarted then (s, 0)
  else
    match s.loaded handle with
    | none => (s, enosys)
    | some i =>
      if s.recognitionCallbacks i = none ∧ !s.isStreaming i then (s, enosys)
      else (setExecstate (stopVts (clearModel s i) i) i .none false, 0)

def stopBeforeUnload (s : Stdev) (handle : Int) (i : Model) : Stdev × Int :=
  if s.recognitionCallbacks i ≠ none ∨ s.isStreaming i then stopRecognitionL s handle else (s, 0)

def unloadSoundModel (s : Stdev) (handle : Int) : Stdev × Int :=
  match Model.ofHandle handle with
  | none => (s, einval)
  | some i =>
    if s.modelHandles i then
      ({ (stopBeforeUnload s handle i).1 with
        modelHandles := update (stopBeforeUnload s handle i).1.modelHandles i false },
        (stopBeforeUnload s handle i).2)
    else (s, enosys)

def beginRecognition (s : Stdev) (i : Model) (callback : Option Nat) : Stdev :=
  setExecstate (reconfigure (setCallback (startCallbackThread s) i callback) i) i .running false

def beforeStart (s : Stdev) (i : Model) : Stdev :=
  if s.recognitionCallbacks i ≠ none ∧ s.anyStopFailed then handleStopRecognition s else s

def startModel (s : Stdev) (i : Model) (config : Option Config) (callback : Option Nat) (allocated : Bool) :
    Stdev × Int :=
  if s.voicecallStarted then (s, ebusy)
  else
    match config with
    | none => (beginRecognition s i callback, 0)
    | some c =>
      if allocated then (beginRecognition { s with configs := update s.configs i (some c) } i callback, 0)
      else ({ s with configs := update s.configs i none }, enomem)

def startRecognition (s : Stdev) (handle : Int) (config : Option Config) (callback : Option Nat) (allocated : Bool) :
    Stdev × Int :=
  match s.loaded handle with
  | none => (s, enosys)
  | some i => startModel (beforeStart s i) i config callback allocated

inductive PcmOpen where
  | null | notReady | ready
  deriving DecidableEq

def openForStreaming (s : Stdev) (pcm : PcmOpen) : Stdev × Int :=
  if s.voicecallStarted ∨ !s.isStreaming.any ∨ s.isSeamlessRecording then (s, ebusy)
  else
    match pcm with
    | .notReady => ({ s with streamingPcm := true }, efault)
    | .null => ({ s with streamingPcm := false, isSeamlessRecording := true }, 1)
    | .ready => ({ s with streamingPcm := true, isSeamlessRecording := true }, 1)

def closeStreamingPcm (s : Stdev) : Stdev := { s with streamingPcm := false, isSeamlessRecording := false }

def closeForStreaming (s : Stdev) (audioHandle : Int) : Stdev × Int :=
  if audioHandle ≤ 0 then (s, einval)
  else if s.voicecallStarted then (s, ebusy)
  else if !s.isSeamlessRecording ∨ !s.isStreaming.any then (s, einval)
  else if s.activeCallbackBitmask.any then
    (vtsSetPower (startCallbackThread (vtsPowerOff (closeStreamingPcm s))) s.activeCallbackBitmask, 0)
  else (vtsPowerOff (closeStreamingPcm s), 0)

def releaseMic (s : Stdev) : Stdev :=
  if !s.activeCallbackBitmask.any ∧ !s.isStreaming.any then vtsSetMic s false else s

def endRecording (s : Stdev) : Stdev := { releaseMic { s with recordingPcm := false } with isRecording := false }

def closeOldRecording (s : Stdev) : Stdev :=
  if s.isRecording then endRecording s else s

def startRecordingPcm (s : Stdev) : PcmOpen → Stdev × Int
  | .notReady => ({ s with recordingPcm := true }, efault)
  | .null => ({ s with recordingPcm := false, isRecording := true }, 1)
  | .ready => ({ s with recordingPcm := true, isRecording := true }, 1)

def openRecording (s : Stdev) (pcm : PcmOpen) : Stdev × Int :=
  if s.voicecallStarted then (s, ebusy) else startRecordingPcm (vtsSetMic (closeOldRecording s) true) pcm

def recoverStops (s : Stdev) : Stdev :=
  if s.anyStopFailed then handleStopRecognition s else s

def closeRecording (s : Stdev) : Stdev × Int :=
  if s.voicecallStarted then (s, ebusy)
  else if (recoverStops s).isRecording then (endRecording (recoverStops s), 0)
  else (recoverStops s, einval)

def micOf (isConnected : Bool) : Mic :=
  if isConnected then .headset else .main

def closePcms (s : Stdev) : Stdev := { s with
    recordingPcm := if s.isRecording then false else s.recordingPcm
    isRecording := false
    streamingPcm := if s.isStreaming.any then false else s.streamingPcm
    isSeamlessRecording := if s.isStreaming.any then false else s.isSeamlessRecording }

def restartModels (s : Stdev) (active streaming : Mask) (seamless : Bool) : Stdev :=
  if active.any ∨ streaming.any then
    { vtsSetPower s (fun i => active i || streaming i) with isStreaming := streaming, isSeamlessRecording := seamless }
  else s

/-- Where the controls and the PCM node of a recording are set up again; whether it failed. -/
def restartRecording (s : Stdev) (pcm : PcmOpen) : Stdev × Bool :=
  if s.isRecording then
    if s.recordingPcm then (vtsSetMic s true, false)
    else ({ vtsSetMic s true with recordingPcm := pcm ≠ .null }, pcm = .notReady)
  else (s, false)

def restartStreaming (s : Stdev) (pcm : PcmOpen) : Stdev × Int :=
  if s.isStreaming.any ∧ s.isSeamlessRecording ∧ !s.streamingPcm then
    if pcm = .notReady then ({ s with streamingPcm := true, recordingPcm := false }, efault)
    else ({ s with streamingPcm := pcm ≠ .null }, 0)
  else (s, 0)

def changeMic (s : Stdev) (isConnected : Bool) : Stdev :=
  restartModels { vtsPowerOff (closePcms s) with activeMic := micOf isConnected, isRecording := s.isRecording }
    s.activeCallbackBitmask s.isStreaming s.isSeamlessRecording

def restartPcms (s : Stdev) (recording streaming : PcmOpen) : Stdev × Int :=
  if (restartRecording s recording).2 then ((restartRecording s recording).1, efault)
  else restartStreaming (restartRecording s recording).1 streaming

def headsetStatus (s : Stdev) (isConnected : Bool) (recording streaming : PcmOpen) : Stdev × Int :=
  if s.isMicConfigured then restartPcms (changeMic s isConnected) recording streaming
  else ({ s with activeMic := micOf isConnected }, 0)

def stopForCall (s : Stdev) : Stdev :=
  { vtsPowerOff { closePcms s with isStreaming := if s.isStreaming.any then .zero else s.isStreaming } with
      recognitionCallbacks := fun _ => none }

def voicecallStatus (s : Stdev) (started : Bool) : Stdev :=
  if started then { (if s.isMicConfigured then stopForCall s else s) with voicecallStarted := true }
  else { s with voicecallStarted := false }

inductive RecordState where
  | stop | start | other
  deriving DecidableEq

def notifyAhalRecordStatus (s : Stdev) (state : RecordState) : Stdev × Int :=
  match state with
  | .stop => (s, 0)
  | .start => (if s.isMicConfigured then vtsPowerOff s else s, 0)
  | .other => (s, -1)

inductive Action where
  | load (handleNull : Bool) (soundModel : Option SoundModel) (written : Int)
  | unload (handle : Int)
  | startRecognition (handle : Int) (config : Option Config) (callback : Option Nat) (allocated : Bool)
  | stopRecognition (handle : Int)
  | stopGivenUp (handle : Int)
  | openForStreaming (pcm : PcmOpen)
  | closeForStreaming (audioHandle : Int)
  | openRecording (pcm : PcmOpen)
  | closeRecording
  | headsetStatus (isConnected : Bool) (recording streaming : PcmOpen)
  | voicecallStatus (started : Bool)
  | notifyAhalRecordStatus (state : RecordState)
  | thread (poll : Poll)

/-- `stdev_stop_recognition` gives up after a hundred tries to get the lock, without a look at the handle: one out
of range is written past the arrays. The thread takes steps while it is active. -/
def step (s : Stdev) : Action → Option Stdev
  | .load handleNull soundModel written => some (loadSoundModel s handleNull soundModel written).1
  | .unload handle => some (unloadSoundModel s handle).1
  | .startRecognition handle config callback allocated =>
    some (startRecognition s handle config callback allocated).1
  | .stopRecognition handle => some (stopRecognitionL s handle).1
  | .stopGivenUp handle => (Model.ofHandle handle).map fun i => setExecstate s i .stopAbort true
  | .openForStreaming pcm => some (openForStreaming s pcm).1
  | .closeForStreaming audioHandle => some (closeForStreaming s audioHandle).1
  | .openRecording pcm => some (openRecording s pcm).1
  | .closeRecording => some (closeRecording s).1
  | .headsetStatus isConnected recording streaming => some (headsetStatus s isConnected recording streaming).1
  | .voicecallStatus started => some (voicecallStatus s started)
  | .notifyAhalRecordStatus state => some (notifyAhalRecordStatus s state).1
  | .thread poll => if s.callbackThreadActive then some (threadIteration s poll) else none

end ExynosHal.SoundTrigger
