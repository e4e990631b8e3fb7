import ExynosHal.Audio.Streams

/-! # Opening, closing and the parameters of the device

The remaining entry points, and the step function over all of them. A call with several
parameters is the calls with each of them, in the order in which the handlers look for
their keys.
-/

namespace ExynosHal.Audio
open Function (update)

/-- The type and usage of an output stream, `none` for flags that are not supported. A direct stream of no
known kind is given no type. -/
def outputKind (b : Build) (flags : Flags) (devices : Devices) : Option (StreamType × Usage) :=
  if flags = 0 then
    some (if devices = outAuxDigital then .playbackAuxDigital else .playbackNoAttribute, .media)
  else if hasAny flags outputFlagDirect then
    if hasAny flags outputFlagCompressOffload ∧ hasAny flags outputFlagNonBlocking then
      some (.playbackComprOffload, .media)
    else if hasAny flags outputFlagMmapNoirq then some (.playbackMmap, .media)
    else if b.directMultiChannelStream then some (.playbackDirect, .media)
    else some (.none, .none)
  else if hasAny flags outputFlagPrimary then some (.playbackPrimary, .media)
  else if hasAny flags outputFlagFast then
    some (if hasAny flags outputFlagRaw then .playbackLowLatency else .playbackFast, .media)
  else if hasAny flags outputFlagDeepBuffer then some (.playbackDeepBuffer, .media)
  else if hasAny flags outputFlagIncallMusic then some (.playbackIncallMusic, .incallMusic)
  else none

namespace State

variable (b : Build) (env : Env) (s : State)

/-- The pointers and the voice manager that opening a stream of a type sets up; `none` if there is a primary
output already. -/
def claimOutput (a : Addr) : StreamType → Option State
  | .playbackComprOffload =>
    some (if s.compressOutput.isNone then { s with compressOutput := some a } else s)
  | .playbackPrimary =>
    if s.primaryOutput.isNone then some { s with primaryOutput := some a } else none
  | .playbackFast => some (if s.fastOutput.isNone then { s with fastOutput := some a } else s)
  | _ => some s

/-- `voice_init`, for every primary stream that finds no voice manager. -/
def initVoice (type : StreamType) : State :=
  if type = .playbackPrimary ∧ s.voice.isNone then
    { s with voice := some { callStatus := if env.rilOpenOk then .connected else .invalid } }
  else s

def unclaimOutput : StreamType → State
  | .playbackPrimary => { s with primaryOutput := none }
  | .playbackFast => { s with fastOutput := none }
  | _ => s

/-- `adev_open_output_stream`; `a` is the address the allocator gives. -/
def openOutput (a : Addr) (devices : Devices) (flags : Flags) : Option State :=
  if (s.outs a).isSome then none
  else
    match outputKind b flags devices with
    | none => some s
    | some (type, usage) =>
      let s := s.initVoice env type
      match s.claimOutput a type with
      | none => some s
      | some claimed =>
        if env.createOk then
          some { claimed with
            outs := update claimed.outs a (some
              { requestedDevices := devices, streamType := type, streamUsage := usage })
            playbackList := claimed.playbackList ++ [a] }
        else some (claimed.unclaimOutput type)

def forget (p : Option Addr) (a : Addr) : Option Addr :=
  if p = some a then none else p

/-- `adev_close_output_stream`. -/
def closeOutput (a : Addr) : Option State := do
  let s ← s.outStandby b env a
  let out ← s.outs a
  return { s with
    playbackList := s.playbackList.filter (· ≠ a)
    primaryOutput := forget s.primaryOutput a
    fastOutput := forget s.fastOutput a
    compressOutput := forget s.compressOutput a
    incallmusicOn := s.incallmusicOn && out.streamType != .playbackIncallMusic
    outs := update s.outs a none }

/-- `adev_open_input_stream` in a call takes the fast flag away for other rates than 48000. -/
def inputFlags (flags : Flags) (sampleRate : Nat) : Flags :=
  if hasAny flags inputFlagFast ∧ s.isCallMode ∧ sampleRate ≠ 48000 then
    flags &&& ~~~inputFlagFast ||| inputFlagVoipTx
  else flags

def callRecordingUsage : Source → Usage
  | .voiceUplink => .incallUplink
  | .voiceDownlink => .incallDownlink
  | _ => .incallUplinkDownlink

def recordingUsage : Source → Usage
  | .camcorder => .camcorder
  | .voiceRecognition => .recognition
  | _ => .recording

def putInput (a : Addr) (input : StreamIn) (type : StreamType) (usage : Usage) : State :=
  { s with ins := update s.ins a (some { input with streamType := type, streamUsage := usage }) }

/-- A stream without flags: call recording, FM radio or normal recording. FM radio and the camcorder are routed
at once. -/
def openRecording (a : Addr) (input : StreamIn) : Option State :=
  let source := input.requestedSource
  if s.isCPCallMode ∧ env.isUsageCPCall s.capture.active.usage ∧ source.isCallRecording then
    some (s.putInput a input .captureCall (callRecordingUsage source))
  else if source = .fmTuner ∧ input.requestedDevices = inFmTuner then
    ({ s with fmState := .on }.putInput a input .captureFmTuner .fmRadioTuner).setRouteCapture b env a true
      .nonForceRoute
  else if input.requestedDevices = inDefault ∧ source = .default then
    some (s.putInput a input .captureNoAttribute .recording)
  else if source = .camcorder then
    (s.putInput a input .capturePrimary .camcorder).setRouteCapture b env a true .nonForceRoute
  else some (s.putInput a input .capturePrimary (recordingUsage source))

/-- The stream put in its place; `some none` for flags that are not supported. -/
def placeInput (a : Addr) (input : StreamIn) (sampleRate : Nat) : Option (Option State) :=
  let flags := s.inputFlags input.requestedFlags sampleRate
  let source := input.requestedSource
  let seamless := source = .hotword ∨ (s.seamlessEnabled ∧ source = .voiceRecognition)
  if b.sthalInterface ∧ (seamless ∨ hasAny flags inputFlagHwHotword ∧ source = .voiceRecognition) then
    some (some (s.putInput a input .captureHotword (if seamless then .hotwordSeamless else .hotwordRecord)))
  else if flags = 0 ∨ hasAny flags inputFlagVoipTx then (s.openRecording b env a input).map some
  else if hasAny flags inputFlagFast then some (some (s.putInput a input .captureLowLatency .media))
  else if hasAny flags inputFlagMmapNoirq ∧ sampleRate = 48000 then some (some (s.putInput a input .captureMmap .media))
  else some none

/-- `adev_open_input_stream`. What has been routed stays so when the proxy stream cannot be created. -/
def openInput (a : Addr) (devices : Devices) (flags : Flags) (source : Source) (sampleRate : Nat) : Option State :=
  if (s.ins a).isSome then none
  else do
    let input : StreamIn := ⟨devices, flags, source, .none, .none, .standby, false, false, true⟩
    let placed ← s.placeInput b env a input sampleRate
    return match placed with
      | none => s
      | some placed =>
        if env.createOk then { placed with captureList := placed.captureList ++ [a] }
        else { placed with ins := update placed.ins a none }

/-- `adev_close_input_stream`. -/
def closeInput (a : Addr) : Option State := do
  let s ← s.inStandby b env a
  return { s with
    captureList := s.captureList.filter (· ≠ a)
    ins := update s.ins a none }

def needsRollback (a : Addr) (out : StreamOut) : Bool :=
  s.voiceVolumeZero && 0 < s.activePlaybackCount a && out.force == .forceRoute &&
    (out.rollbackDevices == outWiredHeadset || out.rollbackDevices == outUsbHeadset)

def rollback (a : Addr) (out : StreamOut) : Option State :=
  (s.modifyOut a fun o => { o with requestedDevices := out.rollbackDevices }).setRoutePlayback b env a true
    .nonForceRoute

/-- Whether another stream than the primary output is active; every stream is another one if there is none. -/
def activeBesidesPrimary : Bool :=
  match s.primaryOutput with
  | some a => 0 < s.activePlaybackCount a
  | none => s.playbackList.any fun p => (s.outs p).any fun out =>
      out.streamType != .playbackAuxDigital && out.streamStatus != .standby

def rollbackFast : Option State :=
  match s.fastOutput with
  | none => some s
  | some a => do
    let out ← s.outs a
    if s.needsRollback a out then s.rollback b env a out else return s

/-- The order of the tests is that of the source: the primary output is followed, NULL or not, once there is an
active stream. -/
def rollbackRoute : Option State :=
  if s.voiceVolumeZero && s.activeBesidesPrimary then do
    let a ← s.primaryOutput
    let out ← s.outs a
    if s.needsRollback a out then s.rollback b env a out else s.rollbackFast b env
  else s.rollbackFast b env

def setVoiceVolume (zero : Bool) : Option State := do
  let s ← (if s.voice.any Voice.isCallMode then some s else s.rollbackRoute b env)
  return { s with voiceVolumeZero := zero }

inductive Param where
  | connect (devices : Devices)
  | disconnect (devices : Devices)
  | seamlessVoice (on : Bool)
  | btNrec (on : Bool)
  | btScoWb (on : Bool)
  | ttyMode (mode : TtyMode)
  | hac (on : Bool)
  | factoryType (mode : LoopbackMode)
  | factoryLoopback (on : Bool)
  | factoryPath (outDevice inDevice : Devices)
  | factoryRoute (device : Option Devices) (off : Bool)
  | factoryRms (value : Option Bool) (inDevice : Option Devices)
  | fmRadioMode (on : Bool)
  | fmRadioVolume (on : Bool)
  deriving DecidableEq

def routeByStatus (force : Force) : Option State :=
  match s.primaryOutput with
  | none => some s
  | some a => do
    let out ← s.outs a
    s.setRoutePlayback b env a (out.streamStatus != .standby) force

def setFactory (factory : Factory) (voiceRunning : Bool) : State := { s with factory, voiceRunning }

def endLoopback : Option State := do
  let realtime := s.factory.loopbackMode == .realtime
  let factory := { s.factory with mode := .none, outDevice := 0, inDevice := 0, loopbackMode := .off }
  let s ← (s.setFactory factory (s.voiceRunning && realtime)).routeByStatus b env .callDrive
  let v ← s.voice
  return { s with voice := some (v.setCallMode env false) }

def drivePrimary : Option State :=
  match s.primaryOutput with
  | some a => s.setRoutePlayback b env a true .callDrive
  | none => some s

def setFactoryPath (outDevice inDevice : Devices) : Option State := do
  let s ← (s.setFactory { s.factory with outDevice, inDevice } false).drivePrimary b env
  return { s with voiceRunning := s.factory.loopbackMode != .realtime }

/-- `factory_test_route`: a device, no change for an unknown value, or `off`. -/
def setFactoryRoute (device : Option Devices) (off : Bool) : Option State :=
  let mode := if s.factory.rmsTestEnable then s.factory.mode else .forceRoute
  let factory :=
    if off then { s.factory with mode := .none, outDevice := 0 }
    else { s.factory with mode, outDevice := device.getD s.factory.outDevice }
  (s.setFactory factory s.voiceRunning).routeByStatus b env .forceRoute

/-- `factory_test_mic_check`: `on`, `off` or a microphone. The active input is routed for all but `on`. -/
def setFactoryRms (value : Option Bool) (inDevice : Option Devices) : Option State :=
  let factory := match value with
    | some true => { s.factory with mode := .rms, rmsTestEnable := true }
    | some false => { s.factory with mode := .none, inDevice := 0, rmsTestEnable := false }
    | none => { s.factory with inDevice := inDevice.getD s.factory.inDevice }
  let s := s.setFactory factory s.voiceRunning
  match s.activeInput with
  | none => some s
  | some a => do
    let input ← s.ins a
    if !hasAny input.requestedFlags inputFlagHwHotword && value != some true then
      s.setRouteCapture b env a true .nonForceRoute
    else return s

def setFmRadioVolume (on : Bool) : Option State := do
  if on then s.setRoutePlayback b env (← s.primaryOutput) true .nonForceRoute
  else if s.isActiveUsageAPCall env || s.voice.any Voice.isCallActive then return s
  else
    let a ← s.primaryOutput
    let out ← s.outs a
    if out.streamStatus = .standby then s.setRoutePlayback b env a false .nonForceRoute else return s

/-- `adev_set_parameters`. The voice and factory managers look at nothing before the first primary stream. -/
def setParameters : Param → Option State
  | .connect devices =>
    if devices > bitIn then some { s with actualCaptureDevice := devices }
    else some { s with actualPlaybackDevice := devices, previousPlaybackDevice := s.actualPlaybackDevice }
  | .disconnect devices =>
    if devices > bitIn then some { s with actualCaptureDevice := 0 }
    else some { s with actualPlaybackDevice := s.previousPlaybackDevice, previousPlaybackDevice := devices }
  | .seamlessVoice on => some { s with seamlessEnabled := on }
  | .btNrec on => some { s with voice := s.voice.map fun v => { v with bluetoothNrec := if on then 1 else 0 } }
  | .btScoWb on => some { s with voice := s.voice.map fun v =>
      { v with bluetoothSamplerate := if on then wbSamplingRate else nbSamplingRate } }
  | .ttyMode mode => some { s with voice := s.voice.map fun v => { v with ttyMode := mode } }
  | .hac on => some { s with voice := s.voice.map fun v => { v with hacOn := on } }
  | .factoryType mode =>
    if s.voice.isNone then some s else some { s with factory := { s.factory with loopbackMode := mode } }
  | .factoryLoopback on =>
    if s.voice.isNone then some s
    else if on then some { s with factory := { s.factory with mode := .loopback } }
    else s.endLoopback b env
  | .factoryPath outDevice inDevice =>
    if s.voice.isNone then some s else s.setFactoryPath b env outDevice inDevice
  | .factoryRoute device off => if s.voice.isNone then some s else s.setFactoryRoute b env device off
  | .factoryRms value inDevice => if s.voice.isNone then some s else s.setFactoryRms b env value inDevice
  | .fmRadioMode on => if on then some s else some { s with fmState := .off }
  | .fmRadioVolume on => s.setFmRadioVolume b env on

end State

/-- An entry point with its arguments. The last three are changes from outside: the band of a call reported by
the RIL and the flags that only customer code sets. -/
inductive Op where
  | openOutput (a : Addr) (devices : Devices) (flags : Flags)
  | closeOutput (a : Addr)
  | openInput (a : Addr) (devices : Devices) (flags : Flags) (source : Source) (sampleRate : Nat)
  | closeInput (a : Addr)
  | outWrite (a : Addr) (data : Bool)
  | outStandby (a : Addr)
  | outSetRouting (a : Addr) (devices : Devices) (volume : Option Bool)
  | outPause (a : Addr)
  | outResume (a : Addr)
  | outFlush (a : Addr)
  | outDrain (a : Addr)
  | outStart (a : Addr)
  | outStop (a : Addr)
  | outCreateMmapBuffer (a : Addr) (valid : Bool)
  | inRead (a : Addr) (data : Bool)
  | inStandby (a : Addr)
  | inSetRouting (a : Addr) (devices : Devices)
  | inSetSource (a : Addr) (source : Source)
  | inStart (a : Addr)
  | inStop (a : Addr)
  | inCreateMmapBuffer (a : Addr) (valid : Bool)
  | setMode (mode : Mode)
  | setVoiceVolume (zero : Bool)
  | setParameters (param : State.Param)
  | setCallForwarding
  | rilBand (band : Nat)
  | setVoiceFlags (realcall csvtcall callForwarding voipWificalling : Bool) (volteStatus : VolteStatus)
      (vowifiBand : Nat)
  | setFlags (supportReciever fmViaA2dp : Bool) (fmState : FmState)
  deriving DecidableEq

def step (b : Build) (s : State) : Op × Env → Option State
  | (.openOutput a devices flags, env) => s.openOutput b env a devices flags
  | (.closeOutput a, env) => s.closeOutput b env a
  | (.openInput a devices flags source sampleRate, env) => s.openInput b env a devices flags source sampleRate
  | (.closeInput a, env) => s.closeInput b env a
  | (.outWrite a data, env) => s.outWrite b env a data
  | (.outStandby a, env) => s.outStandby b env a
  | (.outSetRouting a devices volume, env) => s.outSetRouting b env a devices volume
  | (.outPause a, env) => s.outPause env a
  | (.outResume a, env) => s.outResume env a
  | (.outFlush a, _) => s.outFlush a
  | (.outDrain a, _) => s.outDrain a
  | (.outStart a, env) => s.outStart env a
  | (.outStop a, _) => s.outStop a
  | (.outCreateMmapBuffer a valid, env) => s.outCreateMmapBuffer b env a valid
  | (.inRead a data, env) => s.inRead b env a data
  | (.inStandby a, env) => s.inStandby b env a
  | (.inSetRouting a devices, env) => s.inSetRouting b env a devices
  | (.inSetSource a source, _) => s.inSetSource b a source
  | (.inStart a, env) => s.inStart env a
  | (.inStop a, _) => s.inStop a
  | (.inCreateMmapBuffer a valid, env) => s.inCreateMmapBuffer b env a valid
  | (.setMode mode, env) => s.setMode b env mode
  | (.setVoiceVolume zero, env) => s.setVoiceVolume b env zero
  | (.setParameters param, env) => s.setParameters b env param
  | (.setCallForwarding, env) => s.setCallForwarding b env
  | (.rilBand band, _) => some { s with voice := s.voice.map fun v => { v with voiceSamplingrate := band } }
  | (.setVoiceFlags realcall csvtcall callForwarding voipWificalling volteStatus vowifiBand, _) =>
    some { s with voice := s.voice.map fun v =>
      { v with realcall, csvtcall, callForwarding, voipWificalling, volteStatus, vowifiBand } }
  | (.setFlags supportReciever fmViaA2dp fmState, _) => some { s with supportReciever, fmViaA2dp, fmState }

def init : State := {}

def plainBuild : Build := ⟨false, false, false, false⟩

def openPrimary : Op × Env := (.openOutput 0 outSpeaker outputFlagPrimary, .usual)

end ExynosHal.Audio
