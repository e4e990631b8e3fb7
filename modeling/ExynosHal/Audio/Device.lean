import ExynosHal.Audio.Types

/-! # The state of the audio HAL and the choice of usage, device and modifier

`struct audio_device` with its streams, and what `adev_set_route` selects for a stream.
Streams live at addresses until they are freed; following a pointer that is NULL or freed
is undefined, `none`. The library behind the `proxy_` functions is not part of the
sources: what it has been asked for is recorded, what it answers is an argument.
-/

namespace ExynosHal.Audio

abbrev Addr := Nat

/-- `struct stream_out`; `isOpen` is the proxy's device, and `released` says that the owner has put the stream
in standby since it last used it. -/
structure StreamOut where
  requestedDevices : Devices
  streamType : StreamType
  streamUsage : Usage
  streamStatus : Status := .standby
  force : Force := .nonForceRoute
  rollbackDevices : Devices := 0
  isOpen : Bool := false
  released : Bool := true
  deriving DecidableEq

structure StreamIn where
  requestedDevices : Devices
  requestedFlags : Flags
  requestedSource : Source
  streamType : StreamType
  streamUsage : Usage
  streamStatus : Status := .standby
  pcmReconfig : Bool := false
  isOpen : Bool := false
  released : Bool := true

/-- The arguments of `proxy_set_route`. -/
structure Triple where
  usage : Usage := .none
  device : DeviceType := .none
  modifier : Modifier := .none
  deriving DecidableEq

structure RouteCall where
  triple : Triple
  set : Bool
  deriving DecidableEq

/-- What the HAL records about one direction, and the calls of `proxy_set_route` for it, the last one first. -/
structure Path where
  isRouted : Bool := false
  active : Triple := {}
  calls : List RouteCall := []

def Path.route (p : Path) (new : Triple) : Path :=
  if p.isRouted then
    if p.active.usage = new.usage ∧ p.active.device = new.device then { p with active := new }
    else { p with active := new, calls := ⟨new, true⟩ :: p.calls }
  else { isRouted := true, active := new, calls := ⟨new, true⟩ :: p.calls }

def Path.unroute (p : Path) (inUse : Bool) : Path :=
  if p.isRouted then
    if inUse then p else { isRouted := false, active := {}, calls := ⟨p.active, false⟩ :: p.calls }
  else { p with active := {} }

inductive CallStatus where
  | invalid | connected | incallmode | active
  deriving DecidableEq

inductive TtyMode where
  | off | full | vco | hco
  deriving DecidableEq

inductive VolteStatus where
  | off | voice | video
  deriving DecidableEq

/-- `struct voice_manager`, as far as routing and calls depend on it. -/
structure Voice where
  callStatus : CallStatus
  realcall : Bool := false
  csvtcall : Bool := false
  keepCallMode : Bool := false
  bluetoothNrec : Int := -1
  bluetoothSamplerate : Nat := 8000
  ttyMode : TtyMode := .off
  hacOn : Bool := false
  callForwarding : Bool := false
  voiceSamplingrate : Nat := 0
  vowifiBand : Nat := 1
  voipWificalling : Bool := false
  volteStatus : VolteStatus := .off
  deriving DecidableEq

def wbSamplingRate : Nat := 16000
def nbSamplingRate : Nat := 8000

def Voice.isCallMode (v : Voice) : Bool := v.callStatus == .incallmode || v.callStatus == .active

def Voice.isCallActive (v : Voice) : Bool := v.callStatus == .active

inductive FactoryMode where
  | none | forceRoute | loopback | rms
  deriving DecidableEq

inductive LoopbackMode where
  | off | pcm | packet | pcmNodelay | packetNodelay | codec | realtime
  deriving DecidableEq

structure Factory where
  mode : FactoryMode := .none
  loopbackMode : LoopbackMode := .off
  outDevice : Devices := 0
  inDevice : Devices := 0
  rmsTestEnable : Bool := false

/-- `struct audio_device`. `voiceRunning` says whether the last call was `proxy_start_voice_call`; `misused` that
the proxy has been asked to open an open device, or to start, read or write a closed one. -/
structure State where
  outs : Addr → Option StreamOut := fun _ => none
  ins : Addr → Option StreamIn := fun _ => none
  playbackList : List Addr := []
  captureList : List Addr := []
  primaryOutput : Option Addr := none
  fastOutput : Option Addr := none
  compressOutput : Option Addr := none
  activeInput : Option Addr := none
  actualPlaybackDevice : Devices := outSpeaker
  actualCaptureDevice : Devices := inBuiltinMic
  previousPlaybackDevice : Devices := 0
  currentDevices : Devices := 0
  playback : Path := {}
  capture : Path := {}
  voice : Option Voice := none
  voiceVolumeZero : Bool := true
  factory : Factory := {}
  amode : Mode := .normal
  previousAmode : Mode := .normal
  incallmusicOn : Bool := false
  fmState : FmState := .off
  seamlessEnabled : Bool := false
  supportReciever : Bool := false
  fmViaA2dp : Bool := false
  voiceRunning : Bool := false
  misused : Bool := false

/-- What the proxy library and the RIL answer during a call. The active usage is known to the proxy from the routes
it has been asked for, those for playback first. -/
structure Env where
  isActiveUsageCPCall : List RouteCall → List RouteCall → Bool
  isActiveUsageAPCall : List RouteCall → List RouteCall → Bool
  isUsageCPCall : Usage → Bool
  isUsageAPCall : Usage → Bool
  isUsbConnected : Bool := false
  isBtA2dpReady : Bool := false
  createOk : Bool := true
  openOk : Bool := true
  startOk : Bool := true
  pauseOk : Bool := true
  resumeOk : Bool := true
  writeOk : Bool := true
  rilOpenOk : Bool := true

/-- A proxy that goes by the ranges of the usages and by the route in force, and where nothing fails. -/
def Env.usual : Env where
  isActiveUsageCPCall playback _ := playback.head?.any fun call => call.set && call.triple.usage.isCPCall
  isActiveUsageAPCall playback _ := playback.head?.any fun call => call.set && call.triple.usage.isAPCall
  isUsageCPCall := Usage.isCPCall
  isUsageAPCall := Usage.isAPCall

namespace State

variable (b : Build) (s : State)

def isCPCallMode : Bool := s.amode == .inCall
def isAPCallMode : Bool := s.amode == .inCommunication
def isCallMode : Bool := s.isCPCallMode || s.isAPCallMode
def isFactoryMode : Bool := s.factory.mode != .none
def isFMRadioOn : Bool := s.fmState != .off

def isActiveUsageCPCall (env : Env) : Bool := env.isActiveUsageCPCall s.playback.calls s.capture.calls
def isActiveUsageAPCall (env : Env) : Bool := env.isActiveUsageAPCall s.playback.calls s.capture.calls

def primary : Option StreamOut := s.primaryOutput.bind s.outs

/-- The stream behind `active_input`, if there is one; undefined if it has been freed. -/
def activeIn : Option (Option StreamIn) :=
  match s.activeInput with
  | none => some none
  | some a => (s.ins a).map some

def ausageForFactory : Usage :=
  match s.factory.mode with
  | .loopback =>
    match s.factory.loopbackMode with
    | .packet => .loopback
    | .codec => .loopbackCodec
    | .realtime => .loopbackRealtime
    | .packetNodelay => .loopbackNodelay
    | _ => .loopback
  | .rms => .rms
  | _ => .none

def ausageForVolte (v : Voice) : Usage :=
  match v.volteStatus with
  | .voice => if v.voiceSamplingrate = 2 then .volteCallSwb else if v.voiceSamplingrate =
      1 then .volteCallWb else .volteCallNb
  | .video =>
    if v.voiceSamplingrate = 2 then .volteVtCallSwb else if v.voiceSamplingrate =
      1 then .volteVtCallWb else .volteVtCallNb
  | .off => .none

/-- TTY and in-call music are looked at first, but the usage found for them is always overwritten. -/
def ausageForCall : Usage :=
  match s.voice with
  | none => .none
  | some v =>
    if v.volteStatus ≠ .off then ausageForVolte v
    else if v.voiceSamplingrate = 1 then (if v.hacOn then .voiceCallWbHac else .voiceCallWb)
    else (if v.hacOn then .voiceCallNbHac else .voiceCallNb)

def ausageFromInput : Option Usage := do
  let input ← s.activeIn
  return if input.any (fun i => i.requestedSource == .mic) then .voipCall else .communication

def ausageForVoip : Option Usage :=
  match s.voice with
  | some v =>
    if v.csvtcall then some .videoCall
    else if v.voipWificalling then
      if v.ttyMode ≠ .off then some .apTty
      else do
        let out ← s.primary
        if hasAny out.requestedDevices outAllSco then
          return if v.bluetoothSamplerate = wbSamplingRate then .wifiCallWb else .wifiCallNb
        else
          return if v.vowifiBand = 2 then .wifiCallSwb else if v.vowifiBand = 1 then .wifiCallWb else .wifiCallNb
    else s.ausageFromInput
  | none => s.ausageFromInput

def playbackAusage : Option Usage :=
  if s.isFactoryMode then some s.ausageForFactory
  else if s.isCPCallMode then some s.ausageForCall
  else if s.isAPCallMode then s.ausageForVoip
  else if s.isFMRadioOn then do
    let out ← s.primary
    return if popcount out.requestedDevices = 1 then .fmRadioTuner else .none
  else some .none

def captureAusage (input : StreamIn) : Option Usage :=
  if s.isFactoryMode then some s.ausageForFactory
  else if s.isCPCallMode then
    some (match input.requestedSource with
      | .voiceUplink => .incallUplink
      | .voiceDownlink => .incallDownlink
      | .voiceCall => .incallUplinkDownlink
      | _ => .incallUplink)
  else if s.isAPCallMode then s.ausageForVoip
  else
    some (match input.requestedSource with
      | .camcorder => .camcorder
      | .voiceRecognition => .recognition
      | _ => .recording)

def ausageFromOut (out : StreamOut) : Option Usage := do
  let usage ← s.playbackAusage
  return if usage = .none then out.streamUsage else usage

def ausageFromIn (input : StreamIn) : Option Usage := do
  let usage ← s.captureAusage input
  return if usage = .none then input.streamUsage else usage

def callMic (device : DeviceType) : Option DeviceType :=
  match device with
  | .handset => some .handsetMic
  | .speaker => some .speakerMic
  | .headset => some .headsetMic
  | .headphone => some .headphoneMic
  | .btScoHeadset =>
    if s.isAPCallMode then s.voice.map fun v => if v.bluetoothNrec ≠ 0 then .btScoHeadsetMic else .btNrecHeadsetMic
    else some .btScoHeadsetMic
  | .usbHeadset => some (if isUsbInDevice s.actualCaptureDevice then .usbHeadsetMic else .headphoneMic)
  | .none => some .none
  | _ => some (if s.supportReciever then .handsetMic else .speakerMic)

def callIndevice (device : DeviceType) : Option DeviceType := do
  let input ← s.callMic device
  match s.voice with
  | none => return input
  | some v =>
    if v.ttyMode ≠ .off ∧ device.code b &&& 7 ≠ 0 then
      return match v.ttyMode with
        | .full => .fullMic
        | .hco => .hcoMic
        | .vco => .vcoMic
        | .off => input
    else return input

def indeviceIdFromOutdevice (device : DeviceType) : Option DeviceType :=
  if s.isCallMode then s.callIndevice b device
  else
    some (match device with
      | .speaker | .handset | .headphone | .speakerAndHeadphone | .auxDigital => .mainMic
      | .headset | .speakerAndHeadset => .headsetMic
      | .btScoHeadset | .speakerAndBtScoHeadset => .btScoHeadsetMic
      | .usbHeadset | .speakerAndUsbHeadset =>
        if isUsbInDevice s.actualCaptureDevice then .usbHeadsetMic else .headphoneMic
      | _ => .none)

/-- The part of `get_device_id` that does not look at the mode. -/
def normalDeviceId (devices : Devices) : DeviceType :=
  if devices > bitIn then
    if 2 ≤ popcount devices then
      if devices = inBuiltinMic then .mainMic
      else if devices = inWiredHeadset then .headsetMic
      else if devices = inBluetoothScoHeadset then .btScoHeadsetMic
      else if devices = inBackMic then .subMic
      else if devices = inUsbDevice ∨ devices = inUsbHeadset then .usbHeadsetMic
      else if devices = inFmTuner then .fmTuner
      else .mainMic
    else .none
  else if s.fmViaA2dp ∧ s.isFMRadioOn then .fmExternal
  else if popcount devices = 1 then
    if devices = outEarpiece then .handset
    else if devices = outSpeaker then .speaker
    else if devices = outWiredHeadset then .headset
    else if devices = outWiredHeadphone then .headphone
    else if hasAny devices outAllSco then .btScoHeadset
    else if b.btA2dpOffload ∧ hasAny devices outAllA2dp then .btA2dpHeadphone
    else if devices = outAuxDigital then .auxDigital
    else if devices = outUsbDevice ∨ devices = outUsbHeadset then .usbHeadset
    else .none
  else if popcount devices = 2 then
    if devices = outSpeaker ||| outWiredHeadset then .speakerAndHeadset
    else if devices = outSpeaker ||| outWiredHeadphone then .speakerAndHeadphone
    else if hasAny devices outAllSco ∧ hasAny devices outSpeaker then .speakerAndBtScoHeadset
    else if b.btA2dpOffload ∧ hasAny devices outAllA2dp ∧ hasAny devices outSpeaker then .speakerAndBtA2dpHeadphone
    else if hasAny devices outAllUsb ∧ hasAny devices outSpeaker then .speakerAndUsbHeadset
    else .none
  else .none

/-- The device of an output in a call. A SCO device falls through to the USB case, and TELEPHONY_TX is
replaced by the devices of the primary output. -/
def callOutput (ofPrimary : Option DeviceType) (devices : Devices) : Option DeviceType :=
  if devices = outEarpiece then some .handset
  else if devices = outSpeaker then some .speaker
  else if devices = outWiredHeadset then some .headset
  else if devices = outWiredHeadphone then some .headphone
  else if devices = outBluetoothSco ∨ devices = outBluetoothScoHeadset ∨ devices = outBluetoothScoCarkit ∨
      devices = outUsbHeadset ∨ devices = outUsbDevice then some .usbHeadset
  else if devices = outTelephonyTx then ofPrimary
  else if devices = 0 then some .none
  else some (if s.supportReciever then .handset else .speaker)

def callDevice (v : Voice) (ofPrimary : Option DeviceType) (devices : Devices) : Option DeviceType := do
  let device ← s.callOutput ofPrimary devices
  let device :=
    if hasAny devices (outWiredHeadphone ||| outWiredHeadset ||| outSpeaker) then
      match v.ttyMode with
      | .off => device
      | .full => .headset
      | .hco => if hasAny devices (outWiredHeadphone ||| outWiredHeadset) then .handset else device
      | .vco => .headset
    else device
  return if s.isCPCallMode ∧ v.callForwarding then .callFwd else device

/-- `get_device_id`, which calls itself for the devices of the primary output. A call that comes back to them
never ends, so two rounds are all there can be. -/
def deviceIdRounds : Nat → Devices → Option DeviceType
  | 0, _ => none
  | rounds + 1, devices =>
    if s.isCallMode then
      let ofPrimary := do deviceIdRounds rounds (← s.primary).requestedDevices
      if devices > bitIn then do s.indeviceIdFromOutdevice b (← ofPrimary)
      else do
        let device ← s.callDevice (← s.voice) ofPrimary devices
        if device ≠ .none then return device else return s.normalDeviceId b devices
    else some (s.normalDeviceId b devices)

def deviceId (devices : Devices) : Option DeviceType := s.deviceIdRounds b 2 devices

def getDeviceOut (out : StreamOut) : Option DeviceType :=
  if s.factory.mode ≠ .none then s.deviceId b s.factory.outDevice else s.deviceId b out.requestedDevices

def getDeviceIn (input : StreamIn) : Option DeviceType :=
  if s.factory.mode ≠ .none then s.deviceId b s.factory.inDevice else s.deviceId b input.requestedDevices

def getCaptureDevice (out : StreamOut) : Option DeviceType :=
  if s.factory.mode ≠ .none then s.deviceId b s.factory.inDevice
  else do s.indeviceIdFromOutdevice b (← s.deviceId b out.requestedDevices)

def getModifier (device : DeviceType) : Modifier :=
  let wb := s.voice.any fun v => v.bluetoothSamplerate == wbSamplingRate
  match device with
  | .btScoHeadset | .speakerAndBtScoHeadset => if wb then .btScoRxWb else .btScoRxNb
  | .btA2dpHeadphone | .speakerAndBtA2dpHeadphone => if b.btA2dpOffload then .btA2dpPlayback else .none
  | .btScoHeadsetMic | .btNrecHeadsetMic => if wb then .btScoTxWb else .btScoTxNb
  | _ => .none

end State

end ExynosHal.Audio
