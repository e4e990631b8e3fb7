import ExynosHal.Audio.Device

/-! # Routes and calls

`adev_set_route` for a playback stream, which also drives the capture route in a call, and for a capture stream;
the call status of `voice_manager_sit.c`, `update_call_stream`, which closes and reroutes the streams of a call,
and the functions that change the mode.
-/

namespace ExynosHal.Audio

namespace State

variable (b : Build) (env : Env) (s : State)

/-- `get_active_playback_count`, without the stream at `a`. -/
def activePlaybackCount (a : Addr) : Nat := s.playbackList.countP fun p => p ≠ a && (s.outs p).any fun out =>
    out.streamType != .playbackAuxDigital && out.streamStatus != .standby

def activeCaptureCount : Nat := s.captureList.countP fun p => (s.ins p).any fun input =>
    input.streamType != .captureCall && input.streamStatus != .standby

def outputDrivesCall (a : Addr) (out : StreamOut) : Bool := s.primaryOutput == some a || out.streamUsage == .incallMusic

def captureSet (set : Bool) : Option Bool :=
  if s.isAPCallMode || (!s.isCPCallMode && s.isActiveUsageCPCall env) then do
    let input ← s.activeIn
    if !(input.any fun i => i.streamStatus != .standby) then return false
    else if !s.isCallMode && input.any fun i => i.streamType == .capturePrimary then return false
    else return set
  else if !s.isCallMode then do
    let input ← s.activeIn
    if input.any fun i => i.streamType == .capturePrimary then return false else return set
  else some set

def playbackInUse (a : Addr) (force : Force) : Bool :=
  force != .forceRoute && (0 < s.activePlaybackCount a || s.isCPCallMode || s.factory.mode == .loopback ||
    s.isFMRadioOn)

def captureInUse (force : Force) : Bool := force != .forceRoute && (0 < s.activeCaptureCount || s.isCPCallMode)

def playbackTriple (out : StreamOut) : Option Triple := do
  let usage ← s.ausageFromOut out
  let device ← s.getDeviceOut b out
  return ⟨usage, device, s.getModifier b device⟩

def drivenTriple (out : StreamOut) : Option Triple := do
  let usage ← s.ausageFromOut out
  let device ← s.getCaptureDevice b out
  return ⟨usage, device, s.getModifier b device⟩

def captureTriple (input : StreamIn) : Option Triple := do
  let usage ← s.ausageFromIn input
  let device ← s.getDeviceIn b input
  return ⟨usage, device, s.getModifier b device⟩

def setPlayback (p : Path) : State := { s with playback := p }

def setCapture (c : Path) : State := { s with capture := c }

def driveCapture (out : StreamOut) (set : Bool) : Option State :=
  if set then do
    let new ← s.drivenTriple b out
    return s.setCapture (s.capture.route new)
  else some (s.setCapture (s.capture.unroute (0 < s.activeCaptureCount)))

def routePlayback (out : StreamOut) (drives captureSet : Bool) : Option State := do
  let new ← s.playbackTriple b out
  if new.usage = .media ∧ new.device = .auxDigital then return s
  else if drives then (s.setPlayback (s.playback.route new)).driveCapture b out captureSet
  else return s.setPlayback (s.playback.route new)

def unroutePlayback (a : Addr) (out : StreamOut) (force : Force) (drives captureSet : Bool) : Option State :=
  let unrouted := s.setPlayback (s.playback.unroute (s.playbackInUse a force))
  if drives then unrouted.driveCapture b out captureSet else some unrouted

def setRoutePlayback (a : Addr) (set : Bool) (force : Force) : Option State := do
  let out ← s.outs a
  let drives := s.outputDrivesCall a out && force == .callDrive
  let captureSet ← (if drives then s.captureSet env set else some set)
  if set then s.routePlayback b out drives captureSet else s.unroutePlayback b a out force drives captureSet

def setRouteCapture (a : Addr) (set : Bool) (force : Force) : Option State := do
  let input ← s.ins a
  if s.isAPCallMode && set && input.streamStatus != .standby then
    s.setRoutePlayback b env (← s.primaryOutput) true .callDrive
  else if set then
    let new ← s.captureTriple b input
    return s.setCapture (s.capture.route new)
  else return s.setCapture (s.capture.unroute (s.captureInUse force))

end State

def Voice.openedStatus (v : Voice) (env : Env) (on : Bool) : CallStatus :=
  if v.callStatus = .invalid ∧ on then (if env.rilOpenOk then .connected else .invalid) else v.callStatus

def Voice.setCallMode (v : Voice) (env : Env) (on : Bool) : Voice :=
  if v.openedStatus env on = .connected ∧ on then { v with callStatus := .incallmode }
  else if v.openedStatus env on = .incallmode ∧ !on then { v with callStatus := .connected }
  else { v with callStatus := v.openedStatus env on }

def Voice.setCallActive (v : Voice) (on : Bool) : Voice :=
  if v.callStatus = .incallmode ∧ on then { v with callStatus := .active }
  else if v.callStatus = .active ∧ !on then { v with callStatus := .incallmode }
  else v

namespace State

variable (b : Build) (env : Env) (s : State)

def modifyOut (a : Addr) (f : StreamOut → StreamOut) : State :=
  { s with outs := Function.update s.outs a ((s.outs a).map f) }

def modifyIn (a : Addr) (f : StreamIn → StreamIn) : State := { s with ins := Function.update s.ins a ((s.ins a).map f) }

/-- `voice_set_call_active(false)` and `proxy_stop_voice_call`. -/
def stopVoiceCall (v : Voice) : State := { s with voice := some (v.setCallActive false), voiceRunning := false }

/-- `proxy_start_voice_call` and `voice_set_call_active(true)`. -/
def startVoiceCall (v : Voice) : State := { s with voice := some (v.setCallActive true), voiceRunning := true }

def needToReconfigCapture (input : StreamIn) : Bool :=
  (!s.isCPCallMode && input.streamType == .captureCall) || (s.isCPCallMode && input.streamType == .capturePrimary)

def deviceChanged (current new : Devices) : Option Bool := do
  let curDevice ← s.deviceId b current
  let newDevice ← s.deviceId b new
  let newInDevice ← (if s.isCallMode then s.indeviceIdFromOutdevice b newDevice else some .none)
  let curInDevice := if s.isCallMode then s.capture.active.device else .none
  let curDevice :=
    if s.playback.active.device = .callFwd then .callFwd
    else if s.isActiveUsageCPCall env ∧ newDevice = .callFwd then s.playback.active.device
    else curDevice
  return curDevice ≠ newDevice ∨
    (curInDevice ≠ newInDevice ∧ (curInDevice = .usbHeadsetMic ∨ newInDevice = .usbHeadsetMic))

def callStateChanged : Bool := (s.isAPCallMode && !env.isUsageAPCall s.capture.active.usage) ||
    (s.isCPCallMode && env.isUsageAPCall s.capture.active.usage) ||
    (!s.isCPCallMode && env.isUsageCPCall s.capture.active.usage)

def closeForCall (changed : Bool) (out : StreamOut) : StreamOut :=
  if out.streamType = .playbackPrimary ∧ out.streamStatus ≠ .standby ∧ changed then
    { out with streamStatus := .standby, isOpen := false }
  else out

/-- The primary capture streams that are working are closed, their status is left for the next read. -/
def reconfigForCall (deviceChanged : Bool) (input : StreamIn) : StreamIn :=
  if input.streamType = .capturePrimary ∧ input.streamStatus = .playing ∧
      ((s.isCallMode ∧ deviceChanged) ∨ s.callStateChanged env ∨ s.needToReconfigCapture input) then
    { input with pcmReconfig := true, isOpen := false }
  else input

def updateStreams (deviceChanged : Bool) : State := { s with
    outs := fun p => if p ∈ s.playbackList then
      (s.outs p).map (closeForCall (deviceChanged || s.callStateChanged env)) else s.outs p
    ins := fun p => if p ∈ s.captureList then (s.ins p).map (s.reconfigForCall env deviceChanged) else s.ins p }

def stopForChange (deviceChanged : Bool) : Option State :=
  if (deviceChanged ∧ s.voice.any Voice.isCallActive) ∨ s.playback.active.usage = .incallMusic then
    s.voice.map s.stopVoiceCall
  else some s

def routeCall (a : Addr) : Option State := do
  if s.isCallMode then s.setRoutePlayback b env a true .callDrive
  else
    let out ← s.outs a
    if out.streamStatus = .standby then s.setRoutePlayback b env a false .callDrive else return s

def updateCallStream (a : Addr) (current new : Devices) : Option State := do
  let changed ← s.deviceChanged b env current new
  let stopped ← (s.updateStreams env changed).stopForChange changed
  stopped.routeCall b env a

def updatePrimary : Option State := do
  let a ← s.primaryOutput
  let out ← s.outs a
  s.updateCallStream b env a out.requestedDevices out.requestedDevices

def setCallForwarding : Option State :=
  if s.voice.any Voice.isCallMode then do
    let updated ← (if s.primary.any (fun out => out.requestedDevices != 0) then s.updatePrimary b env else some s)
    return updated.startVoiceCall (← updated.voice)
  else
    match s.primaryOutput with
    | some a => s.setRoutePlayback b env a true .callDrive
    | none => some s

def keepCallMode (mode : Mode) : Mode × State :=
  match s.voice with
  | none => (mode, s)
  | some v =>
    if mode = .inCommunication ∧ s.isCPCallMode ∧ v.realcall then
      (s.amode, { s with voice := some { v with keepCallMode := true } })
    else if mode = .inCall ∧ v.keepCallMode then
      (mode, { s with voice := some { v with keepCallMode := false } })
    else (mode, s)

def reconfigActiveInput (mode : Mode) : Option State :=
  if s.previousAmode = .inCommunication ∧ mode = .normal then
    match s.activeInput with
    | none => some s
    | some a => do
      let input ← s.ins a
      if input.streamStatus ≠ .standby ∧ input.streamType = .capturePrimary then
        return s.modifyIn a fun input => { input with pcmReconfig := true }
      else return s
  else some s

/-- The call is stopped and left, or entered; it is started only with the first routing request. -/
def changeCall (mode : Mode) (v : Voice) : Option State :=
  if (mode = .normal ∨ mode = .inCommunication) ∧ v.isCallActive then do
    let stopped := s.stopVoiceCall { v with keepCallMode := false }
    let updated ← stopped.updatePrimary b env
    let v ← updated.voice
    return { updated with voice := some (v.setCallMode env false) }
  else if mode = .inCall then some { s with voice := some (v.setCallMode env true) }
  else some s

def enterMode (mode : Mode) : State := { s with previousAmode := s.amode, amode := mode }

def changeMode (mode : Mode) : Option State :=
  match s.voice with
  | none => some (s.enterMode mode)
  | some v => do (← (s.enterMode mode).changeCall b env mode v).reconfigActiveInput mode

def setMode (mode : Mode) : Option State :=
  let (mode, s) := s.keepCallMode mode
  if s.amode = mode then some s else s.changeMode b env mode

end State

end ExynosHal.Audio
