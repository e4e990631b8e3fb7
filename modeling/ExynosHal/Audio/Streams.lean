import ExynosHal.Audio.Call

/-! # The entry points of streams

`out_write`, `in_read` and their companions, each run under the locks from beginning to
end. The keys of `set_parameters` that only change the PCM configuration are left out.
-/

namespace ExynosHal.Audio

namespace State

variable (b : Build) (env : Env) (s : State)

def setOutStatus (a : Addr) (status : Status) : State := s.modifyOut a fun out => { out with streamStatus := status }

def setInStatus (a : Addr) (status : Status) : State := s.modifyIn a fun input => { input with streamStatus := status }

def proxyOpenPlayback (a : Addr) : State :=
  let s := { s with misused := s.misused || (s.outs a).any StreamOut.isOpen }
  if env.openOk then s.modifyOut a fun out => { out with isOpen := true } else s

def proxyOpenCapture (a : Addr) : State :=
  let s := { s with misused := s.misused || (s.ins a).any StreamIn.isOpen }
  if env.openOk then s.modifyIn a fun input => { input with isOpen := true } else s

def proxyClosePlayback (a : Addr) : State := s.modifyOut a fun out => { out with isOpen := false }

def proxyCloseCapture (a : Addr) : State := s.modifyIn a fun input => { input with isOpen := false }

def proxyUsePlayback (a : Addr) : State := { s with misused := s.misused || !(s.outs a).any StreamOut.isOpen }

def proxyUseCapture (a : Addr) : State := { s with misused := s.misused || !(s.ins a).any StreamIn.isOpen }

def useOut (a : Addr) : State := s.modifyOut a fun out => { out with released := false }

def useIn (a : Addr) : State := s.modifyIn a fun input => { input with released := false }

def routeAs (a : Addr) (devices : Devices) (force : Force) : Option State := do
  let out ← s.outs a
  let s := s.modifyOut a fun out => { out with requestedDevices := devices }
  let s ← s.setRoutePlayback b env a true force
  return s.modifyOut a fun o => { o with requestedDevices := out.requestedDevices }

def routeForWrite (a : Addr) (out : StreamOut) : Option State :=
  if out.streamType = .playbackIncallMusic ∧ s.isCPCallMode then do
    let v ← s.voice
    let stopped := { s with incallmusicOn := true }.stopVoiceCall v
    let routed ← stopped.setRoutePlayback b env a true .callDrive
    return routed.startVoiceCall (← routed.voice)
  else if !s.playback.isRouted then
    if b.btA2dpOffload ∧ hasAny out.requestedDevices outAllA2dp ∧ hasAny out.requestedDevices outSpeaker then
      s.routeAs b env a outSpeaker .nonForceRoute
    else s.setRoutePlayback b env a true .nonForceRoute
  else some s

/-- The part of `out_write` behind the opening of the device; `data` says that there is something to write. -/
def writeData (a : Addr) (data : Bool) : Option State := do
  let out ← s.outs a
  if out.streamStatus.aboveReady ∧ data then
    let s := s.proxyUsePlayback a
    if env.writeOk ∧ out.streamStatus = .idle then
      let s := s.proxyUsePlayback a
      if env.startOk then return s.setOutStatus a .playing else return s
    else return s
  else return s

def outWrite (a : Addr) (data : Bool) : Option State := do
  let out ← s.outs a
  let s := s.useOut a
  if out.streamStatus = .standby then
    let s ← (s.setOutStatus a .ready).routeForWrite b env a out
    let s := s.proxyOpenPlayback env a
    -- the status stays READY when the device could not be opened
    if env.openOk then (s.setOutStatus a .idle).writeData env a data else return s
  else s.writeData env a data

def unrouteForStandby (a : Addr) (out : StreamOut) : Option State :=
  if s.playback.isRouted then
    if out.streamType = .playbackIncallMusic ∧ s.incallmusicOn ∧ s.isCPCallMode then
      let s := { s with incallmusicOn := false }
      if s.primaryOutput.isSome then do
        let updated ← s.updatePrimary b env
        return { updated with voiceRunning := true }
      else some s
    else
      let s := if out.streamType = .playbackIncallMusic then { s with incallmusicOn := false } else s
      s.setRoutePlayback b env a false .nonForceRoute
  else some s

def outStandby (a : Addr) : Option State := do
  let out ← s.outs a
  let s := s.modifyOut a fun out => { out with released := true }
  if out.streamStatus ≠ .standby then
    let s := (s.proxyClosePlayback a).setOutStatus a .standby
    let s ← s.unrouteForStandby b env a out
    return s.modifyOut a fun out => { out with force := .nonForceRoute, rollbackDevices := 0 }
  else return s

def outNeedRouting (a : Addr) (out : StreamOut) (devices : Devices) : Bool :=
  (s.primaryOutput == some a && popcount devices == 2) || (s.outputDrivesCall a out && s.isCallMode) ||
    s.playback.isRouted || out.streamStatus != .standby

/-- Playback and capture are routed together: in a CP call, to end one, and in an AP call with an input. -/
def drivesBoth : Option Bool :=
  if s.isCPCallMode || s.isActiveUsageCPCall env then some true
  else if s.isAPCallMode then do
    let input ← s.activeIn
    return input.any fun i => i.streamStatus != .standby
  else some false

def markCallDrive (a : Addr) (both : Bool) : State :=
  if both then s.modifyOut a fun out => { out with force := .callDrive } else s

/-- The kind of routing, with `in-call music` and the current devices. -/
def chooseForce (a : Addr) (out : StreamOut) (devices : Devices) : Option State := do
  let s := s.modifyOut a fun out => { out with force := .nonForceRoute }
  if (s.primaryOutput == some a || s.fastOutput == some a) && popcount devices == 2 then
    return s.modifyOut a fun out => { out with force := .forceRoute, rollbackDevices := s.currentDevices }
  else if s.outputDrivesCall a out then
    let both ← s.drivesBoth env
    let s := s.markCallDrive a both
    if out.streamType = .playbackIncallMusic ∧ s.isCPCallMode then return { s with incallmusicOn := true } else return s
  else return { s with currentDevices := devices }

def startCallIfNeeded (a : Addr) (out : StreamOut) : State :=
  if s.outputDrivesCall a out ∧ s.isCPCallMode then
    match s.voice with
    | some v => if v.isCallActive then s else s.startVoiceCall v
    | none => s
  else s

/-- The routing itself; a combination with A2DP is routed to the speaker while Bluetooth is not ready. -/
def outRoutePath (a : Addr) (out : StreamOut) (devices : Devices) (force : Force) : Option State :=
  if s.outputDrivesCall a out ∧ s.isCallMode then s.updateCallStream b env a out.requestedDevices devices
  else if b.btA2dpOffload ∧ hasAny devices outAllA2dp ∧ !env.isBtA2dpReady ∧ hasAny devices outSpeaker then
    s.routeAs b env a outSpeaker force
  else s.setRoutePlayback b env a true force

/-- A routing request that is carried out; `volume` is the voice volume that may come with it. -/
def outRoute (a : Addr) (out : StreamOut) (devices : Devices) (volume : Option Bool) : Option State := do
  let s ← s.chooseForce env a out devices
  let s := { s with voiceVolumeZero := volume.getD s.voiceVolumeZero }
  let forced ← s.outs a
  let s ← s.outRoutePath b env a out devices forced.force
  return s.startCallIfNeeded a out

def outSetRouting (a : Addr) (devices : Devices) (volume : Option Bool) : Option State := do
  let out ← s.outs a
  let s := s.useOut a
  if devices ≠ 0 then
    let needRouting := s.outNeedRouting a out devices
    let s := s.modifyOut a fun out => { out with requestedDevices := devices }
    if needRouting then s.outRoute b env a out devices volume
    else if s.primaryOutput ≠ some a ∧ s.fastOutput ≠ some a then return { s with currentDevices := devices }
    else return s
  else if b.usbOffload ∧ out.streamStatus ≠ .standby ∧ hasAny out.requestedDevices outAllUsb ∧ !env.isUsbConnected then
    let s := s.modifyOut a fun out => { out with requestedDevices := outSpeaker }
    s.setRoutePlayback b env a true .nonForceRoute
  else return s

def outPause (a : Addr) : Option State := do
  let out ← s.outs a
  if out.streamType = .playbackComprOffload ∧ out.streamStatus = .playing ∧ env.pauseOk then
    return s.setOutStatus a .paused
  else return s

def outResume (a : Addr) : Option State := do
  let out ← s.outs a
  if out.streamType = .playbackComprOffload ∧ out.streamStatus = .paused ∧ env.resumeOk then
    return s.setOutStatus a .playing
  else return s

def outFlush (a : Addr) : Option State := do
  let out ← s.outs a
  if out.streamType = .playbackComprOffload ∧ out.streamStatus.aboveIdle then return s.setOutStatus a .idle
  else return s

/-- A message for the callback thread, or the callback itself: nothing that is modelled here. -/
def outDrain (a : Addr) : Option State := do
  let _ ← s.outs a
  return s

def outStop (a : Addr) : Option State := do
  let out ← s.outs a
  if out.streamType = .playbackMmap ∧ out.streamStatus = .playing then return s.setOutStatus a .idle else return s

def outStart (a : Addr) : Option State := do
  let out ← s.outs a
  if out.streamType = .playbackMmap ∧ out.streamStatus = .idle then
    let s := s.proxyUsePlayback a
    if env.startOk then return s.setOutStatus a .playing else return s
  else return s

/-- `valid` says that there is an `info` and a size. -/
def outCreateMmapBuffer (a : Addr) (valid : Bool) : Option State := do
  let out ← s.outs a
  if valid ∧ out.streamType = .playbackMmap ∧ out.streamStatus = .standby then
    let s := (s.useOut a).setOutStatus a .ready
    let s ← (if s.playback.isRouted then some s else s.setRoutePlayback b env a true .nonForceRoute)
    let s := s.proxyOpenPlayback env a
    return s.setOutStatus a (if env.openOk then .idle else .standby)
  else return s

def stopActiveInput (a : Addr) : State := s.modifyIn a fun input =>
    if input.streamStatus ≠ .standby then { input with streamStatus := .standby, isOpen := false } else input

def reconfigForRead (a : Addr) (input : StreamIn) : Option State :=
  if (env.isUsageCPCall s.capture.active.usage ∨ env.isUsageAPCall s.capture.active.usage) ∧
        input.streamType = .capturePrimary ∨
      !s.isCPCallMode ∧ input.streamType = .captureCall then do
    let newType := if s.isCPCallMode ∧ input.requestedSource.isCallRecording then .captureCall else .capturePrimary
    let s ← (if s.isCPCallMode then some s else s.setRouteCapture b env a false .forceRoute)
    let usage ← s.captureAusage { input with streamType := newType }
    return s.modifyIn a fun input => { input with streamType := newType, streamUsage := usage }
  else some s

/-- `is_factory_bt_realtime_loopback_mode`. -/
def isBtRealtimeLoopback : Bool :=
  s.factory.loopbackMode == .realtime && s.factory.outDevice == outBluetoothScoHeadset &&
    s.factory.inDevice == inBluetoothScoHeadset

def routeForRead (a : Addr) : Option State := do
  let input ← s.ins a
  if (!b.sthalInterface || input.streamType != .captureHotword) && !s.capture.isRouted then
    if s.isBtRealtimeLoopback then return s
    else if input.streamType = .captureCall then return s
    else s.setRouteCapture b env a true .nonForceRoute
  else return s

def startReading (a : Addr) (input : StreamIn) : State :=
  if input.streamStatus = .idle then (s.proxyUseCapture a).setInStatus a .playing else s

/-- The part of `in_read` behind the opening of the device. While FM recording is stopping nothing is read. -/
def readData (a : Addr) (data : Bool) : Option State := do
  let input ← s.ins a
  if input.streamStatus = .idle ∧ !env.startOk then return s.proxyUseCapture a
  else
    let s := s.startReading a input
    if (input.streamStatus = .idle ∨ input.streamStatus = .playing) ∧ data ∧
        ¬(input.streamType = .captureFmTuner ∧ !s.isFMRadioOn) then
      return s.proxyUseCapture a
    else return s

def stopForReconfig (a : Addr) (input : StreamIn) : State :=
  if input.pcmReconfig then (s.stopActiveInput a).modifyIn a fun input => { input with pcmReconfig := false } else s

def inRead (a : Addr) (data : Bool) : Option State := do
  let input ← s.ins a
  let s := (s.useIn a).stopForReconfig a input
  let input ← s.ins a
  if input.streamStatus = .standby then
    let s := s.setInStatus a .ready
    let s ← s.reconfigForRead b env a input
    let s := { s with activeInput := some a }
    let s ← s.routeForRead b env a
    let s := s.proxyOpenCapture env a
    if env.openOk then (s.setInStatus a .idle).readData env a data else return s
  else s.readData env a data

def unrouteForInStandby (a : Addr) (input : StreamIn) : Option State :=
  if (!b.sthalInterface || input.streamType != .captureHotword) && s.capture.isRouted then
    s.setRouteCapture b env a false .nonForceRoute
  else some s

def inStandby (a : Addr) : Option State := do
  let input ← s.ins a
  let s := s.modifyIn a fun input => { input with released := true }
  if input.streamStatus ≠ .standby then
    let s := (s.proxyCloseCapture a).setInStatus a .standby
    let s ← s.unrouteForInStandby b env a input
    return { s with activeInput := none }
  else return s

/-- `update_capture_stream`: the stream is to be opened again for some changes of its device. -/
def updateCaptureStream (a : Addr) (input : StreamIn) (devices : Devices) : Option State := do
  let cur ← s.deviceId b input.requestedDevices
  let new ← s.deviceId b devices
  let crosses := fun d : DeviceType => (cur == d) != (new == d)
  if !s.isCallMode && (crosses .btScoHeadsetMic || crosses .usbHeadsetMic || crosses .headsetMic || crosses .mainMic) &&
      input.streamStatus != .standby then
    return s.modifyIn a fun input => { input with pcmReconfig := true }
  else return s

/-- `in_set_parameters` with `AUDIO_PARAMETER_STREAM_ROUTING`. -/
def inSetRouting (a : Addr) (devices : Devices) : Option State := do
  let input ← s.ins a
  if b.sthalInterface ∧ input.streamType = .captureHotword then return s
  else
    let s := s.useIn a
    if devices ≠ 0 then
      let s := s.modifyIn a fun input => { input with requestedDevices := devices }
      let s ← s.updateCaptureStream b a input devices
      if (s.capture.isRouted || input.streamStatus != .standby) && !s.isCPCallMode then
        let changed ← s.ins a
        let s := if changed.pcmReconfig then s.stopActiveInput a else s
        s.setRouteCapture b env a true .nonForceRoute
      else return s
    else return s

/-- `in_set_parameters` with `AUDIO_PARAMETER_STREAM_INPUT_SOURCE`. -/
def inSetSource (a : Addr) (source : Source) : Option State := do
  let input ← s.ins a
  if b.sthalInterface ∧ input.streamType = .captureHotword then return s
  else if input.streamStatus.aboveReady then return s
  else if source ≠ input.requestedSource ∧ source ≠ .default then
    if source = .voiceCall then
      let usage ← s.captureAusage { input with requestedSource := source }
      return s.modifyIn a fun input => { input with requestedSource := source, streamUsage := usage }
    else return s.modifyIn a fun input => { input with requestedSource := source }
  else return s

def inStop (a : Addr) : Option State := do
  let input ← s.ins a
  if input.streamType = .captureMmap ∧ input.streamStatus = .playing then return s.setInStatus a .idle else return s

def inStart (a : Addr) : Option State := do
  let input ← s.ins a
  if input.streamType = .captureMmap ∧ input.streamStatus = .idle then
    let s := s.proxyUseCapture a
    if env.startOk then return s.setInStatus a .playing else return s
  else return s

def inCreateMmapBuffer (a : Addr) (valid : Bool) : Option State := do
  let input ← s.ins a
  if valid ∧ input.streamType = .captureMmap ∧ input.streamStatus = .standby then
    let s := (s.useIn a).setInStatus a .ready
    let s ← (if s.capture.isRouted then some s else s.setRouteCapture b env a true .nonForceRoute)
    let s := s.proxyOpenCapture env a
    return s.setInStatus a (if env.openOk then .idle else .standby)
  else return s

end State

end ExynosHal.Audio
