import ExynosHal.Audio.Frames

/-! # Routing requests, mode changes and parameters

They change where a stream is routed, and close it or mark it for a reconfiguration.
-/

namespace ExynosHal.Audio
open Library.Run (unbind)
open Option (map_some)

def State.core (s : State) :=
  ((s.outs, s.ins), (s.playbackList, s.captureList), (s.primaryOutput, s.fastOutput, s.compressOutput, s.activeInput),
    (s.playback, s.capture), s.rate)

structure Steady (b : Build) (P : State → Prop) : Prop where
  core {s s' : State} (h : P s) (hcore : s'.core = s.core) (hmisused : s'.misused = s.misused) : P s'
  routed {s s' : State} (h : P s) (hs : SameStreams b s s') : P s'
  updated {s : State} (h : P s) (env : Env) (changed : Bool) : P (s.updateStreams env changed)
  touchOut {s : State} (h : P s) (a : Addr) {f : StreamOut → StreamOut}
    (hf : ∀ out, (f out).streamStatus = out.streamStatus ∧ (f out).isOpen = out.isOpen) : P (s.modifyOut a f)
  touchIn {s : State} (h : P s) (a : Addr) {f : StreamIn → StreamIn}
    (hf : ∀ input, (f input).streamType = input.streamType ∧ (f input).streamStatus = input.streamStatus ∧
      (f input).isOpen = input.isOpen ∧ (input.pcmReconfig → (f input).pcmReconfig)) : P (s.modifyIn a f)
  stopped {s : State} (h : P s) (a : Addr) : P (s.stopActiveInput a)

def Op.steers : Op → Bool
  | .outSetRouting .. | .outDrain .. | .inSetRouting .. | .inSetSource .. | .setMode .. | .setVoiceVolume ..
  | .setCallForwarding | .rilBand .. | .setVoiceFlags .. | .setFlags .. => true
  | .setParameters (.btScoWb _) => false
  | .setParameters _ => true
  | _ => false

namespace Steady

variable {b : Build} {env : Env} {P : State → Prop} {s s' : State} {a : Addr} (hP : Steady b P) (h : P s)
include hP h

theorem callUpdated (hs : CallUpdated b env s s') : P s' := by
  rcases hs with hs | ⟨changed, hs⟩
  · exact hP.routed h hs
  · exact hP.routed (hP.updated h env changed) hs

variable {force : Force}

theorem setRoutePlayback {set : Bool} (hs : s.setRoutePlayback b env a set force = some s') : P s' :=
  hP.routed h (State.setRoutePlayback_rerouted hs).sameStreams

theorem setRouteCapture {set : Bool} (hs : s.setRouteCapture b env a set force = some s') : P s' :=
  hP.routed h (State.setRouteCapture_rerouted hs).sameStreams

theorem setVoice {v : Option Voice} (hv : v.map Voice.bluetoothSamplerate = s.rate) : P { s with voice := v } :=
  hP.routed h (.of_recast hv)

theorem mapVoice {f : Voice → Voice} (hf : ∀ v, (f v).bluetoothSamplerate = v.bluetoothSamplerate) :
    P { s with voice := s.voice.map f } := by
  refine hP.setVoice h ?_
  rw [State.rate, Option.map_map]
  exact congrArg (Option.map · s.voice) (funext hf)

variable {out : StreamOut} {devices : Devices}

theorem chooseForce (hs : s.chooseForce env a out devices = some s') : P s' := by
  have hforce : P (s.modifyOut a fun out => { out with force := .nonForceRoute }) := hP.touchOut h a fun _ => ⟨rfl, rfl⟩
  unfold State.chooseForce at hs
  dsimp only at hs
  split at hs
  · cases hs
    exact hP.touchOut hforce a fun _ => ⟨rfl, rfl⟩
  · split at hs
    · obtain ⟨both, -, hs⟩ := unbind hs
      have hboth : P ((s.modifyOut a fun out => { out with force := .nonForceRoute }).markCallDrive a both) := by
        unfold State.markCallDrive
        split
        · exact hP.touchOut hforce a fun _ => ⟨rfl, rfl⟩
        · exact hforce
      split at hs
      · cases hs
        exact hP.core hboth rfl rfl
      · cases hs
        exact hboth
    · cases hs
      exact hP.core hforce rfl rfl

theorem outRoute {volume : Option Bool} (hs : s.outRoute b env a out devices volume = some s') : P s' := by
  obtain ⟨chosen, hchosen, hs⟩ := unbind hs
  obtain ⟨forced, -, hs⟩ := unbind hs
  obtain ⟨routed, hrouted, hs⟩ := unbind hs
  cases hs
  have hvol : P { chosen with voiceVolumeZero := volume.getD chosen.voiceVolumeZero } :=
    hP.core (hP.chooseForce h hchosen) rfl rfl
  exact hP.routed (hP.callUpdated hvol (State.outRoutePath_updated hrouted))
    (State.startCallIfNeeded_sameStreams b _ _ _)

theorem outSetRouting {volume : Option Bool} (hs : s.outSetRouting b env a devices volume = some s') : P s' := by
  obtain ⟨out, -, hs⟩ := unbind hs
  have hused : P (s.useOut a) := hP.touchOut h a fun _ => ⟨rfl, rfl⟩
  have hdevs (devices : Devices) : P ((s.useOut a).modifyOut a fun out => { out with requestedDevices := devices }) :=
    hP.touchOut hused a fun _ => ⟨rfl, rfl⟩
  dsimp only at hs
  split at hs
  · split at hs
    · exact hP.outRoute (hdevs devices) hs
    · split at hs
      · cases hs
        exact hP.core (hdevs devices) rfl rfl
      · cases hs
        exact hdevs devices
  · split at hs
    · exact hP.setRoutePlayback (hdevs outSpeaker) hs
    · cases hs
      exact hused

theorem updateCaptureStream {input : StreamIn} (hs : s.updateCaptureStream b a input devices = some s') : P s' := by
  obtain ⟨cur, -, hs⟩ := unbind hs
  obtain ⟨new, -, hs⟩ := unbind hs
  dsimp only at hs
  split at hs
  · cases hs
    exact hP.touchIn h a fun _ => ⟨rfl, rfl, rfl, fun _ => rfl⟩
  · cases hs
    exact h

theorem inSetRouting (hs : s.inSetRouting b env a devices = some s') : P s' := by
  obtain ⟨input, -, hs⟩ := unbind hs
  split at hs
  · cases hs
    exact h
  · have hused : P (s.useIn a) := hP.touchIn h a fun _ => ⟨rfl, rfl, rfl, id⟩
    dsimp only at hs
    split at hs
    · obtain ⟨updated, hupdated, hs⟩ := unbind hs
      have hdevs : P ((s.useIn a).modifyIn a fun input => { input with requestedDevices := devices }) :=
        hP.touchIn hused a fun _ => ⟨rfl, rfl, rfl, id⟩
      have hupdated := hP.updateCaptureStream hdevs hupdated
      split at hs
      · obtain ⟨changed, -, hs⟩ := unbind hs
        split at hs
        · exact hP.setRouteCapture (hP.stopped hupdated a) hs
        · exact hP.setRouteCapture hupdated hs
      · cases hs
        exact hupdated
    · cases hs
      exact hused

theorem inSetSource {source : Source} (hs : s.inSetSource b a source = some s') : P s' := by
  obtain ⟨input, -, hs⟩ := unbind hs
  split at hs
  · cases hs
    exact h
  · split at hs
    · cases hs
      exact h
    · split at hs
      · split at hs
        · obtain ⟨usage, -, hs⟩ := unbind hs
          cases hs
          exact hP.touchIn h a fun _ => ⟨rfl, rfl, rfl, id⟩
        · cases hs
          exact hP.touchIn h a fun _ => ⟨rfl, rfl, rfl, id⟩
      · cases hs
        exact h

variable {mode : Mode}

theorem changeCall {v : Voice} (hv : s.voice = some v) (hs : s.changeCall b env mode v = some s') : P s' := by
  have hrate : s.rate = some v.bluetoothSamplerate := by rw [State.rate, hv, map_some]
  unfold State.changeCall at hs
  split at hs
  · obtain ⟨updated, hupdated, hs⟩ := unbind hs
    obtain ⟨v', hv', hs⟩ := unbind hs
    cases hs
    have hstopped : P (s.stopVoiceCall { v with keepCallMode := false }) :=
      hP.routed h (.stopVoiceCall (v := { v with keepCallMode := false }) hrate)
    refine hP.setVoice (hP.callUpdated hstopped (State.updatePrimary_updated hupdated)) ?_
    rw [State.rate, hv', map_some, map_some, v'.setCallMode_rate]
  · split at hs
    · cases hs
      refine hP.setVoice h ?_
      rw [hrate, map_some, v.setCallMode_rate]
    · cases hs
      exact h

theorem reconfigActiveInput (hs : s.reconfigActiveInput mode = some s') : P s' := by
  unfold State.reconfigActiveInput at hs
  split at hs
  · split at hs
    · cases hs
      exact h
    · obtain ⟨input, -, hs⟩ := unbind hs
      split at hs
      · cases hs
        exact hP.touchIn h _ fun _ => ⟨rfl, rfl, rfl, fun _ => rfl⟩
      · cases hs
        exact h
  · cases hs
    exact h

theorem keepCallMode (mode : Mode) : P (s.keepCallMode mode).2 := by
  unfold State.keepCallMode
  split
  · exact h
  · rename_i v hv
    have hrate : s.rate = some v.bluetoothSamplerate := by rw [State.rate, hv, map_some]
    split
    · exact hP.setVoice h hrate.symm
    · split
      · exact hP.setVoice h hrate.symm
      · exact h

theorem setMode (hs : s.setMode b env mode = some s') : P s' := by
  have hkept := hP.keepCallMode h mode
  unfold State.setMode at hs
  dsimp only at hs
  split at hs
  · cases hs
    exact hkept
  · have hentered : P ((s.keepCallMode mode).2.enterMode (s.keepCallMode mode).1) := hP.core hkept rfl rfl
    unfold State.changeMode at hs
    split at hs
    · cases hs
      exact hentered
    · rename_i v hv
      obtain ⟨changed, hchanged, hs⟩ := unbind hs
      exact hP.reconfigActiveInput (hP.changeCall hentered hv hchanged) hs

theorem setCallForwarding (hs : s.setCallForwarding b env = some s') : P s' := by
  unfold State.setCallForwarding at hs
  split at hs
  · obtain ⟨updated, hupdated, hs⟩ := unbind hs
    obtain ⟨v, hv, hs⟩ := unbind hs
    cases hs
    suffices hsteady : P updated from hP.routed hsteady (.startVoiceCall hv)
    split at hupdated
    · exact hP.callUpdated h (State.updatePrimary_updated hupdated)
    · cases hupdated
      exact h
  · split at hs
    · exact hP.setRoutePlayback h hs
    · cases hs
      exact h

theorem rollback (hs : s.rollback b env a out = some s') : P s' := by
  have hdevs : P (s.modifyOut a fun o => { o with requestedDevices := out.rollbackDevices }) :=
    hP.touchOut h a fun _ => ⟨rfl, rfl⟩
  exact hP.setRoutePlayback hdevs hs

theorem rollbackFast (hs : s.rollbackFast b env = some s') : P s' := by
  unfold State.rollbackFast at hs
  split at hs
  · cases hs
    exact h
  · obtain ⟨out, -, hs⟩ := unbind hs
    split at hs
    · exact hP.rollback h hs
    · cases hs
      exact h

theorem setVoiceVolume {zero : Bool} (hs : s.setVoiceVolume b env zero = some s') : P s' := by
  obtain ⟨rolled, hrolled, hs⟩ := unbind hs
  cases hs
  suffices hsteady : P rolled from hP.core hsteady rfl rfl
  split at hrolled
  · cases hrolled
    exact h
  · unfold State.rollbackRoute at hrolled
    split at hrolled
    · obtain ⟨p, -, hrolled⟩ := unbind hrolled
      obtain ⟨out, -, hrolled⟩ := unbind hrolled
      split at hrolled
      · exact hP.rollback h hrolled
      · exact hP.rollbackFast h hrolled
    · exact hP.rollbackFast h hrolled

theorem setFactory (factory : Factory) (voiceRunning : Bool) : P (s.setFactory factory voiceRunning) :=
  hP.core h rfl rfl

theorem routeByStatus (hs : s.routeByStatus b env force = some s') : P s' := by
  unfold State.routeByStatus at hs
  split at hs
  · cases hs
    exact h
  · obtain ⟨out, -, hs⟩ := unbind hs
    exact hP.setRoutePlayback h hs

theorem endLoopback (hs : s.endLoopback b env = some s') : P s' := by
  obtain ⟨routed, hrouted, hs⟩ := unbind hs
  obtain ⟨v, hv, hs⟩ := unbind hs
  cases hs
  refine hP.setVoice (hP.routeByStatus (hP.setFactory h _ _) hrouted) ?_
  rw [State.rate, hv, map_some, map_some, v.setCallMode_rate]

theorem setFactoryPath {outDevice inDevice : Devices} (hs : s.setFactoryPath b env outDevice inDevice = some s') :
    P s' := by
  obtain ⟨routed, hrouted, hs⟩ := unbind hs
  cases hs
  suffices hsteady : P routed from hP.core hsteady rfl rfl
  unfold State.drivePrimary at hrouted
  split at hrouted
  · exact hP.setRoutePlayback (hP.setFactory h _ _) hrouted
  · cases hrouted
    exact hP.setFactory h _ _

theorem setFactoryRms {value : Option Bool} {inDevice : Option Devices}
    (hs : s.setFactoryRms b env value inDevice = some s') : P s' := by
  unfold State.setFactoryRms at hs
  dsimp only at hs
  split at hs
  · cases hs
    exact hP.setFactory h _ _
  · obtain ⟨input, -, hs⟩ := unbind hs
    split at hs
    · exact hP.setRouteCapture (hP.setFactory h _ _) hs
    · cases hs
      exact hP.setFactory h _ _

theorem setFmRadioVolume {on : Bool} (hs : s.setFmRadioVolume b env on = some s') : P s' := by
  unfold State.setFmRadioVolume at hs
  split at hs
  · obtain ⟨p, -, hs⟩ := unbind hs
    exact hP.setRoutePlayback h hs
  · split at hs
    · cases hs
      exact h
    · obtain ⟨p, -, hs⟩ := unbind hs
      obtain ⟨out, -, hs⟩ := unbind hs
      split at hs
      · exact hP.setRoutePlayback h hs
      · cases hs
        exact h

theorem setParameters {param : State.Param} (hrate : ∀ on, param ≠ .btScoWb on)
    (hs : s.setParameters b env param = some s') : P s' := by
  -- the managers do nothing without a voice
  have hmanaged {next : Option State} (hnext : ∀ {t}, next = some t → P t)
      (hs : (if s.voice.isNone then some s else next) = some s') : P s' := by
    split at hs
    · cases hs
      exact h
    · exact hnext hs
  cases param with
  | connect devices | disconnect devices =>
    unfold State.setParameters at hs
    dsimp only at hs
    split at hs
    · cases hs
      exact hP.core h rfl rfl
    · cases hs
      exact hP.core h rfl rfl
  | seamlessVoice on =>
    cases hs
    exact hP.core h rfl rfl
  | btScoWb on => exact absurd rfl (hrate on)
  | btNrec on | ttyMode mode | hac on =>
    cases hs
    exact hP.mapVoice h fun _ => rfl
  | factoryType mode =>
    refine hmanaged ?_ hs
    intro t ht
    cases ht
    exact hP.core h rfl rfl
  | factoryLoopback on =>
    refine hmanaged ?_ hs
    intro t ht
    split at ht
    · cases ht
      exact hP.core h rfl rfl
    · exact hP.endLoopback h ht
  | factoryPath outDevice inDevice => exact hmanaged (hP.setFactoryPath h) hs
  | factoryRoute device off => exact hmanaged (hP.routeByStatus (hP.setFactory h _ _)) hs
  | factoryRms value inDevice => exact hmanaged (hP.setFactoryRms h) hs
  | fmRadioMode on =>
    unfold State.setParameters at hs
    dsimp only at hs
    split at hs
    · cases hs
      exact h
    · cases hs
      exact hP.core h rfl rfl
  | fmRadioVolume on => exact hP.setFmRadioVolume h hs

theorem step {op : Op} (hsteers : op.steers) (hs : step b s (op, env) = some s') : P s' := by
  cases op with
  | outSetRouting a devices volume => exact hP.outSetRouting h hs
  | inSetRouting a devices => exact hP.inSetRouting h hs
  | inSetSource a source => exact hP.inSetSource h hs
  | setMode mode => exact hP.setMode h hs
  | setVoiceVolume zero => exact hP.setVoiceVolume h hs
  | setCallForwarding => exact hP.setCallForwarding h hs
  | setParameters param =>
    refine hP.setParameters h ?_ hs
    rintro on rfl
    cases hsteers
  | outDrain a =>
    obtain ⟨out, -, hs⟩ := unbind hs
    cases hs
    exact h
  | rilBand band =>
    cases hs
    exact hP.mapVoice h fun _ => rfl
  | setVoiceFlags realcall csvtcall callForwarding voipWificalling volteStatus vowifiBand =>
    cases hs
    exact hP.mapVoice h fun _ => rfl
  | setFlags supportReciever fmViaA2dp fmState =>
    cases hs
    exact hP.core h rfl rfl
  | _ => cases hsteers

end Steady

end ExynosHal.Audio
