import Mathlib.Logic.Relation
import ExynosHal.Audio.Steps
import ExynosHal.Library.Run

/-! # What the parts of an entry point leave alone

Routing changes nothing but the two paths, and each of them by a single move.
-/

namespace ExynosHal.Audio
open Library.Run (unbind)
open Relation
open Option (map_some)
open Function (update update_self)

inductive Path.Moves (modifier : DeviceType → Modifier) : Path → Path → Prop
  | refl (p : Path) : Moves modifier p p
  | route (p : Path) (new : Triple) (h : new.modifier = modifier new.device) : Moves modifier p (p.route new)
  | unroute (p : Path) (inUse : Bool) : Moves modifier p (p.unroute inUse)

def Rerouted (b : Build) (s s' : State) : Prop :=
  ∃ p c, s' = (s.setPlayback p).setCapture c ∧ s.playback.Moves (s.getModifier b) p ∧
    s.capture.Moves (s.getModifier b) c

namespace State

variable {b : Build} {env : Env} {s s' : State} {a : Addr}

theorem modifier_of_triple {usage : Option Usage} {device : Option DeviceType} {new : Triple}
    (h : (usage.bind fun u => device.bind fun d => some ⟨u, d, s.getModifier b d⟩) = some new) :
    new.modifier = s.getModifier b new.device := by
  obtain ⟨u, -, h⟩ := unbind h
  obtain ⟨d, -, h⟩ := unbind h
  cases h
  rfl

variable {out : StreamOut} {set : Bool}

theorem driveCapture_moves (h : s.driveCapture b out set = some s') :
    ∃ c, s' = s.setCapture c ∧ s.capture.Moves (s.getModifier b) c := by
  cases set with
  | true =>
    obtain ⟨new, hnew, h⟩ := unbind h
    cases h
    exact ⟨_, rfl, .route _ _ (modifier_of_triple hnew)⟩
  | false =>
    cases h
    exact ⟨_, rfl, .unroute _ _⟩

variable {drives captureSet : Bool}

theorem routePlayback_rerouted (h : s.routePlayback b out drives captureSet = some s') : Rerouted b s s' := by
  obtain ⟨new, hnew, h⟩ := unbind h
  have hroute := Path.Moves.route s.playback new (modifier_of_triple hnew)
  split at h
  · cases h
    exact ⟨s.playback, s.capture, rfl, .refl _, .refl _⟩
  · split at h
    · obtain ⟨c, rfl, hc⟩ := driveCapture_moves h
      exact ⟨_, c, rfl, hroute, hc⟩
    · cases h
      exact ⟨_, s.capture, rfl, hroute, .refl _⟩

variable {force : Force}

theorem unroutePlayback_rerouted
    (h : s.unroutePlayback b a out force drives captureSet = some s') : Rerouted b s s' := by
  have hunroute : s.playback.Moves (s.getModifier b) (s.playback.unroute (s.playbackInUse a force)) := .unroute _ _
  unfold unroutePlayback at h
  dsimp only at h
  split at h
  · obtain ⟨c, rfl, hc⟩ := driveCapture_moves h
    exact ⟨_, c, rfl, hunroute, hc⟩
  · cases h
    exact ⟨_, s.capture, rfl, hunroute, .refl _⟩

theorem setRoutePlayback_rerouted (h : s.setRoutePlayback b env a set force = some s') : Rerouted b s s' := by
  obtain ⟨out, -, h⟩ := unbind h
  obtain ⟨captureSet, -, h⟩ := unbind h
  cases set with
  | true => exact routePlayback_rerouted h
  | false => exact unroutePlayback_rerouted h

theorem setRouteCapture_rerouted (h : s.setRouteCapture b env a set force = some s') : Rerouted b s s' := by
  obtain ⟨input, -, h⟩ := unbind h
  split at h
  · obtain ⟨p, -, h⟩ := unbind h
    exact setRoutePlayback_rerouted h
  · split at h
    · obtain ⟨new, hnew, h⟩ := unbind h
      cases h
      exact ⟨s.playback, _, rfl, .refl _, .route _ _ (modifier_of_triple hnew)⟩
    · cases h
      exact ⟨s.playback, _, rfl, .refl _, .unroute _ _⟩

end State

theorem Rerouted.refl {b : Build} (s : State) : Rerouted b s s := ⟨s.playback, s.capture, rfl, .refl _, .refl _⟩

def State.recast (s : State) (p c : Path) (v : Option Voice) (running incallmusicOn : Bool) : State :=
  { s with playback := p, capture := c, voice := v, voiceRunning := running, incallmusicOn }

def State.rate (s : State) : Option Nat := s.voice.map Voice.bluetoothSamplerate

def SameStreams (b : Build) (s s' : State) : Prop :=
  ∃ p c v running incallmusicOn, s' = s.recast p c v running incallmusicOn ∧ s'.rate = s.rate ∧
    ReflTransGen (Path.Moves (s.getModifier b)) s.playback p ∧ ReflTransGen (Path.Moves (s.getModifier b)) s.capture c

def CallUpdated (b : Build) (env : Env) (s s' : State) : Prop :=
  SameStreams b s s' ∨ ∃ changed, SameStreams b (s.updateStreams env changed) s'

section
variable {b : Build} {env : Env} {s s' s'' : State} {a : Addr}

theorem getModifier_congr (h : s'.rate = s.rate) : s'.getModifier b = s.getModifier b := by
  have hwb : ∀ t : State, (t.voice.any fun v => v.bluetoothSamplerate == wbSamplingRate) =
      t.rate.any (· == wbSamplingRate) := by
    intro t
    unfold State.rate
    cases t.voice <;> rfl
  funext device
  unfold State.getModifier
  rw [hwb, hwb, h]

theorem SameStreams.of_recast {running on : Bool} {v : Option Voice}
    (h : v.map Voice.bluetoothSamplerate = s.voice.map Voice.bluetoothSamplerate) :
    SameStreams b s (s.recast s.playback s.capture v running on) :=
  ⟨s.playback, s.capture, v, running, on, rfl, h, .refl, .refl⟩

theorem SameStreams.refl (s : State) : SameStreams b s s := of_recast rfl

theorem SameStreams.trans (h : SameStreams b s s') (h' : SameStreams b s' s'') : SameStreams b s s'' := by
  obtain ⟨p, c, v, running, on, rfl, hv, hp, hc⟩ := h
  obtain ⟨p', c', v', running', on', rfl, hv', hp', hc'⟩ := h'
  rw [getModifier_congr hv] at hp' hc'
  exact ⟨p', c', v', running', on', rfl, hv'.trans hv, hp.trans hp', hc.trans hc'⟩

theorem Rerouted.sameStreams (h : Rerouted b s s') : SameStreams b s s' := by
  obtain ⟨p, c, rfl, hp, hc⟩ := h
  exact ⟨p, c, s.voice, s.voiceRunning, s.incallmusicOn, rfl, rfl, .single hp, .single hc⟩

variable (v : Voice)

theorem Voice.setCallActive_rate (on : Bool) : (v.setCallActive on).bluetoothSamplerate = v.bluetoothSamplerate := by
  unfold Voice.setCallActive
  split
  · rfl
  · split <;> rfl

theorem Voice.setCallMode_rate (on : Bool) : (v.setCallMode env on).bluetoothSamplerate = v.bluetoothSamplerate := by
  unfold Voice.setCallMode
  split
  · rfl
  · split <;> rfl

theorem SameStreams.stopVoiceCall {v : Voice} (h : s.rate = some v.bluetoothSamplerate) :
    SameStreams b s (s.stopVoiceCall v) := by
  refine of_recast ?_
  rw [map_some, v.setCallActive_rate]
  exact h.symm

theorem SameStreams.startVoiceCall {v : Voice} (h : s.voice = some v) : SameStreams b s (s.startVoiceCall v) := by
  refine of_recast ?_
  rw [h, map_some, map_some, v.setCallActive_rate]

theorem CallUpdated.trans_sameStreams (h : CallUpdated b env s s') (h' : SameStreams b s' s'') :
    CallUpdated b env s s'' := by
  rcases h with h | ⟨changed, h⟩
  · exact Or.inl (h.trans h')
  · exact Or.inr ⟨changed, h.trans h'⟩

theorem CallUpdated.of_incallmusicOn {on : Bool} (h : CallUpdated b env { s with incallmusicOn := on } s') :
    CallUpdated b env s s' := by
  rcases h with ⟨p, c, v, running, on', rfl, h⟩ | ⟨changed, p, c, v, running, on', rfl, h⟩
  · exact Or.inl ⟨p, c, v, running, on', rfl, h⟩
  · exact Or.inr ⟨changed, p, c, v, running, on', rfl, h⟩

theorem SameStreams.outs_eq (h : SameStreams b s s') : s'.outs = s.outs := by
  obtain ⟨p, c, v, running, on, rfl, -⟩ := h
  rfl

theorem SameStreams.ins_eq (h : SameStreams b s s') : s'.ins = s.ins := by
  obtain ⟨p, c, v, running, on, rfl, -⟩ := h
  rfl

theorem SameStreams.amode_eq (h : SameStreams b s s') : s'.amode = s.amode := by
  obtain ⟨p, c, v, running, on, rfl, -⟩ := h
  rfl

theorem CallUpdated.amode_eq (h : CallUpdated b env s s') : s'.amode = s.amode := by
  rcases h with h | ⟨changed, h⟩ <;> exact h.amode_eq

namespace State

theorem modifyOut_outs (s : State) (a : Addr) (f : StreamOut → StreamOut) :
    (s.modifyOut a f).outs = update s.outs a ((s.outs a).map f) :=
  rfl

theorem modifyIn_ins (s : State) (a : Addr) (f : StreamIn → StreamIn) :
    (s.modifyIn a f).ins = update s.ins a ((s.ins a).map f) :=
  rfl

variable {out : StreamOut}

theorem modifyOut_self {f : StreamOut → StreamOut} (h : s.outs a = some out) :
    (s.modifyOut a f).outs a = some (f out) := by
  rw [modifyOut_outs, update_self, h, map_some]

variable {input : StreamIn}

theorem modifyIn_self {f : StreamIn → StreamIn} (h : s.ins a = some input) :
    (s.modifyIn a f).ins a = some (f input) := by
  rw [modifyIn_ins, update_self, h, map_some]

variable {devices : Devices} {force : Force}

theorem routeAs_rerouted (h : s.routeAs b env a devices force = some s') : Rerouted b s s' := by
  obtain ⟨out, hout, h⟩ := unbind h
  obtain ⟨routed, hrouted, h⟩ := unbind h
  obtain ⟨p, c, rfl, hp, hc⟩ := setRoutePlayback_rerouted hrouted
  cases h
  refine ⟨p, c, ?_, hp, hc⟩
  -- the devices are as they were before
  have houts : update (update s.outs a ((s.outs a).map fun out => { out with requestedDevices := devices }))
      a (((s.modifyOut a fun out => { out with requestedDevices := devices }).outs a).map fun o =>
        { o with requestedDevices := out.requestedDevices }) = s.outs := by
    rw [Function.update_idem]
    simp only [modifyOut, update_self, hout, map_some]
    exact Function.update_eq_self_iff.mpr hout.symm
  unfold modifyOut setPlayback setCapture
  dsimp only
  congr 1

theorem stopForChange_sameStreams {changed : Bool} (h : s.stopForChange changed = some s') : SameStreams b s s' := by
  unfold stopForChange at h
  split at h
  · obtain ⟨v, hv, rfl⟩ := Option.map_eq_some_iff.mp h
    exact .stopVoiceCall (by rw [State.rate, hv, map_some])
  · cases h
    exact .refl s

theorem routeCall_rerouted (h : s.routeCall b env a = some s') : Rerouted b s s' := by
  unfold routeCall at h
  split at h
  · exact setRoutePlayback_rerouted h
  · obtain ⟨out, -, h⟩ := unbind h
    split at h
    · exact setRoutePlayback_rerouted h
    · cases h
      exact .refl s

theorem updateCallStream_updated {current new : Devices} (h : s.updateCallStream b env a current new = some s') :
    CallUpdated b env s s' := by
  obtain ⟨changed, -, h⟩ := unbind h
  obtain ⟨stopped, hstopped, h⟩ := unbind h
  exact Or.inr ⟨changed, (stopForChange_sameStreams hstopped).trans (routeCall_rerouted h).sameStreams⟩

theorem updatePrimary_updated (h : s.updatePrimary b env = some s') : CallUpdated b env s s' := by
  obtain ⟨a, -, h⟩ := unbind h
  obtain ⟨out, -, h⟩ := unbind h
  exact updateCallStream_updated h

theorem routeForWrite_sameStreams (h : s.routeForWrite b env a out = some s') : SameStreams b s s' := by
  unfold routeForWrite at h
  split at h
  · obtain ⟨v, hv, h⟩ := unbind h
    obtain ⟨routed, hrouted, h⟩ := unbind h
    obtain ⟨v', hv', h⟩ := unbind h
    cases h
    have hstopped : SameStreams b s ({ s with incallmusicOn := true }.stopVoiceCall v) := by
      refine .of_recast ?_
      rw [hv, map_some, map_some, v.setCallActive_rate]
    exact (hstopped.trans (setRoutePlayback_rerouted hrouted).sameStreams).trans (.startVoiceCall hv')
  · split at h
    · split at h
      · exact (routeAs_rerouted h).sameStreams
      · exact (setRoutePlayback_rerouted h).sameStreams
    · cases h
      exact .refl s

theorem unrouteForStandby_updated (h : s.unrouteForStandby b env a out = some s') : CallUpdated b env s s' := by
  unfold unrouteForStandby at h
  split at h
  · split at h
    · dsimp only at h
      split at h
      · obtain ⟨updated, hupdated, h⟩ := unbind h
        cases h
        have hrunning : SameStreams b updated { updated with voiceRunning := true } := .of_recast rfl
        exact (CallUpdated.of_incallmusicOn (updatePrimary_updated hupdated)).trans_sameStreams hrunning
      · cases h
        exact Or.inl (.of_recast rfl)
    · have hrerouted := (setRoutePlayback_rerouted h).sameStreams
      refine Or.inl (SameStreams.trans ?_ hrerouted)
      split
      · exact .of_recast rfl
      · exact .refl s
  · cases h
    exact Or.inl (.refl s)

theorem reconfigForRead_spec (h : s.reconfigForRead b env a input = some s') :
    ∃ t, Rerouted b s t ∧ (s' = t ∨ ∃ usage, ((input.streamType = .capturePrimary ∨ input.streamType = .captureCall) ∧
      ∃ type, (type = .capturePrimary ∨ type = .captureCall) ∧
        s' = t.modifyIn a fun input => { input with streamType := type, streamUsage := usage })) := by
  unfold reconfigForRead at h
  split at h
  · rename_i hkind
    obtain ⟨t, ht, h⟩ := unbind h
    obtain ⟨usage, -, h⟩ := unbind h
    cases h
    refine ⟨t, ?_, Or.inr ⟨usage, ?_, _, ?_, rfl⟩⟩
    · split at ht
      · cases ht
        exact .refl s
      · exact setRouteCapture_rerouted ht
    · rcases hkind with ⟨-, hprim⟩ | ⟨-, hcall⟩
      · exact Or.inl hprim
      · exact Or.inr hcall
    · split
      · exact Or.inr rfl
      · exact Or.inl rfl
  · cases h
    exact ⟨s, .refl s, Or.inl rfl⟩

theorem routeForRead_rerouted (h : s.routeForRead b env a = some s') : Rerouted b s s' := by
  obtain ⟨input, -, h⟩ := unbind h
  split at h
  · split at h
    · cases h
      exact .refl s
    · split at h
      · cases h
        exact .refl s
      · exact setRouteCapture_rerouted h
  · cases h
    exact .refl s

theorem unrouteForInStandby_rerouted (h : s.unrouteForInStandby b env a input = some s') : Rerouted b s s' := by
  unfold unrouteForInStandby at h
  split at h
  · exact setRouteCapture_rerouted h
  · cases h
    exact .refl s

theorem outRoutePath_updated (h : s.outRoutePath b env a out devices force = some s') : CallUpdated b env s s' := by
  unfold outRoutePath at h
  split at h
  · exact updateCallStream_updated h
  · split at h
    · exact Or.inl (routeAs_rerouted h).sameStreams
    · exact Or.inl (setRoutePlayback_rerouted h).sameStreams

theorem startCallIfNeeded_sameStreams (b : Build) (s : State) (a : Addr) (out : StreamOut) :
    SameStreams b s (s.startCallIfNeeded a out) := by
  unfold startCallIfNeeded
  split
  · split
    · rename_i hv
      split
      · exact .refl s
      · exact .startVoiceCall hv
    · exact .refl s
  · exact .refl s

theorem openRecording_spec (h : s.openRecording b env a input = some s') :
    ∃ fmState type usage, Rerouted b ({ s with fmState }.putInput a input type usage) s' := by
  unfold openRecording at h
  dsimp only at h
  split at h
  · cases h
    exact ⟨s.fmState, _, _, .refl _⟩
  · split at h
    · exact ⟨.on, _, _, setRouteCapture_rerouted h⟩
    · split at h
      · cases h
        exact ⟨s.fmState, _, _, .refl _⟩
      · split at h
        · exact ⟨s.fmState, _, _, setRouteCapture_rerouted h⟩
        · cases h
          exact ⟨s.fmState, _, _, .refl _⟩

theorem placeInput_spec {sampleRate : Nat} (h : s.placeInput b env a input sampleRate = some (some s')) :
    ∃ fmState type usage, Rerouted b ({ s with fmState }.putInput a input type usage) s' := by
  unfold placeInput at h
  dsimp only at h
  split at h
  · cases h
    exact ⟨s.fmState, _, _, .refl _⟩
  · split at h
    · obtain ⟨t, ht, h⟩ := Option.map_eq_some_iff.mp h
      cases h
      exact openRecording_spec ht
    · split at h
      · cases h
        exact ⟨s.fmState, _, _, .refl _⟩
      · split at h
        · cases h
          exact ⟨s.fmState, _, _, .refl _⟩
        · cases h

def closedOut (s : State) (a : Addr) : State :=
  ((s.modifyOut a fun out => { out with released := true }).proxyClosePlayback a).setOutStatus a .standby

def closedIn (s : State) (a : Addr) : State :=
  ((s.modifyIn a fun input => { input with released := true }).proxyCloseCapture a).setInStatus a .standby

theorem outStandby_cases (h : s.outStandby b env a = some s') : ∃ out, s.outs a = some out ∧
      (out.streamStatus = .standby ∧ s' = s.modifyOut a (fun out => { out with released := true }) ∨
        out.streamStatus ≠ .standby ∧ ∃ unrouted, (s.closedOut a).unrouteForStandby b env a out = some unrouted ∧
          s' = unrouted.modifyOut a fun out => { out with force := .nonForceRoute, rollbackDevices := 0 }) := by
  obtain ⟨out, hout, h⟩ := unbind h
  refine ⟨out, hout, ?_⟩
  split at h
  · rename_i hstat
    obtain ⟨unrouted, hunrouted, h⟩ := unbind h
    cases h
    exact Or.inr ⟨hstat, unrouted, hunrouted, rfl⟩
  · rename_i hstat
    cases h
    exact Or.inl ⟨not_not.mp hstat, rfl⟩

theorem inStandby_cases (h : s.inStandby b env a = some s') : ∃ input, s.ins a = some input ∧
      (input.streamStatus = .standby ∧ s' = s.modifyIn a (fun input => { input with released := true }) ∨
        input.streamStatus ≠ .standby ∧ ∃ unrouted, (s.closedIn a).unrouteForInStandby b env a input = some unrouted ∧
          s' = { unrouted with activeInput := none }) := by
  obtain ⟨input, hinput, h⟩ := unbind h
  refine ⟨input, hinput, ?_⟩
  split at h
  · rename_i hstat
    obtain ⟨unrouted, hunrouted, h⟩ := unbind h
    cases h
    exact Or.inr ⟨hstat, unrouted, hunrouted, rfl⟩
  · rename_i hstat
    cases h
    exact Or.inl ⟨not_not.mp hstat, rfl⟩

end State

theorem keepCallMode_mode (s : State) (mode : Mode) :
    (s.keepCallMode mode).1 = mode ∨ (s.keepCallMode mode).1 = s.amode := by
  unfold State.keepCallMode
  split
  · exact Or.inl rfl
  · split
    · exact Or.inr rfl
    · split <;> exact Or.inl rfl

end

end ExynosHal.Audio
