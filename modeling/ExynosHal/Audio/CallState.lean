import ExynosHal.Audio.Frames

/-! # Call status, mode and the voice call of the proxy

The call status follows the mode, and the voice call follows the status.
-/

namespace ExynosHal.Audio
open Library.Run
open Option (any_some map_eq_some_iff map_some)

structure CallAgrees (s : State) : Prop where
  callMode : s.voice.any Voice.isCallMode = true ↔ s.amode = .inCall
  callActive : s.voiceRunning = true ↔ s.voice.any Voice.isCallActive = true

structure Connected (s : State) : Prop where
  voice : ∃ v, s.voice = some v ∧ v.callStatus = .connected
  amode : s.amode ≠ .inCall
  voiceRunning : s.voiceRunning = false

def Op.isCallStep : Op → Bool
  | .setMode _ | .outSetRouting .. | .outWrite .. | .outStandby _ | .setCallForwarding | .setVoiceFlags .. => true
  | .openOutput .. | .closeOutput _ | .openInput .. | .closeInput _ => true
  | _ => false

def State.musicClosed (s : State) (a : Addr) : State :=
  { ((s.modifyOut a fun out => { out with released := true }).proxyClosePlayback a).setOutStatus a .standby with
      incallmusicOn := false }

def MusicKeepsCall (b : Build) (env : Env) (s : State) (a : Addr) : Prop :=
  ∀ out ∈ s.outs a, out.streamType = .playbackIncallMusic → out.streamStatus ≠ .standby → s.playback.isRouted →
    s.incallmusicOn → s.isCPCallMode → ∀ p ∈ s.primaryOutput,
      s.voice.any Voice.isCallActive = true ∧ s.playback.active.usage ≠ .incallMusic ∧
        ∀ primary ∈ (s.musicClosed a).outs p,
          (s.musicClosed a).deviceChanged b env primary.requestedDevices primary.requestedDevices = some false

def LeavesActive (s : State) (mode : Mode) : Prop := s.amode = .inCall → (s.keepCallMode mode).1 ≠ .inCall →
    (mode = .normal ∨ mode = .inCommunication) ∧ s.voice.any Voice.isCallActive = true

def CallStepOk (b : Build) (s : State) : Op × Env → Prop
  | (.setMode mode, _) => LeavesActive s mode
  | (.outStandby a, env) => MusicKeepsCall b env s a
  | (.closeOutput a, env) => MusicKeepsCall b env s a
  | _ => True

def State.callView (s : State) : Option (CallStatus × Bool × Mode) :=
  s.voice.map fun v => (v.callStatus, s.voiceRunning, s.amode)

def CallStatus.stop : CallStatus → CallStatus
  | .active => .incallmode
  | status => status

def CallStatus.start : CallStatus → CallStatus
  | .incallmode => .active
  | status => status

def stopView (view : CallStatus × Bool × Mode) : CallStatus × Bool × Mode := (view.1.stop, false, view.2.2)

def startView (view : CallStatus × Bool × Mode) : CallStatus × Bool × Mode := (view.1.start, true, view.2.2)

structure Agrees (view : CallStatus × Bool × Mode) : Prop where
  connected : view.1 ≠ .invalid
  callMode : view.1 = .incallmode ∨ view.1 = .active ↔ view.2.2 = .inCall
  callActive : view.2.1 ↔ view.1 = .active

variable {view : CallStatus × Bool × Mode}

theorem Agrees.stopView (h : Agrees view) : Agrees (stopView view) := by
  obtain ⟨status, running, mode⟩ := view
  obtain ⟨hconnected, hmode, hact⟩ := h
  cases status with
  | invalid => exact absurd rfl hconnected
  | connected => exact ⟨nofun, hmode, ⟨nofun, nofun⟩⟩
  | incallmode => exact ⟨nofun, hmode, ⟨nofun, nofun⟩⟩
  | active => exact ⟨nofun, ⟨fun _ => hmode.mp (Or.inr rfl), fun _ => Or.inl rfl⟩, ⟨nofun, nofun⟩⟩

theorem Agrees.startView (h : Agrees view) (hcall : view.2.2 = .inCall) :
    Agrees (startView view) := by
  obtain ⟨status, running, mode⟩ := view
  obtain ⟨hconnected, hmode, hact⟩ := h
  have hstart : status.start = .active := by
    rcases hmode.mpr hcall with rfl | rfl <;> rfl
  refine ⟨?_, ?_, ?_⟩
  · rw [Audio.startView, hstart]
    exact nofun
  · exact ⟨fun _ => hcall, fun _ => Or.inr hstart⟩
  · exact ⟨fun _ => hstart, fun _ => rfl⟩

def CallInv (s : State) : Prop := ∃ view, s.callView = some view ∧ Agrees view

section
variable {b : Build} {env : Env} {s s' : State} {a : Addr}

theorem CallInv.callAgrees (h : CallInv s) : CallAgrees s := by
  obtain ⟨view, hview, hagrees⟩ := h
  obtain ⟨v, hv, rfl⟩ := map_eq_some_iff.mp hview
  refine ⟨?_, ?_⟩
  · rw [hv, any_some, ← hagrees.callMode, Voice.isCallMode, Bool.or_eq_true, beq_iff_eq, beq_iff_eq]
  · rw [hv, any_some, Voice.isCallActive, beq_iff_eq]
    exact hagrees.callActive

theorem Connected.callInv (h : Connected s) : CallInv s := by
  obtain ⟨v, hv, hstat⟩ := h.voice
  refine ⟨(v.callStatus, s.voiceRunning, s.amode), by rw [State.callView, hv, map_some], ?_⟩
  rw [hstat, h.voiceRunning]
  refine ⟨nofun, ⟨?_, fun hcall => absurd hcall h.amode⟩, ⟨nofun, nofun⟩⟩
  rintro (hcall | hcall) <;> cases hcall

theorem Rerouted.callView (h : Rerouted b s s') : s'.callView = s.callView := by
  obtain ⟨p, c, rfl, -⟩ := h
  rfl

theorem Voice.setCallActive_false (v : Voice) : (v.setCallActive false).callStatus = v.callStatus.stop := by
  obtain ⟨status⟩ := v
  cases status <;> rfl

theorem Voice.setCallActive_true (v : Voice) : (v.setCallActive true).callStatus = v.callStatus.start := by
  obtain ⟨status⟩ := v
  cases status <;> rfl

variable {v : Voice}

theorem stopVoiceCall_callView (h : s.voice.map Voice.callStatus = some v.callStatus) :
    (s.stopVoiceCall v).callView = s.callView.map stopView := by
  obtain ⟨v', hv', hstat⟩ := map_eq_some_iff.mp h
  rw [State.callView, State.callView, hv', map_some, map_some]
  simp only [State.stopVoiceCall, map_some, Voice.setCallActive_false, stopView, hstat]

theorem startVoiceCall_callView (h : s.voice = some v) : (s.startVoiceCall v).callView = s.callView.map startView := by
  rw [State.callView, State.callView, h, map_some, map_some]
  simp only [State.startVoiceCall, map_some, Voice.setCallActive_true, startView]

def AtMostStopped (s s' : State) : Prop := s'.callView = s.callView ∨ s'.callView = s.callView.map stopView

theorem CallInv.congr (h : CallInv s) (hview : s'.callView = s.callView) : CallInv s' := by
  obtain ⟨view, hs, hagrees⟩ := h
  exact ⟨view, hview.trans hs, hagrees⟩

theorem CallInv.atMostStopped (h : CallInv s) (hs : AtMostStopped s s') : CallInv s' := by
  obtain ⟨view, hview, hagrees⟩ := h
  rcases hs with hs | hs
  · exact ⟨view, hs.trans hview, hagrees⟩
  · exact ⟨stopView view, by rw [hs, hview, map_some], hagrees.stopView⟩

theorem CallInv.start (h : CallInv s) (hv : s.voice = some v) (hcall : s.isCPCallMode = true) :
    CallInv (s.startVoiceCall v) := by
  obtain ⟨view, hview, hagrees⟩ := h
  refine ⟨startView view, by rw [startVoiceCall_callView hv, hview, map_some], hagrees.startView ?_⟩
  obtain ⟨v', -, rfl⟩ := map_eq_some_iff.mp hview
  exact eq_of_beq hcall

end

section
variable {b : Build} {env : Env} {s s' : State} {a : Addr}

theorem stopForChange_atMostStopped {changed : Bool} (h : s.stopForChange changed = some s') : AtMostStopped s s' := by
  unfold State.stopForChange at h
  split at h
  · obtain ⟨v, hv, rfl⟩ := map_eq_some_iff.mp h
    exact Or.inr (stopVoiceCall_callView (by rw [hv, map_some]))
  · cases h
    exact Or.inl rfl

theorem updateCallStream_atMostStopped {current new : Devices} (h : s.updateCallStream b env a current new = some s') :
    AtMostStopped s s' := by
  obtain ⟨changed, -, h⟩ := unbind h
  obtain ⟨stopped, hstopped, h⟩ := unbind h
  have hview := (State.routeCall_rerouted h).callView
  rcases stopForChange_atMostStopped hstopped with hsame | hstop
  · exact Or.inl (hview.trans hsame)
  · exact Or.inr (hview.trans hstop)

theorem updatePrimary_atMostStopped (h : s.updatePrimary b env = some s') : AtMostStopped s s' := by
  obtain ⟨p, -, h⟩ := unbind h
  obtain ⟨out, -, h⟩ := unbind h
  exact updateCallStream_atMostStopped h

theorem updatePrimary_callView (husage : s.playback.active.usage ≠ .incallMusic)
    (hchanged : ∀ p ∈ s.primaryOutput, ∀ primary ∈ s.outs p,
      s.deviceChanged b env primary.requestedDevices primary.requestedDevices = some false)
    (h : s.updatePrimary b env = some s') : s'.callView = s.callView := by
  obtain ⟨p, hp, h⟩ := unbind h
  obtain ⟨out, hout, h⟩ := unbind h
  obtain ⟨changed, hdev, h⟩ := unbind h
  cases (hchanged p hp out hout).symm.trans hdev
  obtain ⟨stopped, hstopped, h⟩ := unbind h
  have hview := (State.routeCall_rerouted h).callView
  unfold State.stopForChange at hstopped
  rw [if_neg] at hstopped
  · cases hstopped
    exact hview
  · rintro (⟨hfalse, -⟩ | hmusic)
    · cases hfalse
    · exact husage hmusic

variable {out : StreamOut} {devices : Devices}

theorem CallInv.outRoutePath (h : CallInv s) {force : Force}
    (hs : s.outRoutePath b env a out devices force = some s') : CallInv s' := by
  unfold State.outRoutePath at hs
  split at hs
  · exact h.atMostStopped (updateCallStream_atMostStopped hs)
  · split at hs
    · exact h.congr (State.routeAs_rerouted hs).callView
    · exact h.congr (State.setRoutePlayback_rerouted hs).callView

theorem CallInv.startCallIfNeeded (h : CallInv s) (out : StreamOut) : CallInv (s.startCallIfNeeded a out) := by
  unfold State.startCallIfNeeded
  split
  · rename_i hcall
    split
    · rename_i v hv
      split
      · exact h
      · exact h.start hv hcall.2
    · exact h
  · exact h

theorem chooseForce_callView (h : s.chooseForce env a out devices = some s') : s'.callView = s.callView := by
  unfold State.chooseForce at h
  dsimp only at h
  split at h
  · cases h
    rfl
  · split at h
    · obtain ⟨both, -, h⟩ := unbind h
      have hboth : ((s.modifyOut a fun out => { out with force := .nonForceRoute }).markCallDrive a both).callView =
          s.callView := by
        unfold State.markCallDrive
        split <;> rfl
      split at h
      · cases h
        exact hboth
      · cases h
        exact hboth
    · cases h
      rfl

theorem CallInv.outSetRouting (h : CallInv s) {volume : Option Bool}
    (hs : s.outSetRouting b env a devices volume = some s') : CallInv s' := by
  obtain ⟨out, -, hs⟩ := unbind hs
  dsimp only at hs
  split at hs
  · split at hs
    · obtain ⟨chosen, hchosen, hs⟩ := unbind hs
      obtain ⟨forced, -, hs⟩ := unbind hs
      obtain ⟨routed, hrouted, hs⟩ := unbind hs
      cases hs
      have hview := chooseForce_callView hchosen
      have hchosen : CallInv chosen := h.congr hview
      have hvol : CallInv { chosen with voiceVolumeZero := volume.getD chosen.voiceVolumeZero } := hchosen.congr rfl
      exact (hvol.outRoutePath hrouted).startCallIfNeeded out
    · split at hs
      · cases hs
        exact h.congr rfl
      · cases hs
        exact h.congr rfl
  · split at hs
    · have hview := (State.setRoutePlayback_rerouted hs).callView
      exact h.congr hview
    · cases hs
      exact h.congr rfl

theorem CallInv.routeForWrite (h : CallInv s) (hs : s.routeForWrite b env a out = some s') : CallInv s' := by
  unfold State.routeForWrite at hs
  split at hs
  · rename_i hmusic
    obtain ⟨v, hv, hs⟩ := unbind hs
    obtain ⟨routed, hrouted, hs⟩ := unbind hs
    obtain ⟨v', hv', hs⟩ := unbind hs
    cases hs
    have hon : CallInv { s with incallmusicOn := true } := h.congr rfl
    have hstopped : CallInv ({ s with incallmusicOn := true }.stopVoiceCall v) :=
      hon.atMostStopped (Or.inr (stopVoiceCall_callView (congrArg (Option.map Voice.callStatus) hv)))
    have hrerouted := State.setRoutePlayback_rerouted hrouted
    have hmode : routed.amode = s.amode := hrerouted.sameStreams.amode_eq
    refine (hstopped.congr hrerouted.callView).start hv' ?_
    rw [State.isCPCallMode, hmode]
    exact hmusic.2
  · split at hs
    · split at hs
      · exact h.congr (State.routeAs_rerouted hs).callView
      · exact h.congr (State.setRoutePlayback_rerouted hs).callView
    · cases hs
      exact h

theorem writeData_callView {data : Bool} (h : s.writeData env a data = some s') : s'.callView = s.callView := by
  obtain ⟨out, -, h⟩ := unbind h
  dsimp only at h
  split at h
  · split at h
    · split at h
      · cases h
        rfl
      · cases h
        rfl
    · cases h
      rfl
  · cases h
    rfl

theorem proxyOpenPlayback_callView (s : State) (env : Env) (a : Addr) :
    (s.proxyOpenPlayback env a).callView = s.callView := by
  unfold State.proxyOpenPlayback
  dsimp only
  split <;> rfl

theorem CallInv.outWrite (h : CallInv s) {data : Bool} (hs : s.outWrite b env a data = some s') : CallInv s' := by
  obtain ⟨out, -, hs⟩ := unbind hs
  have hused : CallInv (s.useOut a) := h.congr rfl
  split at hs
  · obtain ⟨routed, hrouted, hs⟩ := unbind hs
    have hready : CallInv ((s.useOut a).setOutStatus a .ready) := hused.congr rfl
    have hopened := (hready.routeForWrite hrouted).congr (proxyOpenPlayback_callView routed env a)
    dsimp only at hs
    split at hs
    · have hidle : CallInv ((routed.proxyOpenPlayback env a).setOutStatus a .idle) := hopened.congr rfl
      exact hidle.congr (writeData_callView hs)
    · cases hs
      exact hopened
  · exact hused.congr (writeData_callView hs)

theorem CallInv.outStandby (h : CallInv s) (hmusic : MusicKeepsCall b env s a) (hs : s.outStandby b env a = some s') :
    CallInv s' := by
  obtain ⟨out, hout, ⟨-, rfl⟩ | ⟨hstat, unrouted, hunrouted, rfl⟩⟩ := State.outStandby_cases hs
  · exact h.congr rfl
  · suffices hinv : CallInv unrouted from hinv.congr rfl
    unfold State.unrouteForStandby at hunrouted
    split at hunrouted
    · rename_i hrouted
      split at hunrouted
      · rename_i hcall
        dsimp only at hunrouted
        split at hunrouted
        · rename_i hprim
          obtain ⟨p, hp⟩ := Option.isSome_iff_exists.mp hprim
          obtain ⟨hact, husage, hchanged⟩ := hmusic out hout hcall.1 hstat hrouted hcall.2.1 hcall.2.2 p hp
          obtain ⟨updated, hupdated, hunrouted⟩ := unbind hunrouted
          cases hunrouted
          have hview : updated.callView = s.callView := by
            refine updatePrimary_callView (s := s.musicClosed a) husage ?_ hupdated
            intro p' hp' primary hprim'
            cases hp.symm.trans hp'
            exact hchanged primary hprim'
          -- the voice call is running already
          have hrunning : updated.voiceRunning := by
            obtain ⟨view, hs, hagrees⟩ := h
            rw [hs] at hview
            obtain ⟨v, hv, rfl⟩ := map_eq_some_iff.mp hs
            obtain ⟨v', hv', heq⟩ := map_eq_some_iff.mp hview
            rw [hv, any_some, Voice.isCallActive, beq_iff_eq] at hact
            have hrunning : s.voiceRunning := hagrees.callActive.mpr hact
            injection heq with _ heq
            injection heq with heq _
            exact heq.trans hrunning
          have hsame : { updated with voiceRunning := true }.callView = updated.callView := by
            rw [State.callView, State.callView, hrunning]
          exact h.congr (hsame.trans hview)
        · cases hunrouted
          exact h.congr rfl
      · have hview := (State.setRoutePlayback_rerouted hunrouted).callView
        refine h.congr (hview.trans ?_)
        split <;> rfl
    · cases hunrouted
      exact h.congr rfl

theorem CallInv.setCallForwarding (h : CallInv s) (hs : s.setCallForwarding b env = some s') : CallInv s' := by
  unfold State.setCallForwarding at hs
  split at hs
  · rename_i hmode
    obtain ⟨updated, hupdated, hs⟩ := unbind hs
    obtain ⟨v, hv, hs⟩ := unbind hs
    cases hs
    have hcall : s.amode = .inCall := h.callAgrees.callMode.mp hmode
    obtain ⟨hinv, hamode⟩ : CallInv updated ∧ updated.amode = s.amode := by
      split at hupdated
      · exact ⟨h.atMostStopped (updatePrimary_atMostStopped hupdated), (State.updatePrimary_updated hupdated).amode_eq⟩
      · cases hupdated
        exact ⟨h, rfl⟩
    refine hinv.start hv ?_
    rw [State.isCPCallMode, hamode, hcall]
    rfl
  · split at hs
    · exact h.congr (State.setRoutePlayback_rerouted hs).callView
    · cases hs
      exact h

theorem openOutput_callView {flags : Flags} (hvoice : s.voice.isSome)
    (h : s.openOutput b env a devices flags = some s') : s'.callView = s.callView := by
  have hinit : ∀ type, s.initVoice env type = s := by
    intro type
    unfold State.initVoice
    rw [if_neg]
    rintro ⟨-, hnone⟩
    rw [Option.isNone_iff_eq_none] at hnone
    rw [hnone] at hvoice
    cases hvoice
  have hclaim : ∀ {t t' : State} {type : StreamType}, t.claimOutput a type = some t' → t'.callView = t.callView := by
    intro t t' type ht
    unfold State.claimOutput at ht
    split at ht
    · cases ht
      split <;> rfl
    · split at ht
      · cases ht
        rfl
      · cases ht
    · cases ht
      split <;> rfl
    · cases ht
      rfl
  unfold State.openOutput at h
  split at h
  · cases h
  · split at h
    · cases h
      rfl
    · rename_i type usage _
      dsimp only at h
      rw [hinit] at h
      split at h
      · cases h
        rfl
      · rename_i claimed hclaimed
        have hview := hclaim hclaimed
        split at h
        · cases h
          exact hview
        · cases h
          unfold State.unclaimOutput
          split <;> exact hview

theorem openInput_callView {flags : Flags} {source : Source} {sampleRate : Nat}
    (h : s.openInput b env a devices flags source sampleRate = some s') : s'.callView = s.callView := by
  unfold State.openInput at h
  split at h
  · cases h
  · obtain ⟨placed, hplaced, h⟩ := unbind h
    cases h
    split
    · rfl
    · obtain ⟨fmState, type, usage, hrerouted⟩ := State.placeInput_spec hplaced
      have hview := hrerouted.callView
      split <;> exact hview

theorem inStandby_callView (h : s.inStandby b env a = some s') : s'.callView = s.callView := by
  obtain ⟨input, -, ⟨-, rfl⟩ | ⟨-, unrouted, hunrouted, rfl⟩⟩ := State.inStandby_cases h
  · rfl
  · have hview := (State.unrouteForInStandby_rerouted hunrouted).callView
    exact hview

end

section
variable {b : Build} {env : Env} {s s' : State} {mode : Mode}

theorem reconfigActiveInput_callView (h : s.reconfigActiveInput mode = some s') : s'.callView = s.callView := by
  unfold State.reconfigActiveInput at h
  split at h
  · split at h
    · cases h
      rfl
    · obtain ⟨input, -, h⟩ := unbind h
      split at h
      · cases h
        rfl
      · cases h
        rfl
  · cases h
    rfl

theorem keepCallMode_callView (s : State) (mode : Mode) : (s.keepCallMode mode).2.callView = s.callView := by
  unfold State.keepCallMode
  split
  · rfl
  · rename_i v hv
    split
    · rw [State.callView, State.callView, hv]
      rfl
    · split
      · rw [State.callView, State.callView, hv]
        rfl
      · rfl

theorem callInv_changeCall {v : Voice} (hv : s.voice = some v) (hamode : s.amode = mode)
    (hleave : mode ≠ .inCall → (mode = .normal ∨ mode = .inCommunication) ∧ v.callStatus = .active ∨
      v.callStatus = .connected ∧ s.voiceRunning = false)
    (henter : mode = .inCall → v.callStatus = .connected ∧ s.voiceRunning = false)
    (h : s.changeCall b env mode v = some s') : CallInv s' := by
  unfold State.changeCall at h
  split at h
  · rename_i hact
    obtain ⟨updated, hupdated, h⟩ := unbind h
    obtain ⟨v', hv', h⟩ := unbind h
    cases h
    have hmode : mode ≠ .inCall := by
      rintro rfl
      rcases hact.1 with hnormal | hcommunication
      · cases hnormal
      · cases hcommunication
    have hstat : v.callStatus = .active := eq_of_beq hact.2
    have hstopped : (s.stopVoiceCall { v with keepCallMode := false }).callView = some (.incallmode, false, mode) := by
      rw [stopVoiceCall_callView (by rw [hv, map_some]), State.callView, hv, map_some, map_some,
        stopView, hstat, hamode]
      rfl
    have hupdated : updated.callView = some (.incallmode, false, mode) := by
      rcases updatePrimary_atMostStopped hupdated with hsame | hstop
      · exact hsame.trans hstopped
      · rw [hstop, hstopped]
        rfl
    -- the call mode is left from here
    obtain ⟨v'', hv'', hview⟩ := map_eq_some_iff.mp hupdated
    cases hv'.symm.trans hv''
    injection hview with hcallStat hview
    injection hview with hrunning hmode'
    refine ⟨(.connected, false, mode), ?_, nofun, ⟨?_, fun hcall => absurd hcall hmode⟩, nofun, nofun⟩
    · have hleft : (v'.setCallMode env false).callStatus = .connected := by
        simp [Voice.setCallMode, Voice.openedStatus, hcallStat]
      simp only [State.callView, map_some, hleft, hrunning, hmode']
    · rintro (hcall | hcall) <;> cases hcall
  · rename_i hnotAct
    split at h
    · rename_i hcall
      cases h
      obtain ⟨hstat, hrunning⟩ := henter hcall
      refine ⟨(.incallmode, false, .inCall), ?_, nofun, ⟨fun _ => rfl, fun _ => Or.inl rfl⟩, nofun, nofun⟩
      have hentered : (v.setCallMode env true).callStatus = .incallmode := by
        simp [Voice.setCallMode, Voice.openedStatus, hstat]
      simp only [State.callView, map_some, hentered, hrunning, hamode, hcall]
    · rename_i hcall
      cases h
      rcases hleave hcall with ⟨hmode, hact⟩ | ⟨hstat, hrunning⟩
      · exact absurd ⟨hmode, beq_iff_eq.mpr hact⟩ hnotAct
      · refine ⟨(.connected, false, mode), ?_, nofun, ⟨?_, fun h => absurd h hcall⟩, nofun, nofun⟩
        · rw [State.callView, hv, map_some, hstat, hrunning, hamode]
        · rintro (hcall | hcall) <;> cases hcall

theorem CallInv.setMode (h : CallInv s) (hleaves : LeavesActive s mode)
    (hs : s.setMode b env mode = some s') : CallInv s' := by
  have hkept := h.congr (keepCallMode_callView s mode)
  have hkeptView := keepCallMode_callView s mode
  unfold State.setMode at hs
  dsimp only at hs
  split at hs
  · cases hs
    exact hkept
  · rename_i hchange
    obtain ⟨view, hview, hagrees⟩ := hkept
    obtain ⟨v, hv, rfl⟩ := map_eq_some_iff.mp hview
    unfold State.changeMode at hs
    rw [hv] at hs
    obtain ⟨changed, hchanged, hs⟩ := unbind hs
    refine CallInv.congr ?_ (reconfigActiveInput_callView hs)
    -- the mode before is that of the view
    have hbefore : (s.keepCallMode mode).2.amode = s.amode := by
      obtain ⟨w, hw, heq⟩ := map_eq_some_iff.mp (hkeptView.symm.trans hview)
      injection heq with _ heq
      injection heq with _ heq
      exact heq.symm
    have hidle : v.callStatus ≠ .active → (s.keepCallMode mode).2.voiceRunning = false := by
      intro hstat
      exact Bool.eq_false_of_not_eq_true fun hrunning => hstat (hagrees.callActive.mp hrunning)
    have hmodeEq : (s.keepCallMode mode).1 = mode := by
      rcases keepCallMode_mode s mode with hmode | hmode
      · exact hmode
      · exact absurd (hbefore.trans hmode.symm) hchange
    have houtside : s.amode ≠ .inCall → v.callStatus = .connected := by
      intro hamode
      have hnot : ¬(v.callStatus = .incallmode ∨ v.callStatus = .active) :=
        fun hcall => hamode (hbefore.symm.trans (hagrees.callMode.mp hcall))
      have hconnected := hagrees.connected
      revert hnot hconnected
      cases v.callStatus <;> simp
    refine callInv_changeCall (s := (s.keepCallMode mode).2.enterMode (s.keepCallMode mode).1) hv rfl ?_ ?_ hchanged
    · intro hnotCall
      by_cases hcall : s.amode = .inCall
      · obtain ⟨hmode, hact⟩ := hleaves hcall hnotCall
        have hkeptMode : (s.keepCallMode mode).1 = .normal ∨ (s.keepCallMode mode).1 = .inCommunication := by
          rw [hmodeEq]
          exact hmode
        refine Or.inl ⟨hkeptMode, ?_⟩
        have hview' := hkeptView.symm.trans hview
        obtain ⟨w, hw, heq⟩ := map_eq_some_iff.mp hview'
        injection heq with heq _
        rw [hw, any_some, Voice.isCallActive, beq_iff_eq] at hact
        exact heq.symm.trans hact
      · have hstat := houtside hcall
        exact Or.inr ⟨hstat, hidle (by rw [hstat]; exact nofun)⟩
    · intro hcall
      have hamode : s.amode ≠ .inCall := fun hamode => hchange (hbefore.trans (hamode.trans hcall.symm))
      have hstat := houtside hamode
      exact ⟨hstat, hidle (by rw [hstat]; exact nofun)⟩

end

theorem CallInv.step {b : Build} {s s' : State} {input : Op × Env} (h : CallInv s) (hkind : input.1.isCallStep)
    (hok : CallStepOk b s input) (hs : step b s input = some s') : CallInv s' := by
  obtain ⟨op, env⟩ := input
  have hvoice : s.voice.isSome := by
    obtain ⟨view, hview, -⟩ := h
    obtain ⟨v, hv, -⟩ := map_eq_some_iff.mp hview
    rw [hv]
    rfl
  change op.isCallStep = true at hkind
  unfold Op.isCallStep at hkind
  split at hkind
  · exact h.setMode hok hs
  · exact h.outSetRouting hs
  · exact h.outWrite hs
  · exact h.outStandby hok hs
  · exact h.setCallForwarding hs
  · rename_i realcall csvtcall callForwarding voipWificalling volteStatus vowifiBand _
    cases hs
    refine h.congr ?_
    obtain ⟨v, hv⟩ := Option.isSome_iff_exists.mp hvoice
    simp only [State.callView, hv, map_some]
  · exact h.congr (openOutput_callView hvoice hs)
  · obtain ⟨standby, hstby, hs⟩ := unbind hs
    obtain ⟨out, -, hs⟩ := unbind hs
    cases hs
    have hinv := h.outStandby hok hstby
    exact hinv.congr rfl
  · exact h.congr (openInput_callView hs)
  · obtain ⟨standby, hstby, hs⟩ := unbind hs
    cases hs
    have hinv := h.congr (inStandby_callView hstby)
    exact hinv.congr rfl
  · cases hkind

/-- From a state without a call on, the call status agrees with the mode and the voice call with the status. -/
theorem callAgrees_run {b : Build} {steps : List (Op × Env)} {start s : State} (hstart : Connected start)
    (hkind : ∀ input ∈ steps, input.1.isCallStep) (hok : EachDefinedStep (step b) (CallStepOk b) start steps)
    (h : steps.foldlM (step b) start = some s) : CallAgrees s := by
  have hsteps : EachDefinedStep (step b) (fun s input => CallStepOk b s input ∧ input.1.isCallStep = true) start
      steps :=
    hok.and (EachDefinedStep.of_forall_mem hkind)
  exact (foldlM_keeps_of_eachDefinedStep (fun _ _ _ hinv hstep hs => CallInv.step hinv hstep.2 hstep.1 hs)
    hstart.callInv
    hsteps h).callAgrees

def primaryOpened : State := { init with
    outs := Function.update init.outs 0 (some
      { requestedDevices := outSpeaker, streamType := .playbackPrimary, streamUsage := .media })
    playbackList := [0]
    primaryOutput := some 0
    voice := some { callStatus := .connected } }

def callAndBack : List (Op × Env) :=
  [(.setMode .inCall, .usual), (.outSetRouting 0 outEarpiece none, .usual), (.setMode .normal, .usual)]

theorem callAgrees_run_callAndBack :
    init.openOutput plainBuild .usual 0 outSpeaker outputFlagPrimary = some primaryOpened ∧
    ∃ s, callAndBack.foldlM (step plainBuild) primaryOpened = some s ∧ s.amode = .normal ∧ CallAgrees s := by
  have hstart : Connected primaryOpened := ⟨⟨_, rfl, rfl⟩, nofun, rfl⟩
  have hkind : ∀ input ∈ callAndBack, input.1.isCallStep := by
    simp [callAndBack, Op.isCallStep]
  have hok : EachDefinedStep (step plainBuild) (CallStepOk plainBuild) primaryOpened callAndBack := by
    refine ⟨nofun, ?_⟩
    intro s hs
    cases hs
    refine ⟨trivial, ?_⟩
    intro s hs
    cases hs
    exact ⟨fun _ _ => ⟨Or.inl rfl, rfl⟩, fun _ _ => trivial⟩
  exact ⟨rfl, _, rfl, rfl, callAgrees_run hstart hkind hok rfl⟩

theorem not_callAgrees_leftInactive : ∃ s,
    [(Op.setMode .inCall, Env.usual), (.setMode .normal, .usual)].foldlM (step plainBuild) primaryOpened = some s ∧
      s.amode = .normal ∧ s.voice.any Voice.isCallMode = true ∧ ¬CallAgrees s := by
  refine ⟨_, rfl, rfl, rfl, ?_⟩
  intro h
  have hmode : Mode.normal = .inCall := h.callMode.mp rfl
  cases hmode

end ExynosHal.Audio
