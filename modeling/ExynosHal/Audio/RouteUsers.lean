import ExynosHal.Audio.CaptureUse

/-! # No route outlives its users

Mode changes, and runs of all functions.
-/

namespace ExynosHal.Audio
open Library.Run

section
variable {b : Build} {env : Env} {s s' : State} {a : Addr}

theorem unroute_callDrive_used (hquiet : s.Quiet) (hprim : s.primaryOutput = some a)
    (h : s.setRoutePlayback b env a false .callDrive = some s') : PlaybackUsed s' ∧ CaptureUsed s' := by
  have hsame := (State.setRoutePlayback_rerouted h).sameStreams
  obtain ⟨out, -, h⟩ := unbind h
  have hdrives : (s.outputDrivesCall a out && Force.callDrive == .callDrive) = true := by
    rw [State.outputDrivesCall, hprim, beq_self_eq_true, Bool.true_or]
    rfl
  obtain ⟨captureSet, hset, h⟩ := unbind h
  rw [if_pos hdrives] at hset
  have hfalse : captureSet = false := by
    unfold State.captureSet at hset
    split at hset
    · obtain ⟨input, -, hset⟩ := unbind hset
      split at hset
      · cases hset
        rfl
      · split at hset <;> cases hset <;> rfl
    · split at hset
      · obtain ⟨input, -, hset⟩ := unbind hset
        split at hset <;> cases hset <;> rfl
      · cases hset
        rfl
  rw [hfalse] at h
  simp only [Bool.false_eq_true, if_false, State.unroutePlayback, hdrives, if_true] at h
  cases h
  constructor
  · intro hrouted
    have huse := (Path.isRouted_unroute hrouted).2
    obtain ⟨p, other, -, hother, hstat⟩ := exists_active_of_playbackInUse hquiet huse
    exact ⟨p, other, hother, hstat⟩
  · intro hrouted
    have huse := (Path.isRouted_unroute hrouted).2
    obtain ⟨p, other, hother, hstat⟩ := exists_active_of_captureCount (s := s) (of_decide_eq_true huse)
    exact ⟨p, other, hother, Or.inl hstat⟩

theorem stopForChange_paths {changed : Bool} (h : s.stopForChange changed = some s') :
    s'.playback = s.playback ∧ s'.capture = s.capture ∧ s'.primaryOutput = s.primaryOutput := by
  unfold State.stopForChange at h
  split at h
  · obtain ⟨v, -, rfl⟩ := Option.map_eq_some_iff.mp h
    exact ⟨rfl, rfl, rfl⟩
  · cases h
    exact ⟨rfl, rfl, rfl⟩

theorem CaptureUsed.updateStreams (h : CaptureUsed s) (changed : Bool) : CaptureUsed (s.updateStreams env changed) := by
  intro hrouted
  obtain ⟨p, user, huser, huses⟩ := h hrouted
  unfold State.updateStreams
  dsimp only
  by_cases hmem : p ∈ s.captureList
  · refine ⟨p, s.reconfigForCall env changed user, ?_, ?_⟩
    · rw [if_pos hmem, huser, Option.map_some]
    · unfold State.reconfigForCall
      split
      · rename_i hclosed
        refine Or.inl ?_
        rw [hclosed.2.1]
        exact nofun
      · exact huses
  · exact ⟨p, user, by rw [if_neg hmem, huser], huses⟩

theorem updateStreams_standby (changed : Bool) {out : StreamOut} (hout : s.outs a = some out)
    (hwhy : out.streamStatus = .standby ∨ a ∈ s.playbackList ∧ out.streamType = .playbackPrimary ∧
      s.callStateChanged env) :
    ∃ out', (s.updateStreams env changed).outs a = some out' ∧ out'.streamStatus = .standby := by
  unfold State.updateStreams
  dsimp only
  by_cases hmem : a ∈ s.playbackList
  · refine ⟨State.closeForCall (changed || s.callStateChanged env) out, by rw [if_pos hmem, hout, Option.map_some], ?_⟩
    unfold State.closeForCall
    split
    · rfl
    · rename_i hkept
      rcases hwhy with hstby | ⟨-, htype, hchanged⟩
      · exact hstby
      · by_contra hact
        exact hkept ⟨htype, hact, by rw [hchanged, Bool.or_true]⟩
  · refine ⟨out, by rw [if_neg hmem, hout], ?_⟩
    rcases hwhy with hstby | ⟨hmem', -⟩
    · exact hstby
    · exact absurd hmem' hmem

theorem updatePrimary_used (hquiet : s.Quiet)
    (hwhy : (∀ p ∈ s.primaryOutput, ∀ out ∈ s.outs p, out.streamStatus = .standby ∨
      p ∈ s.playbackList ∧ out.streamType = .playbackPrimary ∧ env.isUsageCPCall s.capture.active.usage = true) ∨
      CaptureUsed s)
    (h : s.updatePrimary b env = some s') : PlaybackUsed s' ∧ CaptureUsed s' := by
  obtain ⟨p, hp, h⟩ := unbind h
  obtain ⟨out, hout, h⟩ := unbind h
  obtain ⟨changed, -, h⟩ := unbind h
  obtain ⟨stopped, hstopped, h⟩ := unbind h
  have hsame := State.stopForChange_sameStreams (b := b) hstopped
  obtain ⟨hplay, hcap, hprim⟩ := stopForChange_paths hstopped
  have hstoppedQuiet : stopped.Quiet := hsame.mood.trans hquiet
  unfold State.routeCall at h
  simp only [hstoppedQuiet.callMode, Bool.false_eq_true, if_false] at h
  obtain ⟨out', hout', h⟩ := unbind h
  split at h
  · exact unroute_callDrive_used hstoppedQuiet (hprim.trans hp) h
  · rename_i hact
    cases h
    refine ⟨fun _ => ⟨p, out', hout', hact⟩, ?_⟩
    rcases hwhy with hclosed | hused
    · -- the primary output would be in standby
      have hchanged : out.streamStatus = .standby ∨ p ∈ s.playbackList ∧ out.streamType = .playbackPrimary ∧
          s.callStateChanged env := by
        rcases hclosed p hp out hout with hstby | ⟨hmem, htype, husage⟩
        · exact Or.inl hstby
        · refine Or.inr ⟨hmem, htype, ?_⟩
          rw [State.callStateChanged, hquiet.cpCall, husage]
          exact Bool.or_true _
      obtain ⟨closed, hclosed, hstby⟩ := updateStreams_standby changed hout hchanged
      rw [hsame.outs_eq, hclosed] at hout'
      cases hout'
      exact absurd hstby hact
    · exact (hused.updateStreams changed).congr hcap hsame.ins_eq

variable {mode : Mode}

theorem reconfigActiveInput_spec (h : s.reconfigActiveInput mode = some s') :
    s' = s ∨ ∃ a input, s.ins a = some input ∧ s' = s.modifyIn a fun input => { input with pcmReconfig := true } := by
  unfold State.reconfigActiveInput at h
  split at h
  · split at h
    · cases h
      exact Or.inl rfl
    · rename_i p _
      obtain ⟨input, hinput, h⟩ := unbind h
      split at h
      · cases h
        exact Or.inr ⟨p, input, hinput, rfl⟩
      · cases h
        exact Or.inl rfl
  · cases h
    exact Or.inl rfl

theorem reconfigActiveInput_kept (h : s.reconfigActiveInput mode = some s') :
    s'.mood = s.mood ∧ (ReleasedStandby s → ReleasedStandby s') ∧
      (PlaybackUsed s ∧ CaptureUsed s → PlaybackUsed s' ∧ CaptureUsed s') := by
  rcases reconfigActiveInput_spec h with rfl | ⟨p, input, hinput, rfl⟩
  · exact ⟨rfl, id, id⟩
  · have htouched : RetouchedIn p s (s.modifyIn p fun input => { input with pcmReconfig := true }) :=
      .modifyIn s p fun _ => ⟨rfl, fun _ => rfl, Or.inl rfl⟩
    exact ⟨htouched.only.mood, htouched.released hinput, htouched.used⟩

theorem changeCall_kept {v : Voice} (h : s.changeCall b env mode v = some s') :
    s'.mood = s.mood ∧ (ReleasedStandby s → ReleasedStandby s') := by
  unfold State.changeCall at h
  split at h
  · obtain ⟨updated, hupdated, h⟩ := unbind h
    obtain ⟨v', -, h⟩ := unbind h
    cases h
    have hcall := State.updatePrimary_updated hupdated
    refine ⟨hcall.mood, fun hrel => ?_⟩
    have hstopped : ReleasedStandby (s.stopVoiceCall { v with keepCallMode := false }) := hrel.congr rfl rfl
    exact (hstopped.callUpdated hcall).congr rfl rfl
  · split at h
    · cases h
      exact ⟨rfl, fun hrel => hrel.congr rfl rfl⟩
    · cases h
      exact ⟨rfl, id⟩

theorem changeCall_used {v : Voice} (hquiet : s.Quiet) (hv : s.voice = some v) (hused : s.UsedInNormal env)
    (h : s.changeCall b env .normal v = some s') : PlaybackUsed s' ∧ CaptureUsed s' := by
  unfold State.changeCall at h
  unfold State.UsedInNormal at hused
  rw [hv, Option.any_some] at hused
  split at h
  · rename_i hact
    rw [if_pos hact.2] at hused
    obtain ⟨updated, hupdated, h⟩ := unbind h
    obtain ⟨v', -, h⟩ := unbind h
    cases h
    have hupdatedUsed := updatePrimary_used (s := s.stopVoiceCall { v with keepCallMode := false }) hquiet hused
      hupdated
    exact ⟨hupdatedUsed.1.congr rfl rfl, hupdatedUsed.2.congr rfl rfl⟩
  · rename_i hinactive
    rw [if_neg fun hact => hinactive ⟨Or.inl rfl, hact⟩] at hused
    cases h
    exact hused

theorem keepCallMode_normal (s : State) : s.keepCallMode .normal = (.normal, s) := by
  unfold State.keepCallMode
  split
  · rfl
  · rw [if_neg, if_neg]
    · rintro ⟨hmode, -⟩
      cases hmode
    · rintro ⟨hmode, -⟩
      cases hmode

theorem keepCallMode_streams (s : State) (mode : Mode) :
    (s.keepCallMode mode).2.outs = s.outs ∧ (s.keepCallMode mode).2.ins = s.ins ∧ (s.keepCallMode mode).2.mood =
      s.mood ∧ (s.keepCallMode mode).2.playback = s.playback ∧ (s.keepCallMode mode).2.capture = s.capture := by
  unfold State.keepCallMode
  split
  · exact ⟨rfl, rfl, rfl, rfl, rfl⟩
  · split
    · exact ⟨rfl, rfl, rfl, rfl, rfl⟩
    · split <;> exact ⟨rfl, rfl, rfl, rfl, rfl⟩

theorem changeMode_kept (h : s.changeMode b env mode = some s') :
    s'.mood = (s.enterMode mode).mood ∧ (ReleasedStandby s → ReleasedStandby s') := by
  unfold State.changeMode at h
  split at h
  · cases h
    exact ⟨rfl, fun hrel => hrel.congr rfl rfl⟩
  · obtain ⟨changed, hchanged, h⟩ := unbind h
    obtain ⟨hmood, hrel⟩ := changeCall_kept hchanged
    obtain ⟨hmood', hrel', -⟩ := reconfigActiveInput_kept h
    exact ⟨hmood'.trans hmood, fun hs => hrel' (hrel (hs.congr rfl rfl))⟩

theorem RouteInv.setMode (h : RouteInv s) (hok : s.amode ≠ .normal → mode = .normal → s.UsedInNormal env)
    (hs : s.setMode b env mode = some s') : RouteInv s' := by
  have hkept : Kept b s s' := (Kept.steady s).setMode (.refl s) hs
  obtain ⟨houts, hins, hmood, hplay, hcap⟩ := keepCallMode_streams s mode
  unfold State.setMode at hs
  dsimp only at hs
  split at hs
  · cases hs
    refine h.kept hkept (h.released.congr houts hins) ?_
    intro hquiet
    obtain ⟨hp, hc⟩ := h.used (hmood.symm.trans hquiet)
    exact ⟨hp.congr hplay houts, hc.congr hcap hins⟩
  · rename_i hchange
    obtain ⟨hchanged, hrel⟩ := changeMode_kept hs
    refine h.kept hkept (hrel (h.released.congr houts hins)) ?_
    intro hquiet
    -- it is NORMAL mode that is entered
    have hnormal : (s.keepCallMode mode).1 = .normal := congrArg Prod.fst (hchanged.symm.trans hquiet)
    have hamode : (s.keepCallMode mode).2.amode = s.amode := congrArg Prod.fst hmood
    have hmode : mode = .normal := by
      rcases keepCallMode_mode s mode with hsame | hsame
      · exact hsame.symm.trans hnormal
      · exact absurd (hamode.trans hsame.symm) hchange
    have hleft : s.amode ≠ .normal := fun heq => hchange (hamode.trans (heq.trans hnormal.symm))
    have hused := hok hleft hmode
    rw [hmode, keepCallMode_normal] at hs hchanged
    have hentered : (s.enterMode .normal).Quiet := hchanged.symm.trans hquiet
    have henteredUsed : (s.enterMode .normal).UsedInNormal env := hused
    unfold State.changeMode at hs
    split at hs
    · rename_i hv
      cases hs
      unfold State.UsedInNormal at henteredUsed
      have hnone : (s.enterMode .normal).voice.any Voice.isCallActive = false := by
        rw [State.enterMode, hv]
        rfl
      rw [hnone] at henteredUsed
      exact henteredUsed
    · rename_i v hv
      obtain ⟨changed, hchangedCall, hs⟩ := unbind hs
      have hcallUsed := changeCall_used hentered hv henteredUsed hchangedCall
      exact (reconfigActiveInput_kept hs).2.2 hcallUsed

end

section
variable {b : Build} {env : Env} {s s' : State} {a : Addr} {input : Op × Env}

theorem RouteInv.step (h : RouteInv s) (hkind : input.1.isStreamStep) (hok : RoutesUsed b s input)
    (hs : step b s input = some s') : RouteInv s' := by
  obtain ⟨op, env⟩ := input
  change op.isStreamStep = true at hkind
  unfold Op.isStreamStep at hkind
  split at hkind
  · exact h.openOutput hs
  · exact h.closeOutput hs
  · exact h.openInput hok hs
  · exact h.closeInput hok hs
  · exact h.outWrite hs
  · exact h.outStandby hs
  · exact h.outSetRouting hok hs
  · exact h.inRead hs
  · exact h.inStandby hok hs
  · exact h.inSetRouting hs
  · exact h.inSetSource hs
  · exact h.setMode hok hs
  · cases hkind

theorem routeInv_init : RouteInv init := by
  refine ⟨?_, ?_, ⟨?_, ?_⟩, fun _ => ⟨nofun, nofun⟩⟩
  · intro p hp
    cases hp
  · intro p hp
    cases hp
  · intro p out hout
    cases hout
  · intro p input hinput
    cases hinput

theorem closeOutput_flags {out : StreamOut} (hout : s.outs a = some out) (hstat : out.streamStatus = .standby)
    (h : s.closeOutput b env a = some s') : SameFlags s s' := by
  obtain ⟨standby, hstby, h⟩ := unbind h
  obtain ⟨out', -, h⟩ := unbind h
  cases h
  obtain ⟨out'', hout'', hstby⟩ := unbind hstby
  cases hout.symm.trans hout''
  rw [if_neg (not_not.mpr hstat)] at hstby
  cases hstby
  exact ⟨rfl, rfl⟩

theorem closeInput_flags {input : StreamIn} (hinput : s.ins a = some input) (hstat : input.streamStatus = .standby)
    (h : s.closeInput b env a = some s') : SameFlags s s' := by
  obtain ⟨standby, hstby, h⟩ := unbind h
  cases h
  obtain ⟨input', hinput', hstby⟩ := unbind hstby
  cases hinput.symm.trans hinput'
  rw [if_neg (not_not.mpr hstat)] at hstby
  cases hstby
  exact ⟨rfl, rfl⟩

theorem SameFlags.trans {s'' : State} (h : SameFlags s s') (h' : SameFlags s' s'') : SameFlags s s'' :=
  ⟨h'.1.trans h.1, h'.2.trans h.2⟩

theorem openKeepsFlags (hok : RoutesUsed b s input) : OpenKeepsFlags b s input := by
  unfold OpenKeepsFlags
  split
  · intro opened hopened
    obtain ⟨hplay, hcap⟩ := State.openOutput_paths hopened
    have hflags : SameFlags s opened := ⟨congrArg Path.isRouted hplay, congrArg Path.isRouted hcap⟩
    refine ⟨hflags, ?_⟩
    intro env' closed hclosed
    obtain ⟨-, -, -, hfree, ⟨houts, -⟩ | ⟨out, hstat, houts, -⟩⟩ := openOutput_spec hopened
    · -- nothing has been opened
      obtain ⟨standby, hstby, -⟩ := unbind hclosed
      obtain ⟨out, hout, -⟩ := unbind hstby
      rw [houts, hfree] at hout
      cases hout
    · exact hflags.trans (closeOutput_flags (by rw [houts, Function.update_self]) hstat hclosed)
  · intro opened hopened
    have hspec := openInput_opened hok hopened
    refine ⟨hspec.flags, ?_⟩
    intro env' closed hclosed
    obtain ⟨standby, hstby, -⟩ := unbind hclosed
    obtain ⟨input, hinput, -⟩ := unbind hstby
    exact hspec.flags.trans (closeInput_flags hinput (hspec.standby input hinput) hclosed)
  · trivial

/-- As long as each route that is set up or left has a user, none outlives its users. -/
theorem noRouteLeft_run {steps : List (Op × Env)} (hkind : ∀ input ∈ steps, input.1.isStreamStep)
    (hok : EachDefinedStep (step b) (RoutesUsed b) init steps) (h : steps.foldlM (step b) init = some s) :
    NoRouteLeft s ∧ EachDefinedStep (step b) (OpenKeepsFlags b) init steps := by
  have hsteps : EachDefinedStep (step b) (fun s input => RoutesUsed b s input ∧ input.1.isStreamStep = true) init
      steps :=
    hok.and (EachDefinedStep.of_forall_mem hkind)
  have hinv : RouteInv s := foldlM_keeps_of_eachDefinedStep
    (fun _ _ _ hinv hstep hs => RouteInv.step hinv hstep.2 hstep.1 hs) routeInv_init hsteps h
  exact ⟨hinv.noRouteLeft, hok.mono fun _ _ => openKeepsFlags⟩

end

def playAndRelease : List (Op × Env) := [openPrimary, (.outWrite 0 true, .usual), (.outStandby 0, .usual)]

theorem noRouteLeft_run_playAndRelease : ∃ s, playAndRelease.foldlM (step plainBuild) init = some s ∧ s.Quiet ∧
    s.playback.calls.length = 2 ∧ s.playback.isRouted = false ∧ NoRouteLeft s ∧
      EachDefinedStep (step plainBuild) (OpenKeepsFlags plainBuild) init playAndRelease := by
  have hkind : ∀ input ∈ playAndRelease, input.1.isStreamStep := by
    simp [playAndRelease, openPrimary, Op.isStreamStep]
  have hok : EachDefinedStep (step plainBuild) (RoutesUsed plainBuild) init playAndRelease :=
    ⟨trivial, fun _ _ => ⟨trivial, fun _ _ => ⟨trivial, fun _ _ => trivial⟩⟩⟩
  exact ⟨_, rfl, rfl, rfl, rfl, noRouteLeft_run hkind hok rfl⟩

theorem not_noRouteLeft_camcorder : ∃ s,
    [openPrimary, (.openInput 1 inBuiltinMic 0 .camcorder 48000, .usual), (.closeInput 1, .usual)].foldlM
        (step plainBuild) init = some s ∧ s.captureList = [] ∧ s.capture.isRouted ∧ ¬NoRouteLeft s := by
  have hrun : ∃ s, [openPrimary, (.openInput 1 inBuiltinMic 0 .camcorder 48000, .usual), (.closeInput 1, .usual)].foldlM
      (step plainBuild) init = some s ∧ s.captureList = [] ∧ s.capture.isRouted ∧ s.playbackList = [0] ∧
        (s.outs 0).any StreamOut.released = true ∧ s.Quiet :=
    ⟨_, rfl, rfl, rfl, rfl, rfl, rfl⟩
  obtain ⟨s, hs, hlist, hrouted, houts, hrel, hquiet⟩ := hrun
  refine ⟨s, hs, hlist, hrouted, ?_⟩
  intro h
  have hall : AllReleased s := by
    refine ⟨?_, ?_⟩
    · intro p hp out hout
      rw [houts, List.mem_singleton] at hp
      cases hp
      rw [Option.mem_def.mp hout, Option.any_some] at hrel
      exact hrel
    · intro p hp
      rw [hlist] at hp
      cases hp
  rw [(h hquiet hall).2] at hrouted
  cases hrouted

end ExynosHal.Audio
