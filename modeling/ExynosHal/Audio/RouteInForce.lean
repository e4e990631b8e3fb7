import ExynosHal.Audio.Kept

/-! # The recorded route is the route in force

A request for the usage and the device in force is skipped, but its modifier is recorded.
-/

namespace ExynosHal.Audio
open Relation Library.Run

def UnroutesMatch : List RouteCall → Prop
  | [] => True
  | call :: calls => (call.set = false → calls.head? = some ⟨call.triple, true⟩) ∧ UnroutesMatch calls

structure Path.InForce (p : Path) : Prop where
  routed : p.isRouted ↔ ∃ triple, p.calls.head? = some ⟨triple, true⟩
  active : p.isRouted → p.calls.head? = some ⟨p.active, true⟩
  cleared : p.isRouted = false → p.active = {}
  unroutes : UnroutesMatch p.calls

def Path.Fresh (modifier : DeviceType → Modifier) (p : Path) : Prop :=
  p.isRouted → p.active.modifier = modifier p.active.device

def State.Asks (s : State) : Op → Prop
  | .outWrite a _ => (s.outs a).any (fun out => out.streamStatus == .standby) = true
  | .inRead a _ => (s.ins a).any (fun input => input.streamStatus == .standby || input.pcmReconfig) = true
  | .outStandby a | .closeOutput a => (s.outs a).any (fun out => out.streamType == .playbackIncallMusic) = true
  | .outSetRouting .. | .inSetRouting .. | .outCreateMmapBuffer .. | .inCreateMmapBuffer .. | .openInput .. => True
  | .setMode _ | .setVoiceVolume _ | .setCallForwarding => True
  | .setParameters param =>
    match param with
    | .factoryLoopback _ | .factoryPath .. | .factoryRoute .. | .factoryRms .. | .fmRadioVolume _ => True
    | _ => False
  | _ => False

def ModifiersFresh (b : Build) (s : State) (input : Op × Env) : Prop :=
  s.Asks input.1 → s.playback.Fresh (s.getModifier b) ∧ s.capture.Fresh (s.getModifier b)

namespace Path

variable {modifier : DeviceType → Modifier} {p p' : Path}

theorem inForce_route (h : UnroutesMatch p.calls) (new : Triple) :
    InForce { isRouted := true, active := new, calls := ⟨new, true⟩ :: p.calls } :=
  ⟨⟨fun _ => ⟨new, rfl⟩, fun _ => rfl⟩, fun _ => rfl, nofun, nofun, h⟩

theorem InForce.unroute (h : p.InForce) (inUse : Bool) : (p.unroute inUse).InForce := by
  unfold Path.unroute
  split
  · rename_i hrouted
    split
    · exact h
    · refine ⟨⟨nofun, ?_⟩, nofun, fun _ => rfl, fun _ => h.active hrouted, h.unroutes⟩
      rintro ⟨triple, htriple⟩
      cases htriple
  · rename_i hrouted
    have hrouted := Bool.eq_false_of_not_eq_true hrouted
    have hcleared : p = { p with active := {} } := by rw [← h.cleared hrouted]
    rw [← hcleared]
    exact h

theorem Fresh.unroute (h : p.Fresh modifier) (inUse : Bool) : (p.unroute inUse).Fresh modifier := by
  unfold Path.unroute
  split
  · split
    · exact h
    · exact nofun
  · rename_i hrouted
    exact fun hrouted' => absurd hrouted' hrouted

theorem fresh_of_modifier {new : Triple} (h : new.modifier = modifier new.device) (p : Path) :
    (p.route new).Fresh modifier := by
  unfold Path.route
  split
  · split <;> exact fun _ => h
  · exact fun _ => h

theorem InForce.route (h : p.InForce) (hfresh : p.Fresh modifier) {new : Triple}
    (hnew : new.modifier = modifier new.device) : (p.route new).InForce := by
  unfold Path.route
  split
  · rename_i hrouted
    split
    · rename_i hsame
      have hact : p.active = new := by
        have hmodifier : p.active.modifier = new.modifier := by
          rw [hfresh hrouted, hnew, hsame.2]
        obtain ⟨usage, device, modifier'⟩ := new
        cases hsame.1
        cases hsame.2
        cases hmodifier
        rfl
      rw [← hact]
      exact h
    · rw [hrouted]
      exact inForce_route h.unroutes new
  · exact inForce_route h.unroutes new

theorem Moves.inForce (h : p.Moves modifier p') (hp : p.InForce ∧ p.Fresh modifier) :
    p'.InForce ∧ p'.Fresh modifier := by
  cases h with
  | refl => exact hp
  | route new hnew => exact ⟨hp.1.route hp.2 hnew, fresh_of_modifier hnew p⟩
  | unroute inUse => exact ⟨hp.1.unroute inUse, hp.2.unroute inUse⟩

theorem inForce_of_moves (h : ReflTransGen (Path.Moves modifier) p p') (hp : p.InForce ∧ p.Fresh modifier) :
    p'.InForce ∧ p'.Fresh modifier := by
  induction h with
  | refl => exact hp
  | tail _ hmove ih => exact hmove.inForce ih

def Unrouted (p p' : Path) : Prop := p' = p ∨ ∃ inUse, p' = p.unroute inUse

theorem Unrouted.inForce (h : p.Unrouted p') (hp : p.InForce) : p'.InForce := by
  rcases h with rfl | ⟨inUse, rfl⟩
  · exact hp
  · exact hp.unroute inUse

end Path

def PathsUnrouted (s s' : State) : Prop := s.playback.Unrouted s'.playback ∧ s.capture.Unrouted s'.capture

theorem PathsUnrouted.of_eq {s s' : State} (h : s'.playback = s.playback ∧ s'.capture = s.capture) :
    PathsUnrouted s s' :=
  ⟨Or.inl h.1, Or.inl h.2⟩

namespace State

variable {b : Build} {env : Env} {s s' : State} {a : Addr}

theorem setRoutePlayback_standby (h : s.setRoutePlayback b env a false .nonForceRoute = some s') :
    s' = s.setPlayback (s.playback.unroute (s.playbackInUse a .nonForceRoute)) := by
  obtain ⟨out, -, h⟩ := unbind h
  have hdrives : (s.outputDrivesCall a out && Force.nonForceRoute == .callDrive) = false := Bool.and_false _
  simp only [hdrives, Bool.false_eq_true, if_false, Option.bind_eq_bind, Option.bind_some] at h
  cases h
  rfl

theorem setRouteCapture_unroute {force : Force} (h : s.setRouteCapture b env a false force = some s') :
    s' = s.setCapture (s.capture.unroute (s.captureInUse force)) := by
  obtain ⟨input, -, h⟩ := unbind h
  simp only [Bool.and_false, Bool.false_and, Bool.false_eq_true, if_false] at h
  cases h
  rfl

theorem outStandby_pathsUnrouted (hasks : ¬s.Asks (.outStandby a)) (h : s.outStandby b env a = some s') :
    PathsUnrouted s s' := by
  obtain ⟨out, hout, ⟨-, rfl⟩ | ⟨-, unrouted, hunrouted, rfl⟩⟩ := outStandby_cases h
  · exact ⟨Or.inl rfl, Or.inl rfl⟩
  · have htype : out.streamType ≠ .playbackIncallMusic := by
      intro htype
      exact hasks (by simp [State.Asks, hout, htype])
    unfold unrouteForStandby at hunrouted
    split at hunrouted
    · simp only [htype, false_and, if_false] at hunrouted
      cases setRoutePlayback_standby hunrouted
      exact ⟨Or.inr ⟨_, rfl⟩, Or.inl rfl⟩
    · cases hunrouted
      exact ⟨Or.inl rfl, Or.inl rfl⟩

theorem inStandby_pathsUnrouted (h : s.inStandby b env a = some s') : PathsUnrouted s s' := by
  obtain ⟨input, -, ⟨-, rfl⟩ | ⟨-, unrouted, hunrouted, rfl⟩⟩ := inStandby_cases h
  · exact ⟨Or.inl rfl, Or.inl rfl⟩
  · unfold unrouteForInStandby at hunrouted
    split at hunrouted
    · cases setRouteCapture_unroute hunrouted
      exact ⟨Or.inl rfl, Or.inr ⟨_, rfl⟩⟩
    · cases hunrouted
      exact ⟨Or.inl rfl, Or.inl rfl⟩

theorem readData_paths {data : Bool} (h : s.readData env a data = some s') :
    s'.playback = s.playback ∧ s'.capture = s.capture := by
  obtain ⟨input, -, h⟩ := unbind h
  have hstarted : (s.startReading a input).playback = s.playback ∧ (s.startReading a input).capture = s.capture := by
    unfold startReading
    split <;> exact ⟨rfl, rfl⟩
  dsimp only at h
  split at h
  · cases h
    exact ⟨rfl, rfl⟩
  · split at h
    · cases h
      exact hstarted
    · cases h
      exact hstarted

theorem writeData_paths {data : Bool} (h : s.writeData env a data = some s') :
    s'.playback = s.playback ∧ s'.capture = s.capture := by
  obtain ⟨out, -, h⟩ := unbind h
  dsimp only at h
  split at h
  · split at h
    · split at h
      · cases h
        exact ⟨rfl, rfl⟩
      · cases h
        exact ⟨rfl, rfl⟩
    · cases h
      exact ⟨rfl, rfl⟩
  · cases h
    exact ⟨rfl, rfl⟩

theorem openOutput_paths {devices : Devices} {flags : Flags} (h : s.openOutput b env a devices flags = some s') :
    s'.playback = s.playback ∧ s'.capture = s.capture := by
  have hinit : ∀ type, (s.initVoice env type).playback = s.playback ∧ (s.initVoice env type).capture = s.capture := by
    intro type
    unfold initVoice
    split <;> exact ⟨rfl, rfl⟩
  have hclaim : ∀ {t t' : State} {type : StreamType}, t.claimOutput a type = some t' →
      t'.playback = t.playback ∧ t'.capture = t.capture := by
    intro t t' type ht
    unfold claimOutput at ht
    split at ht
    · cases ht
      split <;> exact ⟨rfl, rfl⟩
    · split at ht
      · cases ht
        exact ⟨rfl, rfl⟩
      · cases ht
    · cases ht
      split <;> exact ⟨rfl, rfl⟩
    · cases ht
      exact ⟨rfl, rfl⟩
  unfold openOutput at h
  split at h
  · cases h
  · split at h
    · cases h
      exact ⟨rfl, rfl⟩
    · rename_i type usage _
      dsimp only at h
      split at h
      · cases h
        exact hinit type
      · rename_i claimed hclaimed
        obtain ⟨hplay, hcap⟩ := hclaim hclaimed
        have hpaths := And.intro (hplay.trans (hinit type).1) (hcap.trans (hinit type).2)
        split at h
        · cases h
          exact hpaths
        · cases h
          unfold unclaimOutput
          split <;> exact hpaths

theorem setParameters_paths {param : Param} (hasks : ¬s.Asks (.setParameters param))
    (h : s.setParameters b env param = some s') : s'.playback = s.playback ∧ s'.capture = s.capture := by
  unfold setParameters at h
  split at h
  · split at h
    · cases h
      exact ⟨rfl, rfl⟩
    · cases h
      exact ⟨rfl, rfl⟩
  · split at h
    · cases h
      exact ⟨rfl, rfl⟩
    · cases h
      exact ⟨rfl, rfl⟩
  iterate 5
    cases h
    exact ⟨rfl, rfl⟩
  · split at h
    · cases h
      exact ⟨rfl, rfl⟩
    · cases h
      exact ⟨rfl, rfl⟩
  iterate 4 exact absurd trivial hasks
  · split at h
    · cases h
      exact ⟨rfl, rfl⟩
    · cases h
      exact ⟨rfl, rfl⟩
  · exact absurd trivial hasks

end State

section
variable {b : Build} {env : Env} {s s' : State} {op : Op}

theorem step_pathsUnrouted (hasks : ¬s.Asks op) (h : step b s (op, env) = some s') : PathsUnrouted s s' := by
  have hsame : PathsUnrouted s s := ⟨Or.inl rfl, Or.inl rfl⟩
  have hstat : ∀ {a : Addr} {c : StreamOut → Prop} [∀ out, Decidable (c out)] {status : Status},
      ((s.outs a).bind fun out => if c out then some (s.setOutStatus a status) else some s) = some s' →
        PathsUnrouted s s' := by
    intro a c _ status h
    obtain ⟨out, -, h⟩ := unbind h
    split at h
    · cases h
      exact hsame
    · cases h
      exact hsame
  cases op with
  | openOutput a devices flags => exact .of_eq (State.openOutput_paths h)
  | closeOutput a =>
    obtain ⟨standby, hstby, h⟩ := unbind h
    obtain ⟨out, -, h⟩ := unbind h
    cases h
    have hpaths := State.outStandby_pathsUnrouted hasks hstby
    exact hpaths
  | closeInput a =>
    obtain ⟨standby, hstby, h⟩ := unbind h
    cases h
    have hpaths := State.inStandby_pathsUnrouted hstby
    exact hpaths
  | outWrite a data =>
    obtain ⟨out, hout, h⟩ := unbind h
    have hstby : out.streamStatus ≠ .standby := by
      intro hstby
      exact hasks (by simp [State.Asks, hout, hstby])
    simp only [hstby, if_false] at h
    have hpaths := State.writeData_paths h
    exact .of_eq hpaths
  | inRead a data =>
    obtain ⟨input, hinput, h⟩ := unbind h
    obtain ⟨hstby, hrecfg⟩ : input.streamStatus ≠ .standby ∧ ¬input.pcmReconfig := by
      simp only [State.Asks, hinput, Option.any_some, Bool.or_eq_true, beq_iff_eq, not_or] at hasks
      exact hasks
    simp only [State.stopForReconfig, hrecfg, Bool.false_eq_true, if_false] at h
    obtain ⟨input', hinput', h⟩ := unbind h
    cases hinput'.symm.trans (State.modifyIn_self hinput)
    simp only [hstby, if_false] at h
    have hpaths := State.readData_paths h
    exact .of_eq hpaths
  | outStandby a => exact State.outStandby_pathsUnrouted hasks h
  | inStandby a => exact State.inStandby_pathsUnrouted h
  | outPause a => exact hstat h
  | outResume a => exact hstat h
  | outFlush a => exact hstat h
  | outStop a => exact hstat h
  | outDrain a =>
    obtain ⟨out, -, h⟩ := unbind h
    cases h
    exact hsame
  | outStart a =>
    obtain ⟨out, -, h⟩ := unbind h
    dsimp only at h
    split at h
    · split at h
      · cases h
        exact hsame
      · cases h
        exact hsame
    · cases h
      exact hsame
  | inSetSource a source =>
    obtain ⟨input, -, h⟩ := unbind h
    split at h
    · cases h
      exact hsame
    · split at h
      · cases h
        exact hsame
      · split at h
        · split at h
          · obtain ⟨usage, -, h⟩ := unbind h
            cases h
            exact hsame
          · cases h
            exact hsame
        · cases h
          exact hsame
  | inStart a =>
    obtain ⟨input, -, h⟩ := unbind h
    dsimp only at h
    split at h
    · split at h
      · cases h
        exact hsame
      · cases h
        exact hsame
    · cases h
      exact hsame
  | inStop a =>
    obtain ⟨input, -, h⟩ := unbind h
    split at h
    · cases h
      exact hsame
    · cases h
      exact hsame
  | rilBand band =>
    cases h
    exact hsame
  | setVoiceFlags realcall csvtcall callForwarding voipWificalling volteStatus vowifiBand =>
    cases h
    exact hsame
  | setFlags supportReciever fmViaA2dp fmState =>
    cases h
    exact hsame
  | setParameters param => exact .of_eq (State.setParameters_paths hasks h)
  | openInput a devices flags source sampleRate => exact absurd trivial hasks
  | outSetRouting a devices volume => exact absurd trivial hasks
  | outCreateMmapBuffer a valid => exact absurd trivial hasks
  | inSetRouting a devices => exact absurd trivial hasks
  | inCreateMmapBuffer a valid => exact absurd trivial hasks
  | setMode mode => exact absurd trivial hasks
  | setVoiceVolume zero => exact absurd trivial hasks
  | setCallForwarding => exact absurd trivial hasks

def PathsMoved (b : Build) (s s' : State) : Prop := ReflTransGen (Path.Moves (s.getModifier b)) s.playback s'.playback ∧
    ReflTransGen (Path.Moves (s.getModifier b)) s.capture s'.capture

theorem openInput_pathsMoved {a : Addr} {devices : Devices} {flags : Flags} {source : Source} {sampleRate : Nat}
    (h : s.openInput b env a devices flags source sampleRate = some s') : PathsMoved b s s' := by
  unfold State.openInput at h
  split at h
  · cases h
  · obtain ⟨placed, hplaced, h⟩ := unbind h
    cases h
    split
    · exact ⟨.refl, .refl⟩
    · obtain ⟨fmState, type, usage, p, c, rfl, hp, hc⟩ := State.placeInput_spec hplaced
      split <;> exact ⟨.single hp, .single hc⟩

theorem step_pathsMoved (hasks : s.Asks op) (h : step b s (op, env) = some s') : PathsMoved b s s' := by
  rcases Bool.eq_false_or_eq_true op.keeps with hkeeps | hkeeps
  · have hkept := step_kept hkeeps h
    exact ⟨hkept.playback, hkept.capture⟩
  · unfold Op.keeps at hkeeps
    split at hkeeps
    · cases hasks
    · obtain ⟨standby, hstby, h⟩ := unbind h
      obtain ⟨out, -, h⟩ := unbind h
      cases h
      have hkept := Kept.outStandby hstby
      exact ⟨hkept.playback, hkept.capture⟩
    · exact openInput_pathsMoved h
    · cases hasks
    · cases hasks
    · cases hkeeps

theorem step_inForce (hfresh : ModifiersFresh b s (op, env)) (h : step b s (op, env) = some s')
    (hs : s.playback.InForce ∧ s.capture.InForce) : s'.playback.InForce ∧ s'.capture.InForce := by
  by_cases hasks : s.Asks op
  · obtain ⟨hplay, hcap⟩ := step_pathsMoved hasks h
    obtain ⟨hfreshPlay, hfreshCap⟩ := hfresh hasks
    exact ⟨(Path.inForce_of_moves hplay ⟨hs.1, hfreshPlay⟩).1, (Path.inForce_of_moves hcap ⟨hs.2, hfreshCap⟩).1⟩
  · obtain ⟨hplay, hcap⟩ := step_pathsUnrouted hasks h
    exact ⟨hplay.inForce hs.1, hcap.inForce hs.2⟩

end

theorem inForce_init : ({} : Path).InForce := by
  refine ⟨⟨nofun, ?_⟩, nofun, fun _ => rfl, trivial⟩
  rintro ⟨triple, htriple⟩
  cases htriple

/-- As long as no route is asked for while a recorded modifier is out of date, the recorded routes are those in
force. -/
theorem routesInForce_run {b : Build} {steps : List (Op × Env)} {s : State}
    (hfresh : EachDefinedStep (step b) (ModifiersFresh b) init steps) (h : steps.foldlM (step b) init = some s) :
    s.playback.InForce ∧ s.capture.InForce :=
  foldlM_keeps_of_eachDefinedStep (fun _ _ _ hs hfresh h => step_inForce hfresh h hs) ⟨inForce_init, inForce_init⟩
    hfresh h

def playToSco : List (Op × Env) :=
  [openPrimary, (.outWrite 0 true, .usual), (.outSetRouting 0 outBluetoothSco none, .usual)]

theorem routesInForce_run_playToSco : ∃ s, playToSco.foldlM (step plainBuild) init = some s ∧
    s.playback.active = ⟨.media, .btScoHeadset, .btScoRxNb⟩ ∧ s.playback.InForce ∧ s.capture.InForce := by
  have hfresh : EachDefinedStep (step plainBuild) (ModifiersFresh plainBuild) init playToSco := by
    refine ⟨nofun, ?_⟩
    intro s hs
    cases hs
    refine ⟨fun _ => ⟨nofun, nofun⟩, ?_⟩
    intro s hs
    cases hs
    exact ⟨fun _ => ⟨fun _ => rfl, nofun⟩, fun _ _ => trivial⟩
  exact ⟨_, rfl, rfl, routesInForce_run hfresh rfl⟩

def changeRate : List (Op × Env) :=
  [(.setParameters (.btScoWb true), .usual), (.outSetRouting 0 outBluetoothSco none, .usual)]

theorem not_routesInForce_rateChange : ∃ s, (playToSco ++ changeRate).foldlM (step plainBuild) init = some s ∧
      s.playback.active = ⟨.media, .btScoHeadset, .btScoRxWb⟩ ∧
      s.playback.calls.head? = some ⟨⟨.media, .btScoHeadset, .btScoRxNb⟩, true⟩ ∧ ¬s.playback.InForce := by
  have hrun : ∃ s, (playToSco ++ changeRate).foldlM (step plainBuild) init = some s ∧
      s.playback.active = ⟨.media, .btScoHeadset, .btScoRxWb⟩ ∧
      s.playback.calls.head? = some ⟨⟨.media, .btScoHeadset, .btScoRxNb⟩, true⟩ ∧ s.playback.isRouted :=
    ⟨_, rfl, rfl, rfl, rfl⟩
  obtain ⟨s, hs, hact, hcalls, hrouted⟩ := hrun
  refine ⟨s, hs, hact, hcalls, ?_⟩
  intro h
  have hrec := h.active hrouted
  rw [hact, hcalls] at hrec
  cases hrec

end ExynosHal.Audio
