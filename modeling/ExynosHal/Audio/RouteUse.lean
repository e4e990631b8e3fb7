import ExynosHal.Audio.Pointers
import ExynosHal.Audio.RouteInForce

/-! # The users of a route: playback

In NORMAL mode a routed path has a stream that is not in standby, or a capture stream to be reopened.
-/

namespace ExynosHal.Audio
open Relation Library.Run
open Option (map_eq_some_iff)
open Function (update_of_ne update_self)
open Bool (and_eq_true false_eq_true)
open State (modifyOut_outs modifyOut_self)

def State.mood (s : State) : Mode × FmState × FactoryMode := (s.amode, s.fmState, s.factory.mode)

def State.Quiet (s : State) : Prop := s.mood = (.normal, .off, .none)

def AllReleased (s : State) : Prop := (∀ a ∈ s.playbackList, ∀ out ∈ s.outs a, out.released) ∧
    ∀ a ∈ s.captureList, ∀ input ∈ s.ins a, input.released

def NoRouteLeft (s : State) : Prop := s.Quiet → AllReleased s → s.playback.isRouted = false ∧ s.capture.isRouted = false

def SameFlags (s s' : State) : Prop :=
  s'.playback.isRouted = s.playback.isRouted ∧ s'.capture.isRouted = s.capture.isRouted

def OpenKeepsFlags (b : Build) (s : State) : Op × Env → Prop
  | (.openOutput a devices flags, env) => ∀ opened, s.openOutput b env a devices flags = some opened →
    SameFlags s opened ∧ ∀ env' closed, opened.closeOutput b env' a = some closed → SameFlags s closed
  | (.openInput a devices flags source sampleRate, env) =>
    ∀ opened, s.openInput b env a devices flags source sampleRate = some opened →
      SameFlags s opened ∧ ∀ env' closed, opened.closeInput b env' a = some closed → SameFlags s closed
  | _ => True

def Op.isStreamStep : Op → Bool
  | .openOutput .. | .closeOutput _ | .openInput .. | .closeInput _ | .outWrite .. | .outStandby _ | .outSetRouting
    .. => true
  | .inRead .. | .inStandby _ | .inSetRouting .. | .inSetSource .. | .setMode _ => true
  | _ => false

def StreamIn.Uses (input : StreamIn) : Prop :=
  input.streamStatus ≠ .standby ∨ input.pcmReconfig ∧ input.released = false

def PlaybackUsed (s : State) : Prop :=
  s.playback.isRouted → ∃ p out, s.outs p = some out ∧ out.streamStatus ≠ .standby

def CaptureUsed (s : State) : Prop := s.capture.isRouted → ∃ p input, s.ins p = some input ∧ input.Uses

def State.RoutesAtOpen (s : State) (devices : Devices) (flags : Flags) (source : Source) (sampleRate : Nat) : Prop :=
  (s.inputFlags flags sampleRate = 0 ∨ hasAny (s.inputFlags flags sampleRate) inputFlagVoipTx) ∧
    (source = .camcorder ∨ source = .fmTuner ∧ devices = inFmTuner)

def State.LeavesUser (s : State) (b : Build) (a : Addr) : Prop :=
  s.Quiet → s.capture.isRouted → ∀ input ∈ s.ins a, input.Uses →
    input.streamStatus = .standby ∨ b.sthalInterface ∧ input.streamType = .captureHotword →
      ∃ p ≠ a, ∃ other ∈ s.ins p, other.Uses

def State.UsedInNormal (s : State) (env : Env) : Prop :=
  if s.voice.any Voice.isCallActive = true then
    (∀ p ∈ s.primaryOutput, ∀ out ∈ s.outs p, out.streamStatus = .standby ∨
      p ∈ s.playbackList ∧ out.streamType = .playbackPrimary ∧ env.isUsageCPCall s.capture.active.usage = true) ∨
      CaptureUsed s
  else PlaybackUsed s ∧ CaptureUsed s

def RoutesUsed (b : Build) (s : State) : Op × Env → Prop
  | (.openInput _ devices flags source sampleRate, _) =>
    s.RoutesAtOpen devices flags source sampleRate → s.capture.isRouted
  | (.outSetRouting a devices _, _) => s.Quiet → s.primaryOutput = some a → popcount devices = 2 →
    s.playback.isRouted = true ∨ (s.outs a).any (fun out => out.streamStatus != .standby) = true
  | (.inStandby a, _) => s.LeavesUser b a
  | (.closeInput a, _) => s.LeavesUser b a
  | (.setMode mode, env) => s.amode ≠ .normal → mode = .normal → s.UsedInNormal env
  | _ => True

structure ReleasedStandby (s : State) : Prop where
  outs : ∀ p out, s.outs p = some out → out.released → out.streamStatus = .standby
  ins : ∀ p input, s.ins p = some input → input.released → input.streamStatus = .standby

structure RouteInv (s : State) : Prop where
  listedOut : ∀ p, (s.outs p).isSome → p ∈ s.playbackList
  listedIn : ∀ p, (s.ins p).isSome → p ∈ s.captureList
  released : ReleasedStandby s
  used : s.Quiet → PlaybackUsed s ∧ CaptureUsed s

theorem RouteInv.noRouteLeft {s : State} (h : RouteInv s) : NoRouteLeft s := by
  intro hquiet hreleased
  obtain ⟨hplay, hcap⟩ := h.used hquiet
  constructor
  · refine Bool.eq_false_of_not_eq_true fun hrouted => ?_
    obtain ⟨p, out, hout, hstat⟩ := hplay hrouted
    have hlisted := h.listedOut p (Option.isSome_of_eq_some hout)
    exact hstat (h.released.outs p out hout (hreleased.1 p hlisted out hout))
  · refine Bool.eq_false_of_not_eq_true fun hrouted => ?_
    obtain ⟨p, input, hinput, huses⟩ := hcap hrouted
    have hlisted := h.listedIn p (Option.isSome_of_eq_some hinput)
    have hrel := hreleased.2 p hlisted input hinput
    rcases huses with hstat | ⟨-, hunrel⟩
    · exact hstat (h.released.ins p input hinput hrel)
    · rw [hrel] at hunrel
      cases hunrel

structure OnlyOut (a : Addr) (s s' : State) : Prop where
  mood : s'.mood = s.mood
  ins : s'.ins = s.ins
  outs : ∀ p, p ≠ a → s'.outs p = s.outs p

structure OnlyIn (a : Addr) (s s' : State) : Prop where
  mood : s'.mood = s.mood
  outs : s'.outs = s.outs
  ins : ∀ p, p ≠ a → s'.ins p = s.ins p

section
variable {b : Build} {env : Env} {s s' s'' : State} {a : Addr}

theorem OnlyOut.trans (h : OnlyOut a s s') (h' : OnlyOut a s' s'') : OnlyOut a s s'' :=
  ⟨h'.mood.trans h.mood, h'.ins.trans h.ins, fun p hp => (h'.outs p hp).trans (h.outs p hp)⟩

theorem OnlyIn.refl (a : Addr) (s : State) : OnlyIn a s s := ⟨rfl, rfl, fun _ _ => rfl⟩

theorem OnlyIn.trans (h : OnlyIn a s s') (h' : OnlyIn a s' s'') : OnlyIn a s s'' :=
  ⟨h'.mood.trans h.mood, h'.outs.trans h.outs, fun p hp => (h'.ins p hp).trans (h.ins p hp)⟩

theorem SameStreams.mood (h : SameStreams b s s') : s'.mood = s.mood := by
  obtain ⟨p, c, v, running, on, rfl, -⟩ := h
  rfl

theorem SameStreams.onlyOut (h : SameStreams b s s') (a : Addr) : OnlyOut a s s' :=
  ⟨h.mood, h.ins_eq, fun p _ => congrFun h.outs_eq p⟩

theorem SameStreams.onlyIn (h : SameStreams b s s') (a : Addr) : OnlyIn a s s' :=
  ⟨h.mood, h.outs_eq, fun p _ => congrFun h.ins_eq p⟩

theorem OnlyOut.modifyOut (s : State) (a : Addr) (f : StreamOut → StreamOut) : OnlyOut a s (s.modifyOut a f) :=
  ⟨rfl, rfl, fun _ hp => update_of_ne hp _ _⟩

theorem OnlyIn.modifyIn (s : State) (a : Addr) (f : StreamIn → StreamIn) : OnlyIn a s (s.modifyIn a f) :=
  ⟨rfl, rfl, fun _ hp => update_of_ne hp _ _⟩

section
variable (h : ReleasedStandby s)
include h

theorem ReleasedStandby.onlyOut (honly : OnlyOut a s s') {out : StreamOut}
    (hout : s'.outs a = some out) (hstat : out.released → out.streamStatus = .standby) : ReleasedStandby s' where
  outs p out' hout' hrel := by
    rcases eq_or_ne p a with rfl | hne
    · cases hout.symm.trans hout'
      exact hstat hrel
    · rw [honly.outs p hne] at hout'
      exact h.outs p out' hout' hrel
  ins p input hinput := by
    rw [honly.ins] at hinput
    exact h.ins p input hinput

theorem ReleasedStandby.onlyIn (honly : OnlyIn a s s') {input : StreamIn}
    (hinput : s'.ins a = some input) (hstat : input.released → input.streamStatus = .standby) :
    ReleasedStandby s' where
  outs p out hout := by
    rw [honly.outs] at hout
    exact h.outs p out hout
  ins p input' hinput' hrel := by
    rcases eq_or_ne p a with rfl | hne
    · cases hinput.symm.trans hinput'
      exact hstat hrel
    · rw [honly.ins p hne] at hinput'
      exact h.ins p input' hinput' hrel

theorem ReleasedStandby.congr (houts : s'.outs = s.outs) (hins : s'.ins = s.ins) : ReleasedStandby s' :=
  ⟨houts ▸ h.outs, hins ▸ h.ins⟩

theorem ReleasedStandby.updateStreams (env : Env) (changed : Bool) : ReleasedStandby (s.updateStreams env changed) where
  outs p out' hout' hrel := by
    unfold State.updateStreams at hout'
    dsimp only at hout'
    split at hout'
    · obtain ⟨out, hout, rfl⟩ := map_eq_some_iff.mp hout'
      unfold State.closeForCall at hrel ⊢
      split
      · rfl
      · rename_i hkept
        rw [if_neg hkept] at hrel
        exact h.outs p out hout hrel
    · exact h.outs p out' hout' hrel
  ins p input' hinput' hrel := by
    unfold State.updateStreams at hinput'
    dsimp only at hinput'
    split at hinput'
    · obtain ⟨input, hinput, rfl⟩ := map_eq_some_iff.mp hinput'
      unfold State.reconfigForCall at hrel ⊢
      split
      · rename_i hclosed
        rw [if_pos hclosed] at hrel
        exact h.ins p input hinput hrel
      · rename_i hkept
        rw [if_neg hkept] at hrel
        exact h.ins p input hinput hrel
    · exact h.ins p input' hinput' hrel

theorem ReleasedStandby.callUpdated (hs : CallUpdated b env s s') : ReleasedStandby s' := by
  rcases hs with hs | ⟨changed, hs⟩
  · exact h.congr hs.outs_eq hs.ins_eq
  · exact (h.updateStreams env changed).congr hs.outs_eq hs.ins_eq

end

theorem RouteInv.kept (h : RouteInv s) (hkept : Kept b s s') (hrel : ReleasedStandby s')
    (hused : s'.Quiet → PlaybackUsed s' ∧ CaptureUsed s') : RouteInv s' where
  listedOut p hp := by
    rw [hkept.outs] at hp
    rw [hkept.playbackList]
    exact h.listedOut p hp
  listedIn p hp := by
    rw [hkept.ins] at hp
    rw [hkept.captureList]
    exact h.listedIn p hp
  released := hrel
  used := hused

theorem State.Quiet.cpCall (h : s.Quiet) : s.isCPCallMode = false := by
  have hmode : s.amode = .normal := congrArg Prod.fst h
  rw [State.isCPCallMode, hmode]
  rfl

theorem State.Quiet.apCall (h : s.Quiet) : s.isAPCallMode = false := by
  have hmode : s.amode = .normal := congrArg Prod.fst h
  rw [State.isAPCallMode, hmode]
  rfl

theorem State.Quiet.callMode (h : s.Quiet) : s.isCallMode = false := by
  rw [State.isCallMode, h.cpCall, h.apCall]
  rfl

theorem CaptureUsed.congr (h : CaptureUsed s) (hcap : s'.capture = s.capture) (hins : s'.ins = s.ins) :
    CaptureUsed s' := by
  unfold CaptureUsed
  rw [hcap, hins]
  exact h

theorem PlaybackUsed.congr (h : PlaybackUsed s) (hplay : s'.playback = s.playback) (houts : s'.outs = s.outs) :
    PlaybackUsed s' := by
  unfold PlaybackUsed
  rw [hplay, houts]
  exact h

end

namespace State

variable {b : Build} {env : Env} {s s' : State} {a : Addr} {force : Force} {set : Bool}

theorem setRoutePlayback_capture (hforce : force ≠ .callDrive)
    (h : s.setRoutePlayback b env a set force = some s') : s'.capture = s.capture := by
  obtain ⟨out, -, h⟩ := unbind h
  have hdrives : (s.outputDrivesCall a out && force == .callDrive) = false := by
    rw [beq_false_of_ne hforce, Bool.and_false]
  simp only [hdrives, false_eq_true, if_false, Option.bind_eq_bind, Option.bind_some] at h
  cases set with
  | true =>
    obtain ⟨new, -, h⟩ := unbind h
    split at h
    · cases h
      rfl
    · cases h
      rfl
  | false =>
    cases h
    rfl

theorem routeAs_capture {devices : Devices} (hforce : force ≠ .callDrive)
    (h : s.routeAs b env a devices force = some s') : s'.capture = s.capture := by
  obtain ⟨out, -, h⟩ := unbind h
  obtain ⟨routed, hrouted, h⟩ := unbind h
  cases h
  exact (setRoutePlayback_capture hforce hrouted :)

theorem setRouteCapture_cases (hap : s.isAPCallMode = false)
    (h : s.setRouteCapture b env a set force = some s') :
    ∃ c, s' = s.setCapture c ∧ (set → c.isRouted) ∧
      (set = false → c = s.capture.unroute (s.captureInUse force)) := by
  obtain ⟨input, -, h⟩ := unbind h
  simp only [hap, Bool.false_and, false_eq_true, if_false] at h
  cases set with
  | true =>
    obtain ⟨new, -, h⟩ := unbind h
    cases h
    refine ⟨_, rfl, fun _ => ?_, nofun⟩
    unfold Path.route
    split
    · rename_i hrouted
      split <;> exact hrouted
    · rfl
  | false =>
    cases h
    exact ⟨_, rfl, nofun, fun _ => rfl⟩

end State

theorem Path.isRouted_unroute {p : Path} {inUse : Bool} (h : (p.unroute inUse).isRouted) : p.isRouted ∧ inUse := by
  unfold Path.unroute at h
  split at h
  · rename_i hrouted
    split at h
    · rename_i huse
      exact ⟨hrouted, huse⟩
    · cases h
  · rename_i hrouted
    exact absurd h hrouted

section
variable {s : State} {a : Addr} {force : Force}

theorem exists_active_of_playbackInUse (hquiet : s.Quiet) (h : s.playbackInUse a force) :
    ∃ p out, p ≠ a ∧ s.outs p = some out ∧ out.streamStatus ≠ .standby := by
  have hloopback : (s.factory.mode == .loopback) = false := by
    have hfactory : s.factory.mode = .none := congrArg (fun mood => mood.2.2) hquiet
    rw [hfactory]
    rfl
  have hradio : s.isFMRadioOn = false := by
    have hfm : s.fmState = .off := congrArg (fun mood => mood.2.1) hquiet
    rw [State.isFMRadioOn, hfm]
    rfl
  simp only [State.playbackInUse, hquiet.cpCall, hloopback, hradio, Bool.or_false, and_eq_true, decide_eq_true_eq] at h
  obtain ⟨p, -, hp⟩ := List.countP_pos_iff.mp h.2
  simp only [and_eq_true, decide_eq_true_eq, Option.any_eq_true, bne_iff_ne] at hp
  obtain ⟨hne, out, hout, -, hstat⟩ := hp
  exact ⟨p, out, hne, hout, hstat⟩

theorem exists_active_of_captureCount (h : 0 < s.activeCaptureCount) :
    ∃ p input, s.ins p = some input ∧ input.streamStatus ≠ .standby := by
  obtain ⟨p, -, hp⟩ := List.countP_pos_iff.mp h
  simp only [Option.any_eq_true, and_eq_true, bne_iff_ne] at hp
  obtain ⟨input, hinput, -, hstat⟩ := hp
  exact ⟨p, input, hinput, hstat⟩

theorem exists_active_of_captureInUse (hquiet : s.Quiet) (h : s.captureInUse force) :
    ∃ p input, s.ins p = some input ∧ input.streamStatus ≠ .standby := by
  simp only [State.captureInUse, hquiet.cpCall, Bool.or_false, and_eq_true, decide_eq_true_eq] at h
  exact exists_active_of_captureCount h.2

end

section
variable {b : Build} {env : Env} {s s' : State} {a : Addr}

structure StaysActive (a : Addr) (s s' : State) : Prop where
  only : OnlyOut a s s'
  capture : s'.capture = s.capture
  active : ∀ out, s.outs a = some out → out.released = false → out.streamStatus ≠ .standby →
    ∃ out', s'.outs a = some out' ∧ out'.released = false ∧ out'.streamStatus ≠ .standby

variable {data : Bool}

theorem writeData_staysActive (h : s.writeData env a data = some s') : StaysActive a s s' := by
  obtain ⟨out, hout, h⟩ := unbind h
  have hsame : ∀ {t : State}, t.outs = s.outs → t.ins = s.ins → t.mood = s.mood → t.capture = s.capture →
      StaysActive a s t := by
    intro t houts hins hmood hcap
    exact ⟨⟨hmood, hins, fun p _ => congrFun houts p⟩, hcap,
      fun out hout hrel hstat => ⟨out, (congrFun houts a).trans hout, hrel, hstat⟩⟩
  split at h
  · split at h
    · split at h
      · cases h
        refine ⟨⟨rfl, rfl, fun p hp => update_of_ne hp _ _⟩, rfl, ?_⟩
        intro out' hout' hrel _
        exact ⟨{ out' with streamStatus := .playing }, modifyOut_self hout', hrel, nofun⟩
      · cases h
        exact hsame rfl rfl rfl rfl
    · cases h
      exact hsame rfl rfl rfl rfl
  · cases h
    exact hsame rfl rfl rfl rfl

theorem proxyOpenPlayback_onlyOut (s : State) (env : Env) (a : Addr) : OnlyOut a s (s.proxyOpenPlayback env a) := by
  unfold State.proxyOpenPlayback
  split
  · exact ⟨rfl, rfl, fun p hp => update_of_ne hp _ _⟩
  · exact ⟨rfl, rfl, fun p hp => rfl⟩

variable {out : StreamOut}

theorem proxyOpenPlayback_out (env : Env) (hout : s.outs a = some out) :
    ∃ out', (s.proxyOpenPlayback env a).outs a = some out' ∧ out'.released = out.released ∧
      out'.streamStatus = out.streamStatus := by
  unfold State.proxyOpenPlayback
  split
  · exact ⟨_, modifyOut_self hout, rfl, rfl⟩
  · exact ⟨out, hout, rfl, rfl⟩

theorem proxyOpenPlayback_capture (s : State) (env : Env) (a : Addr) :
    (s.proxyOpenPlayback env a).capture = s.capture := by
  unfold State.proxyOpenPlayback
  split <;> rfl

theorem routeForWrite_capture (hcp : s.isCPCallMode = false) (h : s.routeForWrite b env a out = some s') :
    s'.capture = s.capture := by
  unfold State.routeForWrite at h
  simp only [hcp, false_eq_true, and_false, if_false] at h
  split at h
  · split at h
    · exact State.routeAs_capture (by decide) h
    · exact State.setRoutePlayback_capture (by decide) h
  · cases h
    rfl

theorem outWrite_spec (h : s.outWrite b env a data = some s') :
    OnlyOut a s s' ∧ (s.isCPCallMode = false → s'.capture = s.capture) ∧
      ∃ out, s'.outs a = some out ∧ out.released = false ∧ out.streamStatus ≠ .standby := by
  obtain ⟨out, hout, h⟩ := unbind h
  split at h
  · obtain ⟨routed, hrouted, h⟩ := unbind h
    have hsame := State.routeForWrite_sameStreams hrouted
    have hready : OnlyOut a s ((s.useOut a).setOutStatus a .ready) := (OnlyOut.modifyOut s a _).trans (.modifyOut _ a _)
    have hopened : OnlyOut a s (routed.proxyOpenPlayback env a) :=
      (hready.trans (hsame.onlyOut a)).trans (proxyOpenPlayback_onlyOut routed env a)
    have hcap : s.isCPCallMode = false → (routed.proxyOpenPlayback env a).capture = s.capture :=
      fun hcp => (proxyOpenPlayback_capture routed env a).trans
        (routeForWrite_capture (s := (s.useOut a).setOutStatus a .ready) hcp hrouted)
    have hself : routed.outs a = some { out with released := false, streamStatus := .ready } := by
      rw [hsame.outs_eq]
      exact modifyOut_self (modifyOut_self hout)
    obtain ⟨opened, hopenedOut, hrel, hstat⟩ := proxyOpenPlayback_out env hself
    split at h
    · have hwritten := writeData_staysActive h
      have hidle : OnlyOut a (routed.proxyOpenPlayback env a) ((routed.proxyOpenPlayback env a).setOutStatus a .idle) :=
        .modifyOut _ a _
      refine ⟨(hopened.trans hidle).trans hwritten.only, fun hcp => hwritten.capture.trans (hcap hcp), ?_⟩
      exact hwritten.active { opened with streamStatus := .idle } (modifyOut_self hopenedOut) hrel nofun
    · cases h
      refine ⟨hopened, hcap, opened, hopenedOut, hrel, ?_⟩
      rw [hstat]
      exact nofun
  · rename_i hact
    have hwritten := writeData_staysActive h
    have hused : OnlyOut a s (s.useOut a) := .modifyOut s a _
    exact ⟨hused.trans hwritten.only, fun _ => hwritten.capture,
      hwritten.active { out with released := false } (modifyOut_self hout) rfl hact⟩

theorem RouteInv.outWrite (h : RouteInv s) (hs : s.outWrite b env a data = some s') : RouteInv s' := by
  obtain ⟨honly, hcap, out, hout, hrel, hstat⟩ := outWrite_spec hs
  refine h.kept (Kept.outWrite hs) (h.released.onlyOut honly hout ?_) ?_
  · rw [hrel]
    exact nofun
  · intro hquiet
    replace hquiet : s.Quiet := honly.mood.symm.trans hquiet
    exact ⟨fun _ => ⟨a, out, hout, hstat⟩, (h.used hquiet).2.congr (hcap hquiet.cpCall) honly.ins⟩

def closedOut (out : StreamOut) : StreamOut := { out with released := true, isOpen := false, streamStatus := .standby }

theorem modifyOut_closed (hout : s.outs a = some out) :
    (((s.modifyOut a fun out => { out with released := true }).proxyClosePlayback a).setOutStatus a .standby).outs a =
      some (closedOut out) :=
  modifyOut_self (modifyOut_self (modifyOut_self hout))

theorem CallUpdated.mood (h : CallUpdated b env s s') : s'.mood = s.mood := by
  rcases h with h | ⟨changed, h⟩ <;> exact h.mood

theorem unrouteForStandby_used (hquiet : s.Quiet) (hcapture : CaptureUsed s)
    (h : s.unrouteForStandby b env a out = some s') :
    s'.outs = s.outs ∧ CaptureUsed s' ∧
      (s'.playback.isRouted → ∃ p out, p ≠ a ∧ s.outs p = some out ∧ out.streamStatus ≠ .standby) := by
  unfold State.unrouteForStandby at h
  split at h
  · simp only [hquiet.cpCall, false_eq_true, and_false, if_false] at h
    have hunrouted : ∀ {t : State}, t.Quiet → t.outs = s.outs → t.ins = s.ins → t.capture = s.capture →
        t.setRoutePlayback b env a false .nonForceRoute = some s' → s'.outs = s.outs ∧ CaptureUsed s' ∧
          (s'.playback.isRouted → ∃ p out, p ≠ a ∧ s.outs p = some out ∧ out.streamStatus ≠ .standby) := by
      intro t htquiet houts hins hcap ht
      cases State.setRoutePlayback_standby ht
      refine ⟨houts, hcapture.congr hcap hins, ?_⟩
      intro hrouted
      have huse := (Path.isRouted_unroute hrouted).2
      rw [← houts]
      exact exists_active_of_playbackInUse htquiet huse
    split at h
    · exact hunrouted (t := { s with incallmusicOn := false }) hquiet rfl rfl rfl h
    · exact hunrouted (t := s) hquiet rfl rfl rfl h
  · rename_i hrouted
    cases h
    exact ⟨rfl, hcapture, fun hrouted' => absurd hrouted' hrouted⟩

theorem outStandby_released (h : ReleasedStandby s) (hs : s.outStandby b env a = some s') :
    ReleasedStandby s' ∧ s'.mood = s.mood := by
  obtain ⟨out, hout, ⟨hstby, rfl⟩ | ⟨-, unrouted, hunrouted, rfl⟩⟩ := State.outStandby_cases hs
  · exact ⟨h.onlyOut (.modifyOut s a _) (modifyOut_self hout) fun _ => hstby, rfl⟩
  · have honly : OnlyOut a s (s.closedOut a) :=
      ((OnlyOut.modifyOut s a _).trans (.modifyOut _ a _)).trans (.modifyOut _ a _)
    have hclosed := h.onlyOut honly (modifyOut_closed hout) fun _ => rfl
    have hupdated := State.unrouteForStandby_updated hunrouted
    have hreleased := hclosed.callUpdated hupdated
    refine ⟨⟨?_, hreleased.ins⟩, hupdated.mood⟩
    intro p out' hout' hrel
    rcases eq_or_ne p a with rfl | hne
    · rw [modifyOut_outs, update_self] at hout'
      obtain ⟨out'', hout'', rfl⟩ := map_eq_some_iff.mp hout'
      exact hreleased.outs p out'' hout'' hrel
    · rw [modifyOut_outs, update_of_ne hne] at hout'
      exact hreleased.outs p out' hout' hrel

theorem outStandby_used (hquiet : s.Quiet) (hused : PlaybackUsed s ∧ CaptureUsed s)
    (hs : s.outStandby b env a = some s') :
    (s'.playback.isRouted → ∃ p out, p ≠ a ∧ s'.outs p = some out ∧ out.streamStatus ≠ .standby) ∧
      CaptureUsed s' := by
  obtain ⟨out, hout, ⟨hstby, rfl⟩ | ⟨-, unrouted, hunrouted, rfl⟩⟩ := State.outStandby_cases hs
  · refine ⟨?_, hused.2.congr rfl rfl⟩
    intro hrouted
    obtain ⟨p, other, hp, hstat⟩ := hused.1 hrouted
    have hne : p ≠ a := by
      rintro rfl
      cases hout.symm.trans hp
      exact hstat hstby
    exact ⟨p, other, hne, (update_of_ne hne _ _).trans hp, hstat⟩
  · have hcap : CaptureUsed (s.closedOut a) := hused.2.congr rfl rfl
    obtain ⟨houts, hcap', hother⟩ := unrouteForStandby_used (s := s.closedOut a) hquiet hcap hunrouted
    refine ⟨?_, hcap'.congr rfl rfl⟩
    intro hrouted
    obtain ⟨p, other, hne, hp, hstat⟩ := hother hrouted
    refine ⟨p, other, hne, ?_, hstat⟩
    rw [modifyOut_outs, update_of_ne hne, houts]
    exact hp

theorem RouteInv.outStandby (h : RouteInv s) (hs : s.outStandby b env a = some s') : RouteInv s' := by
  obtain ⟨hrel, hmood⟩ := outStandby_released h.released hs
  refine h.kept (Kept.outStandby hs) hrel ?_
  intro hquiet
  replace hquiet : s.Quiet := hmood.symm.trans hquiet
  obtain ⟨hplay, hcap⟩ := outStandby_used hquiet (h.used hquiet) hs
  refine ⟨?_, hcap⟩
  intro hrouted
  obtain ⟨p, out, -, hp, hstat⟩ := hplay hrouted
  exact ⟨p, out, hp, hstat⟩

theorem RouteInv.closeOutput (h : RouteInv s) (hs : s.closeOutput b env a = some s') : RouteInv s' := by
  obtain ⟨standby, hstby, hs⟩ := unbind hs
  obtain ⟨out, -, hs⟩ := unbind hs
  cases hs
  have hinv := h.outStandby hstby
  obtain ⟨-, hmood⟩ := outStandby_released h.released hstby
  refine ⟨?_, hinv.listedIn, ⟨?_, hinv.released.ins⟩, ?_⟩
  · intro p hp
    dsimp only at hp ⊢
    rcases eq_or_ne p a with rfl | hne
    · rw [update_self] at hp
      cases hp
    · rw [update_of_ne hne] at hp
      exact List.mem_filter.mpr ⟨hinv.listedOut p hp, decide_eq_true hne⟩
  · intro p out' hout'
    dsimp only at hout'
    rcases eq_or_ne p a with rfl | hne
    · rw [update_self] at hout'
      cases hout'
    · rw [update_of_ne hne] at hout'
      exact hinv.released.outs p out' hout'
  · intro hquiet
    replace hquiet : s.Quiet := hmood.symm.trans hquiet
    obtain ⟨hplay, hcap⟩ := outStandby_used hquiet (h.used hquiet) hstby
    refine ⟨?_, hcap.congr rfl rfl⟩
    intro hrouted
    obtain ⟨p, other, hne, hp, hstat⟩ := hplay hrouted
    exact ⟨p, other, (update_of_ne hne _ _).trans hp, hstat⟩

theorem initVoice_mood (s : State) (env : Env) (type : StreamType) : (s.initVoice env type).mood = s.mood := by
  unfold State.initVoice
  split <;> rfl

theorem claimOutput_mood {type : StreamType} (h : s.claimOutput a type = some s') : s'.mood = s.mood := by
  unfold State.claimOutput at h
  split at h
  · cases h
    split <;> rfl
  · split at h
    · cases h
      rfl
    · cases h
  · cases h
    split <;> rfl
  · cases h
    rfl

theorem unclaimOutput_mood (s : State) (type : StreamType) : (s.unclaimOutput type).mood = s.mood := by
  unfold State.unclaimOutput
  split <;> rfl

variable {devices : Devices} {flags : Flags}

theorem openOutput_spec (h : s.openOutput b env a devices flags = some s') :
    s'.mood = s.mood ∧ s'.ins = s.ins ∧ s'.captureList = s.captureList ∧ s.outs a = none ∧
      ((s'.outs = s.outs ∧ s'.playbackList = s.playbackList) ∨
        ∃ out, out.streamStatus = .standby ∧ s'.outs = Function.update s.outs a (some out) ∧
          s'.playbackList = s.playbackList ++ [a]) := by
  unfold State.openOutput at h
  split at h
  · cases h
  · rename_i hfree
    have hnone := Option.not_isSome_iff_eq_none.mp hfree
    split at h
    · cases h
      exact ⟨rfl, rfl, rfl, hnone, Or.inl ⟨rfl, rfl⟩⟩
    · rename_i type usage _
      dsimp only at h
      have hptrs := initVoice_pointers s env type
      simp only [State.pointers, Prod.mk.injEq] at hptrs
      obtain ⟨-, -, -, -, hplay, hcap⟩ := hptrs
      split at h
      · cases h
        exact ⟨initVoice_mood s env type, initVoice_ins s env type, hcap, hnone,
          Or.inl ⟨initVoice_outs s env type, hplay⟩⟩
      · rename_i claimed hclaimed
        have hclaim := claimOutput_claimed hclaimed
        have hmood := (claimOutput_mood hclaimed).trans (initVoice_mood s env type)
        have hins := hclaim.ins.trans (initVoice_ins s env type)
        have houts := hclaim.outs.trans (initVoice_outs s env type)
        have hcapList := hclaim.captureList.trans hcap
        have hplayList := hclaim.playbackList.trans hplay
        split at h
        · cases h
          refine ⟨hmood, hins, hcapList, hnone,
            Or.inr ⟨{ requestedDevices := devices, streamType := type, streamUsage := usage }, rfl, ?_, ?_⟩⟩
          · rw [houts]
          · rw [hplayList]
        · cases h
          refine ⟨(unclaimOutput_mood claimed type).trans hmood, (unclaimOutput_ins claimed type).trans hins, ?_, hnone,
            Or.inl ⟨(unclaimOutput_outs claimed type).trans houts, ?_⟩⟩
          · unfold State.unclaimOutput
            split <;> exact hcapList
          · unfold State.unclaimOutput
            split <;> exact hplayList

theorem RouteInv.openOutput (h : RouteInv s)
    (hs : s.openOutput b env a devices flags = some s') : RouteInv s' := by
  obtain ⟨hplay, hcap⟩ := State.openOutput_paths hs
  obtain ⟨hmood, hins, hcapList, hfree, hstreams⟩ := openOutput_spec hs
  have hlistedIn : ∀ p, (s'.ins p).isSome → p ∈ s'.captureList := by
    rw [hins, hcapList]
    exact h.listedIn
  rcases hstreams with ⟨houts, hlist⟩ | ⟨out, hstat, houts, hlist⟩
  · refine ⟨?_, hlistedIn, h.released.congr houts hins, ?_⟩
    · rw [houts, hlist]
      exact h.listedOut
    · intro hquiet
      obtain ⟨hp, hc⟩ := h.used (hmood.symm.trans hquiet)
      exact ⟨hp.congr hplay houts, hc.congr hcap hins⟩
  · refine ⟨?_, hlistedIn, ⟨?_, ?_⟩, ?_⟩
    · intro p hp
      rw [hlist]
      rcases eq_or_ne p a with rfl | hne
      · exact List.mem_append_right _ List.mem_cons_self
      · rw [houts, update_of_ne hne] at hp
        exact List.mem_append_left _ (h.listedOut p hp)
    · intro p out' hout' hrel
      rw [houts] at hout'
      rcases eq_or_ne p a with rfl | hne
      · rw [update_self] at hout'
        cases hout'
        exact hstat
      · rw [update_of_ne hne] at hout'
        exact h.released.outs p out' hout' hrel
    · rw [hins]
      exact h.released.ins
    · intro hquiet
      obtain ⟨hp, hc⟩ := h.used (hmood.symm.trans hquiet)
      refine ⟨?_, hc.congr hcap hins⟩
      intro hrouted
      rw [hplay] at hrouted
      obtain ⟨p, user, huser, huserStat⟩ := hp hrouted
      have hne : p ≠ a := by
        rintro rfl
        rw [hfree] at huser
        cases huser
      refine ⟨p, user, ?_, huserStat⟩
      rw [houts, update_of_ne hne]
      exact huser

structure Retouched (a : Addr) (s s' : State) : Prop where
  only : OnlyOut a s s'
  playback : s'.playback = s.playback
  capture : s'.capture = s.capture
  activeInput : s'.activeInput = s.activeInput
  out : ∀ out, s.outs a = some out → ∃ out', s'.outs a = some out' ∧ out'.streamStatus = out.streamStatus ∧
    (out'.released = out.released ∨ out'.released = false)

theorem Retouched.trans {t : State} (h : Retouched a s t) (h' : Retouched a t s') : Retouched a s s' := by
  refine ⟨h.only.trans h'.only, h'.playback.trans h.playback, h'.capture.trans h.capture,
    h'.activeInput.trans h.activeInput, ?_⟩
  intro out hout
  obtain ⟨out', hout', hstat, hrel⟩ := h.out out hout
  obtain ⟨out'', hout'', hstat', hrel'⟩ := h'.out out' hout'
  refine ⟨out'', hout'', hstat'.trans hstat, ?_⟩
  rcases hrel' with hsame | hused
  · rw [hsame]
    exact hrel
  · exact Or.inr hused

theorem Retouched.modifyOut (s : State) (a : Addr) {f : StreamOut → StreamOut}
    (hf : ∀ out, (f out).streamStatus = out.streamStatus ∧
    ((f out).released = out.released ∨ (f out).released = false)) : Retouched a s (s.modifyOut a f) :=
  ⟨.modifyOut s a f, rfl, rfl, rfl, fun out hout => ⟨f out, modifyOut_self hout, hf out⟩⟩

theorem Retouched.of_streams (houts : s'.outs = s.outs) (hins : s'.ins = s.ins) (hmood : s'.mood = s.mood)
    (hplay : s'.playback = s.playback) (hcap : s'.capture = s.capture) (hact : s'.activeInput = s.activeInput) :
    Retouched a s s' :=
  ⟨⟨hmood, hins, fun p _ => congrFun houts p⟩, hplay, hcap, hact,
    fun out hout => ⟨out, (congrFun houts a).trans hout, rfl, Or.inl rfl⟩⟩

theorem Retouched.released (h : Retouched a s s') (hout : s.outs a = some out)
    (hreleased : ReleasedStandby s) : ReleasedStandby s' := by
  obtain ⟨out', hout', hstat, hrel⟩ := h.out out hout
  refine hreleased.onlyOut h.only hout' ?_
  intro htrue
  rcases hrel with hsame | hused
  · rw [hstat]
    exact hreleased.outs a out hout (hsame.symm.trans htrue)
  · rw [hused] at htrue
    cases htrue

theorem Retouched.used (h : Retouched a s s') (hused : PlaybackUsed s ∧ CaptureUsed s) :
    PlaybackUsed s' ∧ CaptureUsed s' := by
  refine ⟨?_, hused.2.congr h.capture h.only.ins⟩
  intro hrouted
  rw [h.playback] at hrouted
  obtain ⟨p, out, hout, hstat⟩ := hused.1 hrouted
  rcases eq_or_ne p a with rfl | hne
  · obtain ⟨out', hout', hsame, -⟩ := h.out out hout
    exact ⟨p, out', hout', hsame ▸ hstat⟩
  · exact ⟨p, out, (h.only.outs p hne).trans hout, hstat⟩

theorem chooseForce_retouched (h : s.chooseForce env a out devices = some s') : Retouched a s s' := by
  have hforce : Retouched a s (s.modifyOut a fun out => { out with force := .nonForceRoute }) :=
    .modifyOut s a fun _ => ⟨rfl, Or.inl rfl⟩
  unfold State.chooseForce at h
  dsimp only at h
  split at h
  · cases h
    exact hforce.trans (.modifyOut _ a fun _ => ⟨rfl, Or.inl rfl⟩)
  · split at h
    · obtain ⟨both, -, h⟩ := unbind h
      have hboth : Retouched a s ((s.modifyOut a fun out => { out with force := .nonForceRoute }).markCallDrive a
          both) := by
        unfold State.markCallDrive
        split
        · exact hforce.trans (.modifyOut _ a fun _ => ⟨rfl, Or.inl rfl⟩)
        · exact hforce
      split at h
      · cases h
        exact hboth.trans (.of_streams rfl rfl rfl rfl rfl rfl)
      · cases h
        exact hboth
    · cases h
      exact hforce.trans (.of_streams rfl rfl rfl rfl rfl rfl)

theorem chooseForce_callDrive {out forced : StreamOut} (hquiet : s.Quiet)
    (h : s.chooseForce env a out devices = some s') (hforced : s'.outs a = some forced)
    (hforce : forced.force = .callDrive) : s.isActiveUsageCPCall env = true := by
  have hself : ∀ {t : State} {f : StreamOut → StreamOut}, (t.modifyOut a f).outs a = some forced →
      ∃ o, forced = f o := by
    intro t f ht
    rw [modifyOut_outs, update_self] at ht
    obtain ⟨o, -, rfl⟩ := map_eq_some_iff.mp ht
    exact ⟨o, rfl⟩
  unfold State.chooseForce at h
  dsimp only at h
  split at h
  · cases h
    obtain ⟨o, rfl⟩ := hself hforced
    cases hforce
  · split at h
    · obtain ⟨both, hboth, h⟩ := unbind h
      have hmarked : both := by
        cases both with
        | true => rfl
        | false =>
          split at h
          · cases h
            obtain ⟨o, rfl⟩ := hself hforced
            cases hforce
          · cases h
            obtain ⟨o, rfl⟩ := hself hforced
            cases hforce
      rw [hmarked] at hboth
      unfold State.drivesBoth at hboth
      split at hboth
      · rename_i hcall
        have hcp : (s.modifyOut a fun out => { out with force := .nonForceRoute }).isCPCallMode = false := hquiet.cpCall
        rw [hcp, Bool.false_or] at hcall
        exact hcall
      · have hap : (s.modifyOut a fun out => { out with force := .nonForceRoute }).isAPCallMode = false := hquiet.apCall
        rw [hap] at hboth
        cases hboth
    · cases h
      obtain ⟨o, rfl⟩ := hself hforced
      cases hforce

theorem captureUsed_setRoutePlayback {force : Force} (hquiet : s.Quiet)
    (hforce : force = .callDrive → s.isActiveUsageCPCall env = true) (hused : CaptureUsed s)
    (h : s.setRoutePlayback b env a true force = some s') : CaptureUsed s' := by
  have hrerouted := (State.setRoutePlayback_rerouted h).sameStreams
  by_cases hdrive : force = .callDrive
  · obtain ⟨out, -, h⟩ := unbind h
    obtain ⟨captureSet, hset, h⟩ := unbind h
    obtain ⟨new, -, h⟩ := unbind h
    split at h
    · cases h
      exact hused
    · split at h
      · rename_i hdrives
        rw [if_pos hdrives] at hset
        -- the active input is looked at, since the call has to be ended
        have hact : captureSet → ∃ p input, s.ins p = some input ∧ input.streamStatus ≠ .standby := by
          rintro rfl
          simp only [State.captureSet, hquiet.apCall, hquiet.cpCall, hforce hdrive, Bool.not_false, Bool.and_self,
            Bool.false_or, if_true] at hset
          obtain ⟨input, hinput, hset⟩ := unbind hset
          split at hset
          · cases hset
          · rename_i hstat
            unfold State.activeIn at hinput
            split at hinput
            · cases hinput
              exact absurd rfl hstat
            · rename_i p _
              obtain ⟨input', hinput', rfl⟩ := map_eq_some_iff.mp hinput
              refine ⟨p, input', hinput', ?_⟩
              intro hstby
              apply hstat
              rw [Option.any_some, hstby]
              rfl
        intro hrouted
        suffices huser : ∃ p input, s.ins p = some input ∧ input.streamStatus ≠ .standby by
          obtain ⟨p, input, hinput, hstat⟩ := huser
          exact ⟨p, input, (congrFun hrerouted.ins_eq p).trans hinput, Or.inl hstat⟩
        cases captureSet with
        | true => exact hact rfl
        | false =>
          cases h
          have huse := (Path.isRouted_unroute hrouted).2
          exact exists_active_of_captureCount (s := s) (of_decide_eq_true huse)
      · cases h
        exact hused.congr rfl rfl
  · exact hused.congr (State.setRoutePlayback_capture hdrive h) hrerouted.ins_eq

theorem captureUsed_routeAs {force : Force} (hquiet : s.Quiet)
    (hforce : force = .callDrive → s.isActiveUsageCPCall env = true) (hused : CaptureUsed s)
    (h : s.routeAs b env a devices force = some s') : CaptureUsed s' := by
  obtain ⟨out, -, h⟩ := unbind h
  obtain ⟨routed, hrouted, h⟩ := unbind h
  cases h
  have hdevs : CaptureUsed (s.modifyOut a fun out => { out with requestedDevices := devices }) := hused.congr rfl rfl
  have hcap := captureUsed_setRoutePlayback (s := s.modifyOut a fun out => { out with requestedDevices := devices })
    hquiet hforce hdevs hrouted
  exact hcap.congr rfl rfl

variable {volume : Option Bool}

theorem outRoute_used (hquiet : s.Quiet)
    (huser : ∃ p out, s.outs p = some out ∧ out.streamStatus ≠ .standby) (hused : PlaybackUsed s ∧ CaptureUsed s)
    (h : s.outRoute b env a out devices volume = some s') : PlaybackUsed s' ∧ CaptureUsed s' := by
  obtain ⟨chosen, hchosen, h⟩ := unbind h
  obtain ⟨forced, hforced, h⟩ := unbind h
  obtain ⟨routed, hrouted, h⟩ := unbind h
  cases h
  have hdrive := chooseForce_callDrive hquiet hchosen hforced
  have htouched : Retouched a s { chosen with voiceVolumeZero := volume.getD chosen.voiceVolumeZero } :=
    (chooseForce_retouched hchosen).trans (.of_streams rfl rfl rfl rfl rfl rfl)
  have hcap := (htouched.used hused).2
  have hcalls : State.isActiveUsageCPCall { chosen with voiceVolumeZero := volume.getD chosen.voiceVolumeZero } env =
      s.isActiveUsageCPCall env := by
    rw [State.isActiveUsageCPCall, State.isActiveUsageCPCall, htouched.playback, htouched.capture]
  -- the user is there with its status
  have hkeeps : ∃ p out, chosen.outs p = some out ∧ out.streamStatus ≠ .standby := by
    obtain ⟨p, user, huser, hstat⟩ := huser
    rcases eq_or_ne p a with rfl | hne
    · obtain ⟨out', hout', hsame, -⟩ := htouched.out user huser
      exact ⟨p, out', hout', hsame ▸ hstat⟩
    · exact ⟨p, user, (htouched.only.outs p hne).trans huser, hstat⟩
  have hvolQuiet : State.Quiet { chosen with voiceVolumeZero := volume.getD chosen.voiceVolumeZero } :=
    htouched.only.mood.trans hquiet
  generalize htouchedState : { chosen with voiceVolumeZero := volume.getD chosen.voiceVolumeZero } = touched at *
  have houts : touched.outs = chosen.outs := by rw [← htouchedState]
  rw [hcalls.symm] at hdrive
  unfold State.outRoutePath at hrouted
  simp only [hvolQuiet.callMode, false_eq_true, and_false, if_false] at hrouted
  have hspec : routed.mood = touched.mood ∧ routed.outs = touched.outs ∧ CaptureUsed routed := by
    split at hrouted
    · have hsame := (State.routeAs_rerouted hrouted).sameStreams
      exact ⟨hsame.mood, hsame.outs_eq, captureUsed_routeAs hvolQuiet hdrive hcap hrouted⟩
    · have hsame := (State.setRoutePlayback_rerouted hrouted).sameStreams
      exact ⟨hsame.mood, hsame.outs_eq, captureUsed_setRoutePlayback hvolQuiet hdrive hcap hrouted⟩
  have hroutedQuiet : routed.Quiet := hspec.1.trans hvolQuiet
  have hidle : routed.startCallIfNeeded a out = routed := by
    unfold State.startCallIfNeeded
    rw [hroutedQuiet.cpCall, if_neg]
    rintro ⟨-, hcp⟩
    cases hcp
  rw [hidle]
  refine ⟨fun _ => ?_, hspec.2.2⟩
  rw [hspec.2.1, houts]
  exact hkeeps

theorem outRoute_released {out current : StreamOut} (hrel : ReleasedStandby s)
    (hout : s.outs a = some current) (h : s.outRoute b env a out devices volume = some s') :
    ReleasedStandby s' ∧ s'.mood = s.mood := by
  obtain ⟨chosen, hchosen, h⟩ := unbind h
  obtain ⟨forced, -, h⟩ := unbind h
  obtain ⟨routed, hrouted, h⟩ := unbind h
  cases h
  have htouched : Retouched a s { chosen with voiceVolumeZero := volume.getD chosen.voiceVolumeZero } :=
    (chooseForce_retouched hchosen).trans (.of_streams rfl rfl rfl rfl rfl rfl)
  have hupdated := State.outRoutePath_updated hrouted
  have hstarted := State.startCallIfNeeded_sameStreams b routed a out
  exact ⟨((htouched.released hout hrel).callUpdated hupdated).congr hstarted.outs_eq hstarted.ins_eq,
    (hstarted.mood.trans hupdated.mood).trans htouched.only.mood⟩

theorem RouteInv.outSetRouting (h : RouteInv s)
    (hok : RoutesUsed b s (.outSetRouting a devices volume, env)) (hs : s.outSetRouting b env a devices volume =
      some s') :
    RouteInv s' := by
  have hkept : Kept b s s' := (Kept.steady s).outSetRouting (.refl s) hs
  obtain ⟨out, hout, hs⟩ := unbind hs
  have hused : Retouched a s (s.useOut a) := .modifyOut s a fun _ => ⟨rfl, Or.inr rfl⟩
  have hdevs : ∀ devices : Devices,
      Retouched a s ((s.useOut a).modifyOut a fun out => { out with requestedDevices := devices }) :=
    fun _ => hused.trans (.modifyOut _ a fun _ => ⟨rfl, Or.inl rfl⟩)
  have hself : ∀ devices : Devices, ((s.useOut a).modifyOut a fun out => { out with requestedDevices := devices }).outs
    a =
      some { out with released := false, requestedDevices := devices } :=
    fun _ => modifyOut_self (modifyOut_self hout)
  have htouched : ∀ {t : State}, Retouched a s t → Kept b s t → RouteInv t := by
    intro t ht htkept
    exact h.kept htkept (ht.released hout h.released) fun hquiet => ht.used (h.used (ht.only.mood.symm.trans hquiet))
  dsimp only at hs
  split at hs
  · split at hs
    · rename_i hneed
      obtain ⟨hrel, hmood⟩ := outRoute_released ((hdevs devices).released hout h.released) (hself devices) hs
      refine h.kept hkept hrel ?_
      intro hquiet
      replace hquiet : s.Quiet := (hmood.trans (hdevs devices).only.mood).symm.trans hquiet
      have hdevsUsed := (hdevs devices).used (h.used hquiet)
      refine outRoute_used ((hdevs devices).only.mood.trans hquiet) ?_ hdevsUsed hs
      -- the path is routed already or the stream is active
      have hcall : (s.useOut a).isCallMode = false := hquiet.callMode
      have hwhy : s.playback.isRouted ∨ out.streamStatus ≠ .standby := by
        simp only [State.outNeedRouting, hcall, Bool.and_false, Bool.or_false, Bool.or_eq_true, and_eq_true,
          beq_iff_eq, bne_iff_ne] at hneed
        rcases hneed with (hboth | hrouted) | hact
        · rcases hok hquiet hboth.1 hboth.2 with hrouted | hact
          · exact Or.inl hrouted
          · rw [hout, Option.any_some, bne_iff_ne] at hact
            exact Or.inr hact
        · exact Or.inl hrouted
        · exact Or.inr hact
      rcases hwhy with hrouted | hact
      · exact hdevsUsed.1 hrouted
      · exact ⟨a, _, hself devices, hact⟩
    · split at hs
      · cases hs
        exact htouched ((hdevs devices).trans (.of_streams rfl rfl rfl rfl rfl rfl)) hkept
      · cases hs
        exact htouched (hdevs devices) hkept
  · split at hs
    · rename_i husb
      have hsame := (State.setRoutePlayback_rerouted hs).sameStreams
      have hrel := (hdevs outSpeaker).released hout h.released
      refine h.kept hkept (hrel.congr hsame.outs_eq hsame.ins_eq) ?_
      intro hquiet
      replace hquiet : s.Quiet := (hsame.mood.trans (hdevs outSpeaker).only.mood).symm.trans hquiet
      have hcap := ((hdevs outSpeaker).used (h.used hquiet)).2
      refine ⟨fun _ => ?_, hcap.congr (State.setRoutePlayback_capture (by decide) hs) hsame.ins_eq⟩
      rw [hsame.outs_eq]
      exact ⟨a, _, hself outSpeaker, husb.2.1⟩
    · cases hs
      exact htouched hused hkept

end

end ExynosHal.Audio
