import ExynosHal.Audio.Steady

/-! # What the entry points keep

Apart from opening and closing, no entry point changes which streams there are, and none
changes a route but by moves with the modifiers of the moment.
-/

namespace ExynosHal.Audio
open Library.Run (unbind)
open Relation
open Option (isSome_map)

structure Kept (b : Build) (s s' : State) : Prop where
  playbackList : s'.playbackList = s.playbackList
  captureList : s'.captureList = s.captureList
  primaryOutput : s'.primaryOutput = s.primaryOutput
  fastOutput : s'.fastOutput = s.fastOutput
  compressOutput : s'.compressOutput = s.compressOutput
  outs : ∀ p, (s'.outs p).isSome = (s.outs p).isSome
  ins : ∀ p, (s'.ins p).isSome = (s.ins p).isSome
  activeInput : s'.activeInput = s.activeInput ∨ ∀ p ∈ s'.activeInput, (s.ins p).isSome
  rate : s'.rate = s.rate
  playback : ReflTransGen (Path.Moves (s.getModifier b)) s.playback s'.playback
  capture : ReflTransGen (Path.Moves (s.getModifier b)) s.capture s'.capture

section
variable {b : Build} {env : Env} {s s' s'' : State} {a : Addr}

theorem Kept.of_core (h : s'.core = s.core) : Kept b s s' := by
  simp only [State.core, Prod.mk.injEq] at h
  obtain ⟨⟨houts, hins⟩, ⟨hplayList, hcapList⟩, ⟨hprim, hfast, hcompr, hact⟩, ⟨hplay, hcap⟩, hrate⟩ := h
  refine ⟨hplayList, hcapList, hprim, hfast, hcompr, ?_, ?_, Or.inl hact, hrate, ?_, ?_⟩
  · intro p
    rw [houts]
  · intro p
    rw [hins]
  · rw [hplay]
  · rw [hcap]

theorem Kept.refl (s : State) : Kept b s s := of_core rfl

theorem Kept.trans (h : Kept b s s') (h' : Kept b s' s'') : Kept b s s'' where
  playbackList := h'.playbackList.trans h.playbackList
  captureList := h'.captureList.trans h.captureList
  primaryOutput := h'.primaryOutput.trans h.primaryOutput
  fastOutput := h'.fastOutput.trans h.fastOutput
  compressOutput := h'.compressOutput.trans h.compressOutput
  outs p := (h'.outs p).trans (h.outs p)
  ins p := (h'.ins p).trans (h.ins p)
  activeInput := by
    rcases h'.activeInput with hsame | hlive
    · rw [hsame]
      exact h.activeInput
    · exact Or.inr fun p hp => (h.ins p).symm.trans (hlive p hp)
  rate := h'.rate.trans h.rate
  playback := h.playback.trans (getModifier_congr (b := b) h.rate ▸ h'.playback)
  capture := h.capture.trans (getModifier_congr (b := b) h.rate ▸ h'.capture)

theorem Kept.congr_left {t : State} (h : Kept b t s') (hcore : t.core = s.core) : Kept b s s' := (of_core hcore).trans h

theorem Kept.modifyOut (s : State) (a : Addr) (f : StreamOut → StreamOut) : Kept b s (s.modifyOut a f) := by
  refine ⟨rfl, rfl, rfl, rfl, rfl, ?_, fun _ => rfl, Or.inl rfl, rfl, .refl, .refl⟩
  intro p
  rw [State.modifyOut_outs]
  rcases eq_or_ne p a with rfl | hne
  · rw [Function.update_self, isSome_map]
  · rw [Function.update_of_ne hne]

theorem Kept.modifyIn (s : State) (a : Addr) (f : StreamIn → StreamIn) : Kept b s (s.modifyIn a f) := by
  refine ⟨rfl, rfl, rfl, rfl, rfl, fun _ => rfl, ?_, Or.inl rfl, rfl, .refl, .refl⟩
  intro p
  rw [State.modifyIn_ins]
  rcases eq_or_ne p a with rfl | hne
  · rw [Function.update_self, isSome_map]
  · rw [Function.update_of_ne hne]

theorem Kept.updateStreams (s : State) (env : Env) (changed : Bool) : Kept b s (s.updateStreams env changed) := by
  refine ⟨rfl, rfl, rfl, rfl, rfl, ?_, ?_, Or.inl rfl, rfl, .refl, .refl⟩
  · intro p
    unfold State.updateStreams
    dsimp only
    split
    · rw [isSome_map]
    · rfl
  · intro p
    unfold State.updateStreams
    dsimp only
    split
    · rw [isSome_map]
    · rfl

theorem SameStreams.kept (h : SameStreams b s s') : Kept b s s' := by
  obtain ⟨p, c, v, running, on, rfl, hrate, hp, hc⟩ := h
  exact ⟨rfl, rfl, rfl, rfl, rfl, fun _ => rfl, fun _ => rfl, Or.inl rfl, hrate, hp, hc⟩

theorem Rerouted.kept (h : Rerouted b s s') : Kept b s s' := h.sameStreams.kept

theorem CallUpdated.kept (h : CallUpdated b env s s') : Kept b s s' := by
  rcases h with h | ⟨changed, h⟩
  · exact h.kept
  · exact (Kept.updateStreams s env changed).trans h.kept

theorem Kept.setRoutePlayback {set : Bool} {force : Force} (h : s.setRoutePlayback b env a set force = some s') :
    Kept b s s' :=
  (State.setRoutePlayback_rerouted h).kept

theorem Kept.setRouteCapture {set : Bool} {force : Force} (h : s.setRouteCapture b env a set force = some s') :
    Kept b s s' :=
  (State.setRouteCapture_rerouted h).kept

theorem Kept.steady (s : State) : Steady b (Kept b s) where
  core h hcore _ := h.trans (.of_core hcore)
  routed h hs := h.trans hs.kept
  updated h env changed := h.trans (.updateStreams _ env changed)
  touchOut h a _ _ := h.trans (.modifyOut _ a _)
  touchIn h a _ _ := h.trans (.modifyIn _ a _)
  stopped h a := h.trans (.modifyIn _ a _)

end

section
variable {b : Build} {env : Env} {s s' : State} {a : Addr}

theorem Kept.proxyOpenPlayback (s : State) (env : Env) (a : Addr) : Kept b s (s.proxyOpenPlayback env a) := by
  unfold State.proxyOpenPlayback
  dsimp only
  split
  · exact (Kept.modifyOut _ a _).congr_left rfl
  · exact .of_core rfl

theorem Kept.writeData {data : Bool} (h : s.writeData env a data = some s') : Kept b s s' := by
  obtain ⟨out, -, h⟩ := unbind h
  dsimp only at h
  split at h
  · split at h
    · split at h
      · cases h
        exact (Kept.modifyOut _ a _).congr_left rfl
      · cases h
        exact .of_core rfl
    · cases h
      exact .of_core rfl
  · cases h
    exact .refl s

theorem Kept.outWrite {data : Bool} (h : s.outWrite b env a data = some s') : Kept b s s' := by
  obtain ⟨out, -, h⟩ := unbind h
  have hused : Kept b s (s.useOut a) := .modifyOut s a _
  split at h
  · obtain ⟨routed, hrouted, h⟩ := unbind h
    have hready : Kept b (s.useOut a) ((s.useOut a).setOutStatus a .ready) := .modifyOut _ a _
    have hopened : Kept b s (routed.proxyOpenPlayback env a) :=
      ((hused.trans hready).trans (State.routeForWrite_sameStreams hrouted).kept).trans
        (.proxyOpenPlayback routed env a)
    dsimp only at h
    split at h
    · have hidle : Kept b _ ((routed.proxyOpenPlayback env a).setOutStatus a .idle) := .modifyOut _ a _
      exact (hopened.trans hidle).trans (.writeData h)
    · cases h
      exact hopened
  · exact hused.trans (.writeData h)

theorem Kept.outStandby (h : s.outStandby b env a = some s') : Kept b s s' := by
  obtain ⟨out, -, ⟨-, rfl⟩ | ⟨-, unrouted, hunrouted, rfl⟩⟩ := State.outStandby_cases h
  · exact .modifyOut s a _
  · have hclosed : Kept b s (s.closedOut a) :=
      ((Kept.modifyOut s a _).trans (.modifyOut _ a _)).trans (.modifyOut _ a _)
    exact (hclosed.trans (State.unrouteForStandby_updated hunrouted).kept).trans (.modifyOut _ a _)

theorem Kept.setStatusIf {c : StreamOut → Prop} [∀ out, Decidable (c out)] {status : Status}
    (h : ((s.outs a).bind fun out => if c out then some (s.setOutStatus a status) else some s) = some s') :
    Kept b s s' := by
  obtain ⟨out, -, h⟩ := unbind h
  split at h
  · cases h
    exact .modifyOut s a _
  · cases h
    exact .refl s

theorem Kept.outStart (h : s.outStart env a = some s') : Kept b s s' := by
  obtain ⟨out, -, h⟩ := unbind h
  dsimp only at h
  split at h
  · split at h
    · cases h
      exact (Kept.modifyOut _ a _).congr_left rfl
    · cases h
      exact .of_core rfl
  · cases h
    exact .refl s

theorem Kept.outCreateMmapBuffer {valid : Bool} (h : s.outCreateMmapBuffer b env a valid = some s') : Kept b s s' := by
  obtain ⟨out, -, h⟩ := unbind h
  split at h
  · obtain ⟨routed, hrouted, h⟩ := unbind h
    cases h
    have hready : Kept b s ((s.useOut a).setOutStatus a .ready) := (Kept.modifyOut s a _).trans (.modifyOut _ a _)
    have hrouted : Kept b s routed := by
      split at hrouted
      · cases hrouted
        exact hready
      · exact hready.trans (.setRoutePlayback hrouted)
    exact (hrouted.trans (.proxyOpenPlayback routed env a)).trans (.modifyOut _ a _)
  · cases h
    exact .refl s

end

section
variable {b : Build} {env : Env} {s s' : State} {a : Addr}

theorem Kept.proxyOpenCapture (s : State) (env : Env) (a : Addr) : Kept b s (s.proxyOpenCapture env a) := by
  unfold State.proxyOpenCapture
  dsimp only
  split
  · exact (Kept.modifyIn _ a _).congr_left rfl
  · exact .of_core rfl

theorem Kept.stopForReconfig (s : State) (a : Addr) (input : StreamIn) : Kept b s (s.stopForReconfig a input) := by
  unfold State.stopForReconfig
  split
  · exact (Kept.modifyIn s a _).trans (.modifyIn _ a _)
  · exact .refl s

theorem Kept.reconfigForRead {input : StreamIn} (h : s.reconfigForRead b env a input = some s') : Kept b s s' := by
  obtain ⟨t, hsame, rfl | ⟨usage, -, type, -, rfl⟩⟩ := State.reconfigForRead_spec h
  · exact hsame.kept
  · exact hsame.kept.trans (.modifyIn t a _)

theorem Kept.readData {data : Bool} (h : s.readData env a data = some s') : Kept b s s' := by
  obtain ⟨input, -, h⟩ := unbind h
  split at h
  · cases h
    exact .of_core rfl
  · have hstarted : Kept b s (s.startReading a input) := by
      unfold State.startReading
      split
      · exact (Kept.modifyIn _ a _).congr_left rfl
      · exact .refl s
    dsimp only at h
    split at h
    · cases h
      exact hstarted.trans (.of_core rfl)
    · cases h
      exact hstarted

theorem Kept.setActiveInput (h : Kept b s s') (hlive : (s'.ins a).isSome) :
    Kept b s { s' with activeInput := some a } where
  playbackList := h.playbackList
  captureList := h.captureList
  primaryOutput := h.primaryOutput
  fastOutput := h.fastOutput
  compressOutput := h.compressOutput
  outs := h.outs
  ins := h.ins
  activeInput := by
    refine Or.inr ?_
    intro p hp
    cases hp
    exact (h.ins a).symm.trans hlive
  rate := h.rate
  playback := h.playback
  capture := h.capture

theorem Kept.clearActiveInput (h : Kept b s s') : Kept b s { s' with activeInput := none } where
  playbackList := h.playbackList
  captureList := h.captureList
  primaryOutput := h.primaryOutput
  fastOutput := h.fastOutput
  compressOutput := h.compressOutput
  outs := h.outs
  ins := h.ins
  activeInput := by
    refine Or.inr ?_
    intro p hp
    cases hp
  rate := h.rate
  playback := h.playback
  capture := h.capture

theorem Kept.inRead {data : Bool} (h : s.inRead b env a data = some s') : Kept b s s' := by
  obtain ⟨input, hinput, h⟩ := unbind h
  obtain ⟨input', hinput', h⟩ := unbind h
  have hstopped : Kept b s ((s.useIn a).stopForReconfig a input) :=
    (Kept.modifyIn s a _).trans (.stopForReconfig _ a input)
  split at h
  · obtain ⟨configured, hcfg, h⟩ := unbind h
    obtain ⟨routed, hrouted, h⟩ := unbind h
    have hready : Kept b s (((s.useIn a).stopForReconfig a input).setInStatus a .ready) :=
      hstopped.trans (.modifyIn _ a _)
    have hcfg := hready.trans (.reconfigForRead hcfg)
    have hlive : (configured.ins a).isSome := by
      rw [hcfg.ins, hinput]
      rfl
    have hrouted := (hcfg.setActiveInput hlive).trans (State.routeForRead_rerouted hrouted).kept
    have hopened := hrouted.trans (.proxyOpenCapture routed env a)
    dsimp only at h
    split at h
    · have hidle : Kept b s ((routed.proxyOpenCapture env a).setInStatus a .idle) := hopened.trans (.modifyIn _ a _)
      exact hidle.trans (.readData h)
    · cases h
      exact hopened
  · exact hstopped.trans (.readData h)

theorem Kept.inStandby (h : s.inStandby b env a = some s') : Kept b s s' := by
  obtain ⟨input, -, ⟨-, rfl⟩ | ⟨-, unrouted, hunrouted, rfl⟩⟩ := State.inStandby_cases h
  · exact .modifyIn s a _
  · have hclosed : Kept b s (s.closedIn a) := ((Kept.modifyIn s a _).trans (.modifyIn _ a _)).trans (.modifyIn _ a _)
    exact (hclosed.trans (State.unrouteForInStandby_rerouted hunrouted).kept).clearActiveInput

theorem Kept.inStop (h : s.inStop a = some s') : Kept b s s' := by
  obtain ⟨input, -, h⟩ := unbind h
  split at h
  · cases h
    exact .modifyIn s a _
  · cases h
    exact .refl s

theorem Kept.inStart (h : s.inStart env a = some s') : Kept b s s' := by
  obtain ⟨input, -, h⟩ := unbind h
  dsimp only at h
  split at h
  · split at h
    · cases h
      exact (Kept.modifyIn _ a _).congr_left rfl
    · cases h
      exact .of_core rfl
  · cases h
    exact .refl s

theorem Kept.inCreateMmapBuffer {valid : Bool} (h : s.inCreateMmapBuffer b env a valid = some s') : Kept b s s' := by
  obtain ⟨input, -, h⟩ := unbind h
  split at h
  · obtain ⟨routed, hrouted, h⟩ := unbind h
    cases h
    have hready : Kept b s ((s.useIn a).setInStatus a .ready) := (Kept.modifyIn s a _).trans (.modifyIn _ a _)
    have hrouted : Kept b s routed := by
      split at hrouted
      · cases hrouted
        exact hready
      · exact hready.trans (.setRouteCapture hrouted)
    exact (hrouted.trans (.proxyOpenCapture routed env a)).trans (.modifyIn _ a _)
  · cases h
    exact .refl s

end

def Op.keeps : Op → Bool
  | .openOutput .. | .closeOutput .. | .openInput .. | .closeInput .. => false
  | .setParameters (.btScoWb _) => false
  | _ => true

theorem step_kept {b : Build} {env : Env} {s s' : State} {op : Op} (hkeeps : op.keeps)
    (h : step b s (op, env) = some s') : Kept b s s' := by
  by_cases hsteers : op.steers
  · exact (Kept.steady s).step (.refl s) hsteers h
  · cases op with
    | outWrite a data => exact .outWrite h
    | outStandby a => exact .outStandby h
    | outPause a | outResume a | outFlush a | outStop a => exact .setStatusIf h
    | outStart a => exact .outStart h
    | outCreateMmapBuffer a valid => exact .outCreateMmapBuffer h
    | inRead a data => exact .inRead h
    | inStandby a => exact .inStandby h
    | inStart a => exact .inStart h
    | inStop a => exact .inStop h
    | inCreateMmapBuffer a valid => exact .inCreateMmapBuffer h
    | openOutput | closeOutput | openInput | closeInput => cases hkeeps
    | setParameters param =>
      cases param with
      | btScoWb on => cases hkeeps
      | _ => exact absurd rfl hsteers
    | _ => exact absurd rfl hsteers

end ExynosHal.Audio
